import AiriesUps.Hid.Items
import AiriesUps.Lib.Layout

set_option autoImplicit false

namespace AiriesUps.Hid

open PackedBits (Byte)

-- The bit counters are kept for each report id and type.
def HidField.inReport (field : HidField) (id : Byte) (type : FieldType) : Bool :=
  decide (field.reportId = id ∧ field.type = type)

def Declaration.inReport (declaration : Declaration) (id : Byte) (type : FieldType) : Bool :=
  decide (declaration.reportId = id ∧ declaration.type = type)

def HidField.range (field : HidField) : Layout.Range :=
  { start := field.bitOffset.toNat, size := field.bitSize.toNat }

def reportFields (map : ReportMap) (id : Byte) (type : FieldType) : List HidField :=
  map.filter fun field => field.inReport id type

def fieldRanges (map : ReportMap) (id : Byte) (type : FieldType) : List Layout.Range :=
  (reportFields map id type).map HidField.range

def fieldSizes (map : ReportMap) (id : Byte) (type : FieldType) : List Nat :=
  (reportFields map id type).map fun field => field.bitSize.toNat

-- The declared report sizes of the fields that the table has room for.
def declaredSizes (desc : List Byte) (id : Byte) (type : FieldType) : List Nat :=
  (((declarations desc).take hidMaxFields).filter fun declaration => declaration.inReport id type).map
    fun declaration => declaration.reportSize.toNat

-- Every report's fields lie where its counter put them, and the counter stands at their end.
def Laid (map : ReportMap) (offsets : Byte → FieldType → BitVec 16) : Prop :=
  ∀ id type, fieldRanges map id type = Layout.place 16 0 (fieldSizes map id type) ∧
    offsets id type = Layout.counterAfter 16 0 (fieldSizes map id type)

theorem report_fields_own (map : ReportMap) (field : HidField) :
    reportFields (map ++ [field]) field.reportId field.type =
      reportFields map field.reportId field.type ++ [field] := by
  have own : field.inReport field.reportId field.type = true := decide_eq_true ⟨rfl, rfl⟩
  have kept : [field].filter (fun other => other.inReport field.reportId field.type) = [field] :=
    List.filter_cons_of_pos own
  rw [reportFields, List.filter_append, kept]
  rfl

theorem report_fields_foreign (map : ReportMap) (field : HidField) (id : Byte) (type : FieldType)
    (foreign : ¬(field.reportId = id ∧ field.type = type)) :
    reportFields (map ++ [field]) id type = reportFields map id type := by
  have skipped : [field].filter (fun field => field.inReport id type) = [] :=
    List.filter_cons_of_neg (by simpa [HidField.inReport] using foreign)
  rw [reportFields, List.filter_append, skipped, List.append_nil]
  rfl

theorem emit_field_laid (state : ParserState) (type : FieldType) (index : Nat)
    (_room : state.map.length < hidMaxFields) (laid : Laid state.map state.bitOffsets) :
    Laid (state.emitField type index).map (state.emitField type index).bitOffsets := by
  intro id other
  obtain ⟨placed, counted⟩ := laid id other
  by_cases same : state.reportId = id ∧ type = other
  · obtain ⟨rfl, rfl⟩ := same
    have grown : reportFields (state.emitField type index).map state.reportId type =
        reportFields state.map state.reportId type ++ [state.makeField type (state.usageOf index)] :=
      report_fields_own state.map (state.makeField type (state.usageOf index))
    have size : BitVec.ofNat 16 (state.reportSize.setWidth 16).toNat = state.reportSize.setWidth 16 :=
      BitVec.ofNat_toNat _ _
    rw [fieldRanges, fieldSizes, grown, List.map_append, List.map_append, Layout.place_append,
      Layout.counter_after_append]
    rw [fieldSizes] at counted
    refine ⟨congrArg₂ List.append placed ?_, ?_⟩
    · rw [← counted]
      simp only [List.map_cons, List.map_nil, Layout.place, HidField.range, ParserState.makeField, size]
    · rw [← counted]
      simp only [List.map_cons, List.map_nil, Layout.counterAfter, List.foldl_cons, List.foldl_nil,
        ParserState.makeField, size]
      exact state.advance_offset_same type
  · have kept : reportFields (state.emitField type index).map id other = reportFields state.map id other :=
      report_fields_foreign state.map (state.makeField type (state.usageOf index)) id other same
    rw [fieldRanges, fieldSizes, kept]
    refine ⟨placed, Eq.trans ?_ counted⟩
    exact state.advance_offset_other type id other same

theorem parsed_laid (desc : List Byte) (id : Byte) (type : FieldType) :
    fieldRanges (hidParseDescriptor desc) id type =
      Layout.place 16 0 (fieldSizes (hidParseDescriptor desc) id type) := by
  have laid : ∀ (items : List Item) (state : ParserState), Laid state.map state.bitOffsets →
      Laid (items.foldl ParserState.consume state).map (items.foldl ParserState.consume state).bitOffsets := by
    intro items
    induction items with
    | nil => exact fun _ held => held
    | cons item rest ih =>
      exact fun state held => ih _ (state.item_recorded Laid emit_field_laid _ _ _ held)
  rw [parsed_items]
  exact (laid (descriptorItems desc) ParserState.initial (fun _ _ => ⟨rfl, rfl⟩) id type).1

theorem field_sizes_declared (desc : List Byte) (id : Byte) (type : FieldType) :
    (fieldSizes (hidParseDescriptor desc) id type).map (BitVec.ofNat 16) =
      (declaredSizes desc id type).map (BitVec.ofNat 16) := by
  have matching : Relator.LiftFun (Records (ShallowNest desc) (FewUsages desc)) (· ↔ ·)
      (fun field => (field.inReport id type : Prop)) (fun declaration => (declaration.inReport id type : Prop)) := by
    intro field declaration records
    show field.inReport id type = true ↔ declaration.inReport id type = true
    rw [HidField.inReport, Declaration.inReport, records.reportId, records.type]
  have recorded := List.rel_filter matching (recorded_declared desc)
  rw [fieldSizes, declaredSizes, reportFields, List.map_map, List.map_map, ← List.forall₂_eq_eq_eq,
    List.forall₂_map_left_iff, List.forall₂_map_right_iff]
  refine recorded.imp fun field declaration records => ?_
  rw [Function.comp_apply, Function.comp_apply, BitVec.ofNat_toNat, records.size, BitVec.setWidth_eq,
    BitVec.ofNat_toNat]

-- What the fields recorded for a report are to be: bit ranges one after the
-- other from bit 0 on, no two in one another's way, of the sizes declared.
def LaidOut (desc : List Byte) (id : Byte) (type : FieldType) : Prop :=
  Layout.Consecutive 0 (fieldRanges (hidParseDescriptor desc) id type) ∧
    (fieldRanges (hidParseDescriptor desc) id type).Pairwise Layout.Range.Apart ∧
    (fieldRanges (hidParseDescriptor desc) id type).map Layout.Range.size = declaredSizes desc id type

-- The counters and the sizes are 16 bits wide, and no item is refused for what
-- they cannot hold.
theorem laid_out_iff (desc : List Byte) (id : Byte) (type : FieldType) :
    LaidOut desc id type ↔ Layout.Fits 16 0 (declaredSizes desc id type) := by
  rw [← Layout.place_consecutive_iff, LaidOut, parsed_laid,
    Layout.place_congr 16 0 _ _ (field_sizes_declared desc id type)]
  exact ⟨fun laid => ⟨laid.1, laid.2.2⟩, fun ⟨consecutive, sizes⟩ =>
    ⟨consecutive, Layout.consecutive_apart 0 _ consecutive, sizes⟩⟩

-- Report Size 32768, Report Count 3, Feature: the third field is back at bit 0.
theorem wrapped_fields_overlap :
    ¬LaidOut [0x76, 0x00, 0x80, 0x95, 0x03, 0xB1, 0x02] 0 .feature := by
  have overlap : ¬(fieldRanges (hidParseDescriptor [0x76, 0x00, 0x80, 0x95, 0x03, 0xB1, 0x02]) 0 .feature).Pairwise
      Layout.Range.Apart := by decide
  exact fun laid => overlap laid.2.1

end AiriesUps.Hid
