import AiriesUps.Hid.Nesting
import AiriesUps.Lib.Sequences

set_option autoImplicit false

namespace AiriesUps.Hid

open PackedBits (Byte)

namespace Declaration

def own (declaration : Declaration) : BitVec 32 := hidUp declaration.page declaration.usage

-- The path names the field's own usage last, and before it the innermost of the
-- collections around the field.
def named (declaration : Declaration) (path : List (BitVec 32)) (type : FieldType) : Bool :=
  decide (declaration.type = type ∧ path.getLast? = some declaration.own ∧ path.dropLast <:+ declaration.enclosing)

-- The path names the innermost collections around a field that has as many of
-- them as a path has room for.
def namedAsCollection (declaration : Declaration) (path : List (BitVec 32)) (type : FieldType) : Bool :=
  decide (declaration.type = type ∧ declaration.enclosing.length = hidMaxPath ∧ path <:+ declaration.enclosing)

-- What the search compares, for a declaration recorded with the room of a path.
def matched (declaration : Declaration) (path : List (BitVec 32)) (type : FieldType) : Bool :=
  if declaration.enclosing.length < hidMaxPath then declaration.named path type
  else declaration.namedAsCollection path type

end Declaration

theorem matched_or_named (declaration : Declaration) (path : List (BitVec 32)) (type : FieldType) :
    (declaration.matched path type || declaration.named path type) =
      (declaration.named path type || declaration.namedAsCollection path type) := by
  rw [Declaration.matched]
  by_cases below : declaration.enclosing.length < hidMaxPath
  · have short : declaration.namedAsCollection path type = false := decide_eq_false fun named => by omega
    rw [if_pos below, short, Bool.or_self, Bool.or_false]
  · rw [if_neg below, Bool.or_comm]

theorem matched_and_named (declaration : Declaration) (path : List (BitVec 32)) (type : FieldType) :
    (declaration.matched path type = true ∧ declaration.named path type = true) ↔
      declaration.named path type = true ∧
        (hidMaxPath ≤ declaration.enclosing.length → declaration.namedAsCollection path type = true) := by
  rw [Declaration.matched, and_comm]
  by_cases below : declaration.enclosing.length < hidMaxPath
  · rw [if_pos below]
    exact ⟨fun both => ⟨both.1, fun full => absurd full (Nat.not_le.mpr below)⟩, fun both => ⟨both.1, both.1⟩⟩
  · rw [if_neg below]
    exact ⟨fun both => ⟨both.1, fun _ => both.2⟩, fun both => ⟨both.1, both.2 (Nat.not_lt.mp below)⟩⟩

theorem suffix_concat_iff (path enclosing : List (BitVec 32)) (own : BitVec 32) (nonempty : path ≠ []) :
    path <:+ enclosing ++ [own] ↔ path.getLast? = some own ∧ path.dropLast <:+ enclosing := by
  obtain ⟨init, last, rfl⟩ := (path.eq_nil_or_concat).resolve_left nonempty
  rw [List.concat_eq_append, List.getLast?_concat, List.dropLast_concat, Option.some.injEq]
  refine ⟨fun ⟨outer, whole⟩ => ?_, fun ⟨same, outer, rest⟩ => ⟨outer, ?_⟩⟩
  · rw [← List.append_assoc] at whole
    obtain ⟨rest, same⟩ := List.append_inj' whole rfl
    exact ⟨List.singleton_inj.mp same, outer, rest⟩
  · rw [← List.append_assoc, rest, same]

theorem matches_path_iff (field : HidField) (path : List (BitVec 32)) (type : FieldType) :
    field.matchesPath path type = decide (field.type = type ∧ path <:+ field.usagePath) := by
  rw [HidField.matchesPath, ← Bool.decide_and, ← Bool.decide_and, decide_eq_decide, and_assoc,
    List.suffix_iff_eq_drop, eq_comm (a := path)]
  refine and_congr_right fun _ => and_iff_right_of_imp fun dropped => ?_
  rw [← dropped, List.length_drop]
  omega

theorem recorded_matches (shallow few : Prop) (field : HidField) (declaration : Declaration)
    (records : Records shallow few field declaration) (isShallow : shallow) (isFew : few) (path : List (BitVec 32))
    (nonempty : path ≠ []) (type : FieldType) : field.matchesPath path type = declaration.matched path type := by
  have own : hidUp field.usagePage field.usageId = declaration.own := by
    rw [Declaration.own, records.page, records.usage isFew]
  rw [matches_path_iff, records.type, records.path isShallow, own, Declaration.matched]
  by_cases below : declaration.enclosing.length < hidMaxPath
  · rw [if_pos below, Declaration.named, List.take_of_length_le, decide_eq_decide, suffix_concat_iff path _ _ nonempty]
    rw [List.length_append, List.length_singleton]
    exact below
  · have full : declaration.enclosing.length = hidMaxPath :=
      Nat.le_antisymm (records.depth isShallow) (Nat.not_lt.mp below)
    rw [if_neg below, Declaration.namedAsCollection, ← full, List.take_left, decide_eq_decide]
    exact and_congr_right fun _ => (and_iff_right rfl).symm

-- The first declared field that the path names in one of the two ways is named
-- in both, where it is as deep as a path is long.
def NamedAlike (desc : List Byte) (path : List (BitVec 32)) (type : FieldType) : Prop :=
  ∀ declaration, (declarations desc).find?
      (fun declaration => declaration.named path type || declaration.namedAsCollection path type) = some declaration →
    declaration.named path type = true ∧
      (hidMaxPath ≤ declaration.enclosing.length → declaration.namedAsCollection path type = true)

instance (desc : List Byte) (path : List (BitVec 32)) (type : FieldType) : Decidable (NamedAlike desc path type) :=
  inferInstanceAs (Decidable (∀ declaration ∈ (declarations desc).find? _, _))

theorem find_field_iff (desc : List Byte) (path : List (BitVec 32)) (type : FieldType) (shallow : ShallowNest desc)
    (few : FewUsages desc) (room : (declarations desc).length ≤ hidMaxFields) (nonempty : path ≠ []) :
    hidFindField (hidParseDescriptor desc) path type =
        (declarations desc).findIdx? (fun declaration => declaration.named path type) ↔
      NamedAlike desc path type := by
  have whole : (declarations desc).take hidMaxFields = declarations desc := List.take_of_length_le room
  have recorded := recorded_declared desc
  rw [whole] at recorded
  have searched : (hidParseDescriptor desc).map (fun field => field.matchesPath path type) =
      (declarations desc).map fun declaration => declaration.matched path type := by
    rw [← List.forall₂_eq_eq_eq, List.forall₂_map_left_iff, List.forall₂_map_right_iff]
    exact recorded.imp fun field declaration records =>
      recorded_matches _ _ field declaration records shallow few path nonempty type
  have found : hidFindField (hidParseDescriptor desc) path type =
      (declarations desc).findIdx? fun declaration => declaration.matched path type := by
    have mapped := congrArg (List.findIdx? id) searched
    rw [List.findIdx?_map, List.findIdx?_map] at mapped
    exact mapped
  rw [found, Sequences.find_index_same, NamedAlike]
  simp only [matched_or_named, matched_and_named]

def singlePath : List (BitVec 32) := [hidUp 0x84 0x30]

-- Usage Page Power, Usage Voltage, a one-byte Feature
def voltageField : List Byte := [0x05, 0x84, 0x09, 0x30, 0x75, 0x08, 0x95, 0x01, 0xB1, 0x02]

theorem voltage_found :
    hidFindField (hidParseDescriptor (enclosed 7 voltageField)) singlePath .feature =
      (declarations (enclosed 7 voltageField)).findIdx? fun declaration => declaration.named singlePath .feature :=
  (find_field_iff (enclosed 7 voltageField) singlePath .feature (by decide) (by decide) (by decide)
    (List.cons_ne_nil _ _)).mpr (by decide)

-- Eight collections deep the field's own usage is not in its path.
theorem deepest_field_not_found :
    WellNested (enclosed 8 voltageField) ∧ ShallowNest (enclosed 8 voltageField) ∧ FewUsages (enclosed 8 voltageField) ∧
      (declarations (enclosed 8 voltageField)).length ≤ hidMaxFields ∧
      hidFindField (hidParseDescriptor (enclosed 8 voltageField)) singlePath .feature ≠
        (declarations (enclosed 8 voltageField)).findIdx? fun declaration => declaration.named singlePath .feature := by
  have inner : Nesting.Balanced Item.kind (descriptorItems voltageField) :=
    .plain _ _ rfl (.plain _ _ rfl (.plain _ _ rfl (.plain _ _ rfl (.plain _ _ rfl .nil))))
  refine ⟨Nesting.balanced_wrapped Item.kind collectionItem endCollectionItem rfl rfl 8 _ inner, ?_⟩
  decide

end AiriesUps.Hid
