import Mathlib.Logic.Function.Basic
import AiriesUps.Lib.PackedBits

set_option autoImplicit false

namespace AiriesUps.Hid

open PackedBits (Byte)

def hidMaxPath : Nat := 8
def hidMaxFields : Nat := 256
def usageQueueLength : Nat := 64

def hidUp (page usage : BitVec 16) : BitVec 32 := (page.setWidth 32 <<< 16) ||| usage.setWidth 32

inductive FieldType where
  | input
  | output
  | feature
deriving DecidableEq, Repr

-- hid_field_t; path_depth is the length of the path
structure HidField where
  usagePath : List (BitVec 32)
  usagePage : BitVec 16
  usageId : BitVec 16
  reportId : Byte
  bitOffset : BitVec 16
  bitSize : BitVec 16
  type : FieldType
  logicalMin : Int
  logicalMax : Int
  physicalMin : Int
  physicalMax : Int
  unitExponent : Int
  unit : BitVec 32
deriving DecidableEq, Repr

-- hid_report_map_t; count is the length of the list
abbrev ReportMap := List HidField

-- The locals of hid_parse_descriptor. The stack has its bottom first, and the
-- offsets are the bit counters of each report id and type.
structure ParserState where
  collStack : List (BitVec 32)
  currentPage : BitVec 16
  logicalMin : Int
  logicalMax : Int
  physicalMin : Int
  physicalMax : Int
  unitExpRaw : Int
  unit : BitVec 32
  reportSize : BitVec 32
  reportCount : BitVec 32
  reportId : Byte
  bitOffsets : Byte → FieldType → BitVec 16
  usageQueue : List (BitVec 16)
  map : ReportMap

def signedVal (value : BitVec 32) (size : Nat) : Int :=
  match size with
  | 1 => if value.getLsbD 7 then (value.toNat : Int) - 256 else value.toNat
  | 2 => if value.getLsbD 15 then (value.toNat : Int) - 65536 else value.toNat
  | _ => value.toInt

def decodeUnitExponent (raw : Int) : Int :=
  let nibble := raw % 16
  if nibble > 7 then nibble - 16 else nibble

namespace ParserState

def initial : ParserState :=
  { collStack := [], currentPage := 0, logicalMin := 0, logicalMax := 0, physicalMin := 0, physicalMax := 0
    unitExpRaw := 0, unit := 0, reportSize := 0, reportCount := 0, reportId := 0
    bitOffsets := fun _ _ => 0, usageQueue := [], map := [] }

def globalItem (state : ParserState) (tag : Nat) (value : BitVec 32) (size : Nat) : ParserState :=
  match tag with
  | 0 => { state with currentPage := value.setWidth 16 }
  | 1 => { state with logicalMin := signedVal value size }
  | 2 => { state with logicalMax := signedVal value size }
  | 3 => { state with physicalMin := signedVal value size }
  | 4 => { state with physicalMax := signedVal value size }
  | 5 => { state with unitExpRaw := signedVal value size }
  | 6 => { state with unit := value }
  | 7 => { state with reportSize := value }
  | 8 => { state with reportId := value.setWidth 8 }
  | 9 => { state with reportCount := value }
  | _ => state

def localItem (state : ParserState) (tag : Nat) (value : BitVec 32) : ParserState :=
  if tag = 0 ∧ state.usageQueue.length < usageQueueLength then
    { state with usageQueue := state.usageQueue ++ [value.setWidth 16] }
  else state

-- A collection past the depth limit is not pushed, but its end still pops.
def collection (state : ParserState) : ParserState :=
  { state with
    collStack :=
      if state.collStack.length < hidMaxPath then
        state.collStack ++ [hidUp state.currentPage (state.usageQueue.headD 0)]
      else state.collStack
    usageQueue := [] }

def endCollection (state : ParserState) : ParserState :=
  { state with collStack := state.collStack.dropLast }

-- The queued usage of one field of an item: past the end of the queue its last
-- usage repeats, and with no usage queued it is 0.
def usageOf (state : ParserState) (index : Nat) : BitVec 16 :=
  (state.usageQueue[index]?).getD (state.usageQueue.getLast?.getD 0)

def makeField (state : ParserState) (type : FieldType) (usage : BitVec 16) : HidField :=
  { usagePath := (state.collStack ++ [hidUp state.currentPage usage]).take hidMaxPath
    usagePage := state.currentPage
    usageId := usage
    reportId := state.reportId
    bitOffset := state.bitOffsets state.reportId type
    bitSize := state.reportSize.setWidth 16
    type
    logicalMin := state.logicalMin
    logicalMax := state.logicalMax
    physicalMin := state.physicalMin
    physicalMax := state.physicalMax
    unitExponent := decodeUnitExponent state.unitExpRaw
    unit := state.unit }

def advanceOffset (state : ParserState) (type : FieldType) : Byte → FieldType → BitVec 16 :=
  Function.update state.bitOffsets state.reportId
    (Function.update (state.bitOffsets state.reportId) type
      (state.bitOffsets state.reportId type + state.reportSize.setWidth 16))

def emitField (state : ParserState) (type : FieldType) (index : Nat) : ParserState :=
  { state with
    map := state.map ++ [state.makeField type (state.usageOf index)]
    bitOffsets := state.advanceOffset type }

def emitFields (type : FieldType) : Nat → Nat → ParserState → ParserState
  | 0, _, state => state
  | left + 1, index, state =>
    if state.map.length < hidMaxFields then emitFields type left (index + 1) (state.emitField type index)
    else state

def dataItem (state : ParserState) (type : FieldType) : ParserState :=
  { emitFields type state.reportCount.toNat 0 state with usageQueue := [] }

def mainItem (state : ParserState) (tag : Nat) : ParserState :=
  match tag with
  | 0x0A => state.collection
  | 0x0C => state.endCollection
  | 0x08 => state.dataItem .input
  | 0x09 => state.dataItem .output
  | 0x0B => state.dataItem .feature
  | _ => state

def item (state : ParserState) (first : Byte) (value : BitVec 32) (size : Nat) : ParserState :=
  match first.toNat / 4 % 4 with
  | 0 => state.mainItem (first.toNat / 16)
  | 1 => state.globalItem (first.toNat / 16) value size
  | 2 => state.localItem (first.toNat / 16) value
  | _ => state

end ParserState

def itemSize (first : Byte) : Nat :=
  if first.toNat % 4 = 3 then 4 else first.toNat % 4

def itemValue (data : List Byte) : BitVec 32 :=
  data.foldr (fun byte rest => rest <<< 8 ||| byte.setWidth 32) 0

-- while (i < len), over the bytes from i on; an item cut short ends the loop.
def parseItems : Nat → List Byte → ParserState → ParserState
  | 0, _, state => state
  | _ + 1, [], state => state
  | fuel + 1, first :: rest, state =>
    if rest.length < itemSize first then state
    else
      parseItems fuel (rest.drop (itemSize first))
        (state.item first (itemValue (rest.take (itemSize first))) (itemSize first))

def hidParseDescriptor (desc : List Byte) : ReportMap :=
  (parseItems desc.length desc ParserState.initial).map

-- The last path_len elements of the field's path are the path searched for.
def HidField.matchesPath (field : HidField) (path : List (BitVec 32)) (type : FieldType) : Bool :=
  decide (field.type = type) && decide (path.length ≤ field.usagePath.length) &&
    decide (field.usagePath.drop (field.usagePath.length - path.length) = path)

-- hid_find_field; a field pointer is the field's index in map->fields
def hidFindField (map : ReportMap) (path : List (BitVec 32)) (type : FieldType) : Option Nat :=
  map.findIdx? fun field => field.matchesPath path type

theorem hid_find_field_found (map : ReportMap) (path : List (BitVec 32)) (type : FieldType) (index : Nat)
    (found : hidFindField map path type = some index) :
    ∃ field, map[index]? = some field ∧ field.matchesPath path type = true := by
  obtain ⟨inside, isMatch, _⟩ := List.findIdx?_eq_some_iff_getElem.mp found
  exact ⟨map[index], List.getElem?_eq_getElem inside, isMatch⟩

-- Every item consumes its prefix byte, so the descriptor's length is fuel enough.
theorem parse_items_fuel (fuel : Nat) (desc : List Byte) (state : ParserState) (enough : desc.length ≤ fuel) :
    parseItems fuel desc state = parseItems desc.length desc state := by
  induction fuel using Nat.strong_induction_on generalizing desc state with
  | _ fuel ih =>
    cases desc with
    | nil => cases fuel <;> rfl
    | cons first rest =>
      cases fuel with
      | zero => simp at enough
      | succ fuel =>
        rw [List.length_cons] at enough ⊢
        rw [parseItems, parseItems]
        by_cases cut : rest.length < itemSize first
        · rw [if_pos cut, if_pos cut]
        · rw [if_neg cut, if_neg cut]
          have shorter : (rest.drop (itemSize first)).length ≤ rest.length := by
            rw [List.length_drop]
            omega
          rw [ih fuel (by omega) _ _ (by omega)]
          by_cases same : fuel = rest.length
          · rw [← ih fuel (by omega) _ _ (by omega), same]
          · rw [← ih rest.length (by omega) _ _ shorter]

namespace ParserState

theorem advance_offset_same (state : ParserState) (type : FieldType) :
    state.advanceOffset type state.reportId type =
      state.bitOffsets state.reportId type + state.reportSize.setWidth 16 := by
  rw [advanceOffset, Function.update_self, Function.update_self]

theorem advance_offset_other (state : ParserState) (type : FieldType) (id : Byte) (other : FieldType)
    (foreign : ¬(state.reportId = id ∧ type = other)) :
    state.advanceOffset type id other = state.bitOffsets id other := by
  rw [advanceOffset]
  by_cases report : state.reportId = id
  · have another : other ≠ type := fun is => foreign ⟨report, is.symm⟩
    rw [← report, Function.update_self, Function.update_of_ne another]
  · rw [Function.update_of_ne fun is => report is.symm]

theorem global_item_map (state : ParserState) (tag : Nat) (value : BitVec 32) (size : Nat) :
    (state.globalItem tag value size).map = state.map := by
  unfold globalItem
  split <;> rfl

theorem local_item_map (state : ParserState) (tag : Nat) (value : BitVec 32) :
    (state.localItem tag value).map = state.map := by
  rw [localItem]
  split <;> rfl

theorem global_item_offsets (state : ParserState) (tag : Nat) (value : BitVec 32) (size : Nat) :
    (state.globalItem tag value size).bitOffsets = state.bitOffsets := by
  unfold globalItem
  split <;> rfl

theorem local_item_offsets (state : ParserState) (tag : Nat) (value : BitVec 32) :
    (state.localItem tag value).bitOffsets = state.bitOffsets := by
  rw [localItem]
  split <;> rfl

theorem emit_fields_recorded (Inv : ReportMap → (Byte → FieldType → BitVec 16) → Prop)
    (emit : ∀ (state : ParserState) type index, state.map.length < hidMaxFields → Inv state.map state.bitOffsets →
      Inv (state.emitField type index).map (state.emitField type index).bitOffsets)
    (type : FieldType) (left index : Nat) (state : ParserState) (inv : Inv state.map state.bitOffsets) :
    Inv (emitFields type left index state).map (emitFields type left index state).bitOffsets := by
  induction left generalizing index state with
  | zero => exact inv
  | succ left ih =>
    rw [emitFields]
    by_cases room : state.map.length < hidMaxFields
    · rw [if_pos room]
      exact ih _ _ (emit state type index room inv)
    · rw [if_neg room]
      exact inv

-- Only an emitted field changes the table and the counters.
theorem item_recorded (Inv : ReportMap → (Byte → FieldType → BitVec 16) → Prop)
    (emit : ∀ (state : ParserState) type index, state.map.length < hidMaxFields → Inv state.map state.bitOffsets →
      Inv (state.emitField type index).map (state.emitField type index).bitOffsets)
    (state : ParserState) (first : Byte) (value : BitVec 32) (size : Nat) (inv : Inv state.map state.bitOffsets) :
    Inv (state.item first value size).map (state.item first value size).bitOffsets := by
  rw [item]
  split
  · unfold mainItem
    split
    · exact inv
    · exact inv
    · exact emit_fields_recorded Inv emit .input _ _ state inv
    · exact emit_fields_recorded Inv emit .output _ _ state inv
    · exact emit_fields_recorded Inv emit .feature _ _ state inv
    · exact inv
  · rw [global_item_map, global_item_offsets]
    exact inv
  · rw [local_item_map, local_item_offsets]
    exact inv
  · exact inv

theorem item_bounded (state : ParserState) (first : Byte) (value : BitVec 32) (size : Nat)
    (bounded : state.map.length ≤ hidMaxFields) : (state.item first value size).map.length ≤ hidMaxFields := by
  refine item_recorded (fun map _ => map.length ≤ hidMaxFields) (fun before type index room _ => ?_) state first value
    size bounded
  rw [emitField, List.length_append, List.length_singleton]
  exact room

-- What is recorded stays as it is, and a full table takes nothing more.
theorem item_extends (state : ParserState) (first : Byte) (value : BitVec 32) (size : Nat) :
    state.map <+: (state.item first value size).map :=
  item_recorded (fun map _ => state.map <+: map)
    (fun _ _ _ _ before => before.trans (List.prefix_append _ _)) state first value size (List.prefix_refl _)

end ParserState

theorem parse_items_bounded (fuel : Nat) (desc : List Byte) (state : ParserState)
    (bounded : state.map.length ≤ hidMaxFields) : (parseItems fuel desc state).map.length ≤ hidMaxFields := by
  induction fuel generalizing desc state with
  | zero => exact bounded
  | succ fuel ih =>
    cases desc with
    | nil => exact bounded
    | cons first rest =>
      rw [parseItems]
      by_cases cut : rest.length < itemSize first
      · rw [if_pos cut]
        exact bounded
      · rw [if_neg cut]
        exact ih _ _ (state.item_bounded first _ _ bounded)

theorem parsed_count_bounded (desc : List Byte) : (hidParseDescriptor desc).length ≤ hidMaxFields :=
  parse_items_bounded _ _ _ (Nat.zero_le _)

end AiriesUps.Hid
