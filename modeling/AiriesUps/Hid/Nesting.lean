import AiriesUps.Hid.Items

set_option autoImplicit false

namespace AiriesUps.Hid

open PackedBits (Byte)

-- The parser as a machine with a stack: an item pushes the usage of its collection.
def parserMachine : Nesting.Machine Item (BitVec 32) :=
  { State := ParserState, step := ParserState.consume, stack := ParserState.collStack }

def collectionUsage (state : ParserState) (_ : Item) : BitVec 32 :=
  hidUp state.currentPage (state.usageQueue.headD 0)

def WellNested (desc : List Byte) : Prop := Nesting.Balanced Item.kind (descriptorItems desc)

-- The collection stack after every End Collection is the one before its Collection.
def StackRestored (desc : List Byte) : Prop :=
  parserMachine.Restores Item.kind ParserState.initial (descriptorItems desc)

-- A field below the depth limit has its own enclosing collections before its usage.
def FieldsEnclosed (desc : List Byte) : Prop :=
  ∀ (index : Nat) (field : HidField) (declaration : Declaration),
    (hidParseDescriptor desc)[index]? = some field → (declarations desc)[index]? = some declaration →
    declaration.enclosing.length < hidMaxPath →
    field.usagePath = declaration.enclosing ++ [hidUp field.usagePage field.usageId]

theorem global_item_stack (state : ParserState) (tag : Nat) (value : BitVec 32) (size : Nat) :
    (state.globalItem tag value size).collStack = state.collStack := by
  unfold ParserState.globalItem
  split <;> rfl

theorem local_item_stack (state : ParserState) (tag : Nat) (value : BitVec 32) :
    (state.localItem tag value).collStack = state.collStack := by
  rw [ParserState.localItem]
  split <;> rfl

theorem global_meaning_plain (tag : Nat) (value : BitVec 32) : (globalMeaning tag value).kind = .plain := by
  unfold globalMeaning
  split <;> rfl

theorem local_meaning_plain (tag : Nat) (value : BitVec 32) : (localMeaning tag value).kind = .plain := by
  rw [localMeaning]
  split <;> rfl

theorem main_item_stack (state : ParserState) (tag : Nat) (item : Item) :
    (state.mainItem tag).collStack =
      match (mainMeaning tag).kind with
      | .push =>
        if state.collStack.length < hidMaxPath then state.collStack ++ [collectionUsage state item]
        else state.collStack
      | .pop => state.collStack.dropLast
      | .plain => state.collStack := by
  unfold ParserState.mainItem
  split
  · rfl
  · rfl
  · exact (state.emit_fields_kept .input _ 0).1
  · exact (state.emit_fields_kept .output _ 0).1
  · exact (state.emit_fields_kept .feature _ 0).1
  · simp only [mainMeaning, Meaning.kind]

theorem consume_stack (state : ParserState) (item : Item) :
    (state.consume item).collStack =
      match item.kind with
      | .push =>
        if state.collStack.length < hidMaxPath then state.collStack ++ [collectionUsage state item]
        else state.collStack
      | .pop => state.collStack.dropLast
      | .plain => state.collStack := by
  rw [ParserState.consume, Item.kind]
  unfold ParserState.item
  split
  · rename_i isMain
    have meant : item.meaning = mainMeaning (item.first.toNat / 16) := by
      simp only [Item.meaning, isMain]
    rw [meant]
    exact main_item_stack state _ item
  · rename_i isGlobal
    have meant : item.meaning = globalMeaning (item.first.toNat / 16) item.value := by
      simp only [Item.meaning, isGlobal]
    rw [meant, global_item_stack, global_meaning_plain]
  · rename_i isLocal
    have meant : item.meaning = localMeaning (item.first.toNat / 16) item.value := by
      simp only [Item.meaning, isLocal]
    rw [meant, local_item_stack, local_meaning_plain]
  · have meant : item.meaning = .other := by simp only [Item.meaning]
    rw [meant]
    rfl

theorem parser_saturating : parserMachine.Saturating Item.kind hidMaxPath collectionUsage :=
  fun state item => consume_stack state item

theorem fields_enclosed (desc : List Byte) (shallow : ShallowNest desc) : FieldsEnclosed desc := by
  intro index field declaration recorded declared below
  rw [(recorded_at desc index field declaration recorded declared).path shallow, List.take_of_length_le]
  rw [List.length_append, List.length_singleton]
  exact below

theorem nesting_kept_iff (desc : List Byte) (nested : WellNested desc) :
    StackRestored desc ∧ FieldsEnclosed desc ↔ ShallowNest desc := by
  have restored := parserMachine.restores_iff Item.kind hidMaxPath collectionUsage parser_saturating (by decide)
    ParserState.initial rfl (descriptorItems desc) nested
  exact ⟨fun kept => restored.mp kept.1, fun shallow => ⟨restored.mpr shallow, fields_enclosed desc shallow⟩⟩

def collectionItem : Item := { first := 0xA1, value := 1, size := 1 }

def endCollectionItem : Item := { first := 0xC0, value := 0, size := 0 }

-- Report Size 8, Report Count 1, Feature
def byteField : List Byte := [0x75, 0x08, 0x95, 0x01, 0xB1, 0x02]

-- Collections of the given depth around the bytes.
def enclosed (depth : Nat) (inner : List Byte) : List Byte :=
  (List.replicate depth [0xA1, 0x01]).flatten ++ inner ++ List.replicate depth 0xC0

theorem byte_field_balanced : Nesting.Balanced Item.kind (descriptorItems byteField) :=
  .plain _ _ rfl (.plain _ _ rfl (.plain _ _ rfl .nil))

-- A field in three collections, and one in two of the three.
def nestedFields : List Byte := enclosed 2 (enclosed 1 byteField ++ byteField)

theorem nested_collections_kept :
    WellNested nestedFields ∧ StackRestored nestedFields ∧ FieldsEnclosed nestedFields := by
  have inner : Nesting.Balanced Item.kind (descriptorItems (enclosed 1 byteField)) :=
    Nesting.balanced_wrapped Item.kind collectionItem endCollectionItem rfl rfl 1 _ byte_field_balanced
  have nested : WellNested nestedFields :=
    Nesting.balanced_wrapped Item.kind collectionItem endCollectionItem rfl rfl 2 _
      (Nesting.balanced_append Item.kind _ _ inner byte_field_balanced)
  exact ⟨nested, (nesting_kept_iff nestedFields nested).mpr (by decide)⟩

-- Two of nine collections closed: the field is in seven of them and is recorded in six.
theorem ninth_collection_lost :
    WellNested (enclosed 7 (enclosed 2 [] ++ byteField)) ∧ ¬FieldsEnclosed (enclosed 7 (enclosed 2 [] ++ byteField)) := by
  refine ⟨?_, fun kept => ?_⟩
  · have inner : Nesting.Balanced Item.kind (descriptorItems (enclosed 2 [])) :=
      Nesting.balanced_wrapped Item.kind collectionItem endCollectionItem rfl rfl 2 [] .nil
    exact Nesting.balanced_wrapped Item.kind collectionItem endCollectionItem rfl rfl 7 _
      (Nesting.balanced_append Item.kind _ _ inner byte_field_balanced)
  · have recorded : (hidParseDescriptor (enclosed 7 (enclosed 2 [] ++ byteField))).map
        (fun field => field.usagePath.length) = [7] := by decide
    have declared : (declarations (enclosed 7 (enclosed 2 [] ++ byteField))).map
        (fun declaration => declaration.enclosing.length) = [7] := by decide
    obtain ⟨field, isField, pathLength⟩ := List.map_eq_singleton_iff.mp recorded
    obtain ⟨declaration, isDeclaration, depth⟩ := List.map_eq_singleton_iff.mp declared
    have path := kept 0 field declaration (by rw [isField]; rfl) (by rw [isDeclaration]; rfl) (by rw [depth]; decide)
    have lengths := congrArg List.length path
    rw [List.length_append, List.length_singleton] at lengths
    omega

end AiriesUps.Hid
