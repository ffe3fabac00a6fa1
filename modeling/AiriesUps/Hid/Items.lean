import AiriesUps.Hid.Parser
import AiriesUps.Lib.Nesting

set_option autoImplicit false

namespace AiriesUps.Hid

open PackedBits (Byte)

-- One pass of the parser's loop: the prefix byte and the value of its data.
structure Item where
  first : Byte
  value : BitVec 32
  size : Nat
deriving DecidableEq, Repr

def itemsOf : Nat → List Byte → List Item
  | 0, _ => []
  | _ + 1, [] => []
  | fuel + 1, first :: rest =>
    if rest.length < itemSize first then []
    else
      { first, value := itemValue (rest.take (itemSize first)), size := itemSize first } ::
        itemsOf fuel (rest.drop (itemSize first))

def descriptorItems (desc : List Byte) : List Item := itemsOf desc.length desc

namespace ParserState

def consume (state : ParserState) (item : Item) : ParserState := state.item item.first item.value item.size

def consumeAll (items : List Item) : ParserState := items.foldl consume initial

end ParserState

theorem parse_items_fold (fuel : Nat) (desc : List Byte) (state : ParserState) :
    parseItems fuel desc state = (itemsOf fuel desc).foldl ParserState.consume state := by
  induction fuel generalizing desc state with
  | zero => rfl
  | succ fuel ih =>
    cases desc with
    | nil => rfl
    | cons first rest =>
      rw [parseItems, itemsOf]
      by_cases cut : rest.length < itemSize first
      · rw [if_pos cut, if_pos cut]
        rfl
      · rw [if_neg cut, if_neg cut, ih]
        rfl

theorem parsed_items (desc : List Byte) :
    hidParseDescriptor desc = (ParserState.consumeAll (descriptorItems desc)).map := by
  rw [hidParseDescriptor, parse_items_fold]
  rfl

-- What an item says of the fields a descriptor declares, as the parser reads it: Push,
-- Pop, Usage Minimum and Usage Maximum are other, and a usage is its low 16 bits. The
-- values of the other items do not bear on which fields there are, where and how large.
inductive Meaning where
  | usagePage (page : BitVec 16)
  | reportSize (size : BitVec 32)
  | reportId (id : Byte)
  | reportCount (count : BitVec 32)
  | usage (usage : BitVec 16)
  | collection
  | endCollection
  | fields (type : FieldType)
  | other
deriving DecidableEq, Repr

def mainMeaning (tag : Nat) : Meaning :=
  match tag with
  | 0x0A => .collection
  | 0x0C => .endCollection
  | 0x08 => .fields .input
  | 0x09 => .fields .output
  | 0x0B => .fields .feature
  | _ => .other

def globalMeaning (tag : Nat) (value : BitVec 32) : Meaning :=
  match tag with
  | 0 => .usagePage (value.setWidth 16)
  | 7 => .reportSize value
  | 8 => .reportId (value.setWidth 8)
  | 9 => .reportCount value
  | _ => .other

def localMeaning (tag : Nat) (value : BitVec 32) : Meaning :=
  if tag = 0 then .usage (value.setWidth 16) else .other

def Meaning.kind (meaning : Meaning) : Nesting.Kind :=
  match meaning with
  | .collection => .push
  | .endCollection => .pop
  | _ => .plain

namespace Item

def meaning (item : Item) : Meaning :=
  match item.first.toNat / 4 % 4 with
  | 0 => mainMeaning (item.first.toNat / 16)
  | 1 => globalMeaning (item.first.toNat / 16) item.value
  | 2 => localMeaning (item.first.toNat / 16) item.value
  | _ => .other

def kind (item : Item) : Nesting.Kind := item.meaning.kind

end Item

-- A field as the descriptor declares it: the usages of the collections around it,
-- outermost first, its own usage, and the report it is in.
structure Declaration where
  enclosing : List (BitVec 32)
  page : BitVec 16
  usage : BitVec 16
  reportId : Byte
  type : FieldType
  reportSize : BitVec 32
deriving DecidableEq, Repr

-- The descriptor read without a limit on nesting, queued usages or fields.
structure Reading where
  nest : List (BitVec 32)
  page : BitVec 16
  reportSize : BitVec 32
  reportCount : BitVec 32
  reportId : Byte
  usages : List (BitVec 16)
  declared : List Declaration

namespace Reading

def initial : Reading :=
  { nest := [], page := 0, reportSize := 0, reportCount := 0, reportId := 0, usages := [], declared := [] }

-- Each field of an item takes the next usage given for it, and the last one repeats.
def declare (reading : Reading) (type : FieldType) (index : Nat) : Declaration :=
  { enclosing := reading.nest
    page := reading.page
    usage := (reading.usages[index]?).getD (reading.usages.getLast?.getD 0)
    reportId := reading.reportId
    type
    reportSize := reading.reportSize }

def apply (reading : Reading) (meaning : Meaning) : Reading :=
  match meaning with
  | .usagePage page => { reading with page }
  | .reportSize size => { reading with reportSize := size }
  | .reportId id => { reading with reportId := id }
  | .reportCount count => { reading with reportCount := count }
  | .usage usage => { reading with usages := reading.usages ++ [usage] }
  | .collection =>
    { reading with nest := reading.nest ++ [hidUp reading.page (reading.usages.headD 0)], usages := [] }
  | .endCollection => { reading with nest := reading.nest.dropLast }
  | .fields type =>
    { reading with
      declared := reading.declared ++ (List.range reading.reportCount.toNat).map (reading.declare type)
      usages := [] }
  | .other => reading

def read (reading : Reading) (item : Item) : Reading := reading.apply item.meaning

def readAll (items : List Item) : Reading := items.foldl read initial

end Reading

def declarations (desc : List Byte) : List Declaration := (Reading.readAll (descriptorItems desc)).declared

namespace ParserState

-- The fields of one item before the room for them runs out.
def fieldAt (state : ParserState) (type : FieldType) (index later : Nat) : HidField :=
  { state.makeField type (state.usageOf (index + later)) with
    bitOffset := state.bitOffsets state.reportId type + BitVec.ofNat 16 later * state.reportSize.setWidth 16 }

theorem field_at_first (state : ParserState) (type : FieldType) (index : Nat) :
    state.fieldAt type index 0 = state.makeField type (state.usageOf index) := by
  simp [fieldAt, makeField]

theorem field_at_later (state : ParserState) (type : FieldType) (index later : Nat) :
    (state.emitField type index).fieldAt type (index + 1) later = state.fieldAt type index (later + 1) := by
  have place : index + 1 + later = index + (later + 1) := by omega
  have next : BitVec.ofNat 16 (later + 1) = BitVec.ofNat 16 later + 1#16 := BitVec.ofNat_add later 1
  simp only [fieldAt, emitField, makeField, usageOf, place, advance_offset_same, next, BitVec.add_mul, BitVec.one_mul]
  rw [BitVec.add_assoc, BitVec.add_comm (state.reportSize.setWidth 16)]

theorem emit_fields_map (type : FieldType) (left index : Nat) (state : ParserState)
    (bounded : state.map.length ≤ hidMaxFields) :
    (emitFields type left index state).map =
      (state.map ++ (List.range left).map (state.fieldAt type index)).take hidMaxFields := by
  induction left generalizing index state with
  | zero =>
    rw [emitFields, List.range_zero, List.map_nil, List.append_nil, List.take_of_length_le bounded]
  | succ left ih =>
    rw [emitFields]
    by_cases room : state.map.length < hidMaxFields
    · have later : (state.emitField type index).fieldAt type (index + 1) =
          state.fieldAt type index ∘ Nat.succ := funext (state.field_at_later type index)
      rw [if_pos room, ih _ _ (by rw [emitField, List.length_append, List.length_singleton]; exact room), later,
        List.range_succ_eq_map, List.map_cons, List.map_map, field_at_first, emitField, List.append_assoc]
      rfl
    · rw [if_neg room, List.take_append_of_le_length (by omega), List.take_of_length_le bounded]

theorem data_item_map (state : ParserState) (type : FieldType) (bounded : state.map.length ≤ hidMaxFields) :
    (state.dataItem type).map =
      (state.map ++ (List.range state.reportCount.toNat).map (state.fieldAt type 0)).take hidMaxFields :=
  emit_fields_map type state.reportCount.toNat 0 state bounded

theorem emit_fields_kept (type : FieldType) (left index : Nat) (state : ParserState) :
    (emitFields type left index state).collStack = state.collStack ∧
      (emitFields type left index state).currentPage = state.currentPage ∧
      (emitFields type left index state).reportSize = state.reportSize ∧
      (emitFields type left index state).reportCount = state.reportCount ∧
      (emitFields type left index state).reportId = state.reportId := by
  induction left generalizing index state with
  | zero => exact ⟨rfl, rfl, rfl, rfl, rfl⟩
  | succ left ih =>
    rw [emitFields]
    by_cases room : state.map.length < hidMaxFields
    · rw [if_pos room]
      exact ih _ _
    · rw [if_neg room]
      exact ⟨rfl, rfl, rfl, rfl, rfl⟩

end ParserState

-- The number of usages queued, at most, when an item takes them.
def pending (queued : Nat) (meaning : Meaning) : Nat :=
  match meaning with
  | .usage _ => queued + 1
  | .collection => 0
  | .fields _ => 0
  | _ => queued

def mostUsages : Nat → List Item → Nat
  | queued, [] => queued
  | queued, item :: rest => max queued (mostUsages (pending queued item.meaning) rest)

-- A recorded field against its declaration: its path is the declared one as long
-- as no collection was refused, and its usage as long as no usage was.
structure Records (shallow few : Prop) (field : HidField) (declaration : Declaration) : Prop where
  page : field.usagePage = declaration.page
  reportId : field.reportId = declaration.reportId
  type : field.type = declaration.type
  size : field.bitSize = declaration.reportSize.setWidth 16
  usage : few → field.usageId = declaration.usage
  depth : shallow → declaration.enclosing.length ≤ hidMaxPath
  path : shallow →
    field.usagePath = (declaration.enclosing ++ [hidUp field.usagePage field.usageId]).take hidMaxPath

structure Follows (shallow few : Prop) (state : ParserState) (reading : Reading) : Prop where
  page : state.currentPage = reading.page
  reportSize : state.reportSize = reading.reportSize
  reportCount : state.reportCount = reading.reportCount
  reportId : state.reportId = reading.reportId
  queue : state.usageQueue = reading.usages.take usageQueueLength
  stack : shallow → state.collStack = reading.nest
  recorded : ∃ all, state.map = all.take hidMaxFields ∧ List.Forall₂ (Records shallow few) all reading.declared

namespace Follows

variable {shallow few : Prop} {state : ParserState} {reading : Reading}

theorem initial : Follows shallow few ParserState.initial Reading.initial :=
  ⟨rfl, rfl, rfl, rfl, rfl, fun _ => rfl, [], rfl, List.Forall₂.nil⟩

theorem bounded (follows : Follows shallow few state reading) : state.map.length ≤ hidMaxFields := by
  obtain ⟨all, kept, _⟩ := follows.recorded
  rw [kept, List.length_take]
  exact Nat.min_le_left _ _

theorem queue_head (follows : Follows shallow few state reading) :
    state.usageQueue.headD 0 = reading.usages.headD 0 := by
  rw [follows.queue]
  cases reading.usages <;> rfl

theorem declared (follows : Follows shallow few state reading) (type : FieldType) (index : Nat)
    (fits : shallow → reading.nest.length ≤ hidMaxPath) (enough : few → reading.usages.length ≤ usageQueueLength) :
    Records shallow few (state.fieldAt type 0 index) (reading.declare type index) := by
  refine ⟨follows.page, follows.reportId, rfl, ?_, fun small => ?_, fits, fun isShallow => ?_⟩
  · rw [Reading.declare, ← follows.reportSize]
    rfl
  · have whole : state.usageQueue = reading.usages := by
      rw [follows.queue, List.take_of_length_le (enough small)]
    simp only [ParserState.fieldAt, ParserState.makeField, ParserState.usageOf, Reading.declare, whole, Nat.zero_add]
  · rw [Reading.declare, ← follows.stack isShallow]
    rfl

theorem data_item (follows : Follows shallow few state reading) (type : FieldType)
    (fits : shallow → reading.nest.length ≤ hidMaxPath) (enough : few → reading.usages.length ≤ usageQueueLength) :
    Follows shallow few (state.dataItem type) (reading.apply (.fields type)) := by
  obtain ⟨stack, page, size, count, id⟩ := ParserState.emit_fields_kept type state.reportCount.toNat 0 state
  obtain ⟨all, kept, same⟩ := follows.recorded
  refine ⟨page.trans follows.page, size.trans follows.reportSize, count.trans follows.reportCount,
    id.trans follows.reportId, rfl, fun isShallow => stack.trans (follows.stack isShallow), ?_⟩
  refine ⟨all ++ (List.range state.reportCount.toNat).map (state.fieldAt type 0), ?_, ?_⟩
  · rw [ParserState.data_item_map state type follows.bounded, kept, List.take_append, List.take_append,
      List.take_take, Nat.min_self, List.length_take]
    congr 2
    omega
  · rw [Reading.apply, ← follows.reportCount]
    refine List.rel_append same ?_
    rw [List.forall₂_map_left_iff, List.forall₂_map_right_iff, List.forall₂_same]
    exact fun index _ => follows.declared type index fits enough

theorem collection (follows : Follows shallow few state reading)
    (fits : shallow → reading.nest.length + 1 ≤ hidMaxPath) :
    Follows shallow few state.collection (reading.apply .collection) := by
  refine ⟨follows.page, follows.reportSize, follows.reportCount, follows.reportId, rfl, fun isShallow => ?_,
    follows.recorded⟩
  rw [ParserState.collection, follows.stack isShallow, follows.page, follows.queue_head]
  exact if_pos (fits isShallow)

theorem end_collection (follows : Follows shallow few state reading) :
    Follows shallow few state.endCollection (reading.apply .endCollection) := by
  refine ⟨follows.page, follows.reportSize, follows.reportCount, follows.reportId, follows.queue, fun isShallow => ?_,
    follows.recorded⟩
  rw [ParserState.endCollection, follows.stack isShallow]
  rfl

theorem main_item (follows : Follows shallow few state reading) (tag : Nat)
    (fits : shallow → Nesting.level reading.nest.length (mainMeaning tag).kind ≤ hidMaxPath)
    (enough : few → reading.usages.length ≤ usageQueueLength) :
    Follows shallow few (state.mainItem tag) (reading.apply (mainMeaning tag)) := by
  unfold ParserState.mainItem
  split
  · exact follows.collection fits
  · exact follows.end_collection
  · exact follows.data_item .input fits enough
  · exact follows.data_item .output fits enough
  · exact follows.data_item .feature fits enough
  · simp only [mainMeaning]
    exact follows

theorem global_item (follows : Follows shallow few state reading) (tag : Nat) (value : BitVec 32) (size : Nat) :
    Follows shallow few (state.globalItem tag value size) (reading.apply (globalMeaning tag value)) := by
  obtain ⟨page, reportSize, reportCount, reportId, queue, stack, recorded⟩ := follows
  unfold ParserState.globalItem
  split
  · exact ⟨rfl, reportSize, reportCount, reportId, queue, stack, recorded⟩
  · exact ⟨page, reportSize, reportCount, reportId, queue, stack, recorded⟩
  · exact ⟨page, reportSize, reportCount, reportId, queue, stack, recorded⟩
  · exact ⟨page, reportSize, reportCount, reportId, queue, stack, recorded⟩
  · exact ⟨page, reportSize, reportCount, reportId, queue, stack, recorded⟩
  · exact ⟨page, reportSize, reportCount, reportId, queue, stack, recorded⟩
  · exact ⟨page, reportSize, reportCount, reportId, queue, stack, recorded⟩
  · exact ⟨page, rfl, reportCount, reportId, queue, stack, recorded⟩
  · exact ⟨page, reportSize, reportCount, rfl, queue, stack, recorded⟩
  · exact ⟨page, reportSize, rfl, reportId, queue, stack, recorded⟩
  · simp only [globalMeaning]
    exact ⟨page, reportSize, reportCount, reportId, queue, stack, recorded⟩

theorem local_item (follows : Follows shallow few state reading) (tag : Nat) (value : BitVec 32) :
    Follows shallow few (state.localItem tag value) (reading.apply (localMeaning tag value)) := by
  rw [ParserState.localItem, localMeaning]
  by_cases isUsage : tag = 0
  · rw [if_pos isUsage]
    by_cases room : state.usageQueue.length < usageQueueLength
    · have whole : state.usageQueue = reading.usages := by
        rw [follows.queue, List.length_take] at room
        rw [follows.queue, List.take_of_length_le (by omega)]
      rw [if_pos ⟨isUsage, room⟩]
      refine ⟨follows.page, follows.reportSize, follows.reportCount, follows.reportId, ?_, follows.stack, follows.recorded⟩
      rw [Reading.apply, whole, List.take_of_length_le]
      rw [List.length_append, List.length_singleton, ← whole]
      exact room
    · rw [if_neg fun queued => room queued.2]
      refine ⟨follows.page, follows.reportSize, follows.reportCount, follows.reportId, ?_, follows.stack, follows.recorded⟩
      rw [follows.queue, List.length_take] at room
      rw [Reading.apply, List.take_append_of_le_length (by omega)]
      exact follows.queue
  · rw [if_neg isUsage, if_neg fun queued => isUsage queued.1]
    exact follows

theorem item (follows : Follows shallow few state reading) (item : Item)
    (fits : shallow → Nesting.level reading.nest.length item.kind ≤ hidMaxPath)
    (enough : few → reading.usages.length ≤ usageQueueLength) :
    Follows shallow few (state.consume item) (reading.read item) := by
  rw [Item.kind] at fits
  rw [Reading.read, ParserState.consume]
  unfold ParserState.item
  split
  · rename_i isMain
    have meant : item.meaning = mainMeaning (item.first.toNat / 16) := by
      simp only [Item.meaning, isMain]
    rw [meant] at fits ⊢
    exact follows.main_item _ fits enough
  · rename_i isGlobal
    have meant : item.meaning = globalMeaning (item.first.toNat / 16) item.value := by
      simp only [Item.meaning, isGlobal]
    rw [meant]
    exact follows.global_item _ _ _
  · rename_i isLocal
    have meant : item.meaning = localMeaning (item.first.toNat / 16) item.value := by
      simp only [Item.meaning, isLocal]
    rw [meant]
    exact follows.local_item _ _
  · have meant : item.meaning = .other := by simp only [Item.meaning]
    rw [meant]
    exact follows

end Follows

namespace Reading

theorem read_depth (reading : Reading) (item : Item) :
    (reading.read item).nest.length = Nesting.level reading.nest.length item.kind := by
  rw [read, Item.kind]
  cases item.meaning with
  | collection => exact List.length_append
  | endCollection => exact List.length_dropLast
  | _ => rfl

theorem read_pending (reading : Reading) (item : Item) :
    (reading.read item).usages.length = pending reading.usages.length item.meaning := by
  rw [read]
  cases item.meaning with
  | usage => exact List.length_append
  | _ => rfl

end Reading

theorem Follows.run (items : List Item) (shallow few : Prop) (state : ParserState) (reading : Reading)
    (follows : Follows shallow few state reading)
    (fits : shallow → Nesting.deepest Item.kind reading.nest.length items ≤ hidMaxPath)
    (enough : few → mostUsages reading.usages.length items ≤ usageQueueLength) :
    Follows shallow few (items.foldl ParserState.consume state) (items.foldl Reading.read reading) := by
  induction items generalizing state reading with
  | nil => exact follows
  | cons item rest ih =>
    have deep : shallow → Nesting.deepest Item.kind (Nesting.level reading.nest.length item.kind) rest ≤ hidMaxPath :=
      fun isShallow => ((Nesting.deepest_cons _ _ _ _ _).mp (fits isShallow)).2
    have long : few → reading.usages.length ≤ usageQueueLength ∧
        mostUsages (pending reading.usages.length item.meaning) rest ≤ usageQueueLength :=
      fun isFew => Nat.max_le.mp (enough isFew)
    refine ih _ _ (follows.item item (fun isShallow => ?_) fun isFew => (long isFew).1) ?_ ?_
    · exact Nat.le_trans (Nesting.deepest_start _ _ _) (deep isShallow)
    · rw [reading.read_depth]
      exact deep
    · rw [reading.read_pending]
      exact fun isFew => (long isFew).2

def ShallowNest (desc : List Byte) : Prop := Nesting.deepest Item.kind 0 (descriptorItems desc) ≤ hidMaxPath

def FewUsages (desc : List Byte) : Prop := mostUsages 0 (descriptorItems desc) ≤ usageQueueLength

instance (desc : List Byte) : Decidable (ShallowNest desc) := inferInstanceAs (Decidable (_ ≤ _))

instance (desc : List Byte) : Decidable (FewUsages desc) := inferInstanceAs (Decidable (_ ≤ _))

-- The parser against the reading, after any number of a descriptor's items.
theorem parser_follows (items : List Item) :
    Follows (Nesting.deepest Item.kind 0 items ≤ hidMaxPath) (mostUsages 0 items ≤ usageQueueLength)
      (ParserState.consumeAll items) (Reading.readAll items) :=
  Follows.run items _ _ ParserState.initial Reading.initial Follows.initial id id

-- The table holds the first fields declared, as many as it has room for.
theorem recorded_declared (desc : List Byte) :
    List.Forall₂ (Records (ShallowNest desc) (FewUsages desc)) (hidParseDescriptor desc)
      ((declarations desc).take hidMaxFields) := by
  obtain ⟨all, kept, same⟩ := (parser_follows (descriptorItems desc)).recorded
  rw [parsed_items, kept]
  exact List.forall₂_take hidMaxFields same

theorem recorded_at (desc : List Byte) (index : Nat) (field : HidField) (declaration : Declaration)
    (recorded : (hidParseDescriptor desc)[index]? = some field)
    (declared : (declarations desc)[index]? = some declaration) :
    Records (ShallowNest desc) (FewUsages desc) field declaration := by
  obtain ⟨inside, isField⟩ := List.getElem?_eq_some_iff.mp recorded
  have within : index < hidMaxFields := Nat.lt_of_lt_of_le inside (parsed_count_bounded desc)
  rw [← List.getElem?_take_of_lt within] at declared
  obtain ⟨insideDeclared, isDeclared⟩ := List.getElem?_eq_some_iff.mp declared
  have same := List.forall₂_iff_get.mp (recorded_declared desc)
  rw [← isField, ← isDeclared]
  exact same.2 index inside insideDeclared

end AiriesUps.Hid
