import AiriesUps.Hid.ParserMemory
import AiriesUps.Lib.Sequences

set_option autoImplicit false

namespace AiriesUps.Hid

open PackedBits (Byte)

theorem load_inside {Cell : Type} (cells : List Cell) (index : Nat) (cell : Cell) (inside : cells[index]? = some cell) :
    load cells index = .ok cell := by
  rw [load, inside]

theorem store_inside {Cell : Type} (cells : List Cell) (index : Nat) (cell : Cell) (inside : index < cells.length) :
    store cells index cell = .ok (cells.set index cell) := if_pos inside

theorem store_next {Cell : Type} (cells : List Cell) (used : Nat) (cell : Cell) (inside : used < cells.length) :
    ∃ stored, store cells used cell = .ok stored ∧ stored.length = cells.length ∧
      stored.take (used + 1) = cells.take used ++ [cell] := by
  refine ⟨cells.set used cell, if_pos inside, List.length_set, ?_⟩
  have present : used < (cells.set used cell).length := by rw [List.length_set]; exact inside
  rw [List.take_succ_eq_append_getElem present, List.getElem_set_self, List.take_set_of_le (Nat.le_refl used)]

theorem type_index_injective (first second : FieldType) (same : first.index = second.index) : first = second := by
  cases first <;> cases second <;> first | rfl | cases same

-- The memory holds what the parser's state is: the first cells of each array,
-- as many as its count says.
structure Represents (memory : ParserMemory) (state : ParserState) : Prop where
  stackSize : memory.collStack.length = hidMaxPath
  depth : memory.collDepth ≤ hidMaxPath
  queueSize : memory.usageQueue.length = usageQueueLength
  queued : memory.usageCount ≤ usageQueueLength
  tableSize : memory.fields.length = hidMaxFields
  counted : memory.count ≤ hidMaxFields
  collStack : state.collStack = memory.collStack.take memory.collDepth
  usageQueue : state.usageQueue = memory.usageQueue.take memory.usageCount
  map : state.map = memory.reportMap
  offsets : ∀ id type, ∃ row, memory.bitOffsets[id.toNat]? = some row ∧
    row[type.index]? = some (state.bitOffsets id type)
  currentPage : state.currentPage = memory.currentPage
  logicalMin : state.logicalMin = memory.logicalMin
  logicalMax : state.logicalMax = memory.logicalMax
  physicalMin : state.physicalMin = memory.physicalMin
  physicalMax : state.physicalMax = memory.physicalMax
  unitExpRaw : state.unitExpRaw = memory.unitExpRaw
  unit : state.unit = memory.unit
  reportSize : state.reportSize = memory.reportSize
  reportCount : state.reportCount = memory.reportCount
  reportId : state.reportId = memory.reportId

namespace Represents

variable {memory : ParserMemory} {state : ParserState}

theorem initial (stack : Vector (BitVec 32) hidMaxPath) (queue : Vector (BitVec 16) usageQueueLength) :
    Represents (ParserMemory.initial stack queue) ParserState.initial := by
  refine ⟨stack.length_toList, Nat.zero_le _, queue.length_toList, Nat.zero_le _, List.length_replicate,
    Nat.zero_le _, rfl, rfl, rfl, fun id type => ?_, rfl, rfl, rfl, rfl, rfl, rfl, rfl, rfl, rfl, rfl⟩
  refine ⟨List.replicate 3 0, List.getElem?_replicate_of_lt id.isLt, ?_⟩
  cases type <;> rfl

theorem global_item (represents : Represents memory state) (tag : Nat) (value : BitVec 32) (size : Nat) :
    Represents (memory.globalItem tag value size) (state.globalItem tag value size) := by
  unfold ParserMemory.globalItem
  split
  · exact { represents with currentPage := rfl }
  · exact { represents with logicalMin := rfl }
  · exact { represents with logicalMax := rfl }
  · exact { represents with physicalMin := rfl }
  · exact { represents with physicalMax := rfl }
  · exact { represents with unitExpRaw := rfl }
  · exact { represents with unit := rfl }
  · exact { represents with reportSize := rfl }
  · exact { represents with reportId := rfl }
  · exact { represents with reportCount := rfl }
  · simp only [ParserState.globalItem]
    exact represents

theorem queue_length (represents : Represents memory state) : state.usageQueue.length = memory.usageCount := by
  have bound := represents.queued
  rw [represents.usageQueue, List.length_take, represents.queueSize]
  omega

theorem local_item (represents : Represents memory state) (tag : Nat) (value : BitVec 32) :
    ∃ next, memory.localItem tag value = .ok next ∧ Represents next (state.localItem tag value) := by
  rw [ParserMemory.localItem, ParserState.localItem, represents.queue_length]
  by_cases queues : tag = 0 ∧ memory.usageCount < usageQueueLength
  · obtain ⟨queue, stored, size, taken⟩ := store_next memory.usageQueue memory.usageCount (value.setWidth 16)
      (by rw [represents.queueSize]; exact queues.2)
    rw [if_pos queues, if_pos queues, stored]
    refine ⟨_, rfl, { represents with
      queueSize := size.trans represents.queueSize
      queued := queues.2
      usageQueue := ?_ }⟩
    rw [represents.usageQueue]
    exact taken.symm
  · rw [if_neg queues, if_neg queues]
    exact ⟨memory, rfl, represents⟩

theorem stack_length (represents : Represents memory state) : state.collStack.length = memory.collDepth := by
  have bound := represents.depth
  rw [represents.collStack, List.length_take, represents.stackSize]
  omega

theorem map_length (represents : Represents memory state) : state.map.length = memory.count := by
  have bound := represents.counted
  rw [represents.map, ParserMemory.reportMap, List.length_take, represents.tableSize]
  omega

theorem queued_cell (represents : Represents memory state) (index : Nat) (queued : index < memory.usageCount) :
    ∃ usage, load memory.usageQueue index = .ok usage ∧ state.usageQueue[index]? = some usage := by
  have inside : index < memory.usageQueue.length := by
    have bound := represents.queued
    rw [represents.queueSize]
    omega
  refine ⟨memory.usageQueue[index], load_inside _ _ _ (List.getElem?_eq_getElem inside), ?_⟩
  rw [represents.usageQueue, List.getElem?_take_of_lt queued, List.getElem?_eq_getElem inside]

theorem first_usage (represents : Represents memory state) :
    memory.firstUsage = .ok (state.usageQueue.headD 0) := by
  rw [ParserMemory.firstUsage, List.headD_eq_head?_getD, List.head?_eq_getElem?]
  by_cases queued : memory.usageCount > 0
  · obtain ⟨usage, loaded, same⟩ := represents.queued_cell 0 queued
    rw [if_pos queued, loaded, same]
    rfl
  · have none : state.usageQueue = [] := List.length_eq_zero_iff.mp (by rw [represents.queue_length]; omega)
    rw [if_neg queued, none]
    rfl

theorem usage_of (represents : Represents memory state) (index : Nat) :
    memory.usageOf index = .ok (state.usageOf index) := by
  rw [ParserMemory.usageOf, ParserState.usageOf]
  by_cases queued : index < memory.usageCount
  · obtain ⟨usage, loaded, same⟩ := represents.queued_cell index queued
    rw [if_pos queued, loaded, same]
    rfl
  · rw [if_neg queued, List.getElem?_eq_none (by rw [represents.queue_length]; omega), Option.getD_none]
    by_cases any : memory.usageCount > 0
    · obtain ⟨usage, loaded, same⟩ := represents.queued_cell (memory.usageCount - 1) (by omega)
      rw [if_pos any, loaded, List.getLast?_eq_getElem?, represents.queue_length, same]
      rfl
    · have none : state.usageQueue = [] := List.length_eq_zero_iff.mp (by rw [represents.queue_length]; omega)
      rw [if_neg any, none]
      rfl

theorem collection (represents : Represents memory state) :
    ∃ next, memory.collection = .ok next ∧ Represents next state.collection := by
  simp only [ParserMemory.collection, represents.first_usage, bind, Except.bind]
  by_cases room : memory.collDepth < hidMaxPath
  · obtain ⟨stack, stored, size, taken⟩ := store_next memory.collStack memory.collDepth
      (hidUp memory.currentPage (state.usageQueue.headD 0)) (by rw [represents.stackSize]; exact room)
    rw [if_pos room, stored]
    refine ⟨_, rfl, { represents with
      stackSize := size.trans represents.stackSize
      depth := room
      queued := Nat.zero_le _
      collStack := ?_
      usageQueue := rfl }⟩
    rw [ParserState.collection, represents.stack_length, if_pos room, taken, represents.collStack,
      represents.currentPage]
  · rw [if_neg room]
    refine ⟨_, rfl, { represents with
      queued := Nat.zero_le _
      collStack := ?_
      usageQueue := rfl }⟩
    rw [ParserState.collection, represents.stack_length, if_neg room, represents.collStack]

theorem end_collection (represents : Represents memory state) :
    Represents memory.endCollection state.endCollection := by
  rw [ParserMemory.endCollection]
  by_cases any : memory.collDepth > 0
  · rw [if_pos any]
    refine { represents with depth := Nat.le_trans (Nat.sub_le _ _) represents.depth, collStack := ?_ }
    rw [ParserState.endCollection, List.dropLast_eq_take, represents.stack_length, represents.collStack,
      List.take_take, Nat.min_eq_left (Nat.sub_le _ _)]
  · rw [if_neg any]
    refine { represents with collStack := ?_ }
    have none : memory.collDepth = 0 := by omega
    rw [ParserState.endCollection, represents.collStack, none]
    rfl

-- The path loop copies what is left of the stack behind what it has copied.
theorem copy_stack (represents : Represents memory state) (left ci : Nat) (cells : List (BitVec 32))
    (size : cells.length = hidMaxPath) (ahead : ci + left = memory.collDepth)
    (copied : cells.take ci = state.collStack.take ci) :
    ∃ after, memory.copyStack left ci cells ci = .ok (after, memory.collDepth) ∧ after.length = hidMaxPath ∧
      after.take memory.collDepth = state.collStack := by
  have bound := represents.depth
  have depth := represents.stack_length
  induction left generalizing ci cells with
  | zero =>
    rw [Nat.add_zero] at ahead
    refine ⟨cells, by rw [ParserMemory.copyStack, ahead], size, ?_⟩
    rw [← ahead, copied, ahead, ← depth, List.take_length]
  | succ left ih =>
    have inStack : ci < memory.collStack.length := by rw [represents.stackSize]; omega
    have loaded : load memory.collStack ci = .ok memory.collStack[ci] :=
      load_inside _ _ _ (List.getElem?_eq_getElem inStack)
    obtain ⟨stored, written, storedSize, taken⟩ := store_next cells ci memory.collStack[ci] (by omega)
    have inState : ci < state.collStack.length := by omega
    have same : state.collStack[ci] = memory.collStack[ci] := by
      rw [List.getElem_of_eq represents.collStack, List.getElem_take]
    rw [ParserMemory.copyStack, if_pos (by omega), loaded]
    simp only [bind, Except.bind, written]
    exact ih (ci + 1) stored (storedSize.trans size) (by omega)
      (by rw [taken, copied, List.take_succ_eq_append_getElem inState, same])

theorem build_path (represents : Represents memory state) (usage : BitVec 16) :
    memory.buildPath usage =
      .ok ((state.collStack ++ [hidUp state.currentPage usage]).take hidMaxPath) := by
  have bound := represents.depth
  have depth := represents.stack_length
  obtain ⟨cells, copied, size, same⟩ := represents.copy_stack memory.collDepth 0 (List.replicate hidMaxPath 0)
    List.length_replicate (Nat.zero_add _) rfl
  simp only [ParserMemory.buildPath, copied, bind, Except.bind]
  by_cases room : memory.collDepth < hidMaxPath
  · obtain ⟨stored, written, _, taken⟩ := store_next cells memory.collDepth (hidUp memory.currentPage usage) (by omega)
    have whole : (state.collStack ++ [hidUp memory.currentPage usage]).length ≤ hidMaxPath := by
      rw [List.length_append, List.length_singleton]
      omega
    rw [if_pos room, written, represents.currentPage, List.take_of_length_le whole]
    simp only [taken, same]
  · have full : memory.collDepth = hidMaxPath := by omega
    rw [if_neg room, same, List.take_append_of_le_length (by omega), List.take_of_length_le (by omega)]

theorem made_field (represents : Represents memory state) (type : FieldType) (usage : BitVec 16) :
    state.makeField type usage =
      { usagePath := (state.collStack ++ [hidUp state.currentPage usage]).take hidMaxPath
        usagePage := memory.currentPage
        usageId := usage
        reportId := memory.reportId
        bitOffset := state.bitOffsets memory.reportId type
        bitSize := memory.reportSize.setWidth 16
        type
        logicalMin := memory.logicalMin
        logicalMax := memory.logicalMax
        physicalMin := memory.physicalMin
        physicalMax := memory.physicalMax
        unitExponent := decodeUnitExponent memory.unitExpRaw
        unit := memory.unit } := by
  rw [ParserState.makeField, represents.currentPage, represents.reportId, represents.reportSize, represents.logicalMin,
    represents.logicalMax, represents.physicalMin, represents.physicalMax, represents.unitExpRaw, represents.unit]

theorem advanced_offsets (represents : Represents memory state) (type : FieldType) (row : List (BitVec 16))
    (isRow : memory.bitOffsets[memory.reportId.toNat]? = some row) (id : Byte) (other : FieldType) :
    ∃ after, (memory.bitOffsets.set memory.reportId.toNat
        (row.set type.index (state.bitOffsets memory.reportId type + memory.reportSize.setWidth 16)))[id.toNat]? =
          some after ∧
      after[other.index]? = some (state.advanceOffset type id other) := by
  obtain ⟨old, isOld, offset⟩ := represents.offsets id other
  by_cases report : memory.reportId = id
  · obtain rfl : row = old := by
      rw [← report, isRow, Option.some.injEq] at isOld
      exact isOld
    have rowRoom := (List.getElem?_eq_some_iff.mp isRow).1
    refine ⟨_, by rw [← report, List.getElem?_set_self rowRoom], ?_⟩
    by_cases same : type = other
    · have cellRoom := (List.getElem?_eq_some_iff.mp offset).1
      rw [← same] at cellRoom
      rw [← report, ← same, List.getElem?_set_self cellRoom, ← represents.reportId, state.advance_offset_same,
        represents.reportSize]
    · have apart : type.index ≠ other.index := fun equal => same (type_index_injective type other equal)
      rw [List.getElem?_set_ne apart, offset, state.advance_offset_other type id other fun both => same both.2]
  · have apart : memory.reportId.toNat ≠ id.toNat := fun equal => report (BitVec.toNat_inj.mp equal)
    refine ⟨old, by rw [List.getElem?_set_ne apart, isOld], ?_⟩
    rw [offset, state.advance_offset_other type id other fun both => report (represents.reportId ▸ both.1)]

theorem emit_field (represents : Represents memory state) (type : FieldType) (index : Nat)
    (room : memory.count < hidMaxFields) :
    ∃ next, memory.emitField type index = .ok next ∧ Represents next (state.emitField type index) := by
  obtain ⟨row, isRow, isOffset⟩ := represents.offsets memory.reportId type
  obtain ⟨fields, storedField, tableSize, taken⟩ := store_next memory.fields memory.count
    (state.makeField type (state.usageOf index)) (by rw [represents.tableSize]; exact room)
  have storedOffset := store_inside row type.index (state.bitOffsets memory.reportId type + memory.reportSize.setWidth 16)
    (List.getElem?_eq_some_iff.mp isOffset).1
  have storedRow := fun row => store_inside memory.bitOffsets memory.reportId.toNat row
    (List.getElem?_eq_some_iff.mp isRow).1
  simp only [ParserMemory.emitField, represents.usage_of, represents.build_path, load_inside _ _ _ isRow,
    load_inside _ _ _ isOffset, ← represents.made_field, storedField, storedOffset, storedRow, bind, Except.bind]
  refine ⟨_, rfl, { represents with
    tableSize := tableSize.trans represents.tableSize
    counted := room
    map := ?_
    offsets := represents.advanced_offsets type row isRow }⟩
  rw [ParserState.emitField, represents.map]
  exact taken.symm

theorem emit_fields (represents : Represents memory state) (type : FieldType) (left index : Nat) :
    ∃ next, ParserMemory.emitFields type left index memory = .ok next ∧
      Represents next (ParserState.emitFields type left index state) := by
  induction left generalizing memory state index with
  | zero => exact ⟨memory, rfl, represents⟩
  | succ left ih =>
    rw [ParserMemory.emitFields, ParserState.emitFields, represents.map_length]
    by_cases room : memory.count < hidMaxFields
    · obtain ⟨next, emitted, after⟩ := represents.emit_field type index room
      rw [if_pos room, if_pos room, emitted]
      exact ih after (index + 1)
    · rw [if_neg room, if_neg room]
      exact ⟨memory, rfl, represents⟩

theorem data_item (represents : Represents memory state) (type : FieldType) :
    ∃ next, memory.dataItem type = .ok next ∧ Represents next (state.dataItem type) := by
  obtain ⟨next, emitted, after⟩ := represents.emit_fields type memory.reportCount.toNat 0
  simp only [ParserMemory.dataItem, emitted, bind, Except.bind]
  rw [ParserState.dataItem, represents.reportCount]
  exact ⟨_, rfl, { after with queued := Nat.zero_le _, usageQueue := rfl }⟩

theorem main_item (represents : Represents memory state) (tag : Nat) :
    ∃ next, memory.mainItem tag = .ok next ∧ Represents next (state.mainItem tag) := by
  unfold ParserMemory.mainItem
  split
  · exact represents.collection
  · exact ⟨_, rfl, represents.end_collection⟩
  · exact represents.data_item .input
  · exact represents.data_item .output
  · exact represents.data_item .feature
  · simp only [ParserState.mainItem]
    exact ⟨memory, rfl, represents⟩

theorem item (represents : Represents memory state) (first : Byte) (value : BitVec 32) (size : Nat) :
    ∃ next, memory.item first value size = .ok next ∧ Represents next (state.item first value size) := by
  unfold ParserMemory.item
  split
  · rename_i isMain
    simp only [ParserState.item, isMain]
    exact represents.main_item _
  · rename_i isGlobal
    simp only [ParserState.item, isGlobal]
    exact ⟨_, rfl, represents.global_item _ value size⟩
  · rename_i isLocal
    simp only [ParserState.item, isLocal]
    exact represents.local_item _ value
  · simp only [ParserState.item]
    exact ⟨memory, rfl, represents⟩

end Represents

theorem byte_read (desc : List Byte) (index : Nat) (inside : index < desc.length) :
    byteAt desc index = .ok (desc[index].setWidth 32) := by
  rw [byteAt, List.getElem?_eq_getElem inside]

theorem item_value_one (first : Byte) : itemValue [first] = first.setWidth 32 := by simp [itemValue]

theorem item_value_more (first : Byte) (rest : List Byte) :
    itemValue (first :: rest) = itemValue rest <<< 8 ||| first.setWidth 32 := rfl

theorem item_value_two (first second : Byte) :
    itemValue [first, second] = first.setWidth 32 ||| second.setWidth 32 <<< 8 := by
  rw [item_value_more, item_value_one, BitVec.or_comm]

theorem item_value_four (first second third fourth : Byte) :
    itemValue [first, second, third, fourth] =
      first.setWidth 32 ||| second.setWidth 32 <<< 8 ||| third.setWidth 32 <<< 16 ||| fourth.setWidth 32 <<< 24 := by
  rw [item_value_more, item_value_more, item_value_two, BitVec.shiftLeft_or_distrib, BitVec.shiftLeft_or_distrib,
    BitVec.shiftLeft_or_distrib, ← BitVec.shiftLeft_add, ← BitVec.shiftLeft_add, ← BitVec.shiftLeft_add]
  generalize first.setWidth 32 = a, second.setWidth 32 <<< 8 = b
  generalize third.setWidth 32 <<< (8 + 8) = c
  generalize fourth.setWidth 32 <<< (8 + 8 + 8) = d
  ac_rfl

theorem take_bytes (desc : List Byte) (start size : Nat) (inside : start < desc.length) :
    (desc.drop start).take (size + 1) = desc[start] :: (desc.drop (start + 1)).take size := by
  rw [List.drop_eq_getElem_cons inside, List.take_succ_cons]

theorem read_value (desc : List Byte) (i : Nat) (first : Byte) (inside : i + 1 + itemSize first ≤ desc.length) :
    readValue desc i (itemSize first) = .ok (itemValue ((desc.drop (i + 1)).take (itemSize first))) := by
  have sizes : itemSize first = 0 ∨ itemSize first = 1 ∨ itemSize first = 2 ∨ itemSize first = 4 := by
    rw [itemSize]
    split <;> omega
  obtain size | size | size | size := sizes
  · rw [size]
    rfl
  · rw [size] at inside ⊢
    rw [take_bytes desc (i + 1) 0 (by omega), List.take_zero, item_value_one]
    exact byte_read desc (i + 1) (by omega)
  · rw [size] at inside ⊢
    rw [take_bytes desc (i + 1) 1 (by omega), take_bytes desc (i + 2) 0 (by omega), List.take_zero, item_value_two,
      readValue, byte_read desc (i + 1) (by omega), byte_read desc (i + 2) (by omega)]
    rfl
  · rw [size] at inside ⊢
    rw [take_bytes desc (i + 1) 3 (by omega), take_bytes desc (i + 2) 2 (by omega),
      take_bytes desc (i + 3) 1 (by omega), take_bytes desc (i + 4) 0 (by omega), List.take_zero, item_value_four,
      readValue, byte_read desc (i + 1) (by omega), byte_read desc (i + 2) (by omega),
      byte_read desc (i + 3) (by omega), byte_read desc (i + 4) (by omega)]
    rfl

-- What one iteration does: it takes a whole item of the descriptor, and what the
-- table holds stays; a full table does not change.
structure Turn (desc : List Byte) (memory next : ParserMemory) : Prop where
  inside : memory.i < desc.length
  advance : next.i = memory.i + 1 + itemSize (desc.getD memory.i 0)
  complete : next.i ≤ desc.length
  kept : memory.reportMap <+: next.reportMap
  counted : next.count ≤ hidMaxFields
  full : memory.count = hidMaxFields → next.count = hidMaxFields ∧ next.fields = memory.fields

theorem turn_full (memory next : ParserMemory) (before after : ParserState) (represents : Represents memory before)
    (represented : Represents next after) (extended : before.map <+: after.map) (full : memory.count = hidMaxFields) :
    next.count = hidMaxFields ∧ next.fields = memory.fields := by
  have bound := represented.counted
  have longer := extended.length_le
  rw [represents.map_length, represented.map_length] at longer
  have count : next.count = hidMaxFields := by omega
  have same := extended.eq_of_length (by rw [represents.map_length, represented.map_length, full, count])
  rw [represents.map, represented.map, ParserMemory.reportMap, ParserMemory.reportMap, full, count, List.take_of_length_le (Nat.le_of_eq represents.tableSize),
    List.take_of_length_le (Nat.le_of_eq represented.tableSize)] at same
  exact ⟨count, same.symm⟩

theorem iteration_safe (desc : List Byte) (memory : ParserMemory) (state : ParserState)
    (represents : Represents memory state) :
    (iteration desc memory = .ok none ∧ ∀ left, parseItems left (desc.drop memory.i) state = state) ∨
      ∃ next after, iteration desc memory = .ok (some next) ∧ Turn desc memory next ∧ Represents next after ∧
        ∀ left, parseItems (left + 1) (desc.drop memory.i) state = parseItems left (desc.drop next.i) after := by
  by_cases inside : memory.i < desc.length
  · have split := List.drop_eq_getElem_cons inside
    have loaded := load_inside desc memory.i desc[memory.i] (List.getElem?_eq_getElem inside)
    rw [iteration, if_pos inside, loaded]
    simp only [bind, Except.bind]
    by_cases cut : memory.i + 1 + itemSize desc[memory.i] > desc.length
    · refine Or.inl ⟨if_pos cut, fun left => ?_⟩
      cases left with
      | zero => rfl
      | succ left =>
        rw [split, parseItems, if_pos]
        rw [List.length_drop]
        omega
    · have value := read_value desc memory.i desc[memory.i] (by omega)
      obtain ⟨next, done, after⟩ := represents.item desc[memory.i]
        (itemValue ((desc.drop (memory.i + 1)).take (itemSize desc[memory.i]))) (itemSize desc[memory.i])
      rw [if_neg cut, value]
      simp only [done]
      refine Or.inr ⟨_, _, rfl, ?_, { after with }, fun left => ?_⟩
      · have extended := state.item_extends desc[memory.i]
          (itemValue ((desc.drop (memory.i + 1)).take (itemSize desc[memory.i]))) (itemSize desc[memory.i])
        refine ⟨inside, ?_, ?_, ?_, after.counted, turn_full memory next _ _ represents after extended⟩
        · rw [List.getD_eq_getElem _ _ inside]
        · exact Nat.not_lt.mp cut
        · rw [represents.map, after.map] at extended
          exact extended
      · rw [split, parseItems, if_neg]
        · rw [List.drop_drop]
        · rw [List.length_drop]
          omega
  · refine Or.inl ⟨if_neg inside, fun left => ?_⟩
    rw [List.drop_of_length_le (Nat.not_lt.mp inside)]
    cases left <;> rfl

theorem loop_ended (desc : List Byte) (left : Nat) (memory : ParserMemory) (ended : iteration desc memory = .ok none) :
    parseLoop desc left memory = .ok (some []) := by
  cases left with
  | zero => rw [parseLoop, ended]; rfl
  | succ left => rw [parseLoop, ended]; rfl

-- The loop from any place on: no access fails, it ends with the bytes, and what
-- it leaves is what the parser's state is.
theorem loop_safe (desc : List Byte) (left : Nat) (memory : ParserMemory) (state : ParserState)
    (represents : Represents memory state) (enough : desc.length - memory.i ≤ left) :
    ∃ turns, parseLoop desc left memory = .ok (some turns) ∧ turns.length ≤ left ∧
      (∀ pair ∈ Sequences.pairs (memory :: turns), Turn desc pair.1 pair.2) ∧
      Represents (turns.getLastD memory) (parseItems left (desc.drop memory.i) state) := by
  induction left generalizing memory state with
  | zero =>
    obtain ⟨ended, same⟩ | ⟨next, _, _, turn, _⟩ := iteration_safe desc memory state represents
    · refine ⟨[], loop_ended desc 0 memory ended, Nat.le_refl 0, List.forall_mem_nil _, ?_⟩
      rw [same]
      exact represents
    · have inside := turn.inside
      omega
  | succ left ih =>
    obtain ⟨ended, same⟩ | ⟨next, after, went, turn, represented, same⟩ := iteration_safe desc memory state represents
    · refine ⟨[], loop_ended desc (left + 1) memory ended, Nat.zero_le _, List.forall_mem_nil _, ?_⟩
      rw [same]
      exact represents
    · have advance := turn.advance
      obtain ⟨turns, looped, count, each, last⟩ := ih next after represented (by omega)
      refine ⟨next :: turns, ?_, ?_, ?_, ?_⟩
      · rw [parseLoop, went]
        simp only [bind, Except.bind, looped, Option.map_some]
      · rw [List.length_cons]
        omega
      · intro pair member
        rw [Sequences.pairs_cons, List.mem_cons] at member
        obtain rfl | later := member
        · exact turn
        · exact each pair later
      · rw [same]
        cases turns with
        | nil => exact last
        | cons second rest => exact last

-- The whole of hid_parse_descriptor on any bytes, whatever the uninitialised
-- stack and queue hold: at most as many iterations as bytes, each of a complete
-- item, no access outside an array, and the fields of the parser.
theorem parse_stays_in_bounds (desc : List Byte) (stack : Vector (BitVec 32) hidMaxPath)
    (queue : Vector (BitVec 16) usageQueueLength) :
    ∃ turns, parseLoop desc desc.length (ParserMemory.initial stack queue) = .ok (some turns) ∧
      turns.length ≤ desc.length ∧
      (∀ pair ∈ Sequences.pairs (ParserMemory.initial stack queue :: turns), Turn desc pair.1 pair.2) ∧
      (turns.getLastD (ParserMemory.initial stack queue)).reportMap = hidParseDescriptor desc := by
  obtain ⟨turns, looped, count, each, last⟩ := loop_safe desc desc.length (ParserMemory.initial stack queue)
    ParserState.initial (Represents.initial stack queue) (Nat.sub_le _ _)
  exact ⟨turns, looped, count, each, last.map.symm⟩

end AiriesUps.Hid
