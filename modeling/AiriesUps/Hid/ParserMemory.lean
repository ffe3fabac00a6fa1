import AiriesUps.Hid.FieldRead

set_option autoImplicit false

namespace AiriesUps.Hid

open PackedBits (Byte)

-- An access to an array by index, checked against its size.
def load {Cell : Type} (cells : List Cell) (index : Nat) : Except Fault Cell :=
  match cells[index]? with
  | some cell => .ok cell
  | none => .error .bufferOverrun

def store {Cell : Type} (cells : List Cell) (index : Nat) (cell : Cell) : Except Fault (List Cell) :=
  if index < cells.length then .ok (cells.set index cell) else .error .bufferOverrun

def FieldType.index : FieldType → Nat
  | .input => 0
  | .output => 1
  | .feature => 2

-- The locals of hid_parse_descriptor as they lie in memory: arrays of fixed
-- size beside the counts of what is in them.
structure ParserMemory where
  i : Nat
  collStack : List (BitVec 32)
  collDepth : Nat
  currentPage : BitVec 16
  logicalMin : Int
  logicalMax : Int
  physicalMin : Int
  physicalMax : Int
  unitExpRaw : Int
  unit : BitVec 32
  reportSize : BitVec 32
  reportCount : BitVec 32
  reportId : Byte
  bitOffsets : List (List (BitVec 16))
  usageQueue : List (BitVec 16)
  usageCount : Nat
  fields : List HidField
  count : Nat

-- memset(map, 0, sizeof(*map))
def blankField : HidField :=
  { usagePath := [], usagePage := 0, usageId := 0, reportId := 0, bitOffset := 0, bitSize := 0, type := .input
    logicalMin := 0, logicalMax := 0, physicalMin := 0, physicalMax := 0, unitExponent := 0, unit := 0 }

namespace ParserMemory

-- The stack and the queue are not initialised: they hold whatever was there.
def initial (stack : Vector (BitVec 32) hidMaxPath) (queue : Vector (BitVec 16) usageQueueLength) : ParserMemory :=
  { i := 0, collStack := stack.toList, collDepth := 0, currentPage := 0, logicalMin := 0, logicalMax := 0
    physicalMin := 0, physicalMax := 0, unitExpRaw := 0, unit := 0, reportSize := 0, reportCount := 0, reportId := 0
    bitOffsets := List.replicate 256 (List.replicate 3 0), usageQueue := queue.toList, usageCount := 0
    fields := List.replicate hidMaxFields blankField, count := 0 }

def reportMap (memory : ParserMemory) : ReportMap := memory.fields.take memory.count

def globalItem (memory : ParserMemory) (tag : Nat) (value : BitVec 32) (size : Nat) : ParserMemory :=
  match tag with
  | 0 => { memory with currentPage := value.setWidth 16 }
  | 1 => { memory with logicalMin := signedVal value size }
  | 2 => { memory with logicalMax := signedVal value size }
  | 3 => { memory with physicalMin := signedVal value size }
  | 4 => { memory with physicalMax := signedVal value size }
  | 5 => { memory with unitExpRaw := signedVal value size }
  | 6 => { memory with unit := value }
  | 7 => { memory with reportSize := value }
  | 8 => { memory with reportId := value.setWidth 8 }
  | 9 => { memory with reportCount := value }
  | _ => memory

def localItem (memory : ParserMemory) (tag : Nat) (value : BitVec 32) : Except Fault ParserMemory :=
  if tag = 0 ∧ memory.usageCount < usageQueueLength then do
    let queue ← store memory.usageQueue memory.usageCount (value.setWidth 16)
    .ok { memory with usageQueue := queue, usageCount := memory.usageCount + 1 }
  else .ok memory

def firstUsage (memory : ParserMemory) : Except Fault (BitVec 16) :=
  if memory.usageCount > 0 then load memory.usageQueue 0 else .ok 0

def collection (memory : ParserMemory) : Except Fault ParserMemory := do
  let usage ← memory.firstUsage
  if memory.collDepth < hidMaxPath then do
    let stack ← store memory.collStack memory.collDepth (hidUp memory.currentPage usage)
    .ok { memory with collStack := stack, collDepth := memory.collDepth + 1, usageCount := 0 }
  else .ok { memory with usageCount := 0 }

def endCollection (memory : ParserMemory) : ParserMemory :=
  if memory.collDepth > 0 then { memory with collDepth := memory.collDepth - 1 } else memory

def usageOf (memory : ParserMemory) (index : Nat) : Except Fault (BitVec 16) :=
  if index < memory.usageCount then load memory.usageQueue index
  else if memory.usageCount > 0 then load memory.usageQueue (memory.usageCount - 1)
  else .ok 0

-- for (ci = 0; ci < coll_depth && depth < HID_MAX_PATH; ci++), over one field's cells
def copyStack (memory : ParserMemory) : Nat → Nat → List (BitVec 32) → Nat → Except Fault (List (BitVec 32) × Nat)
  | 0, _, cells, depth => .ok (cells, depth)
  | left + 1, ci, cells, depth =>
    if depth < hidMaxPath then do
      let up ← load memory.collStack ci
      let cells ← store cells depth up
      memory.copyStack left (ci + 1) cells (depth + 1)
    else .ok (cells, depth)

def buildPath (memory : ParserMemory) (usage : BitVec 16) : Except Fault (List (BitVec 32)) := do
  let (cells, depth) ← memory.copyStack memory.collDepth 0 (List.replicate hidMaxPath 0) 0
  if depth < hidMaxPath then do
    let cells ← store cells depth (hidUp memory.currentPage usage)
    .ok (cells.take (depth + 1))
  else .ok (cells.take depth)

def emitField (memory : ParserMemory) (type : FieldType) (index : Nat) : Except Fault ParserMemory := do
  let usage ← memory.usageOf index
  let path ← memory.buildPath usage
  let row ← load memory.bitOffsets memory.reportId.toNat
  let offset ← load row type.index
  let fields ← store memory.fields memory.count
    { usagePath := path
      usagePage := memory.currentPage
      usageId := usage
      reportId := memory.reportId
      bitOffset := offset
      bitSize := memory.reportSize.setWidth 16
      type
      logicalMin := memory.logicalMin
      logicalMax := memory.logicalMax
      physicalMin := memory.physicalMin
      physicalMax := memory.physicalMax
      unitExponent := decodeUnitExponent memory.unitExpRaw
      unit := memory.unit }
  let row ← store row type.index (offset + memory.reportSize.setWidth 16)
  let bitOffsets ← store memory.bitOffsets memory.reportId.toNat row
  .ok { memory with fields, bitOffsets, count := memory.count + 1 }

def emitFields (type : FieldType) : Nat → Nat → ParserMemory → Except Fault ParserMemory
  | 0, _, memory => .ok memory
  | left + 1, index, memory =>
    if memory.count < hidMaxFields then do
      let memory ← memory.emitField type index
      emitFields type left (index + 1) memory
    else .ok memory

def dataItem (memory : ParserMemory) (type : FieldType) : Except Fault ParserMemory := do
  let memory ← emitFields type memory.reportCount.toNat 0 memory
  .ok { memory with usageCount := 0 }

def mainItem (memory : ParserMemory) (tag : Nat) : Except Fault ParserMemory :=
  match tag with
  | 0x0A => memory.collection
  | 0x0C => .ok memory.endCollection
  | 0x08 => memory.dataItem .input
  | 0x09 => memory.dataItem .output
  | 0x0B => memory.dataItem .feature
  | _ => .ok memory

def item (memory : ParserMemory) (first : Byte) (value : BitVec 32) (size : Nat) : Except Fault ParserMemory :=
  match first.toNat / 4 % 4 with
  | 0 => memory.mainItem (first.toNat / 16)
  | 1 => .ok (memory.globalItem (first.toNat / 16) value size)
  | 2 => memory.localItem (first.toNat / 16) value
  | _ => .ok memory

end ParserMemory

-- The bytes desc[i + 1] to desc[i + size] as a value.
def readValue (desc : List Byte) (i : Nat) (size : Nat) : Except Fault (BitVec 32) :=
  match size with
  | 1 => byteAt desc (i + 1)
  | 2 => do
    let first ← byteAt desc (i + 1)
    let second ← byteAt desc (i + 2)
    .ok (first ||| second <<< 8)
  | 4 => do
    let first ← byteAt desc (i + 1)
    let second ← byteAt desc (i + 2)
    let third ← byteAt desc (i + 3)
    let fourth ← byteAt desc (i + 4)
    .ok (first ||| second <<< 8 ||| third <<< 16 ||| fourth <<< 24)
  | _ => .ok 0

-- One iteration of while (i < len); none is the end of the loop.
def iteration (desc : List Byte) (memory : ParserMemory) : Except Fault (Option ParserMemory) :=
  if memory.i < desc.length then do
    let first ← load desc memory.i
    if memory.i + 1 + itemSize first > desc.length then .ok none
    else do
      let value ← readValue desc memory.i (itemSize first)
      let next ← memory.item first value (itemSize first)
      .ok (some { next with i := memory.i + 1 + itemSize first })
  else .ok none

-- The loop with at most the given number of iterations, and the memory after
-- each of them; none is a loop that goes on.
def parseLoop (desc : List Byte) : Nat → ParserMemory → Except Fault (Option (List ParserMemory))
  | left, memory => do
    match ← iteration desc memory with
    | none => .ok (some [])
    | some next =>
      match left with
      | 0 => .ok none
      | left + 1 => do
        let rest ← parseLoop desc left next
        .ok (rest.map (next :: ·))

end AiriesUps.Hid
