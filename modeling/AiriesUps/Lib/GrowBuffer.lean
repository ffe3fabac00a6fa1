import AiriesUps.Lib.CBuffer

set_option autoImplicit false

namespace GrowBuffer

open CBuffer (storeAll)

-- memory is what was allocated, all of it; no memory is the null pointer.
structure Buffer (Cell : Type) where
  memory : List Cell
  length : Nat
deriving DecidableEq, Repr

section

variable {Cell : Type}

-- outside is an access beyond the memory.
inductive Appended (Cell : Type) where
  | refused
  | outside
  | stored (buffer : Buffer Cell)
deriving DecidableEq, Repr

def write (nul : Cell) (buffer : Buffer Cell) (chunk : List Cell) : Appended Cell :=
  match storeAll buffer.memory buffer.length (chunk ++ [nul]) with
  | none => .outside
  | some memory => .stored { memory := memory, length := buffer.length + chunk.length }

def grown (buffer : Buffer Cell) (size : Nat) (filler : Cell) : Buffer Cell :=
  { buffer with memory := buffer.memory ++ List.replicate (size - buffer.memory.length) filler }

-- newSize is asked for where the chunk and its terminator do not fit. filler is what
-- realloc leaves in the new memory, or none where it fails.
def append (nul : Cell) (newSize : Nat → Nat → Nat) (buffer : Buffer Cell) (chunk : List Cell) (filler : Option Cell) :
    Appended Cell :=
  if buffer.length + chunk.length + 1 > buffer.memory.length then
    match filler with
    | none => .refused
    | some cell =>
      write nul (grown buffer (newSize (buffer.length + chunk.length + 1) buffer.memory.length) cell) chunk
  else write nul buffer chunk

structure Terminated (nul : Cell) (buffer : Buffer Cell) (text : List Cell) : Prop where
  length : buffer.length = text.length
  memory : ∃ rest, buffer.memory = text ++ nul :: rest

-- The same, or nothing was allocated yet.
inductive Holds (nul : Cell) (buffer : Buffer Cell) (text : List Cell) : Prop where
  | unallocated (memory : buffer.memory = []) (length : buffer.length = 0) (empty : text = [])
  | terminated (kept : Terminated nul buffer text)

theorem holds_prefix (nul : Cell) (buffer : Buffer Cell) (text : List Cell) (holds : Holds nul buffer text) :
    buffer.length = text.length ∧ ∃ rest, buffer.memory = text ++ rest := by
  cases holds with
  | unallocated memory length empty =>
    subst empty
    exact ⟨length, buffer.memory, rfl⟩
  | terminated kept =>
    obtain ⟨rest, whole⟩ := kept.memory
    exact ⟨kept.length, nul :: rest, whole⟩

theorem write_holds (nul : Cell) (buffer : Buffer Cell) (text chunk : List Cell) (length : buffer.length = text.length)
    (rest : List Cell) (whole : buffer.memory = text ++ rest) (room : text.length + chunk.length + 1 ≤ buffer.memory.length) :
    ∃ next, write nul buffer chunk = .stored next ∧ Terminated nul next (text ++ chunk) := by
  have wide : chunk.length + 1 ≤ rest.length := by
    rw [whole, List.length_append] at room
    omega
  have parts : buffer.memory = text ++ rest.take (chunk.length + 1) ++ rest.drop (chunk.length + 1) := by
    rw [List.append_assoc, List.take_append_drop, whole]
  have stored := CBuffer.store_all_split text (rest.take (chunk.length + 1)) (rest.drop (chunk.length + 1)) (chunk ++ [nul])
    (by rw [List.length_append, List.length_take, List.length_singleton]; omega)
  rw [← parts, ← length] at stored
  refine ⟨_, by rw [write, stored], ⟨?_, rest.drop (chunk.length + 1), ?_⟩⟩
  · rw [List.length_append, length]
  · simp only [List.append_assoc, List.cons_append, List.nil_append]

-- A size that is large enough keeps every access inside, and what is refused changes
-- nothing.
theorem append_holds (nul : Cell) (newSize : Nat → Nat → Nat) (enough : ∀ needed capacity, needed ≤ newSize needed capacity)
    (buffer : Buffer Cell) (text chunk : List Cell) (filler : Option Cell) (holds : Holds nul buffer text) :
    (append nul newSize buffer chunk filler = .refused ∧ filler = none) ∨
      ∃ next, append nul newSize buffer chunk filler = .stored next ∧ Terminated nul next (text ++ chunk) := by
  obtain ⟨length, rest, whole⟩ := holds_prefix nul buffer text holds
  rw [append.eq_def]
  split
  · cases filler with
    | none => exact Or.inl ⟨rfl, rfl⟩
    | some cell =>
      right
      have size := enough (buffer.length + chunk.length + 1) buffer.memory.length
      refine write_holds nul (grown buffer (newSize (buffer.length + chunk.length + 1) buffer.memory.length) cell) text chunk
        length (rest ++ List.replicate _ cell) (by rw [grown, whole, List.append_assoc]) ?_
      rw [grown, List.length_append, List.length_replicate, ← length]
      omega
  · right
    exact write_holds nul buffer text chunk length rest whole (by omega)

end

end GrowBuffer
