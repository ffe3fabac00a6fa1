import Mathlib.Algebra.Group.Nat.Defs
import Mathlib.Data.List.Basic
import Mathlib.Data.List.TakeWhile

set_option autoImplicit false

-- Buffers of a fixed size and the strings that C keeps in them, over cells of any
-- type with a terminator. An access outside the buffer has no result.
namespace CBuffer

section

variable {Cell : Type}

def store (buffer : List Cell) (index : Nat) (cell : Cell) : Option (List Cell) :=
  if index < buffer.length then some (buffer.set index cell) else none

def storeAll : List Cell → Nat → List Cell → Option (List Cell)
  | buffer, _, [] => some buffer
  | buffer, index, cell :: rest => (store buffer index cell).bind fun next => storeAll next (index + 1) rest

-- strncpy(buffer, source, count)
def strncpy (nul : Cell) (buffer source : List Cell) (count : Nat) : Option (List Cell) :=
  storeAll buffer 0 (source.take count ++ List.replicate (count - source.length) nul)

-- What snprintf(buffer + index, size, ...) writes of the formatted text.
def snprintf (nul : Cell) (buffer : List Cell) (index size : Nat) (formatted : List Cell) : Option (List Cell) :=
  if size = 0 then some buffer else storeAll buffer index (formatted.take (size - 1) ++ [nul])

-- The difference of two values of size_t, which wraps.
def sizeSub (left right : Nat) : Nat := if right ≤ left then left - right else left + 2 ^ 64 - right

theorem size_sub_le (left right : Nat) (fits : right ≤ left) : sizeSub left right = left - right := if_pos fits

theorem take_append_cut (first second : List Cell) (length : Nat) :
    (first.take length ++ second).take length = (first ++ second).take length := by
  rw [List.take_append, List.take_append, List.take_take, Nat.min_self, List.length_take]
  congr 2
  omega

theorem store_split (before : List Cell) (old cell : Cell) (after : List Cell) :
    store (before ++ old :: after) before.length cell = some (before ++ cell :: after) := by
  have inside : before.length < (before ++ old :: after).length := by
    rw [List.length_append, List.length_cons]
    omega
  rw [store, if_pos inside, List.set_append_right _ _ (Nat.le_refl _), Nat.sub_self, List.set_cons_zero]

theorem store_first (old cell : Cell) (after : List Cell) : store (old :: after) 0 cell = some (cell :: after) :=
  store_split [] old cell after

theorem store_length (buffer next : List Cell) (index : Nat) (cell : Cell) (stored : store buffer index cell = some next) :
    next.length = buffer.length := by
  rw [store] at stored
  split at stored
  · rw [← Option.some.inj stored, List.length_set]
  · cases stored

theorem store_all_split (before old after cells : List Cell) (same : cells.length = old.length) :
    storeAll (before ++ old ++ after) before.length cells = some (before ++ cells ++ after) := by
  induction cells generalizing before old with
  | nil => rw [List.length_eq_zero_iff.mp same.symm, storeAll]
  | cons cell rest ih =>
    cases old with
    | nil => cases same
    | cons first old =>
      have later := ih (before ++ [cell]) old (Nat.succ.inj same)
      rw [List.length_append, List.length_singleton] at later
      rw [storeAll, List.append_assoc, List.cons_append, store_split, Option.bind_some]
      simpa only [List.append_assoc, List.cons_append, List.nil_append] using later

theorem store_all_length (buffer next cells : List Cell) (index : Nat)
    (stored : storeAll buffer index cells = some next) : next.length = buffer.length := by
  induction cells generalizing buffer index with
  | nil =>
    rw [storeAll, Option.some.injEq] at stored
    rw [stored]
  | cons cell rest ih =>
    rw [storeAll, Option.bind_eq_some_iff] at stored
    obtain ⟨middle, first, later⟩ := stored
    rw [ih middle (index + 1) later, store_length buffer middle index cell first]

-- strncpy that stops at the end of the string leaves its end to what was there.
theorem strncpy_exact (nul : Cell) (buffer source : List Cell) (inside : source.length ≤ buffer.length) :
    strncpy nul buffer source source.length = some (source ++ buffer.drop source.length) := by
  have parts : buffer = [] ++ buffer.take source.length ++ buffer.drop source.length :=
    (List.take_append_drop source.length buffer).symm
  have stored := store_all_split [] (buffer.take source.length) (buffer.drop source.length) source
    (by rw [List.length_take]; omega)
  rw [← parts] at stored
  rw [strncpy, List.take_length, Nat.sub_self, List.replicate_zero, List.append_nil]
  exact stored

end

section

variable {Cell : Type} [DecidableEq Cell]

-- The string that starts the buffer; none where no terminator lies inside.
def text (nul : Cell) (buffer : List Cell) : Option (List Cell) :=
  if nul ∈ buffer then some (buffer.takeWhile fun cell => cell ≠ nul) else none

-- strncat(buffer, source, count)
def strncat (nul : Cell) (buffer source : List Cell) (count : Nat) : Option (List Cell) :=
  (text nul buffer).bind fun held => storeAll buffer held.length (source.take count ++ [nul])

theorem take_while_append (nul : Cell) (held rest : List Cell) (plain : nul ∉ held) :
    (held ++ nul :: rest).takeWhile (fun cell => decide (cell ≠ nul)) = held := by
  have every : ∀ cell ∈ held, decide (cell ≠ nul) = true := by
    intro cell member
    rw [decide_eq_true_iff]
    rintro rfl
    exact plain member
  rw [List.takeWhile_append_of_pos every, List.takeWhile_cons_of_neg (by simp), List.append_nil]

theorem text_eq_some_iff (nul : Cell) (buffer held : List Cell) :
    text nul buffer = some held ↔ nul ∉ held ∧ ∃ rest, buffer = held ++ nul :: rest := by
  constructor
  · intro found
    rw [text] at found
    split at found
    · obtain rfl := Option.some.inj found
      obtain ⟨before, rest, parts, plain⟩ := List.eq_append_cons_of_mem ‹nul ∈ buffer›
      rw [parts, take_while_append nul before rest plain]
      exact ⟨plain, rest, rfl⟩
    · cases found
  · rintro ⟨plain, rest, rfl⟩
    rw [text, if_pos (by simp), take_while_append nul held rest plain]

theorem text_terminated (nul : Cell) (written after : List Cell) :
    text nul (written ++ nul :: after) = some (written.takeWhile fun cell => cell ≠ nul) := by
  rw [text, if_pos (by simp), Option.some.injEq]
  induction written with
  | nil => exact List.takeWhile_cons_of_neg (by simp)
  | cons first rest ih =>
    by_cases ends : first = nul
    · rw [List.cons_append, List.takeWhile_cons_of_neg (by simpa using ends), List.takeWhile_cons_of_neg (by simpa using ends)]
    · rw [List.cons_append, List.takeWhile_cons_of_pos (by simpa using ends), List.takeWhile_cons_of_pos (by simpa using ends),
        ih]

theorem text_shorter (nul : Cell) (buffer held : List Cell) (found : text nul buffer = some held) :
    held.length < buffer.length := by
  obtain ⟨_, rest, rfl⟩ := (text_eq_some_iff nul buffer held).mp found
  rw [List.length_append, List.length_cons]
  omega

theorem text_store_all (nul : Cell) (held old cells after : List Cell) (plainHeld : nul ∉ held) (plain : nul ∉ cells)
    (same : cells.length + 1 = old.length) :
    ∃ next, storeAll (held ++ old ++ after) held.length (cells ++ [nul]) = some next ∧ text nul next = some (held ++ cells) := by
  have stored := store_all_split held old after (cells ++ [nul]) (by rw [List.length_append, List.length_singleton, same])
  refine ⟨_, stored, (text_eq_some_iff nul _ _).mpr ⟨?_, after, ?_⟩⟩
  · rw [List.mem_append, not_or]
    exact ⟨plainHeld, plain⟩
  · simp only [List.append_assoc, List.cons_append, List.nil_append]

-- snprintf into the rest of a buffer, from a place the string in it reaches: the string
-- goes on from there and is cut at the size.
theorem snprintf_rest (nul : Cell) (buffer held formatted : List Cell) (index : Nat) (found : text nul buffer = some held)
    (plain : nul ∉ formatted) (reached : index ≤ held.length) :
    ∃ next, snprintf nul buffer index (buffer.length - index) formatted = some next ∧ next.length = buffer.length ∧
      text nul next = some ((held.take index ++ formatted).take (buffer.length - 1)) := by
  have shorter := text_shorter nul buffer held found
  obtain ⟨plainHeld, rest, rfl⟩ := (text_eq_some_iff nul buffer held).mp found
  have front : (held.take index).length = index := List.length_take_of_le reached
  generalize whole : held ++ nul :: rest = buffer at shorter found ⊢
  have parts : buffer = held.take index ++ (buffer.drop index).take ((formatted.take (buffer.length - index - 1)).length + 1) ++
      buffer.drop (index + ((formatted.take (buffer.length - index - 1)).length + 1)) := by
    have start : held.take index = buffer.take index := by
      rw [← whole, List.take_append_of_le_length reached]
    rw [start, List.append_assoc, ← List.drop_drop, List.take_append_drop, List.take_append_drop]
  obtain ⟨next, stored, now⟩ := text_store_all nul (held.take index)
    ((buffer.drop index).take ((formatted.take (buffer.length - index - 1)).length + 1))
    (formatted.take (buffer.length - index - 1))
    (buffer.drop (index + ((formatted.take (buffer.length - index - 1)).length + 1)))
    (fun member => plainHeld (List.mem_of_mem_take member)) (fun member => plain (List.mem_of_mem_take member))
    (by simp only [List.length_take, List.length_drop]; omega)
  rw [← parts, front] at stored
  refine ⟨next, ?_, store_all_length _ _ _ _ stored, ?_⟩
  · rw [snprintf, if_neg (by omega)]
    exact stored
  · rw [now, List.take_append, List.take_of_length_le (show (held.take index).length ≤ buffer.length - 1 by omega), front]
    congr 3
    omega

-- strncat as it is used with the room that is left: the text is cut at the size.
theorem strncat_bounded (nul : Cell) (buffer held source : List Cell) (found : text nul buffer = some held)
    (plain : nul ∉ source) :
    ∃ next, strncat nul buffer source (sizeSub (sizeSub buffer.length held.length) 1) = some next ∧
      next.length = buffer.length ∧ text nul next = some ((held ++ source).take (buffer.length - 1)) := by
  have shorter := text_shorter nul buffer held found
  obtain ⟨next, stored, length, now⟩ := snprintf_rest nul buffer held source held.length found plain (Nat.le_refl _)
  refine ⟨next, ?_, length, by rwa [List.take_length] at now⟩
  rw [snprintf, if_neg (by omega)] at stored
  rw [strncat, found, Option.bind_some, size_sub_le _ _ shorter.le, size_sub_le _ _ (by omega)]
  exact stored

-- strncpy of a whole string with room to spare ends the string with its padding.
theorem strncpy_short (nul : Cell) (buffer source : List Cell) (count : Nat) (plain : nul ∉ source)
    (short : source.length < count) (inside : count ≤ buffer.length) :
    ∃ next, strncpy nul buffer source count = some next ∧ text nul next = some source := by
  have parts : buffer = [] ++ buffer.take count ++ buffer.drop count := (List.take_append_drop count buffer).symm
  have stored := store_all_split [] (buffer.take count) (buffer.drop count)
    (source.take count ++ List.replicate (count - source.length) nul)
    (by rw [List.length_append, List.length_take, List.length_replicate, List.length_take]; omega)
  rw [← parts] at stored
  refine ⟨_, stored, (text_eq_some_iff nul _ _).mpr ⟨plain, List.replicate (count - source.length - 1) nul ++ buffer.drop count, ?_⟩⟩
  obtain ⟨more, spare⟩ := Nat.exists_eq_add_of_lt (Nat.sub_pos_of_lt short)
  rw [List.take_of_length_le short.le, List.nil_append, spare, Nat.zero_add, Nat.add_sub_cancel, List.replicate_succ]
  simp only [List.append_assoc, List.cons_append]

end

end CBuffer
