import AiriesUps.Lib.GrowBuffer
import AiriesUps.Lib.PackedBits
import AiriesUps.Weather.Assess

set_option autoImplicit false

namespace AiriesUps.Weather

open GrowBuffer (Buffer Terminated)
open PackedBits (Byte)

def curlBufSize (needed _ : Nat) : Nat := needed * 2

-- The value of curl_write_cb with the buffer after it. memory is what realloc finds, none
-- where it fails; an access beyond the memory has no result.
def curlWriteCb (buffer : Buffer Byte) (chunk : List Byte) (memory : Option Byte) : Option (Nat × Buffer Byte) :=
  match GrowBuffer.append 0 curlBufSize buffer chunk memory with
  | .outside => none
  | .refused => some (0, buffer)
  | .stored next => some (chunk.length, next)

-- curl_easy_perform: a callback that does not take its whole chunk ends the transfer with
-- an error. finished says whether the transfer itself comes to its end.
def perform (finished : Bool) : Buffer Byte → List (List Byte × Option Byte) → Option (Bool × Buffer Byte)
  | buffer, [] => some (finished, buffer)
  | buffer, (chunk, memory) :: rest =>
    (curlWriteCb buffer chunk memory).bind fun (written, next) =>
      if written = chunk.length then perform finished next rest else some (false, next)

structure Transfer where
  curl : Bool
  memory : Option Byte
  chunks : List (List Byte × Option Byte)
  finished : Bool
deriving DecidableEq, Repr

def parsed (parse : List Byte → Option Json) (text : List Byte) : Response :=
  match parse text with
  | some json => .answered json
  | none => .unparsable

-- nws_get up to its result. parse is cJSON_Parse, which gets a string.
def nwsFetch (parse : List Byte → Option Json) (transfer : Transfer) : Option Response :=
  if !transfer.curl then some .failed
  else match transfer.memory with
    | none => some .failed
    | some filler =>
      (perform transfer.finished { memory := 0 :: List.replicate 4095 filler, length := 0 } transfer.chunks).bind
        fun (ok, buffer) => if ok then (CBuffer.text 0 buffer.memory).map (parsed parse) else some .failed

def Transfer.answer (transfer : Transfer) : List Byte := (transfer.chunks.map Prod.fst).flatten

theorem curl_buf_enough (needed capacity : Nat) : needed ≤ curlBufSize needed capacity := by
  rw [curlBufSize]
  omega

theorem write_cb_holds (buffer : Buffer Byte) (text chunk : List Byte) (memory : Option Byte)
    (kept : Terminated 0 buffer text) :
    (curlWriteCb buffer chunk memory = some (0, buffer) ∧ memory = none) ∨
      ∃ next, curlWriteCb buffer chunk memory = some (chunk.length, next) ∧ Terminated 0 next (text ++ chunk) := by
  rw [curlWriteCb]
  rcases GrowBuffer.append_holds 0 curlBufSize curl_buf_enough buffer text chunk memory (.terminated kept) with
    ⟨refused, failed⟩ | ⟨next, stored, holds⟩
  · rw [refused]
    exact Or.inl ⟨rfl, failed⟩
  · rw [stored]
    exact Or.inr ⟨next, rfl, holds⟩

-- Either the transfer ends with an error, or the buffer has the whole answer. A chunk that
-- is refused while it has bytes is an error.
theorem perform_whole (finished : Bool) (chunks : List (List Byte × Option Byte)) (buffer : Buffer Byte) (text : List Byte)
    (kept : Terminated 0 buffer text) :
    ∃ ok next, perform finished buffer chunks = some (ok, next) ∧
      (ok = true → finished = true ∧ Terminated 0 next (text ++ (chunks.map Prod.fst).flatten)) ∧
      ((∀ chunk ∈ chunks, chunk.2 ≠ none) → ok = finished) := by
  induction chunks generalizing buffer text with
  | nil =>
    refine ⟨finished, buffer, rfl, fun ended => ⟨ended, ?_⟩, fun _ => rfl⟩
    rw [List.map_nil, List.flatten_nil, List.append_nil]
    exact kept
  | cons chunk rest ih =>
    obtain ⟨bytes, memory⟩ := chunk
    rcases write_cb_holds buffer text bytes memory kept with ⟨called, failed⟩ | ⟨next, called, holds⟩
    · by_cases empty : bytes = []
      · subst empty
        obtain ⟨ok, last, performed, whole, granted⟩ := ih buffer text kept
        refine ⟨ok, last, ?_, whole, fun every => granted fun other member => every other (List.mem_cons_of_mem _ member)⟩
        rw [perform, called, Option.bind_some]
        exact performed
      · refine ⟨false, buffer, ?_, (fun wrong => by cases wrong), fun every => absurd failed (every _ List.mem_cons_self)⟩
        rw [perform, called, Option.bind_some]
        exact if_neg fun same => empty (List.eq_nil_of_length_eq_zero same.symm)
    · obtain ⟨ok, last, performed, whole, granted⟩ := ih next (text ++ bytes) holds
      refine ⟨ok, last, ?_, fun ended => ?_, fun every => granted fun other member => every other (List.mem_cons_of_mem _ member)⟩
      · rw [perform, called, Option.bind_some]
        exact (if_pos rfl).trans performed
      · rw [List.map_cons, List.flatten_cons, ← List.append_assoc]
        exact whole ended

-- The string that starts with the text ends at its first terminator.
theorem terminated_text (buffer : Buffer Byte) (text : List Byte) (kept : Terminated 0 buffer text) :
    CBuffer.text 0 buffer.memory = some (text.takeWhile fun byte => byte ≠ 0) := by
  obtain ⟨rest, whole⟩ := kept.memory
  rw [CBuffer.text, whole, if_pos (List.mem_append_right _ List.mem_cons_self), Option.some.injEq]
  rw [List.takeWhile_append]
  split
  · rename_i clear
    rw [List.takeWhile_cons_of_neg (by simp), List.append_nil]
    exact ((List.takeWhile_prefix _).eq_of_length clear).symm
  · rfl

-- What nws_get makes of a transfer: an error, or the parse of all that was sent, up to a
-- terminator inside it. Nothing is written beyond the buffer.
structure FetchSound (parse : List Byte → Option Json) (transfer : Transfer) : Prop where
  whole : ∃ response, nwsFetch parse transfer = some response ∧
    (response = .failed ∨ response = parsed parse (transfer.answer.takeWhile fun byte => byte ≠ 0))
  succeeds : transfer.curl = true → transfer.memory ≠ none → transfer.finished = true →
    (∀ chunk ∈ transfer.chunks, chunk.2 ≠ none) →
      nwsFetch parse transfer = some (parsed parse (transfer.answer.takeWhile fun byte => byte ≠ 0))

theorem fetch_sound (parse : List Byte → Option Json) (transfer : Transfer) : FetchSound parse transfer := by
  obtain ⟨curl, memory, chunks, finished⟩ := transfer
  cases curl with
  | false => exact ⟨⟨.failed, rfl, Or.inl rfl⟩, fun wrong => by cases wrong⟩
  | true =>
    cases memory with
    | none => exact ⟨⟨.failed, rfl, Or.inl rfl⟩, fun _ wrong => absurd rfl wrong⟩
    | some filler =>
      obtain ⟨ok, buffer, performed, whole, granted⟩ := perform_whole finished chunks
        { memory := 0 :: List.replicate 4095 filler, length := 0 } [] ⟨rfl, _, rfl⟩
      have fetched : nwsFetch parse ⟨true, some filler, chunks, finished⟩ =
          if ok then (CBuffer.text 0 buffer.memory).map (parsed parse) else some .failed := by
        simp only [nwsFetch, Bool.not_true, Bool.false_eq_true, if_false, performed, Option.bind_some]
      have read : ok = true → (CBuffer.text 0 buffer.memory).map (parsed parse) =
          some (parsed parse ((chunks.map Prod.fst).flatten.takeWhile fun byte => byte ≠ 0)) := by
        intro ended
        rw [terminated_text buffer _ (whole ended).2]
        rfl
      constructor
      · rw [fetched]
        cases ended : ok with
        | false => exact ⟨.failed, rfl, Or.inl rfl⟩
        | true => exact ⟨_, (if_pos rfl).trans (read ended), Or.inr rfl⟩
      · intro _ _ complete every
        have ended : ok = true := (granted every).trans complete
        rw [fetched, if_pos ended]
        exact read ended

end AiriesUps.Weather
