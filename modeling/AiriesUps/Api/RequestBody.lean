import AiriesUps.Lib.GrowBuffer
import AiriesUps.Lib.PackedBits
import AiriesUps.Lib.Runs

set_option autoImplicit false

namespace AiriesUps.Api

open GrowBuffer (Buffer Holds)
open PackedBits (Byte)

def bodyCapacity (needed capacity : Nat) : Nat := max (if needed > capacity * 2 then needed else capacity * 2) 1024

-- What a handler gets: req.body and req.body_len, and the memory behind them.
structure DispatchedBody where
  memory : List Byte
  bodyLen : Nat
deriving DecidableEq, Repr

-- A connection between two calls of request_handler. upload is what the library still has
-- to hand over, postBody is *req_cls.
structure Upload where
  upload : List (List Byte)
  postBody : Option (Buffer Byte)
  dispatched : Option DispatchedBody
deriving DecidableEq, Repr

def Upload.start (upload : List (List Byte)) : Upload := { upload := upload, postBody := none, dispatched := none }

-- One call with the next chunk, or with none at the end. memory is what calloc or realloc
-- finds, none where they fail; beyond the memory there is no next state. The first call,
-- and each until calloc has succeeded, leaves the upload alone. A chunk that was refused
-- counts as read.
def Upload.step : Runs.Step Upload (Option Byte)
  | { upload := _, postBody := _, dispatched := some _ }, _ => none
  | { upload := upload, postBody := none, dispatched := none }, memory =>
    some { upload := upload, postBody := memory.map fun _ => { memory := [], length := 0 }, dispatched := none }
  | { upload := (byte :: more) :: rest, postBody := some buffer, dispatched := none }, memory =>
    match GrowBuffer.append 0 bodyCapacity buffer (byte :: more) memory with
    | .outside => none
    | .refused => some { upload := rest, postBody := some buffer, dispatched := none }
    | .stored next => some { upload := rest, postBody := some next, dispatched := none }
  | { upload := upload, postBody := some buffer, dispatched := none }, _ =>
    some { upload := upload, postBody := none, dispatched := some { memory := buffer.memory, bodyLen := buffer.length } }

theorem body_capacity_enough (needed capacity : Nat) : needed ≤ bodyCapacity needed capacity := by
  rw [bodyCapacity]
  split <;> omega

-- The body has these bytes, followed by a terminator where there is memory.
def DispatchedBody.reads (body : DispatchedBody) (text : List Byte) : Prop :=
  Holds 0 { memory := body.memory, length := body.bodyLen } text

structure Collected (upload : List (List Byte)) (past : List (Option Byte)) (state : Upload) (read kept : List (List Byte)) :
    Prop where
  whole : upload = read ++ state.upload
  sublist : kept.Sublist read
  refusals : read.length ≤ kept.length + past.count none
  fresh : state.postBody = none → state.dispatched = none → read = []
  held : ∀ buffer, state.postBody = some buffer → Holds 0 buffer kept.flatten
  done : ∀ body, state.dispatched = some body → state.upload = [] ∧ body.reads kept.flatten

theorem collected_start (upload : List (List Byte)) : Collected upload [] (.start upload) [] [] := by
  refine ⟨rfl, .slnil, Nat.zero_le _, fun _ _ => rfl, fun _ present => ?_, fun _ present => ?_⟩
  · cases present
  · cases present

theorem collected_step (upload : List (List Byte)) (filled : ∀ chunk ∈ upload, chunk ≠ []) (past : List (Option Byte))
    (state next : Upload) (memory : Option Byte) (read kept : List (List Byte))
    (collected : Collected upload past state read kept) (taken : state.step memory = some next) :
    ∃ read kept, Collected upload (past ++ [memory]) next read kept := by
  obtain ⟨whole, sublist, refusals, fresh, held, done⟩ := collected
  have more : past.count none ≤ (past ++ [memory]).count none := by
    rw [List.count_append]
    exact Nat.le_add_right _ _
  obtain ⟨rest, postBody, dispatched⟩ := state
  cases dispatched with
  | some body => cases taken
  | none =>
    cases postBody with
    | none =>
      cases taken
      have unread := fresh rfl rfl
      subst unread
      refine ⟨[], [], whole, .slnil, Nat.zero_le _, fun _ _ => rfl, fun buffer present => ?_, fun _ present => ?_⟩
      · obtain ⟨_, _, rfl⟩ := Option.map_eq_some_iff.mp present
        exact .unallocated rfl rfl rfl
      · cases present
    | some buffer =>
      cases rest with
      | nil =>
        cases taken
        refine ⟨read, kept, whole, sublist, by omega, fun _ wrong => ?_, fun _ present => ?_, fun body same => ⟨rfl, ?_⟩⟩
        · cases wrong
        · cases present
        · exact Option.some.inj same ▸ held buffer rfl
      | cons chunk rest =>
        cases chunk with
        | nil => exact absurd rfl (filled [] (whole ▸ List.mem_append_right _ List.mem_cons_self))
        | cons byte tail =>
          have split : upload = (read ++ [byte :: tail]) ++ rest := by rw [whole, List.append_assoc]; rfl
          rw [Upload.step] at taken
          rcases GrowBuffer.append_holds 0 bodyCapacity body_capacity_enough buffer kept.flatten (byte :: tail) memory
              (held buffer rfl) with ⟨refused, failed⟩ | ⟨stored, appended, holds⟩
          · rw [refused] at taken
            cases taken
            refine ⟨read ++ [byte :: tail], kept, split, sublist.trans (List.sublist_append_left ..), ?_, fun wrong => ?_,
              held, fun _ present => ?_⟩
            · rw [failed, List.count_append, List.length_append, List.count_singleton_self, List.length_singleton]
              omega
            · cases wrong
            · cases present
          · rw [appended] at taken
            cases taken
            refine ⟨read ++ [byte :: tail], kept ++ [byte :: tail], split, sublist.append (List.Sublist.refl _), ?_,
              fun wrong => ?_, fun other present => ?_, fun _ present => ?_⟩
            · rw [List.length_append, List.length_append]
              omega
            · cases wrong
            · cases present
              rw [List.flatten_append, List.flatten_singleton]
              exact .terminated holds
            · cases present

theorem collected_run (upload : List (List Byte)) (filled : ∀ chunk ∈ upload, chunk ≠ []) (labels : List (Option Byte))
    (final : Upload) (reached : Runs.run Upload.step (.start upload) labels = some final) :
    ∃ read kept, Collected upload labels final read kept := by
  refine Runs.run_invariant Upload.step _ (fun past state => ∃ read kept, Collected upload past state read kept)
    ⟨[], [], collected_start upload⟩ ?_ labels final reached
  rintro past state memory next ⟨read, kept, collected⟩ taken
  exact collected_step upload filled past state next memory read kept collected taken

-- Every call stays inside the memory, until the body is dispatched. The body is the upload
-- without the chunks that were refused.
structure BodySound (upload : List (List Byte)) (labels : List (Option Byte)) (final : Upload) : Prop where
  inside : final.dispatched = none → ∀ memory, (final.step memory).isSome = true
  kept : ∀ body, final.dispatched = some body → ∃ kept : List (List Byte), kept.Sublist upload ∧
    upload.length ≤ kept.length + labels.count none ∧ body.reads kept.flatten
  complete : ∀ body, final.dispatched = some body → none ∉ labels → body.reads upload.flatten

theorem request_body_sound (upload : List (List Byte)) (filled : ∀ chunk ∈ upload, chunk ≠ []) (labels : List (Option Byte))
    (final : Upload) (reached : Runs.run Upload.step (.start upload) labels = some final) : BodySound upload labels final := by
  obtain ⟨read, kept, collected⟩ := collected_run upload filled labels final reached
  have parts : ∀ body, final.dispatched = some body → kept.Sublist upload ∧ upload.length ≤ kept.length + labels.count none ∧
      body.reads kept.flatten := by
    intro body dispatched
    obtain ⟨empty, reads⟩ := collected.done body dispatched
    have all : upload = read := by rw [collected.whole, empty, List.append_nil]
    exact ⟨all ▸ collected.sublist, all ▸ collected.refusals, reads⟩
  refine ⟨?_, fun body dispatched => ⟨kept, parts body dispatched⟩, fun body dispatched granted => ?_⟩
  · intro undispatched memory
    obtain ⟨rest, postBody, dispatched⟩ := final
    cases undispatched
    cases postBody with
    | none => rfl
    | some buffer =>
      rcases rest with _ | ⟨_ | ⟨byte, tail⟩, rest⟩
      · rfl
      · rfl
      · rw [Upload.step]
        rcases GrowBuffer.append_holds 0 bodyCapacity body_capacity_enough buffer kept.flatten (byte :: tail) memory
            (collected.held buffer rfl) with ⟨refused, _⟩ | ⟨stored, appended, _⟩
        · rw [refused]
          rfl
        · rw [appended]
          rfl
  · obtain ⟨sublist, refusals, reads⟩ := parts body dispatched
    rw [List.count_eq_zero.mpr granted, Nat.add_zero] at refusals
    exact sublist.eq_of_length_le refusals ▸ reads

-- realloc fails for the first chunk only, and the body begins with the second.
def refusedChunk : List (List Byte) := [[1, 2], [3]]

def refusedCalls : List (Option Byte) := [some 0, none, some 0, some 0]

theorem refused_chunk_dropped :
    BodySound refusedChunk refusedCalls (Runs.final Upload.step (.start refusedChunk) refusedCalls) :=
  request_body_sound refusedChunk (by decide +kernel) refusedCalls _ (Runs.run_final _ _ _ (by decide +kernel))

end AiriesUps.Api
