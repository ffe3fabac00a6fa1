import Mathlib.Data.List.Basic

set_option autoImplicit false

namespace AiriesUps.Shutdown

-- A C string is the Lean string whose characters are its bytes. snprintf into a
-- buffer of the given size keeps all but the last byte of the room.
def snprintf (size : Nat) (text : String) : String := String.ofList (text.toList.take (size - 1))

-- shutdown_step_result_t; ok is 0 = ok, 1 = failed, 2 = skipped
structure StepResult where
  phase : String
  target : String
  ok : Nat
  error : String
deriving DecidableEq, Repr

def resultRowFill (phase target : String) (ok : Nat) (err : String) : StepResult :=
  { phase := snprintf 16 phase
    target := snprintf 96 target
    ok := ok
    error := if ok = 1 then snprintf 256 err else "" }

structure Result where
  steps : List StepResult
  nFailed : Nat
deriving DecidableEq, Repr

def Result.empty : Result := { steps := [], nFailed := 0 }

def resultAppendTo (result : Result) (row : StepResult) : Result :=
  { steps := result.steps ++ [row], nFailed := if row.ok = 1 then result.nFailed + 1 else result.nFailed }

def failedRows (steps : List StepResult) : Nat := steps.countP fun row => row.ok == 1

def Result.Counted (result : Result) : Prop := result.nFailed = failedRows result.steps

theorem empty_counted : Result.empty.Counted := rfl

theorem append_counted (result : Result) (row : StepResult) (counted : result.Counted) :
    (resultAppendTo result row).Counted := by
  rw [Result.Counted] at counted
  simp only [Result.Counted, resultAppendTo, failedRows, List.countP_append, List.countP_singleton, beq_iff_eq]
  by_cases failed : row.ok = 1
  · rw [if_pos failed, if_pos failed, counted, failedRows]
  · rw [if_neg failed, if_neg failed, counted, failedRows, Nat.add_zero]

end AiriesUps.Shutdown
