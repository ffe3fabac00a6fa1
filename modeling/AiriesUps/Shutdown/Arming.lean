import AiriesUps.Lib.Alternation
import AiriesUps.Shutdown.Trigger

set_option autoImplicit false

namespace AiriesUps.Shutdown

open Ups Alternation

-- What is said of the armed state: Armed opens it, Cleared or the shutdown closes it.
def armingEdge (event : Event) : Option Edge :=
  if event.title = "Shutdown Trigger Armed" then some .rise
  else if event.title = "Shutdown Trigger Cleared" then some .fall
  else none

def TriggerResult.edges (result : TriggerResult) : List Edge :=
  result.events.filterMap armingEdge ++ if result.start then [.fall] else []

def Trigger.next (trigger : Trigger) (evaluation : Evaluation) : Trigger := (checkTrigger trigger evaluation).trigger

def armingLog : Trigger → List Evaluation → List Edge :=
  history Trigger.next fun trigger evaluation => (checkTrigger trigger evaluation).edges

-- A debounce is running.
def Trigger.armed (trigger : Trigger) : Bool := !trigger.triggered && decide (trigger.firstMet ≠ 0)

-- The software trigger finds the UPS off battery and drops the debounce.
def OffBattery (evaluation : Evaluation) : Prop :=
  mode evaluation.config ≠ "manual" ∧ mode evaluation.config ≠ "ups" ∧ requireBattery evaluation.config = true ∧
    has evaluation.data.status stOnBattery = false

-- An armed trigger does not find the UPS off battery, and the clock is not 0 when one is armed.
def ArmingReported (trigger : Trigger) (evaluation : Evaluation) : Prop :=
  (trigger.armed = true → ¬OffBattery evaluation) ∧
    (trigger = .idle → ConditionMet evaluation → evaluation.now ≠ 0)

-- After every evaluation the Armed events pair with what closed them, and one is open
-- exactly while the debounce runs.
def ArmingPaired (evaluations : List Evaluation) : Prop :=
  ∀ earlier later, evaluations = earlier ++ later →
    Alternates false (armingLog .idle earlier) (earlier.foldl Trigger.next .idle).armed

theorem debounce_pairs_iff (trigger : Trigger) (delay : Int) (met : Bool) (now : Int)
    (untriggered : trigger.triggered = false) :
    Alternates trigger.armed (debounce trigger delay met now).edges (debounce trigger delay met now).trigger.armed ↔
      (trigger.firstMet = 0 → met = true → now ≠ 0) := by
  cases met with
  | false =>
    by_cases fresh : trigger.firstMet = 0 <;>
      simp [debounce, TriggerResult.edges, Trigger.armed, untriggered, fresh, armingEdge, clearedEvent, Alternates]
  | true =>
    by_cases fresh : trigger.firstMet = 0
    · by_cases zero : now = 0 <;>
        simp [debounce, TriggerResult.edges, Trigger.armed, untriggered, fresh, armingEdge, armedEvent, Alternates, zero]
    · by_cases early : now - trigger.firstMet < delay <;>
        simp [debounce, TriggerResult.edges, Trigger.armed, untriggered, fresh, early, Alternates]

theorem evaluation_pairs_iff (trigger : Trigger) (evaluation : Evaluation) :
    Alternates trigger.armed (checkTrigger trigger evaluation).edges (trigger.next evaluation).armed ↔
      ArmingReported trigger evaluation := by
  cases untriggered : trigger.triggered with
  | true =>
    have notIdle : trigger ≠ .idle := by
      rintro rfl
      cases untriggered
    simp [Trigger.next, checkTrigger, untriggered, TriggerResult.edges, ArmingReported, Trigger.armed, notIdle, Alternates]
  | false =>
    have idle : trigger = .idle ↔ trigger.firstMet = 0 := by
      cases trigger
      simp_all [Trigger.idle]
    rw [ArmingReported, idle, Trigger.next, checkTrigger, if_neg (by rw [untriggered]; exact Bool.false_ne_true)]
    by_cases isManual : mode evaluation.config = "manual"
    · simp [isManual, TriggerResult.edges, OffBattery, ConditionMet, Alternates]
    by_cases isUps : mode evaluation.config = "ups"
    · rw [if_neg isManual, if_pos isUps, debounce_pairs_iff trigger _ _ _ untriggered]
      simp [OffBattery, ConditionMet, isUps]
    by_cases off : OffBattery evaluation
    · obtain ⟨_, _, required, offBattery⟩ := off
      by_cases fresh : trigger.firstMet = 0 <;>
        simp [isManual, isUps, required, offBattery, TriggerResult.edges, Trigger.armed, untriggered, OffBattery,
          ConditionMet, fresh, Alternates]
    · have onBattery : (requireBattery evaluation.config && !has evaluation.data.status stOnBattery) = false := by
        simpa [OffBattery, isManual, isUps] using off
      have battery : requireBattery evaluation.config = true → has evaluation.data.status stOnBattery = true := by
        intro required
        simpa [required] using onBattery
      rw [if_neg isManual, if_neg isUps, onBattery, if_neg Bool.false_ne_true, debounce_pairs_iff trigger _ _ _ untriggered]
      have met : ConditionMet evaluation ↔ sourceConditionMet evaluation.config evaluation.data = true := by
        rw [ConditionMet, if_neg isUps, and_iff_right isManual, and_iff_right battery]
      simp [off, met]

theorem arming_paired_iff (evaluations : List Evaluation) :
    ArmingPaired evaluations ↔ Runs.Admitted evaluate ArmingReported .idle evaluations := by
  rw [← Runs.admitted_congr evaluate _ _ evaluation_pairs_iff]
  exact alternates_throughout_iff Trigger.next _ Trigger.armed .idle evaluations

-- The outage ends within the debounce, and another one begins.
def interruptedOutage : List Evaluation :=
  [outageAt 1000, { outageAt 1010 with data := { UpsData.zero with status := stOnline, runtimeSec := 3600 } }, outageAt 1020]

theorem interrupted_outage_arms_twice : ¬∀ evaluations, ∃ unmatched, Alternates false (armingLog .idle evaluations) unmatched := by
  intro paired
  obtain ⟨unmatched, alternates⟩ := paired interruptedOutage
  have twice : armingLog .idle interruptedOutage = [.rise, .rise] := by decide +kernel
  rw [twice] at alternates
  exact absurd alternates.2.1 (by decide)

end AiriesUps.Shutdown
