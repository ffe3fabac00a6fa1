import AiriesUps.Alerts.Engine
import AiriesUps.Lib.Runs
import AiriesUps.Ups.Handle

set_option autoImplicit false

namespace AiriesUps.Alerts

open Ups Monitor

-- Both caches are static, so they start at zero.
def Thresholds.zero : Thresholds := { transferHigh := 0, transferLow := 0 }

-- ups_read_thresholds stores what it read, and nothing when it fails.
def upsReadThresholds (cache : Thresholds) : Option Thresholds → Thresholds
  | some values => values
  | none => cache

-- alert_ctx, and the thresholds of route_ctx. report is the last state tick.
structure ThresholdCaches where
  thresh : Thresholds
  cfg : AlertConfig
  alerts : AlertState
  route : Thresholds
  report : List (String × Nat)
  registered : Bool
deriving DecidableEq, Repr

def ThresholdCaches.start (seeded : AlertState) (cfg : AlertConfig) (alertRead routeRead : Option Thresholds) :
    ThresholdCaches :=
  { thresh := upsReadThresholds .zero alertRead
    cfg := cfg
    alerts := seeded
    route := upsReadThresholds .zero routeRead
    report := []
    registered := false }

-- configSet is a request whose register was found writable: rc is what ups_config_write
-- returned, and read what the refresh after it gets, if there is one.
inductive ThresholdLabel where
  | registerRoutes (read : Option Thresholds)
  | configSet (name : String) (rc : Int) (read : Option Thresholds)
  | poll (data : UpsData)
deriving DecidableEq, Repr

def isTransferRegister (name : String) : Bool := name == "transfer_high" || name == "transfer_low"

def apiRefreshThresholds (state : ThresholdCaches) (read : Option Thresholds) : ThresholdCaches :=
  { state with route := upsReadThresholds state.route read }

-- A write that fails otherwise than in validation refreshes too.
def refreshAfterWrite (name : String) (rc : Int) : Bool := rc ≠ upsErrInvalidValue && isTransferRegister name

def stateReport (route : Thresholds) : List (String × Nat) :=
  if route.transferHigh.toNat > 0 then
    [("input.transfer_high", route.transferHigh.toNat), ("input.transfer_low", route.transferLow.toNat)]
  else []

def ThresholdCaches.step : Runs.Step ThresholdCaches ThresholdLabel
  | state, .registerRoutes read =>
    if state.registered then none else some { apiRefreshThresholds state read with registered := true }
  | state, .configSet name rc read =>
    if state.registered then some (if refreshAfterWrite name rc then apiRefreshThresholds state read else state) else none
  | state, .poll data =>
    some { state with
      alerts := (alertsCheck state.alerts data state.thresh state.cfg).state
      report := stateReport state.route }

-- The values a step reads for the API, if it reads and the read succeeds.
def ThresholdLabel.read : ThresholdLabel → Option Thresholds
  | .registerRoutes read => read
  | .configSet name rc read => if refreshAfterWrite name rc then read else none
  | .poll _ => none

def ThresholdLabel.writesTransfer : ThresholdLabel → Bool
  | .configSet name rc _ => rc == 0 && isTransferRegister name
  | _ => false

def ThresholdsAgree (past : List ThresholdLabel) (state : ThresholdCaches) (label : ThresholdLabel)
    (next : ThresholdCaches) : Prop :=
  (∀ data, label = .poll data → state.thresh = state.route) ∧
    ∀ values, label.read = some values → (past ++ [label]).any ThresholdLabel.writesTransfer = true →
      next.thresh = values ∧ next.route = values

def lastRead (routeRead : Option Thresholds) (past : List ThresholdLabel) : Thresholds :=
  past.foldl (fun cache label => upsReadThresholds cache label.read) (upsReadThresholds .zero routeRead)

-- The device answers with the values it had when main read them for the alert engine.
def ReadsUnchanged (alertRead routeRead : Option Thresholds) (past : List ThresholdLabel) (_ : ThresholdCaches)
    (label : ThresholdLabel) (_ : ThresholdCaches) : Prop :=
  (∀ data, label = .poll data → upsReadThresholds .zero alertRead = lastRead routeRead past) ∧
    ∀ values, label.read = some values → (past ++ [label]).any ThresholdLabel.writesTransfer = true →
      upsReadThresholds .zero alertRead = values

theorem step_caches (state next : ThresholdCaches) (label : ThresholdLabel) (taken : state.step label = some next) :
    next.thresh = state.thresh ∧ next.route = upsReadThresholds state.route label.read := by
  cases label with
  | registerRoutes read =>
    rw [ThresholdCaches.step] at taken
    split at taken
    · cases taken
    · cases taken
      exact ⟨rfl, rfl⟩
  | configSet name rc read =>
    rw [ThresholdCaches.step] at taken
    split at taken
    · cases taken
      rw [ThresholdLabel.read]
      split <;> exact ⟨rfl, rfl⟩
    · cases taken
  | poll data =>
    cases taken
    exact ⟨rfl, rfl⟩

theorem caches_follow_reads (alertRead routeRead : Option Thresholds) (past : List ThresholdLabel)
    (state next : ThresholdCaches) (label : ThresholdLabel) (taken : state.step label = some next)
    (followed : state.thresh = upsReadThresholds .zero alertRead ∧ state.route = lastRead routeRead past) :
    next.thresh = upsReadThresholds .zero alertRead ∧ next.route = lastRead routeRead (past ++ [label]) := by
  obtain ⟨thresh, route⟩ := step_caches state next label taken
  rw [thresh, route, followed.1, followed.2, lastRead, lastRead, List.foldl_append]
  exact ⟨rfl, rfl⟩

theorem thresholds_agree_iff (seeded : AlertState) (cfg : AlertConfig) (alertRead routeRead : Option Thresholds)
    (labels : List ThresholdLabel) :
    Runs.EachStep ThresholdCaches.step (.start seeded cfg alertRead routeRead) labels ThresholdsAgree ↔
      Runs.EachStep ThresholdCaches.step (.start seeded cfg alertRead routeRead) labels
        (ReadsUnchanged alertRead routeRead) := by
  refine Runs.each_step_congr ThresholdCaches.step _
    (fun past state => state.thresh = upsReadThresholds .zero alertRead ∧ state.route = lastRead routeRead past)
    ⟨rfl, rfl⟩ (fun past state label next followed taken =>
      caches_follow_reads alertRead routeRead past state next label taken followed) _ _
    (fun past state label next followed taken => ?_) labels
  obtain ⟨thresh, route⟩ := step_caches state next label taken
  refine and_congr ?_ ?_
  · rw [followed.1, followed.2]
  · refine forall_congr' fun values => imp_congr_right fun read => imp_congr_right fun _ => ?_
    rw [thresh, route, read, followed.1]
    exact and_iff_left rfl

-- transfer_high is lowered through the API; the alert engine goes on with the old one.
def loweredTransfer : List ThresholdLabel :=
  [.registerRoutes (some ⟨127, 106⟩), .configSet "transfer_high" 0 (some ⟨124, 106⟩), .poll .zero]

theorem written_threshold_not_checked :
    ¬Runs.EachStep ThresholdCaches.step
      (.start alertsInit (alertsLoadConfig .unset) (some ⟨127, 106⟩) (some ⟨127, 106⟩)) loweredTransfer ThresholdsAgree := by
  intro agree
  have polled := Runs.each_step_final _ _ _ _ agree (loweredTransfer.take 2) _ [] rfl (by decide +kernel)
  exact absurd (polled.1 .zero rfl) (by decide +kernel)

end AiriesUps.Alerts
