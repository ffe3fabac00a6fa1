import AiriesUps.Alerts.Engine

set_option autoImplicit false

namespace AiriesUps.Alerts

open Ups Monitor

-- One call of alerts_check: the reading, and the thresholds and the configuration in
-- force, which a restart may read anew.
structure AlertPoll where
  data : UpsData
  thresh : Thresholds
  acfg : AlertConfig
deriving DecidableEq, Repr

def alertsPoll (state : AlertState) (poll : AlertPoll) : AlertResult := alertsCheck state poll.data poll.thresh poll.acfg

def alertsAfter (state : AlertState) (polls : List AlertPoll) : AlertState :=
  polls.foldl (fun state poll => (alertsPoll state poll).state) state

-- The notifications of each poll.
def alertsRun (state : AlertState) : List AlertPoll → List (List Notification)
  | [] => []
  | poll :: rest => (alertsPoll state poll).notifications :: alertsRun (alertsPoll state poll).state rest

-- main after a restart: alerts_init, and the snapshot monitor_create has loaded.
def alertsRestarted (row : SnapshotRow) : AlertState :=
  alertsSeedFromSnapshot alertsInit (Snapshot.load (some (statusSnapshotLoad row)))

-- The titles of the overload, fault, battery-replace and error-register alerts.
def edgeTitles : List String :=
  ["UPS Overload", "UPS Overload Cleared", "UPS Fault", "UPS Fault Cleared", "UPS Battery Replace Required",
    "UPS Battery Error Cleared", "UPS General Error", "UPS General Error Cleared", "UPS Power System Error",
    "UPS Power System Error Cleared", "UPS Battery Error"]

def edgeNotifications (notifications : List Notification) : List Notification :=
  notifications.filter fun notification => edgeTitles.contains notification.title

-- The two engines agree on what these alerts compare a reading with.
structure SameEdges (first second : AlertState) : Prop where
  overload : first.overload = second.overload
  fault : first.fault = second.fault
  batReplace : first.batReplace = second.batReplace
  general : first.prevGeneralError = second.prevGeneralError
  power : first.prevPowerError = second.prevPowerError
  battery : first.prevBatteryError = second.prevBatteryError

@[simp] theorem edge_notifications_append (before after : List Notification) :
    edgeNotifications (before ++ after) = edgeNotifications before ++ edgeNotifications after := List.filter_append ..

theorem edge_alert_silent (prev current : Bool) (came went : Notification) (cameOther : edgeTitles.contains came.title = false)
    (wentOther : edgeTitles.contains went.title = false) : edgeNotifications (edgeAlert prev current came went) = [] := by
  rw [edgeNotifications, List.filter_eq_nil_iff]
  intro notification member
  rw [edgeAlert] at member
  split at member
  · rw [List.mem_singleton.mp member, cameOther]
    exact Bool.false_ne_true
  split at member
  · rw [List.mem_singleton.mp member, wentOther]
    exact Bool.false_ne_true
  · cases member

theorem input_high_silent (state : AlertState) (data : UpsData) (thresh : Thresholds) (acfg : AlertConfig) :
    edgeNotifications (checkInputHigh state data thresh acfg).2 = [] := by
  rw [checkInputHigh]
  split
  · exact edge_alert_silent _ _ _ _ rfl rfl
  · rfl

theorem input_low_silent (state : AlertState) (data : UpsData) (thresh : Thresholds) (acfg : AlertConfig) :
    edgeNotifications (checkInputLow state data thresh acfg).2 = [] := by
  rw [checkInputLow]
  split
  · exact edge_alert_silent _ _ _ _ rfl rfl
  · rfl

theorem load_high_silent (state : AlertState) (data : UpsData) (acfg : AlertConfig) :
    edgeNotifications (checkLoadHigh state data acfg).2 = [] :=
  edge_alert_silent _ _ _ _ rfl rfl

theorem battery_low_silent (state : AlertState) (data : UpsData) (acfg : AlertConfig) :
    edgeNotifications (checkBatteryLow state data acfg).2 = [] := by
  rw [checkBatteryLow]
  split
  · rfl
  split
  · rfl
  · rfl

-- The thresholds and the configuration do not reach these notifications.
theorem edge_notifications_same (first second : AlertState) (same : SameEdges first second) (poll other : AlertPoll)
    (reading : poll.data = other.data) :
    edgeNotifications (alertsPoll first poll).notifications = edgeNotifications (alertsPoll second other).notifications := by
  rw [alertsPoll, alertsPoll, ← reading]
  simp only [alertsCheck, edge_notifications_append, input_high_silent, input_low_silent, load_high_silent,
    battery_low_silent, same.overload, same.fault, same.batReplace, same.general, same.power, same.battery]

-- After a poll the engine agrees with one seeded from the fields of its reading.
theorem polled_edges (state : AlertState) (poll : AlertPoll) :
    SameEdges (alertsPoll state poll).state (alertsSeedFromSnapshot alertsInit (Snapshot.ofData poll.data)) :=
  ⟨rfl, rfl, rfl, rfl, rfl, rfl⟩

theorem same_edges_polled (first second : AlertState) (poll other : AlertPoll) (reading : poll.data = other.data) :
    SameEdges (alertsPoll first poll).state (alertsPoll second other).state := by
  rw [alertsPoll, alertsPoll, ← reading]
  exact ⟨rfl, rfl, rfl, rfl, rfl, rfl⟩

theorem same_edges_run (first second : AlertState) (same : SameEdges first second) (polls others : List AlertPoll)
    (readings : polls.map AlertPoll.data = others.map AlertPoll.data) :
    (alertsRun first polls).map edgeNotifications = (alertsRun second others).map edgeNotifications := by
  induction polls generalizing first second others with
  | nil =>
    have none : others = [] := List.map_eq_nil_iff.mp readings.symm
    rw [none]
    rfl
  | cons poll rest ih =>
    cases others with
    | nil => cases readings
    | cons other later =>
      obtain ⟨reading, remaining⟩ := List.cons.inj readings
      rw [alertsRun, alertsRun, List.map_cons, List.map_cons, edge_notifications_same first second same poll other reading,
        ih _ _ (same_edges_polled first second poll other reading) later remaining]

theorem restart_keeps_edge_alerts (start : AlertState) (earlier : List AlertPoll) (last : AlertPoll) (row : SnapshotRow)
    (persisted : row = SnapshotRow.ofSnapshot (Snapshot.ofData last.data)) (uninterrupted restarted : List AlertPoll)
    (readings : uninterrupted.map AlertPoll.data = restarted.map AlertPoll.data) :
    (alertsRun (alertsAfter start (earlier ++ [last])) uninterrupted).map edgeNotifications =
      (alertsRun (alertsRestarted row) restarted).map edgeNotifications := by
  refine same_edges_run _ _ ?_ uninterrupted restarted readings
  rw [alertsRestarted, persisted, snapshot_loaded, alertsAfter, List.foldl_append]
  exact polled_edges _ last

def alertReading (status : Word) (batSystemError : BitVec 16) : AlertPoll :=
  { data := { UpsData.zero with status := status, batSystemError := batSystemError }
    thresh := ⟨127, 106⟩, acfg := alertsLoadConfig .unset }

-- A fault is there at the restart and a bad battery comes while the daemon is down.
theorem fault_restart_same :
    (alertsRun (alertsAfter alertsInit [alertReading stOnline 0, alertReading stFault 0])
        [alertReading stFault baterrReplace, alertReading stOnline baterrReplace]).map edgeNotifications =
      (alertsRun (alertsRestarted (SnapshotRow.ofSnapshot (Snapshot.ofData (alertReading stFault 0).data)))
        [alertReading stFault baterrReplace, alertReading stOnline baterrReplace]).map edgeNotifications :=
  restart_keeps_edge_alerts alertsInit [alertReading stOnline 0] (alertReading stFault 0) _ rfl _ _ rfl

end AiriesUps.Alerts
