import AiriesUps.Daemon.TeardownJoins

set_option autoImplicit false

namespace AiriesUps.Daemon

-- The three frees that no join protects: the weather object while the API server
-- still takes requests, the fast loop before the slow loop is joined, and the
-- monitor before a workflow worker is.
def Orderly (state : State) (label : Label) : Prop :=
  label = .main →
    match state.main with
    | .weatherJoined => state.setup.weather = false
    | .fastJoined => state.setup.fastLoop = true → state.pcs .slow = .ended
    | .slowJoined => ∀ worker ∈ state.async.workers, inBody worker = false
    | _ => True

instance (state : State) (label : Label) : Decidable (Orderly state label) := by
  unfold Orderly
  cases state.main <;> infer_instance

-- What the joins and the condition on those three frees give together.
structure Quiet (state : State) : Prop where
  joined : Joined state
  noWeather : state.main.past .weatherFreed = true → state.setup.weather = false
  slowBeforeFast : state.main.past .fastFreed = true → state.setup.fastLoop = true → state.pcs .slow = .ended
  workersOver : state.main.past .monitorFreed = true → ∀ worker ∈ state.async.workers, inBody worker = false
  usesLive : ∀ use ∈ state.uses, use.freed = false

theorem past_mono (main early late : MainPc) (order : early.rank ≤ late.rank) (past : main.past late = true) :
    main.past early = true := by
  rw [past_iff] at past ⊢
  omega

theorem nothing_left (state : State) (quiet : Quiet state) (freed : state.main.past .monitorFreed = true)
    (object : Object) : ¬state.reachable object := by
  have ended := all_over state quiet.joined (past_mono _ _ _ (by decide) freed)
  rintro (⟨thread, alive, _⟩ | ⟨accepting, _⟩ | ⟨worker, member, body, _⟩)
  · exact alive (ended thread)
  · rw [State.accepting, past_mono _ .apiStopped _ (by decide) freed] at accepting
    cases accepting
  · rw [quiet.workersOver freed worker member] at body
    cases body

theorem fast_loop_left (state : State) (quiet : Quiet state) (present : state.setup.fastLoop = true)
    (freed : state.main.past .fastFreed = true) : ¬state.reachable .fastLoop := by
  rintro (⟨thread, alive, reached⟩ | ⟨_, reached⟩ | ⟨_, _, _, reached⟩)
  · cases thread with
    | slow => exact alive (quiet.slowBeforeFast freed present)
    | fast => exact alive (quiet.joined.ended .fast (past_mono _ .fastJoined _ (by decide) freed))
    | weather => exact absurd reached (by decide)
    | handler index => simp [Thread.reach] at reached
  · simp [Thread.reach] at reached
  · exact absurd reached (by decide)

theorem freed_unreachable (state : State) (quiet : Quiet state) (object : Object)
    (freed : state.isFreed object = true) : ¬state.reachable object := by
  cases object with
  | weather =>
    obtain ⟨present, past⟩ := Bool.and_eq_true_iff.mp freed
    rw [quiet.noWeather past] at present
    cases present
  | fastLoop =>
    obtain ⟨present, past⟩ := Bool.and_eq_true_iff.mp freed
    exact fast_loop_left state quiet present past
  | monitor => exact nothing_left state quiet freed .monitor
  | ups => exact nothing_left state quiet (past_mono _ _ .upsClosed (by decide) freed) .ups
  | shutdown => exact nothing_left state quiet (past_mono _ _ .shutdownFreed (by decide) freed) .shutdown
  | sse => exact nothing_left state quiet (past_mono _ _ .sseDestroyed (by decide) freed) .sse

theorem able_reachable (state : State) (joined : Joined state) (actor : Actor) (object : Object)
    (able : Able state actor object) : state.reachable object := by
  cases able with
  | thread thread object alive reached => exact Or.inl ⟨thread, alive, reached⟩
  | caller caller entry found active =>
    obtain ⟨thread, inside⟩ := joined.owned caller entry found active
    have placed := joined.placed thread
    rw [inside] at placed
    exact Or.inl ⟨thread, by rw [inside]; nofun, placed⟩
  | worker index worker object found body reached =>
    exact Or.inr (Or.inr ⟨worker, List.mem_of_getElem? found, body, reached⟩)

theorem able_live (state : State) (quiet : Quiet state) (actor : Actor) (object : Object)
    (able : Able state actor object) : state.isFreed object = false := by
  by_contra freed
  rw [Bool.not_eq_false] at freed
  exact freed_unreachable state quiet object freed (able_reachable state quiet.joined actor object able)

theorem quiet_safe (state : State) (quiet : Quiet state) : Safe state where
  usesLive := quiet.usesLive
  unreachable := freed_unreachable state quiet

theorem quiet_initial (setup : Setup) : Quiet (State.initial setup) where
  joined := joined_initial setup
  noWeather past := by cases past
  slowBeforeFast past := by cases past
  workersOver past := by cases past
  usesLive _ member := by cases member

theorem quiet_use (state : State) (actor : Actor) (object : Object) (quiet : Quiet state)
    (live : state.isFreed object = false) : Quiet (state.use actor object) where
  joined := joined_use state actor object quiet.joined
  noWeather := quiet.noWeather
  slowBeforeFast := quiet.slowBeforeFast
  workersOver := quiet.workersOver
  usesLive use member := by
    rcases use_live state actor object live use member with earlier | fresh
    · exact quiet.usesLive use earlier
    · exact fresh

structure Kept (state next : State) : Prop where
  setup : next.setup = state.setup
  main : next.main = state.main
  uses : next.uses = state.uses
  slow : state.pcs .slow = .ended → next.pcs .slow = .ended
  bodies : ∀ worker ∈ next.async.workers, inBody worker = true →
    (∃ before ∈ state.async.workers, inBody before = true) ∨ CallActive state.async

theorem moved_keeps (state next : State) (moved : Moved state next) : Kept state next := by
  cases moved with
  | stayed => exact ⟨rfl, rfl, rfl, id, bodies_same state.async⟩
  | moved thread pc alive outside placed =>
    refine ⟨rfl, rfl, rfl, fun ended => ?_, bodies_same state.async⟩
    exact (state.goto_other thread .slow pc fun same => alive (same ▸ ended)).trans ended
  | opened accepting =>
    refine ⟨rfl, rfl, rfl, fun ended => ?_, bodies_same state.async⟩
    exact (state.goto_other (.handler state.opened) .slow .body nofun).trans ended
  | started thread dryRun async body starts called =>
    have elsewhere : state.pcs .slow = .ended → Thread.slow ≠ thread := by
      rintro ended rfl
      cases ended.symm.trans body
    cases Shutdown.step_cases _ _ _ called with
    | call _ notCalled =>
      exact ⟨rfl, rfl, rfl, fun ended => (state.goto_other thread .slow _ (elsewhere ended)).trans ended,
        bodies_same state.async⟩
  | worked async stepped => exact ⟨rfl, rfl, rfl, id, stepped.bodies⟩

theorem quiet_moved (state next : State) (quiet : Quiet state) (moved : Moved state next) : Quiet next := by
  have kept := moved_keeps state next moved
  refine ⟨joined_moved state next quiet.joined moved, ?_, ?_, ?_, ?_⟩
  · rw [kept.main, kept.setup]
    exact quiet.noWeather
  · rw [kept.main, kept.setup]
    exact fun past present => kept.slow (quiet.slowBeforeFast past present)
  · rw [kept.main]
    intro past worker member
    by_contra body
    rw [Bool.not_eq_false] at body
    rcases kept.bodies worker member body with ⟨before, earlier, bodyBefore⟩ | ⟨caller, entry, found, active⟩
    · rw [quiet.workersOver past before earlier] at bodyBefore
      cases bodyBefore
    · have stopped := past_mono state.main .slowJoined .monitorFreed (by decide) past
      rw [callers_returned state quiet.joined stopped caller entry found] at active
      cases active
  · rw [kept.uses]
    exact quiet.usesLive

theorem past_step (main next stage : MainPc) (rank : next.rank = main.rank + 1) (past : next.past stage = true) :
    main.past stage = true ∨ main.rank + 1 = stage.rank := by
  rw [past_iff] at past ⊢
  omega

theorem orderly_weather (state : State) (orderly : Orderly state .main)
    (now : state.main.rank + 1 = MainPc.weatherFreed.rank) : state.setup.weather = false := by
  have located : state.main = .weatherJoined := rank_injective _ _ (Nat.succ.inj now)
  simpa only [located] using orderly rfl

theorem orderly_fast (state : State) (orderly : Orderly state .main)
    (now : state.main.rank + 1 = MainPc.fastFreed.rank) (present : state.setup.fastLoop = true) :
    state.pcs .slow = .ended := by
  have located : state.main = .fastJoined := rank_injective _ _ (Nat.succ.inj now)
  have slow : state.setup.fastLoop = true → state.pcs .slow = .ended := by simpa only [located] using orderly rfl
  exact slow present

theorem orderly_workers (state : State) (orderly : Orderly state .main)
    (now : state.main.rank + 1 = MainPc.monitorFreed.rank) :
    ∀ worker ∈ state.async.workers, inBody worker = false := by
  have located : state.main = .slowJoined := rank_injective _ _ (Nat.succ.inj now)
  simpa only [located] using orderly rfl

theorem quiet_main (state next : State) (quiet : Quiet state) (orderly : Orderly state .main)
    (stepped : MainStepped state next) : Quiet next where
  joined := joined_main state next quiet.joined stepped
  noWeather past := by
    rw [stepped.setup]
    rcases past_step _ _ _ stepped.rank past with earlier | now
    · exact quiet.noWeather earlier
    · exact orderly_weather state orderly now
  slowBeforeFast past present := by
    rw [stepped.setup] at present
    rw [stepped.pcs]
    rcases past_step _ _ _ stepped.rank past with earlier | now
    · exact quiet.slowBeforeFast earlier present
    · exact orderly_fast state orderly now present
  workersOver past worker member := by
    have before_over : ∀ before ∈ state.async.workers, inBody before = false := by
      rcases past_step _ _ _ stepped.rank past with earlier | now
      · exact quiet.workersOver earlier
      · exact orderly_workers state orderly now
    by_contra body
    rw [Bool.not_eq_false] at body
    obtain ⟨before, earlier, bodyBefore⟩ := stepped.bodies worker member body
    rw [before_over before earlier] at bodyBefore
    cases bodyBefore
  usesLive use member := by
    rcases stepped.uses use member with earlier | live
    · exact quiet.usesLive use earlier
    · exact live

theorem quiet_step (state : State) (label : Label) (next : State) (quiet : Quiet state)
    (orderly : Orderly state label) (taken : step state label = some next) : Quiet next := by
  rcases step_cases state next label quiet.joined taken with
    ⟨rfl, main⟩ | ⟨_, moved | ⟨actor, object, able, moved⟩⟩
  · exact quiet_main state next quiet orderly (main_step_cases state next main)
  · exact quiet_moved state next quiet moved
  · have used := quiet_use state actor object quiet (able_live state quiet actor object able)
    exact quiet_moved _ next used moved

theorem weather_breaks (state : State) (safe : Safe { state with main := .weatherFreed }) : state.setup.weather = false := by
  by_contra present
  rw [Bool.not_eq_false] at present
  apply safe.unreachable .weather
  · exact Bool.and_eq_true_iff.mpr ⟨present, rfl⟩
  · exact Or.inr (Or.inl ⟨rfl, by simp [Thread.reach]⟩)

theorem fast_breaks (state : State) (safe : Safe { state with main := .fastFreed })
    (present : state.setup.fastLoop = true) : state.pcs .slow = .ended := by
  by_contra alive
  apply safe.unreachable .fastLoop
  · exact Bool.and_eq_true_iff.mpr ⟨present, rfl⟩
  · exact Or.inl ⟨.slow, alive, by decide⟩

theorem workers_break (state : State) (safe : Safe { state.use .main .monitor with main := .monitorFreed }) :
    ∀ worker ∈ state.async.workers, inBody worker = false := by
  intro worker member
  by_contra body
  rw [Bool.not_eq_false] at body
  apply safe.unreachable .monitor
  · rfl
  · exact Or.inr (Or.inr ⟨worker, member, body, by decide⟩)

-- A free that is not orderly leaves its object within reach.
theorem safe_orderly (state : State) (label : Label) (next : State) (taken : step state label = some next)
    (safe : Safe next) : Orderly state label := by
  rintro rfl
  have moved : state.mainStep = some next := taken
  cases located : state.main <;> try trivial
  all_goals simp only [State.mainStep, located, Option.some.injEq] at moved; subst moved
  · exact weather_breaks state safe
  · exact fast_breaks state safe
  · exact workers_break state safe

-- A teardown is safe in every state it goes through exactly when each of the
-- three frees comes when nothing can reach the object any more.
theorem teardown_safe_iff (setup : Setup) (labels : List Label) (final : State)
    (reached : Runs.run step (State.initial setup) labels = some final) :
    Runs.Throughout step (State.initial setup) labels Safe ↔
      Runs.Admitted step Orderly (State.initial setup) labels := by
  constructor
  · exact Runs.admitted_of_throughout step Orderly _ Safe safe_orderly labels final reached
  · exact Runs.throughout_of_admitted step Orderly _ Quiet Safe (quiet_initial setup) quiet_step quiet_safe labels

-- A request starts a dry run on the manager with nothing to do; its worker reports once and is done.
def requestedDryRun : List Label :=
  [.openRequest, .startAsync (.handler 0) true, .workflow (.lockStart 0 100 true), .workflow (.joinPrior 0),
    .workflow (.create 0 true), .workflow (.publish 0), .started (.handler 0), .closeRequest 0]

def stopServers : List Label := [.main, .main, .main, .main, .main, .main]

def orderlyRun : List Label :=
  requestedDryRun ++
    [.workflow (.workerStart 0), .workerTouch 0 .monitor, .workflow (.workerFinish 0 101), .workflow (.workerExit 0)] ++
    stopServers ++
    [.next .slow, .check .slow, .main, .check .fast, .main, .main, .main, .main, .main, .main, .main, .main, .main, .main]

theorem orderly_run_safe :
    (Runs.run step (State.initial ⟨false, true⟩) orderlyRun).isSome = true ∧
      Runs.Throughout step (State.initial ⟨false, true⟩) orderlyRun Safe := by
  have completes : (Runs.run step (State.initial ⟨false, true⟩) orderlyRun).isSome = true := by decide +kernel
  have reached := Runs.run_final step (State.initial ⟨false, true⟩) orderlyRun completes
  exact ⟨completes, (teardown_safe_iff ⟨false, true⟩ orderlyRun _ reached).mpr (by decide +kernel)⟩

-- The signal comes while the dry run's worker is still in its body, and the
-- worker reports to the monitor after monitor_stop has freed it.
def lateWorkerRun : List Label :=
  requestedDryRun ++ [.workflow (.workerStart 0)] ++ stopServers ++
    [.next .slow, .check .slow, .main, .check .fast, .main, .main, .main, .main, .main, .workerTouch 0 .monitor]

-- The slow loop has read mon->fast_loop before fast_loop_stop frees it, and follows it after.
def heldFastLoopRun : List Label := [.load .slow] ++ stopServers ++ [.main, .check .fast, .main, .main, .follow .slow]

def lateWeatherRun : List Label :=
  [.openRequest, .main, .next .weather, .check .weather, .main, .main, .load (.handler 0), .follow (.handler 0)]

theorem teardown_uses_freed_objects :
    (Runs.run step (State.initial ⟨false, true⟩) lateWorkerRun).map (fun state => state.uses.getLast?) =
        some (some ⟨.worker 0, .monitor, true⟩) ∧
      (Runs.run step (State.initial ⟨false, true⟩) heldFastLoopRun).map (fun state => state.uses.getLast?) =
        some (some ⟨.thread .slow, .fastLoop, true⟩) ∧
      (Runs.run step (State.initial ⟨true, true⟩) lateWeatherRun).map (fun state => state.uses.getLast?) =
        some (some ⟨.thread (.handler 0), .weather, true⟩) ∧
      ¬∀ (setup : Setup) (labels : List Label) (final : State),
        Runs.run step (State.initial setup) labels = some final →
          Runs.Throughout step (State.initial setup) labels Safe := by
  have late : (Runs.run step (State.initial ⟨false, true⟩) lateWorkerRun).map (fun state => state.uses.getLast?) =
      some (some ⟨.worker 0, .monitor, true⟩) := by decide +kernel
  refine ⟨late, by decide +kernel, by decide +kernel, fun safe => ?_⟩
  obtain ⟨final, reached, last⟩ := Option.map_eq_some_iff.mp late
  have kept := safe ⟨false, true⟩ lateWorkerRun final reached lateWorkerRun [] final (List.append_nil _).symm reached
  have live := kept.usesLive _ (List.mem_of_getLast? last)
  cases live

end AiriesUps.Daemon
