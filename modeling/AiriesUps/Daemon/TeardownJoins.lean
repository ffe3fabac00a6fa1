import AiriesUps.Lib.Tables
import AiriesUps.Daemon.Teardown

set_option autoImplicit false

namespace AiriesUps.Daemon

open Shutdown (Async Caller Worker)

def MainPc.joined (main : MainPc) : Thread → Bool
  | .weather => main.past .weatherJoined
  | .handler _ => main.past .apiStopped
  | .fast => main.past .fastJoined
  | .slow => main.past .slowJoined

-- A thread holds only pointers it can load, and calls shutdown_start_async only
-- through a manager it has.
def Pc.Placed (thread : Thread) : Pc → Prop
  | .holding object => object ∈ thread.reach
  | .starting _ => Object.shutdown ∈ thread.reach
  | .check | .body | .ended => True

-- What holds in every run: joined threads are over, and a call of
-- shutdown_start_async that has not returned has a live thread inside it.
structure Joined (state : State) : Prop where
  ended : ∀ thread, state.main.joined thread = true → state.pcs thread = .ended
  unopened : ∀ index, state.opened ≤ index → state.pcs (.handler index) = .ended
  owned : ∀ caller entry, state.async.callers[caller]? = some entry → entry.pc.isReturned = false →
    ∃ thread, state.pcs thread = .starting caller
  placed : ∀ thread, (state.pcs thread).Placed thread
  freeUncalled : state.main.past .workerCaptured = false → state.async.free = .notCalled

theorem past_iff (main stage : MainPc) : main.past stage = true ↔ stage.rank ≤ main.rank := decide_eq_true_iff

theorem all_over (state : State) (joined : Joined state) (stopped : state.main.past .slowJoined = true)
    (thread : Thread) : state.pcs thread = .ended := by
  apply joined.ended
  rw [past_iff] at stopped
  cases thread with
  | slow => exact (past_iff _ _).mpr stopped
  | fast => exact (past_iff _ _).mpr (Nat.le_trans (by decide) stopped)
  | weather => exact (past_iff _ _).mpr (Nat.le_trans (by decide) stopped)
  | handler index => exact (past_iff _ _).mpr (Nat.le_trans (by decide) stopped)

theorem callers_returned (state : State) (joined : Joined state) (stopped : state.main.past .slowJoined = true)
    (caller : Nat) (entry : Caller) (found : state.async.callers[caller]? = some entry) :
    entry.pc.isReturned = true := by
  by_contra active
  obtain ⟨thread, inside⟩ := joined.owned caller entry found (by simpa using active)
  rw [all_over state joined stopped thread] at inside
  cases inside

-- Between two stages of its teardown main joins only threads that are over; a
-- request that was never opened is one of them.
def JoinsEnded (state : State) (main next : MainPc) : Prop :=
  ∀ thread, next.joined thread = true → main.joined thread = true ∨ state.pcs thread = .ended ∨
    ∃ index, thread = .handler index ∧ state.opened ≤ index

def UsesLive (state next : State) : Prop := ∀ use ∈ next.uses, use ∈ state.uses ∨ use.freed = false

def BodiesFrom (state next : Async) : Prop :=
  ∀ worker ∈ next.workers, inBody worker = true → ∃ before ∈ state.workers, inBody before = true

structure MainStepped (state next : State) : Prop where
  setup : next.setup = state.setup
  pcs : next.pcs = state.pcs
  opened : next.opened = state.opened
  callers : next.async.callers = state.async.callers
  bodies : BodiesFrom state.async next.async
  rank : next.main.rank = state.main.rank + 1
  joins : JoinsEnded state state.main next.main
  uses : UsesLive state next
  free : next.async.free = state.async.free ∨ next.main.past .workerCaptured = true

theorem use_live (state : State) (actor : Actor) (object : Object) (live : state.isFreed object = false) :
    UsesLive state (state.use actor object) := by
  intro use member
  rcases List.mem_append.mp member with earlier | last
  · exact Or.inl earlier
  · rw [List.mem_singleton.mp last]
    exact Or.inr live

def BeforeFree (main : MainPc) (object : Object) : Prop := ∀ weather fastLoop, main.freed ⟨weather, fastLoop⟩ object = false

instance (main : MainPc) (object : Object) : Decidable (BeforeFree main object) := by
  unfold BeforeFree
  infer_instance

theorem main_uses (state : State) (main : MainPc) (object : Object) (located : state.main = main)
    (before : BeforeFree main object) : UsesLive state (state.use .main object) := by
  apply use_live
  rw [State.isFreed, located]
  exact before state.setup.weather state.setup.fastLoop

theorem main_uses_if (state : State) (present : Bool) (main : MainPc) (object : Object) (located : state.main = main)
    (before : BeforeFree main object) : UsesLive state (state.useIf present .main object) := by
  cases present with
  | true => exact main_uses state main object located before
  | false => exact fun use member => Or.inl member

theorem uses_none (state : State) : UsesLive state state := fun _ member => Or.inl member

theorem bodies_from_refl (state : Async) : BodiesFrom state state := fun worker member body => ⟨worker, member, body⟩

theorem free_join_bodies (state next : Async) (taken : state.step .freeJoin = some next) :
    next.callers = state.callers ∧ BodiesFrom state next := by
  cases Shutdown.step_cases state next .freeJoin taken with
  | freeJoin prior priorValid joined captured handled =>
    rcases Shutdown.join_handle_spec state joined prior priorValid handled with ⟨_, _, rfl⟩ | ⟨_, rfl⟩
    · refine ⟨rfl, fun worker member body => ?_⟩
      rcases Tables.modify_member _ prior _ worker member with ⟨before, found, changed⟩ | kept
      · rw [changed] at body
        exact ⟨before, List.mem_of_getElem? found, body⟩
      · exact ⟨worker, kept, body⟩
    · exact ⟨rfl, bodies_from_refl _⟩

def MainPc.joins (main : MainPc) : Bool :=
  main = .weatherJoined || main = .apiStopped || main = .fastJoined || main = .slowJoined

theorem rank_injective (early late : MainPc) (same : early.rank = late.rank) : early = late := by
  cases early <;> cases late <;> first | rfl | cases same

theorem past_before (main next stage : MainPc) (rank : next.rank = main.rank + 1) (differs : next ≠ stage)
    (past : next.past stage = true) : main.past stage = true := by
  have distinct : next.rank ≠ stage.rank := fun same => differs (rank_injective next stage same)
  rw [past_iff] at past ⊢
  omega

theorem joins_none (state : State) (main next : MainPc) (rank : next.rank = main.rank + 1)
    (plain : next.joins = false) : JoinsEnded state main next := by
  intro thread joined
  apply Or.inl
  cases thread with
  | slow => exact past_before main next .slowJoined rank (by rintro rfl; cases plain) joined
  | fast => exact past_before main next .fastJoined rank (by rintro rfl; cases plain) joined
  | weather => exact past_before main next .weatherJoined rank (by rintro rfl; cases plain) joined
  | handler index => exact past_before main next .apiStopped rank (by rintro rfl; cases plain) joined

theorem joins_one (state : State) (main next : MainPc) (thread : Thread) (ended : state.pcs thread = .ended)
    (others : ∀ other, other ≠ thread → next.joined other = main.joined other) : JoinsEnded state main next := by
  intro other joined
  by_cases same : other = thread
  · exact Or.inr (Or.inl (same ▸ ended))
  · exact Or.inl (others other same ▸ joined)

theorem joins_handlers (state : State) (ended : ∀ index, index < state.opened → state.pcs (.handler index) = .ended) :
    JoinsEnded state .sseShut .apiStopped := by
  intro thread joined
  cases thread with
  | handler index =>
    by_cases opened : index < state.opened
    · exact Or.inr (Or.inl (ended index opened))
    · exact Or.inr (Or.inr ⟨index, rfl, Nat.not_lt.mp opened⟩)
  | slow => exact Or.inl joined
  | fast => exact Or.inl joined
  | weather => exact Or.inl joined

theorem main_frees (state next : State) (main : MainPc) (located : state.main = main)
    (setup : next.setup = state.setup) (pcs : next.pcs = state.pcs) (opened : next.opened = state.opened)
    (rank : next.main.rank = main.rank + 1) (plain : next.main.joins = false)
    (captured : next.main.past .workerCaptured = true) (callers : next.async.callers = state.async.callers)
    (bodies : BodiesFrom state.async next.async) (uses : UsesLive state next) : MainStepped state next where
  setup := setup
  pcs := pcs
  opened := opened
  callers := callers
  bodies := bodies
  rank := by rw [rank, located]
  joins := by rw [located]; exact joins_none state main next.main rank plain
  uses := uses
  free := Or.inr captured

theorem main_joins (state next : State) (main : MainPc) (located : state.main = main)
    (setup : next.setup = state.setup) (pcs : next.pcs = state.pcs) (opened : next.opened = state.opened)
    (async : next.async = state.async) (rank : next.main.rank = main.rank + 1)
    (joins : JoinsEnded state main next.main) (uses : UsesLive state next) : MainStepped state next where
  setup := setup
  pcs := pcs
  opened := opened
  callers := by rw [async]
  bodies := by rw [async]; exact bodies_from_refl state.async
  rank := by rw [rank, located]
  joins := by rw [located]; exact joins
  uses := uses
  free := Or.inl (by rw [async])

theorem main_moves (state next : State) (main : MainPc) (located : state.main = main)
    (setup : next.setup = state.setup) (pcs : next.pcs = state.pcs) (opened : next.opened = state.opened)
    (async : next.async = state.async) (rank : next.main.rank = main.rank + 1) (plain : next.main.joins = false)
    (uses : UsesLive state next) : MainStepped state next :=
  main_joins state next main located setup pcs opened async rank (joins_none state main next.main rank plain) uses

theorem main_step_cases (state next : State) (taken : state.mainStep = some next) : MainStepped state next := by
  cases located : state.main <;> simp only [State.mainStep, located] at taken
  case weatherStopping =>
    obtain ⟨ended, rfl⟩ := Option.ite_some_none_eq_some.mp taken
    exact main_joins state _ _ located rfl rfl rfl rfl rfl
      (joins_one _ _ _ .weather ended fun other differs => by cases other <;> first | rfl | exact absurd rfl differs)
      (main_uses_if state _ _ _ located (by decide))
  case sseShut =>
    obtain ⟨ended, rfl⟩ := Option.ite_some_none_eq_some.mp taken
    exact main_joins state _ _ located rfl rfl rfl rfl rfl (joins_handlers state ended) (uses_none state)
  case fastStopping =>
    obtain ⟨ended, rfl⟩ := Option.ite_some_none_eq_some.mp taken
    exact main_joins state _ _ located rfl rfl rfl rfl rfl
      (joins_one _ _ _ .fast ended fun other differs => by cases other <;> first | rfl | exact absurd rfl differs)
      (main_uses_if state _ _ _ located (by decide))
  case fastCleared =>
    obtain ⟨ended, rfl⟩ := Option.ite_some_none_eq_some.mp taken
    exact main_joins state _ _ located rfl rfl rfl rfl rfl
      (joins_one _ _ _ .slow ended fun other differs => by cases other <;> first | rfl | exact absurd rfl differs)
      (main_uses state _ _ located (by decide))
  case upsClosed =>
    obtain ⟨async, locked, rfl⟩ := Option.map_eq_some_iff.mp taken
    cases Shutdown.step_cases _ _ _ locked
    exact main_frees state _ _ located rfl rfl rfl rfl rfl rfl rfl (bodies_from_refl state.async)
      (main_uses state _ _ located (by decide))
  case workerCaptured =>
    obtain ⟨async, joined, rfl⟩ := Option.map_eq_some_iff.mp taken
    obtain ⟨callers, bodies⟩ := free_join_bodies state.async async joined
    exact main_frees state _ _ located rfl rfl rfl rfl rfl rfl callers bodies (uses_none state)
  case workerJoined =>
    obtain ⟨async, freed, rfl⟩ := Option.map_eq_some_iff.mp taken
    cases Shutdown.step_cases _ _ _ freed
    exact main_frees state _ _ located rfl rfl rfl rfl rfl rfl rfl (bodies_from_refl state.async)
      (main_uses state _ _ located (by decide))
  case sseDestroyed => cases taken
  case monitorStopping =>
    cases taken
    refine main_moves state _ _ located rfl rfl rfl rfl rfl rfl ?_
    intro use member
    rcases main_uses_if (state.use .main .monitor) _ _ _ located (by decide) use member with earlier | live
    · exact main_uses state _ _ located (by decide) use earlier
    · exact Or.inr live
  case serving =>
    cases taken
    exact main_moves state _ _ located rfl rfl rfl rfl rfl rfl (main_uses_if state _ _ _ located (by decide))
  case weatherJoined =>
    cases taken
    exact main_moves state _ _ located rfl rfl rfl rfl rfl rfl (uses_none state)
  case fastJoined =>
    cases taken
    exact main_moves state _ _ located rfl rfl rfl rfl rfl rfl (uses_none state)
  all_goals
    cases taken
    exact main_moves state _ _ located rfl rfl rfl rfl rfl rfl (main_uses state _ _ located (by decide))

def CallActive (state : Async) : Prop :=
  ∃ (caller : Nat) (entry : Caller), state.callers[caller]? = some entry ∧ entry.pc.isReturned = false

theorem callers_modified (callers : List Caller) (caller : Nat) (change : Caller → Caller) (entry : Caller)
    (found : callers[caller]? = some entry) (active : entry.pc.isReturned = false) (other : Nat) (after : Caller)
    (present : (callers.modify caller change)[other]? = some after) (afterActive : after.pc.isReturned = false) :
    ∃ before, callers[other]? = some before ∧ before.pc.isReturned = false := by
  rcases Tables.modify_found callers caller other change after present with ⟨same, _⟩ | ⟨_, kept⟩
  · subst same
    exact ⟨entry, found, active⟩
  · exact ⟨after, kept, afterActive⟩

structure WorkflowStepped (state next : Async) : Prop where
  free : next.free = state.free
  callers : ∀ (caller : Nat) (entry : Caller), next.callers[caller]? = some entry → entry.pc.isReturned = false →
    ∃ before : Caller, state.callers[caller]? = some before ∧ before.pc.isReturned = false
  bodies : ∀ worker ∈ next.workers, inBody worker = true →
    (∃ before ∈ state.workers, inBody before = true) ∨ CallActive state

theorem caller_stepped (state : Async) (mgr : Shutdown.Manager) (workers : List Worker) (caller : Nat)
    (change : Caller → Caller) (entry : Caller) (found : state.callers[caller]? = some entry)
    (active : entry.pc.isReturned = false)
    (bodies : ∀ worker ∈ workers, inBody worker = true →
      (∃ before ∈ state.workers, inBody before = true) ∨ CallActive state) :
    WorkflowStepped state
      { state with mgr := mgr, workers := workers, callers := state.callers.modify caller change } where
  free := rfl
  callers other after present afterActive :=
    callers_modified state.callers caller change entry found active other after present afterActive
  bodies := bodies

theorem bodies_same (state : Async) : ∀ worker ∈ state.workers, inBody worker = true →
    (∃ before ∈ state.workers, inBody before = true) ∨ CallActive state :=
  fun worker member body => Or.inl ⟨worker, member, body⟩

theorem worker_stepped (state : Async) (mgr : Shutdown.Manager) (index : Nat) (change : Worker → Worker)
    (worker : Worker) (found : state.workers[index]? = some worker)
    (kept : ∀ before, inBody (change before) = true → inBody worker = true) :
    WorkflowStepped state { state with mgr := mgr, workers := state.workers.modify index change } where
  free := rfl
  callers caller entry present active := ⟨entry, present, active⟩
  bodies after member body := by
    rcases Tables.modify_member state.workers index change after member with ⟨before, _, changed⟩ | same
    · rw [changed] at body
      exact Or.inl ⟨worker, List.mem_of_getElem? found, kept before body⟩
    · exact Or.inl ⟨after, same, body⟩

theorem workflow_stepped (state next : Async) (label : Shutdown.Label) (actor : Actor)
    (isThread : workflowActor label = some actor) (taken : state.step label = some next) :
    WorkflowStepped state next := by
  cases Shutdown.step_cases state next label taken with
  | call => cases isThread
  | freeLock => cases isThread
  | freeJoin => cases isThread
  | freeMgr => cases isThread
  | rejected caller entry now allocated found entered running =>
    exact caller_stepped state state.mgr state.workers caller _ entry found (by rw [entered]; rfl) (bodies_same state)
  | accepted caller entry now allocated found entered free =>
    rw [Shutdown.lockStart, if_neg free]
    exact caller_stepped state _ state.workers caller _ entry found (by rw [entered]; rfl) (bodies_same state)
  | joined caller entry prior priorValid joined found accepted handled =>
    have active : entry.pc.isReturned = false := by rw [accepted]; rfl
    rcases Shutdown.join_handle_spec state joined prior priorValid handled with ⟨_, _, rfl⟩ | ⟨_, rfl⟩
    · refine caller_stepped state state.mgr _ caller _ entry found active fun worker member body => ?_
      rcases Tables.modify_member _ prior _ worker member with ⟨before, present, changed⟩ | kept
      · rw [changed] at body
        exact Or.inl ⟨before, List.mem_of_getElem? present, body⟩
      · exact Or.inl ⟨worker, kept, body⟩
    · exact caller_stepped joined joined.mgr joined.workers caller _ entry found active (bodies_same joined)
  | spawned caller entry found joined =>
    have active : entry.pc.isReturned = false := by rw [joined]; rfl
    exact caller_stepped state state.mgr _ caller _ entry found active fun _ _ _ => Or.inr ⟨caller, entry, found, active⟩
  | notSpawned caller entry found joined =>
    exact caller_stepped state state.mgr state.workers caller _ entry found (by rw [joined]; rfl) (bodies_same state)
  | published caller entry newt found spawned =>
    exact caller_stepped state _ state.workers caller _ entry found (by rw [spawned]; rfl) (bodies_same state)
  | failed caller entry now found spawnFailed =>
    exact caller_stepped state _ state.workers caller _ entry found (by rw [spawnFailed]; rfl) (bodies_same state)
  | workerStart index worker found created =>
    exact worker_stepped state state.mgr index _ worker found fun _ _ => by simp [inBody, created]
  | workerRow index row worker found running =>
    exact worker_stepped state _ index _ worker found fun _ _ => by simp [inBody, running]
  | workerFinish index now worker found running =>
    exact worker_stepped state _ index _ worker found fun _ _ => by simp [inBody, running]
  | workerExit index worker found finished =>
    exact worker_stepped state state.mgr index _ worker found fun before body => by simp [inBody] at body

theorem past_earlier (before after stage : MainPc) (rank : before.rank ≤ after.rank)
    (early : after.past stage = false) : before.past stage = false := by
  rw [← Bool.not_eq_true, past_iff] at early ⊢
  omega

theorem joined_initial (setup : Setup) : Joined (State.initial setup) where
  ended thread joined := by cases thread <;> simp [State.initial, MainPc.joined, MainPc.past, MainPc.rank] at joined
  unopened _ _ := rfl
  owned caller entry found := by simp [State.initial, Async.initial] at found
  placed thread := by
    cases thread with
    | slow => trivial
    | fast => cases fastLoop : setup.fastLoop <;> simp [State.initial, fastLoop, Pc.Placed]
    | weather => cases weather : setup.weather <;> simp [State.initial, weather, Pc.Placed]
    | handler index => trivial
  freeUncalled _ := rfl

theorem joined_main (state next : State) (joined : Joined state) (stepped : MainStepped state next) : Joined next where
  ended thread ended := by
    rw [stepped.pcs]
    rcases stepped.joins thread ended with earlier | ended | ⟨index, rfl, unopened⟩
    · exact joined.ended thread earlier
    · exact ended
    · exact joined.unopened index unopened
  unopened index beyond := by
    rw [stepped.opened] at beyond
    rw [stepped.pcs]
    exact joined.unopened index beyond
  owned caller entry found active := by
    rw [stepped.callers] at found
    rw [stepped.pcs]
    exact joined.owned caller entry found active
  placed thread := by
    rw [stepped.pcs]
    exact joined.placed thread
  freeUncalled early := by
    rcases stepped.free with same | captured
    · rw [same]
      exact joined.freeUncalled (past_earlier state.main next.main _ (by rw [stepped.rank]; omega) early)
    · rw [captured] at early
      cases early

theorem joined_use (state : State) (actor : Actor) (object : Object) (joined : Joined state) :
    Joined (state.use actor object) :=
  { ended := joined.ended, unopened := joined.unopened, owned := joined.owned, placed := joined.placed
    freeUncalled := joined.freeUncalled }

-- A live thread that is not inside an unreturned call may move anywhere outside a call.
theorem joined_goto (state : State) (thread : Thread) (pc : Pc) (joined : Joined state)
    (alive : state.pcs thread ≠ .ended)
    (outside : ∀ caller entry, state.pcs thread = .starting caller → state.async.callers[caller]? = some entry →
      entry.pc.isReturned = true)
    (placed : pc.Placed thread) : Joined (state.goto thread pc) where
  ended other ended := by
    have ended := joined.ended other ended
    exact (state.goto_other thread other pc fun same => alive (same ▸ ended)).trans ended
  unopened index beyond := by
    have ended := joined.unopened index beyond
    exact (state.goto_other thread (.handler index) pc fun same => alive (same ▸ ended)).trans ended
  owned caller entry found active := by
    obtain ⟨owner, inside⟩ := joined.owned caller entry found active
    have differs : owner ≠ thread := by
      intro same
      rw [outside caller entry (same ▸ inside) found] at active
      cases active
    exact ⟨owner, (state.goto_other thread owner pc differs).trans inside⟩
  placed other := by
    by_cases same : other = thread
    · subst same
      rw [state.goto_self]
      exact placed
    · rw [state.goto_other thread other pc same]
      exact joined.placed other
  freeUncalled := joined.freeUncalled

theorem joined_open (state : State) (joined : Joined state) (accepting : state.accepting = true) :
    Joined state.openRequest where
  ended thread ended := by
    have differs : thread ≠ .handler state.opened := by
      rintro rfl
      rw [State.accepting, Bool.not_eq_true'] at accepting
      cases accepting.symm.trans ended
    exact (state.goto_other _ thread .body differs).trans (joined.ended thread ended)
  unopened index beyond := by
    have later : state.opened + 1 ≤ index := beyond
    have differs : Thread.handler index ≠ .handler state.opened := by
      intro same
      injection same with same
      omega
    exact (state.goto_other _ (.handler index) .body differs).trans (joined.unopened index (by omega))
  owned caller entry found active := by
    obtain ⟨owner, inside⟩ := joined.owned caller entry found active
    have differs : owner ≠ .handler state.opened := by
      rintro rfl
      rw [joined.unopened state.opened (Nat.le_refl _)] at inside
      cases inside
    exact ⟨owner, (state.goto_other _ owner .body differs).trans inside⟩
  placed thread := by
    have elsewhere := joined.placed thread
    by_cases same : thread = .handler state.opened
    · subst same
      exact (congrArg (Pc.Placed _) (state.goto_self _ .body)).mpr trivial
    · exact (congrArg (Pc.Placed _) (state.goto_other _ thread .body same)).mpr elsewhere
  freeUncalled := joined.freeUncalled

theorem starter_reach (thread : Thread) (starts : thread.startsWorkflows = true) : Object.shutdown ∈ thread.reach := by
  cases thread with
  | slow => decide
  | handler index => simp [Thread.reach]
  | fast => cases starts
  | weather => cases starts

theorem joined_start (state : State) (thread : Thread) (dryRun : Bool) (async : Async) (joined : Joined state)
    (body : state.pcs thread = .body) (starts : thread.startsWorkflows = true) (called : state.async.step (.call dryRun) = some async) :
    Joined { state.goto thread (.starting state.async.callers.length) with async := async } := by
  have moved := joined_goto state thread (.starting state.async.callers.length) joined (by rw [body]; nofun)
    (fun _ _ inside => by rw [body] at inside; cases inside) (starter_reach thread starts)
  cases Shutdown.step_cases _ _ _ called with
  | call _ notCalled =>
    refine { ended := moved.ended, unopened := moved.unopened, placed := moved.placed, freeUncalled := moved.freeUncalled
             owned := fun caller entry found active => ?_ }
    rcases Tables.append_found state.async.callers _ entry caller found with earlier | ⟨last, _⟩
    · exact moved.owned caller entry earlier active
    · exact ⟨thread, by rw [last]; exact Function.update_self _ _ _⟩

theorem joined_workflow (state : State) (next : Async) (joined : Joined state)
    (stepped : WorkflowStepped state.async next) : Joined { state with async := next } where
  ended := joined.ended
  unopened := joined.unopened
  owned caller entry found active := by
    obtain ⟨before, present, beforeActive⟩ := stepped.callers caller entry found active
    exact joined.owned caller before present beforeActive
  placed := joined.placed
  freeUncalled early := by
    rw [stepped.free]
    exact joined.freeUncalled early

inductive Able (state : State) : Actor → Object → Prop where
  | thread (thread : Thread) (object : Object) (alive : state.pcs thread ≠ .ended) (reached : object ∈ thread.reach) :
      Able state (.thread thread) object
  | caller (caller : Nat) (entry : Caller) (found : state.async.callers[caller]? = some entry)
      (active : entry.pc.isReturned = false) : Able state (.caller caller) .shutdown
  | worker (index : Nat) (worker : Worker) (object : Object) (found : state.async.workers[index]? = some worker)
      (body : inBody worker = true) (reached : object ∈ workerReach) : Able state (.worker index) object

-- How a step other than main's changes the threads, its use aside.
inductive Moved (state : State) : State → Prop where
  | stayed : Moved state state
  | moved (thread : Thread) (pc : Pc) (alive : state.pcs thread ≠ .ended)
      (outside : ∀ caller entry, state.pcs thread = .starting caller → state.async.callers[caller]? = some entry →
        entry.pc.isReturned = true)
      (placed : pc.Placed thread) : Moved state (state.goto thread pc)
  | opened (accepting : state.accepting = true) : Moved state state.openRequest
  | started (thread : Thread) (dryRun : Bool) (async : Async) (body : state.pcs thread = .body)
      (starts : thread.startsWorkflows = true) (called : state.async.step (.call dryRun) = some async) :
      Moved state { state.goto thread (.starting state.async.callers.length) with async := async }
  | worked (async : Async) (stepped : WorkflowStepped state.async async) : Moved state { state with async := async }

def Steps (state next : State) : Prop :=
  Moved state next ∨ ∃ actor object, Able state actor object ∧ Moved (state.use actor object) next

theorem moved_outside (state : State) (thread : Thread) (pc : Pc) (source : Pc) (located : state.pcs thread = source)
    (alive : source ≠ .ended) (notStarting : ∀ caller, source ≠ .starting caller)
    (placed : pc.Placed thread) : Moved state (state.goto thread pc) :=
  .moved thread pc (located ▸ alive) (fun caller _ inside _ => absurd (located.symm.trans inside) (notStarting caller))
    placed

theorem load_steps (state next : State) (thread : Thread) (body : state.pcs thread = .body)
    (taken : state.load thread = some next) : Steps state next := by
  cases thread with
  | slow =>
    have able : Able state (.thread .slow) .monitor := .thread .slow .monitor (by rw [body]; nofun) (by decide)
    simp only [State.load, Option.some.injEq] at taken
    subst taken
    refine Or.inr ⟨_, _, able, ?_⟩
    by_cases present : state.fastLoopSet = true
    · rw [if_pos present]
      exact moved_outside _ .slow _ .body body nofun nofun (by simp [Pc.Placed, Thread.reach])
    · rw [if_neg present]
      exact .stayed
  | handler index =>
    simp only [State.load, Option.some.injEq] at taken
    subst taken
    by_cases present : state.setup.weather = true
    · rw [if_pos present]
      exact Or.inl (moved_outside _ _ _ .body body nofun nofun (by simp [Pc.Placed, Thread.reach]))
    · rw [if_neg present]
      exact Or.inl .stayed
  | fast => cases taken
  | weather => cases taken

theorem workflow_able (state : State) (next : Async) (label : Shutdown.Label) (actor : Actor)
    (isThread : workflowActor label = some actor) (locks : locksManager label = true)
    (taken : state.async.step label = some next) : Able state actor .shutdown := by
  cases Shutdown.step_cases _ _ _ taken with
  | call => cases isThread
  | freeLock => cases isThread
  | freeJoin => cases isThread
  | freeMgr => cases isThread
  | joined => cases locks
  | spawned => cases locks
  | notSpawned => cases locks
  | workerExit => cases locks
  | rejected caller entry now allocated found entered =>
    cases isThread
    exact .caller caller entry found (by rw [entered]; rfl)
  | accepted caller entry now allocated found entered =>
    cases isThread
    exact .caller caller entry found (by rw [entered]; rfl)
  | published caller entry newt found spawned =>
    cases isThread
    exact .caller caller entry found (by rw [spawned]; rfl)
  | failed caller entry now found spawnFailed =>
    cases isThread
    exact .caller caller entry found (by rw [spawnFailed]; rfl)
  | workerStart index worker found created =>
    cases isThread
    exact .worker index worker .shutdown found (by simp [inBody, created]) (by decide)
  | workerRow index row worker found running =>
    cases isThread
    exact .worker index worker .shutdown found (by simp [inBody, running]) (by decide)
  | workerFinish index now worker found running =>
    cases isThread
    exact .worker index worker .shutdown found (by simp [inBody, running]) (by decide)

theorem workflow_steps (state : State) (next : Async) (label : Shutdown.Label) (actor : Actor)
    (isThread : workflowActor label = some actor) (taken : state.async.step label = some next) :
    Steps state { state.useIf (locksManager label) actor .shutdown with async := next } := by
  have stepped := workflow_stepped state.async next label actor isThread taken
  by_cases locks : locksManager label = true
  · have able := workflow_able state next label actor isThread locks taken
    have worked : Moved (state.use actor .shutdown) { state.use actor .shutdown with async := next } :=
      .worked next stepped
    rw [locks]
    exact Or.inr ⟨actor, .shutdown, able, worked⟩
  · rw [Bool.not_eq_true] at locks
    rw [locks]
    exact Or.inl (.worked next stepped)

theorem check_steps (state next : State) (thread : Thread) (taken : step state (.check thread) = some next) :
    Steps state next := by
  simp only [step] at taken
  split at taken
  · rename_i object running located flag
    cases taken
    have alive : state.pcs thread ≠ .ended := by rw [located]; nofun
    have reached : object ∈ thread.reach := by
      cases thread <;> cases flag <;> decide
    refine Or.inr ⟨_, _, .thread thread object alive reached, ?_⟩
    exact moved_outside _ thread _ .check located nofun nofun (by cases running <;> trivial)
  · cases taken

theorem follow_steps (state next : State) (thread : Thread) (joined : Joined state)
    (taken : step state (.follow thread) = some next) : Steps state next := by
  simp only [step] at taken
  split at taken
  · rename_i object located
    cases taken
    have placed : object ∈ thread.reach := by
      have holding := joined.placed thread
      rw [located] at holding
      exact holding
    exact Or.inr ⟨_, _, .thread thread object (by rw [located]; nofun) placed, .stayed⟩
  · cases taken

theorem started_moves (state next : State) (thread : Thread) (taken : step state (.started thread) = some next) :
    Moved state next := by
  simp only [step] at taken
  split at taken
  · rename_i caller located
    split at taken
    · rename_i entry found
      obtain ⟨returned, moved⟩ := Option.ite_none_right_eq_some.mp taken
      cases moved
      refine .moved thread .body (by rw [located]; nofun) (fun other after inside present => ?_) trivial
      rw [located, Pc.starting.injEq] at inside
      rw [← inside, found, Option.some.injEq] at present
      exact present ▸ returned
    · cases taken
  · cases taken

-- Every step is main's, or at most one use by an actor that is able to, and a move.
theorem step_cases (state next : State) (label : Label) (joined : Joined state) (taken : step state label = some next) :
    (label = .main ∧ state.mainStep = some next) ∨ (label ≠ .main ∧ Steps state next) := by
  cases label with
  | main => exact Or.inl ⟨rfl, taken⟩
  | check thread =>
    exact Or.inr ⟨nofun, check_steps state next thread taken⟩
  | next thread =>
    refine Or.inr ⟨nofun, Or.inl ?_⟩
    simp only [step] at taken
    split at taken
    · rename_i located flag
      cases taken
      exact moved_outside _ thread _ .body located nofun nofun trivial
    · cases taken
  | openRequest =>
    obtain ⟨accepting, moved⟩ := Option.ite_none_right_eq_some.mp taken
    cases moved
    exact Or.inr ⟨nofun, Or.inl (.opened accepting)⟩
  | touch thread object =>
    obtain ⟨⟨body, reached, _⟩, moved⟩ := Option.ite_none_right_eq_some.mp taken
    cases moved
    exact Or.inr ⟨nofun, Or.inr ⟨_, _, .thread thread object (by rw [body]; nofun) reached, .stayed⟩⟩
  | load thread =>
    obtain ⟨body, loaded⟩ := Option.ite_none_right_eq_some.mp taken
    exact Or.inr ⟨nofun, load_steps state next thread body loaded⟩
  | follow thread =>
    exact Or.inr ⟨nofun, follow_steps state next thread joined taken⟩
  | release thread =>
    refine Or.inr ⟨nofun, Or.inl ?_⟩
    simp only [step] at taken
    split at taken
    · rename_i object located
      cases taken
      exact moved_outside _ thread _ _ located nofun nofun trivial
    · cases taken
  | startAsync thread dryRun =>
    obtain ⟨⟨body, starts⟩, moved⟩ := Option.ite_none_right_eq_some.mp taken
    obtain ⟨async, called, rfl⟩ := Option.map_eq_some_iff.mp moved
    exact Or.inr ⟨nofun, Or.inl (.started thread dryRun async body starts called)⟩
  | started thread =>
    exact Or.inr ⟨nofun, Or.inl (started_moves state next thread taken)⟩
  | closeRequest index =>
    obtain ⟨body, moved⟩ := Option.ite_none_right_eq_some.mp taken
    cases moved
    exact Or.inr ⟨nofun, Or.inl (moved_outside _ _ _ .body body nofun nofun trivial)⟩
  | workflow label =>
    refine Or.inr ⟨nofun, ?_⟩
    simp only [step] at taken
    split at taken
    · rename_i actor isThread
      obtain ⟨async, stepped, rfl⟩ := Option.map_eq_some_iff.mp taken
      exact workflow_steps state async label actor isThread stepped
    · cases taken
  | workerTouch index object =>
    refine Or.inr ⟨nofun, ?_⟩
    simp only [step] at taken
    split at taken
    · rename_i worker found
      obtain ⟨⟨running, reached⟩, moved⟩ := Option.ite_none_right_eq_some.mp taken
      cases moved
      exact Or.inr ⟨_, _, .worker index worker object found (by simp [inBody, running]) reached, .stayed⟩
    · cases taken

theorem joined_moved (state next : State) (joined : Joined state) (moved : Moved state next) : Joined next := by
  cases moved with
  | stayed => exact joined
  | moved thread pc alive outside placed => exact joined_goto state thread pc joined alive outside placed
  | opened accepting => exact joined_open state joined accepting
  | started thread dryRun async body starts called =>
    exact joined_start state thread dryRun async joined body starts called
  | worked async stepped => exact joined_workflow state async joined stepped

theorem joined_step (state next : State) (label : Label) (joined : Joined state) (taken : step state label = some next) :
    Joined next := by
  rcases step_cases state next label joined taken with ⟨_, main⟩ | ⟨_, moved | ⟨actor, object, _, moved⟩⟩
  · exact joined_main state next joined (main_step_cases state next main)
  · exact joined_moved state next joined moved
  · exact joined_moved _ next (joined_use state actor object joined) moved

theorem joined_run (setup : Setup) (labels : List Label) (state : State)
    (reached : Runs.run step (State.initial setup) labels = some state) : Joined state :=
  Runs.run_invariant step (State.initial setup) (fun _ => Joined) (joined_initial setup)
    (fun _ state label next joined taken => joined_step state next label joined taken) labels state reached

-- When main comes to shutdown_free, every call of shutdown_start_async has returned.
theorem shutdown_free_not_blocked (setup : Setup) (labels : List Label) (state : State)
    (reached : Runs.run step (State.initial setup) labels = some state) (located : state.main = .upsClosed) :
    (step state .main).isSome = true := by
  have joined := joined_run setup labels state reached
  have notCalled := joined.freeUncalled (by rw [located]; decide)
  have returned : ∀ entry ∈ state.async.callers, entry.pc.isReturned = true := by
    intro entry member
    obtain ⟨caller, found⟩ := List.mem_iff_getElem?.mp member
    exact callers_returned state joined (by rw [located]; decide) caller entry found
  simp only [step, State.mainStep, located, Async.step, if_pos (And.intro notCalled returned), Option.map_some,
    Option.isSome_some]

end AiriesUps.Daemon
