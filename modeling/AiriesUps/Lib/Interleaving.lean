import AiriesUps.Lib.Runs
import AiriesUps.Lib.Tables

set_option autoImplicit false

-- Programs that share a store and reach it by queries only: each query is one step, and
-- the queries of different programs come in any order.
namespace Interleaving

inductive Program (Query Reply Answer : Type) where
  | answer (value : Answer)
  | ask (query : Query) (next : Reply → Program Query Reply Answer)

namespace Program

variable {Query Reply Answer Other : Type}

def bind (program : Program Query Reply Answer) (rest : Answer → Program Query Reply Other) : Program Query Reply Other :=
  match program with
  | answer value => rest value
  | ask query next => ask query fun reply => (next reply).bind rest

instance : Monad (Program Query Reply) where
  pure := answer
  bind := bind

-- One query and its reply.
def query (query : Query) : Program Query Reply Reply := ask query answer

@[simp] theorem pure_eq (value : Answer) : (pure value : Program Query Reply Answer) = answer value := rfl

@[simp] theorem answer_bind (value : Answer) (rest : Answer → Program Query Reply Other) :
    (answer value : Program Query Reply Answer) >>= rest = rest value := rfl

@[simp] theorem ask_bind (query : Query) (next : Reply → Program Query Reply Answer)
    (rest : Answer → Program Query Reply Other) : ask query next >>= rest = ask query fun reply => next reply >>= rest := rfl

@[simp] theorem query_bind (asked : Query) (rest : Reply → Program Query Reply Other) :
    (query asked : Program Query Reply Reply) >>= rest = ask asked rest := rfl

def answered : Program Query Reply Answer → Option Answer
  | answer value => some value
  | ask _ _ => none

theorem answered_some (program : Program Query Reply Answer) (value : Answer) (done : program.answered = some value) :
    program = answer value := by
  cases program with
  | answer other => rw [Option.some.inj done]
  | ask query next => cases done

-- The program run on its own, every query with the same input.
def alone {Store Input : Type} (serve : Query → Input → Store → Reply × Store) (input : Input) (store : Store) :
    Program Query Reply Answer → Answer × Store
  | answer value => (value, store)
  | ask query next => (next (serve query input store).1).alone serve input (serve query input store).2

theorem alone_bind {Store Input : Type} (serve : Query → Input → Store → Reply × Store) (input : Input) (store : Store)
    (program : Program Query Reply Answer) (rest : Answer → Program Query Reply Other) :
    (program >>= rest).alone serve input store =
      (rest (program.alone serve input store).1).alone serve input (program.alone serve input store).2 := by
  induction program generalizing store with
  | answer value => rfl
  | ask query next ih => exact ih (serve query input store).1 (serve query input store).2

-- The program gets this far by asking these queries and getting these replies.
inductive Follows : Program Query Reply Answer → List (Query × Reply) → Program Query Reply Answer → Prop where
  | here (program : Program Query Reply Answer) : Follows program [] program
  | asked (query : Query) (next : Reply → Program Query Reply Answer) (reply : Reply) (rest : List (Query × Reply))
      (reached : Program Query Reply Answer) (later : Follows (next reply) rest reached) :
      Follows (ask query next) ((query, reply) :: rest) reached

theorem follows_answer (value : Answer) (pairs : List (Query × Reply)) (reached : Program Query Reply Answer)
    (follows : Follows (answer value) pairs reached) : pairs = [] ∧ reached = answer value := by
  cases follows
  exact ⟨rfl, rfl⟩

theorem follows_concat (program : Program Query Reply Answer) (pairs : List (Query × Reply)) (query : Query)
    (next : Reply → Program Query Reply Answer) (reply : Reply) (follows : Follows program pairs (ask query next)) :
    Follows program (pairs ++ [(query, reply)]) (next reply) := by
  generalize stopped : ask query next = reached at follows
  induction follows with
  | here program =>
    subst stopped
    exact .asked query next reply [] _ (.here _)
  | asked other step replied rest reached later ih => exact .asked other step replied _ _ (ih stopped)

-- A program cut in two: it is still in the first part, or the first part has answered.
theorem follows_bind (program : Program Query Reply Answer) (rest : Answer → Program Query Reply Other)
    (pairs : List (Query × Reply)) (reached : Program Query Reply Other) (follows : Follows (program >>= rest) pairs reached) :
    (∃ stopped, Follows program pairs stopped ∧ reached = stopped >>= rest) ∨
      ∃ first second value, pairs = first ++ second ∧ Follows program first (answer value) ∧
        Follows (rest value) second reached := by
  induction program generalizing pairs with
  | answer value => exact Or.inr ⟨[], pairs, value, rfl, .here _, follows⟩
  | ask query next ih =>
    rw [ask_bind] at follows
    cases follows with
    | here => exact Or.inl ⟨ask query next, .here _, rfl⟩
    | asked _ _ reply others _ later =>
      rcases ih reply others later with ⟨stopped, inside, same⟩ | ⟨first, second, value, split, answered, after⟩
      · exact Or.inl ⟨stopped, .asked query next reply others stopped inside, same⟩
      · exact Or.inr ⟨(query, reply) :: first, second, value, by rw [split, List.cons_append],
          .asked query next reply first _ answered, after⟩

-- What every query asked on the way satisfies, given the replies before it.
def Asks (property : List (Query × Reply) → Query → Prop) (program : Program Query Reply Answer) : Prop :=
  ∀ pairs query next, Follows program pairs (ask query next) → property pairs query

theorem asks_imp (property other : List (Query × Reply) → Query → Prop) (program : Program Query Reply Answer)
    (implied : ∀ pairs query, property pairs query → other pairs query) (asks : Asks property program) : Asks other program :=
  fun pairs query next follows => implied pairs query (asks pairs query next follows)

theorem asks_bind (property : List (Query × Reply) → Query → Prop) (program : Program Query Reply Answer)
    (rest : Answer → Program Query Reply Other) (first : Asks property program)
    (second : ∀ before value, Follows program before (answer value) →
      Asks (fun pairs query => property (before ++ pairs) query) (rest value)) :
    Asks property (program >>= rest) := by
  intro pairs query next follows
  rcases follows_bind program rest pairs _ follows with ⟨stopped, inside, same⟩ | ⟨before, after, value, split, answered, later⟩
  · cases stopped with
    | answer value =>
      have here := second pairs value inside [] query next (same ▸ .here _)
      dsimp only at here
      rwa [List.append_nil] at here
    | ask asked step =>
      rw [ask_bind] at same
      cases same
      exact first pairs query step inside
  · rw [split]
    exact second before value answered after query next later

theorem asks_answer (property : List (Query × Reply) → Query → Prop) (value : Answer) :
    Asks property (answer value : Program Query Reply Answer) := by
  intro pairs query next follows
  cases (follows_answer value pairs _ follows).2

theorem asks_ask (property : List (Query × Reply) → Query → Prop) (query : Query)
    (next : Reply → Program Query Reply Answer) (now : property [] query)
    (later : ∀ reply, Asks (fun pairs asked => property ((query, reply) :: pairs) asked) (next reply)) :
    Asks property (ask query next) := by
  intro pairs asked step follows
  cases follows with
  | here => exact now
  | asked _ _ reply rest _ after => exact later reply rest asked step after

end Program

open Program (Follows)

-- A query that was answered: whose it was, and the store before and after it.
structure Entry (Query Reply Store : Type) where
  request : Nat
  query : Query
  reply : Reply
  before : Store
  after : Store

structure Running (Call Query Reply Answer : Type) where
  call : Call
  program : Program Query Reply Answer

-- trace is what has been asked so far, in order.
structure State (Call Query Reply Answer Store : Type) where
  store : Store
  requests : List (Running Call Query Reply Answer)
  trace : List (Entry Query Reply Store)

-- input is what the outside decides about a query, such as whether it succeeds.
inductive Label (Call Input : Type) where
  | arrive (call : Call)
  | query (request : Nat) (input : Input)
deriving DecidableEq, Repr

section

variable {Call Query Reply Answer Store Input : Type}

def State.start (store : Store) : State Call Query Reply Answer Store := { store := store, requests := [], trace := [] }

def Running.resume (program : Program Query Reply Answer) (running : Running Call Query Reply Answer) :
    Running Call Query Reply Answer := { running with program := program }

def step (body : Call → Program Query Reply Answer) (serve : Query → Input → Store → Reply × Store) :
    Runs.Step (State Call Query Reply Answer Store) (Label Call Input)
  | state, .arrive call => some { state with requests := state.requests ++ [{ call := call, program := body call }] }
  | state, .query request input =>
    match state.requests[request]? with
    | some { call := _, program := .ask query next } =>
      let served := serve query input state.store
      some
        { store := served.2
          requests := state.requests.modify request (Running.resume (next served.1))
          trace := state.trace ++ [⟨request, query, served.1, state.store, served.2⟩] }
    | _ => none

-- The queries of one request with their replies.
def own (request : Nat) (trace : List (Entry Query Reply Store)) : List (Query × Reply) :=
  (trace.filter fun entry => entry.request == request).map fun entry => (entry.query, entry.reply)

theorem own_concat (request : Nat) (trace : List (Entry Query Reply Store)) (entry : Entry Query Reply Store) :
    own request (trace ++ [entry]) =
      if entry.request = request then own request trace ++ [(entry.query, entry.reply)] else own request trace := by
  rw [own, List.filter_append, List.map_append]
  by_cases same : entry.request = request
  · rw [if_pos same, List.filter_cons_of_pos (by simp [same])]
    rfl
  · rw [if_neg same, List.filter_cons_of_neg (by simp [same]), List.filter_nil, List.map_nil, List.append_nil]
    rfl

-- Everything a step can do.
inductive Stepped (body : Call → Program Query Reply Answer) (serve : Query → Input → Store → Reply × Store)
    (state : State Call Query Reply Answer Store) (label : Label Call Input) : State Call Query Reply Answer Store → Prop where
  | arrived (call : Call) (same : label = .arrive call) :
      Stepped body serve state label { state with requests := state.requests ++ [{ call := call, program := body call }] }
  | asked (request : Nat) (input : Input) (call : Call) (query : Query) (next : Reply → Program Query Reply Answer)
      (same : label = .query request input) (found : state.requests[request]? = some ⟨call, .ask query next⟩) :
      Stepped body serve state label
        { store := (serve query input state.store).2
          requests := state.requests.modify request (Running.resume (next (serve query input state.store).1))
          trace := state.trace ++ [⟨request, query, (serve query input state.store).1, state.store,
            (serve query input state.store).2⟩] }

theorem step_cases (body : Call → Program Query Reply Answer) (serve : Query → Input → Store → Reply × Store)
    (state next : State Call Query Reply Answer Store) (label : Label Call Input)
    (taken : step body serve state label = some next) : Stepped body serve state label next := by
  cases label with
  | arrive call =>
    cases taken
    exact .arrived call rfl
  | query request input =>
    rw [step] at taken
    split at taken
    · rename_i call query continued found
      cases taken
      exact .asked request input call query continued rfl found
    · cases taken

-- Each request has followed its own program, whatever came in between.
def OwnPaths (body : Call → Program Query Reply Answer) (state : State Call Query Reply Answer Store) : Prop :=
  (∀ request running, state.requests[request]? = some running →
      Follows (body running.call) (own request state.trace) running.program) ∧
    ∀ entry ∈ state.trace, entry.request < state.requests.length

theorem own_absent (request : Nat) (trace : List (Entry Query Reply Store)) (bound : ∀ entry ∈ trace, entry.request < request) :
    own request trace = [] := by
  have none : trace.filter (fun entry => entry.request == request) = [] :=
    List.filter_eq_nil_iff.mpr fun entry member same =>
      Nat.lt_irrefl _ (beq_iff_eq.mp same ▸ bound entry member)
  rw [own, none, List.map_nil]

theorem own_paths_step (body : Call → Program Query Reply Answer) (serve : Query → Input → Store → Reply × Store)
    (state next : State Call Query Reply Answer Store) (label : Label Call Input) (paths : OwnPaths body state)
    (taken : step body serve state label = some next) : OwnPaths body next := by
  obtain ⟨followed, bounded⟩ := paths
  cases step_cases body serve state next label taken with
  | arrived call same =>
    constructor
    · intro request running found
      rcases Tables.append_found _ _ _ _ found with old | ⟨position, fresh⟩
      · exact followed request running old
      · subst fresh position
        change Follows (body call) (own state.requests.length state.trace) (body call)
        rw [own_absent _ _ bounded]
        exact .here _
    · intro entry member
      rw [List.length_append]
      exact Nat.lt_add_right 1 (bounded entry member)
  | asked request input call query continued same found =>
    constructor
    · intro other running present
      rw [own_concat]
      rcases Tables.modify_found _ _ _ _ _ present with ⟨position, original, before, changed⟩ | ⟨different, kept⟩
      · subst position
        rw [found, Option.some.injEq] at before
        subst before changed
        rw [if_pos rfl]
        exact Program.follows_concat _ _ query continued _ (followed other _ found)
      · rw [if_neg fun equal => different equal.symm]
        exact followed other running kept
    · intro entry member
      rw [List.length_modify]
      rcases List.mem_append.mp member with old | new
      · exact bounded entry old
      · rw [List.mem_singleton.mp new]
        exact (List.getElem?_eq_some_iff.mp found).1

-- Calls stay where they are.
theorem call_kept (body : Call → Program Query Reply Answer) (serve : Query → Input → Store → Reply × Store)
    (state next : State Call Query Reply Answer Store) (label : Label Call Input) (request : Nat)
    (running : Running Call Query Reply Answer) (found : state.requests[request]? = some running)
    (taken : step body serve state label = some next) :
    ∃ later, next.requests[request]? = some later ∧ later.call = running.call := by
  cases step_cases body serve state next label taken with
  | arrived call same =>
    have inside := (List.getElem?_eq_some_iff.mp found).1
    exact ⟨running, (List.getElem?_append_left inside).trans found, rfl⟩
  | asked other input call query continued same present =>
    by_cases equal : other = request
    · subst equal
      rw [found, Option.some.injEq] at present
      subst present
      exact ⟨_, Tables.modify_same _ _ _ _ found, rfl⟩
    · exact ⟨running, (List.getElem?_modify_ne _ _ equal).trans found, rfl⟩

-- What a run of interleaved programs leaves behind: every query was asked by its program
-- after its own earlier replies, whatever other programs asked in between.
structure Recorded (body : Call → Program Query Reply Answer) (serve : Query → Input → Store → Reply × Store)
    (state : State Call Query Reply Answer Store) : Prop where
  paths : OwnPaths body state
  asked : ∀ earlier entry later, state.trace = earlier ++ entry :: later →
    ∃ running next, state.requests[entry.request]? = some running ∧
      Follows (body running.call) (own entry.request earlier) (.ask entry.query next)
  served : ∀ entry ∈ state.trace, ∃ input, serve entry.query input entry.before = (entry.reply, entry.after)

theorem split_concat {Item : Type} (items earlier later : List Item) (last item : Item)
    (split : items ++ [last] = earlier ++ item :: later) :
    (∃ rest, later = rest ++ [last] ∧ items = earlier ++ item :: rest) ∨ (later = [] ∧ items = earlier ∧ last = item) := by
  cases later using List.reverseRecOn with
  | nil =>
    obtain ⟨same, equal⟩ := List.append_inj' split rfl
    exact Or.inr ⟨rfl, same, List.singleton_inj.mp equal⟩
  | append_singleton rest other =>
    rw [← List.cons_append, ← List.append_assoc] at split
    obtain ⟨same, equal⟩ := List.append_inj' split rfl
    rw [List.singleton_inj] at equal
    subst equal
    exact Or.inl ⟨rest, rfl, same⟩

theorem recorded_step (body : Call → Program Query Reply Answer) (serve : Query → Input → Store → Reply × Store)
    (state next : State Call Query Reply Answer Store) (label : Label Call Input) (recorded : Recorded body serve state)
    (taken : step body serve state label = some next) : Recorded body serve next := by
  have keeps : ∀ earlier entry later, state.trace = earlier ++ entry :: later →
      ∃ running continued, next.requests[entry.request]? = some running ∧
        Follows (body running.call) (own entry.request earlier) (.ask entry.query continued) := by
    intro earlier entry later split
    obtain ⟨running, continued, found, follows⟩ := recorded.asked earlier entry later split
    obtain ⟨after, present, same⟩ := call_kept body serve state next label _ running found taken
    exact ⟨after, continued, present, same ▸ follows⟩
  refine ⟨own_paths_step body serve state next label recorded.paths taken, ?_, ?_⟩
  · intro earlier entry later split
    cases step_cases body serve state next label taken with
    | arrived call same => exact keeps earlier entry later split
    | asked request input call query continued same found =>
      rcases split_concat _ _ _ _ _ split with ⟨rest, _, old⟩ | ⟨_, whole, last⟩
      · exact keeps earlier entry rest old
      · subst whole last
        exact ⟨_, continued, Tables.modify_same _ _ _ _ found, recorded.paths.1 request _ found⟩
  · intro entry member
    cases step_cases body serve state next label taken with
    | arrived call same => exact recorded.served entry member
    | asked request input call query continued same found =>
      rcases List.mem_append.mp member with old | new
      · exact recorded.served entry old
      · rw [List.mem_singleton.mp new]
        exact ⟨input, rfl⟩

theorem recorded (body : Call → Program Query Reply Answer) (serve : Query → Input → Store → Reply × Store) (store : Store)
    (labels : List (Label Call Input)) (final : State Call Query Reply Answer Store)
    (reached : Runs.run (step body serve) (.start store) labels = some final) : Recorded body serve final := by
  refine Runs.run_invariant (step body serve) _ (fun _ state => Recorded body serve state) ?_ ?_ labels final reached
  · refine ⟨⟨fun request running found => ?_, fun entry member => ?_⟩, fun earlier entry later split => ?_,
      fun entry member => ?_⟩
    · cases found
    · cases member
    · exact absurd split.symm (by simp [State.start])
    · cases member
  · exact fun _ state label next inv taken => recorded_step body serve state next label inv taken

-- What holds of each query of each program on its own holds of each query of every run.
theorem every_query (body : Call → Program Query Reply Answer) (serve : Query → Input → Store → Reply × Store)
    (state : State Call Query Reply Answer Store) (recorded : Recorded body serve state)
    (property : Call → List (Query × Reply) → Query → Prop) (asks : ∀ call, Program.Asks (property call) (body call))
    (earlier : List (Entry Query Reply Store)) (entry : Entry Query Reply Store) (later : List (Entry Query Reply Store))
    (split : state.trace = earlier ++ entry :: later) :
    ∃ running, state.requests[entry.request]? = some running ∧
      property running.call (own entry.request earlier) entry.query := by
  obtain ⟨running, next, found, follows⟩ := recorded.asked earlier entry later split
  exact ⟨running, found, asks running.call _ _ next follows⟩

-- An invariant of the store, which may speak of the queries answered before, holds
-- wherever a query found it.
theorem store_invariant (body : Call → Program Query Reply Answer) (serve : Query → Input → Store → Reply × Store)
    (Inv : List (Entry Query Reply Store) → Store → Prop) (store : Store) (base : Inv [] store)
    (preserve : ∀ past before request query input, Inv past before →
      Inv (past ++ [⟨request, query, (serve query input before).1, before, (serve query input before).2⟩])
        (serve query input before).2)
    (labels : List (Label Call Input)) (final : State Call Query Reply Answer Store)
    (reached : Runs.run (step body serve) (.start store) labels = some final) :
    Inv final.trace final.store ∧
      ∀ earlier entry later, final.trace = earlier ++ entry :: later → Inv earlier entry.before := by
  refine Runs.run_invariant (step body serve) _ (fun _ state => Inv state.trace state.store ∧
    ∀ earlier entry later, state.trace = earlier ++ entry :: later → Inv earlier entry.before) ?_ ?_ labels final reached
  · exact ⟨base, fun earlier entry later split => absurd split.symm (by simp [State.start])⟩
  · intro _ state label next inv taken
    obtain ⟨here, before⟩ := inv
    cases step_cases body serve state next label taken with
    | arrived call same => exact ⟨here, before⟩
    | asked request input call query continued same found =>
      refine ⟨preserve _ _ request query input here, ?_⟩
      intro earlier entry later split
      rcases split_concat _ _ _ _ _ split with ⟨rest, _, old⟩ | ⟨_, whole, last⟩
      · exact before earlier entry rest old
      · subst whole last
        exact here

theorem own_member (request : Nat) (trace : List (Entry Query Reply Store)) (query : Query) (reply : Reply)
    (member : (query, reply) ∈ own request trace) :
    ∃ entry ∈ trace, entry.request = request ∧ entry.query = query ∧ entry.reply = reply := by
  obtain ⟨entry, kept, same⟩ := List.mem_map.mp member
  obtain ⟨inside, equal⟩ := List.mem_filter.mp kept
  cases same
  exact ⟨entry, inside, beq_iff_eq.mp equal, rfl, rfl⟩

end

end Interleaving
