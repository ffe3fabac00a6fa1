import Mathlib.Data.List.Basic

set_option autoImplicit false

namespace Nesting

-- What a symbol of a bracket word does to the stack of the open brackets.
inductive Kind where
  | push
  | pop
  | plain
deriving DecidableEq, Repr

-- Every opening symbol has its own closing one, to any depth.
inductive Balanced {Symbol : Type} (kind : Symbol → Kind) : List Symbol → Prop where
  | nil : Balanced kind []
  | plain (symbol : Symbol) (rest : List Symbol) (isPlain : kind symbol = .plain) (balanced : Balanced kind rest) :
      Balanced kind (symbol :: rest)
  | nested (opening : Symbol) (inner : List Symbol) (closing : Symbol) (rest : List Symbol)
      (opens : kind opening = .push) (closes : kind closing = .pop) (innerBalanced : Balanced kind inner)
      (restBalanced : Balanced kind rest) : Balanced kind (opening :: (inner ++ closing :: rest))

theorem balanced_append {Symbol : Type} (kind : Symbol → Kind) (first second : List Symbol)
    (firstBalanced : Balanced kind first) (secondBalanced : Balanced kind second) : Balanced kind (first ++ second) := by
  induction firstBalanced with
  | nil => exact secondBalanced
  | plain symbol rest isPlain _ ih => exact .plain symbol _ isPlain ih
  | nested opening inner closing rest opens closes innerBalanced _ _ restIh =>
    rw [List.cons_append, List.append_assoc, List.cons_append]
    exact .nested opening inner closing _ opens closes innerBalanced restIh

theorem balanced_wrapped {Symbol : Type} (kind : Symbol → Kind) (opening closing : Symbol)
    (opens : kind opening = .push) (closes : kind closing = .pop) (depth : Nat) (inner : List Symbol)
    (balanced : Balanced kind inner) :
    Balanced kind (List.replicate depth opening ++ inner ++ List.replicate depth closing) := by
  induction depth with
  | zero => simpa using balanced
  | succ depth ih =>
    rw [List.replicate_succ, List.replicate_succ', List.cons_append, List.cons_append, ← List.append_assoc]
    exact .nested opening _ closing [] opens closes ih .nil

def level (depth : Nat) : Kind → Nat
  | .push => depth + 1
  | .pop => depth - 1
  | .plain => depth

-- The greatest depth reached from the given one on.
def deepest {Symbol : Type} (kind : Symbol → Kind) : Nat → List Symbol → Nat
  | depth, [] => depth
  | depth, symbol :: rest => max depth (deepest kind (level depth (kind symbol)) rest)

-- A machine that keeps a stack, bottom first.
structure Machine (Symbol Label : Type) where
  State : Type
  step : State → Symbol → State
  stack : State → List Label

def Machine.run {Symbol Label : Type} (machine : Machine Symbol Label) (state : machine.State) (word : List Symbol) :
    machine.State :=
  word.foldl machine.step state

-- At the limit an opening symbol pushes nothing, while every closing one pops.
def Machine.Saturating {Symbol Label : Type} (machine : Machine Symbol Label) (kind : Symbol → Kind) (limit : Nat)
    (label : machine.State → Symbol → Label) : Prop :=
  ∀ state symbol, machine.stack (machine.step state symbol) =
    match kind symbol with
    | .push =>
      if (machine.stack state).length < limit then machine.stack state ++ [label state symbol]
      else machine.stack state
    | .pop => (machine.stack state).dropLast
    | .plain => machine.stack state

theorem deepest_cons {Symbol : Type} (kind : Symbol → Kind) (depth limit : Nat) (symbol : Symbol) (rest : List Symbol) :
    deepest kind depth (symbol :: rest) ≤ limit ↔
      depth ≤ limit ∧ deepest kind (level depth (kind symbol)) rest ≤ limit :=
  Nat.max_le

theorem deepest_start {Symbol : Type} (kind : Symbol → Kind) (depth : Nat) (word : List Symbol) :
    depth ≤ deepest kind depth word := by
  cases word with
  | nil => exact Nat.le_refl depth
  | cons symbol rest => exact Nat.le_max_left _ _

theorem deepest_append {Symbol : Type} (kind : Symbol → Kind) (depth limit : Nat) (before after : List Symbol) :
    deepest kind depth (before ++ after) ≤ limit ↔
      deepest kind depth before ≤ limit ∧
        deepest kind (before.foldl (fun now symbol => level now (kind symbol)) depth) after ≤ limit := by
  induction before generalizing depth with
  | nil =>
    simp only [List.nil_append, List.foldl_nil, deepest]
    exact ⟨fun all => ⟨Nat.le_trans (deepest_start kind depth after) all, all⟩, fun both => both.2⟩
  | cons symbol rest ih =>
    rw [List.cons_append, deepest_cons, ih, deepest_cons, List.foldl_cons, and_assoc]

theorem balanced_depth {Symbol : Type} (kind : Symbol → Kind) (word : List Symbol) (balanced : Balanced kind word)
    (depth : Nat) : word.foldl (fun now symbol => level now (kind symbol)) depth = depth := by
  induction balanced generalizing depth with
  | nil => rfl
  | plain symbol rest isPlain _ ih =>
    rw [List.foldl_cons, isPlain]
    exact ih depth
  | nested opening inner closing rest opens closes _ _ innerIh restIh =>
    rw [List.foldl_cons, List.foldl_append, List.foldl_cons, opens, innerIh, closes]
    exact restIh depth

theorem balanced_within {Symbol : Type} (kind : Symbol → Kind) (depth limit : Nat) (opening : Symbol)
    (inner : List Symbol) (closing : Symbol) (rest : List Symbol) (opens : kind opening = .push)
    (closes : kind closing = .pop) (balanced : Balanced kind inner)
    (within : deepest kind depth (opening :: (inner ++ closing :: rest)) ≤ limit) :
    deepest kind (depth + 1) inner ≤ limit ∧ deepest kind depth rest ≤ limit := by
  rw [deepest_cons, opens, deepest_append, deepest_cons, balanced_depth kind inner balanced, closes] at within
  exact ⟨within.2.1, within.2.2.2⟩

-- An opening symbol beside a closing one lies on one side of it.
theorem opening_beside {Symbol : Type} (kind : Symbol → Kind) (left right : List Symbol) (closing : Symbol)
    (before : List Symbol) (opening : Symbol) (after : List Symbol)
    (split : left ++ closing :: right = before ++ opening :: after) (opens : kind opening = .push)
    (closes : kind closing = .pop) :
    (∃ between, left = before ++ opening :: between ∧ after = between ++ closing :: right) ∨
      ∃ between, right = between ++ opening :: after := by
  have different : closing ≠ opening := by
    intro same
    rw [same, opens] at closes
    cases closes
  obtain ⟨between, _, later⟩ | ⟨between, inside, later⟩ := List.append_eq_append_iff.mp split
  · cases between with
    | nil => exact absurd (List.cons.inj later).1 different
    | cons _ between => exact Or.inr ⟨between, (List.cons.inj later).2⟩
  · cases between with
    | nil => exact absurd (List.cons.inj later).1.symm different
    | cons _ between =>
      obtain ⟨rfl, rest⟩ := List.cons.inj later
      exact Or.inl ⟨between, inside, rest⟩

-- Where the word goes on from an opening symbol, its closing one is met.
theorem balanced_closes {Symbol : Type} (kind : Symbol → Kind) (word : List Symbol) (balanced : Balanced kind word)
    (before : List Symbol) (opening : Symbol) (after : List Symbol) (split : word = before ++ opening :: after)
    (opens : kind opening = .push) :
    ∃ inner closing rest, after = inner ++ closing :: rest ∧ kind closing = .pop ∧ Balanced kind inner := by
  induction balanced generalizing before after with
  | nil => cases before <;> cases split
  | plain symbol rest isPlain _ ih =>
    cases before with
    | nil =>
      rw [List.nil_append, List.cons.injEq] at split
      rw [split.1, opens] at isPlain
      cases isPlain
    | cons first before =>
      rw [List.cons_append, List.cons.injEq] at split
      exact ih before after split.2
  | nested first inner closing rest _ closes innerBalanced _ innerIh restIh =>
    cases before with
    | nil =>
      rw [List.nil_append, List.cons.injEq] at split
      exact ⟨inner, closing, rest, split.2.symm, closes, innerBalanced⟩
    | cons _ before =>
      rw [List.cons_append, List.cons.injEq] at split
      obtain ⟨between, inside, met⟩ | ⟨between, outside⟩ :=
        opening_beside kind inner rest closing before opening after split.2 opens closes
      · obtain ⟨own, closed, remaining, ends, closedKind, ownBalanced⟩ := innerIh before between inside
        exact ⟨own, closed, remaining ++ closing :: rest, by rw [met, ends]; simp, closedKind, ownBalanced⟩
      · exact restIh between after outside

namespace Machine

variable {Symbol Label : Type} (machine : Machine Symbol Label) (kind : Symbol → Kind) (limit : Nat)
  (label : machine.State → Symbol → Label)

-- The stack after every closing symbol is the one before its opening symbol.
def Restores (start : machine.State) (word : List Symbol) : Prop :=
  ∀ before opening inner closing after, word = before ++ opening :: (inner ++ closing :: after) →
    kind opening = .push → kind closing = .pop → Balanced kind inner →
    machine.stack (machine.run start (before ++ opening :: (inner ++ [closing]))) =
      machine.stack (machine.run start before)

theorem run_cons (state : machine.State) (symbol : Symbol) (rest : List Symbol) :
    machine.run state (symbol :: rest) = machine.run (machine.step state symbol) rest := rfl

theorem run_append (state : machine.State) (before after : List Symbol) :
    machine.run state (before ++ after) = machine.run (machine.run state before) after :=
  List.foldl_append

theorem run_nested (state : machine.State) (opening : Symbol) (inner : List Symbol) (closing : Symbol) :
    machine.run state (opening :: (inner ++ [closing])) =
      machine.step (machine.run (machine.step state opening) inner) closing := by
  rw [run_cons, run_append]
  rfl

-- What one symbol does to the stack of a machine with room for it.
theorem step_level (saturating : machine.Saturating kind limit label) (state : machine.State) (symbol : Symbol)
    (within : level (machine.stack state).length (kind symbol) ≤ limit) :
    (machine.stack (machine.step state symbol)).length = level (machine.stack state).length (kind symbol) := by
  rw [saturating state symbol]
  cases same : kind symbol with
  | push =>
    rw [same, level] at within
    rw [if_pos (by omega), List.length_append, List.length_singleton, level]
  | pop => exact List.length_dropLast
  | plain => rfl

theorem step_bounded (saturating : machine.Saturating kind limit label) (state : machine.State) (symbol : Symbol)
    (bounded : (machine.stack state).length ≤ limit) : (machine.stack (machine.step state symbol)).length ≤ limit := by
  rw [saturating state symbol]
  cases kind symbol with
  | push =>
    by_cases room : (machine.stack state).length < limit
    · simp only [if_pos room, List.length_append, List.length_singleton]
      exact room
    · simp only [if_neg room]
      exact bounded
  | pop =>
    simp only [List.length_dropLast]
    omega
  | plain => exact bounded

theorem run_bounded (saturating : machine.Saturating kind limit label) (word : List Symbol) (state : machine.State)
    (bounded : (machine.stack state).length ≤ limit) : (machine.stack (machine.run state word)).length ≤ limit := by
  induction word generalizing state with
  | nil => exact bounded
  | cons symbol rest ih => exact ih _ (machine.step_bounded kind limit label saturating state symbol bounded)

theorem balanced_run (saturating : machine.Saturating kind limit label) (word : List Symbol)
    (balanced : Balanced kind word) (state : machine.State)
    (within : deepest kind (machine.stack state).length word ≤ limit) :
    machine.stack (machine.run state word) = machine.stack state := by
  induction balanced generalizing state with
  | nil => rfl
  | plain symbol rest isPlain _ ih =>
    have kept : machine.stack (machine.step state symbol) = machine.stack state := by
      rw [saturating state symbol, isPlain]
    rw [deepest_cons, isPlain] at within
    rw [run_cons, ih _ (by rw [kept]; exact within.2), kept]
  | nested opening inner closing rest opens closes innerBalanced _ innerIh restIh =>
    obtain ⟨inside, after⟩ := balanced_within kind _ limit opening inner closing rest opens closes innerBalanced within
    have start := deepest_start kind ((machine.stack state).length + 1) inner
    have pushed : machine.stack (machine.step state opening) = machine.stack state ++ [label state opening] := by
      rw [saturating state opening, opens]
      exact if_pos (by omega)
    have kept := innerIh (machine.step state opening) (by rw [pushed, List.length_append]; exact inside)
    have popped : machine.stack (machine.step (machine.run (machine.step state opening) inner) closing) =
        machine.stack state := by
      rw [saturating _ closing, closes]
      simp only [kept, pushed, List.dropLast_concat]
    rw [run_cons, run_append, run_cons, restIh _ (by rw [popped]; exact after), popped]

-- Past the limit an opening symbol finds the stack full, and its closing one
-- takes an element of an outer bracket.
theorem restores_within (saturating : machine.Saturating kind limit label) (positive : 0 < limit)
    (start : machine.State) (word : List Symbol) (balanced : Balanced kind word)
    (restores : machine.Restores kind start word) (before after : List Symbol) (split : word = before ++ after)
    (bounded : (machine.stack (machine.run start before)).length ≤ limit) :
    deepest kind (machine.stack (machine.run start before)).length after ≤ limit := by
  induction after generalizing before with
  | nil => exact bounded
  | cons symbol after ih =>
    rw [deepest_cons]
    refine ⟨bounded, ?_⟩
    have fits : level (machine.stack (machine.run start before)).length (kind symbol) ≤ limit := by
      cases same : kind symbol with
      | pop =>
        rw [level]
        omega
      | plain => exact bounded
      | push =>
        obtain ⟨inner, closing, rest, met, closes, innerBalanced⟩ :=
          balanced_closes kind word balanced before symbol after split same
        have restored := restores before symbol inner closing rest (by rw [split, met]) same closes innerBalanced
        have short := machine.run_bounded kind limit label saturating inner _
          (machine.step_bounded kind limit label saturating _ symbol bounded)
        rw [run_append, run_nested, saturating _ closing, closes] at restored
        have shorter := congrArg List.length restored
        rw [List.length_dropLast] at shorter
        rw [level]
        omega
    have next := machine.step_level kind limit label saturating _ symbol fits
    have ran : machine.run start (before ++ [symbol]) = machine.step (machine.run start before) symbol := by
      rw [run_append]
      rfl
    rw [← next, ← ran]
    exact ih (before ++ [symbol]) (by rw [split, List.append_assoc]; rfl) (by rw [ran, next]; exact fits)

theorem run_depth (saturating : machine.Saturating kind limit label) (word : List Symbol) (state : machine.State)
    (within : deepest kind (machine.stack state).length word ≤ limit) :
    (machine.stack (machine.run state word)).length =
      word.foldl (fun now symbol => level now (kind symbol)) (machine.stack state).length := by
  induction word generalizing state with
  | nil => rfl
  | cons symbol rest ih =>
    rw [deepest_cons] at within
    have next := machine.step_level kind limit label saturating state symbol
      (Nat.le_trans (deepest_start kind _ rest) within.2)
    rw [run_cons, ih _ (by rw [next]; exact within.2), next, List.foldl_cons]

theorem within_restores (saturating : machine.Saturating kind limit label) (start : machine.State)
    (empty : machine.stack start = []) (word : List Symbol) (within : deepest kind 0 word ≤ limit) :
    machine.Restores kind start word := by
  intro before opening inner closing after split opens closes balanced
  have grouped : word = before ++ (opening :: (inner ++ [closing]) ++ after) := by rw [split]; simp
  have emptied : (machine.stack start).length = 0 := by rw [empty, List.length_nil]
  rw [← emptied, grouped, deepest_append] at within
  have depth := machine.run_depth kind limit label saturating before start within.1
  have inside := (deepest_append kind _ limit _ after).mp within.2
  have whole : Balanced kind (opening :: (inner ++ [closing])) :=
    Balanced.nested opening inner closing [] opens closes balanced Balanced.nil
  rw [run_append]
  exact machine.balanced_run kind limit label saturating _ whole _ (by rw [depth]; exact inside.1)

theorem restores_iff (saturating : machine.Saturating kind limit label) (positive : 0 < limit)
    (start : machine.State) (empty : machine.stack start = []) (word : List Symbol) (balanced : Balanced kind word) :
    machine.Restores kind start word ↔ deepest kind 0 word ≤ limit := by
  refine ⟨fun restores => ?_, machine.within_restores kind limit label saturating start empty word⟩
  have within := machine.restores_within kind limit label saturating positive start word balanced restores [] word rfl
    (by rw [run, List.foldl_nil, empty]; exact Nat.zero_le limit)
  rw [run, List.foldl_nil, empty] at within
  exact within

end Machine

end Nesting
