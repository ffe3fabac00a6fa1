import Mathlib.Data.List.Induction

set_option autoImplicit false

-- The words of a shell command line, for lines that are one simple command of literal
-- words: blanks, quotes and the backslash are taken as the shell takes them, and a line on
-- which it would do anything more (an operator, an expansion, a comment) has none.
namespace ShellWords

abbrev Word := List Char

inductive Mode where
  | plain
  | escaped
  | single
  | double
  | doubleEscaped
deriving DecidableEq, Repr

-- The words that are complete, and the one being read, if any has begun.
structure State where
  words : List Word
  current : Option Word
  mode : Mode
deriving DecidableEq, Repr

def State.between (words : List Word) : State := { words := words, current := none, mode := .plain }

def State.start : State := .between []

def blank (char : Char) : Bool := char == ' ' || char == '\t'

def singleQuote : Char := '\''

def doubleQuote : Char := '"'

def backslash : Char := '\\'

-- What is not for itself in a word: the quoting characters, the operators, and what begins
-- an expansion or is part of a pattern.
def specials : List Char := "'\"\\;&|<>()\n$`*?[".toList

def literal (char : Char) : Bool := !blank char && !specials.contains char

-- A comment and a tilde expansion are what these begin.
def startsWord (char : Char) : Bool := char != '#' && char != '~'

def literalWord : Word → Bool
  | [] => false
  | first :: rest => startsWord first && (first :: rest).all literal

def State.push (state : State) (chars : Word) (mode : Mode) : State :=
  { state with current := some (state.current.getD [] ++ chars), mode := mode }

def State.step (state : State) (char : Char) : Option State :=
  match state.mode with
  | .plain =>
    if blank char then some { words := state.words ++ state.current.toList, current := none, mode := .plain }
    else if char = backslash then some { state with mode := .escaped }
    else if char = singleQuote then some (state.push [] .single)
    else if char = doubleQuote then some (state.push [] .double)
    else if literal char && (state.current.isSome || startsWord char) then some (state.push [char] .plain)
    else none
  | .escaped => some (if char = '\n' then { state with mode := .plain } else state.push [char] .plain)
  | .single => some (if char = singleQuote then { state with mode := .plain } else state.push [char] .single)
  | .double =>
    if char = doubleQuote then some { state with mode := .plain }
    else if char = backslash then some { state with mode := .doubleEscaped }
    else if "$`".toList.contains char then none
    else some (state.push [char] .double)
  | .doubleEscaped =>
    some (
      if char = '\n' then { state with mode := .double }
      else if "$`\"\\".toList.contains char then state.push [char] .double
      else state.push [backslash, char] .double)

def State.run (state : State) (text : List Char) : Option State := text.foldlM State.step state

def State.finish (state : State) : Option (List Word) :=
  if state.mode = .plain then some (state.words ++ state.current.toList) else none

def split (line : List Char) : Option (List Word) := (State.start.run line).bind State.finish

def joined (words : List Word) : List Char := words.flatMap fun word => word ++ [' ']

-- What was read, with one blank after each word.
def State.text (state : State) : List Char := joined state.words ++ state.current.getD []

-- An open quote still takes a character that adds none to the text.
def Mode.weight : Mode → Nat
  | .plain | .escaped | .doubleEscaped => 1
  | .single | .double => 0

def State.weight (state : State) : Nat := state.text.length + state.mode.weight

theorem run_append (state : State) (before after : List Char) :
    state.run (before ++ after) = (state.run before).bind fun next => next.run after :=
  List.foldlM_append

theorem run_nil (state : State) : state.run [] = some state := rfl

theorem run_cons (state : State) (char : Char) (rest : List Char) :
    state.run (char :: rest) = (state.step char).bind fun next => next.run rest := rfl

theorem run_single (state : State) (char : Char) : state.run [char] = state.step char := by
  rw [run_cons]
  cases state.step char <;> rfl

theorem joined_append (before after : List Word) : joined (before ++ after) = joined before ++ joined after :=
  List.flatMap_append

theorem joined_single (word : Word) : joined [word] = word ++ [' '] := by
  rw [joined, List.flatMap_singleton]

theorem push_text (state : State) (chars : Word) (mode : Mode) : (state.push chars mode).text = state.text ++ chars :=
  (List.append_assoc _ _ _).symm

theorem push_weight (state : State) (chars : Word) (mode : Mode) :
    (state.push chars mode).weight = state.text.length + chars.length + mode.weight := by
  rw [State.weight, push_text, List.length_append]
  rfl

-- A blank ends the word that was being read, and stands for itself.
theorem blank_text (state : State) :
    ({ words := state.words ++ state.current.toList, current := none, mode := .plain } : State).text =
      state.text ++ (if state.current.isSome then [' '] else []) := by
  rw [State.text, State.text, joined_append]
  cases state.current with
  | none => simp [joined]
  | some word => simp [joined_single]

-- What an unquoted character can do.
inductive PlainStep (state : State) (char : Char) : State → Prop where
  | ended (isBlank : blank char = true) :
    PlainStep state char { words := state.words ++ state.current.toList, current := none, mode := .plain }
  | escapes (isEscape : char = backslash) : PlainStep state char { state with mode := .escaped }
  | opened (mode : Mode) (quoted : mode = .single ∧ char = singleQuote ∨ mode = .double ∧ char = doubleQuote) :
    PlainStep state char (state.push [] mode)
  | literal (stands : literal char = true) (starts : state.current.isSome = true ∨ startsWord char = true) :
    PlainStep state char (state.push [char] .plain)

theorem plain_step_cases (state next : State) (char : Char) (plain : state.mode = .plain)
    (taken : state.step char = some next) : PlainStep state char next := by
  simp only [State.step, plain] at taken
  split at taken
  · cases taken
    exact .ended ‹_›
  split at taken
  · cases taken
    exact .escapes ‹_›
  split at taken
  · cases taken
    exact .opened .single (Or.inl ⟨rfl, ‹_›⟩)
  split at taken
  · cases taken
    exact .opened .double (Or.inr ⟨rfl, ‹_›⟩)
  split at taken
  · rename_i stands
    cases taken
    rw [Bool.and_eq_true, Bool.or_eq_true] at stands
    exact .literal stands.1 stands.2
  · cases taken

theorem moded_weight (state : State) (mode : Mode) :
    ({ state with mode := mode } : State).weight = state.text.length + mode.weight := rfl

theorem plain_step_weight (state next : State) (char : Char) (plain : state.mode = .plain)
    (taken : PlainStep state char next) : next.weight ≤ state.weight + 1 := by
  have weight : state.weight = state.text.length + 1 := by rw [State.weight, plain]; rfl
  rw [weight]
  cases taken with
  | ended isBlank =>
    rw [State.weight, blank_text, List.length_append]
    split <;> simp [Mode.weight]
  | escapes isEscape =>
    rw [moded_weight, Mode.weight]
    omega
  | opened mode quoted =>
    rw [push_weight]
    rcases quoted with ⟨rfl, _⟩ | ⟨rfl, _⟩ <;> rw [Mode.weight, List.length_nil] <;> omega
  | literal stands starts =>
    rw [push_weight]
    exact Nat.le_refl _

theorem step_weight (state next : State) (char : Char) (taken : state.step char = some next) :
    next.weight ≤ state.weight + 1 := by
  have weight : state.weight = state.text.length + state.mode.weight := rfl
  cases mode : state.mode with
  | plain => exact plain_step_weight state next char mode (plain_step_cases state next char mode taken)
  | escaped =>
    simp only [State.step, mode, Option.some.injEq] at taken
    rw [← taken, weight, mode]
    split
    · rw [moded_weight]
      exact Nat.le_succ _
    · rw [push_weight]
      exact Nat.le_refl _
  | single =>
    simp only [State.step, mode, Option.some.injEq] at taken
    rw [← taken, weight, mode]
    split
    · rw [moded_weight]
      exact Nat.le_refl _
    · rw [push_weight]
      exact Nat.le_refl _
  | double =>
    simp only [State.step, mode] at taken
    rw [weight, mode]
    split at taken
    · cases taken
      rw [moded_weight]
      exact Nat.le_refl _
    split at taken
    · cases taken
      rw [moded_weight]
      exact Nat.le_refl _
    split at taken
    · cases taken
    · cases taken
      rw [push_weight]
      exact Nat.le_refl _
  | doubleEscaped =>
    simp only [State.step, mode, Option.some.injEq] at taken
    rw [← taken, weight, mode]
    split
    · rw [moded_weight, Mode.weight, Mode.weight]
      omega
    split
    · rw [push_weight]
      exact Nat.le_succ _
    · rw [push_weight]
      exact Nat.le_refl _

-- A character adds at most itself to the text.
theorem run_weight (state next : State) (text : List Char) (taken : state.run text = some next) :
    next.weight ≤ state.weight + text.length := by
  induction text generalizing state with
  | nil =>
    rw [run_nil, Option.some.injEq] at taken
    exact Nat.le_of_eq (taken ▸ rfl)
  | cons char rest ih =>
    rw [run_cons, Option.bind_eq_some_iff] at taken
    obtain ⟨middle, stepped, later⟩ := taken
    have first := step_weight state middle char stepped
    have others := ih middle later
    rw [List.length_cons]
    omega

-- Where every unquoted character adds itself, each was literal or a blank after a word.
theorem plain_step_tight (state next : State) (char : Char) (plain : state.mode = .plain)
    (taken : PlainStep state char next) (tight : next.weight = state.weight + 1) :
    (blank char = true ∧ ∃ word, state.current = some word ∧
      next = { words := state.words ++ [word], current := none, mode := .plain }) ∨
    (literal char = true ∧ (state.current.isSome = true ∨ startsWord char = true) ∧ next = state.push [char] .plain) := by
  have weight : state.weight = state.text.length + 1 := by rw [State.weight, plain]; rfl
  cases taken with
  | ended isBlank =>
    left
    cases current : state.current with
    | none =>
      rw [State.weight, blank_text, current, weight] at tight
      simp [Mode.weight] at tight
    | some word => exact ⟨isBlank, word, rfl, rfl⟩
  | escapes isEscape =>
    have same : ({ state with mode := .escaped } : State).weight = state.text.length + 1 := rfl
    omega
  | opened mode quoted =>
    have short : mode.weight = 0 := by rcases quoted with ⟨rfl, _⟩ | ⟨rfl, _⟩ <;> rfl
    rw [push_weight, weight, short, List.length_nil] at tight
    omega
  | literal stands starts => exact Or.inr ⟨stands, starts, rfl⟩

theorem tight_cons (state next : State) (char : Char) (rest : List Char) (taken : state.run (char :: rest) = some next)
    (tight : next.weight = state.weight + (char :: rest).length) :
    ∃ middle, state.step char = some middle ∧ middle.run rest = some next ∧ middle.weight = state.weight + 1 ∧
      next.weight = middle.weight + rest.length := by
  rw [run_cons, Option.bind_eq_some_iff] at taken
  obtain ⟨middle, stepped, later⟩ := taken
  have first := step_weight state middle char stepped
  have others := run_weight middle next rest later
  rw [List.length_cons] at tight
  exact ⟨middle, stepped, later, by omega, by omega⟩

theorem tight_chars (state next : State) (text : List Char) (plain : state.mode = .plain)
    (taken : state.run text = some next) (tight : next.weight = state.weight + text.length) :
    ∀ char ∈ text, blank char = true ∨ literal char = true := by
  induction text generalizing state with
  | nil => exact fun _ absent => by cases absent
  | cons char rest ih =>
    obtain ⟨middle, stepped, later, first, others⟩ := tight_cons state next char rest taken tight
    intro other member
    rcases plain_step_tight state middle char plain (plain_step_cases state middle char plain stepped) first with
      ⟨isBlank, word, _, rfl⟩ | ⟨stands, _, rfl⟩
    · rcases List.mem_cons.mp member with rfl | inRest
      · exact Or.inl isBlank
      · exact ih _ rfl later others other inRest
    · rcases List.mem_cons.mp member with rfl | inRest
      · exact Or.inr stands
      · exact ih _ rfl later others other inRest

theorem push_literal (state : State) (char : Char) (read : ∀ word ∈ state.current, literalWord word = true)
    (stands : literal char = true) (starts : state.current.isSome = true ∨ startsWord char = true) :
    literalWord (state.current.getD [] ++ [char]) = true := by
  cases current : state.current with
  | none =>
    rw [current, Option.isSome_none] at starts
    have first := starts.resolve_left Bool.false_ne_true
    simp [literalWord, first, stands]
  | some word =>
    have before := read word current
    cases word with
    | nil => cases before
    | cons first rest =>
      rw [literalWord, Bool.and_eq_true] at before
      simp only [Option.getD_some, List.cons_append, literalWord, Bool.and_eq_true]
      refine ⟨before.1, ?_⟩
      rw [← List.cons_append, List.all_append, before.2]
      simpa using stands

theorem tight_words (state next : State) (text : List Char) (plain : state.mode = .plain)
    (read : ∀ word ∈ state.current, literalWord word = true) (taken : state.run text = some next)
    (tight : next.weight = state.weight + text.length) :
    ∃ more, next.words = state.words ++ more ∧ ∀ word ∈ more ++ next.current.toList, literalWord word = true := by
  induction text generalizing state with
  | nil =>
    rw [run_nil, Option.some.injEq] at taken
    subst taken
    refine ⟨[], (List.append_nil _).symm, fun word member => read word ?_⟩
    rwa [List.nil_append, Option.mem_toList] at member
  | cons char rest ih =>
    obtain ⟨middle, stepped, later, first, others⟩ := tight_cons state next char rest taken tight
    rcases plain_step_tight state middle char plain (plain_step_cases state middle char plain stepped) first with
      ⟨_, word, current, rfl⟩ | ⟨stands, starts, rfl⟩
    · obtain ⟨more, words, literals⟩ := ih _ rfl (fun _ absent => by cases absent) later others
      refine ⟨word :: more, ?_, ?_⟩
      · rw [words, List.append_assoc]
        rfl
      · intro other member
        rcases List.mem_cons.mp member with rfl | inMore
        · exact read _ current
        · exact literals other inMore
    · refine ih (state.push [char] .plain) rfl (fun word pushed => ?_) later others
      rw [← Option.some.inj pushed]
      exact push_literal state char read stands starts

theorem step_literal (state : State) (char : Char) (plain : state.mode = .plain) (stands : literal char = true)
    (starts : state.current.isSome = true ∨ startsWord char = true) :
    state.step char = some (state.push [char] .plain) := by
  rw [literal, Bool.and_eq_true, Bool.not_eq_true', Bool.not_eq_true'] at stands
  obtain ⟨notBlank, notSpecial⟩ := stands
  have special : char ∉ specials := fun member => by
    rw [List.contains_iff_mem.mpr member] at notSpecial
    cases notSpecial
  have others (other : Char) (isSpecial : other ∈ specials) : ¬char = other :=
    fun same => special (same ▸ isSpecial)
  have literalAgain : literal char = true := by rw [literal, notBlank, notSpecial]; rfl
  simp only [State.step, plain]
  rw [if_neg (by rw [notBlank]; exact Bool.false_ne_true), if_neg (others backslash (by decide)),
    if_neg (others singleQuote (by decide)), if_neg (others doubleQuote (by decide)),
    if_pos (by rw [literalAgain, Bool.true_and, Bool.or_eq_true]; exact starts)]

theorem run_literals (state : State) (chars : Word) (plain : state.mode = .plain) (begun : state.current.isSome = true)
    (stand : ∀ char ∈ chars, literal char = true) : state.run chars = some (state.push chars .plain) := by
  induction chars generalizing state with
  | nil =>
    obtain ⟨word, current⟩ := Option.isSome_iff_exists.mp begun
    rw [run_nil, State.push, current, Option.getD_some, List.append_nil, ← current, ← plain]
  | cons char rest ih =>
    rw [run_cons, step_literal state char plain (stand char List.mem_cons_self) (Or.inl begun), Option.bind_some,
      ih (state.push [char] .plain) rfl rfl fun other member => stand other (List.mem_cons_of_mem _ member)]
    simp [State.push]

theorem run_word (words : List Word) (word : Word) (isLiteral : literalWord word = true) :
    (State.between words).run word = some { words := words, current := some word, mode := .plain } := by
  cases word with
  | nil => cases isLiteral
  | cons first rest =>
    rw [literalWord, Bool.and_eq_true, List.all_eq_true] at isLiteral
    obtain ⟨starts, stand⟩ := isLiteral
    rw [run_cons, step_literal _ first rfl (stand first List.mem_cons_self) (Or.inr starts), Option.bind_some,
      run_literals _ rest rfl rfl fun char member => stand char (List.mem_cons_of_mem _ member)]
    rfl

theorem run_words (before words : List Word) (literals : ∀ word ∈ words, literalWord word = true) :
    (State.between before).run (joined words) = some (State.between (before ++ words)) := by
  induction words generalizing before with
  | nil => rw [List.append_nil]; rfl
  | cons word rest ih =>
    have first : joined (word :: rest) = word ++ ([' '] ++ joined rest) := by
      rw [joined, List.flatMap_cons, List.append_assoc]
      rfl
    have ended : ({ words := before, current := some word, mode := .plain } : State).run [' '] =
        some (State.between (before ++ [word])) := rfl
    rw [first, run_append, run_word before word (literals word List.mem_cons_self), Option.bind_some, run_append, ended,
      Option.bind_some, ih (before ++ [word]) fun other member => literals other (List.mem_cons_of_mem _ member),
      List.append_assoc]
    rfl

theorem run_inside (state : State) (chars : Word) (single : state.mode = .single) (begun : state.current.isSome = true)
    (closed : singleQuote ∉ chars) : state.run chars = some (state.push chars .single) := by
  induction chars generalizing state with
  | nil =>
    obtain ⟨word, current⟩ := Option.isSome_iff_exists.mp begun
    rw [run_nil, State.push, current, Option.getD_some, List.append_nil, ← current, ← single]
  | cons char rest ih =>
    rw [List.mem_cons, not_or] at closed
    have stepped : state.step char = some (state.push [char] .single) := by
      simp only [State.step, single]
      rw [if_neg fun same => closed.1 same.symm]
    rw [run_cons, stepped, Option.bind_some, ih (state.push [char] .single) rfl rfl closed.2]
    simp [State.push]

theorem run_opened (state : State) (plain : state.mode = .plain) (rest : List Char) :
    state.run (singleQuote :: rest) = (state.push [] .single).run rest := by
  have stepped : state.step singleQuote = some (state.push [] .single) := by
    simp only [State.step, plain]
    rfl
  rw [run_cons, stepped, Option.bind_some]

theorem run_quoted (state : State) (plain : state.mode = .plain) (quoted rest : List Char) (closed : singleQuote ∉ quoted) :
    state.run (singleQuote :: (quoted ++ singleQuote :: rest)) = (state.push quoted .plain).run rest := by
  have inside := run_inside (state.push [] .single) quoted rfl rfl closed
  have ended : ((state.push [] .single).push quoted .single).step singleQuote = some (state.push quoted .plain) := by
    simp [State.step, State.push]
  rw [run_opened state plain, run_append, inside, Option.bind_some, run_cons, ended, Option.bind_some]

-- A quoted text after which everything adds itself is what stands between its quotes:
-- an inner quote would close it, and the one written after it would be one too many.
theorem quoted_tight (state next : State) (plain : state.mode = .plain) (quoted rest : List Char)
    (taken : state.run (singleQuote :: (quoted ++ singleQuote :: rest)) = some next) (ends : next.mode = .plain)
    (long : state.text.length + quoted.length + rest.length ≤ next.text.length) :
    singleQuote ∉ quoted ∧ (state.push quoted .plain).run rest = some next ∧
      next.weight = (state.push quoted .plain).weight + rest.length := by
  have nextWeight : next.weight = next.text.length + 1 := by rw [State.weight, ends]; rfl
  have closed : singleQuote ∉ quoted := by
    intro member
    obtain ⟨front, back, rfl, first⟩ := List.eq_append_cons_of_mem member
    rw [List.append_assoc, List.cons_append, run_quoted state plain front _ first] at taken
    have bound := run_weight _ next _ taken
    have pushed : (state.push front .plain).weight = state.text.length + front.length + 1 := push_weight state front .plain
    simp only [List.length_append, List.length_cons] at bound long
    have chars := tight_chars _ next _ rfl taken (by simp only [List.length_append, List.length_cons]; omega)
    have quote := chars singleQuote (List.mem_append_right _ List.mem_cons_self)
    revert quote
    decide
  rw [run_quoted state plain quoted rest closed] at taken
  have bound := run_weight _ next _ taken
  have pushed : (state.push quoted .plain).weight = state.text.length + quoted.length + 1 := push_weight state quoted .plain
  exact ⟨closed, taken, by omega⟩

theorem intercalate_concat (before : List Word) (last : Word) :
    [' '].intercalate (before ++ [last]) = joined before ++ last := by
  induction before with
  | nil => exact List.intercalate_singleton
  | cons first rest ih =>
    have split : joined (first :: rest) = first ++ [' '] ++ joined rest := List.flatMap_cons
    cases rest with
    | nil => rw [split]; simp [joined]
    | cons second rest => rw [split, List.append_assoc, ← ih]; simp

theorem run_command (before words : List Word) (literals : ∀ word ∈ words, literalWord word = true) :
    ((State.between before).run ([' '].intercalate words)).bind State.finish = some (before ++ words) := by
  cases words using List.reverseRecOn with
  | nil => simp [run_nil, State.finish, State.between]
  | append_singleton front last =>
    rw [intercalate_concat, run_append,
      run_words before front fun word member => literals word (List.mem_append_left _ member), Option.bind_some,
      run_word _ last (literals last (List.mem_append_right _ (List.mem_singleton_self last))), Option.bind_some,
      State.finish, if_pos rfl, List.append_assoc]
    rfl

theorem split_cases (line : List Char) (words : List Word) (parsed : split line = some words) :
    ∃ next, State.start.run line = some next ∧ next.finish = some words := by
  rwa [split, Option.bind_eq_some_iff] at parsed

theorem finish_cases (state : State) (words : List Word) (finished : state.finish = some words) :
    state.mode = .plain ∧ words = state.words ++ state.current.toList ∧
      (joined words).length = state.text.length + (if state.current.isSome then 1 else 0) := by
  rw [State.finish, Option.ite_none_right_eq_some, Option.some.injEq] at finished
  obtain ⟨plain, rfl⟩ := finished
  refine ⟨plain, rfl, ?_⟩
  rw [joined_append, State.text, List.length_append, List.length_append]
  cases state.current with
  | none => rfl
  | some word =>
    rw [Option.toList_some, joined_single, List.length_append]
    exact (Nat.add_assoc _ _ _).symm

theorem run_program (program : List Word) (literals : ∀ word ∈ program, literalWord word = true) (quoted rest : List Char)
    (closed : singleQuote ∉ quoted) :
    State.start.run (joined program ++ singleQuote :: (quoted ++ singleQuote :: ' ' :: rest)) =
      (State.between (program ++ [quoted])).run rest := by
  have opened : State.start.run (joined program) = some (State.between program) := run_words [] program literals
  have ended : ((State.between program).push quoted .plain).step ' ' = some (State.between (program ++ [quoted])) := rfl
  rw [run_append, opened, Option.bind_some, run_quoted _ rfl quoted _ closed, run_cons, ended, Option.bind_some]

-- A line that starts so and gives the program, what was quoted and other words whose text is
-- as long as the rest of the line: the quotes are its only syntax.
theorem program_words (program : List Word) (literals : ∀ word ∈ program, literalWord word = true)
    (quoted rest : List Char) (others : List Word) (next : State)
    (taken : State.start.run (joined program ++ singleQuote :: (quoted ++ singleQuote :: ' ' :: rest)) = some next)
    (finished : next.finish = some (program ++ quoted :: others))
    (long : rest.length + (if next.current.isSome then 1 else 0) ≤ (joined others).length) :
    singleQuote ∉ quoted ∧ ∀ word ∈ others, literalWord word = true := by
  obtain ⟨ends, words, length⟩ := finish_cases next _ finished
  have opened : State.start.run (joined program) = some (State.between program) := run_words [] program literals
  have text : (State.between program).text.length = (joined program).length := by
    rw [State.text, List.length_append]
    rfl
  have first : joined (quoted :: others) = quoted ++ [' '] ++ joined others := List.flatMap_cons
  rw [joined_append, first, List.length_append, List.length_append, List.length_append, List.length_singleton] at length
  rw [run_append, opened, Option.bind_some] at taken
  obtain ⟨closed, later, tight⟩ := quoted_tight (State.between program) next rfl quoted (' ' :: rest) taken ends
    (by rw [text, List.length_cons]; omega)
  refine ⟨closed, ?_⟩
  obtain ⟨middle, stepped, last, _, tightLast⟩ := tight_cons _ next ' ' rest later tight
  have ended : ((State.between program).push quoted .plain).step ' ' = some (State.between (program ++ [quoted])) := rfl
  rw [ended, Option.some.injEq] at stepped
  subst stepped
  obtain ⟨more, moreWords, literalMore⟩ := tight_words _ next rest rfl (fun _ absent => by cases absent) last tightLast
  have same : program ++ [quoted] ++ others = program ++ [quoted] ++ (more ++ next.current.toList) := by
    rw [← List.append_assoc (program ++ [quoted])]
    rw [List.append_assoc, List.singleton_append, words, moreWords]
    rfl
  rw [List.append_cancel_left same]
  exact literalMore

theorem step_escaped (state next : State) (char : Char) (taken : state.step char = some next)
    (escaped : next.mode = .escaped) : char = backslash := by
  cases mode : state.mode with
  | plain =>
    cases plain_step_cases state next char mode taken with
    | ended isBlank => cases escaped
    | escapes isEscape => exact isEscape
    | opened opens quoted => rcases quoted with ⟨rfl, _⟩ | ⟨rfl, _⟩ <;> cases escaped
    | literal stands starts => cases escaped
  | escaped =>
    simp only [State.step, mode, Option.some.injEq] at taken
    subst taken
    split at escaped <;> cases escaped
  | single =>
    simp only [State.step, mode, Option.some.injEq] at taken
    subst taken
    split at escaped <;> cases escaped
  | double =>
    simp only [State.step, mode] at taken
    split at taken
    · cases taken
      cases escaped
    split at taken
    · assumption
    split at taken
    · cases taken
    · cases taken
      cases escaped
  | doubleEscaped =>
    simp only [State.step, mode, Option.some.injEq] at taken
    subst taken
    split at escaped
    · cases escaped
    split at escaped <;> cases escaped

-- A final blank is part of a word only behind a backslash.
theorem escaped_blank (state next : State) (text : List Char) (last : Char) (word : Word)
    (taken : state.run (text ++ [last, ' ']) = some next) (ends : next.mode = .plain) (current : next.current = some word) :
    last = backslash ∧ ∃ front, word = front ++ [' '] := by
  rw [run_append, Option.bind_eq_some_iff] at taken
  obtain ⟨before, _, taken⟩ := taken
  rw [run_cons, Option.bind_eq_some_iff] at taken
  obtain ⟨middle, stepped, taken⟩ := taken
  rw [run_single] at taken
  have escaped : middle.mode = .escaped := by
    cases mode : middle.mode with
    | escaped => rfl
    | plain =>
      cases plain_step_cases middle next ' ' mode taken with
      | ended isBlank => cases current
      | escapes isEscape => cases ends
      | opened mode quoted => rcases quoted with ⟨rfl, _⟩ | ⟨rfl, _⟩ <;> cases ends
      | literal stands starts => cases stands
    | single =>
      simp only [State.step, mode] at taken
      cases taken
      cases ends
    | double =>
      simp only [State.step, mode] at taken
      cases taken
      cases ends
    | doubleEscaped =>
      simp only [State.step, mode] at taken
      cases taken
      cases ends
  refine ⟨step_escaped before middle last stepped escaped, ?_⟩
  simp only [State.step, escaped] at taken
  cases taken
  exact ⟨middle.current.getD [], (Option.some.inj current).symm⟩

theorem into_single (state next : State) (char : Char) (taken : state.step char = some next) (single : next.mode = .single)
    (inner : char ≠ singleQuote) : state.mode = .single := by
  cases mode : state.mode with
  | single => rfl
  | plain =>
    cases plain_step_cases state next char mode taken with
    | ended isBlank => cases single
    | escapes isEscape => cases single
    | opened opens quoted =>
      rcases quoted with ⟨rfl, isQuote⟩ | ⟨rfl, _⟩
      · exact absurd isQuote inner
      · cases single
    | literal stands starts => cases single
  | escaped =>
    simp only [State.step, mode, Option.some.injEq] at taken
    subst taken
    split at single <;> cases single
  | double =>
    simp only [State.step, mode] at taken
    split at taken
    · cases taken
      cases single
    split at taken
    · cases taken
      cases single
    split at taken <;> cases taken
    cases single
  | doubleEscaped =>
    simp only [State.step, mode, Option.some.injEq] at taken
    subst taken
    split at single
    · cases single
    split at single <;> cases single

theorem run_into_single (state next : State) (chars : List Char) (taken : state.run chars = some next)
    (single : next.mode = .single) (inner : singleQuote ∉ chars) : state.mode = .single := by
  induction chars generalizing state with
  | nil =>
    rw [run_nil, Option.some.injEq] at taken
    exact taken ▸ single
  | cons char rest ih =>
    rw [run_cons, Option.bind_eq_some_iff] at taken
    obtain ⟨middle, stepped, later⟩ := taken
    rw [List.mem_cons, not_or] at inner
    exact into_single state middle char stepped (ih middle later inner.2) fun same => inner.1 same.symm

theorem run_into_escaped (state next : State) (chars : List Char) (taken : state.run chars = some next)
    (escaped : next.mode = .escaped) (nonempty : chars ≠ []) : backslash ∈ chars := by
  cases chars using List.reverseRecOn with
  | nil => exact absurd rfl nonempty
  | append_singleton front last =>
    rw [run_append, Option.bind_eq_some_iff] at taken
    obtain ⟨before, _, stepped⟩ := taken
    rw [run_single] at stepped
    rw [step_escaped before next last stepped escaped]
    exact List.mem_append_right _ (List.mem_singleton_self _)

theorem quote_step (state next : State) (taken : state.step singleQuote = some next) :
    next.mode = match state.mode with
      | .plain => .single
      | .escaped | .single => .plain
      | .double | .doubleEscaped => .double := by
  cases mode : state.mode with
  | plain =>
    simp only [State.step, mode] at taken
    cases taken
    rfl
  | escaped =>
    simp only [State.step, mode] at taken
    cases taken
    rfl
  | single =>
    simp only [State.step, mode] at taken
    cases taken
    rfl
  | double =>
    simp only [State.step, mode] at taken
    cases taken
    rfl
  | doubleEscaped =>
    simp only [State.step, mode] at taken
    cases taken
    rfl

-- A text that ends with a quoted one was unquoted before it.
theorem quoted_from_plain (state next : State) (quoted : Word) (closed : singleQuote ∉ quoted) (plain : backslash ∉ quoted)
    (taken : state.run (singleQuote :: (quoted ++ [singleQuote])) = some next) (ends : next.mode = .plain) :
    state.mode = .plain := by
  rw [← List.cons_append, run_append, Option.bind_eq_some_iff] at taken
  obtain ⟨before, inner, last⟩ := taken
  rw [run_single] at last
  have closes := quote_step before next last
  have single : before.mode = .single := by
    cases mode : before.mode with
    | single => rfl
    | escaped =>
      have member := run_into_escaped state before _ inner mode (List.cons_ne_nil _ _)
      rcases List.mem_cons.mp member with same | inQuoted
      · revert same
        decide
      · exact absurd inQuoted plain
    | plain | double | doubleEscaped =>
      rw [mode, ends] at closes
      cases closes
  rw [run_cons, Option.bind_eq_some_iff] at inner
  obtain ⟨first, opened, inner⟩ := inner
  have opens := quote_step state first opened
  rw [run_into_single first before quoted inner single closed] at opens
  cases mode : state.mode with
  | plain => rfl
  | escaped | single | double | doubleEscaped =>
    rw [mode] at opens
    cases opens

-- A last word in quotes: the blank before it is unquoted, or escaped and in the word.
theorem quoted_end (state next : State) (quoted : Word) (closed : singleQuote ∉ quoted) (plain : backslash ∉ quoted)
    (taken : state.run (' ' :: singleQuote :: (quoted ++ [singleQuote])) = some next) (ends : next.mode = .plain) :
    (state.mode = .plain ∧ next = (State.between (state.words ++ state.current.toList)).push quoted .plain) ∨
      (state.mode = .escaped ∧ next = (state.push [' '] .plain).push quoted .plain) := by
  rw [run_cons, Option.bind_eq_some_iff] at taken
  obtain ⟨middle, stepped, taken⟩ := taken
  have isPlain := quoted_from_plain middle next quoted closed plain taken ends
  rw [run_quoted middle isPlain quoted [] closed, run_nil, Option.some.injEq] at taken
  subst taken
  cases mode : state.mode with
  | plain =>
    simp only [State.step, mode] at stepped
    cases stepped
    exact Or.inl ⟨rfl, rfl⟩
  | escaped =>
    simp only [State.step, mode] at stepped
    cases stepped
    exact Or.inr ⟨rfl, rfl⟩
  | single | double | doubleEscaped =>
    simp only [State.step, mode] at stepped
    cases stepped
    cases isPlain

end ShellWords
