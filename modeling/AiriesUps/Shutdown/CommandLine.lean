import AiriesUps.Lib.ShellWords
import AiriesUps.Shutdown.Target

set_option autoImplicit false

namespace AiriesUps.Shutdown

open ShellWords (Word)

-- The four lines of fire_target_action and test_target_connectivity for the SSH methods.
inductive SshLine where
  | passwordAction
  | keyAction
  | passwordProbe
  | keyProbe
deriving DecidableEq, Repr

-- The line as the code builds it, in its buffer; keyPath is the file write_key_to_tmpfs made.
def SshLine.built (keyPath : String) (target : Target) : SshLine → String
  | .passwordAction => sshPasswordCommand target
  | .keyAction => sshKeyCommand keyPath target
  | .passwordProbe => probePasswordCommand target
  | .keyProbe => probeKeyCommand target

def SshLine.size : SshLine → Nat
  | .passwordAction | .keyAction => 2048
  | .passwordProbe | .keyProbe => 1024

-- What its buffer leaves for the strings of the target.
def SshLine.room : SshLine → Nat
  | .passwordAction => 1915
  | .keyAction => 1910
  | .passwordProbe => 946
  | .keyProbe => 954

-- What it is meant to say: the program with its option, the word in quotes, the options,
-- the address and what is run there.
def SshLine.program : SshLine → List Word
  | .passwordAction | .passwordProbe => ["sshpass".toList, "-p".toList]
  | .keyAction | .keyProbe => ["ssh".toList, "-i".toList]

def SshLine.quoted (keyPath : String) (target : Target) : SshLine → Word
  | .keyAction => keyPath.toList
  | .passwordAction | .passwordProbe | .keyProbe => target.credential.toList

def SshLine.options : SshLine → List Word
  | .passwordAction =>
    ["ssh".toList, "-o".toList, "PreferredAuthentications=password".toList, "-o".toList, "PubkeyAuthentication=no".toList,
      "-o".toList, "StrictHostKeyChecking=no".toList, "-o".toList, "ConnectTimeout=5".toList]
  | .keyAction =>
    ["-o".toList, "IdentitiesOnly=yes".toList, "-o".toList, "BatchMode=yes".toList,
      "-o".toList, "PreferredAuthentications=publickey".toList, "-o".toList, "StrictHostKeyChecking=no".toList,
      "-o".toList, "ConnectTimeout=5".toList]
  | .passwordProbe =>
    ["ssh".toList, "-o".toList, "StrictHostKeyChecking=no".toList, "-o".toList, "ConnectTimeout=5".toList]
  | .keyProbe => ["-o".toList, "StrictHostKeyChecking=no".toList, "-o".toList, "ConnectTimeout=5".toList]

def address (target : Target) : Word := target.username.toList ++ '@' :: target.host.toList

-- ssh runs its last arguments joined by single blanks.
def SshLine.Remote (target : Target) (words : List Word) : SshLine → Prop
  | .passwordAction | .keyAction => [' '].intercalate words = target.command.toList
  | .passwordProbe | .keyProbe => words = ["echo OK".toList]

def SshLine.tail (target : Target) : SshLine → List Char
  | .passwordAction | .keyAction => target.command.toList
  | .passwordProbe | .keyProbe => "'echo OK'".toList

-- The line before it is cut to its buffer.
def SshLine.text (keyPath : String) (target : Target) (line : SshLine) : List Char :=
  ShellWords.joined line.program ++ '\'' :: (line.quoted keyPath target ++ '\'' ::
    (' ' :: (ShellWords.joined line.options ++ (address target ++ ' ' :: line.tail target))))

-- The shell passes on the words the line is meant to say, and nothing of it was cut off.
def SshLine.Parsed (keyPath : String) (target : Target) (line : SshLine) : Prop :=
  (line.built keyPath target).toList = line.text keyPath target ∧
    ∃ words, line.Remote target words ∧ ShellWords.split (line.built keyPath target).toList =
      some (line.program ++ line.quoted keyPath target :: (line.options ++ address target :: words))

def SshLine.commandLength (target : Target) : SshLine → Nat
  | .passwordAction | .keyAction => target.command.toList.length
  | .passwordProbe | .keyProbe => 0

def SshLine.entered (keyPath : String) (target : Target) (line : SshLine) : Nat :=
  (line.quoted keyPath target).length + target.username.toList.length + target.host.toList.length + line.commandLength target

-- What was entered fits; the quoted word has no quote of its own; the address is a word as
-- it stands, and so is each word of the command, with single blanks between them.
structure SshLine.Plain (keyPath : String) (target : Target) (line : SshLine) : Prop where
  fits : line.entered keyPath target ≤ line.room
  unquoted : ShellWords.singleQuote ∉ line.quoted keyPath target
  address : ShellWords.literalWord (address target) = true
  command : line = .passwordAction ∨ line = .keyAction →
    ∃ words : List Word, (∀ word ∈ words, ShellWords.literalWord word = true) ∧
      target.command.toList = [' '].intercalate words

-- The fixed text around the quoted word, as it is written and as words.
theorem line_text (line : SshLine) (keyPath : String) (target : Target) (opening middle tail : String)
    (openingWords : opening.toList = ShellWords.joined line.program ++ ['\''])
    (middleWords : middle.toList = '\'' :: ' ' :: ShellWords.joined line.options)
    (tailWords : tail.toList = ' ' :: line.tail target) :
    String.ofList (line.text keyPath target) =
      opening ++ String.ofList (line.quoted keyPath target) ++ middle ++ target.username ++ "@" ++ target.host ++ tail := by
  have atSign : "@".toList = ['@'] := by decide +kernel
  apply String.toList_injective
  simp only [SshLine.text, address, String.toList_append, String.toList_ofList, openingWords, middleWords, tailWords,
    atSign, List.append_assoc, List.cons_append, List.nil_append]

theorem built_text (keyPath : String) (target : Target) (line : SshLine) :
    line.built keyPath target = snprintf line.size (String.ofList (line.text keyPath target)) := by
  have blankTail (text : String) : (" " ++ text).toList = ' ' :: text.toList := by
    rw [String.toList_append]
    rfl
  cases line with
  | passwordAction =>
    rw [line_text .passwordAction keyPath target "sshpass -p '" ("' ssh " ++ "-o PreferredAuthentications=password " ++
      "-o PubkeyAuthentication=no " ++ "-o StrictHostKeyChecking=no " ++ "-o ConnectTimeout=5 ") (" " ++ target.command)
      (by decide +kernel) (by simp only [String.toList_append]; decide +kernel) (blankTail target.command)]
    simp only [SshLine.built, sshPasswordCommand, SshLine.size, SshLine.quoted, String.ofList_toList, String.append_assoc]
  | keyAction =>
    rw [line_text .keyAction keyPath target "ssh -i '" ("' " ++ "-o IdentitiesOnly=yes " ++ "-o BatchMode=yes " ++
      "-o PreferredAuthentications=publickey " ++ "-o StrictHostKeyChecking=no " ++ "-o ConnectTimeout=5 ")
      (" " ++ target.command) (by decide +kernel) (by simp only [String.toList_append]; decide +kernel) (blankTail target.command)]
    simp only [SshLine.built, sshKeyCommand, SshLine.size, SshLine.quoted, String.ofList_toList, String.append_assoc]
  | passwordProbe =>
    rw [line_text .passwordProbe keyPath target "sshpass -p '" ("' ssh -o StrictHostKeyChecking=no " ++ "-o ConnectTimeout=5 ")
      " 'echo OK'" (by decide +kernel) (by decide +kernel) rfl]
    simp only [SshLine.built, probePasswordCommand, SshLine.size, SshLine.quoted, String.ofList_toList, String.append_assoc]
  | keyProbe =>
    rw [line_text .keyProbe keyPath target "ssh -i '" ("' -o StrictHostKeyChecking=no " ++ "-o ConnectTimeout=5 ")
      " 'echo OK'" (by decide +kernel) (by decide +kernel) rfl]
    simp only [SshLine.built, probeKeyCommand, SshLine.size, SshLine.quoted, String.ofList_toList, String.append_assoc]

theorem program_literal (line : SshLine) : ∀ word ∈ line.program, ShellWords.literalWord word = true := by
  cases line <;> decide +kernel

theorem options_literal (line : SshLine) : ∀ word ∈ line.options, ShellWords.literalWord word = true := by
  cases line <;> decide +kernel

theorem opening_read (keyPath : String) (target : Target) (line : SshLine)
    (unquoted : ShellWords.singleQuote ∉ line.quoted keyPath target)
    (isAddress : ShellWords.literalWord (address target) = true) :
    ShellWords.State.start.run (line.text keyPath target) =
      (ShellWords.State.between (line.program ++ [line.quoted keyPath target] ++ line.options ++ [address target])).run
        (line.tail target) := by
  have quoted := ShellWords.run_program line.program (program_literal line) (line.quoted keyPath target)
    (ShellWords.joined line.options ++ (address target ++ ' ' :: line.tail target)) unquoted
  have ended (words : List Word) : ({ words := words, current := some (address target), mode := .plain } :
      ShellWords.State).step ' ' = some (ShellWords.State.between (words ++ [address target])) := rfl
  rw [ShellWords.singleQuote] at quoted
  rw [SshLine.text, quoted, ShellWords.run_append, ShellWords.run_words _ _ (options_literal line), Option.bind_some,
    ShellWords.run_append, ShellWords.run_word _ _ isAddress, Option.bind_some, ShellWords.run_cons, ended,
    Option.bind_some]

theorem probe_tail : "'echo OK'".toList = ShellWords.singleQuote :: ("echo OK".toList ++ [ShellWords.singleQuote]) := by
  decide +kernel

theorem probe_closed : ShellWords.singleQuote ∉ "echo OK".toList := by decide +kernel

theorem tail_read (target : Target) (line : SshLine) (keyPath : String) (plain : line.Plain keyPath target)
    (before : List Word) :
    ∃ words, line.Remote target words ∧
      ((ShellWords.State.between before).run (line.tail target)).bind ShellWords.State.finish = some (before ++ words) := by
  have command (isAction : line = .passwordAction ∨ line = .keyAction) :
      ∃ words, [' '].intercalate words = target.command.toList ∧
        ((ShellWords.State.between before).run target.command.toList).bind ShellWords.State.finish =
          some (before ++ words) := by
    obtain ⟨words, literals, spelled⟩ := plain.command isAction
    refine ⟨words, spelled.symm, ?_⟩
    rw [spelled]
    exact ShellWords.run_command before words literals
  have probe : ((ShellWords.State.between before).run "'echo OK'".toList).bind ShellWords.State.finish =
      some (before ++ ["echo OK".toList]) := by
    rw [probe_tail, ShellWords.run_quoted _ rfl _ _ probe_closed]
    rfl
  cases line with
  | passwordAction => exact command (Or.inl rfl)
  | keyAction => exact command (Or.inr rfl)
  | passwordProbe => exact ⟨_, rfl, probe⟩
  | keyProbe => exact ⟨_, rfl, probe⟩

theorem tail_length (target : Target) (line : SshLine) :
    (ShellWords.joined line.program).length + (ShellWords.joined line.options).length + (line.tail target).length +
      line.room + 6 = line.size + line.commandLength target := by
  cases line with
  | passwordAction =>
    have fixed : (ShellWords.joined SshLine.passwordAction.program).length +
        (ShellWords.joined SshLine.passwordAction.options).length + 1915 + 6 = 2048 := by decide +kernel
    change _ + _ + target.command.toList.length + 1915 + 6 = 2048 + target.command.toList.length
    omega
  | keyAction =>
    have fixed : (ShellWords.joined SshLine.keyAction.program).length +
        (ShellWords.joined SshLine.keyAction.options).length + 1910 + 6 = 2048 := by decide +kernel
    change _ + _ + target.command.toList.length + 1910 + 6 = 2048 + target.command.toList.length
    omega
  | passwordProbe =>
    change (ShellWords.joined SshLine.passwordProbe.program).length +
      (ShellWords.joined SshLine.passwordProbe.options).length + "'echo OK'".toList.length + 946 + 6 = 1024 + 0
    decide +kernel
  | keyProbe =>
    change (ShellWords.joined SshLine.keyProbe.program).length +
      (ShellWords.joined SshLine.keyProbe.options).length + "'echo OK'".toList.length + 954 + 6 = 1024 + 0
    decide +kernel

theorem text_length (keyPath : String) (target : Target) (line : SshLine) :
    (line.text keyPath target).length + line.room + 1 = line.size + line.entered keyPath target := by
  have fixed := tail_length target line
  have isAddress : (address target).length = target.username.toList.length + target.host.toList.length + 1 := by
    rw [address, List.length_append, List.length_cons, Nat.add_assoc]
  rw [SshLine.entered, SshLine.text, List.length_append, List.length_cons, List.length_append, List.length_cons,
    List.length_cons, List.length_append, List.length_append, List.length_cons, isAddress]
  omega

theorem fits_whole (keyPath : String) (target : Target) (line : SshLine) :
    (line.built keyPath target).toList = line.text keyPath target ↔ line.entered keyPath target ≤ line.room := by
  have positive : 0 < line.size := by cases line <;> decide
  have length := text_length keyPath target line
  rw [built_text, snprintf, String.toList_ofList, String.toList_ofList]
  constructor
  · intro whole
    have kept := congrArg List.length whole
    rw [List.length_take] at kept
    omega
  · intro fits
    exact List.take_of_length_le (by omega)

theorem plain_parsed (keyPath : String) (target : Target) (line : SshLine) (plain : line.Plain keyPath target) :
    line.Parsed keyPath target := by
  have whole := (fits_whole keyPath target line).mpr plain.fits
  obtain ⟨words, remote, read⟩ := tail_read target line keyPath plain
    (line.program ++ [line.quoted keyPath target] ++ line.options ++ [address target])
  refine ⟨whole, words, remote, ?_⟩
  rw [whole, ShellWords.split, opening_read keyPath target line plain.unquoted plain.address, read]
  simp only [List.append_assoc, List.cons_append, List.nil_append]

theorem others_length (options : List Word) (address : Word) (words : List Word) :
    (ShellWords.joined (options ++ address :: words)).length =
      (ShellWords.joined options).length + address.length + 1 + (ShellWords.joined words).length := by
  have first : ShellWords.joined (address :: words) = address ++ [' '] ++ ShellWords.joined words := List.flatMap_cons
  rw [ShellWords.joined_append, first, List.length_append, List.length_append, List.length_append, List.length_singleton]
  omega

theorem address_end (target : Target) : ∃ front last, address target = front ++ [last] := by
  cases split : address target using List.reverseRecOn with
  | nil =>
    rw [address, List.append_eq_nil_iff] at split
    cases split.2
  | append_singleton front last => exact ⟨front, last, rfl⟩

-- With an empty command the line ends in a blank, which is no part of the address: it could
-- only be escaped, and then the address would not end as it does.
theorem no_command_word (before : List Char) (target : Target) (next : ShellWords.State) (words : List Word)
    (taken : ShellWords.State.start.run (before ++ (address target ++ [' '])) = some next)
    (finished : next.finish = some (words ++ [address target])) : next.current = none := by
  obtain ⟨ends, allWords, _⟩ := ShellWords.finish_cases next _ finished
  obtain ⟨front, last, spelled⟩ := address_end target
  cases current : next.current with
  | none => rfl
  | some word =>
    rw [current, Option.toList_some] at allWords
    have isAddress : word = front ++ [last] := by
      rw [← spelled]
      exact (List.cons.inj (List.append_inj_right' allWords rfl)).1.symm
    rw [spelled, List.append_assoc, ← List.append_assoc] at taken
    obtain ⟨isEscape, others, isBlank⟩ := ShellWords.escaped_blank _ next _ last word taken ends current
    rw [isAddress] at isBlank
    have same := (List.cons.inj (List.append_inj_right' isBlank rfl)).1
    rw [isEscape] at same
    cases same

theorem action_plain (keyPath : String) (target : Target) (line : SshLine) (words : List Word)
    (isAction : line.tail target = target.command.toList) (remote : [' '].intercalate words = target.command.toList)
    (parsed : ShellWords.split (line.text keyPath target) =
      some (line.program ++ line.quoted keyPath target :: (line.options ++ address target :: words))) :
    ShellWords.singleQuote ∉ line.quoted keyPath target ∧
      ∀ word ∈ line.options ++ address target :: words, ShellWords.literalWord word = true := by
  obtain ⟨next, taken, finished⟩ := ShellWords.split_cases _ _ parsed
  refine ShellWords.program_words line.program (program_literal line) _ _ _ next taken finished ?_
  rw [others_length, isAction, ← remote, List.length_append, List.length_append, List.length_cons]
  cases words using List.reverseRecOn with
  | append_singleton front last =>
    rw [ShellWords.intercalate_concat, ShellWords.joined_append, ShellWords.joined_single, List.length_append,
      List.length_append, List.length_append, List.length_singleton]
    split <;> omega
  | nil =>
    have spelled : line.text keyPath target = (ShellWords.joined line.program ++ '\'' :: (line.quoted keyPath target ++
        '\'' :: (' ' :: ShellWords.joined line.options))) ++ (address target ++ [' ']) := by
      rw [SshLine.text, isAction, ← remote, List.intercalate_nil]
      simp only [List.append_assoc, List.cons_append]
    have lastWord : line.program ++ line.quoted keyPath target :: (line.options ++ [address target]) =
        (line.program ++ line.quoted keyPath target :: line.options) ++ [address target] := by
      simp only [List.append_assoc, List.cons_append]
    have empty : ShellWords.joined [] = [] := rfl
    rw [spelled] at taken
    rw [lastWord] at finished
    rw [no_command_word _ target next _ taken finished, List.intercalate_nil, empty, List.length_nil]
    simp only [Option.isSome_none, Bool.false_eq_true, if_false]
    omega

-- A probe whose line is read as it is meant: its last word is quoted whole, so that the line
-- up to it is read so too.
theorem probe_plain (keyPath : String) (target : Target) (line : SshLine) (isProbe : line.tail target = "'echo OK'".toList)
    (parsed : ShellWords.split (line.text keyPath target) =
      some (line.program ++ line.quoted keyPath target :: (line.options ++ address target :: ["echo OK".toList]))) :
    ShellWords.singleQuote ∉ line.quoted keyPath target ∧
      ∀ word ∈ line.options ++ [address target], ShellWords.literalWord word = true := by
  obtain ⟨next, taken, finished⟩ := ShellWords.split_cases _ _ parsed
  obtain ⟨ends, allWords, _⟩ := ShellWords.finish_cases next _ finished
  have spelled : line.text keyPath target = (ShellWords.joined line.program ++ '\'' :: (line.quoted keyPath target ++
      '\'' :: (' ' :: (ShellWords.joined line.options ++ address target)))) ++
        ' ' :: ShellWords.singleQuote :: ("echo OK".toList ++ [ShellWords.singleQuote]) := by
    rw [SshLine.text, isProbe, probe_tail]
    simp only [List.append_assoc, List.cons_append]
  rw [spelled, ShellWords.run_append, Option.bind_eq_some_iff] at taken
  obtain ⟨middle, opening, last⟩ := taken
  have lastWord : line.program ++ line.quoted keyPath target :: (line.options ++ address target :: ["echo OK".toList]) =
      (line.program ++ line.quoted keyPath target :: (line.options ++ [address target])) ++ ["echo OK".toList] := by
    simp only [List.append_assoc, List.cons_append, List.nil_append]
  rw [lastWord] at allWords
  rcases ShellWords.quoted_end middle next _ probe_closed (by decide +kernel) last ends with ⟨plain, rfl⟩ | ⟨_, rfl⟩
  · have read : middle.finish = some (line.program ++ line.quoted keyPath target :: (line.options ++ [address target])) := by
      rw [ShellWords.State.finish, if_pos plain]
      exact congrArg some (List.append_inj_left' allWords rfl).symm
    refine ShellWords.program_words line.program (program_literal line) _ _ _ middle opening read ?_
    rw [others_length, List.length_append]
    split <;> omega
  · -- the word would begin with what was read before the blank
    have same := congrArg List.length (List.cons.inj (List.append_inj_right' allWords rfl)).1
    simp only [ShellWords.State.push, Option.getD_some, List.length_append, List.length_singleton] at same
    omega

theorem parsed_plain (keyPath : String) (target : Target) (line : SshLine) (parsed : line.Parsed keyPath target) :
    line.Plain keyPath target := by
  obtain ⟨whole, words, remote, split⟩ := parsed
  rw [whole] at split
  have fits := (fits_whole keyPath target line).mp whole
  have action (isAction : line.tail target = target.command.toList)
      (remote : [' '].intercalate words = target.command.toList) : line.Plain keyPath target := by
    obtain ⟨unquoted, literals⟩ := action_plain keyPath target line words isAction remote split
    refine ⟨fits, unquoted, literals _ (List.mem_append_right _ List.mem_cons_self), fun _ => ⟨words, ?_, remote.symm⟩⟩
    exact fun word member => literals word (List.mem_append_right _ (List.mem_cons_of_mem _ member))
  have probe (isProbe : line.tail target = "'echo OK'".toList) (remote : words = ["echo OK".toList])
      (notAction : ¬(line = .passwordAction ∨ line = .keyAction)) : line.Plain keyPath target := by
    obtain ⟨unquoted, literals⟩ := probe_plain keyPath target line isProbe (remote ▸ split)
    exact ⟨fits, unquoted, literals _ (List.mem_append_right _ List.mem_cons_self), fun wrong => absurd wrong notAction⟩
  cases line with
  | passwordAction => exact action rfl remote
  | keyAction => exact action rfl remote
  | passwordProbe => exact probe rfl remote (by decide)
  | keyProbe => exact probe rfl remote (by decide)

theorem ssh_line_parsed_iff (keyPath : String) (target : Target) (line : SshLine) :
    line.Parsed keyPath target ↔ line.Plain keyPath target :=
  ⟨parsed_plain keyPath target line, plain_parsed keyPath target line⟩

-- The password closes its own quotes, and the quote after it opens one that nothing closes.
def apostropheTarget : Target :=
  { groupId := 1, orderInGroup := 0, name := "nas", method := "ssh_password", host := "10.0.0.5", username := "root",
    credential := "it's", command := "poweroff", timeoutSec := 180, confirmMethod := "ping", confirmPort := 0,
    confirmCommand := "", postConfirmDelay := 15 }

theorem apostrophe_breaks_line : ¬SshLine.passwordAction.Parsed "" apostropheTarget := by
  rintro ⟨whole, words, _, split⟩
  have unterminated : ShellWords.split (SshLine.passwordAction.text "" apostropheTarget) = none := by decide +kernel
  rw [whole, unterminated] at split
  cases split

end AiriesUps.Shutdown
