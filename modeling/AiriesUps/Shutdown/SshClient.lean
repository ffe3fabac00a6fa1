import Mathlib.Data.List.TakeWhile
import AiriesUps.Shutdown.CommandLine

set_option autoImplicit false

namespace AiriesUps.Shutdown

open ShellWords (Word)

inductive AuthMethod where
  | none
  | password
  | publickey
  | other
deriving DecidableEq, Repr

structure Login where
  method : AuthMethod
  credential : String
deriving DecidableEq, Repr

-- What system() returns for a line, and how ssh got in on it, if it did.
structure Outcome where
  status : Int
  login : Option Login
deriving DecidableEq, Repr

-- getopt takes such a word for an option; ssh calls it before the address and again after it.
def optionLike : Word → Bool
  | '-' :: _ :: _ => true
  | _ => false

def SshLine.vector (quoted address : Word) (words : List Word) (line : SshLine) : List Word :=
  line.program ++ quoted :: (line.options ++ address :: words)

-- What ssh offers where its options pin the method: first nothing, as every client does
-- to learn what the server wants.
def passwordOffers (typed : String) : List Login := [⟨.none, ""⟩, ⟨.password, typed⟩]

def keyOffers (before : List String) (key : String) (after : List String) : List Login :=
  ⟨.none, ""⟩ :: (before ++ key :: after).map fun key => ⟨.publickey, key⟩

-- sshpass, ssh with the daemon's ssh_config, and the servers. typed is what ssh reads at its
-- prompt when sshpass types a password; before and after are the keys that the IdentityFile
-- lines of the configuration add for an address to the key of -i, which IdentitiesOnly does
-- not leave out; accepts is what the server lets in. run is what happens on the words of a
-- simple command, other on a line the shell does more with, under the files there are.
structure SshClient where
  typed : String → String
  before : Word → String → List String
  after : Word → String → List String
  accepts : Word → Login → Bool
  run : (Word → Option String) → List Word → Outcome
  other : (Word → Option String) → List Char → Outcome
  passwordPinned : ∀ files password address words, optionLike address = false → optionLike (words.headD []) = false →
    (run files (SshLine.passwordAction.vector password.toList address words)).login =
      (passwordOffers (typed password)).find? (accepts address)
  keyPinned : ∀ files path key address words, files path = some key →
    optionLike address = false → optionLike (words.headD []) = false →
    (run files (SshLine.keyAction.vector path address words)).login =
      (keyOffers (before address key) key (after address key)).find? (accepts address)

def SshClient.runShell (client : SshClient) (files : Word → Option String) (line : String) : Outcome :=
  match ShellWords.split line.toList with
  | some words => client.run files words
  | none => client.other files line.toList

inductive SshMethod where
  | password
  | key
deriving DecidableEq, Repr

def sshMethod (target : Target) : Option SshMethod :=
  match target.method with
  | "ssh_password" => some .password
  | "ssh_key" => some .key
  | _ => none

def SshMethod.action : SshMethod → SshLine
  | .password => .passwordAction
  | .key => .keyAction

def SshMethod.probe : SshMethod → SshLine
  | .password => .passwordProbe
  | .key => .keyProbe

def SshClient.admitted (client : SshClient) (target : Target) (method : SshMethod) : Option Login :=
  match method with
  | .password => (passwordOffers (client.typed target.credential)).find? (client.accepts (address target))
  | .key =>
    (keyOffers (client.before (address target) target.credential) target.credential
      (client.after (address target) target.credential)).find? (client.accepts (address target))

-- While the action runs, the file write_key_to_tmpfs made holds the stored key.
def actionFiles (files : Word → Option String) (target : Target) (keyPath : String) (method : SshMethod) :
    Word → Option String :=
  match method with
  | .password => files
  | .key => Function.update files keyPath.toList (some target.credential)

def firstWord (text : List Char) : Word := text.takeWhile fun char => char != ' '

-- The line says what it is meant to say, and ssh takes none of it for an option.
structure SshMethod.Delivered (keyPath : String) (target : Target) (method : SshMethod) : Prop where
  parsed : method.action.Parsed keyPath target
  address : optionLike (address target) = false
  command : optionLike (firstWord target.command.toList) = false

theorem literal_no_blank (word : Word) (literal : ShellWords.literalWord word = true) :
    ∀ char ∈ word, (char != ' ') = true := by
  intro char member
  have stands : ShellWords.literal char = true := by
    cases word with
    | nil => cases member
    | cons first rest =>
      rw [ShellWords.literalWord, Bool.and_eq_true, List.all_eq_true] at literal
      exact literal.2 char member
  rw [bne_iff_ne]
  rintro rfl
  cases stands

theorem first_word_joined (words : List Word) (literals : ∀ word ∈ words, ShellWords.literalWord word = true) :
    firstWord ([' '].intercalate words) = words.headD [] := by
  cases words with
  | nil => rfl
  | cons first rest =>
    have whole := literal_no_blank first (literals first List.mem_cons_self)
    cases rest with
    | nil =>
      rw [List.intercalate_singleton, firstWord, List.takeWhile_eq_self_iff.mpr whole]
      rfl
    | cons second more =>
      rw [List.intercalate_cons_cons, firstWord, List.append_assoc, List.takeWhile_append_of_pos whole]
      exact List.append_nil first

theorem delivered_words (keyPath : String) (target : Target) (method : SshMethod)
    (delivered : method.Delivered keyPath target) :
    ∃ words, optionLike (words.headD []) = false ∧
      ShellWords.split (method.action.built keyPath target).toList =
        some (method.action.vector (method.action.quoted keyPath target) (address target) words) := by
  obtain ⟨whole, words, remote, split⟩ := delivered.parsed
  have joined : [' '].intercalate words = target.command.toList := by
    cases method <;> exact remote
  have isAction : method.action.tail target = target.command.toList := by
    cases method <;> rfl
  obtain ⟨_, literals⟩ := action_plain keyPath target method.action words isAction joined (whole ▸ split)
  refine ⟨words, ?_, split⟩
  rw [← first_word_joined words fun word member =>
    literals word (List.mem_append_right _ (List.mem_cons_of_mem _ member)), joined]
  exact delivered.command

theorem delivered_login (client : SshClient) (files : Word → Option String) (keyPath : String) (target : Target)
    (method : SshMethod) (delivered : method.Delivered keyPath target) :
    (client.runShell (actionFiles files target keyPath method) (method.action.built keyPath target)).login =
      client.admitted target method := by
  obtain ⟨words, command, split⟩ := delivered_words keyPath target method delivered
  rw [SshClient.runShell, split]
  cases method with
  | password => exact client.passwordPinned _ target.credential (address target) words delivered.address command
  | key =>
    have written : actionFiles files target keyPath .key keyPath.toList = some target.credential :=
      Function.update_self _ _ _
    exact client.keyPinned _ _ target.credential (address target) words written delivered.address command

end AiriesUps.Shutdown
