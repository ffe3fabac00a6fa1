import Mathlib.Data.List.Basic

set_option autoImplicit false

namespace AiriesUps.Cli

-- flag_spec_t.
structure FlagSpec where
  name : String
  takesValue : Bool
deriving DecidableEq, Repr

def isFlagToken (token : String) : Bool := "--".toList.isPrefixOf token.toList

def optHas (tokens : List String) (flag : String) : Bool := tokens.contains flag

def hasHelpFlag (tokens : List String) : Bool := tokens.any fun token => token == "--help" || token == "-h"

-- None is -1, for a flag that is not in the table.
def flagTakesValue (flag : String) (specs : List FlagSpec) : Option Bool :=
  (specs.find? fun spec => flag == spec.name).map FlagSpec.takesValue

-- argv from the start index on; the value of a flag that takes one is skipped with it.
def findSubcmd (specs : List FlagSpec) : List String → Option String
  | [] => none
  | [token] => if isFlagToken token then none else some token
  | token :: value :: rest =>
    if isFlagToken token then
      if flagTakesValue token specs = some true then findSubcmd specs rest else findSubcmd specs (value :: rest)
    else some token

def defaultSocket : String := "/tmp/airies-ups.sock"

-- How main's loop over the global flags ends.
inductive Scan where
  | help
  | version
  | unknownOption (token : String)
  | noCommand
  | command (sock name : String)
deriving DecidableEq, Repr

def globalOption (token : String) : Scan :=
  if token = "--help" ∨ token = "-h" then .help
  else if token = "--version" ∨ token = "-V" then .version
  else .unknownOption token

def scanGlobals (sock : String) : List String → Scan
  | [] => .noCommand
  | [token] => if token.toList.head? = some '-' then globalOption token else .command sock token
  | token :: path :: rest =>
    if token.toList.head? = some '-' then
      if token = "--socket" then scanGlobals path rest else globalOption token
    else .command sock token

-- An entry of the answer to GET /api/commands, of the fields cmd_cmd reads.
structure ListedCommand where
  name : String
  toggle : Bool
deriving DecidableEq, Repr

-- The body of POST /api/cmd: the fields that are there.
structure CmdBody where
  action : String
  dryRun : Option Bool
  off : Option Bool
deriving DecidableEq, Repr

inductive CmdOutcome where
  | unreachable
  | usage
  | help
  | needsDirection
  | unknownAction
  | posts (body : CmdBody)
deriving DecidableEq, Repr

def globalFlags : List FlagSpec := [{ name := "--socket", takesValue := true }]

-- cmd_cmd on the whole argv; listed is none where the daemon is not reached.
def cmdCmd (argv : List String) (listed : Option (List ListedCommand)) : CmdOutcome :=
  match listed with
  | none => .unreachable
  | some commands =>
    match findSubcmd globalFlags (argv.drop 2) with
    | none => .usage
    | some sub =>
      if hasHelpFlag (argv.drop 2) then .help
      else if sub = "shutdown" then
        .posts { action := "shutdown_workflow", dryRun := if optHas (argv.drop 3) "--dry-run" then some true else none
                 off := none }
      else
        match commands.find? fun command => command.name == sub with
        | none => .unknownAction
        | some command =>
          if command.toggle then
            match findSubcmd [] (argv.drop 3) with
            | some dir =>
              if dir ≠ "on" ∧ dir ≠ "off" then .needsDirection
              else .posts { action := sub, dryRun := none, off := some (decide (dir = "off")) }
            | none => .needsDirection
          else .posts { action := sub, dryRun := none, off := none }

-- What a command line makes the daemon do.
inductive Effect where
  | workflow (dryRun : Bool)
  | execute (name : String) (off : Bool)
deriving DecidableEq, Repr

-- handle_cmd with a UPS and a shutdown manager.
def handleCmd (commands : List ListedCommand) (body : CmdBody) : Option Effect :=
  if body.action = "shutdown_workflow" then some (.workflow (body.dryRun.getD false))
  else
    (commands.find? fun command => command.name == body.action).map fun command =>
      .execute command.name (command.toggle && body.off.getD false)

-- main, against a daemon with these commands.
def lineEffect (commands : List ListedCommand) (argv : List String) : Option Effect :=
  match scanGlobals defaultSocket (argv.drop 1) with
  | .command _ "cmd" =>
    match cmdCmd argv (some commands) with
    | .posts body => handleCmd commands body
    | _ => none
  | _ => none

theorem find_subcmd_word (specs : List FlagSpec) (token : String) (rest : List String) (word : isFlagToken token = false) :
    findSubcmd specs (token :: rest) = some token := by
  have plain : ¬isFlagToken token = true := by
    rw [word]
    decide
  cases rest with
  | nil => rw [findSubcmd, if_neg plain]
  | cons value more => rw [findSubcmd, if_neg plain]

theorem flag_token_dash (token : String) (flag : isFlagToken token = true) : token.toList.head? = some '-' := by
  obtain ⟨rest, split⟩ := List.isPrefixOf_iff_prefix.mp flag
  rw [← split]
  rfl

theorem command_word (token : String) (dash : ¬token.toList.head? = some '-') : isFlagToken token = false := by
  cases flag : isFlagToken token with
  | false => rfl
  | true => exact absurd (flag_token_dash token flag) dash

theorem global_option_ends (token : String) (sock name : String) : globalOption token ≠ .command sock name := by
  rw [globalOption]
  split
  · nofun
  · split <;> nofun

-- What stands after --socket is skipped by the loop in main and by find_subcmd alike.
theorem scanned_command (tokens : List String) (sock final name : String)
    (scanned : scanGlobals sock tokens = .command final name) : findSubcmd globalFlags tokens = some name := by
  match tokens with
  | [] => cases scanned
  | [token] =>
    rw [scanGlobals] at scanned
    split at scanned
    · exact absurd scanned (global_option_ends token final name)
    · rename_i dash
      cases scanned
      exact find_subcmd_word globalFlags name [] (command_word name dash)
  | token :: path :: rest =>
    rw [scanGlobals] at scanned
    split at scanned
    · split at scanned
      · rename_i isSocket
        have skipped := scanned_command rest path final name scanned
        rw [isSocket, findSubcmd, if_pos (by decide +kernel), if_pos (by decide +kernel)]
        exact skipped
      · exact absurd scanned (global_option_ends token final name)
    · rename_i dash
      cases scanned
      exact find_subcmd_word globalFlags name (path :: rest) (command_word name dash)

def workflowBody (argv : List String) : CmdBody :=
  { action := "shutdown_workflow", dryRun := if optHas (argv.drop 3) "--dry-run" then some true else none, off := none }

-- What cmd_cmd posts: the workflow for the word shutdown, a command of the daemon for its name.
inductive Posted (argv : List String) (commands : List ListedCommand) (sub : String) (body : CmdBody) : Prop where
  | workflow (isShutdown : sub = "shutdown") (isBody : body = workflowBody argv)
  | command (other : sub ≠ "shutdown") (command : ListedCommand) (listed : command ∈ commands) (named : command.name = sub)
    (acts : body.action = sub)

theorem posted_cases (argv : List String) (commands : List ListedCommand) (body : CmdBody)
    (posted : cmdCmd argv (some commands) = .posts body) :
    ∃ sub, findSubcmd globalFlags (argv.drop 2) = some sub ∧ hasHelpFlag (argv.drop 2) = false ∧
      Posted argv commands sub body := by
  rw [cmdCmd] at posted
  split at posted
  · cases posted
  rename_i sub found
  refine ⟨sub, found, ?_⟩
  split at posted
  · cases posted
  rename_i unhelped
  refine ⟨Bool.eq_false_iff.mpr unhelped, ?_⟩
  split at posted
  · rename_i isShutdown
    exact .workflow isShutdown (CmdOutcome.posts.inj posted).symm
  rename_i other
  split at posted
  · cases posted
  rename_i command isCommand
  have matched := List.find?_some isCommand
  have listed := List.mem_of_find?_eq_some isCommand
  split at posted
  · split at posted
    · split at posted
      · cases posted
      · cases posted
        exact .command other command listed (eq_of_beq matched) rfl
    · cases posted
  · cases posted
    exact .command other command listed (eq_of_beq matched) rfl

-- The workflow is started by the word shutdown alone, and for real where no --dry-run
-- stands from the third argument on.
theorem real_workflow_iff (commands : List ListedCommand) (unclaimed : ∀ command ∈ commands, command.name ≠ "shutdown_workflow")
    (prog : String) (tokens : List String) :
    lineEffect commands (prog :: tokens) = some (.workflow false) ↔
      (∃ sock, scanGlobals defaultSocket tokens = .command sock "cmd") ∧
        findSubcmd globalFlags (tokens.drop 1) = some "shutdown" ∧ hasHelpFlag (tokens.drop 1) = false ∧
          "--dry-run" ∉ tokens.drop 2 := by
  constructor
  · intro started
    rw [lineEffect] at started
    split at started
    · rename_i sock scanned
      refine ⟨⟨sock, scanned⟩, ?_⟩
      split at started
      · rename_i body posted
        obtain ⟨sub, found, unhelped, cases_⟩ := posted_cases _ _ _ posted
        cases cases_ with
        | workflow isShutdown isBody =>
          refine ⟨isShutdown ▸ found, unhelped, fun said => ?_⟩
          have dry : optHas ((prog :: tokens).drop 3) "--dry-run" = true := List.contains_iff_mem.mpr said
          rw [isBody, workflowBody, if_pos dry] at started
          cases started
        | command other command listed named acts =>
          have otherAction : ¬body.action = "shutdown_workflow" := by
            rw [acts, ← named]
            exact unclaimed command listed
          rw [handleCmd, if_neg otherAction] at started
          obtain ⟨_, _, wrong⟩ := Option.map_eq_some_iff.mp started
          cases wrong
      · cases started
    · cases started
  · rintro ⟨⟨sock, scanned⟩, found, unhelped, unsaid⟩
    have real : optHas ((prog :: tokens).drop 3) "--dry-run" = false :=
      Bool.eq_false_iff.mpr fun said => unsaid (List.contains_iff_mem.mp said)
    have posts : cmdCmd (prog :: tokens) (some commands) =
        .posts { action := "shutdown_workflow", dryRun := none, off := none } := by
      rw [cmdCmd]
      have sub : findSubcmd globalFlags ((prog :: tokens).drop 2) = some "shutdown" := found
      have help : hasHelpFlag ((prog :: tokens).drop 2) = false := unhelped
      rw [sub]
      dsimp only
      rw [help, if_neg (by decide), if_pos rfl, real]
      rfl
    rw [lineEffect, List.drop_one, List.tail_cons, scanned, posts]
    rfl

-- The lines that say --dry-run and still start the workflow for real are those where it
-- stands between cmd and shutdown, and nowhere else.
theorem dry_run_ignored_iff (commands : List ListedCommand) (unclaimed : ∀ command ∈ commands, command.name ≠ "shutdown_workflow")
    (prog : String) (tokens : List String) (said : "--dry-run" ∈ tokens) :
    lineEffect commands (prog :: tokens) = some (.workflow false) ↔
      ∃ rest, tokens = "cmd" :: "--dry-run" :: rest ∧ findSubcmd globalFlags rest = some "shutdown" ∧
        hasHelpFlag rest = false ∧ "--dry-run" ∉ rest := by
  rw [real_workflow_iff commands unclaimed]
  have unknown : findSubcmd globalFlags ["--dry-run"] = none := by decide +kernel
  have skipped (rest : List String) : findSubcmd globalFlags ("--dry-run" :: rest) = findSubcmd globalFlags rest := by
    cases rest with
    | nil => exact unknown
    | cons value more => rw [findSubcmd, if_pos (by decide +kernel), if_neg (by decide +kernel)]
  have help (rest : List String) : hasHelpFlag ("--dry-run" :: rest) = hasHelpFlag rest := by
    rw [hasHelpFlag, List.any_cons]
    rfl
  constructor
  · rintro ⟨⟨sock, scanned⟩, found, unhelped, unsaid⟩
    match tokens with
    | [] => cases said
    | [first] => cases found
    | first :: second :: rest =>
      change findSubcmd globalFlags (second :: rest) = some "shutdown" at found
      change hasHelpFlag (second :: rest) = false at unhelped
      change "--dry-run" ∉ rest at unsaid
      rw [scanGlobals] at scanned
      split at scanned
      · split at scanned
        · rename_i isSocket
          -- The path of --socket is --dry-run, and cmd is the action that is looked up.
          have isPath : second = "--dry-run" := by
            rcases List.mem_cons.mp said with isFirst | later
            · rw [isSocket] at isFirst
              exact absurd isFirst (by decide +kernel)
            · rcases List.mem_cons.mp later with isSecond | last
              · exact isSecond.symm
              · exact absurd last unsaid
          rw [isPath, skipped, scanned_command rest second sock "cmd" scanned] at found
          exact absurd (Option.some.inj found) (by decide +kernel)
        · exact absurd scanned (global_option_ends first sock "cmd")
      · rename_i dash
        obtain ⟨-, isCmd⟩ := Scan.command.inj scanned
        have isSecond : second = "--dry-run" := by
          rcases List.mem_cons.mp said with isFirst | later
          · rw [isCmd] at isFirst
            exact absurd isFirst (by decide +kernel)
          · rcases List.mem_cons.mp later with isSecond | last
            · exact isSecond.symm
            · exact absurd last unsaid
        rw [isSecond, skipped] at found
        rw [isSecond, help] at unhelped
        exact ⟨rest, by rw [isCmd, isSecond], found, unhelped, unsaid⟩
  · rintro ⟨rest, rfl, found, unhelped, unsaid⟩
    refine ⟨⟨defaultSocket, ?_⟩, (skipped rest).trans found, (help rest).trans unhelped, unsaid⟩
    rw [scanGlobals, if_neg (by decide +kernel)]

theorem unsaid_dry_run_runs :
    lineEffect [{ name := "battery_test", toggle := false }] ["airies-ups", "cmd", "--dry-run", "shutdown"] =
      some (.workflow false) :=
  (dry_run_ignored_iff [{ name := "battery_test", toggle := false }] (by simp) "airies-ups"
    ["cmd", "--dry-run", "shutdown"] (by simp)).mpr ⟨["shutdown"], rfl, by decide +kernel, by decide +kernel, by simp⟩

-- The effect of an action word.
def Effect.Means (word : String) : Effect → Prop
  | .workflow _ => word = "shutdown" ∨ word = "shutdown_workflow"
  | .execute name _ => name = word

-- With a global --socket the path is what cmd_cmd takes for the action.
theorem socket_path_taken (commands : List ListedCommand) (prog path : String) (rest : List String)
    (plain : isFlagToken path = false) (effect : Effect)
    (acted : lineEffect commands (prog :: "--socket" :: path :: rest) = some effect) : effect.Means path := by
  rw [lineEffect] at acted
  split at acted
  · split at acted
    · rename_i body posted
      obtain ⟨sub, found, -, cases_⟩ := posted_cases _ _ _ posted
      have isPath : path = sub := Option.some.inj ((find_subcmd_word globalFlags path rest plain).symm.trans found)
      cases cases_ with
      | workflow isShutdown isBody =>
        rw [isBody] at acted
        cases Option.some.inj acted
        exact Or.inl (isPath.trans isShutdown)
      | command other command listed named acts =>
        rw [handleCmd] at acted
        split at acted
        · rename_i isWorkflow
          cases acted
          exact Or.inr (isPath.trans (acts.symm.trans isWorkflow))
        · obtain ⟨executed, foundCommand, same⟩ := Option.map_eq_some_iff.mp acted
          have matched := List.find?_some foundCommand
          rw [← same]
          exact (eq_of_beq matched).trans (acts.trans isPath.symm)
    · cases acted
  · cases acted

end AiriesUps.Cli
