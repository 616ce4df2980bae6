import Adventure.CommandLine.Command
import Adventure.Game.Json
import Adventure.Game.Lint
import Adventure.Project.Cause

/-!
# Running commands

What a command prints, the file that it writes and its exit status.
-/

namespace Adventure.CommandLine

open Files

/-- What a command leaves behind. -/
structure Outcome where
  status : Nat := 0
  /-- What goes to the standard output. -/
  output : String := ""
  /-- What goes to the standard error output. -/
  errors : String := ""
  /-- The path and the text of the file to write. -/
  written : Option (String × String) := none
  deriving DecidableEq, Repr

/-! ### Errors -/

/-- The causes of a failure, numbered if there are several. -/
def causeLines : List String → List String
  | []  => []
  | [c] => ["    " ++ c]
  | cs  => (cs.zipIdx).map fun (c, i) => "    " ++ toString i ++ ": " ++ c

/-- The report of a failure and its causes. -/
def failureText (message : String) (causes : List String) : String :=
  let causeText :=
    if causes.isEmpty then ""
    else "\n\nCaused by:\n" ++ "\n".intercalate (causeLines causes)
  "Error: " ++ message ++ causeText ++ "\n"

def failureStatus : Nat := 1

/-- The exit status after wrong arguments. -/
def usageStatus : Nat := 2

def Outcome.fail (o : Outcome) (message : String) (causes : List String) : Outcome :=
  { o with status := failureStatus, errors := o.errors ++ failureText message causes }

/-! ### Commands -/

/-- A warning for each lint. -/
def warningText (lints : List Game.Lint) : String :=
  String.join (lints.map fun l => "warning: " ++ l.message ++ "\n")

/-- Lints make a command fail that denies warnings. -/
def Outcome.deny (o : Outcome) (denyWarnings : Bool) (lints : List Game.Lint) : Outcome :=
  if denyWarnings && !lints.isEmpty then
    o.fail (toString lints.length ++ " lint(s) reported and --deny-warnings is set") []
  else o

/-- The text of game data. -/
def gameText (pretty : Bool) (game : Game.Data) : String :=
  game.toJson.text (if pretty then .indented else .compact)

/-- Runs a command on the game of its project. -/
def runOn (files : Tree) (game : Game.Data) (command : Command) : Outcome :=
  let lints := game.lints
  let start : Outcome := { errors := warningText lints }
  match command with
  | .lint dir denyWarnings =>
    let output := if lints.isEmpty then dir ++ ": no problems found\n" else ""
    { start with output }.deny denyWarnings lints
  | .compile _ none pretty denyWarnings =>
    { start with output := gameText pretty game ++ "\n" }.deny denyWarnings lints
  | .compile _ (some path) pretty denyWarnings =>
    let text := gameText pretty game
    match files.writeText path text.toList with
    | .error problem => start.fail ("writing " ++ path) [problem.message]
    | .ok _          => { start with written := some (path, text) }.deny denyWarnings lints

/-- Runs a command. -/
def run (files : Tree) (command : Command)
    (emojis : Markdown.Emojis := Markdown.knownEmojis) : Outcome :=
  match (Project.compile files command.dir emojis).result with
  | .ok game => runOn files game command
  | .error d => ({} : Outcome).fail ("while compiling " ++ command.dir) d.trace

/-- Runs the command that the arguments name. -/
def runArguments (files : Tree) (arguments : List String)
    (emojis : Markdown.Emojis := Markdown.knownEmojis) : Outcome :=
  match Command.ofArguments? arguments with
  | some command => run files command emojis
  | none         => { status := usageStatus, errors := usage }
where
  /-- How to use the program. -/
  usage : String :=
    "Usage:\n  compile [--out FILE] [--pretty] [--deny-warnings] DIR\n  lint [--deny-warnings] DIR\n"

end Adventure.CommandLine
