/-!
# Commands

The command line names a command, a project directory and options. Options may stand before and after
the directory; after two hyphens there are none.
-/

namespace Adventure.CommandLine

inductive Command where
  /-- Writes the game of a project to a file or to the standard output. -/
  | compile (dir : String) (out : Option String) (pretty denyWarnings : Bool)
  /-- Reports the lints of a project. -/
  | lint (dir : String) (denyWarnings : Bool)
  deriving DecidableEq, Repr

/-- What the arguments of a command say. -/
structure Arguments where
  dir : Option String := none
  out : Option String := none
  pretty : Bool := false
  denyWarnings : Bool := false

namespace Arguments

/-- The option that names the file to write. -/
def outOption : String := "--out"

/-- Sets a value that must not be empty and that is given once at most. -/
def once (old : Option String) (value : String) : Option String :=
  if old.isSome || value.isEmpty then none else some value

def putDir (a : Arguments) (value : String) : Option Arguments :=
  (once a.dir value).map fun dir => { a with dir := some dir }

def putOut (a : Arguments) (value : String) : Option Arguments :=
  (once a.out value).map fun out => { a with out := some out }

/-- Sets an option without a value, which is given once at most. -/
def putFlag (a : Arguments) (option : String) : Option Arguments :=
  if option = "--pretty" then if a.pretty then none else some { a with pretty := true }
  else if option = "--deny-warnings" then
    if a.denyWarnings then none else some { a with denyWarnings := true }
  else none

/-- An argument that is no value: an option, or the end of the options. -/
def isOption (argument : String) : Bool :=
  argument.startsWith "-" && argument ≠ "-"

/-- The value of the option for the file, if it stands in the same argument. -/
def outValue? (argument : String) : Option String :=
  let start := outOption ++ "="
  if argument.startsWith start then some (argument.drop start.length).toString else none

/-- Reads arguments; after the end of the options all of them are values. -/
def read (a : Arguments) : List String → Option Arguments
  | [] => some a
  | "--" :: values => values.foldlM putDir a
  | argument :: rest =>
    if !isOption argument then (a.putDir argument).bind fun a => a.read rest
    else if argument = outOption then
      match rest with
      | value :: rest =>
        if isOption value then none else (a.putOut value).bind fun a => a.read rest
      | [] => none
    else match outValue? argument with
      | some value => (a.putOut value).bind fun a => a.read rest
      | none       => (a.putFlag argument).bind fun a => a.read rest

end Arguments

namespace Command

/-- The command that a list of arguments names, if they are right. -/
def ofArguments? : List String → Option Command
  | "compile" :: rest => do
    let a ← Arguments.read {} rest
    return .compile (← a.dir) a.out a.pretty a.denyWarnings
  | "lint" :: rest => do
    let a ← Arguments.read {} rest
    if a.out.isSome || a.pretty then none
    return .lint (← a.dir) a.denyWarnings
  | _ => none

def dir : Command → String
  | .compile dir _ _ _ => dir
  | .lint dir _        => dir

/-- Whether lints make the command fail. -/
def denyWarnings : Command → Bool
  | .compile _ _ _ deny => deny
  | .lint _ deny        => deny

end Command

end Adventure.CommandLine
