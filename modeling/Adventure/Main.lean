import Adventure.CommandLine.Run

/-!
# The command line program

Loads what a command needs of the files on disk into a tree, runs the command on it, and carries out
what it leaves behind.
-/

namespace Adventure.CommandLine

open Files

def loadFile (path : String) : IO Tree := do
  let content ← IO.FS.readBinFile path
  return .file ((String.fromUTF8? content).map String.toList)

/-- The entry of a directory at a path. -/
def entryOf (path : String) : IO.FS.DirEntry :=
  { root := path, fileName := "" }

/-- Loads a file, a directory with the files in it, or nothing. Directories further down stay empty. -/
def load? (depth : Nat) (path : String) : IO (Option Tree) := do
  if ← (entryOf path).root.isDir then
    match depth with
    | 0 => return some (.directory [])
    | depth + 1 => do
      let mut entries := []
      for e in ← (entryOf path).root.readDir do
        if let some t ← load? depth (join path e.fileName) then
          entries := (e.fileName, t) :: entries
      return some (.directory entries)
  else if ← (entryOf path).root.pathExists then return some (← loadFile path)
  else return none

/-- The paths of the directories on the way to a path, and the path itself. -/
def pathsTo (path : String) : List (List String) :=
  let names := components path
  (List.range names.length).map fun n => names.take (n + 1)

/-- The place of a path in a tree. -/
def placeOf (names : List String) : List String :=
  names.foldl (fun here n =>
    if isHere n then here else if n == ".." then here.dropLast else here ++ [n]) []

/-- Adds what lies at a path, and on the way to it, to a tree. -/
def addPath (depth : Nat) (files : Tree) (path : String) : IO Tree := do
  let mut files := files
  for names in pathsTo path do
    let place := placeOf names
    let isEnd := names.length = (components path).length
    if (files.at? place).isNone || isEnd then
      let name := "/".intercalate names
      if let some t ← load? (if isEnd then depth else 0) (if name.isEmpty then "/" else name) then
        files := Tree.putAt t place files
  return files

/-- The files that a command reads and writes. -/
def filesOf (command : Command) : IO Tree := do
  let files ←
    match command with
    | .compile _ (some out) _ _ => addPath 0 (.directory []) out
    | _                         => pure (.directory [])
  addPath 2 files command.dir

/-- Carries out what a command leaves behind. -/
def finish (o : Outcome) : IO UInt32 := do
  IO.print o.output
  IO.eprint o.errors
  if let some (path, text) := o.written then
    IO.FS.writeFile path text
  return o.status.toUInt32

end Adventure.CommandLine

open Adventure.CommandLine in
/-- Runs the command that the arguments name. -/
def main (args : List String) : IO UInt32 := do
  match Command.ofArguments? args with
  | some command => finish (run (← filesOf command) command)
  | none         => finish (runArguments (.directory []) args)
