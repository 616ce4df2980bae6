/-!
# Paths

A path is a text of names with slashes between them. Empty names and single dots stand for the
directory before them, and two dots for the one around it.
-/

namespace Adventure.Files

/-- The names of a path. -/
def components (path : String) : List String :=
  (path.toList.splitOn '/').map String.ofList

/-- The path of `name` in a directory. -/
def join (dir name : String) : String :=
  match dir.toList.getLast? with
  | none   => name
  | some c => if c = '/' then dir ++ name else dir ++ "/" ++ name

/-- A name that stands for the directory before it. -/
def isHere (name : String) : Bool :=
  name == "" || name == "."

/-- The name of the file at the end of a path, if the path ends in a name. -/
def fileName? (path : String) : Option String :=
  ((components path).filter fun c => !isHere c).getLast?.filter (· ≠ "..")

/-- A file name before and after its last dot. A dot at the start does not count. -/
def splitName (name : String) : String × Option String :=
  let cs := name.toList
  let after := (cs.reverse.takeWhile (· ≠ '.')).reverse
  let before := cs.take (cs.length - after.length - 1)
  if before.isEmpty then (name, none) else (String.ofList before, some (String.ofList after))

/-- The file name at the end of a path without its extension; empty if there is none. -/
def stem (path : String) : String :=
  (fileName? path).elim "" fun name => (splitName name).1

def extension? (name : String) : Option String :=
  (splitName name).2

end Adventure.Files
