import Adventure.Files.Path

/-!
# Trees of files

The files that a program can see, as a tree of directories. A directory lists its entries in any
order.
-/

namespace Adventure.Files

/-- A file or a directory. -/
inductive Tree where
  /-- A file with its text, if its content is a text. -/
  | file (text : Option (List Char))
  | directory (entries : List (String × Tree))
  deriving Inhabited

/-- Why a file cannot be read or written. -/
inductive Problem where
  | notFound
  | notADirectory
  | isADirectory
  | notText
  deriving DecidableEq, Repr

def Problem.message : Problem → String
  | .notFound      => "No such file or directory (os error 2)"
  | .notADirectory => "Not a directory (os error 20)"
  | .isADirectory  => "Is a directory (os error 21)"
  | .notText       => "stream did not contain valid UTF-8"

namespace Tree

/-- What lies below a list of names. -/
def at? : Tree → List String → Option Tree
  | t,             []      => some t
  | .file _,       _ :: _  => none
  | .directory es, n :: ns => (es.lookup n).bind fun t => t.at? ns

/-- Puts a tree in the place of a name, or after all other entries. -/
def putEntry (name : String) (t : Tree) (es : List (String × Tree)) : List (String × Tree) :=
  if (es.lookup name).isSome then es.map fun e => if e.1 = name then (name, t) else e
  else es ++ [(name, t)]

/-- The tree with another one below a list of names. -/
def putAt (new : Tree) : List String → Tree → Tree
  | [],      _             => new
  | n :: ns, .directory es =>
    .directory (putEntry n (putAt new ns ((es.lookup n).getD (.directory []))) es)
  | n :: ns, .file _       => .directory [(n, putAt new ns (.directory []))]

/-- From the place with the names `here` on to the next component of a path. -/
def enter (root : Tree) (here : List String) (name : String) : Except Problem (List String) :=
  match root.at? here with
  | none                => .error .notFound
  | some (.file _)      => .error .notADirectory
  | some (.directory es) =>
    if isHere name then .ok here
    else if name == ".." then .ok here.dropLast
    else if (es.lookup name).isSome then .ok (here ++ [name])
    else .error .notFound

/-- The names of the place to which a path leads. -/
def resolve (root : Tree) (path : String) : Except Problem (List String) :=
  (components path).foldlM root.enter []

def find (root : Tree) (path : String) : Except Problem Tree := do
  let names ← root.resolve path
  match root.at? names with
  | some t => return t
  | none   => throw .notFound

def isDirectory (root : Tree) (path : String) : Bool :=
  match root.find path with
  | .ok (.directory _) => true
  | _                  => false

def isFile (root : Tree) (path : String) : Bool :=
  match root.find path with
  | .ok (.file _) => true
  | _             => false

def readText (root : Tree) (path : String) : Except Problem (List Char) := do
  match ← root.find path with
  | .file (some text) => return text
  | .file none        => throw .notText
  | .directory _      => throw .isADirectory

/-- Writes a text to a path, where there may be a file already. -/
def writeText (root : Tree) (path : String) (text : List Char) : Except Problem Tree := do
  let names := components path
  let dir ← names.dropLast.foldlM root.enter []
  let name := names.getLastD ""
  match root.at? dir with
  | some (.directory es) =>
    if isHere name || name == ".." then throw .isADirectory
    match es.lookup name with
    | some (.directory _) => throw .isADirectory
    | _ => return putAt (.file (some text)) (dir ++ [name]) root
  | _ => throw .notADirectory

end Tree

end Adventure.Files
