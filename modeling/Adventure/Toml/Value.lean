import Adventure.Number.Binary64

/-!
# TOML values

The value of a TOML document, a table, with what is needed to build it: a table remembers how it came
to be, since that decides what may still be added to it.
-/

namespace Adventure.Toml

inductive TableOrigin where
  /-- By a header of its own, or as the root. -/
  | header
  /-- As a table around that of a header. -/
  | outer
  /-- By a key with dots. -/
  | dotted
  /-- Between braces. Nothing can be added to it. -/
  | inline
  deriving DecidableEq, Repr

inductive Value where
  | string (s : String)
  | integer (n : Int)
  | float (x : Number.Binary64)
  | boolean (b : Bool)
  /-- A date, a time or both. -/
  | datetime
  | array (elements : List Value)
  /-- An array of tables, each with a header of its own. It is open for more. -/
  | tables (elements : List (List (String × Value)))
  | table (origin : TableOrigin) (entries : List (String × Value))
  deriving Repr, Inhabited

/-- The entries of a table, in the order in which they were added. -/
abbrev Entries := List (String × Value)

/-- A table that is being built. -/
structure Table where
  origin : TableOrigin := .header
  entries : Entries := []

namespace Table

def get? (t : Table) (key : String) : Option Value :=
  t.entries.lookup key

/-- Replaces the value of a key, or adds an entry at the end. -/
def put (t : Table) (key : String) (v : Value) : Table :=
  let replace : String × Value → String × Value := fun e => if e.1 = key then (key, v) else e
  { t with
    entries :=
      if (t.get? key).isSome then t.entries.map replace else t.entries ++ [(key, v)] }

def remove (t : Table) (key : String) : Table :=
  { t with entries := t.entries.filter fun e => e.1 ≠ key }

def value (t : Table) : Value :=
  .table t.origin t.entries

/-- Changes the table at the end of a path. Tables that are missing on the way are added, with the
origin `created`; of an array of tables the last one is meant. A key with dots leads neither into a
table with a header nor into one between braces. -/
def modifyAt (created : TableOrigin) (f : Table → Option Table) : List String → Table → Option Table
  | [],          t => f t
  | key :: path, t => do
    match t.get? key with
    | none => return t.put key (← modifyAt created f path ⟨created, []⟩).value
    | some (.table origin entries) =>
      if origin = .inline || (created = .dotted && origin = .header) then none
      return t.put key (← modifyAt created f path ⟨origin, entries⟩).value
    | some (.tables ts) =>
      let last ← modifyAt created f path ⟨.header, ts.getLastD []⟩
      return t.put key (.tables (ts.dropLast ++ [last.entries]))
    | some _ => none

/-- Adds the entry of a key with dots. A key without dots adds to any table but one that keys with
dots made, and a key with dots only to such a one. -/
def define (path : List String) (key : String) (v : Value) (t : Table) : Option Table :=
  modifyAt .dotted (fun t =>
    if (t.origin = .dotted) = path.isEmpty || (t.get? key).isSome then none
    else some (t.put key v)) path t

/-- Opens the table of a header. It must not have a header already. -/
def openTable (path : List String) (key : String) (root : Table) : Option Table :=
  modifyAt .outer (fun t =>
    match t.get? key with
    | none                    => some (t.put key (.table .header []))
    | some (.table .outer es) => some ((t.remove key).put key (.table .header es))
    | some _                  => none) path root

/-- Opens the next table of an array of tables. -/
def openElement (path : List String) (key : String) (root : Table) : Option Table :=
  modifyAt .outer (fun t =>
    match t.get? key with
    | none              => some (t.put key (.tables [[]]))
    | some (.tables ts) => some (t.put key (.tables (ts ++ [[]])))
    | some _            => none) path root

end Table

end Adventure.Toml
