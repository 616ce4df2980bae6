import Adventure.Files.Tree
import Adventure.Log
import Adventure.Markdown.Options
import Adventure.Mismatch
import Adventure.Toml.Reading

/-!
# Settings

A project may have a file with settings, which tell the extensions of Markdown that it uses. What is
not set keeps its default.
-/

namespace Adventure.Project

open Files Toml

structure Settings where
  markdown : Markdown.Options := {}
  deriving DecidableEq, Repr

namespace Settings

/-- Why a text holds no settings. -/
inductive Fault where
  /-- The text is not TOML. -/
  | malformed
  | mismatch (m : Mismatch)
  deriving DecidableEq, Repr

/-! ### Shape -/

/-- What a value is. -/
def found : Value → Found
  | .string s  => .string s
  | .integer n => .integer n
  | .float x   => .float x
  | .boolean b => .boolean b
  | .datetime  => .map
  | .array _   => .sequence
  | .tables _  => .sequence
  | .table _ _ => .map

def readBoolean : Value → Except Mismatch Bool
  | .boolean b => .ok b
  | v          => .error (.wrongType (found v) "a boolean")

/-- A flag among the Markdown options. -/
structure Flag where
  name : String
  put : Markdown.Options → Bool → Markdown.Options

/-- The Markdown options by name, in their order. -/
def flags : List Flag := [
  ⟨"strikethrough", fun o strikethrough => { o with strikethrough }⟩,
  ⟨"subscript", fun o subscript => { o with subscript }⟩,
  ⟨"tables", fun o tables => { o with tables }⟩,
  ⟨"footnotes", fun o footnotes => { o with footnotes }⟩,
  ⟨"definition_lists", fun o definitionLists => { o with definitionLists }⟩,
  ⟨"heading_attributes", fun o headingAttributes => { o with headingAttributes }⟩,
  ⟨"smart_punctuation", fun o smartPunctuation => { o with smartPunctuation }⟩,
  ⟨"emoji", fun o emoji => { o with emoji }⟩]

/-- The mismatch of a key that names no flag. -/
def unknownFlag (key : String) : Mismatch :=
  .unknownField key (flags.map Flag.name)

def putFlag (o : Markdown.Options) (entry : String × Value) : Except Mismatch Markdown.Options :=
  match flags.find? fun f => f.name == entry.1 with
  | none   => .error (unknownFlag entry.1)
  | some f => f.put o <$> readBoolean entry.2

def putInOrder : List Flag → Markdown.Options → List Value → Except Mismatch Markdown.Options
  | f :: fs, o, v :: vs => do putInOrder fs (f.put o (← readBoolean v)) vs
  | _,       o, _       => .ok o

/-- The key that a date has in place of entries. -/
def datetimeKey : String := "$__toml_private_datetime"

/-- The Markdown options: a table of flags, or an array of them in their order. -/
def readOptions : Value → Except Mismatch Markdown.Options
  | .table _ es => es.foldlM putFlag {}
  | .array vs   => putInOrder flags {} vs
  | .tables ts  => putInOrder flags {} (ts.map (.table .header))
  | .datetime   => .error (unknownFlag datetimeKey)
  | v           => .error (.wrongType (found v) "struct MarkdownOptions")

def markdownKey : String := "markdown"

def putEntry (s : Settings) (entry : String × Value) : Except Mismatch Settings :=
  if entry.1 = markdownKey then do return { s with markdown := ← readOptions entry.2 }
  else .error (.unknownField entry.1 [markdownKey])

def ofText (text : List Char) : Except Fault Settings :=
  match Toml.ofText? text with
  | none    => .error .malformed
  | some es => (es.foldlM putEntry {}).mapError .mismatch

/-! ### Files -/

def fileName : String := "paignion.toml"

/-- Why settings cannot be loaded. -/
inductive Defect where
  | unreadable (path : String) (problem : Problem)
  | invalid (path : String) (fault : Fault)
  deriving DecidableEq, Repr

def Defect.message : Defect → String
  | .unreadable path _ => "could not read config file " ++ path
  | .invalid path _    => "invalid config file " ++ path

/-- The settings of the project in a directory. -/
def load (files : Tree) (dir : String) : Logged Defect Settings :=
  let path := join dir fileName
  match files.readText path with
  | .error .notFound => do
    .tell .info ("no " ++ fileName ++ " in " ++ dir ++ ", using default settings")
    return {}
  | .error problem => .fail (.unreadable path problem)
  | .ok text => do
    let settings ← .check (.invalid path) (ofText text)
    .tell .info ("loaded settings from " ++ path)
    return settings

end Settings

end Adventure.Project
