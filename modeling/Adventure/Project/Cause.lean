import Adventure.Project.Compile

/-!
# Causes of defects

A defect of a project may come from a defect deeper in one of its files. Its trace holds the message
of each, from the outermost to the innermost one.
-/

namespace Adventure.Project

/-- The message about a malformed file, where its format has one that does not tell a position. -/
def malformedText (format : String) : String :=
  "<" ++ format ++ ">"

def yamlText (f : Yaml.Fault) : String :=
  f.message?.getD (malformedText "yaml")

def settingsText : Settings.Fault → String
  | .malformed  => malformedText "toml"
  | .mismatch m => m.message

def usedWithTrace (d : Draft.UsedWithDefect) : List String :=
  d.message ::
    match d with
    | .action _ f => [f.message]
    | _           => []

def roomFileTrace (d : RoomFile.Defect) : List String :=
  d.message ::
    match d with
    | .missingMetadata _   => []
    | .metadata _ f        => [yamlText f]
    | .itemShape _ m       => [m.message]
    | .item _ d            => [d.message]
    | .usedWithShape _ _ m => [m.message]
    | .usedWith _ _ d      => usedWithTrace d
    | .room _ d            => [d.message]

/-- The messages about a defect of a project. -/
def Defect.trace (d : Defect) : List String :=
  d.message ::
    match d with
    | .missingRooms _                     => []
    | .missingOrigin _                    => []
    | .unreadable _ problem               => [problem.message]
    | .unlistable _ problem               => [problem.message]
    | .roomFile _ d                       => roomFileTrace d
    | .settings (.unreadable _ problem)   => [problem.message]
    | .settings (.invalid _ fault)        => [settingsText fault]

end Adventure.Project
