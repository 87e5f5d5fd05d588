import MediaNaming.Volume.Query
import MediaNaming.Text.Blank
/-!
# Where settings and logs live

Both live below the root of the project: the nearest directory above the program with a marker
in it, or else the working directory. A variable of the environment can name another
configuration file.
-/

namespace MediaNaming

/-- Where a program runs. -/
structure Surroundings where
  /-- The working directory. -/
  cwd : Path
  homes : Path.Homes
  /-- The file of the program that looks for the root. -/
  program : Path
  /-- The configuration file that the environment names. -/
  configured : Option String
  /-- The log file that is used without configuration. -/
  standardLog : Path

namespace Surroundings

/-- What marks the root of a project. -/
def markers : List String :=
  ["pyproject.toml", ".git"]

/-- Whether one of some names exists in a directory. -/
def hasMarker (v : Volume) (cwd dir : Path) : List String → Except Failure Bool
  | [] => .ok false
  | name :: rest => do
    if ← v.exists? cwd (dir.child name) then return true else hasMarker v cwd dir rest

/-- A path and those above it. -/
def lineage (p : Path) : List Path :=
  ((List.range (p.parts.length + 1)).reverse).map fun n => { p with parts := p.parts.take n }

/-- The first marked directory of a list. -/
def firstMarked (v : Volume) (cwd : Path) : List Path → Except Failure Path
  | [] => .ok cwd
  | dir :: rest => do
    if ← hasMarker v cwd dir markers then return dir else firstMarked v cwd rest

/-- The root of the project of a program. -/
def projectRoot (s : Surroundings) (v : Volume) : Except Failure Path := do
  let file ← v.resolve? s.cwd s.program
  firstMarked v s.cwd (lineage file.parent)

/-- The configuration file that is read when no other is named. -/
def configFile (s : Surroundings) (v : Volume) : Except Failure Path :=
  let named := Text.strip (s.configured.getD "")
  if named = "" then do
    let root ← s.projectRoot v
    v.resolve? s.cwd ((root.child "config").child "config.toml")
  else
    match Path.expandHome? s.homes (Path.ofText named) with
    | none => .error .unknownHome
    | some p => v.resolve? s.cwd p

/-- The log file below the root of the project. -/
def logFile (s : Surroundings) (v : Volume) : Except Failure Path := do
  let root ← s.projectRoot v
  v.resolve? s.cwd ((root.child "logs").child "media_renamer.log")

end Surroundings

end MediaNaming
