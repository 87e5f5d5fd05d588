import MediaNaming.Plan.Resolution
/-!
# Planning many files

Files are planned one after another, and the log tells where planning starts and ends. A failure
stops it; the files left out before stay known.
-/

namespace MediaNaming

/-- The resolutions of paths in order, up to a failure. -/
structure Sweep where
  resolutions : List Resolution
  stop : Option Failure
  logs : List Log.Record

/-- What comes of planning. -/
structure Planning where
  outcome : Except Failure Plan
  skipped : List Skipped
  logs : List Log.Record

namespace Planner

/-- Resolves paths in order. -/
def sweep (pl : Planner) (v : Volume) (scheme : Scheme) : List Value → Sweep
  | [] => ⟨[], none, []⟩
  | path :: rest =>
    let first := pl.resolve v scheme path
    match first.outcome with
    | .error f => ⟨[], some f, first.logs⟩
    | .ok r =>
      let more := sweep pl v scheme rest
      ⟨r :: more.resolutions, more.stop, first.logs ++ more.logs⟩

/-- The record at the start of planning. -/
def startRecord (total : Nat) : Log.Record :=
  .summary .planStart ("Planning names for " ++ Number.text total ++ " file(s)") total 0 0

/-- The record at the end of planning. -/
def endRecord (total succeeded skipped : Nat) : Log.Record :=
  .summary .planComplete
    ("Planned " ++ Number.text succeeded ++ " of " ++ Number.text total ++ " file(s), skipped " ++
      Number.text skipped) total succeeded skipped

/-- Plans the paths of a list. -/
def planAll (pl : Planner) (v : Volume) (scheme : Scheme) (paths : List Value) : Planning :=
  let s := pl.sweep v scheme paths
  let skipped := Resolution.skips s.resolutions
  let logs := startRecord paths.length :: s.logs
  match s.stop with
  | some f => ⟨.error f, skipped, logs⟩
  | none =>
    ⟨.ok ⟨Resolution.entries s.resolutions, true⟩, skipped,
      logs ++ [endRecord paths.length (Resolution.names s.resolutions).length skipped.length]⟩

/-- Plans whatever a caller hands in, which has to be a list or a tuple. -/
def plan (pl : Planner) (v : Volume) (scheme : Scheme) (paths : Value) : Planning :=
  match paths with
  | .list ps => pl.planAll v scheme ps
  | .tuple ps => pl.planAll v scheme ps
  | other => ⟨.error (.notPaths other.kindName), [], []⟩

end Planner

end MediaNaming
