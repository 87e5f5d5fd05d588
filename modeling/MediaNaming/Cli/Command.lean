import MediaNaming.Cli.Arguments
import MediaNaming.Cli.Display
import MediaNaming.Log.Handlers
import MediaNaming.Renamer
import MediaNaming.Settings.Cache
import MediaNaming.Settings.Derived
/-!
# Running a command

A run reads its command line, loads the settings, sets up the log, and plans; the command
`rename` then applies the plan. The exit code is 0 if every file was planned and renamed, 1 if
not or if something failed, 2 for a wrong command line and 130 if the user stopped the run.
-/

namespace MediaNaming.Cli

/-- What a run starts from. -/
structure Context where
  surroundings : Surroundings
  disk : Disk
  /-- The metadata of the file at an absolute path. -/
  lookup : Volume → Path → Log.Traced Metadata
  /-- How many calls there is room for inside the one that writes a value. -/
  room : Nat
  /-- The time that log lines carry. -/
  stamp : String
  /-- Whether another handler, besides the console and the log file, puts every record into
  words. -/
  listened : Bool

/-- What a run changes. -/
structure World where
  volume : Volume
  cache : Cache
  handlers : Log.Handlers

/-- The outcome of a part of a run. -/
structure Stage (α : Type) where
  outcome : Except Failure α
  world : World
  logs : List Log.Record
  /-- The lines on the screen. -/
  output : List String

namespace Stage

/-- A stage that does nothing but give a value. -/
def ok {α : Type} (w : World) (a : α) : Stage α :=
  ⟨.ok a, w, [], []⟩

/-- Goes on from the world that a stage leaves behind; a failure ends the run. -/
def andThen {α β : Type} (s : Stage α) (next : World → α → Stage β) : Stage β :=
  match s.outcome with
  | .error f => ⟨.error f, s.world, s.logs, s.output⟩
  | .ok a =>
    let t := next s.world a
    ⟨t.outcome, t.world, s.logs ++ t.logs, s.output ++ t.output⟩

/-- A stage that puts lines on the screen and gives a value. -/
def printing {α : Type} (w : World) (a : α) (lines : Except Failure (List String)) : Stage α :=
  match lines with
  | .error f => ⟨.error f, w, [], []⟩
  | .ok ls => ⟨.ok a, w, [], ls⟩

/-- A computation that leaves the world as it is. -/
def ofTraced {α : Type} (w : World) (t : Log.Traced α) : Stage α :=
  ⟨t.outcome, w, t.logs, []⟩

/-- Writes the records of a stage to the log file that is open at its end. -/
def written {α : Type} (c : Context) (s : Stage α) : Stage α :=
  let (handlers, volume) := s.world.handlers.write s.world.volume c.stamp s.logs
  { s with world := { s.world with volume := volume, handlers := handlers } }

end Stage

/-- The paths that a command works on: a directory stands for the regular files in it. -/
def expandPaths (v : Volume) (cwd : Path) : List String → Except Failure (List Path)
  | [] => .ok []
  | s :: rest => do
    let p := Path.ofText s
    let block ← if ← v.isDirectory? cwd p then v.filesIn? cwd p else pure [p]
    return block ++ (← expandPaths v cwd rest)

/-- The level from which the console shows records. -/
def Request.level (r : Request) : Log.Level :=
  if r.quiet then .error else if r.verbose then .debug else .info

/-- Loads the settings. -/
def loadSettings (c : Context) (w : World) : Stage Settings :=
  let loading := w.cache.load c.surroundings w.volume none
  ⟨loading.outcome.map (·.settings), { w with cache := loading.cache }, loading.logs, []⟩

/-- What the settings name as the log file, or the standard one. -/
def logSetting (c : Context) (s : Settings) : Value :=
  if s.logFile.isTruthy then s.logFile else .path c.surroundings.standardLog

/-- Sets up the console and the log file. -/
def installLog (c : Context) (r : Request) (w : World) (s : Settings) : Stage Unit :=
  let setup := Log.Handlers.install c.surroundings w.volume (logSetting c s) r.level .debug
  let w := { w with volume := setup.volume, handlers := setup.handlers }
  match setup.failure with
  | some f => ⟨.error f, w, [], []⟩
  | none => .ok w ()

/-- Loads the settings, sets up the log and finds the paths of a command. -/
def prepare (c : Context) (r : Request) (w : World) : Stage (Settings × List Path) :=
  (loadSettings c w).andThen fun w settings =>
    (installLog c r w settings).andThen fun w _ =>
      ⟨(expandPaths w.volume c.surroundings.cwd r.paths).map fun ps => (settings, ps), w, [], []⟩

/-- The configured substitute. The warning about one that is not acceptable has to be put into
words for a console that shows it and for a listener. Without either, a warning that has no words
is lost on its way to the log file. -/
def configuredSubstitute (c : Context) (r : Request) (s : Settings) : Log.Traced Substitute :=
  if !c.listened && r.quiet && s.substituteCharacter.outcome.toOption.isNone then .ok .default
  else s.substituteCharacter

/-- The substitute of a run: the one on the command line, or the configured one. -/
def runSubstitute (c : Context) (r : Request) (s : Settings) : Log.Traced Substitute :=
  match r.substitute.bind fun v => v.text?.bind Substitute.ofText? with
  | some sub => .ok sub
  | none => configuredSubstitute c r s

/-- The renamer of a run. -/
def buildRenamer (c : Context) (r : Request) (s : Settings) : Log.Traced Renamer := do
  let substitute ← runSubstitute c r s
  let tokens ← s.schemeTokens
  return ⟨tokens, substitute, []⟩

/-- The scheme on the command line; null stands for the configured one, which a scheme without
tokens gives way to. -/
def schemeArgument (r : Request) : Log.Traced Value :=
  match r.scheme with
  | none | some .nothing | some (.text "") => .ok .null
  | some (.text text) =>
    let tokens := Scheme.parse text
    let warning := Log.Record.plain .warning
      ("Scheme " ++ Text.quoted text ++ " is empty; using the configured scheme")
    ⟨.ok (Scheme.toValue tokens), if tokens.isEmpty then [warning] else []⟩

/-- The files as they are read for a plan: the log file already holds that planning has begun,
which matters if it is one of them. -/
def volumeForPlan (c : Context) (paths : List Path) (w : World) : Volume :=
  (w.handlers.write w.volume c.stamp [Planner.startRecord paths.length]).2

/-- Plans names for the paths of a run, and shows them. -/
def planStage (c : Context) (r : Request) (paths : List Path) (renamer : Renamer) (scheme : Value)
    (w : World) : Stage Entries :=
  let planning :=
    (renamer.generate c.disk c.lookup c.room (volumeForPlan c paths w)
      (.list (paths.map .path)) scheme).1
  let planned : Log.Traced Plan := ⟨planning.outcome, planning.logs⟩
  (Stage.ofTraced w planned).andThen fun w plan =>
    .printing w plan.entries
      (if r.quiet then .ok [] else Display.planLines plan.entries planning.skipped r.dryRun)

/-- Applies a plan, unless nothing is to be changed. -/
def renameStage (c : Context) (r : Request) (entries : Entries) (w : World) :
    Stage (Option (List Outcome)) :=
  if r.dryRun then .ok w none
  else
    let applied := Rename.executeEntries c.disk w.volume entries
    ⟨applied.outcome.map some, { w with volume := applied.volume }, applied.logs, []⟩

/-- Whether every file was planned, and renamed if it was to be. -/
def isSuccess (total planned : Nat) (outcomes : Option (List Outcome)) : Bool :=
  planned = total &&
    (match outcomes with
    | none => true
    | some os => os.all Outcome.isRenamed)

/-- The summary of a run, and whether it was a success. -/
def summaryStage (r : Request) (paths : List Path) (entries : Entries)
    (outcomes : Option (List Outcome)) (w : World) : Stage Bool :=
  let total := paths.eraseDups.length
  .printing w (isSuccess total entries.length outcomes)
    (if r.quiet then .ok [] else Display.summaryLines total entries.length outcomes)

/-- Carries out a request. -/
def carryOut (c : Context) (r : Request) (w : World) : Stage Bool :=
  (prepare c r w).andThen fun w (settings, paths) =>
    ((Stage.ofTraced w (buildRenamer c r settings)).written c).andThen fun w renamer =>
      ((Stage.ofTraced w (schemeArgument r)).written c).andThen fun w scheme =>
        ((planStage c r paths renamer scheme w).written c).andThen fun w entries =>
          ((renameStage c r entries w).written c).andThen fun w outcomes =>
            summaryStage r paths entries outcomes w

/-- The exit code of a failure, with the record that reports it. -/
def failureReport (f : Failure) : Nat × Log.Record :=
  if f.isInterrupt then (130, .plain .info "Operation cancelled by user")
  else if f.kind.isRenaming then (1, .plain .error f.message)
  else
    (1, { Log.Record.plain .error ("An unexpected error occurred: " ++ f.message) with
      failure := some f })

/-- How a run ends. -/
structure Ending where
  exit : Nat
  world : World
  logs : List Log.Record
  /-- The lines on the screen. -/
  output : List String

/-- Ends a run and reports a failure. -/
def finish (c : Context) (s : Stage Bool) : Ending :=
  match s.outcome with
  | .ok success => ⟨if success then 0 else 1, s.world, s.logs, s.output⟩
  | .error f =>
    let (exit, report) := failureReport f
    let last : Stage Unit := Stage.written c ⟨.ok (), s.world, [report], []⟩
    ⟨exit, last.world, s.logs ++ [report], s.output⟩

/-- Runs a request. -/
def run (c : Context) (r : Request) (w : World) : Ending :=
  finish c (carryOut c r w)

/-- Runs the command on a command line, unless the command line ends it. -/
def process (c : Context) (argv : List String) (w : World) : Except Stop Ending :=
  (Request.read argv).map fun r => run c r w

end MediaNaming.Cli
