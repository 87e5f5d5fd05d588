import MediaNaming.Cli.Command
import Std.Time.Format
/-!
# The program

The outer layer around `Cli.process`. It looks at the directories that a run can touch and makes
a volume of them, lets the command run on that volume, and then does on the disk what the log of
the run tells: it shows the lines, writes the log file and renames the files. Nothing is decided
here.
-/

namespace MediaNaming.Program

/-- The names in a directory, each with whether it is a directory itself; none if it cannot be
listed. -/
def listing (dir : Path) : IO (List (String × Bool)) := do
  let here ← IO.currentDir
  try
    let found ← (here / dir.text).readDir
    found.toList.mapM fun entry => return (entry.fileName, ← entry.path.isDir)
  catch _ => return []

/-- Adds a directory with its entries to a volume. Files get their octets later. -/
def addListing (v : Volume) (dir : Path) (names : List (String × Bool)) : Volume :=
  let here : Location := dir.parts.reverse
  names.foldl (fun v (name, isDir) =>
      if (v.entry? (name :: here)).isSome then v
      else if isDir then v.add (name :: here) .directory
      else v.addFile (name :: here) [])
    (v.makeDirectories ⟨.root, []⟩ dir).volume

/-- Adds directories of the disk to a volume; what is no directory adds nothing. -/
def addDirectories (v : Volume) (dirs : List Path) : IO Volume :=
  dirs.eraseDups.foldlM (fun v dir => do
    let names ← listing dir
    return if names.isEmpty then v else addListing v dir names) v

/-- The surroundings of this process. -/
def readSurroundings : IO Surroundings := do
  let cwd := Path.ofText (← IO.currentDir).toString
  let home := ((← IO.getEnv "HOME").map Path.ofText).getD cwd
  return {
    cwd := cwd
    homes := ⟨home, []⟩
    program := Path.ofText (← IO.appPath).toString
    configured := ← IO.getEnv "MEDIA_RENAMER_CONFIG"
    standardLog := (cwd.child "logs").child "media_renamer.log" }

/-- The directories that a run can look into: those of the paths, the working directory, and
those in which settings and logs are looked for. -/
def directories (s : Surroundings) (argv : List String) : List Path :=
  let named := (argv ++ s.configured.toList).map fun word => Path.absolute s.cwd (Path.ofText word)
  let roots := Surroundings.lineage s.program.parent ++ [s.cwd]
  named ++ named.map Path.parent ++ roots ++
    roots.flatMap fun root => [root.child "config", root.child "logs"]

/-- Puts the octets of the configuration file into a volume. -/
def readConfiguration (s : Surroundings) (v : Volume) : IO Volume := do
  match s.configFile v with
  | .error _ => return v
  | .ok file =>
    match v.fileId? s.cwd file with
    | none => return v
    | some id => return v.setContent id (← IO.FS.readBinFile file.text).toList

/-- The time that log lines carry, to the millisecond. -/
def timeStamp : IO String :=
  return (← Std.Time.PlainDateTime.now).format "uuuu-MM-dd HH:mm:ss,SSS"

/-- What a run starts from. The formats of media files are not read, so no file has any tags. -/
def contextOf (s : Surroundings) (v : Volume) (stamp : String) : Cli.Context where
  surroundings := { s with standardLog := (s.logFile v).toOption.getD s.standardLog }
  disk := Disk.direct s.cwd
  lookup v p := Registry.default.lookupMetadata (fun _ => Media.blank) v s.cwd p
  room := 1000
  stamp := stamp
  listened := false

/-- Continues the log file with the lines of a run. What the file held before is not read, so it
never counts as full here. -/
def writeLog (w : Cli.World) : IO Unit :=
  match w.handlers.file with
  | none => return ()
  | some file => do
    IO.FS.createDirAll file.path.parent.text
    let handle ← IO.FS.Handle.mk file.path.text .append
    handle.putStr (Text.Utf8.text ((file.id.map w.volume.content).getD []))

/-- Does on the disk what a run has done on its volume. -/
def carryOut (e : Cli.Ending) : IO Unit := do
  for line in e.output do
    IO.println line
  for record in e.logs do
    for line in (e.world.handlers.consoleLines record).toOption.getD [] do
      IO.eprintln line
  writeLog e.world
  for (source, destination) in e.logs.filterMap Rename.moved? do
    IO.FS.rename source.text destination.text

/-- Tells why a command line is not carried out. -/
def explain : Cli.Stop → IO UInt32
  | .usage program message => do
    IO.eprintln (program ++ ": error: " ++ message)
    return 2
  | .help lines => do
    for line in lines do
      IO.println line
    return 0
  | .version => do
    IO.println Cli.versionText
    return 0

end MediaNaming.Program

open MediaNaming in
/-- Runs the command on the words of the command line. -/
def main (argv : List String) : IO UInt32 := do
  let s ← Program.readSurroundings
  let seen ← Program.addDirectories .empty (Program.directories s argv)
  let volume ← Program.readConfiguration s seen
  let context := Program.contextOf s volume (← Program.timeStamp)
  match Cli.process context argv ⟨volume, .empty, .standard⟩ with
  | .error stop => Program.explain stop
  | .ok ending => do
    Program.carryOut ending
    return ending.exit.toUInt32
