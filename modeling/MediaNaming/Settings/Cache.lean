import MediaNaming.Log.Record
import MediaNaming.Settings.Location
import MediaNaming.Settings.Writer
import MediaNaming.Toml.Document
import MediaNaming.Volume.Change
/-!
# Loading and saving settings

Settings that have been loaded are kept until they are forgotten or another file is named. A
file that is not there stands for the defaults. A failure to read leaves what is kept as it was.
-/

namespace MediaNaming

/-- Settings that have been loaded, with a number that tells them from others. -/
structure Loaded where
  settings : Settings
  source : Path
  serial : Nat

/-- The settings that are kept. -/
structure Cache where
  current : Option Loaded
  /-- The settings made so far. -/
  made : Nat

/-- What comes of loading. -/
structure Loading where
  outcome : Except Failure Loaded
  cache : Cache
  logs : List Log.Record

/-- What comes of saving. -/
structure Saving where
  outcome : Except Failure Path
  volume : Volume
  logs : List Log.Record

namespace Settings

/-- The report on a file that cannot be loaded. -/
def loadReport (source : Path) (f : Failure) : Log.Record :=
  .plain .error ("Failed to load configuration from " ++ source.text ++ ": " ++ f.message)

/-- The settings in the octets of a file. Octets that are not UTF-8 and numbers that are too
long are not reported in the log. -/
def ofOctets (source : Path) (bs : List UInt8) : Log.Traced Settings :=
  match Text.Utf8.decode? bs with
  | .error flaw => .fail (.octets flaw)
  | .ok cs =>
    match Toml.read cs with
    | .error .malformed => ⟨.error .badSettings, [loadReport source .badSettings]⟩
    | .error (.longNumber n) => .fail (.number (.tooLong n))
    | .ok table =>
      let unknown := unknownKeys table
      ⟨.ok (ofTable table),
        if unknown.isEmpty then []
        else [.plain .warning
          ("Ignoring unknown configuration keys: " ++ Text.joined ", " unknown)]⟩

/-- Reads settings from a file, or takes the defaults if there is none. -/
def ofFile (v : Volume) (cwd source : Path) : Log.Traced Settings :=
  match v.exists? cwd source with
  | .error f => .fail f
  | .ok false => .ok default
  | .ok true =>
    match v.read? cwd source with
    | .error f => if f.kind.isSystem then ⟨.error f, [loadReport source f]⟩ else .fail f
    | .ok bs => ofOctets source bs

end Settings

namespace Cache

/-- Nothing loaded yet. -/
def empty : Cache := ⟨none, 0⟩

/-- Forgets what is kept. -/
def reset (c : Cache) : Cache :=
  { c with current := none }

/-- The kept settings, if they answer a request for a file. -/
def answer? (c : Cache) (file : Option Path) : Option Loaded :=
  match c.current, file with
  | none, _ => none
  | some l, none => some l
  | some l, some p => if p = l.source then some l else none

/-- Reads a file and keeps what it gives. -/
def loadFrom (c : Cache) (v : Volume) (cwd source : Path) : Loading :=
  let found := Settings.ofFile v cwd source
  match found.outcome with
  | .error f => ⟨.error f, c, found.logs⟩
  | .ok settings =>
    let l : Loaded := ⟨settings, source, c.made⟩
    ⟨.ok l, ⟨some l, c.made + 1⟩, found.logs⟩

/-- Loads settings, from the named file or from the usual one. -/
def load (c : Cache) (s : Surroundings) (v : Volume) (file : Option Path) : Loading :=
  match c.answer? file with
  | some l => ⟨.ok l, c, []⟩
  | none =>
    match file with
    | some p => c.loadFrom v s.cwd p
    | none =>
      match s.configFile v with
      | .error f => ⟨.error f, c, []⟩
      | .ok p => c.loadFrom v s.cwd p

end Cache

namespace Settings

/-- A failure to save, which is reported if the operating system refused. -/
def refuseSaving (v : Volume) (f : Failure) : Saving :=
  ⟨.error f, v,
    if f.kind.isSystem then
      [.plain .error ("Failed to save configuration: " ++ f.message)]
    else []⟩

/-- Writes settings to a file and makes the directories above it. -/
def saveTo (settings : Settings) (v : Volume) (cwd target : Path) : Saving :=
  match settings.render with
  | .error f => refuseSaving v f
  | .ok text =>
    let making := v.makeDirectories cwd target.parent
    match making.failure with
    | some f => refuseSaving making.volume f
    | none =>
      match making.volume.write? cwd target text with
      | .error f => refuseSaving making.volume f
      | .ok w =>
        ⟨.ok target, w, [.plain .info ("Configuration saved to " ++ target.text)]⟩

/-- Writes settings to the named file or to the usual one. -/
def save (settings : Settings) (s : Surroundings) (v : Volume) (target : Option Path) : Saving :=
  match target with
  | some p => settings.saveTo v s.cwd p
  | none =>
    match s.configFile v with
    | .error f => ⟨.error f, v, []⟩
    | .ok p => settings.saveTo v s.cwd p

end Settings

end MediaNaming
