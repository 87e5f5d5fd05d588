import MediaNaming.Volume.Query
/-!
# Changes of a file tree

Renaming, making directories, writing and removing, with the refusals of the operating system in
its own order.
-/

namespace MediaNaming.Volume

/-- An entry as an operation on its directory sees it: the directory, and the entry's name. -/
structure Spot where
  dir : Location
  name : String
  deriving DecidableEq, Repr

/-- The location of a spot. -/
def Spot.location (s : Spot) : Location :=
  s.name :: s.dir

/-- The directory that a path's last name is looked up in, with that name. A path without a name
of its own gives none. -/
def spot? (v : Volume) (cwd p : Path) : Except SystemCode (Option Spot) :=
  match v.walk .followed linkLimit (start cwd p) p.parts.dropLast with
  | .error c => .error c
  | .ok dir =>
    match v.entry? dir, p.parts.getLast? with
    | none, _ => .error .missing
    | some .directory, some name => .ok (if name = ".." then none else some ⟨dir, name⟩)
    | some .directory, none => .ok none
    | some _, _ => .error .noDirectory

/-- The entry at a spot. -/
def entryAt? (v : Volume) (s : Spot) : Except SystemCode (Option Entry) :=
  if nameLimit < octetLength s.name then .error .nameTooLong else .ok (v.entry? s.location)

/-- Moves an entry to a spot, or says why not. Nothing happens if both are the same file. -/
def moveTo (v : Volume) (source target : Spot) : Except SystemCode Volume :=
  match v.entryAt? source with
  | .error c => .error c
  | .ok none => .error .missing
  | .ok (some moved) =>
    match v.entryAt? target with
    | .error c => .error c
    | .ok there =>
      if source.location.isSuffixOf target.dir then .error .invalid
      else if target.location.isSuffixOf source.dir then .error .notEmpty
      else if v.identity source.location = v.identity target.location then .ok v
      else
        match moved, there with
        | _, none => .ok (v.move source.location target.location)
        | .directory, some .directory =>
          if (v.namesIn target.location).isEmpty then
            .ok (v.move source.location target.location)
          else .error .notEmpty
        | .directory, some _ => .error .noDirectory
        | _, some .directory => .error .isDirectory
        | _, some _ => .ok (v.move source.location target.location)

/-- Renames inside the operating system. -/
def renameCode (v : Volume) (cwd p q : Path) : Except SystemCode Volume :=
  if pathLimit ≤ octetLength p.text || pathLimit ≤ octetLength q.text then .error .nameTooLong
  else
    match v.spot? cwd p with
    | .error c => .error c
    | .ok source =>
      match v.spot? cwd q with
      | .error c => .error c
      | .ok target =>
        match source, target with
        | some s, some t => v.moveTo s t
        | _, _ => .error .busy

/-- Renames the entry that a path names; its last name is not followed. -/
def rename? (v : Volume) (cwd p q : Path) : Except Failure Volume :=
  if Path.hasNull p.text || Path.hasNull q.text then .error .nullInPath
  else
    match v.renameCode cwd p q with
    | .ok w => .ok w
    | .error c => .error (.system c p.text (some q.text))

/-- Makes one directory. -/
def makeDirectory (v : Volume) (cwd p : Path) : Except Refusal Volume :=
  if Path.hasNull p.text then .error .nullInPath
  else if pathLimit ≤ octetLength p.text then .error (.code .nameTooLong)
  else
    match v.spot? cwd p with
    | .error c => .error (.code c)
    | .ok none => .error (.code .alreadyThere)
    | .ok (some s) =>
      match v.entryAt? s with
      | .error c => .error (.code c)
      | .ok (some _) => .error (.code .alreadyThere)
      | .ok none => .ok (v.add s.location .directory)

/-- What comes of making directories: those above a refused one stay. -/
structure Making where
  volume : Volume
  failure : Option Failure

/-- What becomes of a refusal to make a directory: nothing, if the directory is there. -/
def settle (v : Volume) (cwd p : Path) (r : Refusal) : Making :=
  match r with
  | .nullInPath => ⟨v, some .nullInPath⟩
  | .code c =>
    match v.isDirectory? cwd p with
    | .error f => ⟨v, some f⟩
    | .ok true => ⟨v, none⟩
    | .ok false => ⟨v, some (.system c p.text none)⟩

/-- Makes the last `count` directories of a path that are missing. -/
def makeParents (v : Volume) (cwd : Path) : Nat → Path → Making
  | 0, p => ⟨v, some (.system .missing p.text none)⟩
  | count + 1, p =>
    match v.makeDirectory cwd p with
    | .ok w => ⟨w, none⟩
    | .error (.code .missing) =>
      if p.parts.isEmpty then ⟨v, some (.system .missing p.text none)⟩
      else
        let above := makeParents v cwd count p.parent
        match above.failure with
        | some f => ⟨above.volume, some f⟩
        | none =>
          match above.volume.makeDirectory cwd p with
          | .ok w => ⟨w, none⟩
          | .error (.code .missing) => ⟨above.volume, some (.system .missing p.text none)⟩
          | .error r => above.volume.settle cwd p r
    | .error r => v.settle cwd p r

/-- Makes a directory and those above it. -/
def makeDirectories (v : Volume) (cwd p : Path) : Making :=
  v.makeParents cwd (p.parts.length + 1) p

/-- Opens a file for writing, makes it if it is missing, and gives its octets to `change`. -/
def update? (v : Volume) (cwd p : Path) (change : List UInt8 → List UInt8) :
    Except Failure Volume :=
  match v.reach .made cwd p with
  | .error r => .error (r.failure p)
  | .ok l =>
    match v.entry? l with
    | none => .ok (v.addFile l (change []))
    | some (.file id) => .ok (v.setContent id (change (v.content id)))
    | some _ => .error (.system .isDirectory p.text none)

/-- Gives a file a new text. -/
def write? (v : Volume) (cwd p : Path) (text : String) : Except Failure Volume :=
  v.update? cwd p fun _ => Text.Utf8.octets text

/-- Continues a file with a text. -/
def append? (v : Volume) (cwd p : Path) (text : String) : Except Failure Volume :=
  v.update? cwd p fun bs => bs ++ Text.Utf8.octets text

end MediaNaming.Volume
