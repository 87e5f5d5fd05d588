import MediaNaming.Volume.Walk
/-!
# Questions about a file tree

What a program can ask about paths. A question whose path cannot be followed is answered with
no, except that some of them report a path that the operating system refuses to look at.
-/

namespace MediaNaming.Volume

/-- The entry that a path names, with every link followed. -/
def look (v : Volume) (cwd p : Path) : Except Refusal Entry :=
  match v.find .followed cwd p with
  | .error r => .error r
  | .ok l => .ok ((v.entry? l).getD .directory)

/-- Whether a refusal only says that nothing is there. -/
def Refusal.isAbsence : Refusal → Bool
  | nullInPath | code .missing | code .noDirectory | code .linkLoop => true
  | code _ => false

/-- Asks about the entry that a path names; no for absent entries, a failure for a path that is
refused. -/
def ask (v : Volume) (cwd p : Path) (question : Entry → Bool) : Except Failure Bool :=
  match v.look cwd p with
  | .ok e => .ok (question e)
  | .error r => if r.isAbsence then .ok false else .error (r.failure p)

/-- Whether an entry is a regular file. -/
def isRegular : Entry → Bool
  | .file _ => true
  | _ => false

/-- Whether a path names a regular file; no whenever it cannot be followed. -/
def isFile (v : Volume) (cwd p : Path) : Bool :=
  match v.look cwd p with
  | .ok e => isRegular e
  | .error _ => false

/-- Whether a path names anything. -/
def exists? (v : Volume) (cwd p : Path) : Except Failure Bool :=
  v.ask cwd p fun _ => true

/-- Whether a path names a directory. -/
def isDirectory? (v : Volume) (cwd p : Path) : Except Failure Bool :=
  v.ask cwd p (· = .directory)

/-- Whether two paths name the same file or directory; no if either cannot be followed. -/
def sameFile? (v : Volume) (cwd p q : Path) : Except Failure Bool :=
  match v.find .followed cwd p with
  | .error .nullInPath => .error .nullInPath
  | .error _ => .ok false
  | .ok l =>
    match v.find .followed cwd q with
    | .error .nullInPath => .error .nullInPath
    | .error _ => .ok false
    | .ok m => .ok (v.identity l = v.identity m)

/-- The names of a directory in the order of their characters. -/
def sortedNames (v : Volume) (dir : Location) : List String :=
  (v.namesIn dir).mergeSort fun a b => !decide (b < a)

/-- Keeps the paths that name regular files. -/
def regularFiles (v : Volume) (cwd : Path) : List Path → Except Failure (List Path)
  | [] => .ok []
  | p :: ps =>
    match v.ask cwd p isRegular with
    | .error f => .error f
    | .ok here =>
      (regularFiles v cwd ps).map fun rest => if here then p :: rest else rest

/-- The regular files directly inside a directory, sorted by name. -/
def filesIn? (v : Volume) (cwd p : Path) : Except Failure (List Path) :=
  match v.find .followed cwd p with
  | .error r => .error (r.failure p)
  | .ok dir =>
    if v.entry? dir = some .directory then
      v.regularFiles cwd ((v.sortedNames dir).map p.child)
    else .error (.system .noDirectory p.text none)

/-- The number of the file that a path names. -/
def fileId? (v : Volume) (cwd p : Path) : Option Nat :=
  match v.look cwd p with
  | .ok (.file id) => some id
  | _ => none

/-- The octets of the file that a path names. -/
def read? (v : Volume) (cwd p : Path) : Except Failure (List UInt8) :=
  match v.look cwd p with
  | .error r => .error (r.failure p)
  | .ok (.file id) => .ok (v.content id)
  | .ok _ => .error (.system .isDirectory p.text none)

/-- The target of the link that a path names; its last name is not followed. -/
def linkTarget? (v : Volume) (cwd p : Path) : Option String :=
  match v.find .kept cwd p with
  | .error _ => none
  | .ok l =>
    match v.entry? l with
    | some (.link target) => some target
    | _ => none

/-- The outcome of following links for good: the path reached, and whether a chain of links came
back to itself, in which case the rest of the path is as it was written. -/
structure Real where
  path : Path
  looped : Bool

/-- A chain of links that came back to itself, with the rest of the names behind it. -/
def Real.loop (p : Path) (rest : List String) : Real :=
  ⟨p.join (Text.joined "/" rest), true⟩

/-- Follows every link in `names` from a path without links. What does not exist is kept as it
is. The links in `opened`, by their paths, are being followed already; `fuel` bounds their
number. -/
def real (v : Volume) (cwd : Path) (fuel : Nat) (opened : List Path) (here : Path)
    (names : List String) : Real :=
  match names with
  | [] => ⟨here, false⟩
  | name :: rest =>
    if name = "" || name = "." then real v cwd fuel opened here rest
    else if name = ".." then real v cwd fuel opened here.above rest
    else
      match v.linkTarget? cwd (here.child name) with
      | none => real v cwd fuel opened (here.child name) rest
      | some target =>
        match fuel with
        | 0 => .loop (here.child name) rest
        | k + 1 =>
          if opened.contains (here.child name) then .loop (here.child name) rest
          else
            let base := if target.toList.head? = some '/' then ⟨.root, []⟩ else here
            let inner := real v cwd k (here.child name :: opened) base (Text.pieces '/' target)
            if inner.looped then .loop inner.path rest
            else real v cwd (k + 1) opened inner.path rest
termination_by (fuel, names.length)

/-- The absolute path without links that a path leads to, whether or not anything is there. -/
def resolve? (v : Volume) (cwd p : Path) : Except Failure Path :=
  if Path.hasNull p.text then .error .nullInPath
  else
    let base : Path := if p.anchor = .relative then ⟨.relative, []⟩ else ⟨.root, []⟩
    let q := Path.absolute cwd (v.real cwd pathLimit [] base p.parts).path
    match v.find .followed cwd q with
    | .error (.code .linkLoop) => .error (.linkLoop q.text)
    | _ => .ok q

end MediaNaming.Volume
