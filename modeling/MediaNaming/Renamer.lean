import MediaNaming.Plan.Batch
import MediaNaming.Rename
import MediaNaming.Scheme.Text
import MediaNaming.Settings.Basic
/-!
# Renamers

A renamer keeps a scheme and a substitute, plans names with them and applies plans. A scheme for
one call takes the place of the kept one, unless it has no tokens.
-/

namespace MediaNaming

/-- What a renamer keeps. -/
structure Renamer where
  scheme : Scheme
  substitute : Substitute
  /-- The files that the last planning left out. -/
  lastSkipped : List Skipped

namespace Renamer

/-- The scheme of a renamer that was given none. -/
def defaultScheme : Scheme :=
  Scheme.parse Settings.defaultScheme

/-- The scheme that a value stands for; null stands for the default. -/
def schemeOr (otherwise : Scheme) : Value → Except Failure Scheme
  | .null => .ok otherwise
  | v => Scheme.compile v

/-- The substitute that a value stands for; one that counts as nothing stands for the default. -/
def substituteOr (substitute : Value) : Except Failure Substitute :=
  if substitute.isTruthy then Substitute.ofValue substitute else .ok Substitute.default

/-- Makes a renamer. -/
def make (scheme substitute : Value) : Except Failure Renamer := do
  let tokens ← schemeOr defaultScheme scheme
  return ⟨tokens, ← substituteOr substitute, []⟩

/-- Keeps another scheme. -/
def setScheme (r : Renamer) (raw : Value) : Except Failure Renamer :=
  (Scheme.compile raw).map fun tokens => { r with scheme := tokens }

/-- Keeps another substitute. -/
def setSubstitute (r : Renamer) (v : Value) : Except Failure Renamer :=
  (Substitute.ofValue v).map fun s => { r with substitute := s }

/-- The scheme for one call: texts and empty schemes do not replace the kept one. -/
def schemeFor (r : Renamer) : Value → Except Failure Scheme
  | .null | .text _ | .octets _ => .ok r.scheme
  | v => (Scheme.compile v).map fun tokens => if tokens.isEmpty then r.scheme else tokens

/-- How a renamer plans. -/
def planner (r : Renamer) (disk : Disk) (lookup : Volume → Path → Log.Traced Metadata)
    (room : Nat) : Planner :=
  ⟨disk, lookup, r.substitute, room⟩

/-- Plans names for paths. A scheme for this call that cannot be gone through ends it before
anything is planned. -/
def generate (r : Renamer) (disk : Disk) (lookup : Volume → Path → Log.Traced Metadata)
    (room : Nat) (v : Volume) (paths scheme : Value) : Planning × Renamer :=
  match r.schemeFor scheme with
  | .error f => (⟨.error f, [], []⟩, r)
  | .ok tokens =>
    let planning := (r.planner disk lookup room).plan v tokens paths
    (planning, { r with lastSkipped := planning.skipped })

end Renamer

end MediaNaming
