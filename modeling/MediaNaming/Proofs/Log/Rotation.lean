import MediaNaming.Log.Rotation
import MediaNaming.Proofs.Text.Stretches
import MediaNaming.Proofs.Volume.Growth
import MediaNaming.Proofs.Volume.Renaming
/-!
# What writing to a log file leaves

A line that is written concerns the file that is open and, if the file is full, the places of the
log files that have been put away. Every other entry stays, and so do the octets of every other
file: what one line leaves, any number of them leave. As long as the file stays below its limit no
entry goes at all.
-/

namespace MediaNaming

namespace Volume

variable {v w : Volume} {l m s t : Location} {source target : Spot} {id : Nat}

/-! ## Entries elsewhere -/

/-- Taking an entry away leaves what does not lie at it or below it. -/
theorem entry?_remove (apart : ¬m <:+ l) : entry? (v.remove m) l = v.entry? l := by
  by_cases root : l = []
  · rw [root, entry?_root, entry?_root]
  · rw [entry?_of_ne_root _ root, entry?_of_ne_root _ root, remove]
    have other : m.isSuffixOf l = false := by
      rw [← Bool.not_eq_true, List.isSuffixOf_iff_suffix]
      exact apart
    exact lookup_filter_key (p := fun k => !m.isSuffixOf k) (by rw [other, Bool.not_false])
      v.entries

theorem suffix_relocate (below : s <:+ l) : t <:+ relocate s t l := by
  rw [relocate, if_pos (List.isSuffixOf_iff_suffix.mpr below)]
  exact List.suffix_append _ _

theorem relocate_of_apart (apart : ¬s <:+ l) : relocate s t l = l := by
  rw [relocate, if_neg]
  simpa using apart

/-- Where neither the entry that is moved nor its target lies, nothing changes. This holds of any
list of entries, also of one that is no tree. -/
theorem entry?_move_apart (notSource : ¬s <:+ l) (notTarget : ¬t <:+ l) :
    entry? (v.move s t) l = v.entry? l := by
  by_cases root : l = []
  · rw [root, entry?_root, entry?_root]
  · have moved : ∀ entries : List (Location × Entry),
        (entries.map fun e => (relocate s t e.1, e.2)).lookup l = entries.lookup l := by
      intro entries
      induction entries with
      | nil => rfl
      | cons first rest ih =>
          obtain ⟨key, e⟩ := first
          have same : (l == relocate s t key) = (l == key) := by
            by_cases below : s <:+ key
            · have notThere : l ≠ relocate s t key := by
                intro equal
                exact notTarget (equal ▸ suffix_relocate below)
              have notKey : l ≠ key := by
                intro equal
                exact notSource (equal ▸ below)
              rw [beq_eq_false_iff_ne.mpr notThere, beq_eq_false_iff_ne.mpr notKey]
            · rw [relocate_of_apart below]
          rw [List.map_cons, List.lookup_cons, List.lookup_cons, same, ih]
    have notTaken : l ≠ t := by
      intro equal
      exact notTarget (equal ▸ List.suffix_rfl)
    rw [entry?_of_ne_root _ root, entry?_of_ne_root _ root, move, moved]
    exact lookup_filter_key (p := fun k => decide (k ≠ t)) (by simpa using notTaken) v.entries

/-- Nothing is left where the moved entry was. -/
theorem entry?_move_left (inside : s ≠ []) (apart : ¬t <:+ s) :
    entry? (v.move s t) s = none := by
  rw [entry?_of_ne_root _ inside, move, List.lookup_eq_none_iff]
  intro e member
  obtain ⟨before, -, same⟩ := List.mem_map.mp member
  rw [← same]
  apply bne_iff_ne.mpr
  intro equal
  dsimp only at equal
  by_cases below : s <:+ before.1
  · exact apart (equal ▸ suffix_relocate below)
  · rw [relocate_of_apart below] at equal
    exact below (equal ▸ List.suffix_rfl)

theorem moveTo_ok (moved : v.moveTo source target = .ok w) :
    w = v ∨ w = v.move source.location target.location := by
  simp only [moveTo] at moved
  grind

theorem removeAt_ok (removed : v.removeAt source = .ok w) : w = v.remove source.location := by
  simp only [removeAt] at removed
  grind

theorem displace_ok (displaced : v.displace source target = .ok w) :
    ∃ u, (u = v ∨ u = v.remove target.location) ∧
      (w = u ∨ w = u.move source.location target.location) := by
  simp only [displace] at displaced
  split at displaced
  next => exact ⟨v, Or.inl rfl, moveTo_ok displaced⟩
  next =>
    split at displaced
    next => cases displaced
    next u removed => exact ⟨u, Or.inr (removeAt_ok removed), moveTo_ok displaced⟩

theorem lookAt?_of_noLink (named : Path.IsName source.name)
    (fits : octetLength source.name ≤ nameLimit)
    (directory : v.entry? source.dir = some .directory)
    (noLink : ∀ target, v.entry? source.location ≠ some (.link target)) :
    v.lookAt? source = v.entry? source.location := by
  rw [lookAt?, walk_name named fits directory noLink]
  rfl

/-! ## Opening -/

/-- A name that is looked up, and not one that stands for a directory already reached. -/
def OwnName (name : String) : Prop :=
  name ≠ "" ∧ name ≠ "." ∧ name ≠ ".."

theorem ownName_of_named {name : String}
    (named : ¬(decide (name = "") || decide (name = ".")) = true) (notUp : name ≠ "..") :
    OwnName name := by
  simp only [Bool.or_eq_true, decide_eq_true_eq, not_or] at named
  exact ⟨named.1, named.2, notUp⟩

/-- Paths lead to names that are looked up. -/
theorem walk_ownNames {last : LastName} {links : Nat} {here : Location} {names : List String}
    (reached : v.walk last links here names = .ok l) (own : ∀ name ∈ here, OwnName name) :
    ∀ name ∈ l, OwnName name := by
  fun_induction walk v last links here names with
  | case1 =>
      cases reached
      exact own
  | case2 | case3 | case6 | case7 | case9 | case11 => cases reached
  | case4 links here name rest there directory skipped ih => exact ih reached own
  | case5 links here rest there directory named ih =>
      exact ih reached fun name member => own name (List.mem_of_mem_tail member)
  | case8 links here name rest there directory named notUp notMade fits absent last =>
      cases reached
      exact List.forall_mem_cons.mpr ⟨ownName_of_named named notUp, own⟩
  | case10 links here name rest there directory named notUp notMade fits target link last =>
      cases reached
      exact List.forall_mem_cons.mpr ⟨ownName_of_named named notUp, own⟩
  | case12 here name rest there directory named notUp notMade fits target link notLast k ih =>
      apply ih reached
      rw [targetStart]
      split
      next => simp
      next => exact own
  | case13 links here name rest there directory named notUp notMade fits e notLink present ih =>
      exact ih reached (List.forall_mem_cons.mpr ⟨ownName_of_named named notUp, own⟩)

/-- A file at a spot where no link stands is opened there, and made there if it is missing. -/
theorem openAt_ok (own : OwnName source.name)
    (noLink : ∀ target, v.entry? source.location ≠ some (.link target))
    (opened : v.openAt source = .ok (id, w)) :
    v.entry? source.location = some (.file id) ∧ w = v ∨
      v.entry? source.location = none ∧ id = v.freshId ∧ w = v.addFile source.location [] := by
  have place : ∀ l, v.walk .made linkLimit source.dir [source.name] = .ok l →
      l = source.location := by
    intro l reached
    rw [walk] at reached
    simp only [own.1, own.2.1, own.2.2] at reached
    cases there : v.entry? (source.name :: source.dir) with
    | none => grind [Spot.location]
    | some e =>
        cases e with
        | link target => exact absurd there (noLink target)
        | directory | file id => grind [walk, Spot.location]
  simp only [openAt] at opened
  split at opened
  next => cases opened
  next l reached =>
    rw [place l reached] at opened
    split at opened
    next absent =>
      cases opened
      exact Or.inr ⟨absent, rfl, rfl⟩
    next there =>
      cases opened
      exact Or.inl ⟨there, rfl⟩
    next => cases opened

/-- Opening a file leaves all entries, wherever it is made. -/
theorem openAt_keeps (opened : v.openAt source = .ok (id, w)) {e : Entry}
    (there : v.entry? l = some e) : w.entry? l = some e := by
  simp only [openAt] at opened
  split at opened
  next => cases opened
  next k reached =>
    split at opened
    next absent =>
      cases opened
      have free : entry? (v.setContent v.freshId []) k = none := absent
      exact entry?_add_of_present free _ there
    next =>
      cases opened
      exact there
    next => cases opened

/-- A character takes one octet or more. -/
theorem length_le_octetLength (text : String) : text.length ≤ octetLength text := by
  have chars : ∀ cs : List Char, cs.length ≤ (Text.Utf8.encode cs).length := by
    intro cs
    induction cs with
    | nil => exact Nat.le_refl _
    | cons c cs ih =>
        have one := List.length_pos_iff.mpr (Text.Utf8.encodeChar_ne_nil c)
        rw [Text.Utf8.encode_cons, List.length_append, List.length_cons]
        omega
  rw [← String.length_toList]
  exact chars text.toList

end Volume

namespace Log.LogFile

variable {f g h : LogFile} {v w u : Volume} {l : Location} {id n : Nat}

/-! ## Places -/

/-- Whether a location is the place of a log file or of one that has been put away, or lies below
such a place. -/
def Covers (f : LogFile) (l : Location) : Prop :=
  ∃ n ≤ backupCount, (f.backup n).location <:+ l

/-- Whether a file is the one that records are written to, or that would be opened for them. -/
def Owns (f : LogFile) (v : Volume) (id : Nat) : Prop :=
  f.id = some id ∨ v.entry? f.place.location = some (.file id)

/-- A log file at whose place no link stands, so that it is opened there and nowhere else. -/
structure IsSound (f : LogFile) (v : Volume) : Prop where
  named : Volume.OwnName f.place.name
  noLink : ∀ target, v.entry? f.place.location ≠ some (.link target)

theorem covers_place (below : f.place.location <:+ l) : f.Covers l :=
  ⟨0, Nat.zero_le _, below⟩

/-- The place of the open file lies apart from those of the files that have been put away. -/
theorem backup_apart (f : LogFile) (n : Nat) :
    ¬(f.backup (n + 1)).location <:+ f.place.location := by
  apply Volume.siblings_apart
  intro same
  have lengths : (f.place.name ++ "." ++ Number.text (n + 1)).length = f.place.name.length :=
    congrArg String.length same
  rw [String.length_append, String.length_append] at lengths
  have dot : ".".length = 1 := rfl
  omega

/-! ## What one line leaves -/

/-- What a write leaves as it was, and what it leaves to be done by the next one. -/
structure Confined (f : LogFile) (v : Volume) (g : LogFile) (w : Volume) : Prop where
  place : g.place = f.place
  entries : ∀ l, ¬f.Covers l → w.entry? l = v.entry? l
  octets : ∀ id ∈ v.contents.map Prod.fst, ¬f.Owns v id →
    id ∈ w.contents.map Prod.fst ∧ w.content id = v.content id ∧ ¬g.Owns w id
  noLink : (∀ target, v.entry? f.place.location ≠ some (.link target)) →
    ∀ target, w.entry? f.place.location ≠ some (.link target)

namespace Confined

theorem refl (f : LogFile) (v : Volume) : Confined f v f v where
  place := rfl
  entries := fun _ _ => rfl
  octets := fun _ recorded foreign => ⟨recorded, rfl, foreign⟩
  noLink := fun noLink => noLink

theorem covers_iff (confined : Confined f v g w) : g.Covers l ↔ f.Covers l := by
  have same : ∀ n, g.backup n = f.backup n := by
    intro n
    cases n <;> simp only [backup, confined.place]
  simp only [Covers, same]

theorem sound (confined : Confined f v g w) (sound : f.IsSound v) : g.IsSound w := by
  constructor
  · rw [confined.place]
    exact sound.named
  · rw [confined.place]
    exact confined.noLink sound.noLink

theorem trans (first : Confined f v g w) (second : Confined g w h u) : Confined f v h u where
  place := second.place.trans first.place
  entries := by
    intro l outside
    rw [second.entries l (fun covered => outside (first.covers_iff.mp covered)),
      first.entries l outside]
  octets := by
    intro id recorded foreign
    obtain ⟨still, same, stillForeign⟩ := first.octets id recorded foreign
    obtain ⟨later, sameLater, foreignLater⟩ := second.octets id still stillForeign
    exact ⟨later, sameLater.trans same, foreignLater⟩
  noLink := by
    intro noLink
    have between := first.noLink noLink
    have after := second.noLink
    rw [first.place] at after
    exact after between

/-- A change of the entries alone, by which no file comes to the place of the open one. -/
theorem of_contents (place : g.place = f.place) (closed : ∀ id, g.id = some id → f.id = some id)
    (contents : w.contents = v.contents)
    (entries : ∀ l, ¬f.Covers l → w.entry? l = v.entry? l)
    (atPlace : w.entry? f.place.location = v.entry? f.place.location ∨
      w.entry? f.place.location = none) : Confined f v g w where
  place := place
  entries := entries
  octets := by
    intro id recorded foreign
    rw [contents, Volume.content, contents]
    refine ⟨recorded, rfl, ?_⟩
    rintro (held | there)
    · exact foreign (Or.inl (closed id held))
    · rw [place] at there
      rcases atPlace with same | gone
      · exact foreign (Or.inr (same ▸ there))
      · rw [gone] at there
        cases there
  noLink := by
    intro noLink target
    rcases atPlace with same | gone
    · rw [same]
      exact noLink target
    · simp [gone]

end Confined

/-- Opening the file at its place. -/
theorem openAt_confined (sound : f.IsSound v) (opened : v.openAt f.place = .ok (id, w)) :
    Confined f v { f with id := some id } w := by
  rcases Volume.openAt_ok sound.named sound.noLink opened with ⟨there, rfl⟩ | ⟨absent, rfl, rfl⟩
  · constructor
    · rfl
    · exact fun _ _ => rfl
    · intro other recorded foreign
      refine ⟨recorded, rfl, ?_⟩
      rintro (held | atPlace)
      · cases held
        exact foreign (Or.inr there)
      · exact foreign (Or.inr atPlace)
    · exact fun noLink => noLink
  · have free : Volume.entry? (v.setContent v.freshId []) f.place.location = none := absent
    have placed : ∀ l, Volume.entry? (v.addFile f.place.location []) l =
        if l = f.place.location then some (.file v.freshId) else v.entry? l :=
      fun l => Volume.entry?_add free _ l
    constructor
    · rfl
    · intro l outside
      rw [placed, if_neg]
      intro same
      exact outside (covers_place (same ▸ List.suffix_rfl))
    · intro other recorded foreign
      have old : other ≠ v.freshId := Nat.ne_of_lt (Volume.lt_freshId recorded)
      refine ⟨Volume.recorded_setContent recorded _ _, ?_, ?_⟩
      · exact (Volume.content_setContent v v.freshId other []).trans (if_neg old)
      · rintro (held | atPlace)
        · cases held
          exact old rfl
        · rw [placed, if_pos rfl] at atPlace
          cases atPlace
          exact old rfl
    · intro _ target
      rw [placed, if_pos rfl]
      simp

/-- Continuing the open file. -/
theorem extend_confined (held : f.id = some id) (v : Volume) (text : String) :
    Confined f v f (v.extend id text) where
  place := rfl
  entries := fun _ _ => rfl
  octets := by
    intro other recorded foreign
    have different : other ≠ id := by
      intro same
      exact foreign (Or.inl (same ▸ held))
    refine ⟨Volume.recorded_setContent recorded _ _, ?_, foreign⟩
    exact (Volume.content_setContent v id other _).trans (if_neg different)
  noLink := fun noLink => noLink

theorem held_confined (sound : f.IsSound v) (held : f.held v = .ok (id, w)) :
    Confined f v { f with id := some id } w := by
  rw [LogFile.held] at held
  split at held
  next k opened =>
    cases held
    rw [← opened]
    exact Confined.refl f v
  next => exact openAt_confined sound held

/-! ## Putting log files away -/

/-- What is put away changes two places, and nothing comes to the place of the open file. -/
theorem putAway_ok (away : f.putAway v n = .ok w) :
    w.contents = v.contents ∧
      (∀ l, ¬(f.backup n).location <:+ l → ¬(f.backup (n + 1)).location <:+ l →
        w.entry? l = v.entry? l) ∧
      (w.entry? f.place.location = v.entry? f.place.location ∨
        w.entry? f.place.location = none) := by
  rw [putAway] at away
  split at away
  next =>
    cases away
    exact ⟨rfl, fun _ _ _ => rfl, Or.inl rfl⟩
  next =>
    split at away
    next => cases away
    next =>
      obtain ⟨u, cleared, moved⟩ := Volume.displace_ok away
      have atTarget : ∀ l, ¬(f.backup (n + 1)).location <:+ l → u.entry? l = v.entry? l := by
        intro l apart
        rcases cleared with rfl | rfl
        · rfl
        · exact Volume.entry?_remove apart
      have same : u.contents = v.contents := by
        rcases cleared with rfl | rfl <;> rfl
      have elsewhere := atTarget f.place.location (f.backup_apart n)
      rcases moved with rfl | rfl
      · exact ⟨same, fun l _ apart => atTarget l apart, Or.inl elsewhere⟩
      · refine ⟨same, ?_, ?_⟩
        · intro l notSource notTarget
          rw [Volume.entry?_move_apart notSource notTarget, atTarget l notTarget]
        · cases n with
          | zero => exact Or.inr (Volume.entry?_move_left (List.cons_ne_nil _ _) (f.backup_apart 0))
          | succ n =>
              rw [Volume.entry?_move_apart (f.backup_apart n) (f.backup_apart (n + 1))]
              exact Or.inl elsewhere

theorem putAway_of_missing (missing : v.lookAt? (f.backup n) = none) : f.putAway v n = .ok v := by
  rw [putAway, missing]
  rfl

/-- A file whose next number is free gets it. -/
theorem putAway_of_file {name other : String} {dir : Location}
    (source : f.backup n = ⟨dir, name⟩) (target : f.backup (n + 1) = ⟨dir, other⟩)
    (named : Path.IsName name) (otherNamed : Path.IsName other)
    (fits : Volume.octetLength name ≤ Volume.nameLimit)
    (otherFits : Volume.octetLength other ≤ Volume.nameLimit)
    (short : Volume.octetLength f.path.text + 2 < Volume.pathLimit)
    (directory : v.entry? dir = some .directory)
    (there : v.entry? (name :: dir) = some (.file id)) (free : v.entry? (other :: dir) = none) :
    f.putAway v n = .ok (v.move (name :: dir) (other :: dir)) := by
  have found : v.lookAt? ⟨dir, name⟩ = some (.file id) := by
    rw [@Volume.lookAt?_of_noLink v ⟨dir, name⟩ named fits directory
      (by simp [Volume.Spot.location, there])]
    exact there
  have unfound : v.lookAt? ⟨dir, other⟩ = none := by
    rw [@Volume.lookAt?_of_noLink v ⟨dir, other⟩ otherNamed otherFits directory
      (by simp [Volume.Spot.location, free])]
    exact free
  rw [putAway, source, target, found, if_neg (by simp), if_neg (Nat.not_le.mpr short),
    Volume.displace, unfound]
  exact Volume.moveTo_of_file there free fits otherFits

/-- Putting log files away leaves all octets, also after a refusal on the way. -/
theorem turnOver_confined (f : LogFile) (v : Volume) (bound : n ≤ backupCount) :
    Confined f v { f with id := none } (f.turnOver v n).volume := by
  suffices moved : (f.turnOver v n).volume.contents = v.contents ∧
      (∀ l, ¬f.Covers l → (f.turnOver v n).volume.entry? l = v.entry? l) ∧
      ((f.turnOver v n).volume.entry? f.place.location = v.entry? f.place.location ∨
        (f.turnOver v n).volume.entry? f.place.location = none) from
    Confined.of_contents rfl (by simp) moved.1 moved.2.1 moved.2.2
  induction n generalizing v with
  | zero => exact ⟨rfl, fun _ _ => rfl, Or.inl rfl⟩
  | succ n ih =>
      rw [turnOver]
      split
      next => exact ⟨rfl, fun _ _ => rfl, Or.inl rfl⟩
      next w away =>
        obtain ⟨contents, entries, atPlace⟩ := putAway_ok away
        obtain ⟨restContents, restEntries, restPlace⟩ := ih w (Nat.le_of_succ_le bound)
        refine ⟨restContents.trans contents, ?_, ?_⟩
        · intro l outside
          rw [restEntries l outside, entries l]
          · exact fun below => outside ⟨n, Nat.le_of_succ_le bound, below⟩
          · exact fun below => outside ⟨n + 1, bound, below⟩
        · rcases restPlace with same | gone
          · rw [same]
            exact atPlace
          · exact Or.inr gone

/-- What one line leaves. -/
theorem put_confined (sound : f.IsSound v) (line : String) :
    Confined f v (f.put v line).1 (f.put v line).2 := by
  rw [put]
  split
  next => exact Confined.refl f v
  next id w held =>
    have opened := held_confined sound held
    split
    next =>
      have turned : Confined f v { f with id := none } (f.turnOver w backupCount).volume :=
        opened.trans (turnOver_confined { f with id := some id } w (Nat.le_refl _))
      dsimp only
      split
      next =>
        split
        next => exact turned
        next new u again =>
          have reopened := openAt_confined (turned.sound sound) again
          exact (turned.trans reopened).trans (extend_confined rfl u line)
      next => exact turned
    next => exact opened.trans (extend_confined rfl w line)

/-- What any number of lines leave. -/
theorem putAll_confined (sound : f.IsSound v) (lines : List String) :
    Confined f v (f.putAll v lines).1 (f.putAll v lines).2 := by
  induction lines generalizing f v with
  | nil => exact Confined.refl f v
  | cons line lines ih =>
      have first := put_confined sound line
      exact first.trans (ih (first.sound sound))

/-! ## Below the limit -/

/-- The number of octets in the file that records go to. -/
def size (f : LogFile) (v : Volume) : Nat :=
  match f.held v with
  | .error _ => 0
  | .ok (id, w) => (w.content id).length

/-- The number of octets that lines come to. -/
def weight : List String → Nat
  | [] => 0
  | line :: lines => Volume.octetLength line + weight lines

theorem weight_le_of_sublist {lines more : List String} (among : lines.Sublist more) :
    weight lines ≤ weight more := by
  induction among with
  | slnil => exact Nat.le_refl _
  | cons line _ ih => exact Nat.le_add_left_of_le ih
  | cons_cons line _ ih => exact Nat.add_le_add_left ih _

theorem isFull_eq_false {line : String}
    (room : (v.content id).length + Volume.octetLength line < sizeLimit) :
    f.isFull v id line = false := by
  have bound := Volume.length_le_octetLength line
  have notFull : ¬sizeLimit ≤ (v.content id).length + line.length := by omega
  simp [isFull, notFull]

theorem held_entries (sound : f.IsSound v) (held : f.held v = .ok (id, w))
    (other : l ≠ f.place.location) : w.entry? l = v.entry? l := by
  rw [LogFile.held] at held
  split at held
  next =>
    cases held
    rfl
  next =>
    rcases Volume.openAt_ok sound.named sound.noLink held with ⟨-, rfl⟩ | ⟨absent, -, rfl⟩
    · rfl
    · have free : Volume.entry? (v.setContent v.freshId []) f.place.location = none := absent
      exact (Volume.entry?_add free _ l).trans (if_neg other)

/-- A line that the file has room for only makes it longer. -/
theorem put_short {line : String} (sound : f.IsSound v)
    (room : f.size v + Volume.octetLength line < sizeLimit) :
    (∀ l, l ≠ f.place.location → Volume.entry? (f.put v line).2 l = v.entry? l) ∧
      (f.put v line).1.size (f.put v line).2 ≤ f.size v + Volume.octetLength line := by
  rw [put]
  split
  next => exact ⟨fun _ _ => rfl, Nat.le_add_right _ _⟩
  next id w held =>
    have sized : f.size v = (w.content id).length := by rw [size, held]
    rw [sized] at room
    rw [isFull_eq_false room, if_neg Bool.false_ne_true]
    refine ⟨fun l other => (held_entries sound held other : w.entry? l = v.entry? l), ?_⟩
    have longer : size { f with id := some id } (w.extend id line) =
        (w.content id ++ Text.Utf8.octets line).length := by
      rw [size, LogFile.held]
      dsimp only
      rw [Volume.extend, Volume.content_setContent, if_pos rfl]
    rw [longer, List.length_append, sized]
    exact Nat.le_refl _

theorem putAll_short {lines : List String} (sound : f.IsSound v)
    (room : f.size v + weight lines < sizeLimit) (other : l ≠ f.place.location) :
    Volume.entry? (f.putAll v lines).2 l = v.entry? l := by
  induction lines generalizing f v with
  | nil => rfl
  | cons line lines ih =>
      rw [weight] at room
      have confined := put_confined sound line
      obtain ⟨kept, grown⟩ : _ ∧ (f.put v line).1.size (f.put v line).2 ≤ _ :=
        put_short sound (by omega)
      have rest := ih (f := (f.put v line).1) (v := (f.put v line).2) (confined.sound sound)
        (by omega) (by rw [confined.place]; exact other)
      exact rest.trans (kept l other)

end Log.LogFile

end MediaNaming
