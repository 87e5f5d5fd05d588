import MediaNaming.Proofs.Rename.Local
/-!
# What a run can destroy

Applying a plan never overwrites a file that it can see, but it sees through symbolic links: a
link that leads to the source, or nowhere, does not count as taken. `execute_keeps_iff` says
exactly when a run destroys something. A file is lost if and only if a link takes the place of its
only entry, and an entry is lost if and only if another one takes its place; then one of the two is
a link.
-/

namespace MediaNaming.Rename

open MediaNaming.Path (IsName)
open Volume (Renamed)

variable {cwd : Path} {v w : Volume} {plan : Entries} {t : Turn}

/-- The location of the entry that the last name of a path stands for. A link there is not
followed. -/
def entryOf? (v : Volume) (cwd p : Path) : Option Location :=
  match v.spot? cwd p with
  | .ok (some s) => some s.location
  | _ => none

namespace Turn

/-- The entry that the source of a pair stands for. -/
def source? (cwd : Path) (t : Turn) : Option Location :=
  t.outcome.oldPath.filePath?.bind fun file => entryOf? t.before cwd (Path.absolute cwd file)

/-- The entry that the destination of a renamed pair stands for. -/
def target? (cwd : Path) (t : Turn) : Option Location :=
  t.outcome.destination.bind (entryOf? t.before cwd)

/-- The turn puts an entry into the place of a different one. -/
def Overwrites (cwd : Path) (t : Turn) : Prop :=
  t.outcome.isRenamed = true ∧ ∃ s l e f, t.source? cwd = some s ∧ t.target? cwd = some l ∧
    t.before.entry? s = some e ∧ t.before.entry? l = some f ∧ e ≠ f

/-- The turn puts a link into the place of the only entry of a file. -/
def BuriesFile (cwd : Path) (t : Turn) : Prop :=
  t.outcome.isRenamed = true ∧ ∃ s l text id, t.source? cwd = some s ∧ t.target? cwd = some l ∧
    t.before.entry? s = some (.link text) ∧ t.before.entry? l = some (.file id) ∧
      ∀ m, t.before.entry? m = some (.file id) → m = l

/-- A renamed turn is one accepted renaming. If the target was there and is no link, then the
source is a link or the same file. -/
theorem Local.effect (here : t.Local cwd) (renamed : t.outcome.isRenamed = true) :
    ∃ s l, t.source? cwd = some s ∧ t.target? cwd = some l ∧ Renamed t.before s l t.after ∧
      ∀ e f, t.before.entry? s = some e → t.before.entry? l = some f → e ≠ f →
        (∃ text, e = .link text) ∨ ∃ text, f = .link text := by
  rcases here with ⟨wf, old, new, step⟩
  rcases step.done wf renamed with ⟨file, name, s, t', done⟩
  have sameOld := step.oldPath_eq
  refine ⟨s.location, t'.location, ?_, ?_, done.accepted.renamed, ?_⟩
  · simp [source?, sameOld, done.source, entryOf?, done.accepted.sourceSpot]
  · simp [target?, done.outcome, entryOf?, done.accepted.targetSpot]
  · intro e f atSource atTarget different
    by_contra noLink
    simp only [not_or, not_exists] at noLink
    exact different (done.entries_eq atSource atTarget noLink.1 noLink.2)

theorem Local.unchanged (here : t.Local cwd) (left : t.outcome.isRenamed = false) :
    t.after = t.before := by
  rcases here with ⟨-, old, new, step⟩
  exact step.volume_of_skipped left

end Turn

/-! ## Files -/

/-- Some entry names the file with this number. -/
def Names (v : Volume) (id : Nat) : Prop :=
  ∃ l, v.entry? l = some (.file id)

/-- Every file that has a name keeps one, and its octets. -/
def KeepsFiles (v w : Volume) : Prop :=
  ∀ id, Names v id → Names w id ∧ w.content id = v.content id

namespace Turn.Local

theorem names_origin (here : t.Local cwd) {id : Nat} (named : Names t.after id) :
    Names t.before id := by
  cases renamed : t.outcome.isRenamed with
  | false => rwa [here.unchanged renamed] at named
  | true =>
      rcases here.effect renamed with ⟨s, l, -, -, moved, -⟩
      rcases named with ⟨m, there⟩
      rcases moved.entry?_origin here.wellFormed there with ⟨origin, before, -⟩
      exact ⟨origin, before⟩

theorem names_of_not_buries (here : t.Local cwd) (spared : ¬t.BuriesFile cwd) {id : Nat}
    (named : Names t.before id) : Names t.after id := by
  cases renamed : t.outcome.isRenamed with
  | false => rwa [here.unchanged renamed]
  | true =>
      rcases here.effect renamed with ⟨s, l, source, target, moved, link⟩
      by_cases only : ∀ m, t.before.entry? m = some (.file id) → m = l
      · rcases named with ⟨m, there⟩
        rcases only m there with rfl
        rcases moved.source_present with ⟨e, present⟩
        by_cases same : e = .file id
        · subst same
          exact ⟨m, (moved.entry?_target here.wellFormed).trans present⟩
        · rcases link e _ present there same with ⟨text, rfl⟩ | ⟨text, impossible⟩
          · exact absurd ⟨renamed, s, m, text, id, source, target, present, there, only⟩ spared
          · cases impossible
      · simp only [not_forall] at only
        rcases only with ⟨m, there, notTarget⟩
        exact moved.entry?_survives here.wellFormed there notTarget

theorem not_names_of_buries (here : t.Local cwd) (buries : t.BuriesFile cwd) :
    ∃ id, Names t.before id ∧ ¬Names t.after id := by
  rcases buries with ⟨renamed, s, l, text, id, source, target, present, there, only⟩
  rcases here.effect renamed with ⟨s', l', source', target', moved, -⟩
  rw [source] at source'
  rw [target] at target'
  cases source'
  cases target'
  refine ⟨id, ⟨l, there⟩, ?_⟩
  rintro ⟨m, after⟩
  rcases moved.entry?_origin here.wellFormed after with ⟨origin, before, atTarget⟩
  have same := atTarget (only origin before)
  rw [present, there] at same
  cases same

end Turn.Local

theorem Chained.names_origin {ts : List Turn} (chain : Chained v ts w)
    (here : ∀ t ∈ ts, t.Local cwd) {id : Nat} (named : Names w id) : Names v id := by
  induction chain with
  | nil => exact named
  | @cons t ts w chain ih =>
      have later := ih (fun t member => here t (List.mem_cons_of_mem _ member)) named
      exact (here t List.mem_cons_self).names_origin later

/-- Files keep a name through a chain of turns exactly if none of the turns buries one. -/
theorem Chained.keeps_names_iff {ts : List Turn} (chain : Chained v ts w)
    (here : ∀ t ∈ ts, t.Local cwd) :
    (∀ id, Names v id → Names w id) ↔ ∀ t ∈ ts, ¬t.BuriesFile cwd := by
  induction chain with
  | nil => simp
  | @cons t ts w chain ih =>
      have first := here t List.mem_cons_self
      have later : ∀ t ∈ ts, t.Local cwd := fun t member =>
        here t (List.mem_cons_of_mem _ member)
      rw [List.forall_mem_cons, ← ih later]
      constructor
      · intro keeps
        refine ⟨?_, fun id named => keeps id (first.names_origin named)⟩
        intro buries
        rcases first.not_names_of_buries buries with ⟨id, before, lost⟩
        exact lost (chain.names_origin later (keeps id before))
      · rintro ⟨spared, keeps⟩ id named
        exact keeps id (first.names_of_not_buries spared named)

/-! ## Entries -/

/-- Every entry stays, unless at some turn it stands at or below the source of a pair that is
reported as renamed. -/
def KeepsEntries (cwd : Path) (v : Volume) (ts : List Turn) (w : Volume) : Prop :=
  ∀ l e, v.entry? l = some e → w.entry? l = some e ∨
    ∃ t ∈ ts, t.outcome.isRenamed = true ∧ t.before.entry? l = some e ∧
      ∃ s, t.source? cwd = some s ∧ s <:+ l

theorem Turn.Local.entry?_kept (here : t.Local cwd) (spares : ¬t.Overwrites cwd) {l : Location}
    {e : Entry} (there : t.before.entry? l = some e) :
    t.after.entry? l = some e ∨ t.outcome.isRenamed = true ∧
      ∃ s, t.source? cwd = some s ∧ s <:+ l := by
  cases renamed : t.outcome.isRenamed with
  | false =>
      rw [here.unchanged renamed]
      exact Or.inl there
  | true =>
      rcases here.effect renamed with ⟨s, target, source, atTarget, moved, -⟩
      rcases moved.entry?_kept_or here.wellFormed there with kept | below | rfl
      · exact Or.inl kept
      · exact Or.inr ⟨rfl, s, source, below⟩
      · refine Or.inl ?_
        rcases moved.source_present with ⟨f, present⟩
        rw [moved.entry?_target here.wellFormed, present]
        by_contra different
        refine spares ⟨renamed, s, l, f, e, source, atTarget, present, there, ?_⟩
        rintro rfl
        exact different rfl

theorem Chained.keepsEntries {ts : List Turn} (chain : Chained v ts w)
    (here : ∀ t ∈ ts, t.Local cwd) (spares : ∀ t ∈ ts, ¬t.Overwrites cwd) :
    KeepsEntries cwd v ts w := by
  induction chain with
  | nil => exact fun l e there => Or.inl there
  | @cons t ts w chain ih =>
      have later := ih (fun t member => here t (List.mem_cons_of_mem _ member))
        (fun t member => spares t (List.mem_cons_of_mem _ member))
      intro l e there
      rcases (here t List.mem_cons_self).entry?_kept (spares t List.mem_cons_self) there with
        kept | ⟨renamed, source⟩
      · rcases later l e kept with atEnd | ⟨t', member, taken⟩
        · exact Or.inl atEnd
        · exact Or.inr ⟨t', List.mem_cons_of_mem _ member, taken⟩
      · exact Or.inr ⟨t, List.mem_cons_self, renamed, there, source⟩

/-- One turn that overwrites loses an entry. -/
theorem Turn.Local.not_keepsEntries (here : t.Local cwd) (overwrites : t.Overwrites cwd) :
    ¬KeepsEntries cwd t.before [t] t.after := by
  rcases overwrites with ⟨renamed, s, l, e, f, source, target, present, there, different⟩
  rcases here.effect renamed with ⟨s', l', source', target', moved, -⟩
  rw [source] at source'
  rw [target] at target'
  cases source'
  cases target'
  intro keeps
  rcases keeps l f there with kept | ⟨t', member, -, -, s', source', below⟩
  · rw [moved.entry?_target here.wellFormed, present] at kept
    exact different (Option.some.inj kept)
  · rcases List.mem_singleton.mp member with rfl
    rw [source] at source'
    cases source'
    refine moved.source_not_suffix ?_ below
    rw [present, there]
    intro same
    exact different (Option.some.inj same)

/-! ## Runs -/

theorem Turn.BuriesFile.overwrites (buries : t.BuriesFile cwd) : t.Overwrites cwd := by
  rcases buries with ⟨renamed, s, l, text, id, source, target, present, there, only⟩
  refine ⟨renamed, s, l, .link text, .file id, source, target, present, there, ?_⟩
  intro same
  cases same

/-- Every stretch of the turns keeps the entries that it finds. -/
def KeepsAlong (cwd : Path) (ts : List Turn) : Prop :=
  ∀ before part after, ts = before ++ part ++ after →
    ∀ a b, Chained a part b → KeepsEntries cwd a part b

theorem keepsAlong_iff {ts : List Turn} (here : ∀ t ∈ ts, t.Local cwd) :
    KeepsAlong cwd ts ↔ ∀ t ∈ ts, ¬t.Overwrites cwd := by
  constructor
  · intro keeps t member overwrites
    rcases List.append_of_mem member with ⟨before, after, split⟩
    have alone : KeepsEntries cwd t.before [t] t.after := by
      apply keeps before [t] after
      · simpa using split
      · exact .cons (.nil t.after)
    exact (here t member).not_keepsEntries overwrites alone
  · intro spares before part after split a b chain
    have inside : ∀ t ∈ part, t ∈ ts := by
      intro t member
      rw [split]
      simp [member]
    apply chain.keepsEntries
    · intro t member
      exact here t (inside t member)
    · intro t member
      exact spares t (inside t member)

theorem keepsFiles_iff (wf : v.WellFormed) (plan : Entries) :
    KeepsFiles v (renameAll (Disk.direct cwd) v plan).volume ↔
      ∀ t ∈ turns (Disk.direct cwd) v plan, ¬t.BuriesFile cwd := by
  have chain := turns_chained (Disk.direct cwd) v plan
  have contents : (renameAll (Disk.direct cwd) v plan).volume.contents = v.contents :=
    renameAll_contents wf plan
  rw [← chain.keeps_names_iff fun t => turns_local wf]
  constructor
  · intro keeps id named
    exact (keeps id named).1
  · intro keeps id named
    refine ⟨keeps id named, ?_⟩
    simp only [Volume.content, contents]

/-- A run destroys nothing exactly if no turn puts an entry into the place of another, and no
file exactly if no turn puts a link into the place of a file's only entry. Where an entry takes
the place of another, one of the two is a link. -/
theorem execute_keeps_iff (wf : v.WellFormed) (cwd : Path) (plan : Entries) :
    let w := (execute (Disk.direct cwd) v (.mapping plan)).volume
    let ts := turns (Disk.direct cwd) v plan
    (KeepsFiles v w ∧ KeepsAlong cwd ts ↔ ∀ t ∈ ts, ¬t.Overwrites cwd) ∧
      (KeepsFiles v w ↔ ∀ t ∈ ts, ¬t.BuriesFile cwd) ∧
      ∀ t ∈ ts, t.Overwrites cwd → ∃ s l text, t.source? cwd = some s ∧ t.target? cwd = some l ∧
        (t.before.entry? s = some (.link text) ∨ t.before.entry? l = some (.link text)) := by
  dsimp only
  rw [execute_volume, keepsFiles_iff wf, keepsAlong_iff fun t => turns_local wf]
  refine ⟨?_, Iff.rfl, ?_⟩
  · constructor
    · intro keeps
      exact keeps.2
    · intro spares
      refine ⟨?_, spares⟩
      intro t member buries
      exact spares t member buries.overwrites
  · intro t member overwrites
    rcases overwrites with ⟨renamed, s, l, e, f, source, target, present, there, different⟩
    rcases (turns_local wf member).effect renamed with ⟨s', l', source', target', -, link⟩
    rw [source] at source'
    rw [target] at target'
    cases source'
    cases target'
    rcases link e f present there different with ⟨text, rfl⟩ | ⟨text, rfl⟩
    · exact ⟨s, l, text, source, target, Or.inl present⟩
    · exact ⟨s, l, text, source, target, Or.inr there⟩

/-- A photo and a link to it. -/
def linkedPhoto : Volume :=
  ⟨[(["a"], .file 0), (["l"], .link "a")], [(0, [97])]⟩

theorem execute_keeps_iff_linkedPhoto :
    let w := (execute (Disk.direct ⟨.root, []⟩) linkedPhoto
      (.mapping [(.path ⟨.root, ["l"]⟩, .text "a")])).volume
    let ts := turns (Disk.direct ⟨.root, []⟩) linkedPhoto [(.path ⟨.root, ["l"]⟩, .text "a")]
    linkedPhoto.WellFormed ∧
      (KeepsFiles linkedPhoto w ↔ ∀ t ∈ ts, ¬t.BuriesFile ⟨.root, []⟩) := by
  have wf : linkedPhoto.WellFormed := by decide
  exact ⟨wf, (execute_keeps_iff wf _ _).2.1⟩

theorem linkedPhoto_find_photo :
    linkedPhoto.find .followed ⟨.root, []⟩ ⟨.root, ["a"]⟩ = .ok ["a"] :=
  Volume.find_root_file (by decide) (by decide) rfl

theorem linkedPhoto_find_link :
    linkedPhoto.find .followed ⟨.root, []⟩ ⟨.root, ["l"]⟩ = .ok ["a"] := by
  have named : IsName "l" := by decide
  have fits : Volume.octetLength "l" ≤ Volume.nameLimit := by decide
  have there : linkedPhoto.entry? ["a"] = some (.file 0) := rfl
  have target : Volume.targetNames "a" = ["a"] := by decide
  have beside : Volume.targetStart [] "a" = [] := by decide
  have walked : linkedPhoto.walk .followed Volume.linkLimit [] ["l"] = .ok ["a"] := by
    rw [Volume.linkLimit, Volume.walk_link named fits (Volume.entry?_root _) rfl, target,
      beside]
    exact Volume.walk_name (by decide) (by decide) (Volume.entry?_root _) (by simp [there])
  exact Volume.find_of_walk (Volume.clean_root named) (Volume.short_root fits) walked there

theorem linkedPhoto_rename? :
    linkedPhoto.rename? ⟨.root, []⟩ ⟨.root, ["l"]⟩ ⟨.root, ["a"]⟩ =
      .ok ⟨[(["a"], .link "a")], [(0, [97])]⟩ := by
  have moved : linkedPhoto.moveTo ⟨[], "l"⟩ ⟨[], "a"⟩ =
      .ok ⟨[(["a"], .link "a")], [(0, [97])]⟩ := by
    decide +kernel
  exact Volume.rename?_root (by decide) (by decide) (by decide) (by decide) moved

/-- The link leads to the photo, takes its place, and leads to itself from then on. -/
theorem linkedPhoto_renamed :
    (renamePair (Disk.direct ⟨.root, []⟩) linkedPhoto (.path ⟨.root, ["l"]⟩)
      (.text "a")).outcome =
      .ok (⟨.path ⟨.root, ["l"]⟩, .text "a", some ⟨.root, ["a"]⟩, none, ""⟩,
        ⟨[(["a"], .link "a")], [(0, [97])]⟩) := by
  have isFile : linkedPhoto.isFile ⟨.root, []⟩ ⟨.root, ["l"]⟩ = true :=
    Volume.isFile_of_find linkedPhoto_find_link rfl
  have source : (Value.path ⟨.root, ["l"]⟩).filePath? = some ⟨.root, ["l"]⟩ := rfl
  apply renamePair_renamed source
  · rw [direct_isFile, isFile]
  · decide
  · decide
  · exact (free_iff_identity linkedPhoto_find_photo).mpr ⟨["a"], linkedPhoto_find_link, rfl⟩
  · exact linkedPhoto_rename?

/-- Renaming a link to the name of the photo it leads to loses the photo. -/
theorem linkedPhoto_lost :
    ¬KeepsFiles linkedPhoto (execute (Disk.direct ⟨.root, []⟩) linkedPhoto
      (.mapping [(.path ⟨.root, ["l"]⟩, .text "a")])).volume := by
  intro keeps
  rw [execute_volume] at keeps
  simp only [renameAll, linkedPhoto_renamed] at keeps
  rcases (keeps 0 ⟨["a"], rfl⟩).1 with ⟨l, there⟩
  have member := Volume.mem_entries_of_present ?_ there
  · simp at member
  · rintro rfl
    simp at there

end MediaNaming.Rename
