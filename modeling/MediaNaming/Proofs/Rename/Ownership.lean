import MediaNaming.Proofs.Plan.Names
import MediaNaming.Proofs.Rename.Order
/-!
# Whose name a file gets

A plan made from the files of a tree of plain files gives all paths of one file the same name.
`Owned` is the invariant that carries the rest: while such a plan is applied, each file is where it
was or has the name from one of its own paths. A pair whose path some other file could have moved
to finds its destination taken by the file that the path belonged to.
-/

namespace MediaNaming.Rename

variable {cwd : Path} {v w : Volume} {old new : Value} {o : Outcome} {plan rest : Entries}
  {id : Nat}

/-! ## Consistent plans -/

/-- Plans of names for the files of a tree: every path names a file, and the paths of one file
have one name. -/
structure Consistent (cwd : Path) (v : Volume) (plan : Entries) : Prop where
  normal : ∀ pair ∈ plan, IsNormalKey pair.1
  named : ∀ {key : Value} {file : Path} {name : String}, (key, Value.text name) ∈ plan →
    key.filePath? = some file →
      v.find .followed cwd file = .ok (Path.absolute cwd file).place ∧
        ∃ id, v.entry? (Path.absolute cwd file).place = some (.file id)
  agree : ∀ {key other : Value} {file otherFile : Path} {name otherName : String},
    (key, Value.text name) ∈ plan → (other, Value.text otherName) ∈ plan →
      key.filePath? = some file → other.filePath? = some otherFile →
        (Path.absolute cwd file).place = (Path.absolute cwd otherFile).place → name = otherName

/-- A file is at a place, or has been renamed there as one of its paths says. -/
def HasOwnName (cwd : Path) (plan : Entries) (w : Volume) (l : Location) (id : Nat) : Prop :=
  w.entry? l = some (.file id) ∨
    ∃ key file name, (key, Value.text name) ∈ plan ∧ key.filePath? = some file ∧
      (Path.absolute cwd file).place = l ∧ w.entry? (name :: l.tail) = some (.file id)

/-- The files of a tree are at home or have names of their own. -/
structure Owned (cwd : Path) (v : Volume) (plan : Entries) (w : Volume) : Prop where
  plain : w.Plain
  placed : ∀ l id, v.entry? l = some (.file id) → HasOwnName cwd plan w l id

theorem Owned.start (plain : v.Plain) (plan : Entries) : Owned cwd v plan v where
  plain := plain
  placed := fun _ _ there => Or.inl there

section Step

variable {file : Path} {name : String}

/-- The other files are where they were. -/
theorem Moved.stays_iff (moved : Moved cwd w old new o v file name id) {l : Location}
    {other : Nat} (different : other ≠ id) :
    v.entry? l = some (.file other) ↔ w.entry? l = some (.file other) := by
  rw [moved.view]
  by_cases atTarget : l = name :: (Path.absolute cwd file).place.tail
  · rw [atTarget, Function.update_self, moved.absent]
    simp [different.symm]
  by_cases atSource : l = (Path.absolute cwd file).place
  · rw [Function.update_of_ne atTarget, atSource, Function.update_self, moved.present]
    simp [different.symm]
  rw [Function.update_of_ne atTarget, Function.update_of_ne atSource]

theorem Moved.arrives (moved : Moved cwd w old new o v file name id) :
    v.entry? (name :: (Path.absolute cwd file).place.tail) = some (.file id) := by
  rw [moved.view, Function.update_self]

theorem Moved.leaves (moved : Moved cwd w old new o v file name id) :
    v.entry? (Path.absolute cwd file).place = none := by
  rw [moved.view, Function.update_of_ne moved.away.symm, Function.update_self]

variable {u : Volume} (consistent : Consistent cwd v plan) (owned : Owned cwd v plan w)
  (member : (old, new) ∈ plan)

include consistent owned member

/-- A pair moves the file that its path named before the run. -/
theorem Owned.moves_own (moved : Moved cwd w old new o u file name id) :
    v.entry? (Path.absolute cwd file).place = some (.file id) := by
  rw [moved.given] at member
  rcases consistent.named member moved.source with ⟨-, home, atHome⟩
  rcases owned.placed _ home atHome with stayed | ⟨key, other, otherName, given, names, same, gone⟩
  · rw [moved.present] at stayed
    cases stayed
    exact atHome
  · -- that file has already been given the same name, so the destination is taken
    have sameName := consistent.agree member given moved.source names same.symm
    rw [← sameName, moved.absent] at gone
    cases gone

theorem Owned.step (plain : v.Plain) (working : cwd.IsWorkingDirectory)
    (step : PairStep (Disk.direct cwd) w old new o u) : Owned cwd v plan u := by
  have normal : IsNormalKey old := consistent.normal (old, new) member
  cases renamed : o.isRenamed with
  | false =>
      rw [step.volume_of_skipped renamed]
      exact owned
  | true =>
      rcases step.moved owned.plain working normal renamed with ⟨file, name, id, moved⟩
      have home := owned.moves_own consistent member moved
      refine ⟨moved.plain, ?_⟩
      intro l other there
      by_cases same : other = id
      · subst same
        have atHome := plain.place_unique there home
        rw [moved.given] at member
        refine Or.inr ⟨old, file, name, member, moved.source, atHome.symm, ?_⟩
        rw [atHome]
        exact moved.arrives
      · rcases owned.placed l other there with
          stayed | ⟨key, path, given, inPlan, names, home, gone⟩
        · exact Or.inl ((moved.stays_iff same).mpr stayed)
        · exact Or.inr ⟨key, path, given, inPlan, names, home,
              (moved.stays_iff same).mpr gone⟩

end Step

/-! ## No file twice -/

/-- A file that is no longer where it was. -/
def Away (v w : Volume) (id : Nat) : Prop :=
  ∀ l, v.entry? l = some (.file id) → w.entry? l ≠ some (.file id)

/-- The file that a turn has renamed. -/
def Turn.movedFile? (cwd : Path) (t : Turn) : Option Nat :=
  if t.outcome.isRenamed then t.outcome.oldPath.filePath?.bind (t.before.fileId? cwd) else none

theorem Turn.movedFile?_of_skipped {t : Turn} (left : t.outcome.isRenamed = false) :
    t.movedFile? cwd = none := by
  simp [ movedFile?, left]

theorem Moved.fileId? {file : Path} {name : String}
    (moved : Moved cwd w old new o v file name id) : w.fileId? cwd file = some id :=
  Volume.fileId?_of_find moved.found moved.present

theorem Moved.movedFile? {file : Path} {name : String}
    (moved : Moved cwd w old new o v file name id) :
    Turn.movedFile? cwd ⟨w, o, v⟩ = some id := by
  have renamed : o.isRenamed = true := by
    rw [moved.outcome]
    rfl
  have source : o.oldPath.filePath? = some file := by
    rw [moved.outcome]
    exact moved.source
  simp [Turn.movedFile?, renamed, source, moved.fileId?]

/-- A run renames files that are still at home, and none of them twice. -/
theorem turns_movedFiles (plain : v.Plain) (working : cwd.IsWorkingDirectory)
    (consistent : Consistent cwd v plan) (owned : Owned cwd v plan w)
    (inPlan : ∀ pair ∈ rest, pair ∈ plan) :
    ((turns (Disk.direct cwd) w rest).filterMap (Turn.movedFile? cwd)).Nodup ∧
      ∀ id ∈ (turns (Disk.direct cwd) w rest).filterMap (Turn.movedFile? cwd),
        ¬Away v w id := by
  fun_induction turns (Disk.direct cwd) w rest with
  | case1 | case2 => simp
  | case3 w old new rest o u returned ih =>
      have member : (old, new) ∈ plan := inPlan (old, new) List.mem_cons_self
      have restInPlan : ∀ pair ∈ rest, pair ∈ plan := fun pair later =>
        inPlan pair (List.mem_cons_of_mem _ later)
      have step := renamePair_ok returned
      rcases ih (owned.step consistent member plain working step) restInPlan with
        ⟨restDistinct, restHome⟩
      cases renamed : o.isRenamed with
      | false =>
          have unchanged := step.volume_of_skipped renamed
          subst unchanged
          rw [List.filterMap_cons_none (Turn.movedFile?_of_skipped renamed)]
          exact ⟨restDistinct, restHome⟩
      | true =>
          rcases step.moved owned.plain working (consistent.normal _ member) renamed with
            ⟨file, name, id, moved⟩
          have home := owned.moves_own consistent member moved
          have gone : Away v u id := by
            intro l there stays
            rw [plain.place_unique there home, moved.leaves] at stays
            cases stays
          rw [List.filterMap_cons_some moved.movedFile?]
          constructor
          · rw [List.nodup_cons]
            exact ⟨fun again => restHome id again gone, restDistinct⟩
          · intro other listed away
            rcases List.mem_cons.mp listed with rfl | later
            · exact away _ home moved.present
            · apply restHome other later
              intro l there stays
              by_cases same : other = id
              · subst same
                exact gone l there stays
              · exact away l there ((moved.stays_iff same).mp stays)

/-! ## Generated plans -/

/-- A root written with two slashes is the same root to a lookup. -/
def IgnoresSlashes (lookup : Volume → Path → Log.Traced Metadata) (v : Volume) : Prop :=
  ∀ parts a b, (lookup v ⟨.root, parts⟩).outcome = .ok a →
    (lookup v ⟨.doubleRoot, parts⟩).outcome = .ok b → a = b

/-- Such a lookup finds one answer for a place. -/
theorem IgnoresSlashes.agree {lookup : Volume → Path → Log.Traced Metadata}
    (steady : IgnoresSlashes lookup v) {p q : Path} {a b : Metadata} (left : p.anchor ≠ .relative)
    (right : q.anchor ≠ .relative) (same : p.place = q.place)
    (found : (lookup v p).outcome = .ok a) (otherFound : (lookup v q).outcome = .ok b) :
    a = b := by
  have parts : p.parts = q.parts := List.reverse_injective same
  rcases p with ⟨anchor, names⟩
  rcases q with ⟨otherAnchor, otherNames⟩
  cases parts
  cases anchor <;> cases otherAnchor <;> simp only [ne_eq, not_true_eq_false] at left right
  · exact Except.ok.inj (found.symm.trans otherFound)
  · exact steady names a b found otherFound
  · exact (steady names b a otherFound found).symm
  · exact Except.ok.inj (found.symm.trans otherFound)

section Generated

variable {r : Renamer} {lookup : Volume → Path → Log.Traced Metadata} {paths scheme : Value}
  {plan : MediaNaming.Plan} {room : Nat}

/-- Resolving two paths of one file gives one name. -/
theorem resolved_agree {pl : Planner} {tokens : Scheme} {key other : Value}
    {file otherFile : Path} {name otherName : String} (plain : v.Plain)
    (working : cwd.IsWorkingDirectory) (inside : v.entry? cwd.place = some .directory)
    (steady : IgnoresSlashes pl.lookup v) (disk : pl.disk = Disk.direct cwd)
    (normal : file.IsNormal) (otherNormal : otherFile.IsNormal) {a b : Metadata}
    (left : Planner.Resolved pl v tokens key file a name)
    (right : Planner.Resolved pl v tokens other otherFile b otherName)
    (same : (Path.absolute cwd file).place = (Path.absolute cwd otherFile).place) :
    name = otherName := by
  have leftFile := left.isFile
  have rightFile := right.isFile
  have leftFound := left.found
  have rightFound := right.found
  rw [disk] at leftFile rightFile leftFound rightFound
  have metadata : a = b := steady.agree (Path.absolute_anchor working file)
    (Path.absolute_anchor working otherFile) same leftFound rightFound
  rcases Volume.file_at_place plain.noLinks working normal (Except.ok.inj leftFile) with
    ⟨id, found, there⟩
  rcases Volume.file_at_place plain.noLinks working otherNormal (Except.ok.inj rightFile) with
    ⟨otherId, otherFound, otherThere⟩
  have parts : (Path.absolute cwd file).parts = (Path.absolute cwd otherFile).parts :=
    List.reverse_injective same
  have suffixes : file.suffix = otherFile.suffix := by
    have lastName := Volume.name_absolute plain.wellFormed working inside found there
    have otherLastName := Volume.name_absolute plain.wellFormed working inside otherFound otherThere
    rw [Path.suffix, Path.suffix, ← lastName, ← otherLastName, Path.name, Path.name, parts]
  rcases left.filled with ⟨s, filled, rfl⟩
  rcases right.filled with ⟨t, otherFilled, rfl⟩
  rw [metadata, otherFilled] at filled
  cases filled
  rw [suffixes]

theorem generate_consistent (plain : v.Plain) (working : cwd.IsWorkingDirectory)
    (inside : v.entry? cwd.place = some .directory) (steady : IgnoresSlashes lookup v)
    (normal : ∀ pair ∈ plan.entries, IsNormalKey pair.1)
    (planned : (r.generate (Disk.direct cwd) lookup room v paths scheme).1.outcome = .ok plan) :
    Consistent cwd v plan.entries := by
  obtain ⟨tokens, chosen, -⟩ := Renamer.generate_ok planned
  have resolved : ∀ {key : Value} {file : Path} {name : String},
      (key, Value.text name) ∈ plan.entries → key.filePath? = some file →
        ∃ metadata, Planner.Resolved (r.planner (Disk.direct cwd) lookup room) v tokens
          key file metadata name := by
    intro key file name member names
    rcases Renamer.mem_generate planned member with ⟨used, found, alsoChosen, same, how⟩
    cases chosen.symm.trans alsoChosen
    cases same
    rcases Planner.resolve_ok how with ⟨-, path, metadata, steps⟩
    have paths := steps.source
    rw [names] at paths
    cases paths
    exact ⟨metadata, steps⟩
  refine ⟨normal, ?_, ?_⟩
  · intro key file name member names
    rcases resolved member names with ⟨metadata, steps⟩
    have isFile : v.isFile cwd file = true := Except.ok.inj steps.isFile
    rcases Volume.file_at_place plain.noLinks working (normal _ member file names) isFile with
      ⟨id, found, there⟩
    exact ⟨found, id, there⟩
  · intro key other file otherFile name otherName member otherMember names otherNames same
    rcases resolved member names with ⟨metadata, steps⟩
    rcases resolved otherMember otherNames with ⟨otherMetadata, otherSteps⟩
    exact resolved_agree plain working inside steady rfl (normal _ member file names)
      (normal _ otherMember otherFile otherNames) steps otherSteps same

/-- While a generated plan is applied to the tree it was made for, each file is where it was or
stands in its directory under the name of one of its own paths. No file is renamed twice, and the
name that a file is given has been found for a path of that very file. -/
theorem generate_execute_owned (plain : v.Plain) (working : cwd.IsWorkingDirectory)
    (inside : v.entry? cwd.place = some .directory) (steady : IgnoresSlashes lookup v)
    (normal : ∀ pair ∈ plan.entries, IsNormalKey pair.1)
    (planned : (r.generate (Disk.direct cwd) lookup room v paths scheme).1.outcome = .ok plan)
    (processed : Nat) :
    let w := (execute (Disk.direct cwd) v (.mapping (plan.entries.take processed))).volume
    let ts := turns (Disk.direct cwd) v plan.entries
    ∃ tokens, r.schemeFor scheme = .ok tokens ∧
      (∀ l id, v.entry? l = some (.file id) →
        w.entry? l = some (.file id) ∨
          ∃ key file name, (key, Value.text name) ∈ plan.entries ∧ key.filePath? = some file ∧
            v.find .followed cwd file = .ok l ∧ w.entry? (name :: l.tail) = some (.file id)) ∧
      w.Plain ∧ w.contents = v.contents ∧
      (ts.filterMap (Turn.movedFile? cwd)).Nodup ∧
      ∀ t ∈ ts, t.outcome.isRenamed = true → ∃ file name id,
        t.movedFile? cwd = some id ∧ t.outcome.oldPath.filePath? = some file ∧
          t.outcome.newName = .text name ∧ v.fileId? cwd file = some id ∧
          ((r.planner (Disk.direct cwd) lookup room).resolve v tokens
            t.outcome.oldPath).outcome = .ok (.named t.outcome.oldPath name) := by
  have consistent := generate_consistent plain working inside steady normal planned
  obtain ⟨tokens, chosen, -⟩ := Renamer.generate_ok planned
  dsimp only
  rw [execute_volume]
  have owned : Owned cwd v plan.entries
      (renameAll (Disk.direct cwd) v (plan.entries.take processed)).volume := by
    apply renameAll_invariant (Owned.start plain plan.entries)
    intro a b old new o given owned step
    exact owned.step consistent (List.mem_of_mem_take given) plain working step
  refine ⟨tokens, chosen, ?_, owned.plain, renameAll_contents plain.wellFormed _, ?_, ?_⟩
  · intro l id there
    rcases owned.placed l id there with stayed | ⟨key, file, name, given, names, home, gone⟩
    · exact Or.inl stayed
    · refine Or.inr ⟨key, file, name, given, names, ?_, gone⟩
      rw [← home]
      exact (consistent.named given names).1
  · exact (turns_movedFiles plain working consistent (Owned.start plain plan.entries)
      fun pair member => member).1
  · intro t member renamed
    have before : Owned cwd v plan.entries t.before := by
      apply (turns_invariant (Owned.start plain plan.entries) _ member).1
      intro a b old new o given owned step
      exact owned.step consistent given plain working step
    rcases pairStep_of_mem_turns member with ⟨old, new, given, step⟩
    have keyNormal : IsNormalKey old := normal (old, new) given
    rcases step.moved before.plain working keyNormal renamed with ⟨file, name, id, moved⟩
    have home := before.moves_own consistent given moved
    rcases Renamer.mem_generate planned given with
      ⟨used, resolvedName, alsoChosen, isText, resolved⟩
    cases chosen.symm.trans alsoChosen
    have same : name = resolvedName := by
      have texts : Value.text name = .text resolvedName := moved.given.symm.trans isText
      cases texts
      rfl
    subst same
    have homeFound : v.find .followed cwd file = .ok (Path.absolute cwd file).place := by
      rw [moved.given] at given
      exact (consistent.named given moved.source).1
    have atHome : v.fileId? cwd file = some id := Volume.fileId?_of_find homeFound home
    refine ⟨file, name, id, moved.movedFile?, ?_, ?_, atHome, ?_⟩
    · rw [step.oldPath_eq]
      exact moved.source
    · rw [step.newName_eq]
      exact moved.given
    · rw [step.oldPath_eq]
      exact resolved

/-- A renamer that calls every file `b`. -/
def constantRenamer : Renamer :=
  ⟨[.literal "b"], Substitute.default, []⟩

/-- A lookup that finds a file without metadata everywhere. -/
def emptyLookup (_ : Volume) (_ : Path) : Log.Traced Metadata :=
  .ok []

theorem photo_planned :
    (constantRenamer.generate (Disk.direct ⟨.root, []⟩) emptyLookup 1000 photo
      (.list [.path ⟨.root, ["a"]⟩]) .null).1.outcome =
      .ok ⟨[(.path ⟨.root, ["a"]⟩, .text "b")], true⟩ := by
  have how : Planner.Resolved
      (constantRenamer.planner (Disk.direct ⟨.root, []⟩) emptyLookup 1000) photo
      constantRenamer.scheme (.path ⟨.root, ["a"]⟩) ⟨.root, ["a"]⟩ [] "b" := {
    source := rfl
    isFile := congrArg Except.ok photo_isFile
    found := rfl
    filled := ⟨"b", rfl, by decide +kernel⟩ }
  exact Planner.plan_single (how.outcome (by decide))

theorem generate_execute_owned_photo :
    let plan : Entries := [(.path ⟨.root, ["a"]⟩, .text "b")]
    photo.Plain ∧ IgnoresSlashes emptyLookup photo ∧ ∀ l id,
      photo.entry? l = some (.file id) →
        let w := (execute (Disk.direct ⟨.root, []⟩) photo (.mapping (plan.take 1))).volume
        w.entry? l = some (.file id) ∨
          ∃ key file name, (key, Value.text name) ∈ plan ∧ key.filePath? = some file ∧
            photo.find .followed ⟨.root, []⟩ file = .ok l ∧
              w.entry? (name :: l.tail) = some (.file id) := by
  have plain : photo.Plain := by decide
  have working : Path.IsWorkingDirectory ⟨.root, []⟩ := by decide
  have inside : photo.entry? (Path.place ⟨.root, []⟩) = some .directory := rfl
  have steady : IgnoresSlashes emptyLookup photo := by
    intro parts a b left right
    cases left
    cases right
    rfl
  have normal : ∀ pair ∈ [((Value.path ⟨.root, ["a"]⟩), Value.text "b")],
      IsNormalKey pair.1 := by
    decide
  obtain ⟨-, -, owned, -⟩ :=
    generate_execute_owned plain working inside steady normal photo_planned 1
  exact ⟨plain, steady, owned⟩

/-! ### Two spellings of the root -/

/-- A renamer that calls every file what its metadata says. -/
def fieldRenamer : Renamer :=
  ⟨[.key "n"], Substitute.default, []⟩

/-- A lookup that tells a file from the same file below a root of two slashes. -/
def spellingLookup (_ : Volume) (p : Path) : Log.Traced Metadata :=
  .ok [("n", .text (if p.anchor = .doubleRoot then "u" else if p.parts = ["a"] then "b" else "t"))]

/-- The second photo, the first, and the second below a root of two slashes. -/
def spelledPaths : List Value :=
  [.path ⟨.root, ["b"]⟩, .path ⟨.root, ["a"]⟩, .path ⟨.doubleRoot, ["b"]⟩]

/-- The names that the lookup gives. -/
def spelledPlan : Entries :=
  [(.path ⟨.root, ["b"]⟩, .text "t"), (.path ⟨.root, ["a"]⟩, .text "b"),
    (.path ⟨.doubleRoot, ["b"]⟩, .text "u")]

/-- A photo is called what the lookup says. -/
theorem spelled_named {a : Anchor} {last name : String} {id : Nat} (anchored : a ≠ .relative)
    (lastNamed : Path.IsName last) (fits : Volume.octetLength last ≤ Volume.nameLimit)
    (there : twoPhotos.entry? [last] = some (.file id))
    (found : spellingLookup twoPhotos (Path.absolute ⟨.root, []⟩ ⟨a, [last]⟩) =
      .ok [("n", .text name)])
    (cleaned : name = fieldRenamer.substitute.clean (name ++ Path.suffix ⟨a, [last]⟩))
    (filled : name ≠ "") :
    ((fieldRenamer.planner (Disk.direct ⟨.root, []⟩) spellingLookup 1000).resolve twoPhotos
      fieldRenamer.scheme (.path ⟨a, [last]⟩)).outcome =
        .ok (.named (.path ⟨a, [last]⟩) name) := by
  have wf : twoPhotos.WellFormed := by decide
  have written : Planner.fill 1000 [("n", .text name)] fieldRenamer.scheme = .ok (.ok name) := by
    have text : Tag.plainText 1000 (Metadata.value [("n", .text name)] "n") = .ok name := rfl
    simp [Planner.fill, fieldRenamer, text, filled, bind, Except.bind, pure, Except.pure,
      Except.map]
  have how : Planner.Resolved (fieldRenamer.planner (Disk.direct ⟨.root, []⟩) spellingLookup 1000)
      twoPhotos fieldRenamer.scheme (.path ⟨a, [last]⟩) ⟨a, [last]⟩ [("n", .text name)] name := {
    source := rfl
    isFile := congrArg Except.ok
      (Volume.isFile_of_find ((acceptable_root anchored lastNamed fits).find wf there) there)
    found := congrArg Log.Traced.outcome found
    filled := ⟨name, written, cleaned⟩ }
  exact how.outcome filled

theorem spelledPaths_planned :
    (fieldRenamer.generate (Disk.direct ⟨.root, []⟩) spellingLookup 1000 twoPhotos
      (.list spelledPaths) .null).1.outcome = .ok ⟨spelledPlan, true⟩ := by
  have first := @spelled_named .root "b" "t" 1 (by decide) (by decide) (by decide) rfl rfl
    (by decide +kernel) (by decide)
  have second := @spelled_named .root "a" "b" 0 (by decide) (by decide) (by decide) rfl rfl
    (by decide +kernel) (by decide)
  have third := @spelled_named .doubleRoot "b" "u" 1 (by decide) (by decide) (by decide) rfl rfl
    (by decide +kernel) (by decide)
  rw [Renamer.generate_of_chosen rfl]
  simp only [Planner.plan, Planner.planAll, spelledPaths, Planner.sweep, first, second, third]
  rfl

/-- The first photo takes the name of the second, and then the one of the other spelling. -/
theorem spelledPlan_turns :
    turns (Disk.direct ⟨.root, []⟩) twoPhotos spelledPlan =
        [⟨twoPhotos, ⟨.path ⟨.root, ["b"]⟩, .text "t", some ⟨.root, ["t"]⟩, none, ""⟩,
            photosAt "a" "t"⟩,
          ⟨photosAt "a" "t", ⟨.path ⟨.root, ["a"]⟩, .text "b", some ⟨.root, ["b"]⟩, none, ""⟩,
            photosAt "b" "t"⟩,
          ⟨photosAt "b" "t",
            ⟨.path ⟨.doubleRoot, ["b"]⟩, .text "u", some ⟨.doubleRoot, ["u"]⟩, none, ""⟩,
            photosAt "u" "t"⟩] ∧
      (renameAll (Disk.direct ⟨.root, []⟩) twoPhotos spelledPlan).volume = photosAt "u" "t" := by
  have first : (renamePair (Disk.direct ⟨.root, []⟩) twoPhotos (.path ⟨.root, ["b"]⟩)
      (.text "t")).outcome =
      .ok (⟨.path ⟨.root, ["b"]⟩, .text "t", some ⟨.root, ["t"]⟩, none, ""⟩,
        photosAt "a" "t") :=
    renamePair_spelled (by decide) (by decide) (by decide) (by decide) rfl (by decide) (by decide)
      rfl
  have second : (renamePair (Disk.direct ⟨.root, []⟩) (photosAt "a" "t") (.path ⟨.root, ["a"]⟩)
      (.text "b")).outcome =
      .ok (⟨.path ⟨.root, ["a"]⟩, .text "b", some ⟨.root, ["b"]⟩, none, ""⟩,
        photosAt "b" "t") :=
    renamePair_spelled (by decide) (by decide) (by decide) (by decide) rfl (by decide) (by decide)
      rfl
  have third : (renamePair (Disk.direct ⟨.root, []⟩) (photosAt "b" "t")
      (.path ⟨.doubleRoot, ["b"]⟩) (.text "u")).outcome =
      .ok (⟨.path ⟨.doubleRoot, ["b"]⟩, .text "u", some ⟨.doubleRoot, ["u"]⟩, none, ""⟩,
        photosAt "u" "t") :=
    renamePair_spelled (by decide) (by decide) (by decide) (by decide) rfl (by decide) (by decide)
      rfl
  simp only [spelledPlan, turns, renameAll, first, second, third, and_self]

/-- A lookup may depend on nothing but the absolute path and tell two spellings of one path apart.
Then a file is renamed twice, and what it ends up with is no name of its own paths. -/
theorem spelledPlan_renamesTwice :
    let w := (execute (Disk.direct ⟨.root, []⟩) twoPhotos (.mapping spelledPlan)).volume
    (fieldRenamer.generate (Disk.direct ⟨.root, []⟩) spellingLookup 1000 twoPhotos
        (.list spelledPaths) .null).1.outcome = .ok ⟨spelledPlan, true⟩ ∧
      twoPhotos.Plain ∧ twoPhotos.entry? ["a"] = some (.file 0) ∧
      ¬(w.entry? ["a"] = some (.file 0) ∨
        ∃ key file name, (key, Value.text name) ∈ spelledPlan ∧ key.filePath? = some file ∧
          twoPhotos.find .followed ⟨.root, []⟩ file = .ok ["a"] ∧
            w.entry? [name] = some (.file 0)) ∧
      (turns (Disk.direct ⟨.root, []⟩) twoPhotos spelledPlan).filterMap
        (Turn.movedFile? ⟨.root, []⟩) = [1, 0, 0] := by
  obtain ⟨turned, left⟩ := spelledPlan_turns
  have found : ∀ {v : Volume} {a : Anchor} {name : String} {id : Nat}, v.WellFormed →
      a ≠ .relative → Path.IsName name → Volume.octetLength name ≤ Volume.nameLimit →
      v.entry? [name] = some (.file id) →
        v.find .followed ⟨.root, []⟩ ⟨a, [name]⟩ = .ok [name] :=
    fun wf anchored named fits there => (acceptable_root anchored named fits).find wf there
  have elsewhere : twoPhotos.find .followed ⟨.root, []⟩ ⟨.doubleRoot, ["b"]⟩ = .ok ["b"] :=
    found (by decide) (by decide) (by decide) (by decide) rfl
  dsimp only
  rw [execute_volume, left]
  refine ⟨spelledPaths_planned, by decide, rfl, ?_, ?_⟩
  · rintro (stayed | ⟨key, file, name, listed, source, home, there⟩)
    · cases stayed
    · simp only [spelledPlan, List.mem_cons, Prod.mk.injEq, Value.text.injEq, List.not_mem_nil,
        or_false] at listed
      rcases listed with ⟨-, rfl⟩ | ⟨-, rfl⟩ | ⟨rfl, rfl⟩
      · cases there
      · cases there
      · cases source
        rw [elsewhere] at home
        simp at home
  · have first : twoPhotos.fileId? ⟨.root, []⟩ ⟨.root, ["b"]⟩ = some 1 :=
      Volume.fileId?_of_find (found (by decide) (by decide) (by decide) (by decide) rfl) rfl
    have second : (photosAt "a" "t").fileId? ⟨.root, []⟩ ⟨.root, ["a"]⟩ = some 0 :=
      Volume.fileId?_of_find (found (by decide) (by decide) (by decide) (by decide) rfl) rfl
    have third : (photosAt "b" "t").fileId? ⟨.root, []⟩ ⟨.doubleRoot, ["b"]⟩ = some 0 :=
      Volume.fileId?_of_find (found (by decide) (by decide) (by decide) (by decide) rfl) rfl
    rw [turned]
    simp [Turn.movedFile?, Outcome.isRenamed, Value.filePath?, first, second, third]

end Generated

end MediaNaming.Rename
