import MediaNaming.Proofs.Metadata.Reading
import MediaNaming.Proofs.Rename.Ownership
import MediaNaming.Proofs.Volume.Reachable
/-!
# Planning and renaming again

A file that has been given its name keeps it. Its octets have come along, its new name has the
suffix of the old one, and no later pair of the run touches it; so planning the file where it now
stands finds the name that it has, and applying that plan changes nothing.
-/

namespace MediaNaming

/-- The text in front of the suffix in the name of a file. -/
def Planner.stem? (pl : Planner) (v : Volume) (scheme : Scheme) (path : Value) : Option String :=
  path.filePath?.bind fun file =>
    match (pl.lookup v (pl.disk.absolute file)).outcome with
    | .error _ => none
    | .ok metadata =>
      match fill pl.room metadata scheme with
      | .ok (.ok s) => some s
      | _ => none

theorem Planner.Resolved.stem?_eq {pl : Planner} {v : Volume} {scheme : Scheme} {key : Value}
    {file : Path} {metadata : Metadata} {name s : String}
    (how : Resolved pl v scheme key file metadata name)
    (filling : fill pl.room metadata scheme = .ok (.ok s)) : pl.stem? v scheme key = some s := by
  simp [stem?, how.source, how.found, filling]

theorem Renamer.planner_disk (r : Renamer) (disk : Disk)
    (lookup : Volume → Path → Log.Traced Metadata) (room : Nat) :
    (r.planner disk lookup room).disk = disk := rfl

theorem Renamer.planner_lookup (r : Renamer) (disk : Disk)
    (lookup : Volume → Path → Log.Traced Metadata) (room : Nat) :
    (r.planner disk lookup room).lookup = lookup := rfl

namespace Rename

open Registry (knownLookup)

variable {cwd : Path} {v w : Volume} {old new : Value} {o : Outcome} {plan rest : Entries}
  {reader : MediaReader}

/-! ## To the end of a run -/

/-- Behind each turn the run goes on with further pairs of the plan. -/
theorem turns_rest {disk : Disk} {t : Turn} (member : t ∈ turns disk v plan) :
    ∃ rest, (∀ pair ∈ rest, pair ∈ plan) ∧
      (renameAll disk t.after rest).volume = (renameAll disk v plan).volume := by
  fun_induction turns disk v plan with
  | case1 => cases member
  | case2 => cases member
  | case3 v old new rest o w returned ih =>
      simp only [renameAll, returned]
      rcases List.mem_cons.mp member with rfl | later
      · exact ⟨rest, fun pair given => List.mem_cons_of_mem _ given, rfl⟩
      · rcases ih later with ⟨others, inRest, same⟩
        exact ⟨others, fun pair given => List.mem_cons_of_mem _ (inRest pair given), same⟩

/-- A file that has been given its name has it at the end of the run. -/
theorem arrived_stays (plain : v.Plain) (working : cwd.IsWorkingDirectory)
    (consistent : Consistent cwd v plan) (owned : Owned cwd v plan w) {l : Location}
    {name : String} {id : Nat} (home : v.entry? l = some (.file id)) (away : name :: l.tail ≠ l)
    (arrived : w.entry? (name :: l.tail) = some (.file id))
    (inPlan : ∀ pair ∈ rest, pair ∈ plan) :
    Owned cwd v plan (renameAll (Disk.direct cwd) w rest).volume ∧
      (renameAll (Disk.direct cwd) w rest).volume.entry? (name :: l.tail) = some (.file id) := by
  apply renameAll_invariant
    (P := fun u => Owned cwd v plan u ∧ u.entry? (name :: l.tail) = some (.file id))
    ⟨owned, arrived⟩
  rintro a b old new o given ⟨ownedBefore, there⟩ step
  have member := inPlan (old, new) given
  refine ⟨ownedBefore.step consistent member plain working step, ?_⟩
  cases renamed : o.isRenamed with
  | false =>
      rw [step.volume_of_skipped renamed]
      exact there
  | true =>
      rcases step.moved ownedBefore.plain working (consistent.normal _ member) renamed with
        ⟨file, other, otherId, moved⟩
      apply (moved.stays_iff _).mpr there
      -- a pair moves a file from home, and this one is no longer there
      rintro rfl
      have otherHome := ownedBefore.moves_own consistent member moved
      have atHome := moved.present
      rw [plain.place_unique otherHome home] at atHome
      exact away (ownedBefore.plain.place_unique there atHome)

theorem PairStep.isRenamed_of_destination {disk : Disk} (step : PairStep disk v old new o w)
    {q : Path} (destination : o.destination = some q) : o.isRenamed = true := by
  cases step with
  | skipped => cases destination
  | renamed => rfl

/-- The path that a pair has been renamed to is one that the operating system looks at. -/
theorem PairStep.acceptable (working : cwd.IsWorkingDirectory) (normal : IsNormalKey old)
    (step : PairStep (Disk.direct cwd) v old new o w) {q : Path}
    (destination : o.destination = some q) : Volume.Acceptable q := by
  cases step with
  | skipped => cases destination
  | @renamed file name w source isFile given named different free accepted =>
      cases destination
      have above : ∀ part ∈ (Path.absolute cwd file).parts.dropLast,
          part ∈ (Path.absolute cwd file).parts := fun part member =>
        (List.dropLast_sublist _).subset member
      apply Volume.rename?_acceptable _ _ _ accepted
      · exact Path.absolute_anchor working file
      · intro part member
        rcases List.mem_append.mp member with inside | last
        · exact Path.absolute_isNormal working (normal file source) part (above part inside)
        · rw [List.mem_singleton.mp last]
          exact ⟨named.1, named.2.1⟩
      · intro member
        rcases List.mem_append.mp member with inside | last
        · exact Path.absolute_no_up (above ".." inside)
        · exact named.2.2.1 (List.mem_singleton.mp last).symm

/-- What is known at the end of a run of a pair whose file has been renamed. -/
structure Settled (cwd : Path) (v : Volume) (plan : Entries) (w : Volume) (old : Value) (q : Path)
    (file : Path) (name : String) (id : Nat) : Prop where
  source : old.filePath? = some file
  given : (old, .text name) ∈ plan
  destination : q = (Path.absolute cwd file).parent.child name
  home : v.entry? (Path.absolute cwd file).place = some (.file id)
  there : w.entry? q.place = some (.file id)
  acceptable : Volume.Acceptable q
  plain : w.Plain

theorem settled_of_mem_turns (plain : v.Plain) (working : cwd.IsWorkingDirectory)
    (consistent : Consistent cwd v plan) {t : Turn} (member : t ∈ turns (Disk.direct cwd) v plan)
    {q : Path} (destination : t.outcome.destination = some q) : ∃ file name id,
      Settled cwd v plan (renameAll (Disk.direct cwd) v plan).volume t.outcome.oldPath q
        file name id := by
  have kept : ∀ {a b : Volume} {old new : Value} {o : Outcome}, (old, new) ∈ plan →
      Owned cwd v plan a → PairStep (Disk.direct cwd) a old new o b → Owned cwd v plan b :=
    fun given owned step => owned.step consistent given plain working step
  rcases turns_invariant (P := Owned cwd v plan) (Owned.start plain plan) kept member with
    ⟨before, after⟩
  rcases pairStep_of_mem_turns member with ⟨old, new, given, step⟩
  have normal : IsNormalKey old := consistent.normal (old, new) given
  have renamed : t.outcome.isRenamed = true := step.isRenamed_of_destination destination
  rcases step.moved before.plain working normal renamed with ⟨file, name, id, moved⟩
  have home := before.moves_own consistent given moved
  rcases turns_rest member with ⟨rest, inPlan, same⟩
  rcases arrived_stays plain working consistent after home moved.away moved.arrives inPlan with
    ⟨owned, there⟩
  rw [same] at owned there
  have acceptable := step.acceptable working normal destination
  rw [moved.outcome] at destination
  cases destination
  rw [step.oldPath_eq]
  refine ⟨file, name, id, {
    source := moved.source
    given := by rw [← moved.given]; exact given
    destination := rfl
    home := home
    there := by rw [Path.place_sibling]; exact there
    acceptable := acceptable
    plain := owned.plain }⟩

/-! ## Applying a plan of one file -/

/-- A file that has the name that it is to get is left alone. -/
theorem renamePair_unchanged {p : Path} (isFile : v.isFile cwd p = true)
    (absolute : Path.absolute cwd p = p) (named : Path.IsName p.name) :
    (renamePair (Disk.direct cwd) v (.path p) (.text p.name)).outcome =
      .ok (⟨.path p, .text p.name, none, some .unchanged, "name already matches"⟩, v) := by
  have same : p.parent.child p.name = p := by
    have inside : p.parts ≠ [] := by
      intro empty
      apply named.1
      rw [Path.name, empty]
      rfl
    simp only [Path.parent, Path.child, Path.name, List.getLast?_eq_some_getLast inside,
      Option.getD_some, List.dropLast_append_getLast inside]
  have asked : (Disk.direct cwd).isFile v p = .ok true := congrArg Except.ok isFile
  simp only [renamePair, Value.filePath?]
  rw [Log.Traced.ofExcept_bind_outcome _ asked]
  simp only [↓reduceIte, bareName_of_isName named, renameFile, direct_absolute, absolute, same]
  rfl

theorem execute_single {disk : Disk}
    (answered : (renamePair disk v old new).outcome = .ok (o, w)) :
    (execute disk v (.mapping [(old, new)])).outcome = .ok [o] ∧
      (execute disk v (.mapping [(old, new)])).volume = w := by
  rw [execute_outcome, execute_volume]
  simp [renameAll, answered]

/-! ## Finding the name again -/

/-- The names of one path below either form of the root lead to one file, with one suffix. -/
theorem knownLookup_ignoresSlashes (reader : MediaReader) (cwd : Path) (v : Volume) :
    IgnoresSlashes (knownLookup reader cwd) v := by
  intro parts a b left right
  rcases (Registry.lookupMetadata_ok left).1 with ⟨bs, readLeft⟩
  rcases (Registry.lookupMetadata_ok right).1 with ⟨others, readRight⟩
  rcases Volume.read?_eq_ok_iff.mp readLeft with ⟨l, id, foundLeft, thereLeft, octets⟩
  rcases Volume.read?_eq_ok_iff.mp readRight with ⟨m, other, foundRight, thereRight, otherOctets⟩
  have sameLocation : l = m := by
    have walkedLeft := Volume.walk_of_find foundLeft
    have walkedRight := Volume.walk_of_find foundRight
    exact Except.ok.inj (walkedLeft.symm.trans walkedRight)
  subst sameLocation
  rw [thereLeft] at thereRight
  cases thereRight
  rw [← otherOctets, octets] at readRight
  have same : (knownLookup reader cwd v ⟨.root, parts⟩).outcome =
      (knownLookup reader cwd v ⟨.doubleRoot, parts⟩).outcome :=
    Registry.lookupMetadata_congr readLeft readRight rfl
  rw [left, right] at same
  exact Except.ok.inj same

/-- A file with the same octets under the name that was found for it resolves to that name. -/
theorem resolved_again {pl : Planner} {tokens : Scheme} {key : Value} {file q : Path}
    {name : String} {metadata : Metadata} {bs : List UInt8} (disk : pl.disk = Disk.direct cwd)
    (known : pl.lookup = knownLookup reader cwd)
    (how : Planner.Resolved pl v tokens key file metadata name)
    (stem : pl.stem? v tokens key ≠ some "")
    (lastName : (Path.absolute cwd file).name = file.name)
    (read : v.read? cwd (Path.absolute cwd file) = .ok bs) (readAgain : w.read? cwd q = .ok bs)
    (absolute : Path.absolute cwd q = q) (called : q.name = name) :
    Planner.Resolved pl w tokens (.path q) q metadata name := by
  have found := how.found
  rw [known, disk, direct_absolute] at found
  have suffixes : (Path.absolute cwd file).suffix = file.suffix := by
    rw [Path.suffix, Path.suffix, lastName]
  rcases how.filled with ⟨s, filling, cleaned⟩
  have filled : s ≠ "" := by
    rintro rfl
    exact stem (how.stem?_eq filling)
  have suffixed : q.suffix = file.suffix := by
    rcases Registry.lookupMetadata_ok found with ⟨-, present, legal⟩
    rw [suffixes] at present legal
    rw [Path.suffix, called, cleaned, Substitute.suffixOf_clean filled present legal,
      String.ofList_toList]
  have lowerSuffixes : (Path.absolute cwd file).lowerSuffix = q.lowerSuffix := by
    rw [Path.lowerSuffix, Path.lowerSuffix, suffixes, suffixed]
  rcases Volume.read?_eq_ok_iff.mp readAgain with ⟨l, id, reached, there, -⟩
  refine {
    source := rfl
    isFile := ?_
    found := ?_
    filled := ⟨s, filling, by rw [suffixed]; exact cleaned⟩ }
  · rw [disk, direct_isFile, Volume.isFile_of_find reached there]
  · rw [known, disk, direct_absolute, absolute]
    exact (Registry.lookupMetadata_congr read readAgain lowerSuffixes).symm.trans found

section Generated

variable {r : Renamer} {room : Nat} {paths scheme : Value} {tokens : Scheme}
  {plan : MediaNaming.Plan} {outcomes : List Outcome}

/-- What a generated plan says of a key, for a file of a tree of plain files: the name found for
it, and the octets that it was found in. -/
theorem generated_reads (plain : v.Plain) (working : cwd.IsWorkingDirectory)
    (chosen : r.schemeFor scheme = .ok tokens)
    (planned : (r.generate (Disk.direct cwd) (knownLookup reader cwd) room v paths
      scheme).1.outcome = .ok plan)
    {key : Value} {file : Path} {name : String} {id : Nat} (normal : file.IsNormal)
    (source : key.filePath? = some file) (given : (key, Value.text name) ∈ plan.entries)
    (home : v.entry? (Path.absolute cwd file).place = some (.file id)) :
    (∃ metadata, Planner.Resolved (r.planner (Disk.direct cwd) (knownLookup reader cwd) room) v
      tokens key file metadata name) ∧
        v.read? cwd (Path.absolute cwd file) = .ok (v.content id) := by
  rcases Renamer.mem_generate planned given with ⟨used, found, alsoChosen, same, resolved⟩
  cases chosen.symm.trans alsoChosen
  cases same
  rcases Planner.resolve_ok resolved with ⟨-, path, metadata, how⟩
  have paths := how.source
  rw [source] at paths
  cases paths
  refine ⟨⟨metadata, how⟩, ?_⟩
  have found : (Registry.default.lookupMetadata reader v cwd (Path.absolute cwd file)).outcome =
      .ok metadata := how.found
  rcases (Registry.lookupMetadata_ok found).1 with ⟨bs, read⟩
  rcases Volume.read?_eq_ok_iff.mp read with ⟨l, other, reached, there, octets⟩
  have place := Volume.find_eq_place plain.noLinks working
    (Path.absolute_isNormal working normal) reached
  have same : Path.absolute cwd (Path.absolute cwd file) = Path.absolute cwd file :=
    Path.absolute_of_no_up (Path.absolute_anchor working file) Path.absolute_no_up
  rw [place, same, home] at there
  cases there
  rw [read, octets]

/-- What planning and renaming do with the path of a file that a run has given its name. -/
theorem Settled.again (plain : v.Plain) (working : cwd.IsWorkingDirectory)
    (inside : v.entry? cwd.place = some .directory) (contents : w.contents = v.contents)
    (chosen : r.schemeFor scheme = .ok tokens)
    (planned : (r.generate (Disk.direct cwd) (knownLookup reader cwd) room v paths
      scheme).1.outcome = .ok plan)
    (consistent : Consistent cwd v plan.entries) {q file : Path} {name : String} {id : Nat}
    (settled : Settled cwd v plan.entries w old q file name id)
    (stem : (r.planner (Disk.direct cwd) (knownLookup reader cwd) room).stem? v tokens old ≠
      some "") :
    ((r.planner (Disk.direct cwd) (knownLookup reader cwd) room).resolve w tokens
        (.path q)).outcome = .ok (.named (.path q) q.name) ∧
      (renamePair (Disk.direct cwd) w (.path q) (.text q.name)).outcome =
        .ok (⟨.path q, .text q.name, none, some .unchanged, "name already matches"⟩, w) := by
  have fileNormal : file.IsNormal := consistent.normal _ settled.given file settled.source
  rcases generated_reads plain working chosen planned fileNormal settled.source settled.given
    settled.home with ⟨⟨metadata, how⟩, read⟩
  have found : v.find .followed cwd file = .ok (Path.absolute cwd file).place :=
    (consistent.named settled.given settled.source).1
  have lastName : (Path.absolute cwd file).name = file.name :=
    Volume.name_absolute plain.wellFormed working inside found settled.home
  have reached : w.find .followed cwd q = .ok q.place :=
    settled.acceptable.find settled.plain.wellFormed settled.there
  have sameOctets : w.content id = v.content id := by
    rw [Volume.content, Volume.content, contents]
  have readAgain : w.read? cwd q = .ok (v.content id) :=
    Volume.read?_eq_ok_iff.mpr ⟨q.place, id, reached, settled.there, sameOctets⟩
  have absolute : Path.absolute cwd q = q :=
    Path.absolute_of_no_up settled.acceptable.anchored settled.acceptable.noUp
  have called : q.name = name := by
    rw [settled.destination]
    simp [Path.name, Path.child]
  have named : Path.IsName q.name := by
    have there := settled.there
    rw [settled.destination, Path.place_sibling] at there
    rw [called]
    exact settled.plain.wellFormed.isName there
  rw [← called] at how
  have resolved := resolved_again (r.planner_disk _ _ _) (r.planner_lookup _ _ _) how stem lastName
    read readAgain absolute rfl
  exact ⟨resolved.outcome named.1,
    renamePair_unchanged (Volume.isFile_of_find reached settled.there) absolute named⟩

/-- Where a run of a generated plan has renamed a file, and its name has some text in front of the
suffix, planning the file again under the same scheme and substitute finds the name that it has,
and applying this plan changes nothing. -/
theorem generate_execute_again (plain : v.Plain) (working : cwd.IsWorkingDirectory)
    (inside : v.entry? cwd.place = some .directory)
    (normal : ∀ pair ∈ plan.entries, IsNormalKey pair.1)
    (chosen : r.schemeFor scheme = .ok tokens)
    (planned : (r.generate (Disk.direct cwd) (knownLookup reader cwd) room v paths
      scheme).1.outcome = .ok plan)
    (executed : (execute (Disk.direct cwd) v (.mapping plan.entries)).outcome = .ok outcomes)
    (member : o ∈ outcomes) {q : Path} (renamed : o.destination = some q)
    (stem : (r.planner (Disk.direct cwd) (knownLookup reader cwd) room).stem? v tokens o.oldPath ≠
      some "")
    {r' : Renamer} {scheme' : Value} (sameSubstitute : r'.substitute = r.substitute)
    (sameScheme : r'.schemeFor scheme' = r.schemeFor scheme) :
    let w := (execute (Disk.direct cwd) v (.mapping plan.entries)).volume
    let again : Entries := [(.path q, .text q.name)]
    (r'.generate (Disk.direct cwd) (knownLookup reader cwd) room w (.list [.path q])
        scheme').1.outcome = .ok ⟨again, true⟩ ∧
      (execute (Disk.direct cwd) w (.mapping again)).outcome =
        .ok [⟨.path q, .text q.name, none, some .unchanged, "name already matches"⟩] ∧
      (execute (Disk.direct cwd) w (.mapping again)).volume = w := by
  have consistent : Consistent cwd v plan.entries := generate_consistent plain working inside
    (knownLookup_ignoresSlashes reader cwd v) normal planned
  have turn : ∃ t ∈ turns (Disk.direct cwd) v plan.entries, t.outcome = o := by
    rw [execute_outcome] at executed
    split at executed
    next => cases executed
    next =>
      cases executed
      rw [renameAll_outcomes] at member
      exact List.mem_map.mp member
  rcases turn with ⟨t, inRun, same⟩
  rw [← same] at renamed stem
  rcases settled_of_mem_turns plain working consistent inRun renamed with
    ⟨file, name, id, settled⟩
  rcases settled.again plain working inside (renameAll_contents plain.wellFormed plan.entries)
    chosen planned consistent stem with ⟨resolved, unchanged⟩
  have samePlanner : r'.planner (Disk.direct cwd) (knownLookup reader cwd) room =
      r.planner (Disk.direct cwd) (knownLookup reader cwd) room := by
    simp [Renamer.planner, sameSubstitute]
  dsimp only
  rw [execute_volume]
  refine ⟨?_, execute_single unchanged⟩
  rw [Renamer.generate_of_chosen (sameScheme.trans chosen), samePlanner]
  exact Planner.plan_single resolved

end Generated

/-- A tree with one photo that has the suffix of a known format. -/
def jpegPhoto : Volume :=
  ⟨[(["a.jpg"], .file 0)], [(0, [97])]⟩

/-- The same photo under the name of a scheme with one letter. -/
def renamedJpegPhoto : Volume :=
  ⟨[(["b.jpg"], .file 0)], [(0, [97])]⟩

theorem jpegPhoto_found :
    ∃ metadata, (knownLookup (fun _ => Media.blank) ⟨.root, []⟩ jpegPhoto
      ⟨.root, ["a.jpg"]⟩).outcome = .ok metadata := by
  have read : jpegPhoto.read? ⟨.root, []⟩ ⟨.root, ["a.jpg"]⟩ = .ok [97] :=
    Volume.read?_eq_ok_iff.mpr
      ⟨["a.jpg"], 0, Volume.find_root_file (by decide) (by decide) rfl, rfl, rfl⟩
  have suffix : Path.lowerSuffix ⟨.root, ["a.jpg"]⟩ = ".jpg" := by decide +kernel
  have routed : Registry.default.extractorFor ⟨.root, ["a.jpg"]⟩ = .ok .jpeg := by
    rw [Registry.extractorFor, suffix]
    rfl
  have pictured : ∃ image,
      Image.ofPicture Media.blank.picture ⟨.root, ["a.jpg"]⟩ = .ok image := by
    simp [Image.ofPicture, Picture.mainText, Picture.detailText, Metadata.value, Media.blank,
      Tag.firstText, Tag.itemText, bind, Except.bind, pure, Except.pure]
  rcases pictured with ⟨image, pictured⟩
  refine ⟨(MetadataRecord.image image).mapping, ?_⟩
  simp only [knownLookup, Registry.lookupMetadata, routed, Extractor.jpeg, Extractor.image,
    Extractor.imageOf, read, pictured]
  rfl

theorem jpegPhoto_resolved : ∃ metadata, Planner.Resolved
    (constantRenamer.planner (Disk.direct ⟨.root, []⟩)
      (knownLookup (fun _ => Media.blank) ⟨.root, []⟩) 1000) jpegPhoto
    constantRenamer.scheme (.path ⟨.root, ["a.jpg"]⟩) ⟨.root, ["a.jpg"]⟩ metadata
    "b.jpg" := by
  rcases jpegPhoto_found with ⟨metadata, found⟩
  have isFile : jpegPhoto.isFile ⟨.root, []⟩ ⟨.root, ["a.jpg"]⟩ = true :=
    isFile_root (by decide) (by decide) rfl
  exact ⟨metadata, {
    source := rfl
    isFile := congrArg Except.ok isFile
    found := found
    filled := ⟨"b", rfl, by decide +kernel⟩ }⟩

theorem jpegPhoto_planned :
    (constantRenamer.generate (Disk.direct ⟨.root, []⟩)
      (knownLookup (fun _ => Media.blank) ⟨.root, []⟩) 1000 jpegPhoto
      (.list [.path ⟨.root, ["a.jpg"]⟩]) .null).1.outcome =
      .ok ⟨[(.path ⟨.root, ["a.jpg"]⟩, .text "b.jpg")], true⟩ := by
  rcases jpegPhoto_resolved with ⟨metadata, how⟩
  exact Planner.plan_single (how.outcome (by decide))

theorem jpegPhoto_executed :
    (execute (Disk.direct ⟨.root, []⟩) jpegPhoto
      (.mapping [(.path ⟨.root, ["a.jpg"]⟩, .text "b.jpg")])).outcome =
      .ok [⟨.path ⟨.root, ["a.jpg"]⟩, .text "b.jpg", some ⟨.root, ["b.jpg"]⟩, none, ""⟩] := by
  have renamed : (renamePair (Disk.direct ⟨.root, []⟩) jpegPhoto (.path ⟨.root, ["a.jpg"]⟩)
      (.text "b.jpg")).outcome =
      .ok (⟨.path ⟨.root, ["a.jpg"]⟩, .text "b.jpg", some ⟨.root, ["b.jpg"]⟩, none, ""⟩,
        renamedJpegPhoto) := by
    apply renamePair_root
    · decide
    · decide
    · decide
    · decide
    · decide
    · rfl
    · rfl
    · decide +kernel
  exact (execute_single renamed).1

/-- Planned and renamed again, the photo stays. -/
theorem generate_execute_again_jpegPhoto :
    let w := (execute (Disk.direct ⟨.root, []⟩) jpegPhoto
      (.mapping [(.path ⟨.root, ["a.jpg"]⟩, .text "b.jpg")])).volume
    let again : Entries := [(.path ⟨.root, ["b.jpg"]⟩, .text "b.jpg")]
    (constantRenamer.generate (Disk.direct ⟨.root, []⟩)
        (knownLookup (fun _ => Media.blank) ⟨.root, []⟩) 1000 w
        (.list [.path ⟨.root, ["b.jpg"]⟩]) .null).1.outcome = .ok ⟨again, true⟩ ∧
      (execute (Disk.direct ⟨.root, []⟩) w (.mapping again)).outcome =
        .ok [⟨.path ⟨.root, ["b.jpg"]⟩, .text "b.jpg", none, some .unchanged,
          "name already matches"⟩] ∧
      (execute (Disk.direct ⟨.root, []⟩) w (.mapping again)).volume = w := by
  have plain : jpegPhoto.Plain := by decide
  have working : Path.IsWorkingDirectory ⟨.root, []⟩ := by decide
  have inside : jpegPhoto.entry? (Path.place ⟨.root, []⟩) = some .directory := rfl
  have normal : ∀ pair ∈ [((Value.path ⟨.root, ["a.jpg"]⟩), Value.text "b.jpg")],
      IsNormalKey pair.1 := by
    decide
  have stem : (constantRenamer.planner (Disk.direct ⟨.root, []⟩)
      (knownLookup (fun _ => Media.blank) ⟨.root, []⟩) 1000).stem? jpegPhoto
      constantRenamer.scheme (.path ⟨.root, ["a.jpg"]⟩) ≠ some "" := by
    rcases jpegPhoto_resolved with ⟨metadata, how⟩
    have filling : Planner.fill 1000 metadata constantRenamer.scheme = .ok (.ok "b") := rfl
    rw [how.stem?_eq filling]
    decide
  exact generate_execute_again plain working inside normal rfl jpegPhoto_planned
    jpegPhoto_executed List.mem_cons_self rfl stem rfl rfl

end Rename

end MediaNaming
