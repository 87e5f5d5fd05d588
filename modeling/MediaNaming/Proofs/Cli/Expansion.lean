import MediaNaming.Cli.Command
import MediaNaming.Proofs.Rename.Completion
import MediaNaming.Proofs.Volume.Listing
/-!
# The paths of a command

Each argument of a command stands for a block of paths: a directory for the regular files directly
inside it, in the order of their names, and everything else for itself. The blocks follow one
another as the arguments do. The command gets no paths at all if one of the paths that are asked
about, an argument or what stands in a directory, is too long.
-/

namespace MediaNaming.Cli

open Volume (HasFile TooLong)

variable {v : Volume} {cwd p q : Path} {ps : List Path} {f : Failure}

/-! ## One argument -/

/-- The paths that one argument stands for. -/
def blockOf (v : Volume) (cwd p : Path) : Except Failure (List Path) := do
  if ← v.isDirectory? cwd p then v.filesIn? cwd p else pure [p]

/-- The blocks of the arguments follow one another. -/
theorem expandPaths_eq (v : Volume) (cwd : Path) (args : List String) :
    expandPaths v cwd args =
      (args.mapM fun s => blockOf v cwd (.ofText s)).map List.flatten := by
  induction args with
  | nil => rfl
  | cons s rest ih =>
      have step : expandPaths v cwd (s :: rest) =
          blockOf v cwd (.ofText s) >>= fun block =>
            expandPaths v cwd rest >>= fun others => pure (block ++ others) := by
        rw [expandPaths, blockOf, bind_assoc]
        congr 1
        funext directory
        cases directory <;> rfl
      rw [step, ih, List.mapM_cons]
      cases blockOf v cwd (.ofText s) with
      | error f => rfl
      | ok block => cases rest.mapM fun s => blockOf v cwd (.ofText s) <;> rfl

/-- A path leads to a directory. -/
def NamesDirectory (v : Volume) (cwd p : Path) (dir : Location) : Prop :=
  v.find .followed cwd p = .ok dir ∧ v.entry? dir = some .directory

/-- What an argument should stand for: the regular files directly inside a directory, strictly in
the order of their names, or itself. -/
inductive IsBlock (v : Volume) (cwd p : Path) : List Path → Prop
  | files {dir : Location} {ps : List Path} (names : NamesDirectory v cwd p dir)
      (sorted : ps.Pairwise fun q r => q.name < r.name)
      (exact : ∀ q, q ∈ ps ↔ ∃ name, q = p.child name ∧ v.HasFile cwd p dir name) :
      IsBlock v cwd p ps
  | itself (other : ∀ dir, ¬NamesDirectory v cwd p dir) : IsBlock v cwd p [p]

/-- The paths that are too long among those that an argument brings up: the argument, or what stands
directly inside the directory that it names. -/
inductive Refused (v : Volume) (cwd p : Path) : Path → Prop
  | argument (long : v.TooLong cwd p) : Refused v cwd p p
  | inside {dir : Location} {name : String} {e : Entry}
      (found : v.find .followed cwd p = .ok dir) (there : v.entry? (name :: dir) = some e)
      (long : v.TooLong cwd (p.child name)) : Refused v cwd p (p.child name)

theorem isDirectory?_ok {b : Bool} (asked : v.isDirectory? cwd p = .ok b) :
    ¬v.TooLong cwd p ∧ (b = true ↔ ∃ dir, NamesDirectory v cwd p dir) := by
  rw [Volume.isDirectory?, Volume.ask] at asked
  rw [Volume.TooLong]
  cases found : v.find .followed cwd p with
  | ok dir =>
      obtain ⟨-, -, -, e, there⟩ := Volume.find_ok found
      have seen : v.look cwd p = .ok e := Volume.look_of_find found there
      rw [seen] at asked ⊢
      cases asked
      simp [NamesDirectory, found, there]
  | error r =>
      have seen : v.look cwd p = .error r := by simp [Volume.look, found]
      rw [seen] at asked ⊢
      dsimp only at asked
      split at asked
      next absent =>
        cases asked
        refine ⟨?_, by simp [NamesDirectory, found]⟩
        rintro ⟨⟩
        cases absent
      next => cases asked

theorem blockOf_ok (wf : v.WellFormed) (given : blockOf v cwd p = .ok ps) :
    (∀ q, ¬Refused v cwd p q) ∧ IsBlock v cwd p ps := by
  obtain ⟨b, asked, rest⟩ := bind_ok_iff.mp given
  obtain ⟨fits, directory⟩ := isDirectory?_ok asked
  cases b with
  | true =>
      obtain ⟨dir, found, there⟩ := directory.mp rfl
      obtain ⟨fit, sorted, exact⟩ := Volume.filesIn?_ok wf found rest
      refine ⟨?_, .files ⟨found, there⟩ sorted exact⟩
      rintro q (long | ⟨found', there', long⟩)
      · exact fits long
      · cases found'.symm.trans found
        exact fit _ _ there' long
  | false =>
      cases rest
      have other : ∀ dir, ¬NamesDirectory v cwd p dir := fun dir names =>
        Bool.false_ne_true (directory.mpr ⟨dir, names⟩)
      refine ⟨?_, .itself other⟩
      rintro q (long | ⟨found, there, long⟩)
      · exact fits long
      · exact other _ ⟨found, wf.directory_above there⟩

theorem blockOf_error (wf : v.WellFormed) (failed : blockOf v cwd p = .error f) :
    ∃ q, Refused v cwd p q ∧ f = .system .nameTooLong q.text none := by
  rcases bind_error_iff.mp failed with refused | ⟨b, asked, rest⟩
  · obtain ⟨long, same⟩ := Volume.ask_error refused
    exact ⟨p, .argument long, same⟩
  · cases b with
    | true =>
        obtain ⟨dir, found, there⟩ := (isDirectory?_ok asked).2.mp rfl
        obtain ⟨name, e, inside, long, same⟩ := Volume.filesIn?_error wf found there rest
        exact ⟨p.child name, .inside found inside long, same⟩
    | false => cases rest

/-! ## All arguments -/

/-- Paths that are found are the blocks of the arguments, and none that was asked about is too
long. -/
theorem expandPaths_ok (wf : v.WellFormed) {args : List String}
    (returned : expandPaths v cwd args = .ok ps) :
    (∀ s ∈ args, ∀ q, ¬Refused v cwd (.ofText s) q) ∧ ∃ blocks,
      List.Forall₂ (fun s block => IsBlock v cwd (.ofText s) block) args blocks ∧
        ps = blocks.flatten := by
  rw [expandPaths_eq] at returned
  obtain ⟨blocks, each, same⟩ := map_ok_iff.mp returned
  have both := (mapM_ok_iff.mp each).imp fun s block done => blockOf_ok wf done
  obtain ⟨fits, areBlocks⟩ := (List.forall₂_and_left args blocks).mp both
  exact ⟨fits, blocks, areBlocks, same.symm⟩

theorem expandPaths_error (wf : v.WellFormed) {args : List String}
    (failed : expandPaths v cwd args = .error f) :
    ∃ s ∈ args, ∃ q, Refused v cwd (.ofText s) q ∧ f = .system .nameTooLong q.text none := by
  rw [expandPaths_eq] at failed
  obtain ⟨s, member, refused⟩ := mapM_error (map_error_iff.mp failed)
  exact ⟨s, member, blockOf_error wf refused⟩

/-- The paths of a command are found just if none of the paths that are asked about is too long,
and are the blocks of its arguments then. Otherwise the failure is about one that is too long. -/
theorem expandPaths_returns_iff (wf : v.WellFormed) (cwd : Path) (args : List String) :
    ((∃ ps, expandPaths v cwd args = .ok ps) ↔
        ∀ s ∈ args, ∀ q, ¬Refused v cwd (.ofText s) q) ∧
      (∀ ps, expandPaths v cwd args = .ok ps →
        ∃ blocks, List.Forall₂ (fun s block => IsBlock v cwd (.ofText s) block) args blocks ∧
          ps = blocks.flatten) ∧
      ∀ f, expandPaths v cwd args = .error f →
        ∃ s ∈ args, ∃ q, Refused v cwd (.ofText s) q ∧ f = .system .nameTooLong q.text none := by
  refine ⟨⟨fun ⟨ps, returned⟩ => (expandPaths_ok wf returned).1, ?_⟩,
    fun ps returned => (expandPaths_ok wf returned).2, fun f failed => expandPaths_error wf failed⟩
  intro fits
  cases found : expandPaths v cwd args with
  | ok ps => exact ⟨ps, rfl⟩
  | error f =>
      obtain ⟨s, member, q, long, -⟩ := expandPaths_error wf found
      exact absurd long (fits s member q)

/-! ## A small tree -/

/-- A directory with two photos, a directory and a link. -/
def album (target : String) : Volume :=
  ⟨[(["d"], .directory), (["b", "d"], .file 0), (["a", "d"], .file 1), (["e", "d"], .directory),
    (["l", "d"], .link target)], [(0, []), (1, [])]⟩

variable {target : String}

theorem album_wellFormed : (album target).WellFormed where
  distinct := by
    have places : (album target).entries.map Prod.fst =
        [["d"], ["b", "d"], ["a", "d"], ["e", "d"], ["l", "d"]] := rfl
    rw [places]
    decide
  placed := by
    have named : ∀ name ∈ ["d", "b", "a", "e", "l"], Path.IsName name := by decide
    have inside : Volume.entry? (album target) ["d"] = some .directory := rfl
    rintro e (_ | ⟨_, _ | ⟨_, _ | ⟨_, _ | ⟨_, _ | ⟨_, impossible⟩⟩⟩⟩⟩)
    · exact ⟨named "d" (by simp), Volume.entry?_root _⟩
    · exact ⟨named "b" (by simp), inside⟩
    · exact ⟨named "a" (by simp), inside⟩
    · exact ⟨named "e" (by simp), inside⟩
    · exact ⟨named "l" (by simp), inside⟩
    · cases impossible

theorem album_sortedNames : (album target).sortedNames ["d"] = ["a", "b", "e", "l"] := by
  have names : (album target).namesIn ["d"] = ["b", "a", "e", "l"] := rfl
  have perm : ((album target).sortedNames ["d"]).Perm ["a", "b", "e", "l"] :=
    (List.mergeSort_perm _ _).trans (names ▸ .swap "a" "b" ["e", "l"])
  have sorted : ["a", "b", "e", "l"].Pairwise fun a b => a < b := by decide
  exact perm.eq_of_pairwise (fun a b _ _ below above => absurd above (String.lt_asymm below))
    (Volume.sortedNames_pairwise album_wellFormed ["d"]) sorted

/-- The way to a name in the album is the way from the album. -/
theorem album_walk (names : List String) :
    (album target).walk .followed Volume.linkLimit [] ("d" :: names) =
      (album target).walk .followed Volume.linkLimit ["d"] names :=
  Volume.walk_down (by decide) (by decide) (Volume.entry?_root _) rfl (by simp)

theorem album_found : (album target).find .followed ⟨.root, []⟩ ⟨.root, ["d"]⟩ = .ok ["d"] := by
  have walked : (album target).walk .followed Volume.linkLimit [] ["d"] = .ok ["d"] := by
    rw [album_walk, Volume.walk]
  exact Volume.find_of_walk (by decide) (by decide) walked rfl

theorem album_names : NamesDirectory (album target) ⟨.root, []⟩ ⟨.root, ["d"]⟩ ["d"] :=
  ⟨album_found, rfl⟩

/-- What is asked about a name in the album. -/
theorem album_ask {name : String} {l : Location} {e : Entry} {question : Entry → Bool}
    (clean : Path.hasNull (Path.text ⟨.root, ["d", name]⟩) = false)
    (short : Volume.octetLength (Path.text ⟨.root, ["d", name]⟩) < Volume.pathLimit)
    (walked : (album target).walk .followed Volume.linkLimit ["d"] [name] = .ok l)
    (there : Volume.entry? (album target) l = some e) :
    (album target).ask ⟨.root, []⟩ ⟨.root, ["d", name]⟩ question = .ok (question e) := by
  have found : (album target).find .followed ⟨.root, []⟩ ⟨.root, ["d", name]⟩ = .ok l :=
    Volume.find_of_walk clean short ((album_walk [name]).trans walked) there
  rw [Volume.ask, Volume.look_of_find found there]

theorem album_ask_plain {name : String} {e : Entry} {question : Entry → Bool}
    (named : Path.IsName name) (fits : Volume.octetLength name ≤ Volume.nameLimit)
    (clean : Path.hasNull (Path.text ⟨.root, ["d", name]⟩) = false)
    (short : Volume.octetLength (Path.text ⟨.root, ["d", name]⟩) < Volume.pathLimit)
    (there : Volume.entry? (album target) [name, "d"] = some e)
    (noLink : ∀ text, e ≠ .link text) :
    (album target).ask ⟨.root, []⟩ ⟨.root, ["d", name]⟩ question = .ok (question e) := by
  have walked : (album target).walk .followed Volume.linkLimit ["d"] [name] = .ok [name, "d"] := by
    rw [Volume.walk_down named fits rfl there noLink, Volume.walk]
  exact album_ask clean short walked there

/-- The album stands for its photos and the link to one of them, in the order of their names. -/
theorem expandPaths_returns_iff_album :
    (album "b").WellFormed ∧
      expandPaths (album "b") ⟨.root, []⟩ ["/d", "/d/a"] =
        .ok [⟨.root, ["d", "a"]⟩, ⟨.root, ["d", "b"]⟩, ⟨.root, ["d", "l"]⟩, ⟨.root, ["d", "a"]⟩] ∧
      ∃ blocks, List.Forall₂ (fun s block => IsBlock (album "b") ⟨.root, []⟩ (.ofText s) block)
        ["/d", "/d/a"] blocks ∧
          [⟨.root, ["d", "a"]⟩, ⟨.root, ["d", "b"]⟩, ⟨.root, ["d", "l"]⟩, ⟨.root, ["d", "a"]⟩] =
            blocks.flatten := by
  have wf : (album "b").WellFormed := album_wellFormed
  have photo (question : Entry → Bool) : (album "b").ask ⟨.root, []⟩ ⟨.root, ["d", "a"]⟩ question =
      .ok (question (.file 1)) :=
    album_ask_plain (by decide) (by decide) (by decide) (by decide) rfl (by simp)
  have other (question : Entry → Bool) : (album "b").ask ⟨.root, []⟩ ⟨.root, ["d", "b"]⟩ question =
      .ok (question (.file 0)) :=
    album_ask_plain (by decide) (by decide) (by decide) (by decide) rfl (by simp)
  have inner (question : Entry → Bool) : (album "b").ask ⟨.root, []⟩ ⟨.root, ["d", "e"]⟩ question =
      .ok (question .directory) :=
    album_ask_plain (by decide) (by decide) (by decide) (by decide) rfl (by simp)
  have linked : (album "b").ask ⟨.root, []⟩ ⟨.root, ["d", "l"]⟩ Volume.isRegular = .ok true := by
    have walked : (album "b").walk .followed Volume.linkLimit ["d"] ["l"] = .ok ["b", "d"] := by
      rw [Volume.linkLimit, Volume.walk_link_name (by decide) (by decide) rfl rfl (by decide),
        Volume.walk_down (by decide) (by decide) rfl rfl (by simp), Volume.walk]
    exact album_ask (by decide) (by decide) walked rfl
  have listed : (album "b").filesIn? ⟨.root, []⟩ ⟨.root, ["d"]⟩ =
      .ok [⟨.root, ["d", "a"]⟩, ⟨.root, ["d", "b"]⟩, ⟨.root, ["d", "l"]⟩] := by
    simp [Volume.filesIn?, album_found, album_names.2, album_sortedNames, Volume.regularFiles,
      Path.child, photo, other, inner, linked, Volume.isRegular, Except.map]
  have directory : (album "b").isDirectory? ⟨.root, []⟩ ⟨.root, ["d"]⟩ = .ok true := by
    simp [Volume.isDirectory?, Volume.ask, Volume.look, album_found, album_names.2]
  have file : (album "b").isDirectory? ⟨.root, []⟩ ⟨.root, ["d", "a"]⟩ = .ok false := photo _
  have first : Path.ofText "/d" = ⟨.root, ["d"]⟩ := by decide
  have second : Path.ofText "/d/a" = ⟨.root, ["d", "a"]⟩ := by decide
  have returned : expandPaths (album "b") ⟨.root, []⟩ ["/d", "/d/a"] =
      .ok [⟨.root, ["d", "a"]⟩, ⟨.root, ["d", "b"]⟩, ⟨.root, ["d", "l"]⟩, ⟨.root, ["d", "a"]⟩] := by
    simp [expandPaths_eq, blockOf, first, second, directory, listed, file, ok_bind, Except.map,
      pure, Except.pure]
  exact ⟨wf, returned, (expandPaths_returns_iff wf ⟨.root, []⟩ ["/d", "/d/a"]).2.1 _ returned⟩

/-! ## Names that are too long -/

section TooLong

variable {long : String} (named : Path.IsName long)
  (tooLong : Volume.nameLimit < Volume.octetLength long)

include named tooLong

theorem album_refused :
    Refused (album long) ⟨.root, []⟩ ⟨.root, ["d"]⟩ (.child ⟨.root, ["d"]⟩ "l") := by
  refine .inside album_found rfl (Volume.look_of_walk_tooLong (by decide) ?_)
  apply (album_walk ["l"]).trans
  rw [Volume.linkLimit, Volume.walk_link_name (by decide) (by decide) rfl rfl named,
    Volume.walk_tooLong named tooLong rfl]

theorem tooLong_name (v : Volume) : v.TooLong ⟨.root, []⟩ ⟨.relative, [long]⟩ := by
  have clean : Path.hasNull (Path.text ⟨.relative, [long]⟩) = false := by
    rw [← Bool.not_eq_true, Path.hasNull_text]
    simp [named.2.2.2.2]
  exact Volume.look_of_walk_tooLong clean (Volume.walk_tooLong named tooLong (Volume.entry?_root v))

/-- Where the link has a name that is too long for its target, the whole album is lost. -/
theorem album_lost : ¬∃ ps, expandPaths (album long) ⟨.root, []⟩ ["/d"] = .ok ps := by
  have wf : (album long).WellFormed := album_wellFormed
  have directory : Path.ofText "/d" = ⟨.root, ["d"]⟩ := by decide
  rintro ⟨ps, returned⟩
  have fits := (expandPaths_ok wf returned).1 "/d" (by simp)
  rw [directory] at fits
  exact fits _ (album_refused named tooLong)

/-- A name that is too long names no directory and does not stand for itself. -/
theorem longArgument_lost (wf : v.WellFormed) :
    (∀ dir, ¬NamesDirectory v ⟨.root, []⟩ (.ofText long) dir) ∧
      ¬∃ ps, expandPaths v ⟨.root, []⟩ [long] = .ok ps := by
  have name : Path.ofText long = ⟨.relative, [long]⟩ :=
    Path.ofText_of_no_slash named.1 named.2.1 named.2.2.2.1
  have refused := tooLong_name named tooLong v
  constructor
  · rintro dir ⟨found, -⟩
    rw [name] at found
    simp [Volume.TooLong, Volume.look, found] at refused
  · rintro ⟨ps, returned⟩
    have fits := (expandPaths_ok wf returned).1 long (by simp)
    rw [name] at fits
    exact fits _ (.argument refused)

end TooLong

/-- A link to a name of 256 letters takes the whole album away, and the name as an argument stands
for nothing. -/
theorem longName_stops :
    let long := Rename.lettersName 256
    (album long).WellFormed ∧ NamesDirectory (album long) ⟨.root, []⟩ (.ofText "/d") ["d"] ∧
      (album long).HasFile ⟨.root, []⟩ (.ofText "/d") ["d"] "a" ∧
      (¬∃ ps, expandPaths (album long) ⟨.root, []⟩ ["/d"] = .ok ps) ∧
      (∀ dir, ¬NamesDirectory (album long) ⟨.root, []⟩ (.ofText long) dir) ∧
      ¬∃ ps, expandPaths (album long) ⟨.root, []⟩ [long] = .ok ps := by
  intro long
  have named : Path.IsName long := Rename.lettersName_isName 255
  have tooLong : Volume.nameLimit < Volume.octetLength long := by
    rw [Rename.octetLength_lettersName]
    decide
  have directory : Path.ofText "/d" = ⟨.root, ["d"]⟩ := by decide
  rw [directory]
  exact ⟨album_wellFormed, album_names, .inl ⟨1, rfl⟩, album_lost named tooLong,
    longArgument_lost named tooLong album_wellFormed⟩

end MediaNaming.Cli
