import MediaNaming.Cli.Arguments
import MediaNaming.Proofs.Cli.Sorting
/-!
# Reading requests

The two commands read their words in the same way, except that `rename` knows one option more:
the switch for a dry run. Whatever `rename` would carry out, `plan` reads as well, and so does
`rename` with the switch behind it, as long as no two hyphens make a path of the switch.
-/

namespace MediaNaming.Cli

variable {c : Command} {r : Request} {args : List String} {ws : List Word} {t : Grammar.Scan}
  {extras : List String}

/-- The request that options and arguments make. -/
def Command.request (c : Command) (given : List (OptionSpec × OptionValue))
    (paths : List String) : Request :=
  { command := c
    paths := paths.erase "--"
    scheme := lastValue? given schemeOption
    substitute := lastValue? given substituteOption
    dryRun := c = .plan || (lastValue? given dryRunOption).isSome
    verbose := (lastValue? given verboseOption).isSome
    quiet := (lastValue? given quietOption).isSome }

theorem Command.read_ok :
    c.read args = .ok (r, extras) ↔
      ∃ t paths, c.grammar.scan args = .ok t ∧ t.arguments = some paths ∧
        r = c.request t.given paths ∧ extras = t.extras := by
  rw [Command.read, bind_ok_iff]
  constructor
  · intro accepted
    obtain ⟨t, scanned, built⟩ := accepted
    split at built
    next => cases built
    next paths given =>
      cases built
      exact ⟨t, paths, scanned, given, rfl, rfl⟩
  · intro found
    obtain ⟨t, paths, scanned, given, request, left⟩ := found
    refine ⟨t, scanned, ?_⟩
    rw [given, request, left]
    rfl

/-- Only the substitute of a request is checked. -/
theorem checkSubstitute_ok {q : Request} (checked : checkSubstitute q = .ok r) :
    r = q ∧ ∀ p : Request, p.substitute = q.substitute → checkSubstitute p = .ok p := by
  rw [checkSubstitute] at checked
  split at checked
  next none =>
    cases checked
    refine ⟨rfl, ?_⟩
    intro p same
    rw [checkSubstitute, same, none]
  next v some =>
    split at checked
    next valid =>
      cases checked
      refine ⟨rfl, ?_⟩
      intro p same
      rw [checkSubstitute, same, some]
      exact if_pos valid
    next => cases checked

/-- The name of a command takes all words behind it. -/
theorem programGrammar_scan (c : Command) {found : Grammar.Scan} :
    programGrammar.scan (c.title :: args) = .ok found ↔
      (∃ ws, programGrammar.roles args = .ok ws) ∧ found = ⟨[], some (c.title :: args), []⟩ := by
  have notSeparator : c.title ≠ "--" := by cases c <;> decide
  have argument : programGrammar.roleOf c.title = .ok .argument := by cases c <;> rfl
  have sorted : ∀ {ws : List Word}, programGrammar.roles args = .ok ws →
      programGrammar.sortWords (ws.length + 2) (⟨c.title, .argument⟩ :: ws) ⟨[], none, []⟩ =
        .ok ⟨[], some (c.title :: args), []⟩ := by
    intro ws roled
    have counted : programGrammar.positionalCount? (⟨c.title, .argument⟩ :: ws) =
        some (ws.length + 1) := rfl
    have taken : programGrammar.takeArguments? (⟨c.title, .argument⟩ :: ws) ⟨[], none, []⟩ =
        some (⟨[], some (c.title :: args), []⟩, []) := by
      rw [Grammar.takeArguments?, counted, ← Grammar.roles_text roled]
      simp
    rw [Grammar.sortWords, taken]
    rfl
  rw [Grammar.scan, Grammar.roles_cons notSeparator, bind_ok_iff]
  constructor
  · intro found
    obtain ⟨all, roles, scanned⟩ := found
    obtain ⟨role, known, further⟩ := bind_ok_iff.mp roles
    obtain ⟨ws, roled, same⟩ := bind_ok_iff.mp further
    rw [argument] at known
    cases known
    cases same
    rw [List.length_cons, sorted roled] at scanned
    cases scanned
    exact ⟨⟨ws, roled⟩, rfl⟩
  · intro known
    obtain ⟨⟨ws, roled⟩, same⟩ := known
    refine ⟨⟨c.title, .argument⟩ :: ws, ?_, ?_⟩
    · rw [argument, roled]
      rfl
    · rw [List.length_cons, sorted roled, same]

/-- A command line is accepted if its words have roles and the command accepts them. -/
theorem Request.read_ok :
    Request.read (c.title :: args) = .ok r ↔
      (∃ ws, programGrammar.roles args = .ok ws) ∧ c.read args = .ok (r, []) ∧
        checkSubstitute r = .ok r := by
  have named : Command.ofTitle c.title = .ok c := by cases c <;> rfl
  rw [Request.read, bind_ok_iff]
  constructor
  · intro processed
    obtain ⟨found, scanned, accepted⟩ := processed
    obtain ⟨roled, same⟩ := (programGrammar_scan c).mp scanned
    rw [same] at accepted
    obtain ⟨command, known, further⟩ := bind_ok_iff.mp accepted
    rw [named] at known
    cases known
    obtain ⟨⟨q, extras⟩, read, checked⟩ := bind_ok_iff.mp further
    simp only [List.nil_append] at checked
    split at checked
    next none =>
      obtain ⟨same, anyOther⟩ := checkSubstitute_ok checked
      rw [List.isEmpty_iff] at none
      rw [same, ← none]
      exact ⟨roled, read, anyOther q rfl⟩
    next => cases checked
  · intro parts
    obtain ⟨roled, read, checked⟩ := parts
    refine ⟨_, (programGrammar_scan c).mpr ⟨roled, rfl⟩, ?_⟩
    apply bind_ok_iff.mpr
    refine ⟨c, named, ?_⟩
    apply bind_ok_iff.mpr
    exact ⟨(r, []), read, checked⟩

/-! ## The two commands -/

theorem rename_extends_plan :
    Grammar.Extends Command.rename.grammar Command.plan.grammar "--dry-run" dryRunOption where
  names := rfl
  positional := rfl
  long := by decide

theorem lastValue?_eq_none_iff {given : List (OptionSpec × OptionValue)} {o : OptionSpec} :
    lastValue? given o = none ↔ o ∉ given.map Prod.fst := by
  rw [lastValue?, List.lookup_eq_none_iff]
  constructor
  · intro all member
    obtain ⟨e, listed, same⟩ := List.mem_map.mp member
    have different := all e (List.mem_reverse.mpr listed)
    simp [same] at different
  · intro absent e listed
    have different : o ≠ e.1 := by
      intro same
      rw [same] at absent
      exact absent (List.mem_map_of_mem (List.mem_reverse.mp listed))
    simpa using different

/-- What an option was given last does not matter to others. -/
theorem lastValue?_concat (given : List (OptionSpec × OptionValue)) {o p : OptionSpec}
    (value : OptionValue) (other : o ≠ p) :
    lastValue? (given ++ [(p, value)]) o = lastValue? given o := by
  have different : (o == p) = false := beq_eq_false_iff_ne.mpr other
  rw [lastValue?, List.reverse_concat, List.lookup_cons, different, lastValue?]

/-- The switch for a dry run is among the options given if it is among the words. -/
theorem dryRun_of_word {paths : List String}
    (sorted : Command.rename.grammar.sortWords (ws.length + 1) ws ⟨[], none, []⟩ = .ok t)
    {w : Word} (member : w ∈ ws) {f : Found} (role : w.role = .option f)
    (named : f.option = some dryRunOption) :
    (Command.rename.request t.given paths).dryRun = true := by
  obtain ⟨added, given, switches⟩ :=
    Grammar.sortWords_given rfl (Nat.lt_succ_self _) sorted
  have there := switches w member f dryRunOption role named (by decide)
  rw [List.nil_append] at given
  rw [← given] at there
  have someValue : (lastValue? t.given dryRunOption).isSome = true := by
    rw [← Option.ne_none_iff_isSome]
    intro none
    exact lastValue?_eq_none_iff.mp none there
  simp [Command.request, someValue]

/-- The words of a command, sorted. -/
theorem Command.read_sorted :
    c.read args = .ok (r, []) ↔
      ∃ ws t paths, c.grammar.roles args = .ok ws ∧
        c.grammar.sortWords (ws.length + 1) ws ⟨[], none, []⟩ = .ok t ∧
        t.arguments = some paths ∧ t.extras = [] ∧ r = c.request t.given paths := by
  rw [Command.read_ok]
  constructor
  · intro accepted
    obtain ⟨t, paths, scanned, arguments, same, extras⟩ := accepted
    obtain ⟨ws, roled, sorted⟩ := bind_ok_iff.mp scanned
    exact ⟨ws, t, paths, roled, sorted, arguments, extras.symm, same⟩
  · intro found
    obtain ⟨ws, t, paths, roled, sorted, arguments, extras, same⟩ := found
    refine ⟨t, paths, ?_, arguments, same, extras.symm⟩
    exact bind_ok_iff.mpr ⟨ws, roled, sorted⟩

theorem Request.read_plan (accepted : Request.read ("plan" :: args) = .ok r) :
    r.dryRun = true := by
  obtain ⟨-, read, -⟩ := (Request.read_ok (c := .plan)).mp accepted
  obtain ⟨ws, t, paths, -, -, -, -, same⟩ := Command.read_sorted.mp read
  rw [same]
  rfl

/-- The switch for a dry run as a word behind `rename`. -/
def dryRunWord : Word := ⟨"--dry-run", .option ⟨some dryRunOption, none⟩⟩

theorem roles_dryRun : Command.rename.grammar.roles ["--dry-run"] = .ok [dryRunWord] := rfl

/-- In front of a command the switch has no meaning. -/
theorem programGrammar_roles_dryRun :
    programGrammar.roles ["--dry-run"] = .ok [⟨"--dry-run", .option ⟨none, none⟩⟩] := rfl

/-- Behind all other words the switch makes a dry run of a request. -/
theorem request_dryRun (given : List (OptionSpec × OptionValue)) (paths : List String) :
    Command.rename.request (given ++ [(dryRunOption, .ofWord "")]) paths =
      { Command.rename.request given paths with dryRun := true } := by
  have some : (lastValue? (given ++ [(dryRunOption, .ofWord "")]) dryRunOption).isSome = true := by
    simp [lastValue?]
  rw [Command.request, Command.request, some, lastValue?_concat given _ (by decide),
    lastValue?_concat given _ (by decide), lastValue?_concat given _ (by decide),
    lastValue?_concat given _ (by decide)]
  rfl

/-- Behind words without two hyphens the switch is not taken for a path. -/
theorem Request.read_dryRun (noSeparator : "--" ∉ args)
    (accepted : Request.read ("rename" :: (args ++ ["--dry-run"])) = .ok r) :
    r.dryRun = true := by
  obtain ⟨-, read, -⟩ := (Request.read_ok (c := .rename)).mp accepted
  obtain ⟨ws, t, paths, roled, sorted, -, -, same⟩ := Command.read_sorted.mp read
  obtain ⟨front, back, -, last, joined⟩ := Grammar.roles_front noSeparator _ roled
  rw [roles_dryRun] at last
  cases last
  have member : dryRunWord ∈ ws := by
    rw [joined]
    simp
  rw [same]
  exact dryRun_of_word sorted member rfl rfl

/-- What `rename` reads and would carry out, `plan` reads too, and so does `rename` with the
switch for a dry run behind it. -/
theorem Request.read_rename (accepted : Request.read ("rename" :: args) = .ok r)
    (wet : r.dryRun = false) :
    Request.read ("plan" :: args) = .ok { r with command := .plan, dryRun := true } ∧
      ("--" ∉ args →
        Request.read ("rename" :: (args ++ ["--dry-run"])) = .ok { r with dryRun := true }) := by
  obtain ⟨⟨vs, known⟩, read, checked⟩ := (Request.read_ok (c := .rename)).mp accepted
  obtain ⟨ws, t, paths, roled, sorted, arguments, extras, same⟩ := Command.read_sorted.mp read
  have anyOther := (checkSubstitute_ok checked).2
  have noSwitch : lastValue? t.given dryRunOption = none := by
    rw [same] at wet
    simpa [Command.request] using wet
  constructor
  · apply (Request.read_ok (c := .plan)).mpr
    refine ⟨⟨vs, known⟩, ?_, anyOther _ rfl⟩
    apply Command.read_sorted.mpr
    have planRoled : Command.plan.grammar.roles args = .ok ws := by
      apply rename_extends_plan.roles_other roled
      intro w member f role named
      have dry : (Command.rename.request t.given paths).dryRun = true :=
        dryRun_of_word sorted member role named
      rw [← same, wet] at dry
      cases dry
    have letters : Command.plan.grammar.letter? = Command.rename.grammar.letter? := by
      funext letter
      exact (rename_extends_plan.letter? letter).symm
    have planSorted := Grammar.sortWords_other rfl rfl letters sorted
    refine ⟨ws, t, paths, planRoled, planSorted, arguments, extras, ?_⟩
    rw [same]
    rfl
  · intro noSeparator
    apply (Request.read_ok (c := .rename)).mpr
    have program := Grammar.roles_append noSeparator _ known programGrammar_roles_dryRun
    refine ⟨⟨_, program⟩, ?_, anyOther _ rfl⟩
    apply Command.read_sorted.mpr
    have addedRoled := Grammar.roles_append noSeparator _ roled roles_dryRun
    have addedSorted := Grammar.sortWords_concat rfl (Nat.lt_succ_self _)
      (show dryRunWord.role = .option ⟨some dryRunOption, none⟩ from rfl) rfl sorted
    refine ⟨_, { t with given := t.given ++ [(dryRunOption, .ofWord "")] }, paths, addedRoled, ?_,
      arguments, extras, ?_⟩
    · rw [List.length_append]
      exact addedSorted
    · rw [same]
      exact (request_dryRun t.given paths).symm

end MediaNaming.Cli
