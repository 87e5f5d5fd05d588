import Mathlib.Data.List.TakeDrop
import MediaNaming.Cli.Options
import MediaNaming.Proofs.Outcome
/-!
# Sorting the words of a command line

Sorting goes from option to option: words in front of one are passed, and an option may use the
word behind it. Two things follow by induction along this way. A grammar that knows one option
more sorts words without this option as before, and a switch behind all words adds nothing but
itself. Both are about command lines that are accepted: a refusal names the command that refuses.
-/

namespace MediaNaming.Cli

namespace Grammar

variable {g h : Grammar} {o : OptionSpec} {w d : Word} {f : Found} {s t : Scan}
  {ws rest more : List Word} {words : List String} {role : Role} {fuel : Nat}

/-! ## Words -/

theorem isOption_of_isArgument (argument : w.isArgument = true) : w.isOption = false := by
  unfold Word.isArgument at argument
  unfold Word.isOption
  split at argument
  next known => rw [known]
  next => cases argument

theorem roles_cons {s : String} (notSeparator : s ≠ "--") (words : List String) :
    g.roles (s :: words) = do
      let role ← g.roleOf s
      return ⟨s, role⟩ :: (← g.roles words) := by
  rw [roles, if_neg notSeparator]

/-- Words with their roles are the words of the command line. -/
theorem roles_text (found : g.roles words = .ok ws) : ws.map Word.text = words := by
  induction words generalizing ws with
  | nil =>
      cases found
      rfl
  | cons s words ih =>
      by_cases separator : s = "--"
      · rw [roles, if_pos separator] at found
        cases found
        simp [Function.comp_def]
      · rw [roles_cons separator] at found
        obtain ⟨role, -, further⟩ := bind_ok_iff.mp found
        obtain ⟨vs, roled, same⟩ := bind_ok_iff.mp further
        cases same
        rw [List.map_cons, ih roled]

/-- Without two hyphens among them, words have the roles that they have alone. -/
theorem roles_append (noSeparator : "--" ∉ words) (behind : List String)
    (found : g.roles words = .ok ws) (next : g.roles behind = .ok more) :
    g.roles (words ++ behind) = .ok (ws ++ more) := by
  induction words generalizing ws with
  | nil =>
      cases found
      exact next
  | cons s words ih =>
      rw [List.mem_cons, not_or] at noSeparator
      rw [roles_cons (Ne.symm noSeparator.1)] at found
      obtain ⟨role, known, further⟩ := bind_ok_iff.mp found
      obtain ⟨vs, roled, same⟩ := bind_ok_iff.mp further
      cases same
      rw [List.cons_append, roles_cons (Ne.symm noSeparator.1), known, ih noSeparator.2 roled]
      rfl

/-- The words in front of others have roles if all words have. -/
theorem roles_front (noSeparator : "--" ∉ words) (behind : List String)
    (found : g.roles (words ++ behind) = .ok ws) :
    ∃ front back, g.roles words = .ok front ∧ g.roles behind = .ok back ∧ ws = front ++ back := by
  induction words generalizing ws with
  | nil => exact ⟨[], ws, rfl, found, rfl⟩
  | cons s words ih =>
      rw [List.mem_cons, not_or] at noSeparator
      rw [List.cons_append, roles_cons (Ne.symm noSeparator.1)] at found
      obtain ⟨role, known, further⟩ := bind_ok_iff.mp found
      obtain ⟨vs, roled, same⟩ := bind_ok_iff.mp further
      obtain ⟨front, back, frontRoled, backRoled, joined⟩ := ih noSeparator.2 roled
      cases same
      refine ⟨⟨s, role⟩ :: front, back, ?_, backRoled, ?_⟩
      · rw [roles_cons (Ne.symm noSeparator.1), known, frontRoled]
        rfl
      · rw [joined, List.cons_append]

/-! ## One option more -/

/-- A grammar that knows the option of one further name. -/
structure Extends (h g : Grammar) (name : String) (o : OptionSpec) : Prop where
  names : h.names = g.names ++ [(name, o)]
  positional : h.positional = g.positional
  /-- The further name is not that of a letter. -/
  long : name.length ≠ 2

namespace Extends

variable {name : String} (larger : Extends h g name o)

include larger

theorem lookup_names (k : String) :
    h.names.lookup k = (g.names.lookup k).or (if k = name then some o else none) := by
  rw [larger.names, List.lookup_append]
  congr 1
  by_cases same : k = name
  · simp [same]
  · have other : (k == name) = false := beq_eq_false_iff_ne.mpr same
    rw [if_neg same, List.lookup_cons, other]
    rfl

theorem letter? (c : Char) : h.letter? c = g.letter? c := by
  have other : String.ofList ['-', c] ≠ name := by
    intro same
    apply larger.long
    rw [← same, String.length_ofList]
    rfl
  rw [Grammar.letter?, larger.lookup_names, if_neg other, Option.or_none, Grammar.letter?]

theorem lookup_other {k : String} {p : OptionSpec} (found : h.names.lookup k = some p)
    (other : p ≠ o) : g.names.lookup k = some p := by
  rw [larger.lookup_names, Option.or_eq_some_iff] at found
  rcases found with here | ⟨-, last⟩
  · exact here
  · split at last
    next =>
      cases last
      exact absurd rfl other
    next => cases last

theorem lookup_none {k : String} (found : h.names.lookup k = none) :
    g.names.lookup k = none := by
  rw [larger.lookup_names, Option.or_eq_none_iff] at found
  exact found.1

theorem named_other {cs : List Char} (found : h.named? cs = some f) (other : f.option ≠ some o) :
    g.named? cs = some f := by
  rw [named?] at found ⊢
  split at found
  next p known =>
    cases found
    have notLast : p ≠ o := fun same => other (congrArg some same)
    rw [larger.lookup_other known notLast]
  next unknown =>
    rw [larger.lookup_none unknown]
    split at found
    next front value cut =>
      obtain ⟨p, known, same⟩ := Option.map_eq_some_iff.mp found
      cases same
      have notLast : p ≠ o := fun same => other (congrArg some same)
      simp [larger.lookup_other known notLast]
    next => cases found

theorem named_none {cs : List Char} (found : h.named? cs = none) : g.named? cs = none := by
  rw [named?] at found ⊢
  split at found
  next => cases found
  next unknown =>
    rw [larger.lookup_none unknown]
    split at found
    next front value cut =>
      simp [larger.lookup_none (Option.map_eq_none_iff.mp found)]
    next => rfl

/-- The further candidates are the further option. -/
theorem candidates_append (cs : List Char) :
    ∃ extra, h.candidates cs = g.candidates cs ++ extra ∧
      ∀ e ∈ extra, e.2.option = some o := by
  have parted (find : String × OptionSpec → Option (String × Found))
      (own : ∀ e c, find e = some c → c.2.option = some e.2) :
      ∃ extra, h.names.filterMap find = g.names.filterMap find ++ extra ∧
        ∀ e ∈ extra, e.2.option = some o := by
    refine ⟨[(name, o)].filterMap find, ?_, ?_⟩
    · rw [larger.names, List.filterMap_append]
    · intro e member
      obtain ⟨last, single, found⟩ := List.mem_filterMap.mp member
      rw [List.mem_singleton.mp single] at found
      exact own _ e found
  unfold candidates
  split
  next =>
    unfold longMatches
    generalize cutAtEquals _ = cut
    apply parted
    intro (key, option) c found
    simp only at found
    split at found
    next =>
      cases found
      rfl
    next => cases found
  next =>
    apply parted
    intro (key, option) c found
    simp only at found
    split at found
    next =>
      cases found
      rfl
    next =>
      split at found
      next =>
        cases found
        rfl
      next => cases found

/-- A word that is not the further option has one role in both grammars. -/
theorem roleOf_other {s : String} (found : h.roleOf s = .ok role)
    (other : ∀ f, role = .option f → f.option ≠ some o) : g.roleOf s = .ok role := by
  unfold roleOf at found ⊢
  split at found
  next tail hyphen =>
    simp only at found ⊢
    split at found
    next alone =>
      rw [if_pos alone]
      exact found
    next more =>
      rw [if_neg more]
      split at found
      next f known =>
        cases found
        rw [larger.named_other known (other f rfl)]
      next unknown =>
        rw [larger.named_none unknown]
        obtain ⟨extra, parts, further⟩ := larger.candidates_append ('-' :: tail)
        rw [parts] at found
        -- Two candidates are one too many, so the further one stands alone or not at all.
        cases front : g.candidates ('-' :: tail) with
        | nil =>
            cases extra with
            | nil =>
                rw [front] at found
                exact found
            | cons e extra =>
                rw [front] at found
                cases extra with
                | nil =>
                    cases found
                    exact absurd (further e List.mem_cons_self) (other e.2 rfl)
                | cons next extra => cases found
        | cons first others =>
            rw [front] at found
            cases others with
            | nil =>
                cases extra with
                | nil => exact found
                | cons e extra => cases found
            | cons second others => cases found
  next => exact found

/-- Words that are not the further option have the same roles in both grammars. -/
theorem roles_other (found : h.roles words = .ok ws)
    (other : ∀ w ∈ ws, ∀ f, w.role = .option f → f.option ≠ some o) : g.roles words = .ok ws := by
  induction words generalizing ws with
  | nil =>
      cases found
      rfl
  | cons s words ih =>
      by_cases separator : s = "--"
      · rw [roles, if_pos separator] at found ⊢
        exact found
      · rw [roles_cons separator] at found ⊢
        obtain ⟨role, known, further⟩ := bind_ok_iff.mp found
        obtain ⟨vs, roled, same⟩ := bind_ok_iff.mp further
        cases same
        have here := larger.roleOf_other known (other _ List.mem_cons_self)
        have behind := ih roled fun w member => other w (List.mem_cons_of_mem _ member)
        rw [here, behind]
        rfl

end Extends

/-! ## Taking options -/

/-- The words that are left when words in front, none of them an option, have been used. -/
def Behind (more rest : List Word) : Prop :=
  ∃ used, rest = used ++ more ∧ ∀ w ∈ used, w.isOption = false

theorem Behind.refl (ws : List Word) : Behind ws ws :=
  ⟨[], rfl, fun _ member => absurd member List.not_mem_nil⟩

theorem Behind.length_le (behind : Behind more rest) : more.length ≤ rest.length := by
  obtain ⟨used, same, -⟩ := behind
  rw [same, List.length_append]
  exact Nat.le_add_left _ _

/-- Options are not used up. -/
theorem Behind.mem (behind : Behind more rest) (member : w ∈ rest) (isOption : w.isOption = true) :
    w ∈ more := by
  obtain ⟨used, same, noOption⟩ := behind
  rw [same] at member
  rcases List.mem_append.mp member with before | left
  · rw [noOption w before] at isOption
    cases isOption
  · exact left

/-- An option is taken in the same way by every grammar that can take it. -/
theorem take_ok {value : String} (taken : g.take o value s = .ok t) :
    t = { s with given := s.given ++ [(o, .ofWord value)] } ∧
      ∀ h : Grammar, h.take o value s = .ok t := by
  simp only [take] at taken ⊢
  split at taken
  next => cases taken
  next => cases taken
  next notHelp notVersion =>
    cases taken
    refine ⟨rfl, ?_⟩
    intro h
    rfl

theorem takeAlone_ok (taken : g.takeAlone o rest s = .ok (t, more)) :
    Behind more rest ∧ (∃ value, t = { s with given := s.given ++ [(o, value)] }) ∧
      ∀ (h : Grammar) (behind : List Word),
        h.takeAlone o (rest ++ behind) s = .ok (t, more ++ behind) := by
  simp only [takeAlone] at taken ⊢
  split at taken
  next valued =>
    split at taken
    next w others =>
      split at taken
      next argument =>
        obtain ⟨u, took, same⟩ := map_ok_iff.mp taken
        cases same
        obtain ⟨added, anywhere⟩ := take_ok took
        have used : Behind more (w :: more) := by
          refine ⟨[w], rfl, ?_⟩
          intro v member
          rw [List.mem_singleton.mp member]
          exact isOption_of_isArgument argument
        refine ⟨used, ⟨_, added⟩, ?_⟩
        intro h behind
        simp [argument, anywhere, Except.map]
      next => cases taken
    next => cases taken
  next notValued =>
    obtain ⟨u, took, same⟩ := map_ok_iff.mp taken
    cases same
    obtain ⟨added, anywhere⟩ := take_ok took
    refine ⟨Behind.refl _, ⟨_, added⟩, ?_⟩
    intro h behind
    simp [anywhere, Except.map]

theorem cluster_ok {isShort : Bool} {text : List Char} {k : Cluster}
    (found : g.cluster o isShort text = .ok k) :
    (o.kind ≠ .valued → o ∈ k.switches) ∧
      ∀ h : Grammar, h.letter? = g.letter? → h.cluster o isShort text = .ok k := by
  induction text generalizing o k with
  | nil =>
      rw [cluster] at found
      split at found
      next valued =>
        cases found
        refine ⟨fun notValued => absurd valued notValued, ?_⟩
        intro h letters
        rw [cluster, if_pos valued]
      next => cases found
  | cons c rest ih =>
      rw [cluster] at found
      split at found
      next valued =>
        cases found
        refine ⟨fun notValued => absurd valued notValued, ?_⟩
        intro h letters
        rw [cluster, if_pos valued]
      next notValued =>
        simp only at found
        split at found
        next => cases found
        next next known =>
          split at found
          next last =>
            cases found
            refine ⟨fun _ => List.mem_singleton_self o, ?_⟩
            intro h letters
            rw [cluster, if_neg notValued]
            simp [letters, known, last]
          next more =>
            obtain ⟨others, inner, same⟩ := map_ok_iff.mp found
            obtain ⟨-, anywhere⟩ := ih inner
            cases same
            refine ⟨fun _ => List.mem_cons_self, ?_⟩
            intro h letters
            rw [cluster, if_neg notValued]
            simp [letters, known, more, anywhere h letters, Except.map]

/-- Switches are taken one after another. -/
theorem takeSwitches_ok {switches : List OptionSpec}
    (taken : switches.foldlM (fun s o => g.take o "" s) s = .ok t) :
    t = { s with given := s.given ++ switches.map fun o => (o, .ofWord "") } ∧
      ∀ h : Grammar, switches.foldlM (fun s o => h.take o "" s) s = .ok t := by
  induction switches generalizing s with
  | nil =>
      cases taken
      refine ⟨by simp, ?_⟩
      intro h
      rfl
  | cons o switches ih =>
      rw [List.foldlM_cons] at taken
      obtain ⟨u, first, later⟩ := bind_ok_iff.mp taken
      obtain ⟨added, anywhere⟩ := take_ok first
      obtain ⟨addedLater, anywhereLater⟩ := ih later
      refine ⟨?_, ?_⟩
      · rw [addedLater, added]
        simp
      · intro h
        rw [List.foldlM_cons]
        apply bind_ok_iff.mpr
        exact ⟨u, anywhere h, anywhereLater h⟩

theorem takeCluster_ok {k : Cluster} (taken : g.takeCluster k rest s = .ok (t, more)) :
    Behind more rest ∧
      (∃ added, t = { s with given := s.given ++ added } ∧
        ∀ o ∈ k.switches, o ∈ added.map Prod.fst) ∧
      ∀ (h : Grammar) (behind : List Word),
        h.takeCluster k (rest ++ behind) s = .ok (t, more ++ behind) := by
  rw [takeCluster] at taken
  obtain ⟨u, switched, further⟩ := bind_ok_iff.mp taken
  obtain ⟨switches, anywhere⟩ := takeSwitches_ok switched
  split at further
  next value valued =>
    obtain ⟨x, last, same⟩ := bind_ok_iff.mp further
    obtain ⟨added, anywhereLast⟩ := take_ok last
    cases same
    refine ⟨Behind.refl _, ⟨_, by rw [added, switches, List.append_assoc], ?_⟩, ?_⟩
    · intro o member
      simp [member]
    · intro h behind
      rw [takeCluster, valued]
      apply bind_ok_iff.mpr
      refine ⟨u, anywhere h, ?_⟩
      apply bind_ok_iff.mpr
      exact ⟨t, anywhereLast h, rfl⟩
  next alone =>
    obtain ⟨left, ⟨value, added⟩, anywhereLast⟩ := takeAlone_ok further
    refine ⟨left, ⟨_, by rw [added, switches, List.append_assoc], ?_⟩, ?_⟩
    · intro o member
      simp [member]
    · intro h behind
      rw [takeCluster, alone]
      apply bind_ok_iff.mpr
      exact ⟨u, anywhere h, anywhereLast h behind⟩

/-- An option that takes no value is among those given once its word has been taken. -/
theorem takeOption_ok (taken : g.takeOption w f rest s = .ok (t, more)) :
    Behind more rest ∧
      (∃ added, t.given = s.given ++ added ∧
        ∀ o, f.option = some o → o.kind ≠ .valued → o ∈ added.map Prod.fst) ∧
      ∀ h : Grammar, h.letter? = g.letter? → ∀ behind : List Word,
        h.takeOption w f (rest ++ behind) s = .ok (t, more ++ behind) := by
  rw [takeOption] at taken
  split at taken
  next unknown =>
    cases taken
    refine ⟨Behind.refl _, ⟨[], by simp, ?_⟩, ?_⟩
    · intro o known
      rw [unknown] at known
      cases known
    · intro h letters behind
      rw [takeOption, unknown]
  next o known =>
    split at taken
    next alone =>
      obtain ⟨left, ⟨value, added⟩, anywhere⟩ := takeAlone_ok taken
      refine ⟨left, ⟨[(o, value)], by rw [added], ?_⟩, ?_⟩
      · intro p same notValued
        rw [known] at same
        cases same
        exact List.mem_singleton_self o
      · intro h letters behind
        rw [takeOption, known, alone]
        exact anywhere h behind
    next value joined =>
      obtain ⟨k, clustered, further⟩ := bind_ok_iff.mp taken
      obtain ⟨first, anywhereCluster⟩ := cluster_ok clustered
      obtain ⟨left, ⟨added, given, switches⟩, anywhere⟩ := takeCluster_ok further
      refine ⟨left, ⟨added, by rw [given], ?_⟩, ?_⟩
      · intro p same notValued
        rw [known] at same
        cases same
        exact switches o (first notValued)
      · intro h letters behind
        rw [takeOption, known, joined]
        apply bind_ok_iff.mpr
        exact ⟨k, anywhereCluster h letters, anywhere h behind⟩

/-! ## Passing arguments -/

/-- Words up to the next option. -/
def front (ws : List Word) : List Word :=
  ws.takeWhile fun w => !w.isOption

/-- Words from the next option on. -/
def back (ws : List Word) : List Word :=
  ws.dropWhile fun w => !w.isOption

/-- Passes words that are no options: the first that hold an argument are the arguments. -/
def pass (s : Scan) (ws : List Word) : Scan :=
  if s.arguments = none ∧ ws.any Word.isArgument = true then
    { s with arguments := some (ws.map Word.text) }
  else { s with extras := s.extras ++ ws.map Word.text }

@[simp] theorem pass_given (s : Scan) (ws : List Word) : (pass s ws).given = s.given := by
  rw [pass]
  split <;> rfl

theorem front_append_option (isOption : d.isOption = true) (ws : List Word) :
    front (ws ++ [d]) = front ws := by
  induction ws with
  | nil => simp [front, isOption]
  | cons w ws ih =>
      rw [List.cons_append, front, front, List.takeWhile_cons, List.takeWhile_cons]
      split
      next => exact congrArg (List.cons w) ih
      next => rfl

theorem back_append_option (isOption : d.isOption = true) (ws : List Word) :
    back (ws ++ [d]) = back ws ++ [d] := by
  induction ws with
  | nil => simp [back, isOption]
  | cons w ws ih =>
      rw [List.cons_append, back, back, List.dropWhile_cons, List.dropWhile_cons]
      split
      next => exact ih
      next => rfl

theorem front_append_back (ws : List Word) : front ws ++ back ws = ws :=
  List.takeWhile_append_dropWhile

theorem back_behind (ws : List Word) : Behind (back ws) ws := by
  refine ⟨front ws, (front_append_back ws).symm, ?_⟩
  intro w member
  have all : (front ws).all (fun w => !w.isOption) = true := List.all_takeWhile
  simpa using List.all_eq_true.mp all w member

theorem sortWords_option (isOption : w.role = .option f) (fuel : Nat) (rest : List Word)
    (s : Scan) :
    g.sortWords (fuel + 1) (w :: rest) s =
      g.takeOption w f rest s >>= fun (s, rest) => g.sortWords fuel rest s := by
  rw [sortWords, isOption]

/-- Words are taken as arguments up to the next option. -/
theorem takeArguments?_words (takesWords : g.positional = .words) (ws : List Word) (s : Scan) :
    g.takeArguments? ws s =
      if s.arguments = none ∧ (front ws).any Word.isArgument = true then
        some (pass s (front ws), back ws)
      else none := by
  have counted : g.positionalCount? ws =
      if (front ws).any Word.isArgument = true then some (front ws).length else none := by
    rw [positionalCount?, takesWords]
    rfl
  have taken : ws.take (front ws).length = front ws := by
    conv => lhs; arg 2; rw [← front_append_back ws]
    exact List.take_left
  have left : ws.drop (front ws).length = back ws := by
    conv => lhs; arg 2; rw [← front_append_back ws]
    exact List.drop_left
  rw [takeArguments?, counted]
  cases given : s.arguments with
  | some texts => simp
  | none =>
      by_cases some : (front ws).any Word.isArgument = true
      · rw [if_pos some, if_pos ⟨rfl, some⟩, pass, if_pos ⟨given, some⟩]
        simp only [taken, left]
      · simp [some]

/-- A command whose arguments are words passes them up to the next option. -/
theorem sortWords_pass (takesWords : g.positional = .words) (notOption : w.isOption = false)
    (fuel : Nat) (rest : List Word) (s : Scan) :
    g.sortWords (fuel + 1) (w :: rest) s =
      g.sortWords fuel (back rest) (pass s (front (w :: rest))) := by
  have behind : back (w :: rest) = back rest := by simp [back, notOption]
  have cut : ((w :: rest).span fun w => !w.isOption) = (front (w :: rest), back rest) := by
    rw [List.span_eq_takeWhile_dropWhile, ← behind]
    rfl
  rw [sortWords, takeArguments?_words takesWords, behind, cut]
  split
  next f isOption => simp [Word.isOption, isOption] at notOption
  next =>
    split
    next s' left some =>
      split at some
      next =>
        cases some
        rfl
      next => cases some
    next none =>
      split at none
      next => cases none
      next unwanted => rw [pass, if_neg unwanted]

/-! ## Sorting all words -/

/-- A word is an option or is passed. -/
theorem isOption_cases (w : Word) : (∃ f, w.role = .option f) ∨ w.isOption = false := by
  rw [Word.isOption]
  cases w.role with
  | argument | separator => exact Or.inr rfl
  | option f => exact Or.inl ⟨f, rfl⟩

/-- Every switch among the words is among the options given. -/
theorem sortWords_given (takesWords : g.positional = .words) (enough : ws.length < fuel)
    (sorted : g.sortWords fuel ws s = .ok t) :
    ∃ added, t.given = s.given ++ added ∧
      ∀ w ∈ ws, ∀ f o, w.role = .option f → f.option = some o → o.kind ≠ .valued →
        o ∈ added.map Prod.fst := by
  induction fuel generalizing ws s with
  | zero => cases enough
  | succ fuel ih =>
      cases ws with
      | nil =>
          cases sorted
          exact ⟨[], by simp⟩
      | cons w rest =>
          have shorter : rest.length < fuel := Nat.lt_of_succ_lt_succ enough
          rcases isOption_cases w with ⟨f, isOption⟩ | notOption
          · rw [sortWords_option isOption] at sorted
            obtain ⟨⟨u, more⟩, taken, further⟩ := bind_ok_iff.mp sorted
            obtain ⟨left, ⟨first, given, own⟩, -⟩ := takeOption_ok taken
            obtain ⟨later, same, others⟩ :=
              ih (Nat.lt_of_le_of_lt left.length_le shorter) further
            refine ⟨first ++ later, by rw [same, given, List.append_assoc], ?_⟩
            intro v member e o role known notValued
            rw [List.map_append]
            apply List.mem_append.mpr
            rcases List.mem_cons.mp member with here | behind
            · rw [here, isOption] at role
              cases role
              exact Or.inl (own o known notValued)
            · have kept : v ∈ more := left.mem behind (by simp [Word.isOption, role])
              exact Or.inr (others v kept e o role known notValued)
          · rw [sortWords_pass takesWords notOption] at sorted
            have left := back_behind rest
            obtain ⟨later, same, others⟩ :=
              ih (Nat.lt_of_le_of_lt left.length_le shorter) sorted
            refine ⟨later, by rw [same, pass_given], ?_⟩
            intro v member e o role known notValued
            have isOption : v.isOption = true := by simp [Word.isOption, role]
            rcases List.mem_cons.mp member with here | behind
            · rw [here, notOption] at isOption
              cases isOption
            · exact others v (left.mem behind isOption) e o role known notValued

/-- Words are sorted in the same way by every grammar that could have sorted them. -/
theorem sortWords_other (takesWords : g.positional = .words) (alsoWords : h.positional = .words)
    (letters : h.letter? = g.letter?) (sorted : g.sortWords fuel ws s = .ok t) :
    h.sortWords fuel ws s = .ok t := by
  induction fuel generalizing ws s with
  | zero => exact sorted
  | succ fuel ih =>
      cases ws with
      | nil => exact sorted
      | cons w rest =>
          rcases isOption_cases w with ⟨f, isOption⟩ | notOption
          · rw [sortWords_option isOption] at sorted ⊢
            obtain ⟨⟨u, more⟩, taken, further⟩ := bind_ok_iff.mp sorted
            obtain ⟨-, -, anywhere⟩ := takeOption_ok taken
            have same := anywhere h letters []
            rw [List.append_nil, List.append_nil] at same
            apply bind_ok_iff.mpr
            exact ⟨(u, more), same, ih further⟩
          · rw [sortWords_pass takesWords notOption] at sorted
            rw [sortWords_pass alsoWords notOption]
            exact ih sorted

/-- A switch behind the words is added to the options given. -/
theorem sortWords_concat (takesWords : g.positional = .words) (enough : ws.length < fuel)
    (switch : d.role = .option ⟨some o, none⟩) (kind : o.kind = .switch)
    (sorted : g.sortWords fuel ws s = .ok t) :
    g.sortWords (fuel + 1) (ws ++ [d]) s =
      .ok { t with given := t.given ++ [(o, .ofWord "")] } := by
  have isOption : d.isOption = true := by simp [Word.isOption, switch]
  induction fuel generalizing ws s with
  | zero => cases enough
  | succ fuel ih =>
      cases ws with
      | nil =>
          cases sorted
          have taken : g.takeOption d ⟨some o, none⟩ [] t =
              .ok ({ t with given := t.given ++ [(o, .ofWord "")] }, []) := by
            simp [takeOption, takeAlone, take, kind, Except.map]
          rw [List.nil_append, sortWords_option switch]
          apply bind_ok_iff.mpr
          exact ⟨_, taken, rfl⟩
      | cons w rest =>
          have shorter : rest.length < fuel := Nat.lt_of_succ_lt_succ enough
          rw [List.cons_append]
          rcases isOption_cases w with ⟨f, role⟩ | notOption
          · rw [sortWords_option role] at sorted ⊢
            obtain ⟨⟨u, more⟩, taken, further⟩ := bind_ok_iff.mp sorted
            obtain ⟨left, -, anywhere⟩ := takeOption_ok taken
            apply bind_ok_iff.mpr
            refine ⟨(u, more ++ [d]), anywhere g rfl [d], ?_⟩
            exact ih (Nat.lt_of_le_of_lt left.length_le shorter) further
          · rw [sortWords_pass takesWords notOption] at sorted ⊢
            rw [back_append_option isOption, ← List.cons_append, front_append_option isOption]
            exact ih (Nat.lt_of_le_of_lt (back_behind rest).length_le shorter) sorted

end Grammar

end MediaNaming.Cli
