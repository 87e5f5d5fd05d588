import MediaNaming.Proofs.Cli.Warnings
import MediaNaming.Proofs.Renamer.History
import MediaNaming.Proofs.Scheme.RoundTrip
/-!
# Which scheme a run goes by

A scheme comes to the planner through several hands. The settings replace a scheme without tokens
by the default, a renamer compiles what it is made with, a text on the command line that is empty
counts as none, and a scheme for one call is compiled and gives way if it has no tokens. All this
comes to one rule: the first text that is not empty, of the one on the command line, the configured
one and the default, is read, and its tokens are what the planner gets.
-/

namespace MediaNaming

open Log

/-! ## The scheme of some settings -/

namespace Settings

variable {s : Settings} {configured : String}

/-- The first text that is not empty, of the configured one and the default. -/
def schemeText (configured : String) : String :=
  if configured = "" then defaultScheme else configured

/-- A configured text gives its tokens, and the empty text those of the default. -/
theorem schemeTokens_text (textual : s.scheme = .text configured) :
    s.schemeTokens.outcome = .ok (Scheme.parse (schemeText configured)) := by
  rw [schemeTokens, textual, schemeText]
  by_cases empty : configured = ""
  · rw [empty]
    rfl
  · have truthy : (Value.text configured).isTruthy = true := by simp [Value.isTruthy, empty]
    have read : readScheme (.text configured) = .ok (Scheme.parse configured) := rfl
    rw [if_pos truthy, if_neg empty, Traced.ofExcept_bind_outcome _ read,
      Scheme.parse_isEmpty empty]
    rfl

end Settings

namespace Cli

variable {α β : Type} {c : Context} {r : Request} {w : World} {s : Settings}
  {configured : String} {paths : List Path} {renamer : Renamer}

/-! ## The renamer of a run -/

/-- The renamer of a run, from what is handed to the one who makes it: the tokens of the settings
as a value, and the substitute as a text. -/
def constructRenamer (c : Context) (r : Request) (s : Settings) : Traced Renamer := do
  let substitute ← runSubstitute c r s
  let tokens ← s.schemeTokens
  .ofExcept (Renamer.make tokens.toValue (.text substitute.text))

/-- Making a renamer keeps the tokens and the substitute that it is made with. -/
theorem make_kept {tokens : Scheme} (proper : tokens.isWellFormed = true) (sub : Substitute) :
    Renamer.make tokens.toValue (.text sub.text) = .ok ⟨tokens, sub, []⟩ := by
  have truthy : (Value.text sub.text).isTruthy = true := by
    apply decide_eq_true
    rw [ne_eq, ← String.toList_inj]
    simp [Substitute.text]
  have taken : Substitute.ofValue (.text sub.text) = .ok sub := by
    rw [Substitute.ofValue_eq_ok_iff]
    simp [acceptedChar?, Substitute.text, sub.legal]
  have compiled : Renamer.schemeOr Renamer.defaultScheme tokens.toValue = .ok tokens :=
    Scheme.compile_toValue proper
  rw [Renamer.make, compiled, Renamer.substituteOr, if_pos truthy, taken]
  rfl

/-- The renamer of a run is the one that is made with the tokens of the settings. -/
theorem buildRenamer_eq (textual : s.scheme = .text configured) (c : Context) (r : Request) :
    buildRenamer c r s = constructRenamer c r s := by
  have given := Settings.schemeTokens_text textual
  rw [buildRenamer, constructRenamer]
  generalize s.schemeTokens = tokens at given
  obtain ⟨outcome, logs⟩ := tokens
  cases given
  have proper := Scheme.parseFrom_isWellFormed [] (Settings.schemeText configured).toList
  have step : ∀ next : Scheme → Traced Renamer,
      (⟨.ok (Scheme.parse (Settings.schemeText configured)), logs⟩ : Traced Scheme) >>= next =
        .after logs (next (Scheme.parse (Settings.schemeText configured))) := fun _ => rfl
  congr 1
  funext sub
  rw [step, step]
  exact congrArg (Traced.after logs ∘ Traced.ofExcept) (make_kept proper sub).symm

/-- Whatever the substitute, the renamer of a run keeps the tokens of the configured text. -/
theorem buildRenamer_scheme (textual : s.scheme = .text configured)
    (built : (buildRenamer c r s).outcome = .ok renamer) :
    renamer.scheme = Scheme.parse (Settings.schemeText configured) := by
  obtain ⟨sub, -, further⟩ := Traced.bind_outcome_ok built
  obtain ⟨tokens, given, made⟩ := Traced.bind_outcome_ok further
  rw [Settings.schemeTokens_text textual] at given
  cases given
  cases made
  rfl

/-! ## The scheme of a call -/

/-- The scheme that a run is to go by: of the text on the command line, the configured text and
the default, the tokens of the first one that is not empty. -/
def chosenScheme (given : Option OptionValue) (configured : String) : Scheme :=
  let texts := [(given.bind OptionValue.text?).getD "", configured]
  Scheme.parse ((texts.find? (· ≠ "")).getD Settings.defaultScheme)

/-- What is handed to the renamer for the call chooses the scheme: nothing, or tokens. -/
theorem schemeFor_argument (r : Request) (kept : renamer.scheme =
      Scheme.parse (Settings.schemeText configured)) :
    ∃ v, schemeArgument r = .ok v ∧
      renamer.schemeFor v = .ok (chosenScheme r.scheme configured) := by
  have fallback : ∀ {given : Option OptionValue}, (given.bind OptionValue.text?).getD "" = "" →
      renamer.schemeFor .null = .ok (chosenScheme given configured) := by
    intro given none
    rw [Renamer.schemeFor, kept, chosenScheme, none, Settings.schemeText]
    by_cases empty : configured = ""
    · simp [empty]
    · simp [empty]
  unfold schemeArgument
  split
  next none => exact ⟨.null, rfl, fallback (by rw [none]; rfl)⟩
  next nothing => exact ⟨.null, rfl, fallback (by rw [nothing]; rfl)⟩
  next empty => exact ⟨.null, rfl, fallback (by rw [empty]; rfl)⟩
  next text filled given =>
    have notEmpty : text ≠ "" := filled
    have proper : (Scheme.parse text).isWellFormed = true :=
      Scheme.parseFrom_isWellFormed [] text.toList
    refine ⟨(Scheme.parse text).toValue, ?_, ?_⟩
    · simp only [Scheme.parse_isEmpty notEmpty]
      rfl
    · have compiled := Scheme.compile_toValue proper
      have tokens : Scheme.parse text ≠ [] := by
        rw [← List.isEmpty_eq_false_iff]
        exact Scheme.parse_isEmpty notEmpty
      rw [given, Renamer.schemeFor_eq_activeScheme, Renamer.activeScheme, compiled]
      simp [Scheme.toValue, Renamer.isWritten, Except.map, tokens, chosenScheme,
        OptionValue.text?, notEmpty]

/-! ## Runs -/

/-- A stage that logs nothing and gives a value. -/
theorem ofTraced_ok_andThen (w : World) (a : α) (next : World → α → Stage β) :
    ((Stage.ofTraced w (.ok a)).written c).andThen next =
      next ((Stage.ok w ()).written c).world a := rfl

theorem Stage.andThen_congr {s : Stage α} {next other : World → α → Stage β}
    (same : ∀ a, s.outcome = .ok a → next s.world a = other s.world a) :
    s.andThen next = s.andThen other := by
  rw [andThen, andThen]
  split
  next => rfl
  next a reached => rw [same a reached]

/-- The draft of a run in which a scheme is handed straight to the planner. -/
def draftWith (c : Context) (r : Request) (scheme : Scheme) (w : World) :
    Stage (List Path × Planning) :=
  (prepare c r w).andThen fun w (settings, paths) =>
    ((Stage.ofTraced w (buildRenamer c r settings)).written c).andThen fun w renamer =>
      ((Stage.ok w ()).written c).andThen fun w _ =>
        .ok w (paths, (Planner.mk c.disk c.lookup renamer.substitute c.room).planAll
          (volumeForPlan c paths w) scheme (paths.map .path))

/-- A run in which a scheme is handed straight to the planner. -/
def carryOutWith (c : Context) (r : Request) (scheme : Scheme) (w : World) : Stage Bool :=
  (draftWith c r scheme w).andThen fun w (paths, planning) =>
    (showPlan c r planning w).andThen fun w entries =>
      ((renameStage c r entries w).written c).andThen fun w outcomes =>
        summaryStage r paths entries outcomes w

theorem prepare_settings (prepared : (prepare c r w).outcome = .ok (s, paths)) :
    (loadSettings c w).outcome = .ok s := by
  obtain ⟨settings, loaded, further⟩ := Stage.andThen_ok_iff.mp prepared
  obtain ⟨_, -, expanded⟩ := Stage.andThen_ok_iff.mp further
  obtain ⟨files, -, same⟩ := map_ok_iff.mp expanded
  cases same
  exact loaded

theorem draft_eq (loaded : (loadSettings c w).outcome = .ok s)
    (textual : s.scheme = .text configured) :
    draft c r w = draftWith c r (chosenScheme r.scheme configured) w := by
  rw [draft, draftWith]
  apply Stage.andThen_congr
  intro ready prepared
  obtain ⟨settings, paths⟩ := ready
  have same := loaded.symm.trans (prepare_settings prepared)
  cases same
  apply Stage.andThen_congr
  intro renamer built
  obtain ⟨v, given, chosen⟩ := schemeFor_argument r (buildRenamer_scheme textual built)
  rw [given, ofTraced_ok_andThen, Renamer.generate, chosen]
  rfl

/-- In every run with a configured text, the renamer is made of the tokens of the settings, and
every file is resolved with the tokens of the chosen text, as if they were handed straight to the
planner. Nothing in a run warns that the scheme on the command line is empty; only a lookup of
metadata could, and that of the known formats does not. -/
theorem carryOut_chosen (loaded : (loadSettings c w).outcome = .ok s)
    (textual : s.scheme = .text configured) (r : Request) :
    buildRenamer c r s = constructRenamer c r s ∧
      carryOut c r w = carryOutWith c r (chosenScheme r.scheme configured) w ∧
      (∀ text, (∀ v p, emptyWarning text ∉ (c.lookup v p).logs) →
        emptyWarning text ∉ (run c r w).logs) ∧
      ∀ text reader cwd v p, emptyWarning text ∉ (Registry.knownLookup reader cwd v p).logs := by
  refine ⟨buildRenamer_eq textual c r, ?_, fun text => run_unwarned,
    fun text => Registry.knownLookup_unwarned⟩
  rw [carryOut_eq, draft_eq loaded textual, carryOutWith]

/-- With a brace on the command line and nothing configured, the brace is the scheme. -/
theorem carryOut_chosen_brace :
    let r : Request := ⟨.plan, ["/a"], some (.text "\x7b"), none, true, false, true⟩
    let s : Settings := ⟨.text "", .text "_", .null⟩
    let w : World := { photoWorld with cache := ⟨some ⟨s, ⟨.root, ["config.toml"]⟩, 0⟩, 1⟩ }
    (loadSettings rootContext w).outcome = .ok s ∧
      carryOut rootContext r w = carryOutWith rootContext r [.literal "\x7b"] w ∧
      emptyWarning "\x7b" ∉ (run rootContext r w).logs := by
  intro r s w
  have loaded : (loadSettings rootContext w).outcome = .ok s := rfl
  have textual : s.scheme = .text "" := rfl
  have chosen : chosenScheme r.scheme "" = [.literal "\x7b"] := by decide +kernel
  obtain ⟨-, straight, silent, -⟩ := carryOut_chosen loaded textual r
  rw [chosen] at straight
  exact ⟨loaded, straight, silent _ fun _ _ => List.not_mem_nil⟩

end Cli

end MediaNaming
