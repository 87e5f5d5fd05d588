import MediaNaming.Cli.Command
import MediaNaming.Proofs.Ordinary
/-!
# Parts of a run that nobody interrupts

Only the file system and the lookup of metadata tell that the user wants to stop. All that a run
does without them fails for reasons of its own: the settings, the log, the search for paths, the
renamer and the lines on the screen.
-/

namespace MediaNaming

/-! ## Questions about a tree -/

namespace Volume

variable {v : Volume} {cwd p : Path}

theorem Refusal.failure_isInterrupt (r : Refusal) (p : Path) :
    (r.failure p).isInterrupt = false := by
  cases r with
  | nullInPath => rfl
  | code c => cases c <;> rfl

theorem ask_ordinary (question : Entry → Bool) : Ordinary (v.ask cwd p question) := by
  unfold ask
  split
  next => exact .ok _
  next r _ =>
    split
    next => exact .ok _
    next => exact .error (r.failure_isInterrupt p)

theorem regularFiles_ordinary (paths : List Path) : Ordinary (v.regularFiles cwd paths) := by
  induction paths with
  | nil => exact .ok _
  | cons p ps ih =>
      rw [regularFiles]
      split
      next f refused => exact .error (ask_ordinary _ f refused)
      next => exact ih.map

theorem filesIn?_ordinary : Ordinary (v.filesIn? cwd p) := by
  unfold filesIn?
  split
  next r _ => exact .error (r.failure_isInterrupt p)
  next =>
    split
    next => exact regularFiles_ordinary _
    next => exact .error rfl

theorem read?_ordinary : Ordinary (v.read? cwd p) := by
  unfold read?
  split
  next r _ => exact .error (r.failure_isInterrupt p)
  next => exact .ok _
  next => exact .error rfl

theorem sameFile?_ordinary {q : Path} : Ordinary (v.sameFile? cwd p q) := by
  unfold sameFile?
  split
  next => exact .error rfl
  next => exact .ok _
  next =>
    split
    next => exact .error rfl
    next => exact .ok _
    next => exact .ok _

theorem rename?_ordinary {q : Path} : Ordinary (v.rename? cwd p q) := by
  unfold rename?
  split
  next => exact .error rfl
  next =>
    split
    next => exact .ok _
    next c _ =>
      apply Ordinary.error
      cases c <;> rfl

/-- A refused renaming can be told in words. -/
theorem rename?_worded {q : Path} {f : Failure} (refused : v.rename? cwd p q = .error f) :
    f.instead? = none := by
  unfold rename? at refused
  split at refused
  next =>
    cases refused
    rfl
  next =>
    split at refused
    next => cases refused
    next =>
      cases refused
      rfl

theorem resolve?_ordinary : Ordinary (v.resolve? cwd p) := by
  unfold resolve?
  split
  next => exact .error rfl
  next =>
    dsimp only
    split
    next => exact .error rfl
    next => exact .ok _

theorem update?_ordinary (change : List UInt8 → List UInt8) :
    Ordinary (v.update? cwd p change) := by
  unfold update?
  split
  next r _ => exact .error (r.failure_isInterrupt p)
  next =>
    split
    next => exact .ok _
    next => exact .ok _
    next => exact .error rfl

theorem settle_ordinary (r : Refusal) {f : Failure} (failed : (v.settle cwd p r).failure = some f) :
    f.isInterrupt = false := by
  unfold settle at failed
  split at failed
  next =>
    cases failed
    rfl
  next c =>
    split at failed
    next refused =>
      cases failed
      exact ask_ordinary _ f refused
    next => cases failed
    next =>
      cases failed
      cases c <;> rfl

theorem makeParents_ordinary (count : Nat) {f : Failure}
    (failed : (v.makeParents cwd count p).failure = some f) : f.isInterrupt = false := by
  induction count generalizing p f with
  | zero =>
      cases failed
      rfl
  | succ count ih =>
      rw [makeParents] at failed
      split at failed
      next => cases failed
      next =>
        split at failed
        next =>
          cases failed
          rfl
        next =>
          dsimp only at failed
          split at failed
          next g above =>
            cases failed
            exact ih above
          next =>
            split at failed
            next => cases failed
            next =>
              cases failed
              rfl
            next => exact settle_ordinary _ failed
      next => exact settle_ordinary _ failed

end Volume

/-! ## Settings -/

namespace Surroundings

variable {s : Surroundings} {v : Volume} {cwd dir : Path}

theorem hasMarker_ordinary (names : List String) : Ordinary (hasMarker v cwd dir names) := by
  induction names with
  | nil => exact .ok _
  | cons name rest ih =>
      rw [hasMarker]
      apply Ordinary.bind (Volume.ask_ordinary _)
      intro there _
      cases there with
      | true => exact .ok _
      | false => exact ih

theorem firstMarked_ordinary (dirs : List Path) : Ordinary (firstMarked v cwd dirs) := by
  induction dirs with
  | nil => exact .ok _
  | cons dir rest ih =>
      rw [firstMarked]
      apply Ordinary.bind (hasMarker_ordinary markers)
      intro marked _
      cases marked with
      | true => exact .ok _
      | false => exact ih

theorem configFile_ordinary : Ordinary (s.configFile v) := by
  unfold configFile
  dsimp only
  split
  next =>
    have root : Ordinary (s.projectRoot v) :=
      Volume.resolve?_ordinary.bind fun _ _ => firstMarked_ordinary _
    exact root.bind fun _ _ => Volume.resolve?_ordinary
  next =>
    split
    next => exact .error rfl
    next => exact Volume.resolve?_ordinary

end Surroundings

namespace Settings

variable {v : Volume} {cwd source : Path}

theorem ofOctets_ordinary (source : Path) (bs : List UInt8) :
    Ordinary (ofOctets source bs).outcome := by
  unfold ofOctets
  split
  next => exact .error rfl
  next =>
    split
    next => exact .error rfl
    next => exact .error rfl
    next => exact .ok _

theorem ofFile_ordinary : Ordinary (ofFile v cwd source).outcome := by
  unfold ofFile
  split
  next f refused => exact .error (Volume.ask_ordinary _ f refused)
  next => exact .ok _
  next =>
    split
    next f refused =>
      have ordinary := Volume.read?_ordinary f refused
      split
      next => exact .error ordinary
      next => exact .error ordinary
    next => exact ofOctets_ordinary source _

end Settings

theorem Cache.load_ordinary (cache : Cache) (s : Surroundings) (v : Volume)
    (file : Option Path) : Ordinary (cache.load s v file).outcome := by
  have loadFrom : ∀ p, Ordinary (cache.loadFrom v s.cwd p).outcome := by
    intro p
    unfold Cache.loadFrom
    dsimp only
    split
    next f failed => exact .error (Settings.ofFile_ordinary f failed)
    next => exact .ok _
  unfold Cache.load
  split
  next => exact .ok _
  next =>
    split
    next p _ => exact loadFrom p
    next =>
      split
      next f refused => exact .error (Surroundings.configFile_ordinary f refused)
      next p _ => exact loadFrom p

/-! ## The log -/

namespace Log.Handlers

variable {s : Surroundings} {v : Volume} {file : Value} {console level : Level} {f : Failure}

theorem logPath_ordinary : Ordinary (logPath s file) := by
  have expanded : ∀ p, Ordinary (logPath.expand s p) := by
    intro p
    unfold logPath.expand
    split
    next => exact .ok _
    next => exact .error rfl
  unfold logPath
  split
  next p => exact expanded p
  next t => exact expanded _
  next => exact .error rfl
  next => exact .error rfl

theorem install_ordinary (failed : (install s v file console level).failure = some f) :
    f.isInterrupt = false := by
  unfold install at failed
  split at failed
  next => cases failed
  next =>
    split at failed
    next g refused =>
      cases failed
      exact logPath_ordinary.bind (fun _ _ => Volume.resolve?_ordinary) f refused
    next p _ =>
      simp only [openFile] at failed
      split at failed
      next g refused =>
        cases failed
        exact Volume.makeParents_ordinary _ refused
      next =>
        split at failed
        next g refused =>
          cases failed
          exact Volume.update?_ordinary _ f refused
        next => cases failed

end Log.Handlers

/-! ## Renamers -/

theorem Tag.item_ordinary (v : Value) (index : Nat) : Ordinary (Tag.item v index) := by
  unfold Tag.item
  cases v with
  | list items | tuple items | text s | octets bs | mapping entries =>
      dsimp only
      split
      next => exact .ok _
      next => exact .error rfl
  | _ => exact .error rfl

namespace Settings

theorem itemText_ordinary (v : Value) (index : Nat) : Ordinary (itemText v index) := by
  unfold itemText
  apply Ordinary.bind (Tag.item_ordinary v index)
  intro w _
  split
  next =>
    split
    next => exact .error rfl
    next => exact .ok _
  next => exact .error rfl

theorem readScheme_ordinary (v : Value) : Ordinary (readScheme v) := by
  unfold readScheme
  split
  next => exact .ok _
  next =>
    split
    next => exact .error rfl
    next n _ =>
      apply Ordinary.bind (Ordinary.mapM fun index _ => itemText_ordinary _ index)
      intro parts _
      exact .ok _

theorem substituteCharacter_ordinary (s : Settings) : Ordinary s.substituteCharacter.outcome := by
  unfold substituteCharacter
  split
  next => exact .ok _
  next =>
    apply Ordinary.bind_traced (Value.orTooLong_ordinary _)
    intro shown
    exact .ok _

theorem schemeTokens_ordinary (s : Settings) : Ordinary s.schemeTokens.outcome := by
  unfold schemeTokens
  apply Ordinary.bind_traced
  · split
    next => exact readScheme_ordinary _
    next => exact .ok _
  · intro tokens
    split
    next =>
      apply Ordinary.bind_traced (Value.orTooLong_ordinary _)
      intro shown
      exact .ok _
    next => exact .ok _

end Settings

namespace Cli

variable {c : Context} {r : Request} {w : World}

theorem runSubstitute_ordinary (c : Context) (r : Request) (s : Settings) :
    Ordinary (runSubstitute c r s).outcome := by
  unfold runSubstitute
  split
  next => exact .ok _
  next =>
    unfold configuredSubstitute
    split
    next => exact .ok _
    next => exact s.substituteCharacter_ordinary

theorem buildRenamer_ordinary (c : Context) (r : Request) (s : Settings) :
    Ordinary (buildRenamer c r s).outcome := by
  unfold buildRenamer
  apply Ordinary.bind_traced (runSubstitute_ordinary c r s)
  intro substitute
  apply Ordinary.bind_traced s.schemeTokens_ordinary
  intro tokens
  exact .ok _

theorem schemeArgument_ordinary (r : Request) : Ordinary (schemeArgument r).outcome := by
  unfold schemeArgument
  split
  all_goals exact .ok _

/-! ## Paths -/

theorem expandPaths_ordinary (v : Volume) (cwd : Path) (names : List String) :
    Ordinary (expandPaths v cwd names) := by
  induction names with
  | nil => exact .ok _
  | cons name rest ih =>
      rw [expandPaths]
      apply Ordinary.bind (Volume.ask_ordinary _)
      intro directory _
      have more : ∀ block : List Path,
          Ordinary (expandPaths v cwd rest >>= fun others => pure (block ++ others)) :=
        fun block => ih.bind fun _ _ => .ok _
      cases directory with
      | true => exact Volume.filesIn?_ordinary.bind fun block _ => more block
      | false => exact more _

/-! ## Lines on the screen -/

namespace Display

theorem planLines_ordinary (entries : Entries) (skipped : List Skipped) (dryRun : Bool) :
    Ordinary (planLines entries skipped dryRun) := by
  have row (e : Value × Value) : Ordinary (planRow e) := by
    unfold planRow
    apply Ordinary.bind (Value.orTooLong_ordinary _)
    intro text _
    have name : Ordinary (nameText e.2) := by
      unfold nameText
      split
      next => exact .ok _
      next => exact .error rfl
    exact name.bind fun _ _ => .ok _
  have line (s : Skipped) : Ordinary (skippedText s) := by
    unfold skippedText
    exact Ordinary.bind (Value.orTooLong_ordinary _) fun _ _ => .ok _
  unfold planLines
  apply Ordinary.bind (Ordinary.mapM fun e _ => row e)
  intro rows _
  apply Ordinary.bind (Ordinary.mapM fun s _ => line s)
  intro leftOut _
  dsimp only
  split
  next => exact .ok _
  next => exact .ok _

theorem summaryLines_ordinary (total planned : Int) (outcomes : Option (List Outcome)) :
    Ordinary (summaryLines total planned outcomes) := by
  have line (o : Outcome) : Ordinary (failedText o) := by
    unfold failedText
    apply Ordinary.bind (Value.orTooLong_ordinary _)
    intro old _
    exact Ordinary.bind (Value.orTooLong_ordinary _) fun _ _ => .ok _
  unfold summaryLines
  cases outcomes with
  | none => exact .ok _
  | some os =>
      have lines : Ordinary (outcomeLines os) := by
        unfold outcomeLines
        apply Ordinary.bind (Ordinary.mapM fun o _ => line o)
        intro left _
        dsimp only
        split
        next => exact .ok _
        next => exact .ok _
      exact lines.bind fun _ _ => .ok _

end Display

/-! ## Parts of a run -/

namespace Stage

variable {α β : Type} {s : Stage α} {next : World → α → Stage β}

theorem andThen_outcome (s : Stage α) (next : World → α → Stage β) :
    (s.andThen next).outcome = match s.outcome with
      | .error f => .error f
      | .ok a => (next s.world a).outcome := by
  rw [andThen]
  cases s.outcome <;> rfl

theorem andThen_ordinary (first : Ordinary s.outcome)
    (rest : ∀ a, Ordinary (next s.world a).outcome) : Ordinary (s.andThen next).outcome := by
  rw [andThen_outcome]
  split
  next f failed => exact .error (first f failed)
  next a _ => exact rest a

theorem printing_ordinary {a : α} {lines : Except Failure (List String)}
    (ordinary : Ordinary lines) : Ordinary (Stage.printing w a lines).outcome := by
  cases lines with
  | error f => exact .error (ordinary f rfl)
  | ok ls => exact .ok a

end Stage

theorem prepare_ordinary (c : Context) (r : Request) (w : World) :
    Ordinary (prepare c r w).outcome := by
  apply Stage.andThen_ordinary
  · exact (Cache.load_ordinary _ _ _ _).map
  · intro settings
    apply Stage.andThen_ordinary
    · unfold installLog
      dsimp only
      split
      next f failed => exact .error (Log.Handlers.install_ordinary failed)
      next => exact .ok _
    · intro _
      exact (expandPaths_ordinary _ _ _).map

theorem summaryStage_ordinary (r : Request) (paths : List Path) (entries : Entries)
    (outcomes : Option (List Outcome)) (w : World) :
    Ordinary (summaryStage r paths entries outcomes w).outcome := by
  apply Stage.printing_ordinary
  split
  next => exact .ok _
  next => exact Display.summaryLines_ordinary _ _ _

end Cli

end MediaNaming
