import MediaNaming.Proofs.Cli.ExitCode
import MediaNaming.Proofs.Metadata.Reading
import MediaNaming.Proofs.Scheme.Merged
/-!
# A warning that no run logs

If the scheme on the command line had no tokens, a run would say so in a warning and go on with the
configured scheme. No run does: reading a text gives no tokens only if the text is empty, and an
empty text counts as no scheme at all. Nor does any other part of a run log such a record, since
other warnings tell which file they are about or start with other words. Only the lookup of
metadata, which a run is given, could log it.
-/

namespace MediaNaming

open Log

/-- The warning that the scheme on the command line has no tokens. -/
def emptyWarning (text : String) : Record :=
  .plain .warning ("Scheme " ++ Text.quoted text ++ " is empty; using the configured scheme")

/-- Records without the warning about a text. -/
def Unwarned (text : String) (rs : List Record) : Prop :=
  emptyWarning text ∉ rs

variable {α β : Type} {text : String} {r : Record} {rs others : List Record}

/-! ## Other records -/

theorem ne_emptyWarning_of_info (level : r.level = .info) : emptyWarning text ≠ r := by
  rintro rfl
  cases level

theorem ne_emptyWarning_of_error (level : r.level = .error) : emptyWarning text ≠ r := by
  rintro rfl
  cases level

theorem ne_emptyWarning_of_attributes (filled : r.attributes ≠ []) : emptyWarning text ≠ r := by
  rintro rfl
  exact filled rfl

/-- A warning that starts with another letter. -/
theorem ne_emptyWarning_of_start {front rest : String} (filled : front ≠ "")
    (other : front.toList.head? ≠ some 'S') :
    emptyWarning text ≠ .plain .warning (front ++ rest) := by
  intro same
  have starts : (front ++ rest).toList.head? = some 'S' := by
    have messages := congrArg (fun r => r.message.toList.head?) same.symm
    simpa [emptyWarning, Record.plain] using messages
  rw [String.toList_append, List.head?_append_of_ne_nil _ (by simpa using filled)] at starts
  exact other starts

namespace Unwarned

theorem nil : Unwarned text [] := List.not_mem_nil

theorem single (other : emptyWarning text ≠ r) : Unwarned text [r] := by
  simpa [Unwarned] using other

theorem append (first : Unwarned text rs) (later : Unwarned text others) :
    Unwarned text (rs ++ others) := by
  rw [Unwarned, List.mem_append, not_or]
  exact ⟨first, later⟩

theorem cons (other : emptyWarning text ≠ r) (later : Unwarned text rs) :
    Unwarned text (r :: rs) :=
  append (single other) later

/-- What the steps of a computation do not log, the computation does not log. -/
theorem bind {t : Traced α} {next : α → Traced β} (first : Unwarned text t.logs)
    (rest : ∀ a, Unwarned text (next a).logs) : Unwarned text (t >>= next).logs := by
  obtain ⟨outcome, logs⟩ := t
  cases outcome with
  | error f => exact first
  | ok a => exact append first (rest a)

/-- Asking something that logs nothing does no harm. -/
theorem ofExcept_bind {x : Except Failure α} {next : α → Traced β}
    (rest : ∀ a, Unwarned text (next a).logs) :
    Unwarned text (Traced.ofExcept x >>= next).logs :=
  bind nil rest

end Unwarned

/-! ## Settings -/

namespace Settings

variable {v : Volume} {cwd source : Path} {s : Settings}

theorem ofOctets_unwarned (bs : List UInt8) : Unwarned text (ofOctets source bs).logs := by
  unfold ofOctets
  split
  next => exact .nil
  next =>
    split
    next => exact .single (ne_emptyWarning_of_error rfl)
    next => exact .nil
    next =>
      dsimp only
      split
      next => exact .nil
      next => exact .single (ne_emptyWarning_of_start (by decide) (by decide))

theorem ofFile_unwarned : Unwarned text (ofFile v cwd source).logs := by
  unfold ofFile
  split
  next => exact .nil
  next => exact .nil
  next =>
    split
    next =>
      split
      next => exact .single (ne_emptyWarning_of_error rfl)
      next => exact .nil
    next => exact ofOctets_unwarned _

theorem substituteCharacter_unwarned : Unwarned text s.substituteCharacter.logs := by
  unfold substituteCharacter
  split
  next => exact .nil
  next =>
    apply Unwarned.ofExcept_bind
    intro shown
    simp only [String.append_assoc]
    exact .single (ne_emptyWarning_of_start (by decide) (by decide))

theorem schemeTokens_unwarned : Unwarned text s.schemeTokens.logs := by
  unfold schemeTokens
  apply Unwarned.ofExcept_bind
  intro tokens
  split
  next =>
    apply Unwarned.ofExcept_bind
    intro shown
    simp only [String.append_assoc]
    exact .single (ne_emptyWarning_of_start (by decide) (by decide))
  next => exact .nil

end Settings

theorem Cache.load_unwarned (cache : Cache) (s : Surroundings) (v : Volume)
    (file : Option Path) : Unwarned text (cache.load s v file).logs := by
  have loadFrom : ∀ p, Unwarned text (cache.loadFrom v s.cwd p).logs := by
    intro p
    unfold Cache.loadFrom
    dsimp only
    split
    next => exact Settings.ofFile_unwarned
    next => exact Settings.ofFile_unwarned
  unfold Cache.load
  split
  next => exact .nil
  next =>
    split
    next p _ => exact loadFrom p
    next =>
      split
      next => exact .nil
      next p _ => exact loadFrom p

/-! ## Planning -/

namespace Planner

variable {pl : Planner} {v : Volume} {scheme : Scheme}

theorem skip_unwarned (path : Value) (reason : SkipReason) (detail : String)
    (token : Option String) : Unwarned text (skip path reason detail token).logs :=
  Unwarned.ofExcept_bind fun _ => .single (ne_emptyWarning_of_attributes (List.cons_ne_nil _ _))

theorem nameFrom_unwarned (path : Value) (file : Path) (metadata : Metadata) :
    Unwarned text (pl.nameFrom scheme path file metadata).logs := by
  unfold nameFrom
  apply Unwarned.ofExcept_bind
  intro filled
  split
  next => exact skip_unwarned _ _ _ _
  next =>
    dsimp only
    split
    next => exact skip_unwarned _ _ _ _
    next =>
      apply Unwarned.ofExcept_bind
      intro shown
      exact .single (ne_emptyWarning_of_info rfl)

theorem lookupFailure_unwarned (path : Value) (f : Failure) :
    Unwarned text (lookupFailure path f).logs := by
  unfold lookupFailure
  split
  next => exact .nil
  next =>
    split
    next => exact .nil
    next =>
      split
      next => exact skip_unwarned _ _ _ _
      next => exact skip_unwarned _ _ _ _

section

variable (quiet : ∀ v p, Unwarned text (pl.lookup v p).logs)

include quiet

theorem resolve_unwarned (path : Value) : Unwarned text (pl.resolve v scheme path).logs := by
  unfold resolve
  split
  next => exact skip_unwarned _ _ _ _
  next file _ =>
    apply Unwarned.ofExcept_bind
    intro isFile
    cases isFile with
    | false => exact skip_unwarned _ _ _ _
    | true =>
        simp only [↓reduceIte]
        split
        next => exact (quiet _ _).append (nameFrom_unwarned _ _ _)
        next => exact (quiet _ _).append (lookupFailure_unwarned _ _)

theorem sweep_unwarned (paths : List Value) : Unwarned text (pl.sweep v scheme paths).logs := by
  induction paths with
  | nil => exact .nil
  | cons path rest ih =>
      rw [sweep]
      dsimp only
      split
      next => exact resolve_unwarned quiet path
      next => exact (resolve_unwarned quiet path).append ih

theorem planAll_unwarned (paths : List Value) :
    Unwarned text (pl.planAll v scheme paths).logs := by
  have started : Unwarned text (startRecord paths.length :: (pl.sweep v scheme paths).logs) :=
    .cons (ne_emptyWarning_of_info rfl) (sweep_unwarned quiet paths)
  unfold planAll
  dsimp only
  split
  next => exact started
  next => exact started.append (.single (ne_emptyWarning_of_info rfl))

end

end Planner

/-! ## Renaming -/

namespace Rename

variable {disk : Disk} {v : Volume}

theorem skip_unwarned (old new : Value) (reason : SkipReason) (detail : String) :
    Unwarned text (skip v old new reason detail).logs :=
  Unwarned.ofExcept_bind fun _ => Unwarned.ofExcept_bind fun _ =>
    .single (ne_emptyWarning_of_attributes (List.cons_ne_nil _ _))

theorem renameFile_unwarned (old : Value) (file : Path) (name : String) :
    Unwarned text (renameFile disk v old file name).logs := by
  unfold renameFile
  dsimp only
  split
  next => exact skip_unwarned _ _ _ _
  next =>
    apply Unwarned.ofExcept_bind
    intro taken
    cases taken with
    | true => exact skip_unwarned _ _ _ _
    | false =>
        simp only [Bool.false_eq_true, ↓reduceIte, moveFile]
        split
        next =>
          split
          next =>
            split
            next => exact .nil
            next => exact skip_unwarned _ _ _ _
          next => exact .nil
        next => exact .single (ne_emptyWarning_of_info rfl)

theorem renamePair_unwarned (old new : Value) :
    Unwarned text (renamePair disk v old new).logs := by
  unfold renamePair
  split
  next => exact skip_unwarned _ _ _ _
  next =>
    apply Unwarned.ofExcept_bind
    intro isFile
    cases isFile with
    | false => exact skip_unwarned _ _ _ _
    | true =>
        simp only [↓reduceIte]
        split
        next => exact skip_unwarned _ _ _ _
        next => exact renameFile_unwarned _ _ _

theorem renameAll_unwarned (plan : Entries) : Unwarned text (renameAll disk v plan).logs := by
  induction plan generalizing v with
  | nil => exact .nil
  | cons pair rest ih =>
      rw [renameAll]
      dsimp only
      split
      next => exact renamePair_unwarned _ _
      next => exact (renamePair_unwarned _ _).append ih

theorem executeEntries_unwarned (plan : Entries) :
    Unwarned text (executeEntries disk v plan).logs := by
  have started : Unwarned text (startRecord plan.length :: (renameAll disk v plan).logs) :=
    .cons (ne_emptyWarning_of_info rfl) (renameAll_unwarned plan)
  unfold executeEntries
  dsimp only
  split
  next => exact started
  next => exact started.append (.single (ne_emptyWarning_of_info rfl))

end Rename

/-! ## Metadata of known formats -/

section

variable {reader : MediaReader} {v : Volume} {cwd p : Path}

namespace Extractor

theorem image_unwarned (name : String) :
    Unwarned text ((image name).extract reader v cwd p).logs := .nil

theorem audio_unwarned (name : String) (layout : TagLayout) :
    Unwarned text ((audio name layout).extract reader v cwd p).logs := by
  have opened : Unwarned text (openAudio name reader v cwd p).logs := by
    unfold openAudio
    split
    next =>
      split
      next => exact .single (ne_emptyWarning_of_error rfl)
      next => exact .nil
    next =>
      split
      next =>
        split
        next =>
          split
          next => exact .nil
          next => exact .single (ne_emptyWarning_of_error rfl)
        next => exact .nil
      next => exact .nil
  exact opened.bind fun tags => Unwarned.ofExcept_bind fun _ => .nil

end Extractor

/-- Looking up metadata in files of the formats that are known from the start. -/
theorem Registry.knownLookup_unwarned (reader : MediaReader) (cwd : Path) (v : Volume) (p : Path) :
    Unwarned text (knownLookup reader cwd v p).logs := by
  have extracted : ∀ entry ∈ Registry.default,
      Unwarned text (entry.2.extract reader v cwd p).logs := by
    simp only [default, List.forall_mem_cons]
    refine ⟨?_, ?_, ?_, ?_, ?_, ?_, ?_, ?_, ?_, ?_, ?_, ?_⟩
    · exact Extractor.image_unwarned "Jpeg"
    · exact Extractor.image_unwarned "Jpeg"
    · exact Extractor.image_unwarned "Tiff"
    · exact Extractor.image_unwarned "Tiff"
    · exact Extractor.audio_unwarned "Mp3" _
    · exact Extractor.audio_unwarned "Wave" _
    · exact Extractor.audio_unwarned "Flac" _
    · exact Extractor.audio_unwarned "Aiff" _
    · exact Extractor.audio_unwarned "OggVorbis" _
    · exact Extractor.audio_unwarned "M4a" _
    · exact Extractor.audio_unwarned "Asf" _
    · exact fun _ none => absurd none List.not_mem_nil
  unfold knownLookup lookupMetadata
  split
  next => exact .nil
  next e routed => exact (extracted _ (extractorFor_ok routed)).bind fun _ => .nil

end

/-! ## Runs -/

namespace Cli

variable {c : Context} {request : Request} {w : World}

theorem Stage.andThen_unwarned {s : Stage α} {next : World → α → Stage β}
    (first : Unwarned text s.logs)
    (rest : ∀ a, s.outcome = .ok a → Unwarned text (next s.world a).logs) :
    Unwarned text (s.andThen next).logs := by
  rw [andThen]
  split
  next => exact first
  next a reached => exact first.append (rest a reached)

theorem Stage.printing_unwarned (w : World) (a : α) (lines : Except Failure (List String)) :
    Unwarned text (Stage.printing w a lines).logs := by
  cases lines with
  | error f => exact .nil
  | ok ls => exact .nil

/-- A scheme on the command line that is not empty has tokens. -/
theorem schemeArgument_logs (request : Request) : (schemeArgument request).logs = [] := by
  unfold schemeArgument
  split
  next => rfl
  next => rfl
  next => rfl
  next given filled _ =>
    have tokens : (Scheme.parse given).isEmpty = false := by
      apply Scheme.parse_isEmpty
      rintro rfl
      exact filled rfl
    simp [tokens]

theorem prepare_unwarned : Unwarned text (prepare c request w).logs := by
  apply Stage.andThen_unwarned (Cache.load_unwarned _ _ _ _)
  intro settings _
  apply Stage.andThen_unwarned
  · unfold installLog
    dsimp only
    split
    next => exact .nil
    next => exact .nil
  · intro _ _
    exact .nil

theorem runSubstitute_unwarned (s : Settings) : Unwarned text (runSubstitute c request s).logs := by
  unfold runSubstitute
  split
  next => exact .nil
  next =>
    unfold configuredSubstitute
    split
    next => exact .nil
    next => exact Settings.substituteCharacter_unwarned

theorem buildRenamer_unwarned (s : Settings) : Unwarned text (buildRenamer c request s).logs := by
  apply (runSubstitute_unwarned s).bind
  intro substitute
  exact Settings.schemeTokens_unwarned.bind fun _ => .nil

theorem draft_unwarned : Unwarned text (draft c request w).logs := by
  apply Stage.andThen_unwarned prepare_unwarned
  intro (settings, paths) _
  apply Stage.andThen_unwarned (buildRenamer_unwarned settings)
  intro renamer _
  apply Stage.andThen_unwarned
  · show Unwarned text (schemeArgument request).logs
    rw [schemeArgument_logs]
    exact .nil
  · intro scheme _
    exact .nil

theorem renameStage_unwarned (entries : Entries) :
    Unwarned text (renameStage c request entries w).logs := by
  unfold renameStage
  split
  next => exact .nil
  next => exact Rename.executeEntries_unwarned entries

theorem failureReport_unwarned (f : Failure) : Unwarned text [(failureReport f).2] := by
  apply Unwarned.single
  unfold failureReport
  split
  next => exact ne_emptyWarning_of_info rfl
  next =>
    split
    next => exact ne_emptyWarning_of_error rfl
    next => exact ne_emptyWarning_of_error rfl

theorem carryOut_unwarned (quiet : ∀ v p, Unwarned text (c.lookup v p).logs) :
    Unwarned text (carryOut c request w).logs := by
  rw [carryOut_eq]
  apply Stage.andThen_unwarned draft_unwarned
  intro (paths, planning) drafted
  obtain ⟨sub, scheme, rfl⟩ := draft_planned drafted
  apply Stage.andThen_unwarned
  · apply Stage.andThen_unwarned
    · exact Planner.planAll_unwarned quiet _
    · intro plan _
      exact Stage.printing_unwarned _ _ _
  · intro entries _
    apply Stage.andThen_unwarned
    · exact renameStage_unwarned entries
    · intro outcomes _
      exact Stage.printing_unwarned _ _ _

/-- A run logs the warning only if the lookup of metadata does. -/
theorem run_unwarned (quiet : ∀ v p, Unwarned text (c.lookup v p).logs) :
    Unwarned text (run c request w).logs := by
  unfold run finish
  split
  next => exact carryOut_unwarned quiet
  next f _ => exact (carryOut_unwarned quiet).append (failureReport_unwarned f)

end Cli

end MediaNaming
