import MediaNaming.Proofs.Path
import MediaNaming.Proofs.Text.Utf8
import MediaNaming.Proofs.Toml.Lines
import MediaNaming.Proofs.Volume.Written
import MediaNaming.Settings.Cache
/-!
# Saved settings

The file that settings are saved to is a document of texts. Loading it gives the same settings
again, or it is refused because one of the texts has a control character; it never gives other
settings. Nothing else can go wrong between the two: the file is the one that was written, its
octets are those of the text, and a path is found again in its own text.
-/

namespace MediaNaming.Settings

open Toml (Line isForbidden)

variable {scheme substitute : String} {logFile : Option Path} {settings : Settings}
  {s : Surroundings} {v w : Volume} {target destination : Path} {logs : List Log.Record}

/-- Settings of two texts and perhaps a log file. -/
def ofTexts (scheme substitute : String) (logFile : Option Path) : Settings :=
  ⟨.text scheme, .text substitute, (logFile.map .path).getD .null⟩

/-- The texts that stand in the file of such settings. -/
def texts (scheme substitute : String) (logFile : Option Path) : List String :=
  scheme :: substitute :: (logFile.map Path.text).toList

/-- The control characters other than a tab. -/
def IsControl (c : Char) : Prop :=
  c.toNat ≤ 0x08 ∨ (0x0A ≤ c.toNat ∧ c.toNat ≤ 0x1F) ∨ c.toNat = 0x7F

theorem isForbidden_iff (c : Char) : isForbidden c = true ↔ IsControl c := by
  have tab : c = '\t' ↔ c.toNat = 9 := by
    constructor
    · intro same
      rw [same]
      rfl
    · intro same
      rw [← Char.ofNat_toNat c, same]
  simp only [isForbidden, IsControl, Bool.or_eq_true, Bool.and_eq_true, decide_eq_true_eq, ne_eq,
    tab]
  omega

/-! ## The document -/

/-- The lines of the file. -/
def fileLines (scheme substitute : String) (logFile : Option Path) : List Line :=
  [.comment "# media-renamer configuration file",
    .blank,
    .comment "# Default naming scheme. Text in braces names a metadata key,",
    .comment "# everything else is copied verbatim. Use \x7b\x7b and \x7d\x7d for literal braces.",
    .comment "# Example: naming_scheme = \"Holiday-\x7bdate_time\x7d\"",
    .entry "naming_scheme" scheme,
    .blank,
    .comment "# Character substituted for \\ : ? * < > | \" / in generated names",
    .entry "substitution_character" substitute,
    .blank,
    .comment "# Log file path (optional)",
    .comment "# Example: log_file = \"/path/to/logs/media_renamer.log\""] ++
    (logFile.map fun p => Line.entry "log_file" p.text).toList

theorem lines_ofTexts (scheme substitute : String) (logFile : Option Path) :
    lines (ofTexts scheme substitute logFile) =
      .ok ((fileLines scheme substitute logFile).map Line.text ++ [""]) := by
  cases logFile with
  | none => rfl
  | some p => rfl

/-- The file is a document of texts. -/
theorem render_ofTexts (scheme substitute : String) (logFile : Option Path) :
    ∃ text, render (ofTexts scheme substitute logFile) = .ok text ∧
      text.toList =
        (fileLines scheme substitute logFile).flatMap Line.chars := by
  rw [render, lines_ofTexts]
  refine ⟨_, rfl, ?_⟩
  rw [Text.joined_lines, List.flatMap_map]
  rfl

theorem fileLines_isProper (scheme substitute : String) (logFile : Option Path) :
    ∀ l ∈ fileLines scheme substitute logFile, l.isProper = true := by
  have path : ∀ l ∈ (logFile.map fun p => Line.entry "log_file" p.text).toList,
      l.isProper = true := by
    cases logFile with
    | none => simp
    | some p =>
        have entry : (Line.entry "log_file" p.text).isProper = true :=
          Line.entry_isProper p.text rfl (by decide)
        simpa using entry
  rw [fileLines, List.forall_mem_append]
  refine ⟨?_, path⟩
  simp only [List.forall_mem_cons]
  exact ⟨Line.comment_isProper rfl (by decide), rfl, Line.comment_isProper rfl (by decide),
    Line.comment_isProper rfl (by decide), Line.comment_isProper rfl (by decide),
    Line.entry_isProper _ rfl (by decide), rfl, Line.comment_isProper rfl (by decide),
    Line.entry_isProper _ rfl (by decide), rfl, Line.comment_isProper rfl (by decide),
    Line.comment_isProper rfl (by decide), by simp⟩

/-- The names in the file with their texts. -/
def filePairs (scheme substitute : String) (logFile : Option Path) : List (String × String) :=
  [("naming_scheme", scheme), ("substitution_character", substitute)] ++
    (logFile.map fun p => ("log_file", p.text)).toList

theorem fileLines_pairs (scheme substitute : String) (logFile : Option Path) :
    (fileLines scheme substitute logFile).flatMap Line.pairs =
      filePairs scheme substitute logFile := by
  cases logFile with
  | none => rfl
  | some p => rfl

theorem filePairs_distinct (scheme substitute : String) (logFile : Option Path) :
    ((filePairs scheme substitute logFile).map Prod.fst).Nodup := by
  cases logFile with
  | none =>
      change ["naming_scheme", "substitution_character"].Nodup
      decide
  | some p =>
      change ["naming_scheme", "substitution_character", "log_file"].Nodup
      decide

/-- The file is refused for what its texts hold. -/
theorem fileLines_isClean (scheme substitute : String) (logFile : Option Path) :
    (fileLines scheme substitute logFile).all Line.isClean =
      (texts scheme substitute logFile).all fun t => !t.toList.any isForbidden := by
  cases logFile with
  | none => simp [fileLines, texts, Line.isClean]
  | some p => simp [fileLines, texts, Line.isClean]

/-- Reading the file gives the table of its texts, unless one of them has a control character. -/
theorem read_file (scheme substitute : String) (logFile : Option Path) :
    Toml.read ((fileLines scheme substitute logFile).flatMap Line.chars) =
      if (texts scheme substitute logFile).all fun t => !t.toList.any isForbidden then
        .ok (Toml.Document.ofPairs (filePairs scheme substitute logFile)).table
      else .error .malformed := by
  have distinct := filePairs_distinct scheme substitute logFile
  rw [← fileLines_pairs] at distinct
  rw [Toml.read_lines (fileLines_isProper scheme substitute logFile) distinct, fileLines_isClean,
    fileLines_pairs]

/-! ## Loading -/

/-- Log files that can be told from none: paths that have been read from a text, whose own text is
not blank. -/
def IsLogFile (p : Path) : Prop :=
  (∃ t, p = .ofText t) ∧ Text.isBlankText p.text = false

/-- The table of the file has the settings. -/
theorem ofTable_filePairs (given : ∀ p ∈ logFile, IsLogFile p) :
    ofTable (Toml.Document.ofPairs (filePairs scheme substitute logFile)).table =
      ofTexts scheme substitute logFile := by
  cases logFile with
  | none => rfl
  | some p =>
      obtain ⟨⟨t, read⟩, notBlank⟩ := given p rfl
      have same : Path.ofText p.text = p := by
        rw [read, Path.ofText_text_ofText]
      have path : logPath (.text p.text) = .path p := by
        rw [logPath, notBlank, same]
        rfl
      have values : ofTable (Toml.Document.ofPairs
          (filePairs scheme substitute (some p))).table =
          ofValues (some (.text scheme)) (some (.text substitute)) (some (.text p.text)) := rfl
      rw [values, ofValues, Option.getD_some, Option.getD_some, Option.getD_some, path]
      rfl

/-- The octets of the file give the settings back, or they are refused. -/
theorem ofOctets_render {text : String}
    (rendered : render (ofTexts scheme substitute logFile) = .ok text)
    (given : ∀ p ∈ logFile, IsLogFile p) (source : Path) :
    (ofOctets source (Text.Utf8.octets text)).outcome =
      if (texts scheme substitute logFile).all fun t => !t.toList.any isForbidden then
        .ok (ofTexts scheme substitute logFile)
      else .error .badSettings := by
  obtain ⟨shown, renders, chars⟩ := render_ofTexts scheme substitute logFile
  rw [rendered] at renders
  cases renders
  have reading := read_file scheme substitute logFile
  rw [ofOctets, Text.Utf8.octets, Text.Utf8.decode?_encode]
  by_cases clean : ((texts scheme substitute logFile).all fun t => !t.toList.any isForbidden) = true
  · rw [if_pos clean, ← chars] at reading
    simp only [reading]
    rw [if_pos clean, ofTable_filePairs given]
  · rw [if_neg clean, ← chars] at reading
    simp only [reading]
    rw [if_neg clean]

/-- Settings have been saved if their text has been written to the target. -/
theorem save_ok (saved : settings.save s v (some target) = ⟨.ok destination, w, logs⟩) :
    destination = target ∧ ∃ text, settings.render = .ok text ∧
      w.read? s.cwd target = .ok (Text.Utf8.octets text) := by
  simp only [save, saveTo] at saved
  split at saved
  next => cases saved
  next text rendered =>
    split at saved
    next => cases saved
    next =>
      split at saved
      next => cases saved
      next written =>
        cases saved
        exact ⟨rfl, text, rendered, Volume.read?_write written⟩

/-- With nothing kept, loading gives what the octets of the file give. -/
theorem load_of_read {bs : List UInt8} (read : v.read? s.cwd target = .ok bs) (cache : Cache) :
    (cache.reset.load s v (some target)).outcome =
      (ofOctets target bs).outcome.map fun settings => ⟨settings, target, cache.made⟩ := by
  have direct : cache.reset.load s v (some target) = cache.reset.loadFrom v s.cwd target := rfl
  have found : ofFile v s.cwd target = ofOctets target bs := by
    simp only [ofFile, Volume.exists?_of_read read, read]
  rw [direct, Cache.loadFrom, found]
  cases (ofOctets target bs).outcome with
  | error f => rfl
  | ok settings => rfl

theorem all_clean_iff (ts : List String) :
    (ts.all fun t => !t.toList.any isForbidden) = true ↔
      ∀ t ∈ ts, ∀ c ∈ t.toList, ¬IsControl c := by
  simp [← isForbidden_iff]

/-- Settings that have been saved are loaded again as they were, unless a text of theirs has a
control character other than a tab. Then loading is refused. -/
theorem load_saved (given : ∀ p ∈ logFile, IsLogFile p)
    (saved : (ofTexts scheme substitute logFile).save s v (some target) =
      ⟨.ok destination, w, logs⟩) (cache : Cache) :
    destination = target ∧
      ((∀ t ∈ texts scheme substitute logFile, ∀ c ∈ t.toList, ¬IsControl c) →
        ∃ l, (cache.reset.load s w (some target)).outcome = .ok l ∧
          l.settings = ofTexts scheme substitute logFile) ∧
      ((∃ t ∈ texts scheme substitute logFile, ∃ c ∈ t.toList, IsControl c) →
        (cache.reset.load s w (some target)).outcome = .error .badSettings) := by
  obtain ⟨same, text, rendered, read⟩ := save_ok saved
  rw [load_of_read read, ofOctets_render rendered given]
  constructor
  · exact same
  constructor
  · intro clean
    rw [if_pos ((all_clean_iff _).mpr clean)]
    exact ⟨_, rfl, rfl⟩
  · intro control
    have refused : ¬((texts scheme substitute logFile).all fun t =>
        !t.toList.any isForbidden) = true := by
      intro clean
      obtain ⟨t, member, c, inside, isControl⟩ := control
      exact (all_clean_iff _).mp clean t member c inside isControl
    rw [if_neg refused]
    rfl

/-! ## A file at the root -/

/-- A file at the root can be saved to. -/
theorem save_root {name : String} {id : Nat} {text : String} (named : Path.IsName name)
    (fits : Volume.octetLength name ≤ Volume.nameLimit) (cwd : s.cwd = ⟨.root, []⟩)
    (there : v.entry? [name] = some (.file id)) (rendered : settings.render = .ok text) :
    ∃ w logs, settings.save s v (some ⟨.root, [name]⟩) = ⟨.ok ⟨.root, [name]⟩, w, logs⟩ := by
  simp [save, saveTo, rendered, cwd, Path.parent, Volume.makeDirectories_root, Volume.write?,
    Volume.update?_root named fits there]

/-- A tree with an empty file at the root. -/
def sampleTree : Volume :=
  ⟨[(["c"], .file 0)], [(0, [])]⟩

/-- A program that runs at the root. -/
def sampleSurroundings : Surroundings where
  cwd := ⟨.root, []⟩
  homes := ⟨⟨.root, []⟩, []⟩
  program := ⟨.root, ["p"]⟩
  configured := none
  standardLog := ⟨.root, ["l"]⟩

/-- A text that looks like a comment and like the start of a longer string. -/
def sampleScheme : String :=
  "# \"\"\""

/-- A text that looks like an escape. -/
def sampleSubstitute : String :=
  "\\u0000\t"

/-- A path with a backslash in front of a letter, and with a quote. -/
def sampleLogFile : Path :=
  .ofText "//logs/./log\\n\""

/-- Texts that look like syntax are loaded again, and a text of two lines is refused. -/
theorem load_saved_sample :
    (∃ w logs, (ofTexts sampleScheme sampleSubstitute (some sampleLogFile)).save
        sampleSurroundings sampleTree (some ⟨.root, ["c"]⟩) = ⟨.ok ⟨.root, ["c"]⟩, w, logs⟩ ∧
      ∃ l, (Cache.empty.reset.load sampleSurroundings w (some ⟨.root, ["c"]⟩)).outcome = .ok l ∧
        l.settings = ofTexts sampleScheme sampleSubstitute (some sampleLogFile)) ∧
    ∃ w logs, (ofTexts "a\r\nb" "_" none).save sampleSurroundings sampleTree
        (some ⟨.root, ["c"]⟩) = ⟨.ok ⟨.root, ["c"]⟩, w, logs⟩ ∧
      (Cache.empty.reset.load sampleSurroundings w (some ⟨.root, ["c"]⟩)).outcome =
        .error .badSettings := by
  have named : Path.IsName "c" := by decide
  have fits : Volume.octetLength "c" ≤ Volume.nameLimit := by decide
  have there : sampleTree.entry? ["c"] = some (.file 0) := rfl
  constructor
  · have given : ∀ p ∈ some sampleLogFile, IsLogFile p := by
      intro p same
      cases same
      exact ⟨⟨_, rfl⟩, by decide⟩
    have clean : ∀ t ∈ texts sampleScheme sampleSubstitute (some sampleLogFile),
        ∀ c ∈ t.toList, ¬IsControl c :=
      (all_clean_iff _).mp (by decide)
    obtain ⟨text, rendered, -⟩ := render_ofTexts sampleScheme sampleSubstitute (some sampleLogFile)
    obtain ⟨w, logs, saved⟩ := save_root (s := sampleSurroundings) named fits rfl there rendered
    exact ⟨w, logs, saved, (load_saved given saved Cache.empty).2.1 clean⟩
  · have given : ∀ p ∈ (none : Option Path), IsLogFile p := by
      intro p impossible
      cases impossible
    have control : ∃ t ∈ texts "a\r\nb" "_" none, ∃ c ∈ t.toList, IsControl c :=
      ⟨"a\r\nb", List.mem_cons_self, '\n', by decide, (isForbidden_iff '\n').mp rfl⟩
    obtain ⟨text, rendered, -⟩ := render_ofTexts "a\r\nb" "_" none
    obtain ⟨w, logs, saved⟩ := save_root (s := sampleSurroundings) named fits rfl there rendered
    exact ⟨w, logs, saved, (load_saved given saved Cache.empty).2.2 control⟩

end MediaNaming.Settings
