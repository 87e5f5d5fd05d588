import MediaNaming.Proofs.Settings.RoundTrip
/-!
# What the cache keeps

Settings are loaded again and again, while files change and other files are named. What is kept is
always what the last successful reading gave, unless it has been forgotten since; a request is
answered from a file exactly if what is kept does not answer it; and a reading that fails changes
nothing.
-/

namespace MediaNaming

namespace Settings

variable {v : Volume} {cwd source : Path} {name text : String}

/-- A file that holds a text gives what the document in the text does. -/
theorem ofFile_outcome (read : v.read? cwd source = .ok (Text.Utf8.octets text)) :
    (ofFile v cwd source).outcome =
      match Toml.read text.toList with
      | .ok table => .ok (ofTable table)
      | .error .malformed => .error .badSettings
      | .error (.longNumber n) => .error (.number (.tooLong n)) := by
  simp only [ofFile, Volume.exists?_of_read read, read, ofOctets, Text.Utf8.octets,
    Text.Utf8.decode?_encode]
  split
  next malformed => simp only [malformed]
  next n long =>
    simp only [long]
    rfl
  next table document => simp only [document]

theorem ofFile_root_absent (named : Path.IsName name)
    (fits : Volume.octetLength name ≤ Volume.nameLimit) (absent : v.entry? [name] = none) :
    ofFile v ⟨.root, []⟩ ⟨.root, [name]⟩ = .ok default := by
  have missing : v.exists? ⟨.root, []⟩ ⟨.root, [name]⟩ = .ok false := by
    simp only [Volume.exists?, Volume.ask, Volume.look,
      Volume.find_root_absent named fits absent]
    rfl
  simp only [ofFile, missing]

/-- A tree with one file, which holds a text. -/
def fileTree (text : String) : Volume :=
  ⟨[(["c"], .file 0)], [(0, Text.Utf8.octets text)]⟩

theorem read?_fileTree (text : String) : (fileTree text).read? ⟨.root, []⟩ ⟨.root, ["c"]⟩ =
    .ok (Text.Utf8.octets text) :=
  Volume.read?_eq_ok_iff.mpr
    ⟨["c"], 0, Volume.find_root_file (by decide) (by decide) rfl, rfl, rfl⟩

end Settings

namespace Cache

open Settings (fileTree ofFile_outcome ofFile_root_absent read?_fileTree sampleSurroundings)

/-! ## Calls -/

/-- One call: settings are loaded, in the surroundings and from the tree of that time, or
forgotten. -/
inductive Call where
  | load (s : Surroundings) (v : Volume) (file : Option Path)
  | reset

variable {c : Cache} {s s' : Surroundings} {v v' : Volume} {file : Option Path} {l l' : Loaded}
  {call : Call} {calls : List Call} {f : Failure}

/-- The cache behind a call. -/
def after (c : Cache) : Call → Cache
  | .load s v file => (c.load s v file).cache
  | .reset => c.reset

/-- The cache behind calls one after another. -/
def run (c : Cache) : List Call → Cache
  | [] => c
  | call :: calls => run (c.after call) calls

/-- What is kept does not answer a request: there is nothing, or another file is named. -/
def Reads (c : Cache) (file : Option Path) : Prop :=
  c.current = none ∨ ∃ l p, c.current = some l ∧ file = some p ∧ p ≠ l.source

/-- The file that is read for a request, if it can be told. -/
def target (s : Surroundings) (v : Volume) : Option Path → Except Failure Path
  | some p => .ok p
  | none => s.configFile v

/-- A request is answered from a file, with new settings: those that the file has at that time. -/
structure Gives (c : Cache) (s : Surroundings) (v : Volume) (file : Option Path)
    (l : Loaded) : Prop where
  reads : c.Reads file
  source : target s v file = .ok l.source
  settings : (Settings.ofFile v s.cwd l.source).outcome = .ok l.settings
  fresh : l.serial = c.made

/-- A call reads settings that are kept from then on. -/
def Stores (c : Cache) (l : Loaded) : Call → Prop
  | .load s v file => c.Gives s v file l
  | .reset => False

/-- A call is no reset, and reads no settings. -/
def Leaves (c : Cache) (call : Call) : Prop :=
  call ≠ .reset ∧ ∀ l, ¬ c.Stores l call

/-- None of some calls is a reset, and none reads settings. -/
def LeavesAll (c : Cache) : List Call → Prop
  | [] => True
  | call :: calls => c.Leaves call ∧ LeavesAll (c.after call) calls

/-! ## One call -/

theorem Gives.unique (first : c.Gives s v file l) (second : c.Gives s v file l') : l = l' := by
  obtain ⟨settings, source, serial⟩ := l
  obtain ⟨settings', source', serial'⟩ := l'
  have sources := Except.ok.inj (first.source.symm.trans second.source)
  cases sources
  have same := Except.ok.inj (first.settings.symm.trans second.settings)
  cases same
  have serials := first.fresh.trans second.fresh.symm
  cases serials
  rfl

theorem answer?_eq_none_iff : c.answer? file = none ↔ c.Reads file := by
  rw [Reads]
  cases kept : c.current with
  | none => simp [answer?, kept]
  | some l =>
      cases file with
      | none => simp [answer?, kept]
      | some p => simp [answer?, kept]

/-- What answers a request is what is kept. -/
theorem current_of_answer? (answered : c.answer? file = some l) : c.current = some l := by
  cases kept : c.current with
  | none => simp [answer?, kept] at answered
  | some l' =>
      cases file with
      | none => simpa [answer?, kept] using answered
      | some p =>
          simp only [answer?, kept] at answered
          split at answered
          next => exact answered
          next => cases answered

theorem load_of_reads (reads : c.Reads file) : c.load s v file =
    match target s v file with
    | .error f => ⟨.error f, c, []⟩
    | .ok p => c.loadFrom v s.cwd p := by
  simp only [load, answer?_eq_none_iff.mpr reads]
  cases file with
  | none => rfl
  | some p => rfl

/-- What a request comes to: an answer from what is kept, a failure that changes nothing, or
settings that are new and kept from then on. -/
theorem load_cases (c : Cache) (s : Surroundings) (v : Volume) (file : Option Path) :
    (∃ l, ¬ c.Reads file ∧ c.current = some l ∧ c.load s v file = ⟨.ok l, c, []⟩) ∨
      (∃ f logs, c.Reads file ∧ (∀ l, ¬ c.Gives s v file l) ∧
        c.load s v file = ⟨.error f, c, logs⟩) ∨
      ∃ l logs, c.Gives s v file l ∧ c.load s v file = ⟨.ok l, ⟨some l, c.made + 1⟩, logs⟩ := by
  cases answered : c.answer? file with
  | some l =>
      left
      refine ⟨l, ?_, current_of_answer? answered, ?_⟩
      · rw [← answer?_eq_none_iff, answered]
        simp
      · simp only [load, answered]
  | none =>
      right
      have reads := answer?_eq_none_iff.mp answered
      rw [load_of_reads reads]
      cases found : target s v file with
      | error f =>
          left
          refine ⟨f, [], reads, ?_, rfl⟩
          intro l gives
          have told := gives.source
          rw [found] at told
          cases told
      | ok source =>
          simp only [loadFrom]
          cases read : (Settings.ofFile v s.cwd source).outcome with
          | error f =>
              left
              refine ⟨f, _, reads, ?_, rfl⟩
              intro l gives
              have told := gives.source
              rw [found] at told
              have given := gives.settings
              rw [← Except.ok.inj told, read] at given
              cases given
          | ok settings =>
              right
              exact ⟨⟨settings, source, c.made⟩, _, ⟨reads, found, read, rfl⟩, rfl⟩

/-- What is kept answers a request that reads nothing. -/
theorem load_of_not_reads (s : Surroundings) (v : Volume) (unread : ¬ c.Reads file) :
    ∃ l, c.current = some l ∧ c.load s v file = ⟨.ok l, c, []⟩ := by
  rcases load_cases c s v file with ⟨l, -, kept, loaded⟩ | ⟨f, logs, reads, -⟩ |
    ⟨l, logs, gives, -⟩
  · exact ⟨l, kept, loaded⟩
  · exact absurd reads unread
  · exact absurd gives.reads unread

/-- A request without a file is answered from what is kept, if there is something. -/
theorem load_none (kept : c.current = some l) : c.load s v none = ⟨.ok l, c, []⟩ := by
  have unread : ¬ c.Reads none := by
    rintro (none | ⟨l', p, -, named, -⟩)
    · rw [none] at kept
      cases kept
    · cases named
  obtain ⟨l', kept', loaded⟩ := load_of_not_reads s v unread
  rw [kept, Option.some_inj] at kept'
  rw [loaded, kept']

/-- A request that reads gives the settings of the file, as it is at that time. -/
theorem load_eq_ok_iff (reads : c.Reads file) :
    (c.load s v file).outcome = .ok l ↔ c.Gives s v file l := by
  rcases load_cases c s v file with ⟨k, unread, -⟩ | ⟨f, logs, -, none, loaded⟩ |
    ⟨k, logs, gives, loaded⟩
  · exact absurd reads unread
  · rw [loaded]
    exact ⟨(fun outcome => nomatch outcome), fun gives => absurd gives (none l)⟩
  · rw [loaded, Except.ok.injEq]
    constructor
    · rintro rfl
      exact gives
    · exact gives.unique

/-- What has been read is kept. -/
theorem load_current (gives : c.Gives s v file l) : (c.load s v file).cache.current = some l := by
  rcases load_cases c s v file with ⟨k, unread, -⟩ | ⟨f, logs, -, none, -⟩ |
    ⟨k, logs, gives', loaded⟩
  · exact absurd gives.reads unread
  · exact absurd gives (none l)
  · rw [loaded, gives.unique gives']

theorem load_failed (failed : (c.load s v file).outcome = .error f) :
    (c.load s v file).cache = c := by
  rcases load_cases c s v file with ⟨k, -, -, loaded⟩ | ⟨g, logs, -, -, loaded⟩ |
    ⟨k, logs, -, loaded⟩
  · rw [loaded] at failed
    cases failed
  · rw [loaded]
  · rw [loaded] at failed
    cases failed

/-- After a call the cache keeps what the call has read, or what it kept if the call leaves it. -/
theorem after_current_iff : (c.after call).current = some l ↔
    c.Stores l call ∨ c.current = some l ∧ c.Leaves call := by
  cases call with
  | reset => simp [after, reset, Stores, Leaves]
  | load s v file =>
      rw [after, Leaves]
      rcases load_cases c s v file with ⟨k, answered, kept, loaded⟩ |
        ⟨f, logs, reads, none, loaded⟩ | ⟨k, logs, gives, loaded⟩
      · have unread : ∀ l, ¬ c.Gives s v file l := fun l gives => answered gives.reads
        simp [loaded, Stores, unread]
      · simp [loaded, Stores, none]
      · have stores : c.Gives s v file l ↔ k = l := by
          constructor
          · exact gives.unique
          · rintro rfl
            exact gives
        have read : ¬ ∀ l, ¬ c.Stores l (.load s v file) := fun none => none k gives
        simp only [loaded, Option.some_inj, read, and_false, or_false]
        exact stores.symm

/-! ## Calls one after another -/

/-- After some calls the cache keeps what one of them has read, or what it kept before, and the
calls since then have left it. -/
theorem run_current_iff : (c.run calls).current = some l ↔
    c.current = some l ∧ c.LeavesAll calls ∨
      ∃ before call later, calls = before ++ call :: later ∧ (c.run before).Stores l call ∧
        ((c.run before).after call).LeavesAll later := by
  induction calls generalizing c with
  | nil => simp [run, LeavesAll]
  | cons call calls ih =>
      -- What is kept behind the first call is what the other calls start with.
      rw [run, ih, after_current_iff, LeavesAll]
      constructor
      · rintro (⟨stores | ⟨kept, leaves⟩, others⟩ | ⟨before, call', later, rfl, stores, others⟩)
        · exact .inr ⟨[], call, calls, rfl, stores, others⟩
        · exact .inl ⟨kept, leaves, others⟩
        · exact .inr ⟨call :: before, call', later, rfl, stores, others⟩
      · rintro (⟨kept, leaves, others⟩ | ⟨before, call', later, split, stores, others⟩)
        · exact .inl ⟨.inr ⟨kept, leaves⟩, others⟩
        · cases before with
          | nil =>
              obtain ⟨rfl, rfl⟩ := List.cons.inj split
              exact .inl ⟨.inl stores, others⟩
          | cons first before =>
              obtain ⟨rfl, rfl⟩ := List.cons.inj split
              exact .inr ⟨before, call', later, rfl, stores, others⟩

/-- Whatever loading gives has been read from its file at some time. -/
theorem load_ofFile (loaded : ((empty.run calls).load s v file).outcome = .ok l) :
    ∃ v cwd, (Settings.ofFile v cwd l.source).outcome = .ok l.settings := by
  rcases load_cases (empty.run calls) s v file with ⟨k, -, kept, same⟩ | ⟨f, logs, -, -, same⟩ |
    ⟨k, logs, gives, same⟩
  · rw [same] at loaded
    cases loaded
    rcases run_current_iff.mp kept with ⟨none, -⟩ | ⟨before, call, later, -, stores, -⟩
    · cases none
    · cases call with
      | load s v file => exact ⟨v, s.cwd, stores.settings⟩
      | reset => cases stores
  · rw [same] at loaded
    cases loaded
  · rw [same] at loaded
    cases loaded
    exact ⟨v, s.cwd, gives.settings⟩

/-- The numbers of kept settings have been given. -/
def IsCounted (c : Cache) : Prop :=
  ∀ l, c.current = some l → l.serial < c.made

theorem IsCounted.after (counted : c.IsCounted) (call : Call) : (c.after call).IsCounted := by
  cases call with
  | reset => exact fun l kept => nomatch kept
  | load s v file =>
      rw [Cache.after]
      rcases load_cases c s v file with ⟨k, -, -, loaded⟩ | ⟨f, logs, -, -, loaded⟩ |
        ⟨k, logs, gives, loaded⟩
      · rw [loaded]
        exact counted
      · rw [loaded]
        exact counted
      · rw [loaded]
        rintro l ⟨⟩
        exact Nat.lt_succ_of_le (Nat.le_of_eq gives.fresh)

theorem IsCounted.run (counted : c.IsCounted) (calls : List Call) : (c.run calls).IsCounted := by
  induction calls generalizing c with
  | nil => exact counted
  | cons call calls ih => exact ih (counted.after call)

/-! ## Coherence -/

/-- What one request comes to, whatever it is and whatever files there are at that time. -/
structure Answers (c : Cache) (s : Surroundings) (v : Volume) (file : Option Path) : Prop where
  /-- What is kept is the answer exactly if nothing is to be read. -/
  kept : (∃ l, c.current = some l ∧ (c.load s v file).outcome = .ok l) ↔ ¬ c.Reads file
  /-- In this case nothing changes. -/
  same : ¬ c.Reads file → (c.load s v file).cache = c ∧ (c.load s v file).logs = []
  /-- Otherwise the answer is what the file gives, and is kept. -/
  read : c.Reads file → ∀ l, ((c.load s v file).outcome = .ok l ↔ c.Gives s v file l) ∧
    (c.Gives s v file l → (c.load s v file).cache.current = some l)
  /-- A failure changes nothing, so that what is kept goes on being the answer. -/
  failed : ∀ f, (c.load s v file).outcome = .error f → (c.load s v file).cache = c ∧
    ∀ l, c.current = some l → ∀ s' v',
      ((c.load s v file).cache.load s' v' none).outcome = .ok l

theorem IsCounted.answers (counted : c.IsCounted) (s : Surroundings) (v : Volume)
    (file : Option Path) : c.Answers s v file where
  kept := by
    constructor
    · rintro ⟨l, kept, outcome⟩ reads
      have fresh := ((load_eq_ok_iff reads).mp outcome).fresh
      exact absurd fresh (Nat.ne_of_lt (counted l kept))
    · intro unread
      obtain ⟨l, kept, loaded⟩ := load_of_not_reads s v unread
      exact ⟨l, kept, by rw [loaded]⟩
  same := by
    intro unread
    obtain ⟨l, -, loaded⟩ := load_of_not_reads s v unread
    rw [loaded]
    exact ⟨rfl, rfl⟩
  read := fun reads _ => ⟨load_eq_ok_iff reads, load_current⟩
  failed := by
    intro f failed
    have same := load_failed failed
    refine ⟨same, ?_⟩
    intro l kept s' v'
    rw [same, load_none kept]

/-- The cache is coherent: after any calls, what is kept is what the last of them that read settings
has read, and there has been no reset since; and every further request is answered accordingly. -/
theorem run_coherent (calls : List Call) :
    (∀ l, (empty.run calls).current = some l ↔
      ∃ before s v file later, calls = before ++ .load s v file :: later ∧
        (empty.run before).Gives s v file l ∧
          ((empty.run before).after (.load s v file)).LeavesAll later) ∧
      ∀ s v file, (empty.run calls).Answers s v file := by
  constructor
  · intro l
    rw [run_current_iff]
    constructor
    · rintro (⟨none, -⟩ | ⟨before, call, later, split, stores, others⟩)
      · cases none
      · cases call with
        | load s v file => exact ⟨before, s, v, file, later, split, stores, others⟩
        | reset => cases stores
    · rintro ⟨before, s, v, file, later, split, gives, others⟩
      exact .inr ⟨before, .load s v file, later, split, gives, others⟩
  · have counted : empty.IsCounted := fun l kept => nomatch kept
    exact (counted.run calls).answers

/-- Settings without a file, and a file that cannot be read. -/
def brokenCalls : List Call :=
  [.load sampleSurroundings ⟨[], []⟩ (some ⟨.root, ["b"]⟩),
    .load sampleSurroundings (fileTree "x") (some ⟨.root, ["c"]⟩)]

/-- A file that cannot be read leaves the settings that were read before, however often it is
named. -/
theorem run_coherent_broken :
    (empty.run brokenCalls).current = some ⟨.default, ⟨.root, ["b"]⟩, 0⟩ ∧
      ∃ f, ((empty.run brokenCalls).load sampleSurroundings (fileTree "x")
          (some ⟨.root, ["c"]⟩)).outcome = .error f ∧
        (((empty.run brokenCalls).load sampleSurroundings (fileTree "x")
          (some ⟨.root, ["c"]⟩)).cache.load sampleSurroundings (fileTree "x") none).outcome =
            .ok ⟨.default, ⟨.root, ["b"]⟩, 0⟩ := by
  have absent : Settings.ofFile ⟨[], []⟩ ⟨.root, []⟩ ⟨.root, ["b"]⟩ = .ok .default :=
    ofFile_root_absent (by decide) (by decide) rfl
  have broken : (Settings.ofFile (fileTree "x") ⟨.root, []⟩ ⟨.root, ["c"]⟩).outcome =
      .error .badSettings :=
    ofFile_outcome (read?_fileTree "x")
  have unread : ∀ (c : Cache) (l : Loaded), ¬ c.Gives sampleSurroundings (fileTree "x")
      (some ⟨.root, ["c"]⟩) l := by
    intro c l gives
    have given := gives.settings
    rw [← Except.ok.inj gives.source, sampleSurroundings, broken] at given
    cases given
  obtain ⟨latest, answers⟩ := run_coherent brokenCalls
  have kept : (empty.run brokenCalls).current = some ⟨.default, ⟨.root, ["b"]⟩, 0⟩ := by
    refine (latest _).mpr ⟨[], _, _, _, _, rfl, ⟨.inl rfl, rfl, ?_, rfl⟩, ⟨?_, unread _⟩, trivial⟩
    · exact congrArg Log.Traced.outcome absent
    · exact fun same => nomatch same
  have next := answers sampleSurroundings (fileTree "x") (some ⟨.root, ["c"]⟩)
  refine ⟨kept, ?_⟩
  cases outcome : ((empty.run brokenCalls).load sampleSurroundings (fileTree "x")
      (some ⟨.root, ["c"]⟩)).outcome with
  | ok l =>
      have reads : (empty.run brokenCalls).Reads (some ⟨.root, ["c"]⟩) :=
        .inr ⟨_, _, kept, rfl, by decide⟩
      exact absurd ((next.read reads l).1.mp outcome) (unread _ l)
  | error f => exact ⟨f, rfl, (next.failed f outcome).2 _ kept _ _⟩

end Cache

end MediaNaming
