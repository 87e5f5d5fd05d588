import MediaNaming.Proofs.Plan.Reached
import MediaNaming.Proofs.Scheme.Merged
import MediaNaming.Renamer
/-!
# What a renamer keeps

A renamer is asked to keep schemes and substitutes, to plan names and to apply plans, in any
order. Each request is one step. What is kept after a history of requests is what the last
accepted request of its kind said; planning and applying, also when they fail, leave it alone.
What a renamer keeps of a planning is the files that were left out in it, unless the scheme for
this one call fails while it is gone through: then it keeps those of the planning before.
-/

namespace MediaNaming

/-! ## Substitutes -/

/-- The character that a value stands for as a substitute: a text of one legal character. -/
def acceptedChar? : Value → Option Char
  | .text s =>
    match s.toList with
    | [c] => if isIllegal c then none else some c
    | _ => none
  | _ => none

namespace Substitute

variable {value : Value} {s : String} {sub : Substitute}

theorem ofText?_eq_some_iff : ofText? s = some sub ↔ acceptedChar? (.text s) = some sub.char := by
  cases chars : s.toList with
  | nil => simp [ofText?, acceptedChar?, chars]
  | cons c rest =>
      cases rest with
      | cons d more => simp [ofText?, acceptedChar?, chars]
      | nil =>
          by_cases legal : isIllegal c = false
          · cases sub
            simp [ofText?, acceptedChar?, chars, legal]
          · simp [ofText?, acceptedChar?, chars, legal]

theorem exists_of_accepted {c : Char} (accepted : acceptedChar? value = some c) :
    ∃ sub : Substitute, sub.char = c := by
  cases value with
  | text s =>
      simp only [acceptedChar?] at accepted
      split at accepted
      next d chars =>
        split at accepted
        next => cases accepted
        next legal =>
          cases accepted
          exact ⟨⟨c, by simpa using legal⟩, rfl⟩
      next => cases accepted
  | _ => cases accepted

theorem refused_ne_ok (value : Value) :
    (value.shownWording.bind fun shown => .error (.badSubstitute shown)) ≠
      (.ok sub : Except Failure Substitute) := by
  cases value.shownWording <;> simp [Except.bind]

/-- A value becomes a substitute exactly if it stands for a character, and then for this one. -/
theorem ofValue_eq_ok_iff : ofValue value = .ok sub ↔ acceptedChar? value = some sub.char := by
  cases value with
  | text s =>
      rw [← ofText?_eq_some_iff]
      simp only [ofValue]
      cases ofText? s with
      | some other => simp
      | none => simp [refused_ne_ok]
  | _ => simp [ofValue, refused_ne_ok, acceptedChar?]

theorem ofValue_refused_iff : (∃ f, ofValue value = .error f) ↔ acceptedChar? value = none := by
  cases taken : ofValue value with
  | ok sub => simp [ofValue_eq_ok_iff.mp taken]
  | error f =>
      simp only [Except.error.injEq, exists_eq', true_iff]
      cases accepted : acceptedChar? value with
      | none => rfl
      | some c =>
          obtain ⟨sub, same⟩ := exists_of_accepted accepted
          rw [← same, ← ofValue_eq_ok_iff, taken] at accepted
          cases accepted

theorem eq_of_char {other : Substitute} (same : sub.char = other.char) : sub = other := by
  cases sub
  cases other
  cases same
  rfl

theorem isValidSubstitute_text (sub : Substitute) : isValidSubstitute sub.text = true := by
  simp [isValidSubstitute, text, sub.legal]

end Substitute

/-! ## Schemes -/

/-- Every key has a name. -/
def Scheme.IsNamed (s : Scheme) : Prop :=
  ∀ name, .key name ∈ s → name ≠ ""

namespace Scheme

variable {raw : Value} {tokens : Scheme} {f : Failure}

/-- The one scheme that cannot be compiled is a sequence that fails on the way. -/
theorem compile_error_iff : compile raw = .error f ↔ ∃ items, raw = .stream items (some f) := by
  cases raw with
  | stream items stop =>
      cases stop with
      | none => simp [compile, items?, Except.map]
      | some g => simp [compile, items?, Except.map]
  | _ => simp [compile, items?, Except.map]

theorem compile_ok (compiled : compile raw = .ok tokens) :
    ∃ items : List Value, tokens = items.filterMap tokenOf? := by
  rw [compile] at compiled
  cases gone : (items? raw).getD (.ok []) with
  | error f =>
      rw [gone] at compiled
      cases compiled
  | ok items =>
      rw [gone] at compiled
      cases compiled
      exact ⟨items, rfl⟩

theorem compile_named (compiled : compile raw = .ok tokens) : tokens.IsNamed := by
  obtain ⟨items, rfl⟩ := compile_ok compiled
  intro name listed
  obtain ⟨value, -, token⟩ := List.mem_filterMap.mp listed
  rintro rfl
  cases value with
  | key inner =>
      cases inner with
      | text s =>
          simp only [tokenOf?] at token
          split at token
          next => cases token
          next filled =>
            cases token
            exact filled rfl
      | _ => cases token
  | literal inner => cases inner <;> cases token
  | _ => cases token

theorem parse_named (text : String) : (parse text).IsNamed := by
  intro name listed
  have proper := parseFrom_isWellFormed [] text.toList
  exact (isKeyName_iff.mp (List.all_eq_true.mp proper _ listed)).1

end Scheme

/-! ## Requests -/

namespace Renamer

/-- A renamer, and the tree that its files are in. -/
structure Session where
  renamer : Renamer
  volume : Volume

/-- What a renamer can be asked for, and what can happen to the tree in between. -/
inductive Request where
  | setScheme (raw : Value)
  | setSubstitute (value : Value)
  | generate (paths override : Value)
  | overwrite (plan : Value)
  | change (w : Volume)

namespace Request

/-- The scheme that a request wants kept, if it can be gone through. -/
def scheme? : Request → Option Scheme
  | setScheme raw => (Scheme.compile raw).toOption
  | _ => none

/-- The character that a request wants kept, if it is acceptable. -/
def char? : Request → Option Char
  | setSubstitute value => acceptedChar? value
  | _ => none

end Request

variable {disk : Disk} {lookup : Volume → Path → Log.Traced Metadata} {room : Nat} {r : Renamer}
  {s : Session} {request : Request} {requests : List Request} {v : Volume} {tokens : Scheme}
  {f : Failure}

/-- What a request comes to. A scheme that fails and a substitute that is refused leave everything
as it is. -/
def Session.after (disk : Disk) (lookup : Volume → Path → Log.Traced Metadata) (room : Nat)
    (s : Session) : Request → Session
  | .setScheme raw =>
    match s.renamer.setScheme raw with
    | .ok r => { s with renamer := r }
    | .error _ => s
  | .setSubstitute value =>
    match s.renamer.setSubstitute value with
    | .ok r => { s with renamer := r }
    | .error _ => s
  | .generate paths override =>
    { s with renamer := (s.renamer.generate disk lookup room s.volume paths override).2 }
  | .overwrite plan => { s with volume := (Rename.execute disk s.volume plan).volume }
  | .change w => { s with volume := w }

/-- What requests come to one after another. -/
def Session.run (disk : Disk) (lookup : Volume → Path → Log.Traced Metadata) (room : Nat)
    (s : Session) : List Request → Session
  | [] => s
  | request :: requests => run disk lookup room (s.after disk lookup room request) requests

/-! ## One step -/

theorem setSubstitute_error_iff {value : Value} :
    (∃ f, r.setSubstitute value = .error f) ↔ acceptedChar? value = none := by
  rw [← Substitute.ofValue_refused_iff, setSubstitute]
  cases Substitute.ofValue value <;> simp [Except.map]

/-- A planning keeps the scheme and the substitute. -/
theorem generate_kept (disk : Disk) (lookup : Volume → Path → Log.Traced Metadata) (room : Nat)
    (r : Renamer) (v : Volume) (paths override : Value) :
    (r.generate disk lookup room v paths override).2.scheme = r.scheme ∧
      (r.generate disk lookup room v paths override).2.substitute = r.substitute := by
  unfold generate
  cases r.schemeFor override with
  | error f => exact ⟨rfl, rfl⟩
  | ok tokens => exact ⟨rfl, rfl⟩

/-- A step keeps the scheme, unless it asks for another one. -/
theorem after_scheme :
    (s.after disk lookup room request).renamer.scheme = request.scheme?.getD s.renamer.scheme := by
  cases request with
  | setScheme raw =>
      simp only [Session.after, setScheme, Request.scheme?]
      cases Scheme.compile raw <;> rfl
  | setSubstitute value =>
      simp only [Session.after, setSubstitute]
      cases Substitute.ofValue value <;> rfl
  | generate paths override => exact (generate_kept disk lookup room _ _ paths override).1
  | _ => rfl

/-- A step keeps the substitute, unless it asks for another acceptable one. -/
theorem after_substitute : (s.after disk lookup room request).renamer.substitute.char =
    request.char?.getD s.renamer.substitute.char := by
  cases request with
  | setSubstitute value =>
      simp only [Session.after, setSubstitute, Request.char?]
      cases taken : Substitute.ofValue value with
      | ok sub =>
          rw [Substitute.ofValue_eq_ok_iff.mp taken]
          rfl
      | error f =>
          rw [Substitute.ofValue_refused_iff.mp ⟨f, taken⟩]
          rfl
  | setScheme raw =>
      simp only [Session.after, setScheme]
      cases Scheme.compile raw <;> rfl
  | generate paths override =>
      exact congrArg Substitute.char (generate_kept disk lookup room _ _ paths override).2
  | _ => rfl

/-- A step keeps the keys of the scheme named. -/
theorem after_named (named : s.renamer.scheme.IsNamed) :
    (s.after disk lookup room request).renamer.scheme.IsNamed := by
  rw [after_scheme]
  cases request with
  | setScheme raw =>
      cases compiled : Scheme.compile raw with
      | error f => simpa [Request.scheme?, compiled, Except.toOption] using named
      | ok tokens =>
          simpa [Request.scheme?, compiled, Except.toOption] using Scheme.compile_named compiled
  | _ => exact named

/-! ## Histories -/

/-- The last value that a sequence gives, when one more item stands in front. -/
theorem getLastD_filterMap_cons {α β : Type} (f : α → Option β) (a : α) (as : List α) (b : β) :
    ((a :: as).filterMap f).getLastD b = (as.filterMap f).getLastD ((f a).getD b) := by
  cases given : f a with
  | none => rw [List.filterMap_cons_none given, Option.getD_none]
  | some c => rw [List.filterMap_cons_some given, List.getLastD_cons, Option.getD_some]

theorem run_scheme : (s.run disk lookup room requests).renamer.scheme =
    (requests.filterMap Request.scheme?).getLastD s.renamer.scheme := by
  induction requests generalizing s with
  | nil => rfl
  | cons request requests ih =>
      rw [Session.run, ih, after_scheme, getLastD_filterMap_cons]

theorem run_substitute : (s.run disk lookup room requests).renamer.substitute.char =
    (requests.filterMap Request.char?).getLastD s.renamer.substitute.char := by
  induction requests generalizing s with
  | nil => rfl
  | cons request requests ih =>
      rw [Session.run, ih, after_substitute, getLastD_filterMap_cons]

theorem run_named (named : s.renamer.scheme.IsNamed) :
    (s.run disk lookup room requests).renamer.scheme.IsNamed := by
  induction requests generalizing s with
  | nil => exact named
  | cons request requests ih => exact ih (after_named named)

/-! ## Planning -/

/-- Whether a value is written text; as a scheme for one call it counts for nothing. -/
def isWritten : Value → Bool
  | .text _ => true
  | .octets _ => true
  | _ => false

/-- The scheme that a call goes by: its own one if this has tokens, and the kept one otherwise. -/
def activeScheme (kept : Scheme) (override : Value) : Except Failure Scheme :=
  if isWritten override = true then .ok kept
  else (Scheme.compile override).map fun tokens => if tokens ≠ [] then tokens else kept

theorem schemeFor_eq_activeScheme (override : Value) :
    r.schemeFor override = activeScheme r.scheme override := by
  have given (v : Value) :
      ((Scheme.compile v).map fun tokens => if tokens.isEmpty then r.scheme else tokens) =
        (Scheme.compile v).map fun tokens => if tokens ≠ [] then tokens else r.scheme := by
    cases Scheme.compile v with
    | error f => rfl
    | ok tokens => cases tokens <;> rfl
  cases override with
  | null => rfl
  | text s => rfl
  | octets bs => rfl
  | _ =>
      simp only [schemeFor, activeScheme, isWritten, Bool.false_eq_true, ↓reduceIte]
      exact given _

/-- A call has no scheme to go by exactly if its own one fails on the way. -/
theorem activeScheme_error_iff {kept : Scheme} {override : Value} :
    activeScheme kept override = .error f ↔ ∃ items, override = .stream items (some f) := by
  rw [← Scheme.compile_error_iff, activeScheme]
  cases override with
  | text s => simp [isWritten, Scheme.compile, Scheme.items?, Except.map]
  | octets bs => simp [isWritten, Scheme.compile, Scheme.items?, Except.map]
  | _ =>
      simp only [isWritten, Bool.false_eq_true, ↓reduceIte]
      cases Scheme.compile _ <;> simp [Except.map]

/-- What a request to plan names does: it goes by the kept substitute and by the scheme of the
call or the kept one, and what it records in this call is what the renamer keeps of it. A scheme
of the call that fails on the way ends the call, and the renamer stays as it was. -/
structure Plans (disk : Disk) (lookup : Volume → Path → Log.Traced Metadata) (room : Nat)
    (s : Session) (paths override : Value) : Prop where
  failed : ∀ items f, override = .stream items (some f) →
    (s.renamer.generate disk lookup room s.volume paths override).1 = ⟨.error f, [], []⟩ ∧
      s.after disk lookup room (.generate paths override) = s
  chosen : (∀ items f, override ≠ .stream items (some f)) →
    ∃ tokens, activeScheme s.renamer.scheme override = .ok tokens
  planned : ∀ tokens, activeScheme s.renamer.scheme override = .ok tokens →
    (s.renamer.generate disk lookup room s.volume paths override).1 =
      Planner.plan ⟨disk, lookup, s.renamer.substitute, room⟩ s.volume tokens paths
  noSequence : ∀ tokens, activeScheme s.renamer.scheme override = .ok tokens →
    paths.sequence? = none →
      (s.renamer.generate disk lookup room s.volume paths override).1.outcome =
          .error (.notPaths paths.kindName) ∧
        (s.after disk lookup room (.generate paths override)).renamer.lastSkipped = []
  recorded : ∀ tokens listed, activeScheme s.renamer.scheme override = .ok tokens →
    paths.sequence? = some listed → ∃ done rest rs,
      Planner.Reaches ⟨disk, lookup, s.renamer.substitute, room⟩ s.volume tokens listed done rest
          rs (Planner.stopOf (s.renamer.generate disk lookup room s.volume paths override).1) ∧
        (s.after disk lookup room (.generate paths override)).renamer.lastSkipped =
          Resolution.skips rs

/-- A call with a scheme to go by plans with it, and keeps what was left out. -/
theorem generate_of_active {paths override : Value}
    (active : activeScheme r.scheme override = .ok tokens) :
    r.generate disk lookup room v paths override =
      (Planner.plan ⟨disk, lookup, r.substitute, room⟩ v tokens paths,
        { r with lastSkipped :=
          (Planner.plan ⟨disk, lookup, r.substitute, room⟩ v tokens paths).skipped }) := by
  rw [← schemeFor_eq_activeScheme] at active
  rw [generate, active]
  rfl

theorem plans (disk : Disk) (lookup : Volume → Path → Log.Traced Metadata) (room : Nat)
    (s : Session) (paths override : Value) : Plans disk lookup room s paths override := by
  constructor
  case failed =>
    rintro items f rfl
    have unread : s.renamer.schemeFor (.stream items (some f)) = .error f := by
      rw [schemeFor_eq_activeScheme, activeScheme_error_iff]
      exact ⟨items, rfl⟩
    simp only [Session.after, generate, unread, and_self]
  case chosen =>
    intro readable
    cases active : activeScheme s.renamer.scheme override with
    | ok tokens => exact ⟨tokens, rfl⟩
    | error f =>
        obtain ⟨items, same⟩ := activeScheme_error_iff.mp active
        exact absurd same (readable items f)
  case planned =>
    intro tokens active
    rw [generate_of_active active]
  case noSequence =>
    intro tokens active single
    rw [Session.after, generate_of_active active]
    simp only [Planner.plan_of_not_sequence single, and_self]
  case recorded =>
    intro tokens listed active sequence
    rw [Session.after, generate_of_active active]
    exact Planner.plan_reaches sequence

/-- What a renamer keeps of a planning is what was left out in it, exactly if the scheme of the
call can be gone through or nothing was kept before. -/
theorem lastSkipped_generate_iff {paths override : Value} :
    (s.after disk lookup room (.generate paths override)).renamer.lastSkipped =
        (s.renamer.generate disk lookup room s.volume paths override).1.skipped ↔
      (∀ items f, override ≠ .stream items (some f)) ∨ s.renamer.lastSkipped = [] := by
  have plans := plans disk lookup room s paths override
  by_cases readable : ∀ items f, override ≠ .stream items (some f)
  · obtain ⟨tokens, active⟩ := plans.chosen readable
    rw [Session.after, generate_of_active active]
    simp [readable]
  · simp only [readable, false_or]
    push Not at readable
    obtain ⟨items, f, unread⟩ := readable
    obtain ⟨ended, kept⟩ := plans.failed items f unread
    rw [ended, kept]

/-! ## From a renamer that has been made -/

theorem schemeOr_named {scheme : Value} (compiled : schemeOr defaultScheme scheme = .ok tokens) :
    tokens.IsNamed := by
  cases scheme with
  | null =>
      cases compiled
      exact Scheme.parse_named _
  | _ => exact Scheme.compile_named compiled

theorem acceptedChar?_of_not_truthy {value : Value} (nothing : value.isTruthy = false) :
    acceptedChar? value = none := by
  cases value with
  | text s =>
      have empty : s = "" := by simpa [Value.isTruthy] using nothing
      rw [empty]
      rfl
  | _ => rfl

theorem substituteOr_char {substitute : Value} {sub : Substitute}
    (taken : substituteOr substitute = .ok sub) :
    sub.char = (acceptedChar? substitute).getD '_' := by
  rw [substituteOr] at taken
  split at taken
  next =>
    rw [Substitute.ofValue_eq_ok_iff.mp taken]
    rfl
  next nothing =>
    cases taken
    rw [acceptedChar?_of_not_truthy (by simpa using nothing)]
    rfl

/-- A renamer is made of a scheme that can be gone through and a substitute that is accepted. -/
theorem make_ok {scheme substitute : Value} (made : make scheme substitute = .ok r) :
    schemeOr defaultScheme scheme = .ok r.scheme ∧
      r.substitute.char = (acceptedChar? substitute).getD '_' := by
  unfold make at made
  cases compiled : schemeOr defaultScheme scheme with
  | error f =>
      rw [compiled] at made
      cases made
  | ok tokens =>
      cases taken : substituteOr substitute with
      | error f =>
          rw [compiled, taken] at made
          cases made
      | ok sub =>
          rw [compiled, taken] at made
          cases made
          exact ⟨rfl, substituteOr_char taken⟩

/-- What a renamer is after a history of requests, if it was made with a scheme and a
substitute. -/
structure Kept (scheme substitute : Value) (requests : List Request) (r : Renamer) : Prop where
  scheme : ∃ start, schemeOr defaultScheme scheme = .ok start ∧
    r.scheme = (requests.filterMap Request.scheme?).getLastD start
  named : r.scheme.IsNamed
  char : r.substitute.char =
    (requests.filterMap Request.char?).getLastD ((acceptedChar? substitute).getD '_')
  valid : isValidSubstitute r.substitute.text = true
  /-- A substitute is refused unless it is acceptable. -/
  refuses : ∀ value, (∃ f, r.setSubstitute value = .error f) ↔ acceptedChar? value = none

/-- After any history of requests a renamer keeps what the last accepted requests said, or what it
was made with; a request that is no accepted one of its kind changes nothing of it; planning goes
by it; and what was left out is that of the last planning, exactly unless the scheme of this call
fails on the way behind a planning that has left files out. -/
theorem run_kept {scheme substitute : Value} (made : make scheme substitute = .ok r)
    (disk : Disk) (lookup : Volume → Path → Log.Traced Metadata) (room : Nat) (v : Volume)
    (requests : List Request) :
    let s := Session.run disk lookup room ⟨r, v⟩ requests
    Kept scheme substitute requests s.renamer ∧
      (∀ request, request.scheme? = none →
        (s.after disk lookup room request).renamer.scheme = s.renamer.scheme) ∧
      (∀ request, request.char? = none →
        (s.after disk lookup room request).renamer.substitute = s.renamer.substitute) ∧
      ∀ paths override, Plans disk lookup room s paths override ∧
        ((s.after disk lookup room (.generate paths override)).renamer.lastSkipped =
            (s.renamer.generate disk lookup room s.volume paths override).1.skipped ↔
          (∀ items f, override ≠ .stream items (some f)) ∨ s.renamer.lastSkipped = []) := by
  intro s
  obtain ⟨started, startedChar⟩ := make_ok made
  have kept : Kept scheme substitute requests s.renamer := {
    scheme := ⟨r.scheme, started, run_scheme⟩
    named := run_named (schemeOr_named started)
    char := by
      rw [run_substitute, startedChar]
    valid := Substitute.isValidSubstitute_text s.renamer.substitute
    refuses := fun value => setSubstitute_error_iff }
  refine ⟨kept, ?_, ?_, fun paths override =>
    ⟨plans disk lookup room s paths override, lastSkipped_generate_iff⟩⟩
  · intro request none
    rw [after_scheme, none, Option.getD_none]
  · intro request none
    apply Substitute.eq_of_char
    rw [after_substitute, none, Option.getD_none]

/-- A history with a refused substitute, a scheme for one call, a scheme that fails on the way,
and a planning that fails behind one that has left a file out. -/
theorem run_kept_refused :
    ∃ r, make .null (.text "-") = .ok r ∧
      ∀ (disk : Disk) (lookup : Volume → Path → Log.Traced Metadata) (room : Nat) (v : Volume),
        let s := Session.run disk lookup room ⟨r, v⟩
          [.setScheme (.list [.text "b", .int 5, .key (.text "")]), .setSubstitute (.text "/"),
            .setScheme (.stream [.text "d"] (some .numberTooLong)),
            .generate (.list [.null]) (.list [.text "c"]), .overwrite .null]
        s.renamer.scheme = [.literal "b"] ∧ s.renamer.substitute.char = '-' ∧
          (s.after disk lookup room (.generate (.text "a") .null)).renamer.lastSkipped = [] := by
  obtain ⟨r, made⟩ : ∃ r, make .null (.text "-") = .ok r := ⟨_, rfl⟩
  refine ⟨r, made, ?_⟩
  intro disk lookup room v s
  obtain ⟨kept, -, -, plans⟩ := run_kept made disk lookup room v
    [.setScheme (.list [.text "b", .int 5, .key (.text "")]), .setSubstitute (.text "/"),
      .setScheme (.stream [.text "d"] (some .numberTooLong)),
      .generate (.list [.null]) (.list [.text "c"]), .overwrite .null]
  obtain ⟨start, -, scheme⟩ := kept.scheme
  have tokens : s.renamer.scheme = [.literal "b"] := scheme
  have active : activeScheme s.renamer.scheme .null = .ok [.literal "b"] := by
    rw [tokens]
    rfl
  exact ⟨tokens, kept.char, ((plans (.text "a") .null).1.noSequence _ active rfl).2⟩

/-- The iterator of a scheme fails at once: the call records nothing, and the file that the call
before has left out stays. -/
theorem failedScheme_keepsSkipped :
    ∃ r, make .null .null = .ok r ∧
      ∀ (disk : Disk) (lookup : Volume → Path → Log.Traced Metadata) (room : Nat) (v : Volume),
        let s := Session.run disk lookup room ⟨r, v⟩ [.generate (.list [.null]) .null]
        let override := Value.stream [] (some .numberTooLong)
        (s.renamer.generate disk lookup room s.volume (.list []) override).1 =
            ⟨.error .numberTooLong, [], []⟩ ∧
          (s.after disk lookup room (.generate (.list []) override)).renamer.lastSkipped =
            [⟨.null, .fileNotValid, "path is not a file path", none⟩] := by
  obtain ⟨r, made⟩ : ∃ r, make .null .null = .ok r := ⟨_, rfl⟩
  refine ⟨r, made, ?_⟩
  intro disk lookup room v s override
  obtain ⟨ended, kept⟩ := (plans disk lookup room s (.list []) override).failed [] _ rfl
  refine ⟨ended, ?_⟩
  rw [kept]
  cases made
  rfl

end Renamer

end MediaNaming
