import MediaNaming.Proofs.Toml.Quoted
/-!
# Documents of texts

A document may consist of blank lines, comments and lines that give a text a name. Reading such a
document goes through it line by line. It gives the table of the names with their texts, unless one
of the texts has a control character: then the whole document is refused.
-/

namespace MediaNaming.Toml

open Settings (escapeChars quotedText)

/-- A line of a document of texts. -/
inductive Line where
  | blank
  | comment (text : String)
  | entry (name value : String)
  deriving DecidableEq, Repr

namespace Line

/-- The text of a line. -/
def text : Line → String
  | blank => ""
  | comment text => text
  | entry name value => name ++ " = " ++ quotedText value

/-- The characters of a line with its end. -/
def chars (l : Line) : List Char :=
  l.text.toList ++ ['\n']

/-- A comment starts with its mark and has no control characters. A name has characters of names
without quotes only. -/
def isProper : Line → Bool
  | blank => true
  | comment text => text.toList.head? = some '#' && !text.toList.any isForbidden
  | entry name _ => name ≠ "" && name.toList.all isBare

/-- Whether no text of the line has a control character. -/
def isClean : Line → Bool
  | entry _ value => !value.toList.any isForbidden
  | _ => true

/-- The name that a line gives a text, with the text. -/
def pairs : Line → List (String × String)
  | entry name value => [(name, value)]
  | _ => []

/-- The line as the reader sees it, with a line feed for each end of a line. -/
def unix : Line → Line
  | entry name value => entry name (String.ofList (unixLines value.toList))
  | l => l

theorem comment_isProper {text : String} {cs : List Char} (chars : text = String.ofList ('#' :: cs))
    (clean : cs.any isForbidden = false) : (comment text).isProper = true := by
  have marked : isForbidden '#' = false := rfl
  rw [chars]
  simp [isProper, marked, clean]

theorem entry_isProper {name : String} (value : String) {c : Char} {cs : List Char}
    (chars : name = String.ofList (c :: cs)) (bare : (c :: cs).all isBare = true) :
    (entry name value).isProper = true := by
  rw [chars, isProper, String.toList_ofList, bare]
  simp

end Line

/-- What a line does to a document. -/
def Document.addLine (d : Document) (l : Line) : Except Flaw Document :=
  if l.isClean then
    match l with
    | .entry name value => d.assign [name] (.text value)
    | _ => .ok d
  else .error .malformed

variable {c : Char} {cs rest : List Char} {name value : String} {d : Document} {l : Line}
  {lines : List Line} {fuel : Nat}

/-! ## Names -/

theorem ne_of_isBare (bare : isBare c = true) {other : Char} (notBare : isBare other = false) :
    c ≠ other := by
  intro same
  rw [same, notBare] at bare
  cases bare

theorem isGapOrLine_of_isBare (bare : isBare c = true) : isGapOrLine c = false := by
  have notBlank : c ≠ ' ' := ne_of_isBare bare (by decide)
  have notTab : c ≠ '\t' := ne_of_isBare bare (by decide)
  have notLine : c ≠ '\n' := ne_of_isBare bare (by decide)
  simp [isGapOrLine, isGap, notBlank, notTab, notLine]

/-- A name without quotes ends in front of the first character that is none of its own. -/
theorem readName_bare (filled : cs ≠ []) (bare : cs.all isBare = true) (rest : List Char)
    (ends : isBare c = false) :
    readName (cs ++ c :: rest) = .ok (String.ofList cs, c :: rest) := by
  have inside := List.all_eq_true.mp bare
  cases cs with
  | nil => exact absurd rfl filled
  | cons first others =>
      have firstBare : isBare first = true := by
        rw [List.all_cons, Bool.and_eq_true] at bare
        exact bare.1
      rw [readName, Text.takeWhile_front inside ends, Text.dropWhile_front inside ends]
      · rfl
      · intro more same
        exact ne_of_isBare firstBare (by decide) (List.cons.inj same).1
      · intro more same
        exact ne_of_isBare firstBare (by decide) (List.cons.inj same).1

/-- A name in front of an equals sign is a key of one name. -/
theorem readKey_bare (filled : cs ≠ []) (bare : cs.all isBare = true) (rest : List Char) :
    readKey (cs ++ ' ' :: '=' :: rest) = .ok ([String.ofList cs], '=' :: rest) := by
  rw [readKey, readNames, readName_bare filled bare _ (by decide)]
  rfl

/-! ## One line -/

/-- A comment without control characters ends in front of the next line end. -/
theorem skipComment_comment (clean : cs.any isForbidden = false) (rest : List Char) :
    skipComment ('#' :: (cs ++ '\n' :: rest)) = .ok ('\n' :: rest) := by
  have inside : ∀ c ∈ cs, decide (c ≠ '\n') = true := by
    intro c member
    rw [decide_eq_true_eq]
    intro lineFeed
    rw [lineFeed] at member
    exact not_mem_of_clean clean rfl member
  rw [skipComment, Text.takeWhile_front inside rfl, Text.dropWhile_front inside rfl, clean]
  rfl

/-- What starts as a string is read as one. -/
theorem readValue_string {r : Result (List Char)} (found : readString? cs = some r)
    (fuel : Nat) :
    readValue (fuel + 1) cs = r.map fun p => (.text (String.ofList p.1), p.2) := by
  unfold readValue
  simp only [found]

/-- The characters of an entry are its name, an equals sign and the quoted text. -/
theorem entry_chars (name value : String) (rest : List Char) :
    (Line.entry name value).chars ++ rest =
      name.toList ++ ' ' :: '=' :: ' ' :: '"' ::
        (escapeChars value.toList ++ '"' :: '\n' :: rest) := by
  simp [Line.chars, Line.text, quotedText]

theorem readAssignment_entry (filled : name ≠ "") (bare : name.toList.all isBare = true)
    (value : String) (rest : List Char) :
    d.readAssignment ((Line.entry name value).chars ++ rest) =
      (d.addLine (.entry name value)).map fun d => (d, '\n' :: rest) := by
  have named : name.toList ≠ [] := by simpa using filled
  have behind : ∀ cs, skipGap (' ' :: '"' :: cs) = '"' :: cs := fun cs => rfl
  rw [entry_chars, Document.readAssignment, readKey_bare named bare, String.ofList_toList]
  simp only [bind, Except.bind, behind, readValue_string (readString?_quoted value.toList rest)]
  by_cases refused : value.toList.any isForbidden = true
  · simp [refused, Except.map, Document.addLine, Line.isClean]
  · have clean : (Line.entry name value).isClean = true := by simp [Line.isClean, refused]
    rw [Document.addLine, if_pos clean, if_neg refused]
    simp only [Except.map, String.ofList_toList]
    cases d.assign [name] (.text value) with
    | error f => rfl
    | ok d => rfl

/-- After a statement only a comment may stand in front of the line end. -/
theorem readLines_statement (notGap : isGapOrLine c = false) {outcome : Except Flaw Document}
    {behind : List Char}
    (stated : d.readStatement (c :: cs) = outcome.map fun d => (d, behind))
    (ends : skipComment (skipGap behind) = .ok ('\n' :: rest)) (fuel : Nat) :
    d.readLines (fuel + 1) (c :: cs) = outcome.bind fun d => d.readLines fuel rest := by
  simp only [isGapOrLine, Bool.or_eq_false_iff, decide_eq_false_iff_not] at notGap
  have kept : skipGap (c :: cs) = c :: cs := by
    rw [skipGap, List.dropWhile_cons, notGap.1]
    rfl
  rw [Document.readLines, kept]
  split
  next empty => cases empty
  next same => exact absurd (List.cons.inj same).1 notGap.2
  next =>
    rw [stated]
    cases outcome with
    | error f => rfl
    | ok d =>
        simp only [Except.map, bind, Except.bind, ends]

/-- A proper line is read for what it does, and reading goes on behind it. -/
theorem readLines_line (proper : l.isProper = true) (d : Document) (fuel : Nat)
    (rest : List Char) :
    d.readLines (fuel + 1) (l.chars ++ rest) =
      (d.addLine l).bind fun d => d.readLines fuel rest := by
  cases l with
  | blank => rfl
  | comment text =>
      simp only [Line.isProper, Bool.and_eq_true, decide_eq_true_eq, Bool.not_eq_true'] at proper
      obtain ⟨marked, clean⟩ := proper
      obtain ⟨body, split⟩ := List.head?_eq_some_iff.mp marked
      rw [split, List.any_cons, Bool.or_eq_false_iff] at clean
      have chars : (Line.comment text).chars ++ rest = '#' :: (body ++ '\n' :: rest) := by
        simp [Line.chars, Line.text, split]
      have stated : d.readStatement ('#' :: (body ++ '\n' :: rest)) =
          (Except.ok d).map fun d => (d, '#' :: (body ++ '\n' :: rest)) := rfl
      rw [chars]
      exact readLines_statement rfl stated (skipComment_comment clean.2 rest) fuel
  | entry name value =>
      simp only [Line.isProper, Bool.and_eq_true, decide_eq_true_eq] at proper
      obtain ⟨filled, bare⟩ := proper
      have assigned := readAssignment_entry (d := d) filled bare value rest
      have named : name.toList ≠ [] := by simpa using filled
      obtain ⟨first, others, split⟩ := List.exists_cons_of_ne_nil named
      rw [split, List.all_cons, Bool.and_eq_true] at bare
      rw [entry_chars, split, List.cons_append] at assigned ⊢
      have ends : skipComment (skipGap ('\n' :: rest)) = .ok ('\n' :: rest) := rfl
      apply readLines_statement (isGapOrLine_of_isBare bare.1) _ ends
      rw [← assigned, Document.readStatement]
      · intro more same
        exact ne_of_isBare bare.1 (by decide) (List.cons.inj same).1
      · intro more same
        exact ne_of_isBare bare.1 (by decide) (List.cons.inj same).1

/-! ## All lines -/

/-- Every line takes one step of the reader. -/
theorem readLines_lines (proper : ∀ l ∈ lines, l.isProper = true) (d : Document)
    (enough : lines.length < fuel) :
    d.readLines fuel (lines.flatMap Line.chars) = lines.foldlM Document.addLine d := by
  induction lines generalizing d fuel with
  | nil =>
      obtain ⟨k, rfl⟩ := Nat.exists_eq_succ_of_ne_zero (Nat.ne_of_gt enough)
      rfl
  | cons l lines ih =>
      rw [List.length_cons] at enough
      obtain ⟨k, rfl⟩ := Nat.exists_eq_succ_of_ne_zero (Nat.ne_of_gt (Nat.zero_lt_of_lt enough))
      have others : ∀ l ∈ lines, l.isProper = true := fun l member =>
        proper l (List.mem_cons_of_mem _ member)
      rw [List.flatMap_cons, readLines_line (proper l List.mem_cons_self), List.foldlM_cons]
      cases d.addLine l with
      | error f => rfl
      | ok d => exact ih others d (Nat.lt_of_succ_lt_succ enough)

theorem length_le_chars (lines : List Line) : lines.length ≤ (lines.flatMap Line.chars).length := by
  induction lines with
  | nil => exact Nat.le_refl 0
  | cons l lines ih =>
      rw [List.flatMap_cons, List.length_append, List.length_cons, Line.chars, List.length_append,
        List.length_singleton]
      omega

theorem unixLines_chars (proper : l.isProper = true) (rest : List Char) :
    unixLines (l.chars ++ rest) = l.unix.chars ++ unixLines rest := by
  cases l with
  | blank => exact unixLines_cons (Or.inl (by decide))
  | comment text =>
      simp only [Line.isProper, Bool.and_eq_true, Bool.not_eq_true'] at proper
      have single : '\r' ∉ (Line.comment text).chars := by
        have inside : '\r' ∉ text.toList := not_mem_of_clean proper.2 rfl
        simpa [Line.chars, Line.text] using inside
      exact unixLines_append single rest
  | entry name value =>
      simp only [Line.isProper, Bool.and_eq_true, decide_eq_true_eq] at proper
      have single : '\r' ∉ name.toList ++ " = \"".toList := by
        have inside : '\r' ∉ name.toList := by
          intro member
          exact ne_of_isBare (List.all_eq_true.mp proper.2 _ member) (by decide) rfl
        simpa using inside
      have start : ∀ cs, name.toList ++ ' ' :: '=' :: ' ' :: '"' :: cs =
          name.toList ++ " = \"".toList ++ cs := fun cs => by simp
      rw [Line.unix, entry_chars, entry_chars, String.toList_ofList, start, start,
        unixLines_append single, unixLines_escapeChars, unixLines_cons (Or.inl (by decide))]

/-- The reader sees the lines with their ends made one. -/
theorem unixLines_lines (proper : ∀ l ∈ lines, l.isProper = true) :
    unixLines (lines.flatMap Line.chars) = (lines.map Line.unix).flatMap Line.chars := by
  induction lines with
  | nil => rfl
  | cons l lines ih =>
      rw [List.flatMap_cons, unixLines_chars (proper l List.mem_cons_self),
        ih fun l member => proper l (List.mem_cons_of_mem _ member)]
      rfl

theorem isProper_unix (l : Line) : l.unix.isProper = l.isProper := by
  cases l <;> rfl

theorem isClean_unix (l : Line) : l.unix.isClean = l.isClean := by
  cases l with
  | blank | comment text => rfl
  | entry name value =>
      simp only [Line.unix, Line.isClean, String.toList_ofList, any_isForbidden_unixLines]

theorem unix_of_isClean (clean : l.isClean = true) : l.unix = l := by
  cases l with
  | blank | comment text => rfl
  | entry name value =>
      simp only [Line.isClean, Bool.not_eq_true'] at clean
      rw [Line.unix, unixLines_of_clean clean, String.ofList_toList]

/-- Reading a document does what its lines do, one after the other. -/
theorem read_chars (proper : ∀ l ∈ lines, l.isProper = true) :
    read (lines.flatMap Line.chars) =
      ((lines.map Line.unix).foldlM Document.addLine Document.start).map (·.table) := by
  have properUnix : ∀ l ∈ lines.map Line.unix, l.isProper = true := by
    intro l member
    obtain ⟨m, there, same⟩ := List.mem_map.mp member
    rw [← same, isProper_unix]
    exact proper m there
  have enough := Nat.lt_succ_of_le (length_le_chars (lines.map Line.unix))
  rw [read, unixLines_lines proper, readLines_lines properUnix _ enough]

/-! ## The table -/

/-- The document with some names and their texts. -/
def Document.ofPairs (pairs : List (String × String)) : Document :=
  { Document.start with table := pairs.map fun p => (.text p.1, .text p.2) }

theorem get?_ofPairs {pairs : List (String × String)} (absent : name ∉ pairs.map Prod.fst) :
    (Document.ofPairs pairs).table.get? (.text name) = none := by
  simp only [Document.ofPairs, Entries.get?, List.find?_map, Option.map_eq_none_iff,
    List.find?_eq_none]
  intro p member
  have different : p.1 ≠ name := by
    intro same
    exact absent (List.mem_map.mpr ⟨p, member, same⟩)
  simp [Value.sameKey, different]

/-- A new name gets its text behind the others. -/
theorem assign_ofPairs {pairs : List (String × String)} (absent : name ∉ pairs.map Prod.fst)
    (value : String) :
    (Document.ofPairs pairs).assign [name] (.text value) =
      .ok (Document.ofPairs (pairs ++ [(name, value)])) := by
  have added : addEntry name (.text value) (Document.ofPairs pairs).table =
      some (Document.ofPairs (pairs ++ [(name, value)])).table := by
    rw [addEntry, get?_ofPairs absent]
    simp [Document.ofPairs]
  have unmarked : (Document.ofPairs pairs).assign [name] (.text value) =
      (orMalformed (addEntry name (.text value) (Document.ofPairs pairs).table)).bind
        fun table => .ok { Document.start with table := table } := rfl
  rw [unmarked, added]
  rfl

theorem assign_error {key : Key} {v : Value} {f : Flaw} (failed : d.assign key v = .error f) :
    f = .malformed := by
  simp only [Document.assign] at failed
  split at failed
  next =>
    cases failed
    rfl
  next =>
    split at failed
    next =>
      cases failed
      rfl
    next =>
      cases changed : changeAt true (d.header ++ key.dropLast) (addEntry (key.getLast?.getD "") v)
          d.table with
      | none =>
          rw [changed] at failed
          cases failed
          rfl
      | some table =>
          rw [changed] at failed
          cases failed

/-- A clean line with a new name adds what it has to the table. -/
theorem addLine_ofPairs {pairs : List (String × String)} (clean : l.isClean = true)
    (distinct : ((pairs ++ l.pairs).map Prod.fst).Nodup) :
    (Document.ofPairs pairs).addLine l = .ok (Document.ofPairs (pairs ++ l.pairs)) := by
  cases l with
  | blank | comment text =>
      rw [Line.pairs, List.append_nil]
      · rfl
      · simp
  | entry name value =>
      have absent : name ∉ pairs.map Prod.fst := by
        rw [List.map_append, List.nodup_append] at distinct
        intro member
        exact distinct.2.2 name member name (by simp [Line.pairs]) rfl
      rw [Document.addLine, if_pos clean]
      exact assign_ofPairs absent value

theorem addLine_of_not_clean (refused : l.isClean = false) (d : Document) :
    d.addLine l = .error .malformed := by
  unfold Document.addLine
  rw [refused]
  rfl

/-- Whatever a line is refused for, the document is malformed. -/
theorem addLine_error {f : Flaw} (failed : d.addLine l = .error f) : f = .malformed := by
  unfold Document.addLine at failed
  split at failed
  next =>
    split at failed
    next => exact assign_error failed
    next => cases failed
  next =>
    cases failed
    rfl

/-- Lines with different names and clean texts make a table. -/
theorem foldlM_addLine_of_clean (pairs : List (String × String))
    (clean : ∀ l ∈ lines, l.isClean = true)
    (distinct : ((pairs ++ lines.flatMap Line.pairs).map Prod.fst).Nodup) :
    lines.foldlM Document.addLine (Document.ofPairs pairs) =
      .ok (Document.ofPairs (pairs ++ lines.flatMap Line.pairs)) := by
  induction lines generalizing pairs with
  | nil =>
      rw [List.flatMap_nil, List.append_nil]
      rfl
  | cons l lines ih =>
      rw [List.flatMap_cons, ← List.append_assoc] at distinct ⊢
      have first : ((pairs ++ l.pairs).map Prod.fst).Nodup := by
        rw [List.map_append, List.nodup_append] at distinct
        exact distinct.1
      rw [List.foldlM_cons, addLine_ofPairs (clean l List.mem_cons_self) first]
      exact ih _ (fun l member => clean l (List.mem_cons_of_mem _ member)) distinct

/-- A line that is refused is the end of every document. -/
theorem foldlM_addLine_of_not_clean (member : l ∈ lines) (refused : l.isClean = false)
    (d : Document) : lines.foldlM Document.addLine d = .error .malformed := by
  induction lines generalizing d with
  | nil => cases member
  | cons first lines ih =>
      rw [List.foldlM_cons]
      cases added : d.addLine first with
      | error f =>
          -- A line in front of the refused one may fail as well, but for no other reason.
          rw [addLine_error added]
          rfl
      | ok d' =>
          cases member with
          | head =>
              rw [addLine_of_not_clean refused] at added
              cases added
          | tail _ later => exact ih later d'

/-- A document of texts is read as the table of its names and texts, or it is refused for a control
character. -/
theorem read_lines (proper : ∀ l ∈ lines, l.isProper = true)
    (distinct : ((lines.flatMap Line.pairs).map Prod.fst).Nodup) :
    read (lines.flatMap Line.chars) =
      if lines.all Line.isClean then .ok (Document.ofPairs (lines.flatMap Line.pairs)).table
      else .error .malformed := by
  rw [read_chars proper]
  by_cases clean : lines.all Line.isClean = true
  · have each := List.all_eq_true.mp clean
    have same : lines.map Line.unix = lines :=
      (List.map_congr_left fun l member => unix_of_isClean (each l member)).trans
        (List.map_id' lines)
    have made : lines.foldlM Document.addLine Document.start =
        .ok (Document.ofPairs (lines.flatMap Line.pairs)) :=
      foldlM_addLine_of_clean [] each distinct
    rw [if_pos clean, same, made]
    rfl
  · rw [if_neg clean]
    obtain ⟨l, member, refused⟩ := List.all_eq_false.mp (eq_false_of_ne_true clean)
    have refusedUnix : l.unix.isClean = false :=
      (isClean_unix l).trans (eq_false_of_ne_true refused)
    rw [foldlM_addLine_of_not_clean (List.mem_map_of_mem member) refusedUnix]
    rfl

end MediaNaming.Toml
