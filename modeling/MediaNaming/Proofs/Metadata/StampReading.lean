import MediaNaming.Metadata.Stamp
import MediaNaming.Proofs.Number.Decimal
import MediaNaming.Proofs.Text.Split
import Mathlib.Data.List.Forall2
/-!
# Which texts are stamps

A stamp is written as six numbers, each in one of the forms for its field, with colons and white
space between them. Reading tries the forms of every field in turn and insists on what it tries
first. That never costs a stamp: the fields are found in one place only, up to the seconds, and two
digits of seconds are tried before one. So a text is read exactly if it consists of such fields, and
if the date and the time of day exist.
-/

namespace MediaNaming.Stamp

open Text (isBlank isDecimal)

variable {c : Char} {cs rest front : List Char} {n : Nat} {s : Stamp}

/-! ## Fields -/

/-- A text that an alternative matches from end to end. -/
def Alternative.Matches (a : Alternative) (cs : List Char) : Prop :=
  List.Forall₂ (fun k c => k.matches c = true) a cs

/-- A text that one of some forms matches. -/
def Fits (forms : List Alternative) (cs : List Char) : Prop :=
  ∃ a ∈ forms, Alternative.Matches a cs

theorem take?_eq_some_iff {a : Alternative} :
    a.take? cs = some (front, rest) ↔ cs = front ++ rest ∧ a.Matches front := by
  induction a generalizing cs front with
  | nil =>
      rw [Alternative.take?, Alternative.Matches, List.forall₂_nil_left_iff, Option.some_inj,
        Prod.mk.injEq]
      constructor
      · rintro ⟨rfl, rfl⟩
        exact ⟨rfl, rfl⟩
      · rintro ⟨rfl, rfl⟩
        exact ⟨rfl, rfl⟩
  | cons k a ih =>
      rw [Alternative.Matches, List.forall₂_cons_left_iff]
      cases cs with
      | nil =>
          simp only [Alternative.take?, reduceCtorEq, false_iff, not_and]
          rintro split ⟨c, others, -, -, rfl⟩
          cases split
      | cons c cs =>
          rw [Alternative.take?]
          constructor
          · intro taken
            split at taken
            next first =>
              obtain ⟨⟨others, behind⟩, later, same⟩ := Option.map_eq_some_iff.mp taken
              cases same
              obtain ⟨rfl, whole⟩ := ih.mp later
              exact ⟨rfl, c, others, first, whole, rfl⟩
            next => cases taken
          · rintro ⟨split, d, others, first, whole, rfl⟩
            rw [List.cons_append] at split
            obtain ⟨rfl, rfl⟩ := List.cons.inj split
            rw [if_pos first, ih.mpr ⟨rfl, whole⟩]
            rfl

/-- A number is read from the texts in front that fit a form. -/
theorem mem_readings {forms : List Alternative} :
    (n, rest) ∈ readings forms cs ↔
      ∃ front, cs = front ++ rest ∧ Fits forms front ∧ n = valueOf front := by
  rw [readings, List.mem_filterMap]
  constructor
  · rintro ⟨a, listed, read⟩
    obtain ⟨⟨front, behind⟩, taken, same⟩ := Option.map_eq_some_iff.mp read
    cases same
    obtain ⟨split, whole⟩ := take?_eq_some_iff.mp taken
    exact ⟨front, split, ⟨a, listed, whole⟩, rfl⟩
  · rintro ⟨front, split, ⟨a, listed, whole⟩, rfl⟩
    refine ⟨a, listed, ?_⟩
    rw [take?_eq_some_iff.mpr ⟨split, whole⟩]
    rfl

theorem mem_afterChar {separator : Char} :
    rest ∈ afterChar separator cs ↔ cs = separator :: rest := by
  cases cs with
  | nil => simp [afterChar]
  | cons c cs =>
      by_cases same : c = separator
      · simp [afterChar, same, eq_comm]
      · simp [afterChar, same]

/-- White space between two fields: some, and nothing else. -/
structure IsGap (gap : List Char) : Prop where
  filled : gap ≠ []
  blank : ∀ c ∈ gap, isBlank c = true

theorem mem_afterBlanks : rest ∈ afterBlanks cs ↔ ∃ gap, cs = gap ++ rest ∧ IsGap gap := by
  induction cs with
  | nil =>
      simp only [afterBlanks, List.not_mem_nil, false_iff]
      rintro ⟨gap, split, filled, -⟩
      exact filled (List.append_eq_nil_iff.mp split.symm).1
  | cons c cs ih =>
      rw [afterBlanks]
      constructor
      · intro member
        split at member
        next blank =>
          rcases List.mem_append.mp member with longer | one
          · obtain ⟨gap, rfl, -, inside⟩ := ih.mp longer
            exact ⟨c :: gap, rfl, List.cons_ne_nil c gap, List.forall_mem_cons.mpr ⟨blank, inside⟩⟩
          · rw [List.mem_singleton.mp one]
            exact ⟨[c], rfl, List.cons_ne_nil c [], List.forall_mem_singleton.mpr blank⟩
        next => cases member
      · rintro ⟨gap, split, filled, inside⟩
        obtain ⟨d, gap, rfl⟩ := List.exists_cons_of_ne_nil filled
        obtain ⟨rfl, rfl⟩ := List.cons.inj split
        obtain ⟨blank, others⟩ := List.forall_mem_cons.mp inside
        rw [if_pos blank, List.mem_append]
        by_cases empty : gap = []
        · right
          simp [empty]
        · left
          exact ih.mpr ⟨gap, rfl, empty, others⟩

/-! ## Stamps of fields -/

/-- The texts of the fields of a stamp up to the seconds, and the white space between date and time
of day. -/
structure Lead where
  year : List Char
  month : List Char
  day : List Char
  gap : List Char
  hour : List Char
  minute : List Char

namespace Lead

/-- Every field has one of its forms. -/
structure Proper (l : Lead) : Prop where
  year : Fits yearForms l.year
  month : Fits monthForms l.month
  day : Fits dayForms l.day
  gap : IsGap l.gap
  hour : Fits hourForms l.hour
  minute : Fits minuteForms l.minute

/-- The fields in front of a text. -/
def onto (l : Lead) (rest : List Char) : List Char :=
  l.year ++ ':' :: (l.month ++ ':' :: (l.day ++ (l.gap ++ (l.hour ++ ':' ::
    (l.minute ++ ':' :: rest)))))

/-- The date, the hour and the minute that the fields write. -/
def values (l : Lead) : Date × Nat × Nat :=
  (⟨valueOf l.year, valueOf l.month, valueOf l.day⟩, valueOf l.hour, valueOf l.minute)

end Lead

/-- A stamp from its numbers up to the seconds, and the seconds. -/
def withSecond (lead : Date × Nat × Nat) (second : Nat) : Stamp :=
  ⟨lead.1, ⟨lead.2.1, lead.2.2, second, 0⟩⟩

/-- A text that writes a stamp: fields of the proper forms, and nothing else. -/
def Writes (cs : List Char) (s : Stamp) : Prop :=
  ∃ (l : Lead) (second : List Char), l.Proper ∧ Fits secondForms second ∧ cs = l.onto second ∧
    s = withSecond l.values (valueOf second)

/-- A stamp of a date and a time of day that exist. -/
structure IsValid (s : Stamp) : Prop where
  date : s.date.isValid = true
  clock : s.clock.isValid = true

/-! ## All readings -/

/-- What is read up to the seconds, with the text behind. -/
def leadReadings (cs : List Char) : List ((Date × Nat × Nat) × List Char) :=
  (dateReadings cs).flatMap fun (date, cs) =>
    (afterBlanks cs).flatMap fun cs =>
      (readings hourForms cs).flatMap fun (hour, cs) =>
        (afterChar ':' cs).flatMap fun cs =>
          (readings minuteForms cs).flatMap fun (minute, cs) =>
            (afterChar ':' cs).map fun cs => ((date, hour, minute), cs)

theorem allReadings_eq (cs : List Char) : allReadings cs =
    (leadReadings cs).flatMap fun (lead, cs) =>
      (readings secondForms cs).map fun (second, cs) => (withSecond lead second, cs) := by
  simp only [allReadings, leadReadings, clockReadings, List.flatMap_assoc, List.flatMap_map,
    List.map_flatMap, List.map_map]
  rfl

theorem mem_dateReadings {d : Date} : (d, rest) ∈ dateReadings cs ↔
    ∃ year month day, Fits yearForms year ∧ Fits monthForms month ∧ Fits dayForms day ∧
      cs = year ++ ':' :: (month ++ ':' :: (day ++ rest)) ∧
        d = ⟨valueOf year, valueOf month, valueOf day⟩ := by
  simp only [dateReadings, List.mem_flatMap, List.mem_map, Prod.exists, mem_readings, mem_afterChar]
  constructor
  · rintro ⟨_, _, ⟨year, rfl, fits, rfl⟩, _, rfl, _, _, ⟨month, rfl, fits', rfl⟩, _, rfl, _, _,
      ⟨day, rfl, fits'', rfl⟩, same⟩
    cases same
    exact ⟨year, month, day, fits, fits', fits'', rfl, rfl⟩
  · rintro ⟨year, month, day, fits, fits', fits'', rfl, rfl⟩
    exact ⟨_, _, ⟨year, rfl, fits, rfl⟩, _, rfl, _, _, ⟨month, rfl, fits', rfl⟩, _, rfl, _, _,
      ⟨day, rfl, fits'', rfl⟩, rfl⟩

theorem mem_leadReadings {lead : Date × Nat × Nat} : (lead, rest) ∈ leadReadings cs ↔
    ∃ l : Lead, l.Proper ∧ cs = l.onto rest ∧ lead = l.values := by
  simp only [leadReadings, List.mem_flatMap, List.mem_map, Prod.exists, mem_readings, mem_afterChar,
    mem_dateReadings, mem_afterBlanks]
  constructor
  · rintro ⟨_, _, ⟨year, month, day, fits, fits', fits'', rfl, rfl⟩, _, ⟨gap, rfl, blank⟩, _, _,
      ⟨hour, rfl, fitsHour, rfl⟩, _, rfl, _, _, ⟨minute, rfl, fitsMinute, rfl⟩, _, rfl, same⟩
    cases same
    exact ⟨⟨year, month, day, gap, hour, minute⟩,
      ⟨fits, fits', fits'', blank, fitsHour, fitsMinute⟩, rfl, rfl⟩
  · rintro ⟨l, proper, rfl, rfl⟩
    exact ⟨_, _, ⟨_, _, _, proper.year, proper.month, proper.day, rfl, rfl⟩, _,
      ⟨_, rfl, proper.gap⟩, _, _, ⟨_, rfl, proper.hour, rfl⟩, _, rfl, _, _,
      ⟨_, rfl, proper.minute, rfl⟩, _, rfl, rfl⟩

/-! ## Where the fields are -/

/-- A class of decimal digits. -/
def CharClass.isNumeric : CharClass → Bool
  | only c => isDecimal c
  | between first last => '0' ≤ first && last ≤ '9'
  | decimal => true

theorem toNat_le_of_le {c d : Char} (le : c ≤ d) : c.toNat ≤ d.toNat :=
  UInt32.le_iff_toNat_le.mp (Char.le_def.mp le)

theorem isDecimal_of_matches {k : CharClass} (numeric : k.isNumeric = true)
    (matched : k.matches c = true) : isDecimal c = true := by
  cases k with
  | only d =>
      rw [of_decide_eq_true matched]
      exact numeric
  | decimal => exact matched
  | between first last =>
      simp only [CharClass.isNumeric, CharClass.matches, Bool.and_eq_true, decide_eq_true_eq]
        at numeric matched
      have low := Nat.le_trans (toNat_le_of_le numeric.1) (toNat_le_of_le matched.1)
      have high := Nat.le_trans (toNat_le_of_le matched.2) (toNat_le_of_le numeric.2)
      rw [isDecimal, Text.decimalValue?, Option.isSome_map, List.find?_isSome]
      refine ⟨48, List.mem_cons_self, ?_⟩
      rw [Bool.and_eq_true, decide_eq_true_eq, decide_eq_true_eq]
      exact ⟨low, high⟩

/-- A text of decimal digits. -/
structure IsNumeral (cs : List Char) : Prop where
  filled : cs ≠ []
  decimal : ∀ c ∈ cs, isDecimal c = true

/-- Forms of numeric classes are matched by numerals. -/
theorem isNumeral_of_fits {forms : List Alternative} (fits : Fits forms cs)
    (filled : [] ∉ forms) (numeric : forms.all (·.all CharClass.isNumeric) = true) :
    IsNumeral cs := by
  obtain ⟨a, listed, whole⟩ := fits
  have classes := List.all_eq_true.mp (List.all_eq_true.mp numeric a listed)
  constructor
  · rintro rfl
    cases whole
    exact filled listed
  · clear listed filled
    induction whole with
    | nil => exact fun c member => absurd member List.not_mem_nil
    | cons first others ih =>
        rw [List.forall_mem_cons] at classes ⊢
        exact ⟨isDecimal_of_matches classes.1 first, ih classes.2⟩

/-- A day is a numeral, perhaps with a blank in front of it. -/
theorem day_cases (fits : Fits dayForms cs) :
    ∃ pad day, cs = pad ++ day ∧ (∀ c ∈ pad, isBlank c = true) ∧ IsNumeral day := by
  obtain ⟨a, listed, whole⟩ := fits
  by_cases numeric : a.all CharClass.isNumeric = true
  · have filled : [] ∉ dayForms := by simp [dayForms]
    refine ⟨[], cs, rfl, fun c member => absurd member List.not_mem_nil, ?_⟩
    apply isNumeral_of_fits ⟨a, List.mem_singleton_self a, whole⟩
    · intro empty
      rw [List.mem_singleton.mp empty] at filled
      exact filled listed
    · rw [List.all_cons, numeric]
      rfl
  · simp only [dayForms, List.mem_cons, List.not_mem_nil, or_false] at listed
    rcases listed with rfl | rfl | rfl | rfl | rfl
    · exact absurd rfl numeric
    · exact absurd rfl numeric
    · exact absurd rfl numeric
    · exact absurd rfl numeric
    · cases whole with
      | cons first others =>
          cases of_decide_eq_true first
          have blank : isBlank ' ' = true := rfl
          refine ⟨[' '], _, rfl, List.forall_mem_singleton.mpr blank, ?_⟩
          exact isNumeral_of_fits ⟨_, List.mem_singleton_self _, others⟩ (by simp) rfl

/-- Two ways to cut a text behind a run of characters of a class are one. -/
theorem run_inj {p : Char → Bool} {front' rest' : List Char} (inside : ∀ c ∈ front, p c = true)
    (inside' : ∀ c ∈ front', p c = true) (ends : ∀ c ∈ rest.head?, p c = false)
    (ends' : ∀ c ∈ rest'.head?, p c = false) (same : front ++ rest = front' ++ rest') :
    front = front' ∧ rest = rest' := by
  have stops : ∀ {rest : List Char}, (∀ c ∈ rest.head?, p c = false) → rest.takeWhile p = [] := by
    intro rest ends
    cases rest with
    | nil => rfl
    | cons c rest => simp [ends c rfl]
  have run : ∀ {front rest : List Char}, (∀ c ∈ front, p c = true) →
      (∀ c ∈ rest.head?, p c = false) → (front ++ rest).takeWhile p = front := by
    intro front rest inside ends
    rw [List.takeWhile_append_of_pos inside, stops ends, List.append_nil]
  have first : front = front' := by
    rw [← run inside ends, same, run inside' ends']
  rw [first] at same
  exact ⟨first, List.append_cancel_left same⟩

theorem isBlank_of_isDecimal (decimal : isDecimal c = true) : isBlank c = false :=
  Text.isBlank_of_isDigit (Text.isDigit_of_isDecimal decimal)

theorem isDecimal_of_isBlank (blank : isBlank c = true) : isDecimal c = false := by
  rw [← Bool.not_eq_true]
  intro decimal
  rw [isBlank_of_isDecimal decimal] at blank
  cases blank

/-- A text starts with a character of what stands in front. -/
theorem head?_append_of_filled {P : Char → Prop} (filled : front ≠ []) (inside : ∀ c ∈ front, P c)
    (rest : List Char) : ∀ c ∈ (front ++ rest).head?, P c := by
  intro c first
  rw [List.head?_append_of_ne_nil front filled] at first
  exact inside c (List.mem_of_mem_head? first)

/-- A numeral in front of a separator is found in one place only. -/
theorem numeral_inj {front' rest' : List Char} {separator : Char} (numeral : IsNumeral front)
    (numeral' : IsNumeral front') (other : isDecimal separator = false)
    (same : front ++ separator :: rest = front' ++ separator :: rest') :
    front = front' ∧ rest = rest' := by
  have ends : ∀ {rest : List Char}, ∀ c ∈ (separator :: rest).head?, isDecimal c = false := by
    rintro rest c ⟨⟩
    exact other
  obtain ⟨fronts, rests⟩ := run_inj numeral.decimal numeral'.decimal ends ends same
  exact ⟨fronts, (List.cons.inj rests).2⟩

/-- A day and the white space behind it are found in one place only, in front of a numeral. -/
theorem day_inj {day day' gap gap' hour hour' rest' : List Char} (fits : Fits dayForms day)
    (fits' : Fits dayForms day') (blank : IsGap gap) (blank' : IsGap gap')
    (numeral : IsNumeral hour) (numeral' : IsNumeral hour')
    (same : day ++ (gap ++ (hour ++ rest)) = day' ++ (gap' ++ (hour' ++ rest'))) :
    day = day' ∧ gap = gap' ∧ hour ++ rest = hour' ++ rest' := by
  obtain ⟨pad, day, rfl, padding, digits⟩ := day_cases fits
  obtain ⟨pad', day', rfl, padding', digits'⟩ := day_cases fits'
  have solid : ∀ {cs : List Char}, IsNumeral cs → ∀ rest, ∀ c ∈ (cs ++ rest).head?,
      isBlank c = false := fun numeral =>
    head?_append_of_filled numeral.filled fun c member =>
      isBlank_of_isDecimal (numeral.decimal c member)
  have apart : ∀ {gap : List Char}, IsGap gap → ∀ rest, ∀ c ∈ (gap ++ rest).head?,
      isDecimal c = false := fun blank =>
    head?_append_of_filled blank.filled fun c member => isDecimal_of_isBlank (blank.blank c member)
  rw [List.append_assoc, List.append_assoc] at same
  obtain ⟨pads, same⟩ := run_inj padding padding' (solid digits _) (solid digits' _) same
  obtain ⟨days, same⟩ :=
    run_inj digits.decimal digits'.decimal (apart blank _) (apart blank' _) same
  obtain ⟨gaps, same⟩ := run_inj blank.blank blank'.blank (solid numeral _) (solid numeral' _) same
  exact ⟨by rw [pads, days], gaps, same⟩

theorem Lead.Proper.numerals {l : Lead} (proper : l.Proper) :
    IsNumeral l.year ∧ IsNumeral l.month ∧ IsNumeral l.hour ∧ IsNumeral l.minute :=
  ⟨isNumeral_of_fits proper.year (by simp [yearForms]) rfl,
    isNumeral_of_fits proper.month (by simp [monthForms]) rfl,
    isNumeral_of_fits proper.hour (by simp [hourForms]) rfl,
    isNumeral_of_fits proper.minute (by simp [minuteForms]) rfl⟩

/-- The fields up to the seconds are found in one place only. -/
theorem Lead.onto_inj {l l' : Lead} {rest' : List Char} (proper : l.Proper) (proper' : l'.Proper)
    (same : l.onto rest = l'.onto rest') : l = l' ∧ rest = rest' := by
  have colon : isDecimal ':' = false := by decide
  obtain ⟨year, month, hour, minute⟩ := proper.numerals
  obtain ⟨year', month', hour', minute'⟩ := proper'.numerals
  rw [onto, onto] at same
  obtain ⟨years, same⟩ := numeral_inj year year' colon same
  obtain ⟨months, same⟩ := numeral_inj month month' colon same
  obtain ⟨days, gaps, same⟩ :=
    day_inj proper.day proper'.day proper.gap proper'.gap hour hour' same
  obtain ⟨hours, same⟩ := numeral_inj hour hour' colon same
  obtain ⟨minutes, rests⟩ := numeral_inj minute minute' colon same
  cases l
  cases l'
  cases years
  cases months
  cases days
  cases gaps
  cases hours
  cases minutes
  exact ⟨rfl, rests⟩

/-! ## Which reading is preferred -/

/-- Seconds that fit are read from end to end before anything less is tried. -/
theorem readings_second (fits : Fits secondForms cs) :
    ∃ more, readings secondForms cs = (valueOf cs, []) :: more := by
  obtain ⟨a, listed, whole⟩ := fits
  have read : (a.take? cs).map (fun r => (valueOf r.1, r.2)) = some (valueOf cs, []) := by
    rw [take?_eq_some_iff.mpr ⟨(List.append_nil cs).symm, whole⟩]
    rfl
  rw [readings, secondForms]
  simp only [secondForms, List.mem_cons, List.not_mem_nil, or_false] at listed
  rcases listed with rfl | rfl | rfl
  · exact ⟨_, List.filterMap_cons_some read⟩
  · cases other : Alternative.take? [.only '6', .between '0' '1'] cs with
    | none =>
        rw [List.filterMap_cons_none (by rw [other]; rfl)]
        exact ⟨_, List.filterMap_cons_some read⟩
    | some r =>
        obtain ⟨front, rest⟩ := r
        obtain ⟨split, half⟩ := take?_eq_some_iff.mp other
        -- Both alternatives take two characters.
        have both : 2 = front.length := List.Forall₂.length_eq half
        have all : 2 = cs.length := List.Forall₂.length_eq whole
        have none : rest = [] := by
          apply List.eq_nil_of_length_eq_zero
          rw [split, List.length_append] at all
          omega
        rw [none, List.append_nil] at split
        refine ⟨_, List.filterMap_cons_some ?_⟩
        rw [other, none, split]
        rfl
  · cases whole with
    | cons first others =>
        cases others
        rw [List.filterMap_cons_none (by simp [Alternative.take?]),
          List.filterMap_cons_none (by simp [Alternative.take?])]
        exact ⟨_, List.filterMap_cons_some read⟩

/-- A text of proper fields is read from end to end before anything else is tried. -/
theorem allReadings_of_writes (writes : Writes cs s) :
    ∃ more, allReadings cs = (s, []) :: more := by
  obtain ⟨l, second, proper, fits, rfl, rfl⟩ := writes
  have member : (l.values, second) ∈ leadReadings (l.onto second) :=
    mem_leadReadings.mpr ⟨l, proper, rfl, rfl⟩
  rw [allReadings_eq]
  cases read : leadReadings (l.onto second) with
  | nil =>
      rw [read] at member
      cases member
  | cons first others =>
      obtain ⟨lead, behind⟩ := first
      have listed : (lead, behind) ∈ leadReadings (l.onto second) := by
        rw [read]
        exact List.mem_cons_self
      obtain ⟨l', proper', same, rfl⟩ := mem_leadReadings.mp listed
      obtain ⟨rfl, rfl⟩ := Lead.onto_inj proper proper' same
      obtain ⟨more, seconds⟩ := readings_second fits
      rw [List.flatMap_cons]
      simp only [seconds, List.map_cons, List.cons_append]
      exact ⟨_, rfl⟩

/-- A stamp is read exactly from the texts that write it, if it exists. -/
theorem read?_eq_some_iff : read? cs = some s ↔ Writes cs s ∧ s.IsValid := by
  constructor
  · intro found
    rw [read?] at found
    split at found
    next stamp others preferred =>
      split at found
      next exists_ =>
        cases found
        rw [Bool.and_eq_true] at exists_
        have member : (s, []) ∈ allReadings cs := by
          rw [preferred]
          exact List.mem_cons_self
        rw [allReadings_eq] at member
        obtain ⟨⟨lead, behind⟩, listed, inner⟩ := List.mem_flatMap.mp member
        obtain ⟨⟨second, rest⟩, seconds, same⟩ := List.mem_map.mp inner
        cases same
        obtain ⟨l, proper, rfl, rfl⟩ := mem_leadReadings.mp listed
        obtain ⟨text, rfl, fits, rfl⟩ := mem_readings.mp seconds
        rw [List.append_nil]
        exact ⟨⟨l, text, proper, fits, rfl, rfl⟩, exists_.1, exists_.2⟩
      next => cases found
    next => cases found
  · rintro ⟨writes, date, clock⟩
    obtain ⟨more, preferred⟩ := allReadings_of_writes writes
    rw [read?, preferred]
    simp only [date, clock, Bool.and_self, if_true]

theorem read?_eq_none_iff : read? cs = none ↔ ∀ s, ¬ (Writes cs s ∧ s.IsValid) := by
  rw [Option.eq_none_iff_forall_ne_some]
  exact forall_congr' fun s => not_congr read?_eq_some_iff

end MediaNaming.Stamp
