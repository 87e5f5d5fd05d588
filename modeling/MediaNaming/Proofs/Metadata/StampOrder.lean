import MediaNaming.Proofs.Metadata.StampReading
import MediaNaming.Proofs.Metadata.TagText
import MediaNaming.Proofs.Number.Order
/-!
# Stamps keep identity and order

A stamp of an image is written with dashes in the date. Different stamps are written differently,
and from the year 1000 on the texts stand in the order of time, since every field has a width of its
own. What has been written is no stamp to be read again, so it stays as it is.
-/

namespace MediaNaming.Stamp

open Number (IsWritten digits ofDigits padded)
open Text (isBlank isDecimal trim)

variable {c : Char} {cs ds x y : List Char} {m n : Nat} {p q : List Nat} {s t : Stamp}

/-! ## Order -/

/-- The numbers of a stamp, from the year to the seconds. -/
def parts (s : Stamp) : List Nat :=
  [s.date.year, s.date.month, s.date.day, s.clock.hour, s.clock.minute, s.clock.second]

/-- A stamp is earlier than another one if its year is, or if the year is the same and its month is,
and so on down to the seconds. -/
def Earlier (s t : Stamp) : Prop :=
  s.parts < t.parts

instance (s t : Stamp) : Decidable (s.Earlier t) :=
  inferInstanceAs (Decidable (_ < _))

/-- Fields of one width decide about the order as their numbers do. -/
theorem field_lt_iff (separator : Char) (first : ∀ c ∈ cs, IsWritten c)
    (second : ∀ c ∈ ds, IsWritten c) (same : cs.length = ds.length) (rests : x < y ↔ p < q) :
    cs ++ separator :: x < ds ++ separator :: y ↔ ofDigits cs :: p < ofDigits ds :: q := by
  have fields : cs = ds ↔ ofDigits cs = ofDigits ds :=
    ⟨congrArg ofDigits, Number.eq_of_ofDigits_eq first second same⟩
  rw [Text.append_lt_append_iff same, List.cons_lt_cons_iff, List.cons_lt_cons_iff,
    Number.lt_iff_ofDigits_lt first second same, fields, rests]
  simp

theorem padded_lt_iff (separator : Char) (first : n < 100) (second : m < 100)
    (rests : x < y ↔ p < q) :
    (padded 2 n).toList ++ separator :: x < (padded 2 m).toList ++ separator :: y ↔
      n :: p < m :: q := by
  have width : ∀ {n : Nat}, n < 100 → (padded 2 n).toList.length = 2 := fun below =>
    Number.length_padded (by decide) below
  have written := field_lt_iff separator
    (fun c => Number.isWritten_of_mem_padded) (fun c => Number.isWritten_of_mem_padded)
    ((width first).trans (width second).symm) rests
  rwa [Number.ofDigits_padded, Number.ofDigits_padded] at written

/-- The characters of a written stamp. -/
theorem toList_text (s : Stamp) : s.text.toList =
    digits s.date.year ++ '-' :: ((padded 2 s.date.month).toList ++ '-' ::
      ((padded 2 s.date.day).toList ++ ' ' :: ((padded 2 s.clock.hour).toList ++ ':' ::
        ((padded 2 s.clock.minute).toList ++ ':' :: (padded 2 s.clock.second).toList)))) := by
  simp [text, Number.text]

/-- The fields of a stamp that exists are narrow. -/
theorem IsValid.narrow (valid : s.IsValid) :
    s.date.year ≤ 9999 ∧ s.date.month < 100 ∧ s.date.day < 100 ∧ s.clock.hour < 100 ∧
      s.clock.minute < 100 ∧ s.clock.second < 100 := by
  have month : daysIn s.date.year s.date.month ≤ 31 := by
    rw [daysIn]
    split_ifs <;> decide
  have date := valid.date
  have clock := valid.clock
  simp only [Date.isValid, Clock.isValid, Bool.and_eq_true, decide_eq_true_eq] at date clock
  omega

/-- Stamps from the year 1000 on are in the order of their texts. -/
theorem text_lt_text_iff (first : s.IsValid) (second : t.IsValid) (wide : 1000 ≤ s.date.year)
    (wide' : 1000 ≤ t.date.year) : s.text < t.text ↔ s.Earlier t := by
  have four : ∀ {n : Nat}, 1000 ≤ n → n ≤ 9999 → (digits n).length = 4 := fun low high =>
    Number.length_digits low (Nat.lt_succ_of_le high)
  obtain ⟨year, month, day, hour, minute, last⟩ := first.narrow
  obtain ⟨year', month', day', hour', minute', last'⟩ := second.narrow
  have seconds : (padded 2 s.clock.second).toList < (padded 2 t.clock.second).toList ↔
      [s.clock.second] < [t.clock.second] := by
    rw [Number.lt_iff_ofDigits_lt (fun c => Number.isWritten_of_mem_padded)
      (fun c => Number.isWritten_of_mem_padded)
      ((Number.length_padded (by decide) last).trans (Number.length_padded (by decide) last').symm),
      List.cons_lt_cons_iff]
    simp
  have years := field_lt_iff '-' (fun c => Number.isWritten_of_mem_digits)
    (fun c => Number.isWritten_of_mem_digits) ((four wide year).trans (four wide' year').symm)
    (padded_lt_iff '-' month month' (padded_lt_iff ' ' day day' (padded_lt_iff ':' hour hour'
      (padded_lt_iff ':' minute minute' seconds))))
  rw [Number.ofDigits_digits, Number.ofDigits_digits] at years
  rw [String.lt_iff, toList_text, toList_text]
  exact years

/-! ## Identity -/

theorem isNumeral_of_isWritten (filled : cs ≠ []) (written : ∀ c ∈ cs, IsWritten c) :
    IsNumeral cs :=
  ⟨filled, fun c member => Number.isDecimal_of_isWritten (written c member)⟩

theorem isNumeral_digits (n : Nat) : IsNumeral (digits n) :=
  isNumeral_of_isWritten (Number.digits_ne_nil n) fun _ => Number.isWritten_of_mem_digits

theorem isNumeral_padded (width n : Nat) : IsNumeral (padded width n).toList := by
  apply isNumeral_of_isWritten
  · rw [Number.toList_padded, Ne, List.append_eq_nil_iff, not_and]
    exact fun _ => Number.digits_ne_nil n
  · exact fun _ => Number.isWritten_of_mem_padded

/-- A text of a stamp has the numbers of one stamp only. -/
theorem parts_eq_of_text_eq (same : s.text = t.text) : s.parts = t.parts := by
  have dash : isDecimal '-' = false := by decide
  have space : isDecimal ' ' = false := by decide
  have colon : isDecimal ':' = false := by decide
  have equal : ∀ {n m : Nat}, (padded 2 n).toList = (padded 2 m).toList → n = m := by
    intro n m texts
    rw [← Number.ofDigits_padded 2 n, texts, Number.ofDigits_padded]
  have characters := congrArg String.toList same
  rw [toList_text, toList_text] at characters
  obtain ⟨years, rest⟩ := numeral_inj (isNumeral_digits _) (isNumeral_digits _) dash characters
  obtain ⟨months, rest⟩ := numeral_inj (isNumeral_padded 2 _) (isNumeral_padded 2 _) dash rest
  obtain ⟨days, rest⟩ := numeral_inj (isNumeral_padded 2 _) (isNumeral_padded 2 _) space rest
  obtain ⟨hours, rest⟩ := numeral_inj (isNumeral_padded 2 _) (isNumeral_padded 2 _) colon rest
  obtain ⟨minutes, seconds⟩ := numeral_inj (isNumeral_padded 2 _) (isNumeral_padded 2 _) colon rest
  have year : s.date.year = t.date.year := by
    rw [← Number.ofDigits_digits s.date.year, years, Number.ofDigits_digits]
  rw [parts, parts, year, equal months, equal days, equal hours, equal minutes, equal seconds]

/-- What a text writes has no fractions of a second. -/
theorem micro_of_writes (writes : Writes cs s) : s.clock.micro = 0 := by
  obtain ⟨l, second, -, -, -, rfl⟩ := writes
  rfl

/-- Of stamps that texts write, those with the same text are the same. -/
theorem text_eq_text_iff (writes : Writes cs s) (writes' : Writes ds t) :
    s.text = t.text ↔ s = t := by
  constructor
  · intro same
    have micro := (micro_of_writes writes).trans (micro_of_writes writes').symm
    have numbers := parts_eq_of_text_eq same
    obtain ⟨⟨year, month, day⟩, ⟨hour, minute, second, _⟩⟩ := s
    obtain ⟨⟨year', month', day'⟩, ⟨hour', minute', second', _⟩⟩ := t
    simp only [parts, List.cons.injEq, and_true] at numbers micro
    obtain ⟨rfl, rfl, rfl, rfl, rfl, rfl⟩ := numbers
    rw [micro]
  · exact congrArg text

/-! ## Offsets -/

/-- A text is a sign and two pairs of digits, perhaps with a colon between the pairs. The second
text is the first one without the colon. -/
inductive IsOffset : List Char → List Char → Prop where
  | joined {sign a b c d : Char} (signed : sign = '+' ∨ sign = '-')
    (decimal : ∀ e ∈ [a, b, c, d], isDecimal e = true) :
    IsOffset [sign, a, b, c, d] [sign, a, b, c, d]
  | parted {sign a b c d : Char} (signed : sign = '+' ∨ sign = '-')
    (decimal : ∀ e ∈ [a, b, c, d], isDecimal e = true) :
    IsOffset [sign, a, b, ':', c, d] [sign, a, b, c, d]

theorem offset?_eq_some_iff : offset? cs = some ds ↔ IsOffset cs ds := by
  constructor
  · intro found
    unfold offset? at found
    split at found
    next sign a b rest =>
      dsimp only at found
      split at found
      next c d pair =>
        split at found
        next proper =>
          cases found
          rw [Bool.and_eq_true, Bool.or_eq_true, decide_eq_true_eq, decide_eq_true_eq,
            List.all_eq_true] at proper
          split at pair
          · rw [pair]
            exact .parted proper.1 proper.2
          · rw [pair]
            exact .joined proper.1 proper.2
        next => cases found
      next => cases found
    next => cases found
  · intro offset
    have colon : isDecimal ':' = false := by decide
    cases offset with
    | joined signed decimal =>
      next sign a b c d =>
      have pair : c ≠ ':' := by
        rintro rfl
        have digit := decimal ':' (by simp)
        rw [colon] at digit
        cases digit
      rw [← List.all_eq_true] at decimal
      simp [offset?, signed, decimal, pair]
    | parted signed decimal =>
      rw [← List.all_eq_true] at decimal
      simp [offset?, signed, decimal]

theorem offsetText_some (offset : String) : offsetText (some offset) =
    match offset? (trim isBlank offset.toList) with
    | some digits => " " ++ String.ofList digits
    | none => "" :=
  rfl

theorem offsetText_of_isOffset {offset : String}
    (isOffset : IsOffset (trim isBlank offset.toList) ds) :
    offsetText (some offset) = " " ++ String.ofList ds := by
  rw [offsetText_some, offset?_eq_some_iff.mpr isOffset]

theorem offsetText_of_not_isOffset {offset : String}
    (none : ∀ ds, ¬ IsOffset (trim isBlank offset.toList) ds) : offsetText (some offset) = "" := by
  have unread : offset? (trim isBlank offset.toList) = .none :=
    Option.eq_none_iff_forall_ne_some.mpr fun ds found => none ds (offset?_eq_some_iff.mp found)
  rw [offsetText_some, unread]

/-- Behind a stamp stands nothing, or a text that ends with digits. -/
theorem offsetText_cases (offset : Option String) : offsetText offset = "" ∨
    ∃ sign digits, IsNumeral digits ∧
      offsetText offset = " " ++ String.ofList (sign :: digits) := by
  cases offset with
  | none => exact .inl rfl
  | some offset =>
      by_cases found : ∃ ds, IsOffset (trim isBlank offset.toList) ds
      · obtain ⟨ds, isOffset⟩ := found
        right
        rw [offsetText_of_isOffset isOffset]
        generalize trim isBlank offset.toList = cs at isOffset
        cases isOffset with
        | joined _ decimal | parted _ decimal => exact ⟨_, _, ⟨by simp, decimal⟩, rfl⟩
      · exact .inl (offsetText_of_not_isOffset (not_exists.mp found))

/-! ## Written stamps -/

/-- The stamp that a raw text denotes, once its ends are dropped: the text writes it, and it
exists. -/
def Denotes (raw : String) (s : Stamp) : Prop :=
  Writes (Tag.kept raw.toList) s ∧ s.IsValid

/-- The text in front of a dash is no numeral with a colon behind it. -/
theorem not_writes_text (s t : Stamp) (more : List Char) : ¬ Writes (s.text.toList ++ more) t := by
  rintro ⟨l, second, proper, -, same, -⟩
  have dash : ∀ {rest : List Char}, ∀ c ∈ ('-' :: rest).head?, isDecimal c = false := by
    rintro rest c ⟨⟩
    decide
  have colon : ∀ {rest : List Char}, ∀ c ∈ (':' :: rest).head?, isDecimal c = false := by
    rintro rest c ⟨⟩
    decide
  rw [toList_text, Lead.onto, List.append_assoc, List.cons_append] at same
  obtain ⟨-, rests⟩ := run_inj (isNumeral_digits _).decimal proper.numerals.1.decimal
    dash colon same
  cases rests

theorem isMargin_of_isDecimal (decimal : isDecimal c = true) : Text.isMargin c = false := by
  have null : Text.isNull c = false := by
    apply decide_eq_false
    rintro rfl
    have other : isDecimal (Char.ofNat 0) = false := by decide
    rw [other] at decimal
    cases decimal
  rw [Text.isMargin, isBlank_of_isDecimal decimal, null, Bool.or_false]

/-- A text between decimal digits has no margins. -/
theorem kept_of_ends {front back : List Char} (first : IsNumeral front) (last : IsNumeral back)
    (starts : front <+: cs) (ends : back <:+ cs) : Tag.kept cs = cs := by
  have solid : ∀ {ds : List Char}, IsNumeral ds → ∀ c ∈ ds, Text.isMargin c = false :=
    fun numeral c member => isMargin_of_isDecimal (numeral.decimal c member)
  rw [Tag.kept_eq_self_iff]
  constructor
  · obtain ⟨rest, rfl⟩ := starts
    exact head?_append_of_filled first.filled (solid first) rest
  · obtain ⟨lead, rfl⟩ := ends
    intro c end_
    rw [List.getLast?_append_of_ne_nil lead last.filled] at end_
    exact solid last c (List.mem_of_getLast? end_)

/-- Written stamps have no margins, with an offset or without one. -/
theorem kept_text (s : Stamp) (offset : Option String) :
    Tag.kept (s.text ++ offsetText offset).toList = (s.text ++ offsetText offset).toList := by
  have starts : digits s.date.year <+: (s.text ++ offsetText offset).toList := by
    rw [String.toList_append, toList_text, List.append_assoc]
    exact List.prefix_append _ _
  rcases offsetText_cases offset with none | ⟨sign, digits, numeral, written⟩
  · apply kept_of_ends (isNumeral_digits _) (isNumeral_padded 2 s.clock.second) starts
    rw [none, String.append_empty, text, String.toList_append]
    exact List.suffix_append _ _
  · apply kept_of_ends (isNumeral_digits _) numeral starts
    rw [written, ← String.append_assoc, String.toList_append, String.toList_ofList]
    exact (List.suffix_cons sign digits).trans (List.suffix_append _ _)

theorem format_some (raw : String) (offset : Option String) : format (some raw) offset =
    match read? (Tag.kept raw.toList) with
    | some s => some (s.text ++ offsetText offset)
    | none => Tag.finish raw.toList := by
  have same : trim (fun c => decide (c = Char.ofNat 0)) (trim isBlank raw.toList) =
    Tag.kept raw.toList := rfl
  simp only [format, same]
  cases read? (Tag.kept raw.toList) with
  | none => rfl
  | some s => rfl

theorem format_of_denotes {raw : String} (denoted : Denotes raw s) (offset : Option String) :
    format (some raw) offset = some (s.text ++ offsetText offset) := by
  rw [format_some, read?_eq_some_iff.mpr denoted]

theorem format_of_not_denotes {raw : String} (unread : ∀ s, ¬ Denotes raw s)
    (offset : Option String) : format (some raw) offset = Tag.finish raw.toList := by
  rw [format_some, read?_eq_none_iff.mpr unread]

theorem text_append_ne_empty (s : Stamp) (rest : String) : s.text ++ rest ≠ "" := by
  intro empty
  have none := congrArg String.toList empty
  rw [String.toList_append, toList_text, List.append_assoc] at none
  exact Number.digits_ne_nil _ (List.append_eq_nil_iff.mp none).1

/-- What comes out is never the empty text. -/
theorem empty_not_mem_format (raw offset : Option String) : "" ∉ format raw offset := by
  cases raw with
  | none => exact fun absurd => nomatch absurd
  | some raw =>
      rw [format_some]
      cases read? (Tag.kept raw.toList) with
      | none => exact fun finished => (Tag.finish_eq_some_iff.mp finished).2 rfl
      | some s => exact fun written => text_append_ne_empty s _ (Option.some_inj.mp written)

/-- A written stamp stays as it is. -/
theorem format_text (s : Stamp) (offset other : Option String) :
    format (some (s.text ++ offsetText offset)) other = some (s.text ++ offsetText offset) := by
  have unread : ∀ t, ¬ Denotes (s.text ++ offsetText offset) t := by
    rintro t ⟨writes, -⟩
    rw [kept_text, String.toList_append] at writes
    exact not_writes_text s t _ writes
  rw [format_of_not_denotes unread, Tag.finish_eq_some_iff, kept_text]
  exact ⟨rfl, text_append_ne_empty s _⟩

/-- Formatting keeps what stamps say. The texts of stamps that exist are the same just if the stamps
are, and from the year 1000 on they are in the order of time. An offset is appended if it is one,
and nothing is otherwise; what has been written stays as it is. A text that denotes no stamp loses
its ends and nothing else, and is nothing if nothing is left. -/
theorem format_keeps_identity_and_order :
    (∀ raw raw' s s', Denotes raw s → Denotes raw' s' →
      ∃ t t', format (some raw) none = some t ∧ format (some raw') none = some t' ∧
        (t = t' ↔ s = s') ∧
          (1000 ≤ s.date.year → 1000 ≤ s'.date.year → (t < t' ↔ s.Earlier s'))) ∧
      (∀ raw s, Denotes raw s → ∃ t, format (some raw) none = some t ∧
        (∀ offset written, IsOffset (trim isBlank offset.toList) written →
          format (some raw) (some offset) = some (t ++ " " ++ String.ofList written)) ∧
          (∀ offset, (∀ written, ¬ IsOffset (trim isBlank offset.toList) written) →
            format (some raw) (some offset) = some t) ∧
            ∀ offset other, format (format (some raw) offset) other = format (some raw) offset) ∧
      ∀ raw offset, (∀ s, ¬ Denotes raw s) → format (some raw) offset =
        if Tag.kept raw.toList = [] then none else some (String.ofList (Tag.kept raw.toList)) := by
  have bare : ∀ {raw s}, Denotes raw s → format (some raw) none = some s.text := by
    intro raw s denoted
    rw [format_of_denotes denoted, offsetText, Option.bind_none, String.append_empty]
  refine ⟨?_, ?_, ?_⟩
  · intro raw raw' s s' denoted denoted'
    exact ⟨s.text, s'.text, bare denoted, bare denoted', text_eq_text_iff denoted.1 denoted'.1,
      text_lt_text_iff denoted.2 denoted'.2⟩
  · intro raw s denoted
    refine ⟨s.text, bare denoted, ?_, ?_, ?_⟩
    · intro offset written isOffset
      rw [format_of_denotes denoted, offsetText_of_isOffset isOffset, String.append_assoc]
    · intro offset other
      rw [format_of_denotes denoted, offsetText_of_not_isOffset other, String.append_empty]
    · intro offset other
      rw [format_of_denotes denoted, format_text]
  · intro raw offset unread
    rw [format_of_not_denotes unread, Tag.finish_eq]

/-- An early stamp with digits of two scripts, and a late one, with an offset. -/
theorem format_keeps_identity_and_order_dawn :
    (∃ t t', format (some " \u0662\u0660\u0660\u0663:9:3  6:02:3\x00") none = some t ∧
      format (some "2004:02:29 23:59:59") none = some t' ∧ t ≠ t' ∧ t < t' ∧
        format (some t) none = some t ∧
          format (some "2004:02:29 23:59:59") (some "+02:00\n") = some (t' ++ " " ++ "+0200")) ∧
      format (some "2003:02:30 00:00:00\x00") none = some "2003:02:30 00:00:00" := by
  have denoted : Denotes " \u0662\u0660\u0660\u0663:9:3  6:02:3\x00"
      ⟨⟨2003, 9, 3⟩, ⟨6, 2, 3, 0⟩⟩ :=
    read?_eq_some_iff.mp (by decide +kernel)
  have denoted' : Denotes "2004:02:29 23:59:59" ⟨⟨2004, 2, 29⟩, ⟨23, 59, 59, 0⟩⟩ :=
    read?_eq_some_iff.mp (by decide +kernel)
  have unread : ∀ s, ¬ Denotes "2003:02:30 00:00:00\x00" s :=
    read?_eq_none_iff.mp (by decide +kernel)
  have left : Tag.kept "2003:02:30 00:00:00\x00".toList = "2003:02:30 00:00:00".toList := by
    decide +kernel
  have isOffset : IsOffset (trim isBlank "+02:00\n".toList) "+0200".toList :=
    offset?_eq_some_iff.mp (by decide +kernel)
  obtain ⟨pairs, stamps, others⟩ := format_keeps_identity_and_order
  obtain ⟨t, t', first, second, identity, order⟩ := pairs _ _ _ _ denoted denoted'
  obtain ⟨u, same, -, -, fixed⟩ := stamps _ _ denoted
  obtain ⟨u', same', offsets, -, -⟩ := stamps _ _ denoted'
  have again := fixed none none
  have appended := offsets _ _ isOffset
  rw [first] at again
  rw [second, Option.some_inj] at same'
  rw [← same'] at appended
  refine ⟨⟨t, t', first, second, ?_, ?_, again, appended⟩, ?_⟩
  · rw [Ne, identity]
    decide
  · exact (order (by decide) (by decide)).mpr (by decide)
  · rw [others _ none unread, left]
    rfl

end MediaNaming.Stamp
