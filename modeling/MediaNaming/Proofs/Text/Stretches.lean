import MediaNaming.Proofs.Text.Character
/-!
# Readable and unreadable octets

Octets are the octets of texts with stretches between them that form no character. Such a stretch
is made up of maximal subparts: from where no character can be read, the longest octets that some
character starts with, or a single octet. All octets divide into texts and maximal subparts, and
decoding shows the texts as they are and one U+FFFD for each subpart. Since no character starts
inside another one, a text keeps its place whatever stands around it.
-/

namespace MediaNaming.Text.Utf8

variable {c : Char} {cs ds : List Char} {b : UInt8}
  {bs rest part before after tail : List UInt8}

/-! ## Maximal subparts -/

/-- No character starts here. -/
def Unreadable (bs : List UInt8) : Prop :=
  ∀ c, ¬encodeChar c <+: bs

/-- Octets that stand for one defect: the beginning of a character, or any single octet. -/
def Begun (part : List UInt8) : Prop :=
  part.length = 1 ∨ ∃ c, part <+: encodeChar c

/-- Octets in front, where no character starts, that are the longest beginning of a character, or a
single octet if there is no beginning. -/
structure IsMaximalSubpart (part bs : List UInt8) : Prop where
  front : part <+: bs
  filled : part ≠ []
  unreadable : Unreadable bs
  begun : Begun part
  longest : ∀ other, other <+: bs → Begun other → other.length ≤ part.length

theorem IsMaximalSubpart.unique {other : List UInt8} (first : IsMaximalSubpart part bs)
    (second : IsMaximalSubpart other bs) : part = other :=
  (List.prefix_of_prefix_length_le first.front second.front
    (second.longest part first.front first.begun)).eq_of_length_le
      (first.longest other second.front second.begun)

theorem head_of_encodeChar (split : b :: bs = encodeChar c ++ rest) :
    head b bs = ⟨.ok c, rest⟩ := by
  obtain ⟨x, xs, octets, read⟩ := head_encodeChar c rest
  obtain ⟨rfl, rfl⟩ := List.cons.inj (split.trans octets)
  exact read

/-- Where a defect is found no character starts. -/
theorem unreadable_of_head {flaw : Defect × Nat} (found : head b bs = ⟨.error flaw, rest⟩) :
    Unreadable (b :: bs) := by
  rintro c ⟨others, split⟩
  cases congrArg Head.item ((head_of_encodeChar split.symm).symm.trans found)

/-- What the head stopped at is a maximal subpart if no longer beginning of a character is there. -/
theorem isMaximalSubpart_of_head {flaw : Defect × Nat} (found : head b bs = ⟨.error flaw, rest⟩)
    (split : b :: bs = part ++ rest) (filled : part ≠ []) (begun : Begun part)
    (stops : ∀ c others, b :: others <+: b :: bs → b :: others <+: encodeChar c →
      others.length < part.length) : IsMaximalSubpart part (b :: bs) where
  front := ⟨rest, split.symm⟩
  filled := filled
  unreadable := unreadable_of_head found
  begun := begun
  longest := by
    have some : 0 < part.length := List.length_pos_of_ne_nil filled
    rintro other front (single | ⟨c, begins⟩)
    · rwa [single]
    · cases other with
      | nil => exact Nat.zero_le _
      | cons x others =>
          obtain ⟨rfl, -⟩ := List.cons_prefix_cons.mp front
          exact stops c others front begins

/-- What stands first is a character, or a maximal subpart with the number of its octets. -/
theorem head_cases (b : UInt8) (bs : List UInt8) :
    (∃ c rest, b :: bs = encodeChar c ++ rest ∧ head b bs = ⟨.ok c, rest⟩) ∨
      ∃ part rest defect, b :: bs = part ++ rest ∧ IsMaximalSubpart part (b :: bs) ∧
        head b bs = ⟨.error (defect, part.length), rest⟩ := by
  by_cases one : b.toNat < 0x80
  · refine .inl ⟨Char.ofNat b.toNat, bs, by rw [encodeChar_one one]; rfl, ?_⟩
    rw [head, if_pos one]
  cases led : lead? b.toNat with
  | none =>
      have read : head b bs = ⟨.error (.start, 1), bs⟩ := by rw [head, if_neg one, led]
      refine .inr ⟨[b], bs, .start, rfl, isMaximalSubpart_of_head read rfl (by simp) (.inl rfl) ?_,
        read⟩
      rintro c others - ⟨more, split⟩
      rcases encodeChar_cases c with ⟨x, octets, small⟩ | ⟨x, l, tail, octets, announced, -⟩
      · obtain ⟨rfl, -⟩ := List.cons.inj (split.trans octets)
        exact absurd small one
      · obtain ⟨rfl, -⟩ := List.cons.inj (split.trans octets)
        cases announced.symm.trans led
  | some l =>
      have read : head b bs = readTail l.more l.low l.high l.bits 1 bs := by
        rw [head, if_neg one, led]
      rcases readTail_cases l.more l.low l.high l.bits 1 bs with
        ⟨tail, rest, rfl, allowed, full, done⟩ |
          ⟨tail, rest, defect, rfl, allowed, short, stops, stopped⟩
      · refine .inl ⟨Char.ofNat (value l.bits tail), rest, ?_, read.trans done⟩
        rw [encodeChar_value led allowed full, List.cons_append]
      · obtain ⟨bounds, -, greatest, -⟩ := lead?_cases led
        obtain ⟨missing, complete, full⟩ := allowed.completed bounds (by omega)
        -- The octets that have been read can be completed, so they begin a character; a longer
        -- beginning would have the octet at which reading stopped.
        have begun : Begun (b :: tail) :=
          .inr ⟨_, missing, (encodeChar_value led complete full).symm⟩
        rw [Nat.add_comm 1] at stopped
        refine .inr ⟨b :: tail, rest, defect, rfl, isMaximalSubpart_of_head (read.trans stopped)
          rfl (by simp) begun ?_, read.trans stopped⟩
        intro c others front begins
        have inside := Allowed.prefix_of_stops stops (List.cons_prefix_cons.mp front).2
          (Allowed.of_prefix led begins)
        exact Nat.lt_succ_of_le inside.length_le

/-! ## Stretches -/

/-- A stretch of octets: a text, or a maximal subpart. -/
inductive Stretch where
  | text (cs : List Char)
  | defect (part : List UInt8)

namespace Stretch

/-- The octets of a stretch. -/
def octets : Stretch → List UInt8
  | .text cs => encode cs
  | .defect part => part

/-- What is read in the place of a stretch. -/
def shown : Stretch → List Char
  | .text cs => cs
  | .defect _ => [replacement]

end Stretch

/-- Octets divide into stretches: texts, each up to where no character starts, and maximal
subparts. -/
inductive Divides : List UInt8 → List Stretch → Prop
  | nil : Divides [] []
  | text {cs : List Char} {rest : List UInt8} {ss : List Stretch} (filled : cs ≠ [])
      (ends : Unreadable rest) (behind : Divides rest ss) :
      Divides (encode cs ++ rest) (.text cs :: ss)
  | defect {part rest : List UInt8} {ss : List Stretch}
      (subpart : IsMaximalSubpart part (part ++ rest)) (behind : Divides rest ss) :
      Divides (part ++ rest) (.defect part :: ss)

variable {ss : List Stretch}

theorem Divides.octets_eq (divides : Divides bs ss) : ss.flatMap Stretch.octets = bs := by
  induction divides with
  | nil => rfl
  | text _ _ _ ih => rw [List.flatMap_cons, ih, Stretch.octets]
  | defect _ _ ih => rw [List.flatMap_cons, ih, Stretch.octets]

theorem encode_cons (c : Char) (cs : List Char) : encode (c :: cs) = encodeChar c ++ encode cs :=
  List.flatMap_cons

theorem encode_append (cs ds : List Char) : encode (cs ++ ds) = encode cs ++ encode ds :=
  List.flatMap_append

theorem unreadable_nil : Unreadable [] :=
  fun c front => encodeChar_ne_nil c (List.prefix_nil.mp front)

/-- A further character in front joins the first text. -/
theorem Divides.cons (c : Char) (divides : Divides bs ss) :
    ∃ ss', Divides (encodeChar c ++ bs) ss' := by
  have alone : encodeChar c ++ bs = encode [c] ++ bs := by
    rw [encode, List.flatMap_singleton]
  cases divides with
  | nil => exact ⟨_, alone ▸ Divides.text (List.cons_ne_nil c []) unreadable_nil .nil⟩
  | @text cs rest ss filled ends behind =>
      have joined : encodeChar c ++ (encode cs ++ rest) = encode (c :: cs) ++ rest := by
        rw [encode_cons, List.append_assoc]
      exact ⟨_, joined ▸ Divides.text (List.cons_ne_nil c cs) ends behind⟩
  | defect subpart behind =>
      exact ⟨_, alone ▸ Divides.text (List.cons_ne_nil c []) subpart.unreadable
        (.defect subpart behind)⟩

/-- All octets divide into stretches. -/
theorem exists_divides (bs : List UInt8) : ∃ ss, Divides bs ss := by
  fun_induction decode bs with
  | case1 => exact ⟨[], .nil⟩
  | case2 b bs ih =>
      obtain ⟨ss, divides⟩ := ih
      rcases head_cases b bs with ⟨c, rest, split, read⟩ |
        ⟨part, rest, defect, split, subpart, read⟩
      · rw [read] at divides
        rw [split]
        exact divides.cons c
      · rw [read] at divides
        rw [split] at subpart ⊢
        exact ⟨_, .defect subpart divides⟩

/-! ## Decoding -/

theorem decode_encodeChar_append (c : Char) (bs : List UInt8) :
    decode (encodeChar c ++ bs) = c :: decode bs := by
  obtain ⟨b, more, octets, read⟩ := head_encodeChar c bs
  rw [octets, decode, read]
  rfl

/-- A text in front is read as it is. -/
theorem decode_encode_append (cs : List Char) (bs : List UInt8) :
    decode (encode cs ++ bs) = cs ++ decode bs := by
  induction cs with
  | nil => rfl
  | cons c cs ih =>
      rw [encode_cons, List.append_assoc, decode_encodeChar_append, ih, List.cons_append]

/-- One U+FFFD is read in the place of a maximal subpart. -/
theorem decode_subpart (subpart : IsMaximalSubpart part (part ++ rest)) :
    decode (part ++ rest) = replacement :: decode rest := by
  cases split : part ++ rest with
  | nil => exact absurd (List.append_eq_nil_iff.mp split).1 subpart.filled
  | cons b bs =>
      rw [split] at subpart
      rcases head_cases b bs with ⟨c, others, valid, -⟩ | ⟨part', rest', defect, split', same, read⟩
      · exact absurd ⟨others, valid.symm⟩ (subpart.unreadable c)
      · have parts := same.unique subpart
        subst parts
        have rests : rest' = rest := List.append_cancel_left (split'.symm.trans split.symm)
        rw [decode, read, rests]
        rfl

/-- Reading shows the stretches one after another. -/
theorem decode_of_divides (divides : Divides bs ss) : decode bs = ss.flatMap Stretch.shown := by
  induction divides with
  | nil => rw [decode, List.flatMap_nil]
  | text _ _ _ ih => rw [decode_encode_append, ih, List.flatMap_cons, Stretch.shown]
  | defect subpart _ ih => rw [decode_subpart subpart, ih, List.flatMap_cons, Stretch.shown]; rfl

/-! ## Texts in their places -/

/-- The octets of a text start with an octet that is no trailing one. -/
theorem encode_leading (filled : cs ≠ []) (bs : List UInt8) :
    ∃ b more, encode cs ++ bs = b :: more ∧ ¬Trailing b := by
  obtain ⟨c, rest, rfl⟩ := List.exists_cons_of_ne_nil filled
  obtain ⟨b, tail, octets⟩ := List.exists_cons_of_ne_nil (encodeChar_ne_nil c)
  rw [encode_cons, octets]
  exact ⟨b, _, rfl, (encodeChar_trailing octets).1⟩

theorem encode_ne_nil (filled : cs ≠ []) : encode cs ≠ [] := by
  obtain ⟨b, more, leads, -⟩ := encode_leading filled []
  rw [List.append_nil] at leads
  exact leads ▸ List.cons_ne_nil b more

/-- A text starts in front of an octet with trailing octets behind it, or behind all of them. -/
theorem exists_append_of_trailing (trailing : ∀ x ∈ tail, Trailing x) (filled : cs ≠ [])
    (inside : before ≠ []) (split : b :: tail ++ rest = before ++ (encode cs ++ after)) :
    ∃ behind, before = b :: tail ++ behind := by
  obtain ⟨x, more, leads, leading⟩ := encode_leading filled after
  rw [leads] at split
  rcases List.append_eq_append_iff.mp split with ⟨behind, found, -⟩ | ⟨left, found, same⟩
  · exact ⟨behind, found⟩
  · cases left with
    | nil => exact ⟨[], by rw [found, List.append_nil, List.append_nil]⟩
    | cons y left =>
        obtain ⟨z, zs, rfl⟩ := List.exists_cons_of_ne_nil inside
        obtain ⟨rfl, -⟩ := List.cons.inj same
        obtain ⟨-, rfl⟩ := List.cons.inj found
        exact absurd (trailing x (by simp)) leading

theorem IsMaximalSubpart.trailing (subpart : IsMaximalSubpart part bs) :
    ∃ b tail, part = b :: tail ∧ ∀ x ∈ tail, Trailing x := by
  obtain ⟨b, tail, rfl⟩ := List.exists_cons_of_ne_nil subpart.filled
  refine ⟨b, tail, rfl, ?_⟩
  rcases subpart.begun with single | ⟨c, rest, octets⟩
  · cases tail with
    | nil => simp
    | cons => cases single
  · intro x inside
    exact (encodeChar_trailing octets.symm).2 x (List.mem_append_left rest inside)

/-- A text starts behind another text, or where one of its characters starts. -/
theorem encode_boundary (filled : cs ≠ [])
    (split : encode ds ++ rest = before ++ (encode cs ++ after)) :
    (∃ behind, before = encode ds ++ behind) ∨ ∃ us vs, ds = us ++ vs ∧ before = encode us := by
  induction ds generalizing before with
  | nil => exact .inl ⟨before, rfl⟩
  | cons d ds ih =>
      by_cases inside : before = []
      · exact .inr ⟨[], d :: ds, rfl, inside⟩
      obtain ⟨b, tail, octets⟩ := List.exists_cons_of_ne_nil (encodeChar_ne_nil d)
      have trailing := (encodeChar_trailing octets).2
      rw [encode_cons, octets, List.append_assoc] at split
      obtain ⟨behind, rfl⟩ := exists_append_of_trailing trailing filled inside split
      rw [List.append_assoc, List.append_cancel_left_eq] at split
      rcases ih split with ⟨others, rfl⟩ | ⟨us, vs, rfl, rfl⟩
      · exact .inl ⟨others, by rw [encode_cons, octets, List.append_assoc]⟩
      · exact .inr ⟨d :: us, vs, rfl, by rw [encode_cons, octets]⟩

/-- A text goes on up to where no character starts. -/
theorem encode_prefix (ends : Unreadable rest)
    (split : encode ds ++ rest = encode cs ++ after) :
    ∃ vs, ds = cs ++ vs ∧ encode vs ++ rest = after := by
  induction cs generalizing ds with
  | nil => exact ⟨ds, rfl, split⟩
  | cons c cs ih =>
      rw [encode_cons, List.append_assoc] at split
      cases ds with
      | nil => exact absurd ⟨_, split.symm⟩ (ends c)
      | cons d ds =>
          rw [encode_cons, List.append_assoc] at split
          obtain ⟨b, more, octets, read⟩ := head_encodeChar d (encode ds ++ rest)
          have again := head_of_encodeChar (octets.symm.trans split)
          cases congrArg Head.item (read.symm.trans again)
          obtain ⟨vs, rfl, left⟩ := ih (List.append_cancel_left split)
          exact ⟨vs, rfl, left⟩

/-- A text among the octets is part of one of the stretches, whatever stands around it. -/
theorem Divides.of_text (divides : Divides bs ss) (filled : cs ≠ [])
    (split : bs = before ++ (encode cs ++ after)) :
    ∃ front us vs back, ss = front ++ .text (us ++ (cs ++ vs)) :: back ∧
      before = front.flatMap Stretch.octets ++ encode us ∧
      after = encode vs ++ back.flatMap Stretch.octets := by
  induction divides generalizing before with
  | nil =>
      have none := (List.append_eq_nil_iff.mp (List.append_eq_nil_iff.mp split.symm).2).1
      exact absurd none (encode_ne_nil filled)
  | @text ds rest ss _ ends behind ih =>
      -- The text lies behind this one, or starts inside it and cannot go on behind it.
      rcases encode_boundary filled split with ⟨others, rfl⟩ | ⟨us, vs, rfl, rfl⟩
      · rw [List.append_assoc, List.append_cancel_left_eq] at split
        obtain ⟨front, us, vs, back, rfl, rfl, found⟩ := ih split
        exact ⟨.text ds :: front, us, vs, back, rfl, (List.append_assoc ..).symm, found⟩
      · rw [encode_append, List.append_assoc, List.append_cancel_left_eq] at split
        obtain ⟨vs, rfl, found⟩ := encode_prefix ends split
        exact ⟨[], us, vs, ss, rfl, rfl, by rw [behind.octets_eq, found]⟩
  | @defect part rest ss subpart behind ih =>
      -- No text starts where the subpart does, and none inside it, among trailing octets.
      by_cases inside : before = []
      · obtain ⟨c, cs, rfl⟩ := List.exists_cons_of_ne_nil filled
        rw [split, inside, encode_cons, List.nil_append, List.append_assoc] at subpart
        exact absurd (List.prefix_append ..) (subpart.unreadable c)
      · obtain ⟨b, tail, rfl, trailing⟩ := subpart.trailing
        obtain ⟨others, rfl⟩ := exists_append_of_trailing trailing filled inside split
        rw [List.append_assoc, List.append_cancel_left_eq] at split
        obtain ⟨front, us, vs, back, rfl, rfl, found⟩ := ih split
        exact ⟨.defect (b :: tail) :: front, us, vs, back, rfl, (List.append_assoc ..).symm, found⟩

/-- Octets that stand between `before` and `after` are a text, and no longer one: no character ends
right in front of it, and none starts right behind it. -/
structure IsMaximalText (before : List UInt8) (cs : List Char) (after : List UInt8) : Prop where
  filled : cs ≠ []
  first : ∀ c, ¬encodeChar c <:+ before
  last : Unreadable after

theorem Divides.of_append {front back : List Stretch} (divides : Divides bs (front ++ back)) :
    Divides (back.flatMap Stretch.octets) back := by
  induction front generalizing bs with
  | nil =>
      have same := divides.octets_eq
      rw [List.nil_append] at divides same
      rwa [same]
  | cons s front ih =>
      cases divides with
      | text _ _ behind => exact ih behind
      | defect _ behind => exact ih behind

theorem Divides.of_cons (divides : Divides bs (.text cs :: ss)) :
    cs ≠ [] ∧ Unreadable (ss.flatMap Stretch.octets) := by
  cases divides with
  | text filled ends behind => exact ⟨filled, behind.octets_eq.symm ▸ ends⟩

/-- No character ends right in front of a text stretch, as it would belong to the stretch. -/
theorem Divides.first {front back : List Stretch}
    (divides : Divides bs (front ++ .text cs :: back)) (c : Char) :
    ¬encodeChar c <:+ front.flatMap Stretch.octets := by
  rintro ⟨before, found⟩
  have filled := encode_ne_nil divides.of_append.of_cons.1
  have some := encodeChar_ne_nil c
  rw [← List.length_pos_iff] at filled some
  have split := divides.octets_eq
  rw [List.flatMap_append, List.flatMap_cons, Stretch.octets, ← found, List.append_assoc,
    ← List.append_assoc (encodeChar c), ← encode_cons] at split
  obtain ⟨front', us, vs, back', same, rfl, -⟩ :=
    divides.of_text (List.cons_ne_nil c cs) split.symm
  -- Both stretches are the same one, and only one of them has the further character.
  have lengths := congrArg List.length found
  rcases List.append_eq_append_iff.mp same with ⟨mid, rfl, -⟩ | ⟨mid, rfl, others⟩
  · simp only [List.flatMap_append, List.length_append] at lengths
    omega
  · cases mid with
    | nil =>
        have longer := congrArg List.length (Stretch.text.inj (List.cons.inj others).1)
        simp only [List.length_append, List.length_cons] at longer
        omega
    | cons s mid =>
        obtain ⟨rfl, -⟩ := List.cons.inj others
        simp only [List.flatMap_append, List.flatMap_cons, Stretch.octets, encode_append,
          encode_cons, List.length_append] at lengths
        omega

/-- The text stretches are the maximal texts, each in its place. -/
theorem Divides.isMaximalText_iff (divides : Divides bs ss) :
    (bs = before ++ (encode cs ++ after) ∧ IsMaximalText before cs after) ↔
      ∃ front back, ss = front ++ .text cs :: back ∧ before = front.flatMap Stretch.octets ∧
        after = back.flatMap Stretch.octets := by
  constructor
  · rintro ⟨split, maximal⟩
    obtain ⟨front, us, vs, back, rfl, rfl, rfl⟩ := divides.of_text maximal.filled split
    have first : us = [] := by
      rcases List.eq_nil_or_concat' us with none | ⟨us, u, rfl⟩
      · exact none
      · refine absurd ?_ (maximal.first u)
        rw [encode_append, ← List.append_assoc, encode, encode, List.flatMap_singleton]
        exact List.suffix_append ..
    have last : vs = [] := by
      cases vs with
      | nil => rfl
      | cons v vs =>
          refine absurd ?_ (maximal.last v)
          rw [encode_cons, List.append_assoc]
          exact List.prefix_append ..
    subst first last
    exact ⟨front, back, by rw [List.nil_append, List.append_nil], List.append_nil _, rfl⟩
  · rintro ⟨front, back, rfl, rfl, rfl⟩
    have split := divides.octets_eq
    rw [List.flatMap_append, List.flatMap_cons, Stretch.octets] at split
    obtain ⟨filled, last⟩ := divides.of_append.of_cons
    exact ⟨split.symm, filled, divides.first, last⟩

end MediaNaming.Text.Utf8
