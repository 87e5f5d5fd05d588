import MediaNaming.Text.Blank
import Mathlib.Data.List.DropRight
/-!
# Trimmed text

Trimming drops characters from the front and then from the back. What is dropped from the back
cannot uncover anything to drop in front, so trimming a second time changes nothing. What is left is
the text with bare ends between the characters to drop, and it can be found from any such division
of the text.
-/

namespace MediaNaming.Text

variable {p : Char → Bool} {cs : List Char} {c : Char}

theorem trim_eq_rdropWhile (p : Char → Bool) (cs : List Char) :
    trim p cs = (cs.dropWhile p).rdropWhile p := rfl

theorem trim_sublist (p : Char → Bool) (cs : List Char) : (trim p cs).Sublist cs := by
  rw [trim_eq_rdropWhile]
  exact (List.rdropWhile_prefix p _).sublist.trans (List.dropWhile_sublist p)

theorem mem_of_mem_trim (member : c ∈ trim p cs) : c ∈ cs :=
  (trim_sublist p cs).subset member

/-- Where no character is to be dropped, nothing is. -/
theorem trim_of_none (kept : ∀ c ∈ cs, p c = false) : trim p cs = cs := by
  have keeps : ∀ ds : List Char, (∀ c ∈ ds, p c = false) → ds.dropWhile p = ds := by
    intro ds kept
    cases ds with
    | nil => rfl
    | cons first rest => exact List.dropWhile_cons_of_neg (by simp [kept first])
  have back : ∀ c ∈ cs.reverse, p c = false := fun c member => kept c (List.mem_reverse.mp member)
  rw [trim, keeps cs kept, keeps cs.reverse back, List.reverse_reverse]

/-- What is left after trimming starts with a character that is kept. -/
theorem dropWhile_trim (p : Char → Bool) (cs : List Char) :
    (trim p cs).dropWhile p = trim p cs := by
  rw [List.dropWhile_eq_self_iff]
  intro nonempty
  have front : trim p cs <+: cs.dropWhile p := List.rdropWhile_prefix p _
  have bound : 0 < (cs.dropWhile p).length := Nat.lt_of_lt_of_le nonempty front.length_le
  have kept := List.dropWhile_eq_self_iff.mp (List.dropWhile_idempotent p cs) bound
  rwa [front.getElem nonempty]

@[simp] theorem trim_trim (p : Char → Bool) (cs : List Char) :
    trim p (trim p cs) = trim p cs := by
  rw [trim_eq_rdropWhile p (trim p cs), dropWhile_trim, trim_eq_rdropWhile,
    List.rdropWhile_idempotent]

/-! ## Text with bare ends -/

variable {q : Char → Bool} {rest front body back : List Char}

/-- Text with no character of a class at its ends. -/
structure Bare (p : Char → Bool) (cs : List Char) : Prop where
  front : ∀ c ∈ cs.head?, p c = false
  back : ∀ c ∈ cs.getLast?, p c = false

theorem bare_nil (p : Char → Bool) : Bare p [] := by
  constructor
  · rintro c ⟨⟩
  · rintro c ⟨⟩

theorem Bare.reverse (bare : Bare p cs) : Bare p cs.reverse where
  front := by
    rw [List.head?_reverse]
    exact bare.back
  back := by
    rw [List.getLast?_reverse]
    exact bare.front

theorem bare_of_none (kept : ∀ c ∈ cs, p c = false) : Bare p cs where
  front := fun c first => kept c (List.mem_of_mem_head? first)
  back := fun c last => kept c (List.mem_of_getLast? last)

/-- The ends are bare of two classes just if they are bare of both. -/
theorem bare_or_iff : Bare (fun c => p c || q c) cs ↔ Bare p cs ∧ Bare q cs := by
  constructor
  · intro bare
    have front := fun c first => Bool.or_eq_false_iff.mp (bare.front c first)
    have back := fun c last => Bool.or_eq_false_iff.mp (bare.back c last)
    exact ⟨⟨fun c first => (front c first).1, fun c last => (back c last).1⟩,
      ⟨fun c first => (front c first).2, fun c last => (back c last).2⟩⟩
  · intro ⟨left, right⟩
    constructor
    · intro c first
      exact Bool.or_eq_false_iff.mpr ⟨left.front c first, right.front c first⟩
    · intro c last
      exact Bool.or_eq_false_iff.mpr ⟨left.back c last, right.back c last⟩

/-- Characters of a class in front of a text with bare ends are dropped, and no others. -/
theorem dropWhile_between (inside : ∀ c ∈ front, p c = true) (bare : Bare p body)
    (behind : body = [] → ∀ c ∈ back, p c = true) :
    (front ++ (body ++ back)).dropWhile p = if body = [] then [] else body ++ back := by
  rw [List.dropWhile_append_of_pos inside]
  cases body with
  | nil => simpa [List.dropWhile_eq_nil_iff] using behind
  | cons c body =>
      have kept : p c = false := bare.front c rfl
      simp [kept]

/-- What is left after trimming is the text with bare ends between the characters to drop. -/
theorem trim_between (inside : ∀ c ∈ front, p c = true) (bare : Bare p body)
    (behind : ∀ c ∈ back, p c = true) : trim p (front ++ (body ++ back)) = body := by
  rw [trim, dropWhile_between inside bare fun _ => behind]
  by_cases empty : body = []
  · simp [empty]
  · have reversed : ∀ c ∈ back.reverse, p c = true := fun c member =>
      behind c (List.mem_reverse.mp member)
    have dropped : (back.reverse ++ (body.reverse ++ [])).dropWhile p = _ :=
      dropWhile_between reversed bare.reverse (by simp [empty])
    simp only [List.append_nil, List.reverse_eq_nil_iff, if_neg empty] at dropped
    rw [if_neg empty, List.reverse_append, dropped, List.reverse_reverse]

/-- Trimming drops characters of the class on both sides of what is left. -/
theorem trim_split (p : Char → Bool) (cs : List Char) : ∃ front back,
    cs = front ++ (trim p cs ++ back) ∧ (∀ c ∈ front, p c = true) ∧ ∀ c ∈ back, p c = true := by
  refine ⟨cs.takeWhile p, (cs.dropWhile p).rtakeWhile p, ?_, ?_, ?_⟩
  · rw [trim_eq_rdropWhile, List.rdropWhile_append_rtakeWhile]
    exact List.takeWhile_append_dropWhile.symm
  · intro c member
    exact List.mem_takeWhile_imp member
  · intro c member
    exact List.mem_rtakeWhile_imp member

/-- What is left after trimming has bare ends. -/
theorem trim_bare (p : Char → Bool) (cs : List Char) : Bare p (trim p cs) where
  front := by
    intro c first
    have kept := List.head?_dropWhile_not p (trim p cs)
    rw [dropWhile_trim, Option.mem_def.mp first] at kept
    exact kept
  back := by
    intro c last
    have kept := List.head?_dropWhile_not p (cs.dropWhile p).reverse
    rw [trim, List.getLast?_reverse, Option.mem_def] at last
    rw [last] at kept
    exact kept

/-- Trimming leaves a text alone just if its ends are bare. -/
theorem trim_eq_self_iff : trim p cs = cs ↔ Bare p cs := by
  constructor
  · intro same
    rw [← same]
    exact trim_bare p cs
  · intro bare
    have between : trim p ([] ++ (cs ++ [])) = cs := trim_between (by simp) bare (by simp)
    rwa [List.nil_append, List.append_nil] at between

theorem trim_append_of_pos (inside : ∀ c ∈ front, p c = true) (cs : List Char) :
    trim p (front ++ cs) = trim p cs := by
  rw [trim, trim, List.dropWhile_append_of_pos inside]

/-- A character that is kept in front of a text stays in front of what is left. -/
theorem trim_cons_of_neg (kept : p c = false) (rest : List Char) :
    ∃ others, trim p (c :: rest) = c :: others := by
  obtain ⟨front, back, split, inside, behind⟩ := trim_split p (c :: rest)
  cases front with
  | cons first front =>
      have dropped : p c = true := by
        rw [(List.cons.inj split).1]
        exact inside first List.mem_cons_self
      simp [kept] at dropped
  | nil =>
      cases left : trim p (c :: rest) with
      | cons first others =>
          rw [left] at split
          exact ⟨others, by rw [(List.cons.inj split).1]⟩
      | nil =>
          rw [left] at split
          have dropped : p c = true := behind c (by simp [← show c :: rest = back from split])
          simp [kept] at dropped

theorem trim_eq_nil_iff : trim p cs = [] ↔ ∀ c ∈ cs, p c = true := by
  constructor
  · intro empty
    obtain ⟨front, back, split, inside, behind⟩ := trim_split p cs
    rw [empty, List.nil_append] at split
    rw [split]
    intro c member
    exact (List.mem_append.mp member).elim (inside c) (behind c)
  · intro dropped
    simpa [trim] using trim_append_of_pos dropped []

/-- Trimming works alike from both sides. -/
theorem trim_reverse (p : Char → Bool) (cs : List Char) :
    trim p cs.reverse = (trim p cs).reverse := by
  obtain ⟨front, back, split, inside, behind⟩ := trim_split p cs
  have reversed : cs.reverse = back.reverse ++ ((trim p cs).reverse ++ front.reverse) := by
    conv_lhs => rw [split]
    simp
  rw [reversed]
  apply trim_between _ (trim_bare p cs).reverse
  · simpa using inside
  · simpa using behind

/-- Classes that agree on the characters of a text trim it alike. -/
theorem trim_congr (same : ∀ c ∈ cs, p c = q c) : trim p cs = trim q cs := by
  obtain ⟨front, back, split, inside, behind⟩ := trim_split q cs
  have kept := trim_bare q cs
  conv_lhs => rw [split]
  apply trim_between
  · intro c member
    rw [same c (split ▸ List.mem_append_left _ member), inside c member]
  · constructor
    · intro c first
      rw [same c (mem_of_mem_trim (List.mem_of_mem_head? first)), kept.front c first]
    · intro c last
      rw [same c (mem_of_mem_trim (List.mem_of_getLast? last)), kept.back c last]
  · intro c member
    rw [same c (split ▸ List.mem_append_right _ (List.mem_append_right _ member)),
      behind c member]

/-- To trim a smaller class of characters first makes no difference. -/
theorem trim_trim_of_imp (smaller : ∀ c, q c = true → p c = true) (cs : List Char) :
    trim p (trim q cs) = trim p cs := by
  obtain ⟨front, back, outer, inside, behind⟩ := trim_split q cs
  obtain ⟨front', back', inner, inside', behind'⟩ := trim_split p (trim q cs)
  have split : cs = (front ++ front') ++ (trim p (trim q cs) ++ (back' ++ back)) := by
    conv_lhs => rw [outer, inner]
    simp
  conv_rhs => rw [split]
  symm
  apply trim_between _ (trim_bare p _)
  · intro c member
    exact (List.mem_append.mp member).elim (behind' c) fun last => smaller c (behind c last)
  · intro c member
    exact (List.mem_append.mp member).elim (fun first => smaller c (inside c first)) (inside' c)

end MediaNaming.Text
