import MediaNaming.Text.Split
/-!
# Pieces of text

Cutting at a separator takes what stands in front of the first one as the first piece, so no piece
has the separator. Strings without the separator are found again in the text that joins them.
-/

namespace MediaNaming.Text

variable {separator : Char} {front rest : List Char} {p : Char → Bool} {c : Char}

/-! ## The front of a text -/

theorem takeWhile_front (inside : ∀ c ∈ front, p c = true) (ends : p c = false) :
    (front ++ c :: rest).takeWhile p = front := by
  rw [List.takeWhile_append_of_pos inside, List.takeWhile_cons, ends]
  simp

theorem dropWhile_front (inside : ∀ c ∈ front, p c = true) (ends : p c = false) :
    (front ++ c :: rest).dropWhile p = c :: rest := by
  rw [List.dropWhile_append_of_pos inside, List.dropWhile_cons, ends]
  simp

/-! ## Cutting -/

theorem splitOn_of_not_mem {cs : List Char} (outside : separator ∉ cs) :
    splitOn separator cs = [cs] := by
  induction cs with
  | nil => rfl
  | cons first rest ih =>
      simp only [List.mem_cons, not_or] at outside
      have other : first ≠ separator := Ne.symm outside.1
      simp [splitOn, ih outside.2, other]

/-- The first piece ends at the first separator. -/
theorem splitOn_append_cons (outside : separator ∉ front) :
    splitOn separator (front ++ separator :: rest) = front :: splitOn separator rest := by
  induction front with
  | nil =>
      cases pieces : splitOn separator rest with
      | nil => exact absurd pieces (splitOn_ne_nil separator rest)
      | cons piece pieces' => simp [splitOn, pieces]
  | cons first others ih =>
      simp only [List.mem_cons, not_or] at outside
      have other : first ≠ separator := Ne.symm outside.1
      rw [List.cons_append, splitOn, ih outside.2]
      simp [other]

/-- The first piece is what stands in front of the first separator; the others come from what stands
behind it. -/
theorem splitOn_eq (separator : Char) (cs : List Char) :
    splitOn separator cs = cs.takeWhile (· ≠ separator) ::
      match cs.dropWhile (· ≠ separator) with
      | [] => []
      | _ :: rest => splitOn separator rest := by
  induction cs with
  | nil => rfl
  | cons c rest ih =>
      by_cases separates : c = separator
      · subst separates
        have first : c ∉ ([] : List Char) := List.not_mem_nil
        simpa using splitOn_append_cons first
      · simp [splitOn, ih, separates]

/-- No piece has the separator. -/
theorem not_mem_of_mem_splitOn {cs piece : List Char} (member : piece ∈ splitOn separator cs) :
    separator ∉ piece := by
  induction cs generalizing piece with
  | nil =>
      rw [List.mem_singleton.mp member]
      exact List.not_mem_nil
  | cons c rest ih =>
      cases cut : splitOn separator rest with
      | nil => exact absurd cut (splitOn_ne_nil separator rest)
      | cons first others =>
          rw [cut] at ih
          rw [splitOn, cut] at member
          by_cases separates : c = separator
          · simp only [separates, ↓reduceIte] at member
            cases member with
            | head => exact List.not_mem_nil
            | tail _ later => exact ih later
          · simp only [separates, ↓reduceIte] at member
            cases member with
            | head =>
                rw [List.mem_cons, not_or]
                exact ⟨Ne.symm separates, ih List.mem_cons_self⟩
            | tail _ later => exact ih (List.mem_cons_of_mem first later)

theorem not_mem_of_mem_pieces {s part : String} (member : part ∈ pieces separator s) :
    separator ∉ part.toList := by
  obtain ⟨piece, cut, same⟩ := List.mem_map.mp member
  rw [← same, String.toList_ofList]
  exact not_mem_of_mem_splitOn cut

/-! ## Joining -/

theorem mem_joined_iff {separator : String} {c : Char} (outside : c ∉ separator.toList)
    (parts : List String) :
    c ∈ (joined separator parts).toList ↔ ∃ part ∈ parts, c ∈ part.toList := by
  fun_induction joined separator parts with
  | case1 | case2 s => simp
  | case3 s t rest ih => simp [ih, outside]

/-- Joined strings start with the first of them. -/
theorem joined_cons_toList (separator first : String) (others : List String) :
    ∃ cs, (joined separator (first :: others)).toList = first.toList ++ cs := by
  cases others with
  | nil => exact ⟨[], by rw [joined, List.append_nil]⟩
  | cons second others =>
      rw [joined, String.toList_append, String.toList_append, List.append_assoc]
      exact ⟨_, rfl⟩

/-- Joined strings in front of others. -/
theorem joined_cons (separator first : String) {others : List String} (filled : others ≠ []) :
    joined separator (first :: others) = first ++ separator ++ joined separator others := by
  cases others with
  | nil => exact absurd rfl filled
  | cons second others => rw [joined]

/-- Strings that are joined by line feeds with nothing behind the last one are lines. -/
theorem joined_lines (strings : List String) :
    (joined "\n" (strings ++ [""])).toList = strings.flatMap fun s => s.toList ++ ['\n'] := by
  induction strings with
  | nil => rfl
  | cons s strings ih =>
      have filled : strings ++ [""] ≠ [] := by simp
      rw [List.cons_append, joined_cons "\n" s filled, String.toList_append, String.toList_append,
        ih]
      rfl

/-- Joined strings are the pieces of the text, if none of them has the separator. -/
theorem pieces_joined {parts : List String} (filled : parts ≠ [])
    (outside : ∀ s ∈ parts, separator ∉ s.toList) :
    pieces separator (joined (String.singleton separator) parts) = parts := by
  induction parts with
  | nil => exact absurd rfl filled
  | cons s others ih =>
      have first : separator ∉ s.toList := outside s List.mem_cons_self
      cases others with
      | nil => simp [joined, pieces, splitOn_of_not_mem first]
      | cons t others =>
          have chars : (joined (String.singleton separator) (s :: t :: others)).toList =
              s.toList ++ separator ::
                (joined (String.singleton separator) (t :: others)).toList := by
            simp [joined]
          have later := ih (List.cons_ne_nil t others) fun u member =>
            outside u (List.mem_cons_of_mem s member)
          rw [pieces] at later
          rw [pieces, chars, splitOn_append_cons first, List.map_cons, later,
            String.ofList_toList]

end MediaNaming.Text
