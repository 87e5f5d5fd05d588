import MediaNaming.Proofs.Text.Split
import MediaNaming.Settings.Writer
import MediaNaming.Toml.Document
/-!
# Quoted texts in documents

A text is written with a backslash in front of each backslash and each quote. The reader takes
exactly these away, so it ends at the quote behind the text and at no other. What it refuses is a
text with a control character other than a tab. Carriage returns in front of line feeds are taken
away before anything is read, but a text that has one is refused for its line feed all the same.
-/

namespace MediaNaming.Toml

open Settings (escapeChars)

variable {c : Char} {cs front rest : List Char}

theorem not_mem_of_clean (clean : cs.any isForbidden = false) (forbidden : isForbidden c = true) :
    c ∉ cs := by
  intro member
  have refused : cs.any isForbidden = true := List.any_eq_true.mpr ⟨c, member, forbidden⟩
  rw [clean] at refused
  cases refused

/-! ## Line ends -/

theorem unixLines_cons (single : c ≠ '\r' ∨ rest.head? ≠ some '\n') :
    unixLines (c :: rest) = c :: unixLines rest := by
  rw [unixLines]
  intro more isReturn follows
  rcases single with notReturn | notFollowed
  · exact notReturn isReturn
  · rw [follows] at notFollowed
    exact notFollowed rfl

/-- Text without carriage returns stays. -/
theorem unixLines_append (single : '\r' ∉ front) (rest : List Char) :
    unixLines (front ++ rest) = front ++ unixLines rest := by
  induction front with
  | nil => rfl
  | cons first others ih =>
      simp only [List.mem_cons, not_or] at single
      rw [List.cons_append, unixLines_cons (Or.inl (Ne.symm single.1)), ih single.2]
      rfl

/-- A control character is left if there was one. -/
theorem any_isForbidden_unixLines (cs : List Char) :
    (unixLines cs).any isForbidden = cs.any isForbidden := by
  fun_induction unixLines cs with
  | case1 rest ih => rfl
  | case2 c rest single ih => rw [List.any_cons, List.any_cons, ih]
  | case3 => rfl

theorem unixLines_of_clean (clean : cs.any isForbidden = false) : unixLines cs = cs := by
  have same := unixLines_append (not_mem_of_clean (c := '\r') clean rfl) []
  rwa [List.append_nil, unixLines, List.append_nil] at same

/-! ## Escapes -/

theorem escapeChars_cons (c : Char) (cs : List Char) :
    escapeChars (c :: cs) = (if c = '\\' || c = '"' then ['\\', c] else [c]) ++ escapeChars cs :=
  rfl

theorem escapeChars_of_special (special : c = '\\' ∨ c = '"') (cs : List Char) :
    escapeChars (c :: cs) = '\\' :: c :: escapeChars cs := by
  rw [escapeChars_cons, if_pos (by simpa using special)]
  rfl

theorem escapeChars_of_ordinary (ordinary : ¬(c = '\\' ∨ c = '"')) (cs : List Char) :
    escapeChars (c :: cs) = c :: escapeChars cs := by
  rw [escapeChars_cons, if_neg (by simpa using ordinary)]
  rfl

/-- A character that needs a backslash is not what stands first. -/
theorem head?_escapeChars_cons (c : Char) (cs rest : List Char) :
    (escapeChars (c :: cs) ++ rest).head? = some (if c = '\\' ∨ c = '"' then '\\' else c) := by
  by_cases special : c = '\\' ∨ c = '"'
  · rw [escapeChars_of_special special, if_pos special]
    rfl
  · rw [escapeChars_of_ordinary special, if_neg special]
    rfl

/-- A line feed stands first only if the text starts with it. -/
theorem head?_quoted_ne (first : cs.head? ≠ some '\n') (rest : List Char) :
    (escapeChars cs ++ '"' :: rest).head? ≠ some '\n' := by
  cases cs with
  | nil =>
      change some '"' ≠ some '\n'
      decide
  | cons d ds =>
      rw [head?_escapeChars_cons]
      split
      next => decide
      next => exact first

/-- Line ends inside a quoted text are those of the text. -/
theorem unixLines_escapeChars (cs rest : List Char) :
    unixLines (escapeChars cs ++ '"' :: rest) =
      escapeChars (unixLines cs) ++ '"' :: unixLines rest := by
  fun_induction unixLines cs with
  | case1 cs ih =>
      rw [escapeChars_of_ordinary (by decide), escapeChars_of_ordinary (by decide),
        escapeChars_of_ordinary (by decide), List.cons_append, List.cons_append, unixLines, ih]
      rfl
  | case2 c cs single ih =>
      by_cases special : c = '\\' ∨ c = '"'
      · have notReturn : c ≠ '\r' := by
          cases special with
          | inl backslash => simp [backslash]
          | inr quote => simp [quote]
        rw [escapeChars_of_special special, escapeChars_of_special special, List.cons_append,
          List.cons_append, unixLines_cons (Or.inl (by decide)),
          unixLines_cons (Or.inl notReturn), ih]
        rfl
      · -- Only the text itself can put a line feed behind its carriage return.
        have alone : c ≠ '\r' ∨ (escapeChars cs ++ '"' :: rest).head? ≠ some '\n' := by
          by_cases isReturn : c = '\r'
          · apply Or.inr
            apply head?_quoted_ne
            intro follows
            obtain ⟨more, lineFeed⟩ := List.head?_eq_some_iff.mp follows
            exact single more isReturn lineFeed
          · exact Or.inl isReturn
        rw [escapeChars_of_ordinary special, escapeChars_of_ordinary special, List.cons_append,
          unixLines_cons alone, ih]
        rfl
  | case3 => exact unixLines_cons (Or.inl (by decide))

/-! ## Reading -/

/-- A backslash with one of the two characters behind it is read as this character. -/
theorem escaped?_special (special : c = '\\' ∨ c = '"') (cs : List Char) :
    escaped? (c :: cs) = some (c, cs) := by
  cases special with
  | inl backslash => rw [backslash, escaped?]
  | inr quote => rw [quote, escaped?]

theorem basicChars_backslash (escape : escaped? cs = some (c, rest)) :
    basicChars false ('\\' :: cs) = (basicChars false rest).push c := by
  rw [basicChars]
  simp only [Char.reduceEq, ↓reduceIte]
  split
  next more continued => cases continued
  next =>
    split
    next d more found =>
      rw [escape] at found
      cases found
      rfl
    next nothing =>
      rw [escape] at nothing
      cases nothing

/-- One character with its escape is read as the character. -/
theorem basicChars_step (c : Char) (cs rest : List Char) :
    basicChars false (escapeChars (c :: cs) ++ rest) =
      if isForbidden c then .error .malformed
      else (basicChars false (escapeChars cs ++ rest)).push c := by
  by_cases special : c = '\\' ∨ c = '"'
  · have allowed : ¬isForbidden c = true := by
      cases special with
      | inl backslash => simp [backslash, isForbidden]
      | inr quote => simp [quote, isForbidden]
    rw [escapeChars_of_special special, List.cons_append, List.cons_append, if_neg allowed]
    exact basicChars_backslash (escaped?_special special _)
  · rw [escapeChars_of_ordinary special, List.cons_append, basicChars]
    simp only [not_or] at special
    simp [special.1, special.2]

/-- The reader gives back the text that was quoted, unless it has a control character. -/
theorem basicChars_escapeChars (cs rest : List Char) :
    basicChars false (escapeChars cs ++ '"' :: rest) =
      if cs.any isForbidden then .error .malformed else .ok (cs, rest) := by
  induction cs with
  | nil =>
      rw [escapeChars, List.flatMap_nil, List.nil_append, basicChars]
      rfl
  | cons c cs ih =>
      rw [basicChars_step, ih, List.any_cons]
      by_cases refused : isForbidden c = true
      · simp [refused]
      · by_cases later : cs.any isForbidden = true
        · simp [later, Result.push, Except.map]
        · simp [refused, later, Result.push, Except.map]

/-- The quotes around a text are never three in a row, if a line ends behind them. -/
theorem quoted_ne_triple (cs rest more : List Char) :
    escapeChars cs ++ '"' :: '\n' :: rest ≠ '"' :: '"' :: more := by
  intro same
  cases cs with
  | nil =>
      have second : '\n' = '"' := (List.cons.inj (List.cons.inj same).2).1
      exact absurd second (by decide)
  | cons c cs =>
      have first := head?_escapeChars_cons c cs ('"' :: '\n' :: rest)
      rw [same, List.head?_cons] at first
      split at first
      next => exact absurd first (by decide)
      next ordinary => exact ordinary (Or.inr (Option.some.inj first).symm)

/-- A quoted text at the end of a line is read as the text, unless it has a control character. -/
theorem readString?_quoted (cs rest : List Char) :
    readString? ('"' :: (escapeChars cs ++ '"' :: '\n' :: rest)) =
      some (if cs.any isForbidden then .error .malformed else .ok (cs, '\n' :: rest)) := by
  rw [← basicChars_escapeChars, readString?]
  exact fun more same => quoted_ne_triple cs rest more same

end MediaNaming.Toml
