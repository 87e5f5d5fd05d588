import MediaNaming.Proofs.Text.Trim
import MediaNaming.Scheme.Text
import Mathlib.Data.List.Chain
/-!
# Merged schemes

A scheme is merged if none of its literals is empty and no two of them are neighbours. Reading a
text gives a merged scheme with proper key names, whatever the braces in it, and merging leaves
such a scheme alone.
-/

namespace MediaNaming

/-- Whether a token is literal text. -/
def Token.isLiteral : Token → Bool
  | .literal _ => true
  | .key _ => false

namespace Scheme

/-- Tokens that can stand next to each other: not two literals. -/
def Apart (left right : Token) : Prop :=
  left.isLiteral = false ∨ right.isLiteral = false

/-- Schemes without empty literals and without neighbouring ones. -/
structure IsMerged (s : Scheme) : Prop where
  noEmpty : Token.literal "" ∉ s
  apart : s.IsChain Apart

variable {buffer front cs rest : List Char} {name : String} {token : Token} {s tokens : Scheme}

theorem isMerged_nil : IsMerged [] where
  noEmpty := List.not_mem_nil
  apart := .nil

theorem isMerged_cons_iff : IsMerged (token :: s) ↔
    token ≠ .literal "" ∧ (∀ next ∈ s.head?, Apart token next) ∧ IsMerged s := by
  constructor
  · rintro ⟨noEmpty, apart⟩
    simp only [List.mem_cons, not_or] at noEmpty
    rw [List.isChain_cons] at apart
    exact ⟨Ne.symm noEmpty.1, apart.1, noEmpty.2, apart.2⟩
  · rintro ⟨notEmpty, next, noEmpty, apart⟩
    refine ⟨?_, List.isChain_cons.mpr ⟨next, apart⟩⟩
    simp [Ne.symm notEmpty, noEmpty]

/-! ## Merging -/

@[simp] theorem merge_cons (token : Token) (s : Scheme) :
    merge (token :: s) = mergeOnto token (merge s) := rfl

@[simp] theorem mergeOnto_empty (s : Scheme) : mergeOnto (.literal "") s = s := by
  simp [mergeOnto]

/-- A token is put in front of tokens that it cannot be joined with. -/
theorem mergeOnto_of_apart (notEmpty : token ≠ .literal "")
    (next : ∀ t ∈ s.head?, Apart token t) : mergeOnto token s = token :: s := by
  cases token with
  | key name => rfl
  | literal text =>
      have filled : text ≠ "" := by
        rintro rfl
        exact notEmpty rfl
      cases s with
      | nil => simp [mergeOnto, filled]
      | cons first s =>
          cases first with
          | key name => simp [mergeOnto, filled]
          | literal other =>
              rcases next (.literal other) rfl with impossible | impossible <;> cases impossible

/-- Merging changes nothing where there is nothing to merge. -/
theorem merge_eq_self (merged : IsMerged s) : merge s = s := by
  induction s with
  | nil => rfl
  | cons token s ih =>
      rcases isMerged_cons_iff.mp merged with ⟨notEmpty, next, rest⟩
      rw [merge_cons, ih rest, mergeOnto_of_apart notEmpty next]

/-! ## Unfinished literals -/

/-- Tokens that an unfinished literal can be ended in front of. -/
def StartsWithKey (tokens : Scheme) : Prop :=
  ∀ t ∈ tokens.head?, t.isLiteral = false

theorem startsWithKey_nil : StartsWithKey [] := by
  rintro t ⟨⟩

theorem startsWithKey_key (name : String) (tokens : Scheme) :
    StartsWithKey (.key name :: tokens) := by
  rintro t ⟨⟩
  rfl

/-- Text in front of an unfinished literal belongs to the literal. -/
theorem flush_append (ends : StartsWithKey tokens) :
    flush (buffer ++ front) tokens =
      mergeOnto (.literal (String.ofList front.reverse)) (flush buffer tokens) := by
  cases front with
  | nil => simp
  | cons c front =>
      have notEmpty : Token.literal (String.ofList (c :: front).reverse) ≠ .literal "" := by simp
      cases buffer with
      | nil =>
          have apart : ∀ t ∈ tokens.head?,
              Apart (.literal (String.ofList (c :: front).reverse)) t := fun t first =>
            Or.inr (ends t first)
          simp only [List.nil_append, flush, List.isEmpty_nil, List.isEmpty_cons,
            Bool.false_eq_true, ↓reduceIte]
          exact (mergeOnto_of_apart notEmpty apart).symm
      | cons d buffer =>
          have filled : String.ofList (c :: front).reverse ≠ "" := by simp
          simp only [flush, mergeOnto, filled, List.cons_append, List.isEmpty_cons,
            Bool.false_eq_true, ↓reduceIte]
          rw [← String.ofList_append, ← List.reverse_append]
          rfl

theorem flush_isMerged (merged : IsMerged tokens) (ends : StartsWithKey tokens) :
    IsMerged (flush buffer tokens) := by
  cases buffer with
  | nil => exact merged
  | cons c buffer =>
      refine isMerged_cons_iff.mpr ⟨?_, ?_, merged⟩
      · simp
      · exact fun t first => Or.inr (ends t first)

theorem flush_eq_nil_iff : flush buffer tokens = [] ↔ buffer = [] ∧ tokens = [] := by
  cases buffer <;> simp [flush]

theorem flush_isWellFormed (proper : tokens.isWellFormed = true) :
    (flush buffer tokens).isWellFormed = true := by
  cases buffer with
  | nil => exact proper
  | cons c buffer => simpa [flush, isWellFormed] using proper

/-! ## Names between braces -/

theorem isKeyName_iff : isKeyName name = true ↔
    name ≠ "" ∧ '{' ∉ name.toList ∧ '}' ∉ name.toList ∧ Text.strip name = name := by
  simp [isKeyName, and_assoc]

/-- A name that is found between braces can stand there. -/
theorem keyAt?_isKeyName (found : keyAt? cs = some (name, rest)) : isKeyName name = true := by
  simp only [keyAt?] at found
  split at found
  next => cases found
  next =>
    split at found
    next => cases found
    next proper =>
      cases found
      simp only [Bool.or_eq_true, List.isEmpty_iff, List.contains_iff_mem, not_or] at proper
      have closed : '}' ∉ Text.trim Text.isBlank (cs.takeWhile (· ≠ '}')) := by
        intro member
        simpa using List.mem_takeWhile_imp (Text.mem_of_mem_trim member)
      rw [isKeyName_iff, Text.strip, String.toList_ofList, Text.trim_trim]
      refine ⟨?_, proper.2, closed, rfl⟩
      simpa using proper.1

/-! ## Reading -/

/-- A brace in front of a name opens a key. -/
theorem parseFrom_key (found : keyAt? cs = some (name, rest)) (single : cs.head? ≠ some '{') :
    parseFrom buffer ('{' :: cs) = flush buffer (.key name :: parseFrom [] rest) := by
  rw [parseFrom]
  · rw [if_pos rfl]
    split
    next other otherRest same =>
      rw [found] at same
      cases same
      rfl
    next none =>
      rw [found] at none
      cases none
  · rintro tail - rfl
    exact single rfl
  · rintro tail ⟨⟩

/-- A brace that opens no key is literal. -/
theorem parseFrom_noKey (none : keyAt? cs = none) (single : cs.head? ≠ some '{') :
    parseFrom buffer ('{' :: cs) = parseFrom ('{' :: buffer) cs := by
  rw [parseFrom]
  · rw [if_pos rfl]
    split
    next name rest found =>
      rw [none] at found
      cases found
    next => rfl
  · rintro tail - rfl
    exact single rfl
  · rintro tail ⟨⟩

/-- A character that is no brace is literal, and so is a closing brace that stands alone. -/
theorem parseFrom_char {c : Char} (notOpen : c ≠ '{') (single : c = '}' → cs.head? ≠ some '}') :
    parseFrom buffer (c :: cs) = parseFrom (c :: buffer) cs := by
  rw [parseFrom]
  · rw [if_neg notOpen]
  · rintro tail rfl
    exact absurd rfl notOpen
  · rintro tail rfl rfl
    exact single rfl rfl

theorem parseFrom_isMerged (buffer cs : List Char) : IsMerged (parseFrom buffer cs) := by
  fun_induction parseFrom buffer cs with
  | case1 buffer => exact flush_isMerged isMerged_nil startsWithKey_nil
  | case2 | case3 | case5 | case6 =>
      rename_i ih
      exact ih
  | case4 buffer cs name rest found notDoubled notClosing ih =>
      apply flush_isMerged _ (startsWithKey_key name _)
      refine isMerged_cons_iff.mpr ⟨?_, ?_, ih⟩
      · simp
      · exact fun t first => Or.inl rfl

theorem parseFrom_isWellFormed (buffer cs : List Char) :
    (parseFrom buffer cs).isWellFormed = true := by
  fun_induction parseFrom buffer cs with
  | case1 buffer => exact flush_isWellFormed rfl
  | case2 | case3 | case5 | case6 =>
      rename_i ih
      exact ih
  | case4 buffer cs name rest found notDoubled notClosing ih =>
      apply flush_isWellFormed
      rw [isWellFormed, List.all_cons, Bool.and_eq_true]
      exact ⟨keyAt?_isKeyName found, ih⟩

/-- Only the empty text gives no tokens. -/
theorem parseFrom_eq_nil_iff (buffer cs : List Char) :
    parseFrom buffer cs = [] ↔ buffer = [] ∧ cs = [] := by
  fun_induction parseFrom buffer cs with
  | case1 | case4 => simp [flush_eq_nil_iff]
  | case2 | case3 | case5 | case6 =>
      rename_i ih
      simp [ih]

theorem parse_isEmpty {text : String} (filled : text ≠ "") : (parse text).isEmpty = false := by
  rw [List.isEmpty_eq_false_iff, parse, ne_eq, parseFrom_eq_nil_iff]
  simpa using filled

/-- Characters read before stand in front of all that is read. -/
theorem parseFrom_append (buffer front cs : List Char) :
    parseFrom (buffer ++ front) cs =
      mergeOnto (.literal (String.ofList front.reverse)) (parseFrom buffer cs) := by
  fun_induction parseFrom buffer cs with
  | case1 buffer => rw [parseFrom, flush_append startsWithKey_nil]
  | case2 buffer rest ih => rw [parseFrom, ← ih, List.cons_append]
  | case3 buffer rest ih => rw [parseFrom, ← ih, List.cons_append]
  | case4 buffer cs name rest found notDoubled notClosing ih =>
      have single : cs.head? ≠ some '{' := by
        intro first
        rcases List.head?_eq_some_iff.mp first with ⟨tail, same⟩
        exact notDoubled tail rfl same
      rw [parseFrom_key found single, flush_append (startsWithKey_key name _)]
  | case5 buffer cs none notDoubled notClosing ih =>
      have single : cs.head? ≠ some '{' := by
        intro first
        rcases List.head?_eq_some_iff.mp first with ⟨tail, same⟩
        exact notDoubled tail rfl same
      rw [parseFrom_noKey none single, ← ih, List.cons_append]
  | case6 buffer c cs notDoubled notClosing notOpen ih =>
      have single : c = '}' → cs.head? ≠ some '}' := by
        intro closing first
        rcases List.head?_eq_some_iff.mp first with ⟨tail, same⟩
        exact notClosing tail closing same
      rw [parseFrom_char notOpen single, ← ih, List.cons_append]

end Scheme

end MediaNaming
