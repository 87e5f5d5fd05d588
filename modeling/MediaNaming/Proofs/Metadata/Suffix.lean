import MediaNaming.Metadata.Registry
import MediaNaming.Substitute
import Mathlib.Data.List.TakeWhile
/-!
# Suffixes of generated names

A generated name is some text with the suffix of the file behind it, cleaned. Cleaning may put
dots into the text, but it leaves a suffix of a known format alone, so such a name has the suffix
of its file again wherever its text is not empty.
-/

namespace MediaNaming

namespace Path

variable {cs front ending : List Char}

/-- A suffix is empty, or a dot with text that has no dot. -/
theorem suffixOf_cases (cs : List Char) :
    suffixOf cs = [] ∨ ∃ ending, ending ≠ [] ∧ '.' ∉ ending ∧ suffixOf cs = '.' :: ending := by
  simp only [suffixOf]
  split
  next =>
    split
    next => exact Or.inl rfl
    next filled =>
      refine Or.inr ⟨_, ?_, ?_, rfl⟩
      · simpa using filled
      · intro member
        have kept := List.mem_takeWhile_imp (List.mem_reverse.mp member)
        simp at kept
  next => exact Or.inl rfl

/-- Behind a text that is not empty, a dot with text that has no dot is the suffix. -/
theorem suffixOf_append (notFirst : front ≠ []) (notLast : ending ≠ []) (noDot : '.' ∉ ending) :
    suffixOf (front ++ '.' :: ending) = '.' :: ending := by
  have back : (front ++ '.' :: ending).reverse = ending.reverse ++ '.' :: front.reverse := by simp
  have inside : ∀ c ∈ ending.reverse, decide (c ≠ '.') = true := by
    intro c member
    apply decide_eq_true
    rintro rfl
    exact noDot (List.mem_reverse.mp member)
  rcases List.exists_cons_of_ne_nil (List.reverse_ne_nil_iff.mpr notFirst) with
    ⟨last, others, reversed⟩
  simp only [suffixOf, back, List.takeWhile_append_of_pos inside,
    List.dropWhile_append_of_pos inside]
  simp [reversed, notLast]

end Path

namespace Substitute

variable {sub : Substitute}

theorem cleanChars_append (cs rest : List Char) :
    sub.cleanChars (cs ++ rest) = sub.cleanChars cs ++ sub.cleanChars rest :=
  List.map_append

theorem cleanChars_of_legal {cs : List Char} (legal : ∀ c ∈ cs, isIllegal c = false) :
    sub.cleanChars cs = cs := by
  have kept : ∀ c ∈ cs, sub.cleanChar c = id c := by
    intro c member
    simp [cleanChar, legal c member]
  rw [cleanChars, List.map_congr_left kept, List.map_id]

/-- A legal suffix behind a text that is not empty is the suffix of the cleaned name. -/
theorem suffixOf_clean {text : String} {p : Path} (filled : text ≠ "") (suffixed : p.suffix ≠ "")
    (legal : ∀ c ∈ p.suffix.toList, isIllegal c = false) :
    Path.suffixOf (sub.clean (text ++ p.suffix)).toList = p.suffix.toList := by
  have cleaned : (sub.clean (text ++ p.suffix)).toList =
      sub.cleanChars text.toList ++ p.suffix.toList := by
    rw [clean, String.toList_ofList, String.toList_append, cleanChars_append,
      cleanChars_of_legal legal]
  have suffixChars : p.suffix.toList = Path.suffixOf p.name.toList := String.toList_ofList
  rw [cleaned]
  rcases Path.suffixOf_cases p.name.toList with none | ⟨ending, notLast, noDot, found⟩
  · rw [Path.suffix, none] at suffixed
    exact absurd rfl suffixed
  · rw [suffixChars, found]
    apply Path.suffixOf_append _ notLast noDot
    simp [cleanChars, filled]

end Substitute

/-! ## Suffixes of known formats -/

/-- No illegal character is a letter: lower case keeps all of them. -/
theorem Text.mem_lowerFrom {c : Char} {before cs : List Char} (illegal : isIllegal c = true)
    (member : c ∈ cs) : c ∈ lowerFrom before cs := by
  have fixed : (illegalCharacters.all fun d =>
      d.toNat ≠ 0x130 && d.toNat ≠ 0x3A3 && lowerChar d = d) = true := by
    decide
  induction cs generalizing before with
  | nil => cases member
  | cons first rest ih =>
      rw [lowerFrom]
      rcases List.mem_cons.mp member with rfl | later
      · have kept := List.all_eq_true.mp fixed c (List.contains_iff_mem.mp illegal)
        simp only [Bool.and_eq_true, decide_eq_true_eq] at kept
        simp [kept]
      · exact List.mem_append_right _ (ih later)

/-- A suffix whose lower case is not empty and has only legal characters is of the same kind. -/
theorem Path.suffix_legal {p : Path} (filled : p.lowerSuffix ≠ "")
    (legal : ∀ c ∈ p.lowerSuffix.toList, isIllegal c = false) :
    p.suffix ≠ "" ∧ ∀ c ∈ p.suffix.toList, isIllegal c = false := by
  constructor
  · intro empty
    apply filled
    rw [lowerSuffix, empty]
    rfl
  · intro c member
    cases refused : isIllegal c with
    | false => rfl
    | true =>
        have kept : c ∈ p.lowerSuffix.toList := by
          rw [lowerSuffix, Text.lower, String.toList_ofList]
          exact Text.mem_lowerFrom refused member
        rw [legal c kept] at refused
        cases refused

namespace Registry

/-- The extensions that are known from the start are not empty, and all their characters are
legal. -/
theorem default_extension {extension : String} {e : Extractor}
    (known : (extension, e) ∈ default) :
    extension ≠ "" ∧ ∀ c ∈ extension.toList, isIllegal c = false := by
  have all : ((default.map Prod.fst).all fun s =>
      s ≠ "" && s.toList.all fun c => !isIllegal c) = true := by
    decide +kernel
  have listed : extension ∈ default.map Prod.fst :=
    List.mem_map.mpr ⟨(extension, e), known, rfl⟩
  simpa using List.all_eq_true.mp all extension listed

/-- The suffix of a file of a known format is not empty, and all its characters are legal. -/
theorem default_suffix {p : Path} {e : Extractor} (known : (p.lowerSuffix, e) ∈ default) :
    p.suffix ≠ "" ∧ ∀ c ∈ p.suffix.toList, isIllegal c = false :=
  Path.suffix_legal (default_extension known).1 (default_extension known).2

end Registry

end MediaNaming
