import MediaNaming.Proofs.Scheme.Merged
import MediaNaming.Proofs.Text.Split
/-!
# Writing schemes and reading them again

Whatever text follows a written scheme, reading finds the tokens of the scheme first: the doubled
braces of a literal are used up in pairs, so none of them is left for a key or a text behind it.
`parse_format_append` says so for every scheme with proper key names, and with it
`parse_normalForm` shows that writing and reading bring every text into a normal form.
-/

namespace MediaNaming.Scheme

variable {token : Token} {s : Scheme} {name : String}

/-! ## Reading what is written -/

/-- Reading takes the doubled braces away again. -/
theorem parseFrom_escape (buffer cs rest : List Char) :
    parseFrom buffer (escape cs ++ rest) = parseFrom (cs.reverse ++ buffer) rest := by
  induction cs generalizing buffer with
  | nil => rfl
  | cons c cs ih =>
      have step : parseFrom buffer (escape (c :: cs) ++ rest) =
          parseFrom (c :: buffer) (escape cs ++ rest) := by
        simp only [escape, List.flatMap_cons, List.append_assoc]
        by_cases opening : c = '{'
        · subst opening
          exact parseFrom.eq_2 buffer _
        by_cases closing : c = '}'
        · subst closing
          exact parseFrom.eq_3 buffer _
        · simp only [opening, closing, decide_false, Bool.or_self, Bool.false_eq_true, ↓reduceIte]
          exact parseFrom_char opening fun isClosing => absurd isClosing closing
      rw [step, ih, List.reverse_cons, List.append_assoc, List.singleton_append]

/-- A name in front of a closing brace is found there. -/
theorem keyAt?_name (proper : isKeyName name = true) (rest : List Char) :
    keyAt? (name.toList ++ '}' :: rest) = some (name, rest) := by
  rcases isKeyName_iff.mp proper with ⟨notEmpty, notOpened, notClosed, stripped⟩
  have inside : ∀ c ∈ name.toList, decide (c ≠ '}') = true := by
    intro c member
    rw [decide_eq_true_eq]
    rintro rfl
    exact notClosed member
  have trimmed : Text.trim Text.isBlank name.toList = name.toList := by
    have same := congrArg String.toList stripped
    rwa [Text.strip, String.toList_ofList] at same
  have filled : name.toList ≠ [] := by simpa using notEmpty
  rw [keyAt?, Text.takeWhile_front inside rfl, Text.dropWhile_front inside rfl]
  simp [trimmed, filled, notOpened]

/-- A written token in front of a text is read as that token. -/
theorem parseFrom_formatToken (proper : isWellFormed [token] = true) (rest : List Char) :
    parseFrom [] (formatToken token ++ rest) = mergeOnto token (parseFrom [] rest) := by
  cases token with
  | literal text =>
      rw [formatToken, parseFrom_escape, List.append_nil]
      have merged := parseFrom_append [] text.toList.reverse rest
      rwa [List.nil_append, List.reverse_reverse, String.ofList_toList] at merged
  | key name =>
      have named : isKeyName name = true := by simpa [isWellFormed] using proper
      rcases isKeyName_iff.mp named with ⟨notEmpty, notOpened, -, -⟩
      have shape : formatToken (.key name) ++ rest = '{' :: (name.toList ++ '}' :: rest) := by
        simp [formatToken]
      have single : (name.toList ++ '}' :: rest).head? ≠ some '{' := by
        intro first
        rw [List.head?_append_of_ne_nil _ (by simpa using notEmpty)] at first
        exact notOpened (List.mem_of_head? first)
      rw [shape, parseFrom_key (keyAt?_name named rest) single]
      rfl

/-- Written tokens in front of a text are read as those tokens. -/
theorem parseFrom_formatTokens (proper : s.isWellFormed = true) (rest : List Char) :
    parseFrom [] (s.flatMap formatToken ++ rest) = merge (s ++ parseFrom [] rest) := by
  induction s with
  | nil => exact (merge_eq_self (parseFrom_isMerged [] rest)).symm
  | cons token s ih =>
      rw [isWellFormed, List.all_cons, Bool.and_eq_true] at proper
      have first : isWellFormed [token] = true := by
        rw [isWellFormed, List.all_cons, proper.1]
        rfl
      rw [List.flatMap_cons, List.append_assoc, parseFrom_formatToken first, ih proper.2]
      rfl

/-- Reading a written scheme with any text behind it gives its tokens and those of the text, with
neighbouring literals joined. -/
theorem parse_format_append (proper : s.isWellFormed = true) (t : String) :
    parse (format s ++ t) = merge (s ++ parse t) := by
  simp only [parse, format, String.toList_append, String.toList_ofList]
  exact parseFrom_formatTokens proper t.toList

/-- A brace as literal text on both sides of a key. -/
def bracedKey : Scheme :=
  [.literal "\x7b", .key "date", .literal "", .literal "\x7d"]

/-- Text that closes a brace, writes one and opens another. -/
def bracedText : String :=
  "\x7d\x7b\x7b x\x7b\x7d"

theorem parse_format_append_braces :
    bracedKey.isWellFormed = true ∧
      parse (format bracedKey ++ bracedText) = merge (bracedKey ++ parse bracedText) := by
  have proper : bracedKey.isWellFormed = true := by decide +kernel
  exact ⟨proper, parse_format_append proper bracedText⟩

/-! ## The normal form of a text -/

/-- The tokens of a scheme with proper key names are kept as they are. -/
theorem compile_toValue (proper : s.isWellFormed = true) : compile s.toValue = .ok s := by
  have kept : ∀ token ∈ s, tokenOf? (tokenValue token) = some token := by
    intro token member
    cases token with
    | literal text => rfl
    | key name =>
        have named := List.all_eq_true.mp proper _ member
        simp [tokenValue, tokenOf?, (isKeyName_iff.mp named).1]
  have all : (s.map tokenValue).filterMap tokenOf? = s := by
    rw [List.filterMap_map]
    exact (List.filterMap_congr kept).trans List.filterMap_some
  simp only [compile, toValue, items?, Option.getD_some, Except.map, all]

/-- Every text is read as a merged scheme with proper key names, which compiling leaves alone. Only
the empty text has no tokens. What is written for the tokens is read as the same tokens. -/
theorem parse_normalForm (t : String) :
    IsMerged (parse t) ∧ (parse t).isWellFormed = true ∧ (parse t = [] ↔ t = "") ∧
      compile (parse t).toValue = .ok (parse t) ∧ parse (format (parse t)) = parse t ∧
      format (parse (format (parse t))) = format (parse t) := by
  have merged : IsMerged (parse t) := parseFrom_isMerged [] t.toList
  have proper : (parse t).isWellFormed = true := parseFrom_isWellFormed [] t.toList
  have same : parse (format (parse t)) = parse t := by
    have nothing : parseFrom [] [] = [] := (parseFrom_eq_nil_iff [] []).mpr ⟨rfl, rfl⟩
    have joined := parseFrom_formatTokens proper []
    rw [nothing, List.append_nil, List.append_nil, merge_eq_self merged] at joined
    simpa only [parse, format, String.toList_ofList] using joined
  refine ⟨merged, proper, ?_, compile_toValue proper, same, congrArg format same⟩
  rw [parse, parseFrom_eq_nil_iff]
  simp

end MediaNaming.Scheme
