import MediaNaming.Proofs.Metadata.TagText
import MediaNaming.Proofs.Text.Stretches
/-!
# Text in octets

A tag may carry its text as octets. Octets that encode a text are read as this text, and everything
that holds them gives what the text itself gives. All other octets are read as well: their maximal
texts stay in their places, with one U+FFFD for each maximal subpart between them.
-/

namespace MediaNaming.Tag

open Text.Utf8 (Divides IsMaximalText Stretch decode encode)

variable {v : Value} {bs : List UInt8}

/-! ## What holds a value -/

mutual

/-- A tag holds a value as an item or as the first item of a sequence. -/
inductive Holds (v : Value) : Value → Prop
  | item {w : Value} (inside : ItemHolds v w) : Holds v w
  | list {w : Value} (others : List Value) (inside : ItemHolds v w) : Holds v (.list (w :: others))
  | tuple {w : Value} (others : List Value) (inside : ItemHolds v w) :
      Holds v (.tuple (w :: others))

/-- An item holds itself and what it carries or wraps. -/
inductive ItemHolds (v : Value) : Value → Prop
  | bare : ItemHolds v v
  | frame {w : Value} (inside : Holds v w) : ItemHolds v (.frame w)
  | literal {w : Value} (inside : Holds v w) : ItemHolds v (.literal w)
  | wrapper {w : Value} (inside : Holds v w) : ItemHolds v (.wrapper w)

end

mutual

/-- A value with nothing inside is written out wherever it is held. -/
theorem Holds.innermost_eq (alone : innermost v = some v) (alone' : innermostItem v = some v) :
    {w : Value} → Holds v w → innermost w = some v
  | _, .item .bare => alone
  | _, .item (.frame inside) | _, .item (.literal inside) | _, .item (.wrapper inside) => by
      simpa [innermost, innermostItem] using inside.innermost_eq alone alone'
  | _, .list _ inside | _, .tuple _ inside => by
      simpa [innermost] using inside.innermostItem_eq alone alone'

theorem ItemHolds.innermostItem_eq (alone : innermost v = some v)
    (alone' : innermostItem v = some v) : {w : Value} → ItemHolds v w → innermostItem w = some v
  | _, .bare => alone'
  | _, .frame inside | _, .literal inside | _, .wrapper inside => by
      simpa [innermostItem] using inside.innermost_eq alone alone'

end

/-- Everything that holds octets gives their text without its margins. -/
theorem firstText_of_holds (holds : Holds (.octets bs) v) :
    firstText v = .ok (finish (decode bs)) := by
  have alone : innermost (.octets bs) = some (.octets bs) := by simp [innermost, innermostItem]
  have alone' : innermostItem (.octets bs) = some (.octets bs) := by simp [innermostItem]
  have found := firstText_of_inside ⟨.octets bs, holds.innermost_eq alone alone', rfl⟩
  rwa [Text.Utf8.text, String.toList_ofList] at found

theorem plainText_octets (room : Nat) (bs : List UInt8) :
    plainText room (.octets bs) = .ok (String.ofList (decode bs)) := by
  rw [plainText, Text.Utf8.text]

theorem decode_toUTF8 (s : String) : decode s.toUTF8.data.toList = s.toList := by
  have whole := Text.Utf8.decode_encode_append s.toList []
  rwa [List.append_nil, decode, List.append_nil, ← Text.Utf8.octets, Text.Utf8.octets_eq] at whole

/-! ## Octets and texts -/

/-- The octets of a text are read as the text, whatever room there is for calls, and everything
that holds them gives what the text gives. All octets are read: they divide into the maximal
texts, each in its place, and maximal subparts, and the outcome has the texts as they are and
U+FFFD for each subpart. -/
theorem octets_readable (room : Nat) :
    (∀ s : String,
      plainText room (.octets s.toUTF8.data.toList) = .ok s ∧ plainText room (.text s) = .ok s ∧
        ∀ v, Holds (.octets s.toUTF8.data.toList) v → firstText v = firstText (.text s)) ∧
    ∀ bs : List UInt8, ∃ ss : List Stretch, Divides bs ss ∧
      (∀ before cs after,
        (bs = before ++ (encode cs ++ after) ∧ IsMaximalText before cs after) ↔
          ∃ front back, ss = front ++ .text cs :: back ∧
            before = front.flatMap Stretch.octets ∧ after = back.flatMap Stretch.octets) ∧
      plainText room (.octets bs) = .ok (String.ofList (ss.flatMap Stretch.shown)) ∧
      ∀ v, Holds (.octets bs) v → firstText v = .ok (finish (ss.flatMap Stretch.shown)) := by
  constructor
  · intro s
    refine ⟨?_, rfl, fun v holds => ?_⟩
    · rw [plainText_octets, decode_toUTF8, String.ofList_toList]
    · rw [firstText_of_holds holds, decode_toUTF8, firstText_text]
  · intro bs
    obtain ⟨ss, divides⟩ := Text.Utf8.exists_divides bs
    have read := Text.Utf8.decode_of_divides divides
    refine ⟨ss, divides, fun _ _ _ => divides.isMaximalText_iff, ?_, fun v holds => ?_⟩
    · rw [plainText_octets, read]
    · rw [firstText_of_holds holds, read]

/-- A cut-off character, a letter, a surrogate, a slash in a longer form, and a letter of two
octets. -/
def tornTitle : List UInt8 :=
  [0xE2, 0x82, 0x44, 0xED, 0xA0, 0x80, 0xC0, 0xAF, 0xC3, 0xA9]

/-- The torn title as it is read. -/
def mendedTitle : String :=
  "\uFFFDD\uFFFD\uFFFD\uFFFD\uFFFD\uFFFDé"

/-- What can be read of a torn title stays in its place, also behind a frame in a list. -/
theorem octets_readable_tornTitle :
    Holds (.octets tornTitle) (.wrapper (.list [.frame (.octets tornTitle), .null])) ∧
      plainText 1000 (.octets tornTitle) = .ok mendedTitle ∧
      firstText (.wrapper (.list [.frame (.octets tornTitle), .null])) =
        .ok (some mendedTitle) ∧
      firstText (.frame (.octets "Dawn ".toUTF8.data.toList)) = firstText (.text "Dawn ") := by
  have holds : Holds (.octets tornTitle) (.wrapper (.list [.frame (.octets tornTitle), .null])) :=
    .item (.wrapper (.list [.null] (.frame (.item .bare))))
  have read : decode tornTitle = mendedTitle.toList := by
    decide +kernel
  have left : finish mendedTitle.toList = some mendedTitle := by
    rw [finish_eq_some_iff]
    decide +kernel
  obtain ⟨ss, -, -, written, found⟩ := (octets_readable 1000).2 tornTitle
  have shown : ss.flatMap Stretch.shown = decode tornTitle := by
    rw [plainText_octets, Except.ok.injEq, String.ofList_inj] at written
    exact written.symm
  rw [shown, read, String.ofList_toList] at written
  have inner := found _ holds
  rw [shown, read, left] at inner
  obtain ⟨-, -, same⟩ := (octets_readable 1000).1 "Dawn "
  exact ⟨holds, written, inner, same _ (.item (.frame (.item .bare)))⟩

end MediaNaming.Tag
