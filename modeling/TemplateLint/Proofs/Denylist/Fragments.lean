import TemplateLint.Proofs.Denylist.Meaning
import TemplateLint.Template.Basic

/-!
# Patterns in mixed values

What is known of a mixed value is its pieces of text, joined by spaces. A space is a blank, so that
no token reaches from one piece into the next one, and neither does a value that holds no space. A
pattern with an anchor is about one token, and one without an anchor is about its value. So both
are found in a mixed value exactly where they are found in one of its pieces.

Without an anchor, a pattern with a space in it is also found across two pieces, and the empty
pattern is found even where there is no piece.

## Main definitions

* `Pattern.Coherent`: the patterns that do not reach across pieces

## Main statements

* `Pattern.isMatchIn_intercalate_iff`: where such a pattern is found in joined texts
* `forbids_concat_iff`: where such a pattern is found in a mixed value
-/

namespace TemplateLint

/-- The static text of a mixed value: its pieces of text, with a space between neighbours. -/
theorem Value.toList_staticText_concat (c : Concat) :
    (Value.concat c).staticText.toList =
      [' '].intercalate ((c.parts.filterMap Part.staticText?).map String.toList) := by
  unfold Value.staticText
  rw [String.toList_intercalate]
  rfl

/-- The pieces of text of a mixed value. -/
theorem Part.mem_filterMap_staticText? {parts : List Part} {text : String} :
    text ∈ parts.filterMap Part.staticText? ↔ ∃ t, Part.literal t ∈ parts ∧ t.chars = text := by
  rw [List.mem_filterMap]
  constructor
  · rintro ⟨p, hp, htext⟩
    cases p with
    | literal t => exact ⟨t, hp, Option.some.inj htext⟩
    | mustache m => cases htext
    | unknown => cases htext
  · rintro ⟨t, ht, rfl⟩
    exact ⟨.literal t, ht, rfl⟩

namespace Denylist

/-- Whether what a pattern asks for cannot reach across a space: it is about tokens, or its value is
not empty and holds no space. -/
def Pattern.Coherent (p : Pattern) : Prop :=
  p.mode = .anywhere → p.value ≠ [] ∧ ' ' ∉ p.value

/-- **A pattern in joined texts** is found where it is found in one of them, unless it may reach
across the spaces that join them. -/
theorem Pattern.isMatchIn_intercalate_iff {p : Pattern} (h : p.Coherent)
    (texts : List (List Char)) :
    p.isMatchIn ([' '].intercalate texts) ↔ ∃ text ∈ texts, p.isMatchIn text := by
  have hblank : Text.isBlank ' ' := by decide
  obtain ⟨mode, value⟩ := p
  cases mode with
  | exact => simp [isMatchIn, Text.tokens_intercalate hblank]
  | opening => simp [isMatchIn, Text.tokens_intercalate hblank]
  | closing => simp [isMatchIn, Text.tokens_intercalate hblank]
  | anywhere =>
      obtain ⟨hne, hspace⟩ := h rfl
      simp only [isMatchIn, occursIn_iff]
      exact infix_intercalate_iff hne hspace texts

/-- A written pattern that has an anchor, or is not empty and holds no space. -/
theorem Pattern.coherent_parse {raw : String}
    (h : Opened raw.toList ∨ Closed raw.toList ∨ raw ≠ "" ∧ ' ' ∉ raw.toList) :
    (Pattern.parse raw).Coherent := by
  intro hmode
  obtain ⟨ho, hc, hvalue⟩ := ofChars_of_mode hmode
  obtain ⟨hne, hspace⟩ := (h.resolve_left ho).resolve_left hc
  unfold Pattern.parse
  rw [hvalue]
  exact ⟨by simpa using hne, hspace⟩

/-- **A mixed value is forbidden through its pieces.**  A pattern that has an anchor, or that is not
empty and holds no space, is found in a mixed value exactly when it is found in one of the pieces of
text of that value. -/
theorem forbids_concat_iff {raw : String}
    (h : Pattern.Opened raw.toList ∨ Pattern.Closed raw.toList ∨ raw ≠ "" ∧ ' ' ∉ raw.toList)
    (c : Concat) :
    forbids raw (Value.concat c).staticText ↔
      ∃ t : Literal, Part.literal t ∈ c.parts ∧ forbids raw t.chars := by
  unfold forbids Pattern.isMatch
  rw [Value.toList_staticText_concat, Pattern.isMatchIn_intercalate_iff (Pattern.coherent_parse h)]
  simp only [List.mem_map, Part.mem_filterMap_staticText?]
  constructor
  · rintro ⟨_, ⟨_, ⟨t, ht, rfl⟩, rfl⟩, hmatch⟩
    exact ⟨t, ht, hmatch⟩
  · rintro ⟨t, ht, hmatch⟩
    exact ⟨t.chars.toList, ⟨t.chars, ⟨t, ht, rfl⟩, rfl⟩, hmatch⟩

/-- Two pieces of text around an interpolation. -/
def twoPieces : Concat :=
  ⟨[.literal ⟨"foo ba", Span.unknown⟩, .mustache ⟨⟨"this.b"⟩, Span.unknown⟩,
    .literal ⟨"r", Span.unknown⟩], Span.unknown⟩

theorem forbids_concat_iff_twoPieces :
    Pattern.Opened "^ba$".toList ∧
      (forbids "^ba$" (Value.concat twoPieces).staticText ↔
        ∃ t : Literal, Part.literal t ∈ twoPieces.parts ∧ forbids "^ba$" t.chars) ∧
      ("bar" ≠ "" ∧ ' ' ∉ "bar".toList) ∧
      (forbids "bar" (Value.concat twoPieces).staticText ↔
        ∃ t : Literal, Part.literal t ∈ twoPieces.parts ∧ forbids "bar" t.chars) := by
  have hopened : Pattern.Opened "^ba$".toList := ⟨['b', 'a', '$'], rfl⟩
  have hplain : "bar" ≠ "" ∧ ' ' ∉ "bar".toList := by decide
  exact ⟨hopened, forbids_concat_iff (Or.inl hopened) twoPieces, hplain,
    forbids_concat_iff (Or.inr (Or.inr hplain)) twoPieces⟩

example :
    let pieces : Concat :=
      ⟨[.literal ⟨"foo ba", Span.unknown⟩, .literal ⟨"r", Span.unknown⟩], Span.unknown⟩
    let text := (Value.concat pieces).staticText
    forbids "^ba$" text ∧ ¬ forbids "bar" text ∧ forbids "a r" text := by
  decide

end Denylist

end TemplateLint
