import TemplateLint.Proofs.Denylist.Meaning

/-!
# Patterns that are never found

A pattern with an anchor is about tokens, and these are never empty and hold no blanks. So a value
with a blank in it does not fit into any token, and the empty value is not a whole one; such
patterns forbid nothing, though a denylist may hold them. All others do forbid something: a value
that is not empty and has no blanks is a token when it stands alone, the empty value begins and ends
every token, and without anchors every value is found in itself.

## Main definitions

* `Pattern.Futile`: the patterns that are found in no text
* `Pattern.sample`: a text in which any other pattern is found

## Main statements

* `Pattern.not_isMatchIn_of_futile`, `Pattern.isMatchIn_sample`: both halves of this
* `Pattern.futile_parse_iff`: how such patterns are written
* `forbids_nothing_iff`: which written patterns forbid nothing
-/

namespace TemplateLint.Denylist

open Text (IsToken isBlank)

namespace Pattern

/-- **Whether a pattern is found in no text**: it asks for an empty token, or for one with a blank
in it. -/
def Futile (p : Pattern) : Prop :=
  p.mode = .exact ∧ p.value = [] ∨ p.mode ≠ .anywhere ∧ ∃ c ∈ p.value, isBlank c

/-- A text in which a pattern is found unless it is futile: the value, or a letter when the value is
empty. -/
def sample (p : Pattern) : List Char :=
  if p.value.isEmpty then ['a'] else p.value

/-! ### Futile patterns -/

/-- What a pattern with an anchor looks for is part of a token. -/
theorem Asks.exists_token {p : Pattern} {text : List Char} (h : p.Asks text)
    (hmode : p.mode ≠ .anywhere) : ∃ token, IsToken token text ∧ p.value <:+: token := by
  obtain ⟨mode, value⟩ := p
  cases mode with
  | exact =>
      obtain ⟨token, htoken, rfl⟩ := h
      exact ⟨token, htoken, List.infix_rfl⟩
  | opening =>
      obtain ⟨token, htoken, hstart⟩ := h
      exact ⟨token, htoken, hstart.isInfix⟩
  | closing =>
      obtain ⟨token, htoken, hend⟩ := h
      exact ⟨token, htoken, hend.isInfix⟩
  | anywhere => exact absurd rfl hmode

/-- A futile pattern is found in no text. -/
theorem not_isMatchIn_of_futile {p : Pattern} (h : p.Futile) (text : List Char) :
    ¬ p.isMatchIn text := by
  intro hmatch
  have hasks := isMatchIn_iff.1 hmatch
  rcases h with ⟨hmode, hvalue⟩ | ⟨hmode, c, hc, hblank⟩
  · obtain ⟨mode, value⟩ := p
    subst hmode hvalue
    obtain ⟨token, htoken, rfl⟩ := hasks
    exact htoken.ne_nil rfl
  · obtain ⟨token, htoken, hpart⟩ := hasks.exists_token hmode
    exact htoken.no_separator c (hpart.subset hc) hblank

/-! ### Other patterns -/

/-- **A pattern that is not futile is found in its sample.** -/
theorem isMatchIn_sample {p : Pattern} (h : ¬ p.Futile) : p.isMatchIn p.sample := by
  rw [isMatchIn_iff]
  obtain ⟨mode, value⟩ := p
  cases value with
  | nil =>
      have hblank : ¬ isBlank 'a' := by decide
      have hletter : IsToken ['a'] ['a'] :=
        Text.isToken_self (List.cons_ne_nil 'a' []) (List.forall_mem_singleton.2 hblank)
      cases mode with
      | exact => exact absurd (Or.inl ⟨rfl, rfl⟩) h
      | opening => exact ⟨['a'], hletter, List.nil_prefix⟩
      | closing => exact ⟨['a'], hletter, List.nil_suffix⟩
      | anywhere => exact List.nil_infix
  | cons c cs =>
      -- With an anchor, the value has no blank in it and is the only token of the sample.
      have hwhole : mode ≠ .anywhere → IsToken (c :: cs) (c :: cs) := fun hmode =>
        Text.isToken_self (List.cons_ne_nil c cs) fun d hd hblank =>
          h (Or.inr ⟨hmode, d, hd, hblank⟩)
      cases mode with
      | exact => exact ⟨c :: cs, hwhole (by decide), rfl⟩
      | opening => exact ⟨c :: cs, hwhole (by decide), List.prefix_rfl⟩
      | closing => exact ⟨c :: cs, hwhole (by decide), List.suffix_rfl⟩
      | anywhere => exact List.infix_rfl

theorem exists_isMatch_iff {p : Pattern} : (∃ text : String, p.isMatch text) ↔ ¬ p.Futile := by
  constructor
  · rintro ⟨text, hmatch⟩ hfutile
    exact not_isMatchIn_of_futile hfutile text.toList hmatch
  · intro h
    refine ⟨String.ofList p.sample, ?_⟩
    unfold isMatch
    rw [String.toList_ofList]
    exact isMatchIn_sample h

/-! ### Written patterns -/

/-- A written pattern is about tokens when it has an anchor. -/
theorem mode_ofChars_ne_anywhere_iff {raw : List Char} :
    (ofChars raw).mode ≠ .anywhere ↔ Opened raw ∨ Closed raw := by
  constructor
  · intro hmode
    by_contra hplain
    obtain ⟨ho, hc⟩ := not_or.1 hplain
    rw [ofChars_anywhere ho hc] at hmode
    exact hmode rfl
  · intro h hmode
    obtain ⟨ho, hc, -⟩ := ofChars_of_mode hmode
    exact h.elim ho hc

/-- The empty value between two anchors is written as these. -/
theorem ofChars_eq_exact_nil_iff {raw : List Char} :
    (ofChars raw).mode = .exact ∧ (ofChars raw).value = [] ↔ raw = ['^', '$'] := by
  constructor
  · rintro ⟨hmode, hvalue⟩
    rcases ofChars_cases raw with ⟨v, rfl, hread⟩ | ⟨v, -, -, hread⟩ | ⟨v, -, -, hread⟩ |
      ⟨-, -, hread⟩
    · rw [hread] at hvalue
      rw [show v = [] from hvalue, List.nil_append]
    · rw [hread] at hmode
      cases hmode
    · rw [hread] at hmode
      cases hmode
    · rw [hread] at hmode
      cases hmode
  · rintro rfl
    exact ⟨rfl, rfl⟩

/-- **How futile patterns are written**: as nothing between two anchors, or with an anchor and a
blank. -/
theorem futile_parse_iff {raw : String} :
    (parse raw).Futile ↔ raw = "^$" ∨
      (Opened raw.toList ∨ Closed raw.toList) ∧ ∃ c ∈ (parse raw).value, isBlank c := by
  unfold Futile parse
  rw [ofChars_eq_exact_nil_iff, mode_ofChars_ne_anywhere_iff]
  have hraw : raw = "^$" ↔ raw.toList = ['^', '$'] := String.toList_inj.symm
  rw [hraw]

end Pattern

/-- **Exactly which patterns forbid nothing.**  No text contains what a written pattern forbids when
it is `^$`, or when it has an anchor and its value has a blank in it, and only then. So every
pattern without anchors is found in some text, and every other one, too, whose value has no blank in
it, but for `^$`. An anchor that stands alone is among them. -/
theorem forbids_nothing_iff (raw : String) :
    ((∀ text, ¬ forbids raw text) ↔
      raw = "^$" ∨ (Pattern.Opened raw.toList ∨ Pattern.Closed raw.toList) ∧
        ∃ c ∈ (Pattern.parse raw).value, isBlank c) ∧
    (¬ Pattern.Opened raw.toList → ¬ Pattern.Closed raw.toList → ∃ text, forbids raw text) ∧
    ((∀ c ∈ (Pattern.parse raw).value, ¬ isBlank c) → raw ≠ "^$" → ∃ text, forbids raw text) ∧
    (∃ text, forbids "^" text) ∧ ∃ text, forbids "$" text := by
  have hfound : ∀ {raw : String}, (∃ text, forbids raw text) ↔ ¬ (Pattern.parse raw).Futile :=
    Pattern.exists_isMatch_iff
  have hvalue : ∀ {raw : String}, (∀ c ∈ (Pattern.parse raw).value, ¬ isBlank c) → raw ≠ "^$" →
      ∃ text, forbids raw text := by
    intro raw hblank hraw
    rw [hfound, Pattern.futile_parse_iff]
    rintro (heq | ⟨-, c, hc, hc'⟩)
    · exact hraw heq
    · exact hblank c hc hc'
  have hempty : ∀ c ∈ ([] : List Char), ¬ isBlank c := List.forall_mem_nil _
  refine ⟨?_, fun ho hc => ?_, hvalue, hvalue hempty (by simp), hvalue hempty (by simp)⟩
  · rw [← not_exists, hfound, not_not, Pattern.futile_parse_iff]
  · rw [hfound, Pattern.futile_parse_iff]
    rintro (rfl | ⟨hanchor, -⟩)
    · exact ho ⟨['$'], rfl⟩
    · exact hanchor.elim ho hc

/-- A value with a blank in it forbids nothing behind an anchor, but something without one. -/
theorem forbids_nothing_iff_twoWords :
    (∀ text, ¬ forbids "^a b" text) ∧ (∃ text, forbids "a b" text) ∧ ∃ text, forbids "^a" text := by
  have hopened : Pattern.Opened "^a b".toList := ⟨['a', ' ', 'b'], rfl⟩
  have hblank : ∃ c ∈ (Pattern.parse "^a b").value, isBlank c :=
    ⟨' ', List.mem_cons_of_mem _ List.mem_cons_self, by decide⟩
  have hletter : ∀ c ∈ ['a'], ¬ isBlank c := List.forall_mem_singleton.2 (by decide)
  refine ⟨(forbids_nothing_iff "^a b").1.2 (.inr ⟨.inl hopened, hblank⟩), ?_, ?_⟩
  · exact (forbids_nothing_iff "a b").2.1 (Pattern.afterOpening?_eq_none_iff.1 rfl)
      (Pattern.beforeClosing?_eq_none_iff.1 rfl)
  · exact (forbids_nothing_iff "^a").2.2.1 hletter (by simp)

end TemplateLint.Denylist
