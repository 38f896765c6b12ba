import TemplateLint.Denylist.Pattern
import TemplateLint.Proofs.Text.Tokens

/-!
# The meaning of a pattern

What a written pattern forbids depends on the anchors at its two ends. They are looked for one by
one, and no character can be both of them, so a pattern with both anchors has a value between them,
which may be empty. Anchored patterns are about tokens, the others about the text as a whole.

## Main definitions

* `Pattern.Opened`, `Pattern.Closed`: the anchors that a written pattern has

## Main statements

* `Pattern.ofChars_exact`, `Pattern.ofChars_opening`, `Pattern.ofChars_closing`,
  `Pattern.ofChars_anywhere`: how each form is read
* `Pattern.ofChars_cases`: every written pattern has one of these forms
* `Pattern.isMatchIn_iff`: what each mode asks of a text
* `forbids_empty_iff`: only the empty pattern is found in the empty text
* `forbids_iff`: what a written pattern forbids
-/

namespace TemplateLint.Denylist

open Text (IsToken mem_tokens_iff)

namespace Pattern

/-! ### Anchors -/

/-- Whether a written pattern begins with the opening anchor. -/
def Opened (raw : List Char) : Prop := ∃ v, raw = '^' :: v

/-- Whether a written pattern ends with the closing anchor. -/
def Closed (raw : List Char) : Prop := ∃ v, raw = v ++ ['$']

theorem afterOpening?_eq_some_iff {raw v : List Char} :
    afterOpening? raw = some v ↔ raw = '^' :: v := by
  unfold afterOpening?
  split
  · rename_i rest
    simp
  · rename_i hraw
    constructor
    · intro h
      cases h
    · intro h
      exact absurd h (hraw v)

theorem beforeClosing?_eq_some_iff {raw v : List Char} :
    beforeClosing? raw = some v ↔ raw = v ++ ['$'] := by
  unfold beforeClosing?
  split
  · rename_i hlast
    obtain ⟨w, rfl⟩ := List.getLast?_eq_some_iff.1 hlast
    simp
  · rename_i hlast
    constructor
    · intro h
      cases h
    · rintro rfl
      exact absurd (by simp) hlast

theorem afterOpening?_eq_none_iff {raw : List Char} : afterOpening? raw = none ↔ ¬ Opened raw := by
  rw [Option.eq_none_iff_forall_not_mem]
  simp only [Option.mem_def, afterOpening?_eq_some_iff, Opened, not_exists]

theorem beforeClosing?_eq_none_iff {raw : List Char} :
    beforeClosing? raw = none ↔ ¬ Closed raw := by
  rw [Option.eq_none_iff_forall_not_mem]
  simp only [Option.mem_def, beforeClosing?_eq_some_iff, Closed, not_exists]

/-- **Two anchors are two characters**, with a value between them. -/
theorem exists_eq_of_opened_of_closed {raw : List Char} (ho : Opened raw) (hc : Closed raw) :
    ∃ v, raw = '^' :: (v ++ ['$']) := by
  obtain ⟨v, rfl⟩ := ho
  obtain ⟨w, hw⟩ := hc
  cases w with
  | nil => simp at hw
  | cons c w =>
      obtain ⟨-, rfl⟩ := List.cons.inj hw
      exact ⟨w, rfl⟩

/-! ### Reading -/

theorem ofChars_exact (v : List Char) : ofChars ('^' :: (v ++ ['$'])) = ⟨.exact, v⟩ := by
  have ho : afterOpening? ('^' :: (v ++ ['$'])) = some (v ++ ['$']) :=
    afterOpening?_eq_some_iff.2 rfl
  have hc : beforeClosing? ('^' :: (v ++ ['$'])) = some ('^' :: v) :=
    beforeClosing?_eq_some_iff.2 rfl
  have hrest : beforeClosing? (v ++ ['$']) = some v := beforeClosing?_eq_some_iff.2 rfl
  simp only [ofChars, ho, hc, hrest, Option.getD_some]

theorem ofChars_opening {v : List Char} (h : ¬ Closed ('^' :: v)) :
    ofChars ('^' :: v) = ⟨.opening, v⟩ := by
  have ho : afterOpening? ('^' :: v) = some v := afterOpening?_eq_some_iff.2 rfl
  simp only [ofChars, ho, beforeClosing?_eq_none_iff.2 h]

theorem ofChars_closing {v : List Char} (h : ¬ Opened (v ++ ['$'])) :
    ofChars (v ++ ['$']) = ⟨.closing, v⟩ := by
  have hc : beforeClosing? (v ++ ['$']) = some v := beforeClosing?_eq_some_iff.2 rfl
  simp only [ofChars, afterOpening?_eq_none_iff.2 h, hc]

theorem ofChars_anywhere {raw : List Char} (ho : ¬ Opened raw) (hc : ¬ Closed raw) :
    ofChars raw = ⟨.anywhere, raw⟩ := by
  simp only [ofChars, afterOpening?_eq_none_iff.2 ho, beforeClosing?_eq_none_iff.2 hc]

/-- **How a written pattern is read**: by the anchors that it has. -/
theorem ofChars_cases (raw : List Char) :
    (∃ v, raw = '^' :: (v ++ ['$']) ∧ ofChars raw = ⟨.exact, v⟩) ∨
      (∃ v, raw = '^' :: v ∧ ¬ Closed raw ∧ ofChars raw = ⟨.opening, v⟩) ∨
      (∃ v, raw = v ++ ['$'] ∧ ¬ Opened raw ∧ ofChars raw = ⟨.closing, v⟩) ∨
      (¬ Opened raw ∧ ¬ Closed raw ∧ ofChars raw = ⟨.anywhere, raw⟩) := by
  by_cases ho : Opened raw
  · by_cases hc : Closed raw
    · obtain ⟨v, rfl⟩ := exists_eq_of_opened_of_closed ho hc
      exact Or.inl ⟨v, rfl, ofChars_exact v⟩
    · obtain ⟨v, rfl⟩ := ho
      exact Or.inr (Or.inl ⟨v, rfl, hc, ofChars_opening hc⟩)
  · by_cases hc : Closed raw
    · obtain ⟨v, rfl⟩ := hc
      exact Or.inr (Or.inr (Or.inl ⟨v, rfl, ho, ofChars_closing ho⟩))
    · exact Or.inr (Or.inr (Or.inr ⟨ho, hc, ofChars_anywhere ho hc⟩))

/-- Only what has no anchors is looked for anywhere, and it is looked for as it is written. -/
theorem ofChars_of_mode {raw : List Char} (h : (ofChars raw).mode = .anywhere) :
    ¬ Opened raw ∧ ¬ Closed raw ∧ (ofChars raw).value = raw := by
  rcases ofChars_cases raw with ⟨v, -, hread⟩ | ⟨v, -, -, hread⟩ | ⟨v, -, -, hread⟩ |
    ⟨ho, hc, hread⟩
  · rw [hread] at h
    cases h
  · rw [hread] at h
    cases h
  · rw [hread] at h
    cases h
  · exact ⟨ho, hc, by rw [hread]⟩

/-! ### Matching -/

theorem occursIn_iff {part text : List Char} : occursIn part text ↔ part <:+: text := by
  induction text with
  | nil => simp [occursIn, List.infix_nil]
  | cons c cs ih => rw [occursIn, Bool.or_eq_true, List.isPrefixOf_iff_prefix, ih,
      List.infix_cons_iff]

/-- What the mode of a pattern asks of a text. -/
def Asks (p : Pattern) (text : List Char) : Prop :=
  match p.mode with
  | .exact => ∃ token, IsToken token text ∧ token = p.value
  | .opening => ∃ token, IsToken token text ∧ p.value <+: token
  | .closing => ∃ token, IsToken token text ∧ p.value <:+ token
  | .anywhere => p.value <:+: text

/-- **A pattern matches what its mode asks for.** -/
theorem isMatchIn_iff {p : Pattern} {text : List Char} : p.isMatchIn text ↔ p.Asks text := by
  obtain ⟨mode, value⟩ := p
  cases mode with
  | exact => simp [isMatchIn, Asks, mem_tokens_iff]
  | opening => simp [isMatchIn, Asks, mem_tokens_iff]
  | closing => simp [isMatchIn, Asks, mem_tokens_iff]
  | anywhere => exact occursIn_iff

/-- The empty text has no tokens, so that only the empty value without anchors stands in it. -/
theorem isMatchIn_nil_iff {p : Pattern} : p.isMatchIn [] ↔ p.mode = .anywhere ∧ p.value = [] := by
  have htokens : Text.tokens [] = [] := rfl
  obtain ⟨mode, value⟩ := p
  cases mode with
  | exact => simp [isMatchIn, htokens]
  | opening => simp [isMatchIn, htokens]
  | closing => simp [isMatchIn, htokens]
  | anywhere => simp [isMatchIn, occursIn_iff, List.infix_nil]

end Pattern

/-- **In the empty text only the empty pattern is found.** -/
theorem forbids_empty_iff {raw : String} : forbids raw "" ↔ raw = "" := by
  unfold forbids Pattern.parse Pattern.isMatch
  rw [String.toList_empty, Pattern.isMatchIn_nil_iff]
  constructor
  · rintro ⟨hmode, hvalue⟩
    obtain ⟨-, -, hraw⟩ := Pattern.ofChars_of_mode hmode
    rw [hraw] at hvalue
    exact String.toList_eq_nil_iff.1 hvalue
  · rintro rfl
    exact ⟨rfl, rfl⟩

/-- **The meaning of a pattern.**  Between both anchors it is a token of the text, behind the
opening one it begins a token, before the closing one it ends a token, and without anchors it stands
anywhere in the text. -/
theorem forbids_iff (raw text : String) :
    forbids raw text ↔
      (∃ v, raw.toList = '^' :: (v ++ ['$']) ∧ ∃ token, IsToken token text.toList ∧ token = v) ∨
      (∃ v, raw.toList = '^' :: v ∧ ¬ Pattern.Closed raw.toList ∧
        ∃ token, IsToken token text.toList ∧ v <+: token) ∨
      (∃ v, raw.toList = v ++ ['$'] ∧ ¬ Pattern.Opened raw.toList ∧
        ∃ token, IsToken token text.toList ∧ v <:+ token) ∨
      (¬ Pattern.Opened raw.toList ∧ ¬ Pattern.Closed raw.toList ∧
        raw.toList <:+: text.toList) := by
  unfold forbids Pattern.parse Pattern.isMatch
  rw [Pattern.isMatchIn_iff]
  generalize raw.toList = raw
  by_cases ho : Pattern.Opened raw
  · by_cases hc : Pattern.Closed raw
    · obtain ⟨v, rfl⟩ := Pattern.exists_eq_of_opened_of_closed ho hc
      rw [Pattern.ofChars_exact]
      simp [ho, hc, Pattern.Asks]
    · obtain ⟨v, rfl⟩ := ho
      have ho : Pattern.Opened ('^' :: v) := ⟨v, rfl⟩
      have hexact : ∀ w, '^' :: v ≠ '^' :: (w ++ ['$']) := fun w h => hc ⟨'^' :: w, h⟩
      rw [Pattern.ofChars_opening hc]
      simp [ho, hc, hexact, Pattern.Asks]
  · have hopen : ∀ w, raw ≠ '^' :: w := fun w h => ho ⟨w, h⟩
    by_cases hc : Pattern.Closed raw
    · obtain ⟨v, rfl⟩ := hc
      have hc : Pattern.Closed (v ++ ['$']) := ⟨v, rfl⟩
      rw [Pattern.ofChars_closing ho]
      simp [ho, hc, hopen, Pattern.Asks]
    · have hclose : ∀ w, raw ≠ w ++ ['$'] := fun w h => hc ⟨w, h⟩
      rw [Pattern.ofChars_anywhere ho hc]
      simp [ho, hc, hopen, hclose, Pattern.Asks]

end TemplateLint.Denylist
