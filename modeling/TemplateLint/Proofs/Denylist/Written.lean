import TemplateLint.Proofs.Denylist.Meaning

/-!
# Patterns written and read again

Reading a pattern takes off the anchors at its two ends and keeps them as the mode, and writing it
puts back the anchors of its mode. So what is read is written as it was. The other way round, the
value of a pattern may have an anchor of its own at an end where its mode writes none; written, that
one is read as an anchor of the pattern, which then has another mode. Between both anchors no such
end is left, and the value may be anything.

## Main definitions

* `Pattern.Ambiguous`: the patterns whose value has an anchor at such an end

## Main statements

* `Pattern.ofChars_eq_iff`: what is read as a pattern
* `Pattern.beforeClosing?_of_anchored`: behind the opening one of two anchors the closing one is
  left
* `Pattern.parse_inverts_render`: reading undoes writing where no pattern is ambiguous, and writing
  undoes reading everywhere
-/

namespace TemplateLint.Denylist.Pattern

variable {raw v : List Char} {p : Pattern}

/-- **Whether the value of a pattern has an anchor at an end where its mode writes none.** -/
def Ambiguous (p : Pattern) : Prop :=
  match p.mode with
  | .exact => False
  | .opening => Closed p.value
  | .closing => Opened p.value
  | .anywhere => Opened p.value ∨ Closed p.value

/-! ### Anchors beside a value -/

/-- Behind an opening anchor, what ends with the closing one is the value. -/
theorem closed_cons_iff : Closed ('^' :: v) ↔ Closed v := by
  constructor
  · intro hc
    obtain ⟨w, hw⟩ := exists_eq_of_opened_of_closed ⟨v, rfl⟩ hc
    exact ⟨w, (List.cons.inj hw).2⟩
  · rintro ⟨w, rfl⟩
    exact ⟨'^' :: w, rfl⟩

/-- Before a closing anchor, what begins with the opening one is the value. -/
theorem opened_append_iff : Opened (v ++ ['$']) ↔ Opened v := by
  constructor
  · intro ho
    obtain ⟨w, hw⟩ := exists_eq_of_opened_of_closed ho ⟨v, rfl⟩
    exact ⟨w, List.append_cancel_right (hw.trans (List.cons_append ..).symm)⟩
  · rintro ⟨w, rfl⟩
    exact ⟨w ++ ['$'], rfl⟩

/-- **Two anchors do not overlap**: behind the opening one, the closing one is still there. -/
theorem beforeClosing?_of_anchored {rest before : List Char} (ho : afterOpening? raw = some rest)
    (hc : beforeClosing? raw = some before) : ∃ v, beforeClosing? rest = some v := by
  have hraw := afterOpening?_eq_some_iff.1 ho
  subst hraw
  obtain ⟨v, hv⟩ := closed_cons_iff.1 ⟨before, beforeClosing?_eq_some_iff.1 hc⟩
  exact ⟨v, beforeClosing?_eq_some_iff.2 hv⟩

/-! ### Reading and writing -/

/-- **What is read as a pattern**: its written form and nothing else, and not even that when the
pattern is ambiguous. -/
theorem ofChars_eq_iff : ofChars raw = p ↔ raw = p.toChars ∧ ¬ p.Ambiguous := by
  constructor
  · rintro rfl
    rcases ofChars_cases raw with ⟨v, hraw, hread⟩ | ⟨v, hraw, hc, hread⟩ | ⟨v, hraw, ho, hread⟩ |
      ⟨ho, hc, hread⟩
    · rw [hread]
      exact ⟨hraw, id⟩
    · rw [hread]
      rw [hraw, closed_cons_iff] at hc
      exact ⟨hraw, hc⟩
    · rw [hread]
      rw [hraw, opened_append_iff] at ho
      exact ⟨hraw, ho⟩
    · rw [hread]
      exact ⟨rfl, not_or.2 ⟨ho, hc⟩⟩
  · rintro ⟨rfl, h⟩
    obtain ⟨mode, value⟩ := p
    cases mode with
    | exact => exact ofChars_exact value
    | opening => exact ofChars_opening fun hc => h (closed_cons_iff.1 hc)
    | closing => exact ofChars_closing fun ho => h (opened_append_iff.1 ho)
    | anywhere => exact ofChars_anywhere (fun ho => h (Or.inl ho)) fun hc => h (Or.inr hc)

/-- What is read as a pattern is written as it was. -/
theorem render_parse (raw : String) : (parse raw).render = raw := by
  have hraw : raw.toList = (parse raw).toChars := (ofChars_eq_iff.1 rfl).1
  unfold render
  rw [← hraw, String.ofList_toList]

/-- A pattern that is written is read as it was, unless it is ambiguous. -/
theorem parse_render_iff : parse p.render = p ↔ ¬ p.Ambiguous := by
  unfold parse render
  rw [String.toList_ofList, ofChars_eq_iff]
  exact and_iff_right rfl

/-- **Reading loses nothing, and writing loses what is ambiguous.**  Every text is the written form
of the pattern that it is read as, so that no two texts are read as one pattern. A pattern that is
written is read as it was exactly if its value does not end with the closing anchor where only the
opening one is written, begin with the opening one where only the closing one is written, or do one
or the other where none is written; between both anchors every value is read as it was. With both
anchors, the closing one is always found behind the opening one, and the rest is never taken as it
is. -/
theorem parse_inverts_render :
    (∀ raw : String, (parse raw).render = raw) ∧ Function.Injective parse ∧
    (∀ p : Pattern, parse p.render = p ↔
      ¬ (p.mode = .opening ∧ Closed p.value ∨ p.mode = .closing ∧ Opened p.value ∨
        p.mode = .anywhere ∧ (Opened p.value ∨ Closed p.value))) ∧
    (∀ value : List Char, parse (render ⟨.exact, value⟩) = ⟨.exact, value⟩) ∧
    ¬ ∃ raw rest before : List Char, afterOpening? raw = some rest ∧
      beforeClosing? raw = some before ∧ beforeClosing? rest = none := by
  refine ⟨render_parse, Function.LeftInverse.injective render_parse, fun p => ?_, fun value => ?_,
    ?_⟩
  · rw [parse_render_iff, not_iff_not]
    obtain ⟨mode, value⟩ := p
    cases mode <;> simp [Ambiguous]
  · exact parse_render_iff.2 id
  · rintro ⟨raw, rest, before, ho, hc, hnone⟩
    obtain ⟨v, hv⟩ := beforeClosing?_of_anchored ho hc
    rw [hnone] at hv
    cases hv

/-- The closing anchor as a value at the beginning of a token is written as the empty token. -/
example : parse (render ⟨.opening, ['$']⟩) = ⟨.exact, []⟩ := by decide

end TemplateLint.Denylist.Pattern
