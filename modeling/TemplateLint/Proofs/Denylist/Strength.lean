import TemplateLint.Proofs.Denylist.Meaning

/-!
# The strength of patterns

Of two patterns one may ask for more than the other, so that it is found only where the other one is
found, too. A pattern about the beginning or the end of a token asks that some token continues its
value on the other side, so it is found where one of the patterns for a whole token is found; and a
token stands in the text in one piece, with all that stands in it. From these three facts the modes
are ordered, with the whole token as the strongest one, and in each mode a longer value asks for
more than the part of it that the mode would look for as well.

## Main definitions

* `Pattern.Entails`: a pattern that is found only where another one is found

## Main statements

* `Pattern.isMatch_opening_iff`, `Pattern.isMatch_closing_iff`: the patterns about one end of a
  token through those about whole tokens
* `Pattern.isMatch_anywhere_of_exact`: what is a token stands in the text
* `Pattern.entails_modes`: the order of the modes, and of values in one mode
-/

namespace TemplateLint.Denylist.Pattern

/-- Whether a text that contains what one pattern forbids contains what another one forbids, too. -/
def Entails (p q : Pattern) : Prop :=
  ∀ text : String, p.isMatch text → q.isMatch text

variable {v : List Char} {text : String}

/-! ### Modes through one another -/

/-- A text has a token that begins with a value when some way to go on with it is a token. -/
theorem isMatch_opening_iff :
    isMatch ⟨.opening, v⟩ text ↔ ∃ rest, isMatch ⟨.exact, v ++ rest⟩ text := by
  simp only [isMatch, isMatchIn_iff, Asks]
  constructor
  · rintro ⟨token, htoken, rest, rfl⟩
    exact ⟨rest, _, htoken, rfl⟩
  · rintro ⟨rest, token, htoken, rfl⟩
    exact ⟨_, htoken, List.prefix_append v rest⟩

/-- A text has a token that ends with a value when some way to lead up to it is a token. -/
theorem isMatch_closing_iff :
    isMatch ⟨.closing, v⟩ text ↔ ∃ start, isMatch ⟨.exact, start ++ v⟩ text := by
  simp only [isMatch, isMatchIn_iff, Asks]
  constructor
  · rintro ⟨token, htoken, start, rfl⟩
    exact ⟨start, _, htoken, rfl⟩
  · rintro ⟨start, token, htoken, rfl⟩
    exact ⟨_, htoken, List.suffix_append start v⟩

theorem isMatch_anywhere_iff : isMatch ⟨.anywhere, v⟩ text ↔ v <:+: text.toList := by
  simp only [isMatch, isMatchIn_iff, Asks]

/-- What is a token of a text stands in the text. -/
theorem isMatch_anywhere_of_exact (h : isMatch ⟨.exact, v⟩ text) :
    isMatch ⟨.anywhere, v⟩ text := by
  rw [isMatch_anywhere_iff]
  obtain ⟨token, htoken, rfl⟩ := isMatchIn_iff.1 h
  exact htoken.isInfix

/-! ### The order -/

theorem exact_entails_opening (v : List Char) : Entails ⟨.exact, v⟩ ⟨.opening, v⟩ := by
  intro text h
  exact isMatch_opening_iff.2 ⟨[], by rwa [List.append_nil]⟩

theorem exact_entails_closing (v : List Char) : Entails ⟨.exact, v⟩ ⟨.closing, v⟩ := by
  intro text h
  exact isMatch_closing_iff.2 ⟨[], by rwa [List.nil_append]⟩

/-- What stands in a text, stands there with each part of it. -/
theorem anywhere_entails_part (u v w : List Char) :
    Entails ⟨.anywhere, u ++ v ++ w⟩ ⟨.anywhere, v⟩ := by
  intro text h
  rw [isMatch_anywhere_iff] at h ⊢
  exact List.IsInfix.trans ⟨u, w, rfl⟩ h

theorem opening_entails_anywhere (v : List Char) : Entails ⟨.opening, v⟩ ⟨.anywhere, v⟩ := by
  intro text h
  obtain ⟨rest, hexact⟩ := isMatch_opening_iff.1 h
  exact anywhere_entails_part [] v rest text (isMatch_anywhere_of_exact hexact)

theorem closing_entails_anywhere (v : List Char) : Entails ⟨.closing, v⟩ ⟨.anywhere, v⟩ := by
  intro text h
  obtain ⟨start, hexact⟩ := isMatch_closing_iff.1 h
  have hwhole : isMatch ⟨.anywhere, start ++ v ++ []⟩ text := by
    rw [List.append_nil]
    exact isMatch_anywhere_of_exact hexact
  exact anywhere_entails_part start v [] text hwhole

theorem opening_entails_beginning (u v : List Char) :
    Entails ⟨.opening, u ++ v⟩ ⟨.opening, u⟩ := by
  intro text h
  obtain ⟨rest, hexact⟩ := isMatch_opening_iff.1 h
  exact isMatch_opening_iff.2 ⟨v ++ rest, by rwa [← List.append_assoc]⟩

theorem closing_entails_end (u v : List Char) : Entails ⟨.closing, u ++ v⟩ ⟨.closing, v⟩ := by
  intro text h
  obtain ⟨start, hexact⟩ := isMatch_closing_iff.1 h
  exact isMatch_closing_iff.2 ⟨start ++ u, by rwa [List.append_assoc]⟩

/-- **The order of patterns by strength.**  A value as a whole token is the strongest pattern, at
one end of a token it is weaker on either side, and anywhere in the text it is the weakest one. For
one mode, a value is stronger than its beginnings at the beginning of a token, than its ends at the
end of one, and than each part of it anywhere. -/
theorem entails_modes (u v w : List Char) :
    (Entails ⟨.exact, v⟩ ⟨.opening, v⟩ ∧ Entails ⟨.exact, v⟩ ⟨.closing, v⟩) ∧
    (Entails ⟨.opening, v⟩ ⟨.anywhere, v⟩ ∧ Entails ⟨.closing, v⟩ ⟨.anywhere, v⟩) ∧
    Entails ⟨.opening, u ++ v⟩ ⟨.opening, u⟩ ∧
    Entails ⟨.closing, u ++ v⟩ ⟨.closing, v⟩ ∧
    Entails ⟨.anywhere, u ++ v ++ w⟩ ⟨.anywhere, v⟩ :=
  ⟨⟨exact_entails_opening v, exact_entails_closing v⟩,
    ⟨opening_entails_anywhere v, closing_entails_anywhere v⟩,
    opening_entails_beginning u v, closing_entails_end u v, anywhere_entails_part u v w⟩

end TemplateLint.Denylist.Pattern
