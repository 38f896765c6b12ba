import TemplateLint.Proofs.Lists
import TemplateLint.Text.Basic

/-!
# Tokens as longest runs

Tokens are found by cutting a text at its blank characters. What a token is can be said without
cutting: it is a run of characters that are not blank, and that could not be longer on either side.
Both are the same because cutting at one separator leaves the pieces before it and those after it.

## Main definitions

* `Text.IsPiece`: a run without separators, between two of them or at an end of the text
* `Text.IsToken`: a longest run of characters that are not blank

## Main statements

* `Text.mem_splitOnP_iff`: the pieces of a text are exactly such runs
* `Text.mem_tokens_iff`: the tokens of a text are exactly its longest runs
* `Text.tokens_intercalate`: the tokens of texts joined by a blank are those of the texts
-/

namespace TemplateLint.Text

section

variable {p : Char → Bool} {piece cs : List Char}

/-! ### Pieces -/

/-- Whether a run without separators stands in a text such that what is before it is empty or ends
in a separator, and what is after it is empty or begins with one. -/
structure IsPiece (p : Char → Bool) (piece cs : List Char) : Prop where
  no_separator : ∀ c ∈ piece, ¬ p c
  bounded : ∃ before after, cs = before ++ piece ++ after ∧
    (∀ c ∈ before.getLast?, p c) ∧ (∀ c ∈ after.head?, p c)

/-- What stands between separators is found by cutting. -/
theorem IsPiece.mem_splitOnP (h : IsPiece p piece cs) : piece ∈ cs.splitOnP p := by
  obtain ⟨hpiece, before, after, rfl, hbefore, hafter⟩ := h
  have hone : piece.splitOnP p = [piece] :=
    List.splitOnP_eq_singleton fun c hc => Bool.eq_false_iff.2 (hpiece c hc)
  have hbehind : piece ∈ (piece ++ after).splitOnP p := by
    cases after with
    | nil => simp [hone]
    | cons s after =>
        rw [List.splitOnP_append_cons _ _ (hafter s rfl), hone]
        exact List.mem_append_left _ (List.mem_singleton.2 rfl)
  rcases List.eq_nil_or_concat before with rfl | ⟨before, s, rfl⟩
  · exact hbehind
  · have hs : p s := hbefore s (by simp)
    rw [List.concat_eq_append, List.append_assoc, List.append_assoc, List.singleton_append,
      List.splitOnP_append_cons _ _ hs]
    exact List.mem_append_right _ hbehind

/-- What cutting finds stands between separators.  The induction goes from one separator to the
next one. -/
theorem isPiece_of_mem_splitOnP {cs : List Char} (h : piece ∈ cs.splitOnP p) :
    IsPiece p piece cs := by
  by_cases hcs : ∃ c ∈ cs, p c
  · obtain ⟨first, s, rest, heq, hfirst, hs⟩ := exists_first hcs
    rw [heq, List.splitOnP_append_cons_of_forall_mem
      (fun c hc => Bool.eq_false_iff.2 (hfirst c hc)) s hs] at h
    rcases List.mem_cons.1 h with rfl | hmem
    · exact ⟨hfirst, [], s :: rest, heq, by simp, by simpa using hs⟩
    · have hshorter : rest.length < cs.length := by
        rw [heq, List.length_append, List.length_cons]
        omega
      obtain ⟨hpiece, before, after, hrest, hbefore, hafter⟩ := isPiece_of_mem_splitOnP hmem
      refine ⟨hpiece, first ++ s :: before, after, by simp [heq, hrest], ?_, hafter⟩
      intro c hc
      cases before with
      | nil =>
          obtain rfl : s = c := by simpa using hc
          exact hs
      | cons b before =>
          refine hbefore c ?_
          simpa [List.getLast?_append, List.getLast?_cons] using hc
  · have hnone : ∀ c ∈ cs, ¬ p c := fun c hc hp => hcs ⟨c, hc, hp⟩
    rw [List.splitOnP_eq_singleton fun c hc => Bool.eq_false_iff.2 (hnone c hc)] at h
    obtain rfl := List.mem_singleton.1 h
    exact ⟨hnone, [], [], by simp, by simp, by simp⟩
termination_by cs.length

/-- **The pieces of a text are its runs between separators.** -/
theorem mem_splitOnP_iff : piece ∈ cs.splitOnP p ↔ IsPiece p piece cs :=
  ⟨isPiece_of_mem_splitOnP, IsPiece.mem_splitOnP⟩

end

/-! ### Tokens -/

/-- **Whether a run of characters is a token of a text**: it is not empty, holds no blank, and
stands in the text such that what is before it is empty or ends in a blank, and what is after it is
empty or begins with one. -/
structure IsToken (token cs : List Char) : Prop extends IsPiece isBlank token cs where
  ne_nil : token ≠ []

/-- **The tokens of a text are its longest runs of characters that are not blank.** -/
theorem mem_tokens_iff {token cs : List Char} : token ∈ tokens cs ↔ IsToken token cs := by
  unfold tokens
  rw [List.mem_filter, mem_splitOnP_iff]
  constructor
  · rintro ⟨hpiece, hne⟩
    exact ⟨hpiece, by simpa using hne⟩
  · intro h
    exact ⟨h.toIsPiece, by simpa using h.ne_nil⟩

/-- A token stands in its text as it is, in one piece. -/
theorem IsToken.isInfix {token cs : List Char} (h : IsToken token cs) : token <:+: cs := by
  obtain ⟨before, after, heq, -⟩ := h.bounded
  exact ⟨before, after, heq.symm⟩

/-- A text that is neither empty nor holds a blank is a token of itself. -/
theorem isToken_self {cs : List Char} (hne : cs ≠ []) (hblank : ∀ c ∈ cs, ¬ isBlank c) :
    IsToken cs cs where
  no_separator := hblank
  bounded := ⟨[], [], by simp⟩
  ne_nil := hne

/-! ### Joined texts -/

/-- A blank parts the tokens before it from those behind it. -/
theorem tokens_append_cons {s : Char} (hs : isBlank s) (xs ys : List Char) :
    tokens (xs ++ s :: ys) = tokens xs ++ tokens ys := by
  unfold tokens
  rw [List.splitOnP_append_cons _ _ hs, List.filter_append]

/-- **The tokens of texts joined by a blank** are those of the texts, one text after the other. -/
theorem tokens_intercalate {s : Char} (hs : isBlank s) (texts : List (List Char)) :
    tokens ([s].intercalate texts) = texts.flatMap tokens := by
  induction texts with
  | nil => rfl
  | cons text rest ih =>
      cases rest with
      | nil => simp
      | cons next more =>
          rw [List.intercalate_cons_cons, List.append_assoc, List.singleton_append,
            tokens_append_cons hs, ih, ← List.flatMap_cons]

end TemplateLint.Text
