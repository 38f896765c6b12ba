import Mathlib.Data.List.Forall2
import TemplateLint.Linter
import TemplateLint.Proofs.Lists

/-!
# The order of findings

The findings in a template are what its rules report, element by element, put in the order of their
start. The sort is stable, so that findings which start at one place keep the order in which they
were reported.

## Main statements

* `Linter.lint_value`: the findings as a sort of what the rules report
* `Linter.pairwise_sortByStart`: the order of sorted findings, ties included
* `Linter.filter_sortByStart`: findings of one kind are sorted as if there were no others
* `Linter.sortByStart_eq_of_filter_eq`: sorting depends on the order at each place only
* `Linter.lint_eq_of_inspect_eq`: the findings depend on what each rule reports in the template
-/

namespace TemplateLint

/-- What is computed for every item depends on the results only, not on the items. -/
theorem Logged.flatMap_eq_of_forall₂ {α β γ : Type} {f : α → Logged (List γ)}
    {g : β → Logged (List γ)} {xs : List α} {ys : List β}
    (h : List.Forall₂ (fun x y => f x = g y) xs ys) : flatMap xs f = flatMap ys g := by
  induction h with
  | nil => rfl
  | cons hxy _ ih =>
      simp only [flatMap, Logged.mk.injEq] at ih ⊢
      simp only [List.flatMap_cons, hxy, ih, and_self]

namespace Linter

/-! ### Sorting diagnostics -/

theorem start_trans {α : Type} (f : α → Diagnostic) (x y z : α)
    (hxy : decide ((f x).span.start ≤ (f y).span.start))
    (hyz : decide ((f y).span.start ≤ (f z).span.start)) :
    decide ((f x).span.start ≤ (f z).span.start) := by
  simp only [decide_eq_true_eq] at *
  exact Position.le_trans hxy hyz

theorem start_total {α : Type} (f : α → Diagnostic) (x y : α) :
    decide ((f x).span.start ≤ (f y).span.start) ||
      decide ((f y).span.start ≤ (f x).span.start) := by
  simpa using Position.le_total (f x).span.start (f y).span.start

/-- Sorting by start, for items that stand for diagnostics. -/
theorem sortByStart_map {α : Type} (f : α → Diagnostic) (xs : List α) :
    sortByStart (xs.map f) =
      (xs.mergeSort fun x y => (f x).span.start ≤ (f y).span.start).map f := by
  unfold sortByStart
  rw [List.map_mergeSort]
  intro x _ y _
  rfl

/-- What leaves the place of a diagnostic as it is does not disturb the order. -/
theorem map_sortByStart {f : Diagnostic → Diagnostic} (hspan : ∀ d, (f d).span = d.span)
    (ds : List Diagnostic) : (sortByStart ds).map f = sortByStart (ds.map f) := by
  rw [sortByStart_map]
  simp only [hspan]
  rfl

/-- **The order of findings.**  Items that stand for diagnostics and are in an order `R` are sorted
by start, and by `R` among those that start at one place. -/
theorem pairwise_sortByStart {α : Type} {R : α → α → Prop} (f : α → Diagnostic) {xs : List α}
    (given : xs.Pairwise R) :
    (xs.mergeSort fun x y => (f x).span.start ≤ (f y).span.start).Pairwise fun x y =>
      (f x).span.start ≤ (f y).span.start ∧
        ((f y).span.start ≤ (f x).span.start → R x y) := by
  have hsorted := List.pairwise_mergeSort (start_trans f) (start_total f) xs
  have hstable := pairwise_mergeSort_of_tied (start_trans f) (start_total f) given
  refine (hsorted.and hstable).imp fun h => ?_
  simpa using h

/-- Diagnostics of one kind are sorted as if there were no others. -/
theorem filter_sortByStart (p : Diagnostic → Bool) (ds : List Diagnostic) :
    (sortByStart ds).filter p = sortByStart (ds.filter p) :=
  filter_mergeSort (start_trans id) (start_total id) p ds

/-- **Only the order at each place matters.**  Diagnostics are sorted alike when at every place the
same ones start, in the same order. -/
theorem sortByStart_eq_of_filter_eq {ds ds' : List Diagnostic}
    (h : ∀ place, ds.filter (·.span.start = place) = ds'.filter (·.span.start = place)) :
    sortByStart ds = sortByStart ds' := by
  refine mergeSort_eq_of_tied (start_trans id) (start_total id) fun a => ?_
  have htied : tied (fun d d' : Diagnostic => decide (d.span.start ≤ d'.span.start)) a =
      fun d => decide (d.span.start = a.span.start) := by
    funext d
    simp only [tied, ← Bool.decide_and, decide_eq_decide]
    constructor
    · rintro ⟨had, hda⟩
      exact Position.le_antisymm hda had
    · intro heq
      rw [heq]
      exact ⟨Position.le_refl _, Position.le_refl _⟩
  simpa only [id_eq, htied] using h a.span.start

theorem mem_sortByStart {d : Diagnostic} {ds : List Diagnostic} : d ∈ sortByStart ds ↔ d ∈ ds :=
  List.mem_mergeSort

/-! ### Linting -/

/-- The findings are what the rules report, one rule after the other, sorted by start. -/
theorem lint_value (l : Linter) (t : Template) (source : String) :
    (l.lint t source).value =
      ⟨sortByStart (l.rules.flatMap fun a => (a.inspect t source).value), 1⟩ :=
  rfl

/-- Templates in which every active rule finds the same have the same findings. -/
theorem lint_eq_of_inspect_eq {l : Linter} {t t' : Template} {source : String}
    (h : ∀ a ∈ l.rules, a.inspect t source = a.inspect t' source) :
    l.lint t source = l.lint t' source := by
  unfold lint
  rw [Logged.flatMap_eq_of_forall₂ (List.forall₂_same.2 h)]

end Linter

end TemplateLint
