import Mathlib.Data.List.Forall2
import TemplateLint.Denylist.Rule
import TemplateLint.Proofs.Linter.Order

/-!
# The source shows only in quotations

A denylist reads the tree of a template. The source of the template goes along with the tree, and
its only use is to be quoted: of two sources of one tree, the findings differ in the quotations and
in nothing else.

## Main definitions

* `Diagnostic.unquoted`, `Findings.unquoted`: what is found, without the quotations
* `Diagnostic.AgreeButSource`: two diagnostics that differ in their quotations at most
* `Linter.DenylistsOnly`: the linters all of whose rules are denylists

## Main statements

* `Linter.unquoted_lint`: the findings of such a linter are the same for any two sources
* `Findings.forall₂_of_unquoted_eq`: then they agree one by one
-/

namespace TemplateLint

/-! ### Diagnostics without quotations -/

/-- A diagnostic without its quotation. -/
def Diagnostic.unquoted (d : Diagnostic) : Diagnostic :=
  { d with source := "" }

/-- Whether two diagnostics agree on everything but the source that they quote. -/
def Diagnostic.AgreeButSource (d d' : Diagnostic) : Prop :=
  { d with source := d'.source } = d'

theorem Diagnostic.agreeButSource_of_unquoted_eq {d d' : Diagnostic}
    (h : d.unquoted = d'.unquoted) : d.AgreeButSource d' := by
  cases d
  cases d'
  cases h
  rfl

namespace Findings

/-- Findings without their quotations. -/
def unquoted (f : Findings) : Findings :=
  { f with diagnostics := f.diagnostics.map Diagnostic.unquoted }

theorem unquoted_extend (f g : Findings) :
    (f.extend g).unquoted = f.unquoted.extend g.unquoted := by
  simp only [unquoted, extend, List.map_append]

theorem unquoted_inFile (f : Findings) (path : String) :
    (f.inFile path).unquoted = f.unquoted.inFile path := by
  simp only [unquoted, inFile, List.map_map]
  rfl

theorem count_unquoted (f : Findings) (s : Severity) : f.unquoted.count s = f.count s := by
  unfold count unquoted
  rw [List.countP_map]
  rfl

theorem tally_unquoted (f : Findings) : f.unquoted.tally = f.tally := by
  simp only [tally, count_unquoted]

theorem hasErrors_unquoted (f : Findings) : f.unquoted.hasErrors = f.hasErrors := by
  rw [Bool.eq_iff_iff, hasErrors_iff, hasErrors_iff, count_unquoted]

/-- Findings that are the same without quotations agree one by one, on all but the quotations. -/
theorem forall₂_of_unquoted_eq {f g : Findings} (h : f.unquoted = g.unquoted) :
    List.Forall₂ Diagnostic.AgreeButSource f.diagnostics g.diagnostics := by
  have hmap : f.diagnostics.map Diagnostic.unquoted = g.diagnostics.map Diagnostic.unquoted :=
    congrArg diagnostics h
  rw [← List.forall₂_eq_eq_eq, List.forall₂_map_left_iff, List.forall₂_map_right_iff] at hmap
  exact hmap.imp fun _ _ => Diagnostic.agreeButSource_of_unquoted_eq

end Findings

/-! ### Rules and linters -/

/-- What the rule of a denylist reports, without the quotations. -/
theorem Denylist.unquoted_visit (d : Denylist) (name : String) (severity : Severity)
    (s₁ s₂ : String) (e : Element) :
    (d.visit ⟨name, severity, s₁⟩ e).value.map Diagnostic.unquoted =
      (d.visit ⟨name, severity, s₂⟩ e).value.map Diagnostic.unquoted := by
  unfold visit
  simp only [List.map_map]
  rfl

theorem Denylist.unquoted_inspect (d : Denylist) (severity : Severity) (t : Template)
    (s₁ s₂ : String) :
    ((⟨d.rule, severity⟩ : ActiveRule).inspect t s₁).value.map Diagnostic.unquoted =
      ((⟨d.rule, severity⟩ : ActiveRule).inspect t s₂).value.map Diagnostic.unquoted := by
  unfold ActiveRule.inspect Logged.flatMap
  simp only [List.map_flatMap]
  refine List.flatMap_congr fun e _ => ?_
  exact d.unquoted_visit ruleName severity s₁ s₂ e

namespace Linter

/-- A linter all of whose rules are those of denylists. -/
def DenylistsOnly (l : Linter) : Prop :=
  ∀ a ∈ l.rules, ∃ d : Denylist, a.rule = d.rule

/-- **The source shows only in quotations.**  A linter of denylists finds the same in a template,
whatever its source is, apart from what the findings quote. -/
theorem unquoted_lint {l : Linter} (h : l.DenylistsOnly) (t : Template) (s₁ s₂ : String) :
    (l.lint t s₁).value.unquoted = (l.lint t s₂).value.unquoted := by
  have hfound : (l.rules.flatMap fun a => (a.inspect t s₁).value).map Diagnostic.unquoted =
      (l.rules.flatMap fun a => (a.inspect t s₂).value).map Diagnostic.unquoted := by
    simp only [List.map_flatMap]
    refine List.flatMap_congr fun a ha => ?_
    obtain ⟨d, hd⟩ := h a ha
    obtain ⟨rule, severity⟩ := a
    obtain rfl : rule = d.rule := hd
    exact d.unquoted_inspect severity t s₁ s₂
  have hsort := map_sortByStart (f := Diagnostic.unquoted) fun _ => rfl
  simp only [lint_value, Findings.unquoted, hsort, hfound]

end Linter

end TemplateLint
