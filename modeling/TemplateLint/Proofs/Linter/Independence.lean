import TemplateLint.Denylist.Rule
import TemplateLint.Proofs.Linter.Order

/-!
# Rules do not disturb each other

All rules of a linter report into one list, which is sorted as a whole. Still each of them finds
what it would find alone: a rule is told the name under which it runs, what it reports bears that
name, and a stable sort neither mixes up nor loses the diagnostics of one name.

## Main definitions

* `Scope.Issued`: the diagnostics that a scope has started
* `Rule.ReportsIssued`: the rules that report no others

## Main statements

* `Linter.filter_lint`: the diagnostics of one rule among those of all rules
* `Linter.lint_filter_rule`: they are those of the rule alone, whatever rules stand beside it
-/

namespace TemplateLint

/-! ### Reporting under one's own name -/

/-- Whether a diagnostic was started by a scope: the scope sets the rule and the severity, and all
else is up to the rule. -/
structure Scope.Issued (s : Scope) (d : Diagnostic) : Prop where
  rule_eq : d.rule = s.rule
  severity_eq : d.severity = s.severity

/-- A diagnostic that a scope has started stays one when its text, place and the like change. -/
theorem Scope.issued_diagnostic (s : Scope) (span : Span) (message source : String)
    (isFixable : Bool) (file : Option String) :
    s.Issued { s.diagnostic span message with source, isFixable, file } :=
  ⟨rfl, rfl⟩

/-- Whether a rule reports only what the scope of its visit has started. -/
def Rule.ReportsIssued (r : Rule) : Prop :=
  ∀ (s : Scope) (e : Element), ∀ d ∈ (r.visit s e).value, s.Issued d

/-- The rule of a denylist reports only what was started for it. -/
theorem Denylist.reportsIssued_rule (d : Denylist) : d.rule.ReportsIssued := by
  intro s e diagnostic h
  obtain ⟨⟨entry, o⟩, -, rfl⟩ := List.mem_map.1 h
  exact s.issued_diagnostic o.target.loc (message o.pattern entry.name) (s.quote e.loc) false none

/-- What an active rule finds bears its name. -/
theorem ActiveRule.rule_eq_of_mem_inspect {a : ActiveRule} (issued : a.rule.ReportsIssued)
    {t : Template} {source : String} {d : Diagnostic} (h : d ∈ (a.inspect t source).value) :
    d.rule = a.rule.name := by
  obtain ⟨e, -, hd⟩ := List.mem_flatMap.1 h
  exact (issued _ e d hd).rule_eq

/-- Under its own name an active rule finds all that it finds. -/
theorem ActiveRule.filter_inspect_self {a : ActiveRule} (issued : a.rule.ReportsIssued)
    (t : Template) (source : String) :
    ((a.inspect t source).value.filter fun d => d.rule = a.rule.name) =
      (a.inspect t source).value := by
  refine List.filter_eq_self.2 fun d hd => ?_
  rw [a.rule_eq_of_mem_inspect issued hd]
  exact decide_eq_true rfl

/-- Under another name an active rule finds nothing. -/
theorem ActiveRule.filter_inspect_of_ne {a : ActiveRule} (issued : a.rule.ReportsIssued)
    {name : String} (h : a.rule.name ≠ name) (t : Template) (source : String) :
    ((a.inspect t source).value.filter fun d => d.rule = name) = [] := by
  refine List.filter_eq_nil_iff.2 fun d hd => ?_
  rw [a.rule_eq_of_mem_inspect issued hd]
  simpa using h

/-! ### Several rules -/

namespace Linter

/-- The rules of a linter have different names, and report only what was started for them. -/
structure Orderly (l : Linter) : Prop where
  distinct : l.names.Nodup
  issued : ∀ a ∈ l.rules, a.rule.ReportsIssued

/-- No rule but one has its name. -/
theorem Orderly.name_ne {before after : List ActiveRule} {a : ActiveRule}
    (h : Orderly ⟨before ++ a :: after⟩) : ∀ b ∈ before ++ after, b.rule.name ≠ a.rule.name := by
  have hperm : (before ++ a :: after).Perm (a :: (before ++ after)) := List.perm_middle
  have hnodup : ((a :: (before ++ after)).map (·.rule.name)).Nodup :=
    (hperm.map _).nodup_iff.1 h.distinct
  rw [List.map_cons, List.nodup_cons] at hnodup
  intro b hb heq
  exact hnodup.1 (heq ▸ List.mem_map_of_mem hb)

/-- The findings of one rule among the findings of all of them, before they are sorted. -/
theorem filter_flatMap_inspect {l : Linter} (h : l.Orderly) {a : ActiveRule} (ha : a ∈ l.rules)
    (t : Template) (source : String) :
    ((l.rules.flatMap fun b => (b.inspect t source).value).filter fun d => d.rule = a.rule.name) =
      (a.inspect t source).value := by
  obtain ⟨rules⟩ := l
  obtain ⟨before, after, rfl⟩ := List.append_of_mem ha
  have hothers : ∀ b ∈ before ++ after,
      ((b.inspect t source).value.filter fun d => d.rule = a.rule.name) = [] := by
    intro b hb
    have hmem : b ∈ before ++ a :: after := by
      rcases List.mem_append.1 hb with hb | hb
      · exact List.mem_append_left _ hb
      · exact List.mem_append_right _ (List.mem_cons_of_mem a hb)
    exact b.filter_inspect_of_ne (h.issued b hmem) (h.name_ne b hb) t source
  have hbefore : (before.flatMap fun b =>
      (b.inspect t source).value.filter fun d => d.rule = a.rule.name) = [] :=
    List.flatMap_eq_nil_iff.2 fun b hb => hothers b (List.mem_append_left _ hb)
  have hafter : (after.flatMap fun b =>
      (b.inspect t source).value.filter fun d => d.rule = a.rule.name) = [] :=
    List.flatMap_eq_nil_iff.2 fun b hb => hothers b (List.mem_append_right _ hb)
  rw [List.filter_flatMap, List.flatMap_append, List.flatMap_cons, hbefore, hafter,
    a.filter_inspect_self (h.issued a ha), List.nil_append, List.append_nil]

/-- The diagnostics of one rule among those of all rules are the diagnostics of the rule alone. -/
theorem filter_lint {l : Linter} (h : l.Orderly) {a : ActiveRule} (ha : a ∈ l.rules)
    (t : Template) (source : String) :
    ((l.lint t source).value.diagnostics.filter fun d => d.rule = a.rule.name) =
      (lint ⟨[a]⟩ t source).value.diagnostics := by
  rw [lint_value, lint_value]
  simp only [List.flatMap_cons, List.flatMap_nil, List.append_nil]
  rw [filter_sortByStart, filter_flatMap_inspect h ha]

/-- Every diagnostic is one of some rule. -/
theorem exists_rule_of_mem_lint {l : Linter} (h : l.Orderly) {t : Template} {source : String}
    {d : Diagnostic} (hd : d ∈ (l.lint t source).value.diagnostics) :
    ∃ a ∈ l.rules, d.rule = a.rule.name := by
  rw [lint_value, mem_sortByStart] at hd
  obtain ⟨a, ha, hd⟩ := List.mem_flatMap.1 hd
  exact ⟨a, ha, a.rule_eq_of_mem_inspect (h.issued a ha) hd⟩

/-- **Rules do not disturb each other.**  Of the diagnostics of a linter those of one rule are what
the rule finds alone, in the same order, and there are no diagnostics beside those of its rules. So
they are the same in every linter that runs the rule, whatever other rules it runs and wherever
the rule stands among them. -/
theorem lint_filter_rule {l : Linter} (h : l.Orderly) (t : Template) (source : String) :
    (∀ a ∈ l.rules, ((l.lint t source).value.diagnostics.filter fun d => d.rule = a.rule.name) =
        (lint ⟨[a]⟩ t source).value.diagnostics) ∧
      (∀ d ∈ (l.lint t source).value.diagnostics, ∃ a ∈ l.rules, d.rule = a.rule.name) ∧
      ∀ l' : Linter, l'.Orderly → ∀ a ∈ l.rules, a ∈ l'.rules →
        ((l'.lint t source).value.diagnostics.filter fun d => d.rule = a.rule.name) =
          (l.lint t source).value.diagnostics.filter fun d => d.rule = a.rule.name := by
  refine ⟨fun a ha => filter_lint h ha t source, fun d hd => exists_rule_of_mem_lint h hd, ?_⟩
  intro l' h' a ha ha'
  rw [filter_lint h ha, filter_lint h' ha']

/-- A rule that reports the tag of every element. -/
def tagRule : Rule where
  name := "tags"
  visit s e := ⟨[s.diagnostic e.loc e.tag], []⟩

/-- A linter that reports tags and forbids an identifier. -/
def tagsAndDenylist : Linter :=
  ⟨[⟨tagRule, .warning⟩, ⟨Denylist.rule ⟨[⟨"id", ["x"]⟩]⟩, .error⟩]⟩

theorem orderly_tagsAndDenylist : tagsAndDenylist.Orderly where
  distinct := by decide
  issued a ha := by
    rcases List.mem_cons.1 ha with rfl | ha
    · intro s e d hd
      obtain rfl := List.mem_singleton.1 hd
      exact ⟨rfl, rfl⟩
    · obtain rfl := List.mem_singleton.1 ha
      exact Denylist.reportsIssued_rule _

/-- An element whose identifier is forbidden, and another one at the same place. -/
def twoAtOnePlace : Template :=
  ⟨[.element "p" [⟨"id", .literal ⟨"x", Span.unknown⟩, Span.unknown⟩] [] Span.unknown,
    .element "q" [⟨"id", .literal ⟨"xy", Span.unknown⟩, Span.unknown⟩] [] Span.unknown]⟩

theorem lint_filter_rule_tagsAndDenylist :
    tagsAndDenylist.Orderly ∧
      (∀ a ∈ tagsAndDenylist.rules,
        ((tagsAndDenylist.lint twoAtOnePlace "").value.diagnostics.filter
            fun d => d.rule = a.rule.name) =
          (lint ⟨[a]⟩ twoAtOnePlace "").value.diagnostics) ∧
      (∀ d ∈ (tagsAndDenylist.lint twoAtOnePlace "").value.diagnostics,
        ∃ a ∈ tagsAndDenylist.rules, d.rule = a.rule.name) ∧
      ∀ l' : Linter, l'.Orderly → ∀ a ∈ tagsAndDenylist.rules, a ∈ l'.rules →
        ((l'.lint twoAtOnePlace "").value.diagnostics.filter fun d => d.rule = a.rule.name) =
          (tagsAndDenylist.lint twoAtOnePlace "").value.diagnostics.filter
            fun d => d.rule = a.rule.name :=
  ⟨orderly_tagsAndDenylist, lint_filter_rule orderly_tagsAndDenylist twoAtOnePlace ""⟩

end Linter

end TemplateLint
