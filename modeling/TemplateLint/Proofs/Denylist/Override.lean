import Mathlib.Data.List.Forall2
import TemplateLint.Proofs.Denylist.Normal
import TemplateLint.Proofs.Linter.Build
import TemplateLint.Proofs.Linter.Order

/-!
# Severities only label findings

A setting may give a rule a severity in place of its own. The options go to the provider of the rule
without it, so that it has no part in their validation. A denylist finds the severity in the scope
of each visit and only hands it on to what it reports; and a sort by start does not look at it.
Under two severities the same is found, and each finding bears the severity of its run.

## Main definitions

* `Diagnostic.atSeverity`, `Findings.atSeverity`, `Linter.atSeverity`: the same at another severity
* `Findings.SameBut`: findings that are the same but for their severities
* `Rule.HandsOnSeverity`: the rules that do nothing else with a severity
* `Blueprint.ofOverride`: a linter for a rule whose setting names a severity

## Main statements

* `Linter.lint_atSeverity`: linters of such rules find the same at any severity
* `Blueprint.build_ofOverride`: the severity does not decide whether a linter is built
* `Denylist.override_labels`: what a denylist finds under two severities
-/

namespace TemplateLint

/-! ### Findings at a severity -/

/-- A diagnostic at another severity. -/
def Diagnostic.atSeverity (s : Severity) (d : Diagnostic) : Diagnostic :=
  { d with severity := s }

/-- Whether two diagnostics agree on everything but the severity. -/
def Diagnostic.AgreeButSeverity (d d' : Diagnostic) : Prop :=
  { d with severity := d'.severity } = d'

theorem Diagnostic.agreeButSeverity_atSeverity (d : Diagnostic) (s₁ s₂ : Severity) :
    (d.atSeverity s₁).AgreeButSeverity (d.atSeverity s₂) :=
  rfl

namespace Findings

/-- Findings at another severity. -/
def atSeverity (s : Severity) (f : Findings) : Findings :=
  { f with diagnostics := f.diagnostics.map (Diagnostic.atSeverity s) }

/-- **Findings that are the same but for their severities**: they agree one by one, and those on
either side bear one severity each. -/
structure SameBut (s₁ s₂ : Severity) (f₁ f₂ : Findings) : Prop where
  agree : List.Forall₂ Diagnostic.AgreeButSeverity f₁.diagnostics f₂.diagnostics
  templatesChecked_eq : f₁.templatesChecked = f₂.templatesChecked
  severity_left : ∀ d ∈ f₁.diagnostics, d.severity = s₁
  severity_right : ∀ d ∈ f₂.diagnostics, d.severity = s₂

theorem severity_of_mem_atSeverity {f : Findings} {s : Severity} {d : Diagnostic}
    (h : d ∈ (f.atSeverity s).diagnostics) : d.severity = s := by
  obtain ⟨d₀, -, rfl⟩ := List.mem_map.1 h
  rfl

/-- Any findings are the same at any two severities. -/
theorem sameBut_atSeverity (f : Findings) (s₁ s₂ : Severity) :
    SameBut s₁ s₂ (f.atSeverity s₁) (f.atSeverity s₂) where
  agree := by
    unfold atSeverity
    rw [List.forall₂_map_left_iff, List.forall₂_map_right_iff]
    exact List.forall₂_same.2 fun d _ => d.agreeButSeverity_atSeverity s₁ s₂
  templatesChecked_eq := rfl
  severity_left _ := severity_of_mem_atSeverity
  severity_right _ := severity_of_mem_atSeverity

/-- Among findings of one severity there are errors when there are findings and they are errors. -/
theorem hasErrors_iff_of_severity {f : Findings} {s : Severity}
    (h : ∀ d ∈ f.diagnostics, d.severity = s) :
    f.hasErrors ↔ s = .error ∧ f.diagnostics ≠ [] := by
  unfold hasErrors
  rw [List.any_eq_true]
  constructor
  · rintro ⟨d, hd, herror⟩
    exact ⟨(h d hd).symm.trans (of_decide_eq_true herror), List.ne_nil_of_mem hd⟩
  · rintro ⟨rfl, hne⟩
    obtain ⟨d, hd⟩ := List.exists_mem_of_ne_nil _ hne
    exact ⟨d, hd, decide_eq_true (h d hd)⟩

end Findings

/-! ### Rules and linters at a severity -/

/-- Whether a rule does nothing with the severity of a visit but hand it on to what it reports. -/
def Rule.HandsOnSeverity (r : Rule) : Prop :=
  ∀ (scope : Scope) (s : Severity) (e : Element),
    (r.visit { scope with severity := s } e).value =
      (r.visit scope e).value.map (Diagnostic.atSeverity s)

theorem Denylist.handsOnSeverity_rule (d : Denylist) : d.rule.HandsOnSeverity := by
  intro scope s e
  change (d.offences e).map _ = ((d.offences e).map _).map _
  rw [List.map_map]
  rfl

/-- An active rule at another severity. -/
def ActiveRule.atSeverity (s : Severity) (a : ActiveRule) : ActiveRule :=
  { a with severity := s }

theorem ActiveRule.inspect_atSeverity {a : ActiveRule} (h : a.rule.HandsOnSeverity) (s : Severity)
    (t : Template) (source : String) :
    ((a.atSeverity s).inspect t source).value =
      (a.inspect t source).value.map (Diagnostic.atSeverity s) := by
  unfold inspect Logged.flatMap
  simp only [List.map_flatMap]
  exact List.flatMap_congr fun e _ => h ⟨a.rule.name, a.severity, source⟩ s e

namespace Linter

/-- A linter all of whose rules run at one severity. -/
def atSeverity (s : Severity) (l : Linter) : Linter :=
  ⟨l.rules.map (ActiveRule.atSeverity s)⟩

/-- **Findings at another severity.**  A linter whose rules only hand on their severity finds at
another one what it finds at its own, labelled with the other one. -/
theorem lint_atSeverity {l : Linter} (h : ∀ a ∈ l.rules, a.rule.HandsOnSeverity) (s : Severity)
    (t : Template) (source : String) :
    ((l.atSeverity s).lint t source).value = (l.lint t source).value.atSeverity s := by
  have hfound : (l.atSeverity s).rules.flatMap (fun a => (a.inspect t source).value) =
      (l.rules.flatMap fun a => (a.inspect t source).value).map (Diagnostic.atSeverity s) := by
    simp only [atSeverity, List.flatMap_map, List.map_flatMap]
    exact List.flatMap_congr fun a ha => ActiveRule.inspect_atSeverity (h a ha) s t source
  have hsort := map_sortByStart (f := Diagnostic.atSeverity s) fun _ => rfl
  simp only [lint_value, Findings.atSeverity, hfound, hsort]

/-- At any two severities such a linter finds the same. -/
theorem sameBut_lint {l : Linter} (h : ∀ a ∈ l.rules, a.rule.HandsOnSeverity) (s₁ s₂ : Severity)
    (t : Template) (source : String) :
    Findings.SameBut s₁ s₂ ((l.atSeverity s₁).lint t source).value
      ((l.atSeverity s₂).lint t source).value := by
  rw [lint_atSeverity h, lint_atSeverity h]
  exact Findings.sameBut_atSeverity _ s₁ s₂

end Linter

/-! ### Settings that name a severity -/

namespace Blueprint

/-- What a linter is built from when its only rule has a setting with a name and options. -/
def ofOverride (plugins : List Plugin) (listed : List String) (rule name : String)
    (options : Json) : Blueprint where
  plugins := plugins
  config := .ofSettings listed [(rule, .arr [.str name, options])]

/-- **The named severity labels the rule.**  The provider gets the options alone, and what it builds
from them runs at the severity. -/
theorem build_ofOverride {plugins : List Plugin} {listed : List String} {rule name : String}
    {provider : RuleDescriptor} {s : Severity} (options : Json)
    (hprovider : Plugin.FirstProvider plugins rule provider)
    (hlisted : ∀ n ∈ listed, Registered plugins n) (hname : s.Named name) :
    (ofOverride plugins listed rule name options).build.value =
      match (provider.build options).value with
      | .error e => .error (.configuration e)
      | .ok built => .ok ⟨[⟨built, s⟩]⟩ := by
  have hactive : (activate plugins rule (.enabled (some s) options)).value = _ :=
    activate_provided (provider?_eq_some_iff.2 hprovider)
  rw [build_of_registered (missingPlugin?_eq_none_iff.2 hlisted)]
  change (activateAll plugins [(rule, .arr [.str name, options])]).value.map _ = _
  rw [activateAll_cons, Setting.ofRaw_of_overrides (.pair hname), hactive]
  cases (provider.build options).value with
  | error e => rfl
  | ok built => rfl

end Blueprint

namespace Denylist

/-- **Two severities for one denylist.**  Whatever the options are, either they are refused with one
error under both names, or both linters are built; and then these find the same in every template,
except that each finding bears the severity of its linter. A run has errors if its severity is that
of errors and anything is found. -/
theorem override_labels {plugins : List Plugin} {listed : List String} {n₁ n₂ : String}
    {s₁ s₂ : Severity}
    (hprovider : Plugin.FirstProvider plugins ruleName ⟨ruleName, description, buildRule⟩)
    (hlisted : ∀ n ∈ listed, Blueprint.Registered plugins n) (h₁ : s₁.Named n₁)
    (h₂ : s₂.Named n₂) (options : Json) :
    (∃ e : ConfigurationError,
      (Blueprint.ofOverride plugins listed ruleName n₁ options).build.value =
        .error (.configuration e) ∧
      (Blueprint.ofOverride plugins listed ruleName n₂ options).build.value =
        .error (.configuration e)) ∨
    ∃ l₁ l₂ : Linter,
      (Blueprint.ofOverride plugins listed ruleName n₁ options).build.value = .ok l₁ ∧
      (Blueprint.ofOverride plugins listed ruleName n₂ options).build.value = .ok l₂ ∧
      ∀ t source,
        Findings.SameBut s₁ s₂ (l₁.lint t source).value (l₂.lint t source).value ∧
        ((l₁.lint t source).value.hasErrors ↔
          s₁ = .error ∧ (l₁.lint t source).value.diagnostics ≠ []) ∧
        ((l₂.lint t source).value.hasErrors ↔
          s₂ = .error ∧ (l₂.lint t source).value.diagnostics ≠ []) := by
  have hbuild₁ := Blueprint.build_ofOverride options hprovider hlisted h₁
  have hbuild₂ := Blueprint.build_ofOverride options hprovider hlisted h₂
  cases hrule : (buildRule options).value with
  | error e =>
      rw [hrule] at hbuild₁ hbuild₂
      exact Or.inl ⟨e, hbuild₁, hbuild₂⟩
  | ok built =>
      rw [hrule] at hbuild₁ hbuild₂
      obtain ⟨d, -, rfl⟩ := buildRule_eq_ok_iff.1 hrule
      refine Or.inr ⟨_, _, hbuild₁, hbuild₂, fun t source => ?_⟩
      have hhands : ∀ a ∈ [(⟨d.rule, .error⟩ : ActiveRule)], a.rule.HandsOnSeverity := by
        intro a ha
        obtain rfl := List.mem_singleton.1 ha
        exact d.handsOnSeverity_rule
      have hsame := Linter.sameBut_lint hhands s₁ s₂ t source
      exact ⟨hsame, Findings.hasErrors_iff_of_severity hsame.severity_left,
        Findings.hasErrors_iff_of_severity hsame.severity_right⟩

theorem firstProvider_plugin :
    Plugin.FirstProvider [plugin] ruleName ⟨ruleName, description, buildRule⟩ :=
  ⟨[], plugin, [], [], [], rfl, rfl, rfl, by simp, by simp⟩

/-- Options that forbid an identifier. -/
def identifierOptions : Json :=
  .obj [("attributes", .arr [.obj [("name", .str "id"), ("values", .str "x")]])]

/-- A template of an element with that identifier. -/
def offending : Template :=
  ⟨[.element "p" [⟨"id", .literal ⟨"x", Span.unknown⟩, Span.unknown⟩] [] Span.unknown]⟩

theorem override_labels_offending :
    ∃ l₁ l₂ : Linter,
      (Blueprint.ofOverride [plugin] [] ruleName "warn" identifierOptions).build.value = .ok l₁ ∧
      (Blueprint.ofOverride [plugin] [] ruleName "error" identifierOptions).build.value = .ok l₂ ∧
      ¬ (l₁.lint offending "").value.hasErrors ∧ (l₂.lint offending "").value.hasErrors := by
  rcases override_labels firstProvider_plugin (List.forall_mem_nil _) .warn .error
    identifierOptions with ⟨e, herror, -⟩ | ⟨l₁, l₂, hl₁, hl₂, hfound⟩
  · cases herror
  · obtain ⟨-, hleft, hright⟩ := hfound offending ""
    refine ⟨l₁, l₂, hl₁, hl₂, fun h => ?_, hright.2 ⟨rfl, ?_⟩⟩
    · cases (hleft.1 h).1
    · obtain rfl := Except.ok.inj hl₂
      exact List.ne_nil_of_mem (Linter.mem_sortByStart.2 List.mem_cons_self)

end Denylist

end TemplateLint
