import TemplateLint.Command.Check
import TemplateLint.Proofs.Denylist.Normal
import TemplateLint.Proofs.Linter.Build

/-!
# Normalized configurations

The settings of the active rules can be put into a configuration: every rule is enabled by a pair of
its severity and its options. The program provides one rule, whose options are a normal denylist,
and so such a configuration gives the linter back that it was taken from.

## Main definitions

* `Linter.normalized`: the configuration that the settings of a linter make up

## Main statements

* `Command.rules_of_buildLinter`: the linters that the program builds
* `Command.buildLinter_normalized`: a normalized configuration gives the same linter
-/

namespace TemplateLint

/-- The configuration that enables each active rule at its severity and with its options. -/
def Linter.normalized (l : Linter) : Config :=
  .ofSettings [] (l.settings.map fun (name, severity, options) =>
    (name, .arr [.str severity.name, options]))

namespace Command

open Denylist (ruleName)
open Plugin (FirstProvider)

/-! ### The one rule -/

/-- The rule of the program, before it is built. -/
def descriptor : RuleDescriptor :=
  ⟨ruleName, Denylist.description, Denylist.buildRule⟩

theorem provider?_ruleName : Blueprint.provider? plugins ruleName = some descriptor := rfl

/-- The program provides no other rule. -/
theorem eq_of_firstProvider {name : String} {r : RuleDescriptor}
    (h : FirstProvider plugins name r) : name = ruleName ∧ r = descriptor := by
  by_cases hname : ruleName = name
  · subst hname
    rw [← Blueprint.provider?_eq_some_iff, provider?_ruleName] at h
    exact ⟨rfl, (Option.some.inj h).symm⟩
  · have hnone : Blueprint.provider? plugins name = none := by
      rw [Blueprint.provider?_eq_none_iff]
      simpa [Plugin.Provided, plugins, Denylist.plugin] using hname
    rw [← Blueprint.provider?_eq_some_iff, hnone] at h
    cases h

/-- Whatever is activated is the rule of a normal denylist. -/
theorem exists_denylist_of_activates {name : String} {setting : Setting} {a : ActiveRule}
    (h : Blueprint.Activates plugins name setting a) :
    name = ruleName ∧ ∃ d : Denylist, d.Normal ∧ a.rule = d.rule := by
  obtain ⟨hfirst, hbuild⟩ := h
  obtain ⟨rfl, rfl⟩ := eq_of_firstProvider hfirst
  obtain ⟨d, hread, rfl⟩ := Denylist.buildRule_eq_ok_iff.1 hbuild
  exact ⟨rfl, d, Denylist.normal_of_read hread, rfl⟩

/-! ### Building -/

theorem buildLinter_value_eq_ok_iff {c : Config} {l : Linter} :
    (buildLinter c).value = .ok l ↔ (Blueprint.build { plugins, config := c }).value = .ok l := by
  unfold buildLinter
  simp only [Logged.value_bind, Logged.value_pure]
  cases (Blueprint.build { plugins, config := c }).value with
  | error e =>
      constructor
      · intro h
        cases h
      · intro h
        cases h
  | ok l' =>
      constructor
      · intro h
        cases h
        rfl
      · intro h
        cases h
        rfl

/-- Members in order have at most one of each name. -/
theorem eq_nil_or_singleton {α : Type} {name : String} {members : List (String × α)}
    (ordered : Json.Ordered members) (h : ∀ m ∈ members, m.1 = name) :
    members = [] ∨ ∃ m, members = [m] := by
  match members with
  | [] => exact Or.inl rfl
  | [m] => exact Or.inr ⟨m, rfl⟩
  | m :: m' :: rest =>
      have hlt : m.1 < m'.1 := (List.pairwise_cons.1 ordered).1 m' List.mem_cons_self
      rw [h m List.mem_cons_self, h m' (by simp)] at hlt
      exact absurd hlt (String.lt_irrefl name)

/-- **The linters of the program.**  A linter has no rule, or that of a normal denylist. -/
theorem rules_of_buildLinter {c : Config} {l : Linter} (h : (buildLinter c).value = .ok l) :
    l.rules = [] ∨
      ∃ (d : Denylist) (severity : Severity), d.Normal ∧ l.rules = [⟨d.rule, severity⟩] := by
  have hbuild := buildLinter_value_eq_ok_iff.1 h
  have hcomplete := Blueprint.complete_of_build hbuild
  obtain rfl := Except.ok.inj (hcomplete.build_eq.symm.trans hbuild)
  -- All rules that are activated have the one name, and each name has one entry.
  have hactive : ∀ x ∈ Blueprint.activated plugins c.rules,
      x.1 = ruleName ∧ ∃ d : Denylist, d.Normal ∧ x.2.rule = d.rule := by
    intro x hx
    obtain ⟨raw, -, hactivates⟩ := Blueprint.mem_activated.1 hx
    exact exists_denylist_of_activates hactivates
  rcases eq_nil_or_singleton (Blueprint.ordered_activated c.ordered) fun x hx => (hactive x hx).1
    with hnil | ⟨⟨name, rule, severity⟩, hone⟩
  · refine Or.inl ?_
    simp [hnil]
  · obtain ⟨d, hnormal, hrule⟩ := (hactive _ (by rw [hone]; exact List.mem_cons_self)).2
    refine Or.inr ⟨d, severity, hnormal, ?_⟩
    simp [hone, ← hrule]

/-! ### Building again -/

/-- What the log says about a rule that is enabled. -/
def enabledEntry (a : ActiveRule) : Log.Entry :=
  ⟨.debug, "Enabled rule " ++ a.rule.name ++ " at " ++ a.severity.name⟩

/-- A pair of a severity and a normal denylist activates the rule of that denylist. -/
theorem activate_toRaw {d : Denylist} (h : d.Normal) (severity : Severity) :
    Blueprint.activate plugins ruleName
        (Setting.ofRaw (.arr [.str severity.name, d.toRaw])) =
      ⟨.ok (some ⟨d.rule, severity⟩), [enabledEntry ⟨d.rule, severity⟩]⟩ := by
  have hbuild : descriptor.build d.toRaw = ⟨.ok d.rule, []⟩ := Denylist.buildRule_toRaw h
  rw [Setting.ofRaw_pair]
  simp only [Blueprint.activate, provider?_ruleName, hbuild]
  rfl

/-- The linter that runs the rule of a normal denylist is built from its own settings. -/
theorem build_normalized {d : Denylist} (h : d.Normal) (severity : Severity) :
    Blueprint.build { plugins, config := Linter.normalized ⟨[⟨d.rule, severity⟩]⟩ } =
      ⟨.ok ⟨[⟨d.rule, severity⟩]⟩, [enabledEntry ⟨d.rule, severity⟩]⟩ := by
  have hrules : (Linter.normalized ⟨[⟨d.rule, severity⟩]⟩).rules =
      [(ruleName, .arr [.str severity.name, d.toRaw])] := rfl
  have hactivate : Blueprint.activateAll plugins
      [(ruleName, .arr [.str severity.name, d.toRaw])] =
        ⟨.ok [⟨d.rule, severity⟩], [enabledEntry ⟨d.rule, severity⟩]⟩ := by
    simp only [Blueprint.activateAll, activate_toRaw h]
    rfl
  unfold Blueprint.build
  simp only [hrules, hactivate]
  rfl

/-- A normalized configuration gives its linter back, and the log says which rules are enabled and
no more. -/
theorem buildLinter_normalized_eq {c : Config} {l : Linter} (h : (buildLinter c).value = .ok l) :
    buildLinter l.normalized = ⟨.ok l, l.rules.map enabledEntry⟩ := by
  obtain ⟨rules⟩ := l
  rcases rules_of_buildLinter h with rfl | ⟨d, severity, hnormal, rfl⟩
  · rfl
  · unfold buildLinter
    rw [build_normalized hnormal severity]
    rfl

/-- That a rule is enabled is no warning, and it does not say that anything is dropped. -/
theorem enabledEntry_harmless (d : Denylist) (severity : Severity) :
    (enabledEntry ⟨d.rule, severity⟩).level ≠ .warn ∧
      ¬ "Dropping attribute entry".toList <:+:
        (enabledEntry ⟨d.rule, severity⟩).message.toList := by
  have hletter : 'D' ∉ (enabledEntry ⟨d.rule, severity⟩).message.toList := by
    show 'D' ∉ ("Enabled rule denylist at " ++ severity.name).toList
    rw [String.toList_append]
    cases severity <;> decide
  constructor
  · intro h
    cases h
  · intro h
    exact hletter (h.subset (by decide))

/-- **Normalized settings are a fixed point.**  What the settings of a linter make up builds a
linter again. It has the same settings and finds the same in every template, and building it warns
of nothing and drops nothing. -/
theorem buildLinter_normalized {c : Config} {l : Linter} (h : (buildLinter c).value = .ok l) :
    ∃ l', (buildLinter l.normalized).value = .ok l' ∧ l'.settings = l.settings ∧
      (∀ e ∈ (buildLinter l.normalized).log,
        e.level ≠ .warn ∧ ¬ "Dropping attribute entry".toList <:+: e.message.toList) ∧
      ∀ t source, l'.lint t source = l.lint t source := by
  rw [buildLinter_normalized_eq h]
  refine ⟨l, rfl, rfl, fun e he => ?_, fun t source => rfl⟩
  obtain ⟨a, ha, rfl⟩ := List.mem_map.1 he
  rcases rules_of_buildLinter h with hnone | ⟨d, severity, -, hone⟩
  · rw [hnone] at ha
    cases ha
  · rw [hone] at ha
    obtain rfl := List.mem_singleton.1 ha
    exact enabledEntry_harmless d severity

/-- A configuration with an abbreviated severity, an entry that is dropped, and another one that
keeps one of its patterns. -/
def partlyUsable : Config :=
  .ofSettings [Denylist.plugin.name] [(ruleName, .arr [.str "warn", .obj [("attributes", .arr
    [.obj [("name", .str "id")],
      .obj [("name", .str "class"), ("values", .arr [.str "", .int 1, .str "^foo"])]])]])]

theorem buildLinter_normalized_partlyUsable :
    ∃ l l' : Linter, (buildLinter partlyUsable).value = .ok l ∧
      (buildLinter l.normalized).value = .ok l' ∧ l'.settings = l.settings ∧
      (∀ e ∈ (buildLinter l.normalized).log,
        e.level ≠ .warn ∧ ¬ "Dropping attribute entry".toList <:+: e.message.toList) ∧
      ∀ t source, l'.lint t source = l.lint t source := by
  have h : (buildLinter partlyUsable).value =
      .ok ⟨[⟨Denylist.rule ⟨[⟨"class", ["^foo"]⟩]⟩, .warning⟩]⟩ := by
    rfl
  obtain ⟨l', hl'⟩ := buildLinter_normalized h
  exact ⟨_, l', h, hl'⟩

end Command

end TemplateLint
