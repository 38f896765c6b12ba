import TemplateLint.Denylist.Rule
import TemplateLint.Proofs.Linter.Build

/-!
# Entries and plugins without effect

A linter is built entry by entry, and the first entry at fault ends the work. An entry that disables
its rule is not at fault, even when nobody provides the rule, and it activates nothing. So it can be
left out: all other entries are met in the same order, and with them the first one at fault.

A rule is looked for in one plugin after the other. Plugins behind the registered ones are only
asked for what those do not provide, and a linter that was built is in want of nothing: each of its
listed plugins is registered, and each rule that is enabled is provided. A rule that is disabled
stays so, whoever provides it. When building fails, more plugins may well help.

## Main definitions

* `Config.erase`: a configuration without its entry for a rule

## Main statements

* `Blueprint.activateAll_filter`: entries that disable their rules may be left out
* `Blueprint.activateAll_append_of_ok`: what plugins activate they activate before any others, too
* `Blueprint.build_inert`: neither erasing a disabled rule nor adding plugins changes a linter
-/

namespace TemplateLint

/-- A configuration without its entry for a rule. -/
def Config.erase (c : Config) (rule : String) : Config where
  plugins := c.plugins
  rules := c.rules.filter (·.1 ≠ rule)
  ordered := c.ordered.filter _

/-! ### More plugins -/

/-- The first provider of a rule stays the first one when plugins are added. -/
theorem Plugin.FirstProvider.append {plugins : List Plugin} {name : String} {r : RuleDescriptor}
    (h : FirstProvider plugins name r) (more : List Plugin) :
    FirstProvider (plugins ++ more) name r := by
  obtain ⟨before, p, after, rulesBefore, rulesAfter, rfl, hrest⟩ := h
  exact ⟨before, p, after ++ more, rulesBefore, rulesAfter, by simp, hrest⟩

namespace Blueprint

variable {plugins : List Plugin} {name : String} {setting : Setting}

theorem Registered.append (h : Registered plugins name) (more : List Plugin) :
    Registered (plugins ++ more) name := by
  obtain ⟨p, hp, hname⟩ := h
  exact ⟨p, List.mem_append_left more hp, hname⟩

theorem Activates.append {a : ActiveRule} (h : Activates plugins name setting a)
    (more : List Plugin) : Activates (plugins ++ more) name setting a := by
  obtain ⟨hfirst, hbuild⟩ := h
  exact .intro (hfirst.append more) hbuild

/-- What one entry activates, or that it activates nothing, is settled by the plugins that come
first. -/
theorem activate_append_of_ok {active? : Option ActiveRule}
    (h : (activate plugins name setting).value = .ok active?) (more : List Plugin) :
    (activate (plugins ++ more) name setting).value = .ok active? := by
  cases active? with
  | none => exact activate_eq_none_iff.2 (activate_eq_none_iff.1 h)
  | some a => exact activate_eq_some_iff.2 ((activate_eq_some_iff.1 h).append more)

/-- **Added plugins are not asked.**  What plugins activate for some entries, they activate also
when others are registered behind them. -/
theorem activateAll_append_of_ok {entries : List (String × Json)} {active : List ActiveRule}
    (h : (activateAll plugins entries).value = .ok active) (more : List Plugin) :
    (activateAll (plugins ++ more) entries).value = .ok active := by
  induction entries generalizing active with
  | nil => exact h
  | cons entry rest ih =>
      obtain ⟨active?, others, hentry, hrest, rfl⟩ := activateAll_cons_eq_ok_iff.1 h
      exact activateAll_cons_eq_ok_iff.2
        ⟨active?, others, activate_append_of_ok hentry more, ih hrest, rfl⟩

/-- A linter that is built is the same with more plugins. -/
theorem build_append_of_ok {b : Blueprint} {l : Linter} (h : b.build.value = .ok l)
    (more : List Plugin) :
    ({ b with plugins := b.plugins ++ more } : Blueprint).build.value = .ok l := by
  obtain ⟨hregistered, active, hactive, rfl⟩ := build_eq_ok_iff.1 h
  exact build_eq_ok_iff.2 ⟨fun n hn => (hregistered n hn).append more, active,
    activateAll_append_of_ok hactive more, rfl⟩

/-! ### Fewer entries -/

/-- An entry that disables its rule leaves the outcome to the others. -/
theorem activateAll_cons_of_disabled {entry : String × Json} {rest : List (String × Json)}
    (h : Setting.ofRaw entry.2 = .disabled) :
    (activateAll plugins (entry :: rest)).value = (activateAll plugins rest).value := by
  rw [activateAll_cons, activate_eq_none_iff.2 h]
  cases (activateAll plugins rest).value with
  | error e => rfl
  | ok active => rfl

/-- **Disabled entries may be left out.**  The outcome is that of the other entries, be it their
active rules or the error of the first one at fault. -/
theorem activateAll_filter {keep : String × Json → Bool} {entries : List (String × Json)}
    (h : ∀ entry ∈ entries, ¬ keep entry → Setting.ofRaw entry.2 = .disabled) :
    (activateAll plugins (entries.filter keep)).value = (activateAll plugins entries).value := by
  induction entries with
  | nil => rfl
  | cons entry rest ih =>
      obtain ⟨hentry, hrest⟩ := List.forall_mem_cons.1 h
      by_cases hkeep : keep entry
      · rw [List.filter_cons_of_pos hkeep, activateAll_cons, activateAll_cons, ih hrest]
      · rw [List.filter_cons_of_neg hkeep, ih hrest, activateAll_cons_of_disabled (hentry hkeep)]

/-- Building comes to the same without the entry of a disabled rule. -/
theorem build_erase {b : Blueprint} {rule : String} (h : b.config.setting rule = .disabled) :
    ({ b with config := b.config.erase rule } : Blueprint).build.value = b.build.value := by
  have hdropped : ∀ entry ∈ b.config.rules, ¬ decide (entry.1 ≠ rule) →
      Setting.ofRaw entry.2 = .disabled := by
    intro entry hentry hname
    have hrule : entry.1 = rule := by simpa using hname
    rw [← Config.setting_of_mem hentry, hrule, h]
  -- Both look for the same plugins among the same ones.
  have hplugins : ({ b with config := b.config.erase rule } : Blueprint).missingPlugin? =
      b.missingPlugin? := rfl
  cases hmissing : b.missingPlugin? with
  | some name => rw [build_of_missing hmissing, build_of_missing (hplugins.trans hmissing)]
  | none =>
      rw [build_of_registered hmissing, build_of_registered (hplugins.trans hmissing)]
      exact congrArg _ (activateAll_filter hdropped)

/-- **Disabled rules and further plugins are inert.**  Erasing the entry of a disabled rule,
provided or not, leaves the outcome of building as it is: the same linter or the same error. And a
linter that is built is the same when more plugins are registered behind the others, whatever their
names are and whichever rules they provide. -/
theorem build_inert (b : Blueprint) :
    (∀ rule, b.config.setting rule = .disabled →
      ({ b with config := b.config.erase rule } : Blueprint).build.value = b.build.value) ∧
    ∀ l, b.build.value = .ok l → ∀ more : List Plugin,
      ({ b with plugins := b.plugins ++ more } : Blueprint).build.value = .ok l :=
  ⟨fun _ h => build_erase h, fun _ h more => build_append_of_ok h more⟩

/-- A plugin that has the name of the one for denylists and the rule as well, and a rule that is
nowhere else. It accepts no options. -/
def refusingPlugin : Plugin :=
  let refuse (name : String) : RuleDescriptor :=
    ⟨name, "", fun raw => pure (.error ⟨name, [], raw⟩)⟩
  ⟨Denylist.plugin.name, [refuse Denylist.ruleName, refuse "absent"]⟩

/-- What a linter is built from when a denylist is enabled and a rule that nobody provides is
disabled. -/
def partlyDisabled : Blueprint where
  plugins := [Denylist.plugin]
  config := .ofSettings [Denylist.plugin.name]
    [("absent", .bool false), (Denylist.ruleName, (⟨[⟨"id", ["x"]⟩]⟩ : Denylist).toRaw)]

theorem build_inert_partlyDisabled :
    partlyDisabled.config.setting "absent" = .disabled ∧
      (partlyDisabled.config.erase "absent").rules.length < partlyDisabled.config.rules.length ∧
      ({ partlyDisabled with
        config := partlyDisabled.config.erase "absent" } : Blueprint).build.value =
        partlyDisabled.build.value ∧
      ∃ l, l.names = [Denylist.ruleName] ∧ partlyDisabled.build.value = .ok l ∧
        ({ partlyDisabled with
          plugins := [Denylist.plugin] ++ [refusingPlugin] } : Blueprint).build.value = .ok l := by
  have hdisabled : partlyDisabled.config.setting "absent" = .disabled := rfl
  obtain ⟨herase, happend⟩ := build_inert partlyDisabled
  exact ⟨hdisabled, by decide, herase "absent" hdisabled, _, rfl, rfl,
    happend _ rfl [refusingPlugin]⟩

end Blueprint

end TemplateLint
