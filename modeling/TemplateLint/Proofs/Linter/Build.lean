import TemplateLint.Linter
import TemplateLint.Proofs.Config.Settings
import TemplateLint.Proofs.Lists
import TemplateLint.Proofs.Text.Bytes

/-!
# Building linters

A linter is built when every plugin that the configuration lists is registered, and every rule that
it enables is provided and accepts its options. The first thing that is missing decides the error.

## Main definitions

* `Plugin.FirstProvider`: the rule of a name that comes first among those of some plugins
* `Blueprint.Activates`: the active rule that an enabled setting gives
* `Blueprint.Fails`: the error that an enabled setting gives

## Main statements

* `Blueprint.build_eq_ok_iff`: when a linter is built, step by step
* `Blueprint.build_outcome`: when a linter is built, with which rules, and else with which error
-/

namespace TemplateLint

/-! ### Providers -/

/-- Whether some plugin has a rule of a name. -/
def Plugin.Provided (plugins : List Plugin) (name : String) : Prop :=
  ∃ p ∈ plugins, ∃ r ∈ p.rules, r.name = name

/-- Whether a rule is the first one of a name, in the order of the plugins and of their rules. -/
def Plugin.FirstProvider (plugins : List Plugin) (name : String) (r : RuleDescriptor) : Prop :=
  ∃ before p after rulesBefore rulesAfter,
    plugins = before ++ p :: after ∧ p.rules = rulesBefore ++ r :: rulesAfter ∧ r.name = name ∧
      (∀ q ∈ before, ∀ s ∈ q.rules, s.name ≠ name) ∧ ∀ s ∈ rulesBefore, s.name ≠ name

namespace Blueprint

open Plugin (Provided FirstProvider)

theorem rule?_eq_none_iff {p : Plugin} {name : String} :
    p.rule? name = none ↔ ∀ r ∈ p.rules, r.name ≠ name := by
  simp [Plugin.rule?]

theorem rule?_eq_some_iff {p : Plugin} {name : String} {r : RuleDescriptor} :
    p.rule? name = some r ↔ ∃ before after, p.rules = before ++ r :: after ∧ r.name = name ∧
      ∀ s ∈ before, s.name ≠ name := by
  unfold Plugin.rule?
  rw [find?_eq_some_iff_first]
  simp only [decide_eq_false_iff_not, decide_eq_true_eq, and_comm, ne_eq]

theorem provider?_eq_none_iff {plugins : List Plugin} {name : String} :
    provider? plugins name = none ↔ ¬ Provided plugins name := by
  unfold provider? Provided
  rw [List.findSome?_eq_none_iff]
  simp only [rule?_eq_none_iff]
  constructor
  · rintro h ⟨p, hp, r, hr, hname⟩
    exact h p hp r hr hname
  · intro h p hp r hr hname
    exact h ⟨p, hp, r, hr, hname⟩

theorem provider?_eq_some_iff {plugins : List Plugin} {name : String} {r : RuleDescriptor} :
    provider? plugins name = some r ↔ FirstProvider plugins name r := by
  unfold provider? FirstProvider
  rw [List.findSome?_eq_some_iff]
  constructor
  · rintro ⟨before, p, after, heq, hrule, hbefore⟩
    obtain ⟨rulesBefore, rulesAfter, hrules, hname, hfirst⟩ := rule?_eq_some_iff.1 hrule
    exact ⟨before, p, after, rulesBefore, rulesAfter, heq, hrules, hname,
      fun q hq => rule?_eq_none_iff.1 (hbefore q hq), hfirst⟩
  · rintro ⟨before, p, after, rulesBefore, rulesAfter, heq, hrules, hname, hbefore, hfirst⟩
    exact ⟨before, p, after, heq, rule?_eq_some_iff.2 ⟨rulesBefore, rulesAfter, hrules, hname,
      hfirst⟩, fun q hq => rule?_eq_none_iff.2 (hbefore q hq)⟩

/-! ### Single settings -/

/-- **The active rule that a setting gives**: the first provider accepts the options, and the rule
runs at the severity of the setting, or else at its own. -/
inductive Activates (plugins : List Plugin) (name : String) : Setting → ActiveRule → Prop where
  | intro {severity : Option Severity} {options : Json} {provider : RuleDescriptor} {rule : Rule} :
    FirstProvider plugins name provider → (provider.build options).value = .ok rule →
      Activates plugins name (.enabled severity options)
        ⟨rule, severity.getD rule.defaultSeverity⟩

/-- **The error that a setting gives**: nobody provides the rule, or the first provider rejects the
options. -/
inductive Fails (plugins : List Plugin) (name : String) : Setting → LintError → Prop where
  | unprovided {severity : Option Severity} {options : Json} :
    ¬ Provided plugins name → Fails plugins name (.enabled severity options) (.unknownRule name)
  | rejected {severity : Option Severity} {options : Json} {provider : RuleDescriptor}
      {e : ConfigurationError} :
    FirstProvider plugins name provider → (provider.build options).value = .error e →
      Fails plugins name (.enabled severity options) (.configuration e)

variable {plugins : List Plugin} {name : String} {setting : Setting}

theorem activate_unprovided {severity : Option Severity} {options : Json}
    (h : provider? plugins name = none) :
    (activate plugins name (.enabled severity options)).value = .error (.unknownRule name) := by
  simp [activate, h]

theorem activate_provided {severity : Option Severity} {options : Json}
    {provider : RuleDescriptor} (h : provider? plugins name = some provider) :
    (activate plugins name (.enabled severity options)).value =
      match (provider.build options).value with
      | .error e => .error (.configuration e)
      | .ok rule => .ok (some ⟨rule, severity.getD rule.defaultSeverity⟩) := by
  simp only [activate, h, Logged.value_bind]
  cases (provider.build options).value with
  | error e => rfl
  | ok rule => rfl

theorem activate_eq_none_iff :
    (activate plugins name setting).value = .ok none ↔ setting = .disabled := by
  cases setting with
  | disabled =>
      unfold activate
      cases provider? plugins name <;> simp
  | enabled severity options =>
      cases hp : provider? plugins name with
      | none => simp [activate_unprovided hp]
      | some provider =>
          rw [activate_provided hp]
          cases (provider.build options).value <;> simp

theorem activate_eq_some_iff {a : ActiveRule} :
    (activate plugins name setting).value = .ok (some a) ↔
      Activates plugins name setting a := by
  constructor
  · intro h
    cases setting with
    | disabled => simp [activate_eq_none_iff.2 rfl] at h
    | enabled severity options =>
        cases hp : provider? plugins name with
        | none => simp [activate_unprovided hp] at h
        | some provider =>
            rw [activate_provided hp] at h
            cases hb : (provider.build options).value with
            | error e => simp [hb] at h
            | ok rule =>
                rw [hb] at h
                cases h
                exact .intro (provider?_eq_some_iff.1 hp) hb
  · rintro ⟨hfirst, hb⟩
    rw [activate_provided (provider?_eq_some_iff.2 hfirst), hb]

theorem activate_eq_error_iff {e : LintError} :
    (activate plugins name setting).value = .error e ↔ Fails plugins name setting e := by
  constructor
  · intro h
    cases setting with
    | disabled => simp [activate_eq_none_iff.2 rfl] at h
    | enabled severity options =>
        cases hp : provider? plugins name with
        | none =>
            rw [activate_unprovided hp] at h
            cases h
            exact .unprovided (provider?_eq_none_iff.1 hp)
        | some provider =>
            rw [activate_provided hp] at h
            cases hb : (provider.build options).value with
            | error e =>
                rw [hb] at h
                cases h
                exact .rejected (provider?_eq_some_iff.1 hp) hb
            | ok rule => simp [hb] at h
  · intro h
    cases h with
    | unprovided hnone => exact activate_unprovided (provider?_eq_none_iff.2 hnone)
    | rejected hfirst hb => rw [activate_provided (provider?_eq_some_iff.2 hfirst), hb]

/-- A setting that does not fail gives an active rule, unless it is disabled. -/
theorem forall_not_fails_iff :
    (∀ e, ¬ Fails plugins name setting e) ↔
      ∀ severity options, setting = .enabled severity options →
        ∃ provider rule, FirstProvider plugins name provider ∧
          (provider.build options).value = .ok rule := by
  constructor
  · rintro h severity options rfl
    cases ha : (activate plugins name (.enabled severity options)).value with
    | error e => exact absurd (activate_eq_error_iff.1 ha) (h e)
    | ok a? =>
        cases a? with
        | none => cases activate_eq_none_iff.1 ha
        | some a =>
            obtain ⟨hfirst, hb⟩ := activate_eq_some_iff.1 ha
            exact ⟨_, _, hfirst, hb⟩
  · rintro h e hfails
    have herror := activate_eq_error_iff.2 hfails
    cases setting with
    | disabled => simp [activate_eq_none_iff.2 rfl] at herror
    | enabled severity options =>
        obtain ⟨provider, rule, hfirst, hb⟩ := h severity options rfl
        rw [activate_eq_some_iff.2 (.intro hfirst hb)] at herror
        cases herror

/-! ### All entries -/

/-- Whether an entry of a configuration fails. -/
def EntryFails (plugins : List Plugin) (entry : String × Json) (e : LintError) : Prop :=
  Fails plugins entry.1 (Setting.ofRaw entry.2) e

/-- The active rules that entries give, each with its name. -/
def activated (plugins : List Plugin) (entries : List (String × Json)) :
    List (String × ActiveRule) :=
  entries.filterMap fun entry =>
    match (activate plugins entry.1 (Setting.ofRaw entry.2)).value with
    | .ok (some a) => some (entry.1, a)
    | _ => none

/-- One entry decides before the others do. -/
theorem activateAll_cons (entry : String × Json) (rest : List (String × Json)) :
    (activateAll plugins (entry :: rest)).value =
      match (activate plugins entry.1 (Setting.ofRaw entry.2)).value with
      | .error e => .error e
      | .ok a? => (activateAll plugins rest).value.map (a?.toList ++ ·) := by
  obtain ⟨name, raw⟩ := entry
  simp only [activateAll, Logged.value_bind]
  cases (activate plugins name (Setting.ofRaw raw)).value with
  | error e => rfl
  | ok a? =>
      simp only [Logged.value_bind]
      cases (activateAll plugins rest).value with
      | error e => rfl
      | ok active => rfl

/-- Entries give active rules when the first one succeeds and the others do. -/
theorem activateAll_cons_eq_ok_iff {entry : String × Json} {rest : List (String × Json)}
    {active : List ActiveRule} :
    (activateAll plugins (entry :: rest)).value = .ok active ↔
      ∃ a? others, (activate plugins entry.1 (Setting.ofRaw entry.2)).value = .ok a? ∧
        (activateAll plugins rest).value = .ok others ∧ active = a?.toList ++ others := by
  rw [activateAll_cons]
  cases (activate plugins entry.1 (Setting.ofRaw entry.2)).value with
  | error e => simp
  | ok a? =>
      cases (activateAll plugins rest).value with
      | error e => simp [Except.map]
      | ok others => simp [Except.map, eq_comm]

theorem activateAll_of_forall_not_fails {entries : List (String × Json)}
    (h : ∀ entry ∈ entries, ∀ e, ¬ EntryFails plugins entry e) :
    (activateAll plugins entries).value = .ok ((activated plugins entries).map Prod.snd) := by
  induction entries with
  | nil => rfl
  | cons entry rest ih =>
      have hrest := ih fun m hm => h m (List.mem_cons_of_mem _ hm)
      rw [activateAll_cons, hrest]
      unfold activated
      rw [List.filterMap_cons]
      cases ha : (activate plugins entry.1 (Setting.ofRaw entry.2)).value with
      | error e => exact absurd (activate_eq_error_iff.1 ha) (h entry List.mem_cons_self e)
      | ok a? => cases a? <;> rfl

/-- **The first entry at fault decides.** -/
theorem activateAll_of_first_fails {before after : List (String × Json)} {entry : String × Json}
    {e : LintError} (hbefore : ∀ m ∈ before, ∀ e', ¬ EntryFails plugins m e')
    (h : EntryFails plugins entry e) :
    (activateAll plugins (before ++ entry :: after)).value = .error e := by
  induction before with
  | nil =>
      rw [List.nil_append, activateAll_cons, activate_eq_error_iff.2 h]
  | cons m rest ih =>
      have hrest := ih fun m' hm' => hbefore m' (List.mem_cons_of_mem _ hm')
      rw [List.cons_append, activateAll_cons, hrest]
      cases ha : (activate plugins m.1 (Setting.ofRaw m.2)).value with
      | error e' => exact absurd (activate_eq_error_iff.1 ha) (hbefore m List.mem_cons_self e')
      | ok a? => rfl

/-- Either no entry is at fault, or there is a first one that is. -/
theorem forall_not_fails_or_first (plugins : List Plugin) (entries : List (String × Json)) :
    (∀ entry ∈ entries, ∀ e, ¬ EntryFails plugins entry e) ∨
      ∃ before entry after e, entries = before ++ entry :: after ∧
        (∀ m ∈ before, ∀ e', ¬ EntryFails plugins m e') ∧ EntryFails plugins entry e := by
  by_cases h : ∃ entry ∈ entries, ∃ e, EntryFails plugins entry e
  · obtain ⟨before, entry, after, heq, hbefore, e, he⟩ := exists_first h
    exact Or.inr ⟨before, entry, after, e, heq, fun m hm e' he' => hbefore m hm ⟨e', he'⟩, he⟩
  · exact Or.inl fun entry hentry e he => h ⟨entry, hentry, e, he⟩

/-! ### Outcomes -/

/-- Whether a plugin of a name is registered. -/
def Registered (plugins : List Plugin) (name : String) : Prop :=
  ∃ p ∈ plugins, p.name = name

theorem missingPlugin?_eq_none_iff {b : Blueprint} :
    b.missingPlugin? = none ↔ ∀ n ∈ b.config.plugins, Registered b.plugins n := by
  simp [missingPlugin?, Registered]

theorem missingPlugin?_eq_some_iff {b : Blueprint} {name : String} :
    b.missingPlugin? = some name ↔
      ∃ before after, b.config.plugins = before ++ name :: after ∧
        (∀ n ∈ before, Registered b.plugins n) ∧ ¬ Registered b.plugins name := by
  unfold missingPlugin?
  rw [find?_eq_some_iff_first]
  simp [Registered]

/-- An entry fails as the setting of its rule does. -/
theorem entryFails_iff {c : Config} {entry : String × Json} {e : LintError}
    (h : entry ∈ c.rules) :
    EntryFails plugins entry e ↔ Fails plugins entry.1 (c.setting entry.1) e := by
  unfold EntryFails
  rw [Config.setting_of_mem h]

/-- A rule whose setting fails has an entry. -/
theorem Fails.exists_mem {c : Config} {e : LintError} (h : Fails plugins name (c.setting name) e) :
    ∃ entry ∈ c.rules, entry.1 = name := by
  have henabled : ∃ severity options, c.setting name = .enabled severity options := by
    cases hs : c.setting name with
    | disabled =>
        rw [hs] at h
        cases h
    | enabled severity options => exact ⟨severity, options, rfl⟩
  obtain ⟨severity, options, hs⟩ := henabled
  obtain ⟨raw, hmem, -⟩ := Config.exists_mem_of_enabled hs
  exact ⟨(name, raw), hmem, rfl⟩

/-- The first rule in order whose entry fails is the least one whose setting fails. -/
theorem fails_least_of_first {c : Config} {before after : List (String × Json)}
    {entry : String × Json} {e : LintError} (hrules : c.rules = before ++ entry :: after)
    (hbefore : ∀ m ∈ before, ∀ e', ¬ EntryFails plugins m e')
    (h : EntryFails plugins entry e) :
    Fails plugins entry.1 (c.setting entry.1) e ∧
      ∀ j e', Fails plugins j (c.setting j) e' → ¬ j < entry.1 := by
  have hmem : ∀ m ∈ before, m ∈ c.rules := by
    intro m hm
    rw [hrules]
    exact List.mem_append_left _ hm
  have hentry : entry ∈ c.rules := by simp [hrules]
  have hordered := c.ordered
  unfold Json.Ordered at hordered
  rw [hrules] at hordered
  have hafter := (List.pairwise_cons.1 (List.pairwise_append.1 hordered).2.1).1
  refine ⟨(entryFails_iff hentry).1 h, fun j e' hj hlt => ?_⟩
  -- A rule with a smaller name has its entry before this one, where no entry is at fault.
  obtain ⟨m, hm, rfl⟩ := hj.exists_mem
  rw [hrules] at hm
  rcases List.mem_append.1 hm with hm | hm
  · exact hbefore m hm e' ((entryFails_iff (hmem m hm)).2 hj)
  · rcases List.mem_cons.1 hm with rfl | hm
    · exact String.lt_irrefl _ hlt
    · exact String.lt_asymm hlt (hafter m hm)

theorem mem_activated {entries : List (String × Json)} {x : String × ActiveRule} :
    x ∈ activated plugins entries ↔
      ∃ raw, (x.1, raw) ∈ entries ∧ Activates plugins x.1 (Setting.ofRaw raw) x.2 := by
  unfold activated
  rw [List.mem_filterMap]
  constructor
  · rintro ⟨⟨k, raw⟩, hmem, h⟩
    split at h
    · rename_i a ha
      cases h
      exact ⟨raw, hmem, activate_eq_some_iff.1 ha⟩
    · cases h
  · rintro ⟨raw, hmem, h⟩
    refine ⟨(x.1, raw), hmem, ?_⟩
    simp [activate_eq_some_iff.2 h]

theorem ordered_activated {entries : List (String × Json)} (h : Json.Ordered entries) :
    Json.Ordered (activated plugins entries) := by
  have hname : ∀ (entry : String × Json) (x : String × ActiveRule),
      (match (activate plugins entry.1 (Setting.ofRaw entry.2)).value with
        | .ok (some a) => some (entry.1, a)
        | _ => none) = some x → x.1 = entry.1 := by
    intro entry x hx
    split at hx
    · cases hx
      rfl
    · cases hx
  refine List.pairwise_filterMap.2 (h.imp fun {m n} hlt x hx y hy => ?_)
  rw [hname m x hx, hname n y hy]
  exact hlt

/-- A plugin that is missing ends the building before any rule is looked at. -/
theorem build_of_missing {b : Blueprint} {name : String} (h : b.missingPlugin? = some name) :
    b.build.value = .error (.unknownPlugin name) := by
  simp [build, h]

theorem build_of_registered {b : Blueprint} (h : b.missingPlugin? = none) :
    b.build.value = (activateAll b.plugins b.config.rules).value.map fun active =>
      ⟨b.rules.map (fun r => ⟨r, r.defaultSeverity⟩) ++ active⟩ := by
  simp only [build, h, Logged.value_bind]
  cases (activateAll b.plugins b.config.rules).value with
  | error e => rfl
  | ok active => rfl

/-- A linter is built when the listed plugins are registered and the entries give active rules,
which come behind the rules at hand. -/
theorem build_eq_ok_iff {b : Blueprint} {l : Linter} :
    b.build.value = .ok l ↔ (∀ n ∈ b.config.plugins, Registered b.plugins n) ∧
      ∃ active, (activateAll b.plugins b.config.rules).value = .ok active ∧
        l = ⟨b.rules.map (fun r => ⟨r, r.defaultSeverity⟩) ++ active⟩ := by
  rw [← missingPlugin?_eq_none_iff]
  cases hmissing : b.missingPlugin? with
  | some name => simp [build_of_missing hmissing]
  | none =>
      rw [build_of_registered hmissing]
      cases (activateAll b.plugins b.config.rules).value with
      | error e => simp [Except.map]
      | ok active => simp [Except.map, eq_comm]

/-- What a linter is built from is complete: every listed plugin is registered, and every rule that
is enabled has a first provider that accepts its options. -/
structure Complete (b : Blueprint) : Prop where
  registered : ∀ n ∈ b.config.plugins, Registered b.plugins n
  accepted : ∀ k severity options, b.config.setting k = .enabled severity options →
    ∃ provider rule, FirstProvider b.plugins k provider ∧
      (provider.build options).value = .ok rule

theorem Complete.forall_not_fails {b : Blueprint} (h : b.Complete) :
    ∀ entry ∈ b.config.rules, ∀ e, ¬ EntryFails b.plugins entry e := by
  intro entry hentry e
  rw [entryFails_iff hentry]
  exact forall_not_fails_iff.2 (h.accepted entry.1) e

/-- A complete blueprint is built. -/
theorem Complete.build_eq {b : Blueprint} (h : b.Complete) :
    b.build.value = .ok ⟨b.rules.map (fun r => ⟨r, r.defaultSeverity⟩) ++
      (activated b.plugins b.config.rules).map Prod.snd⟩ := by
  rw [build_of_registered (missingPlugin?_eq_none_iff.2 h.registered),
    activateAll_of_forall_not_fails h.forall_not_fails]
  rfl

/-- The names of the active rules of a complete blueprint are those that the configuration
enables. -/
theorem Complete.mem_names_iff {b : Blueprint} (h : b.Complete) (k : String) :
    k ∈ (activated b.plugins b.config.rules).map Prod.fst ↔ b.config.isEnabled k := by
  unfold Config.isEnabled
  constructor
  · intro hk
    obtain ⟨⟨name, a⟩, hx, rfl⟩ := List.mem_map.1 hk
    obtain ⟨raw, hraw, hactive⟩ := mem_activated.1 hx
    rw [Config.setting_of_mem hraw]
    generalize Setting.ofRaw raw = setting at hactive ⊢
    cases hactive
    rfl
  · intro hk
    cases hs : b.config.setting k with
    | disabled => simp [hs, Setting.isEnabled] at hk
    | enabled severity options =>
        obtain ⟨raw, hraw, hof⟩ := Config.exists_mem_of_enabled hs
        obtain ⟨provider, rule, hfirst, hb⟩ := h.accepted k severity options hs
        have hactive : Activates b.plugins k (Setting.ofRaw raw)
            ⟨rule, severity.getD rule.defaultSeverity⟩ := by
          rw [hof]
          exact .intro hfirst hb
        exact List.mem_map.2 ⟨(k, _), mem_activated.2 ⟨raw, hraw, hactive⟩, rfl⟩

/-- A blueprint is complete, or it fails because of a plugin or of a rule. -/
theorem complete_or_fails (b : Blueprint) :
    b.Complete ∨
      (∃ before name after, b.config.plugins = before ++ name :: after ∧
        (∀ n ∈ before, Registered b.plugins n) ∧ ¬ Registered b.plugins name ∧
        b.build.value = .error (.unknownPlugin name)) ∨
      ((∀ n ∈ b.config.plugins, Registered b.plugins n) ∧
        ∃ k e, Fails b.plugins k (b.config.setting k) e ∧
          (∀ j e', Fails b.plugins j (b.config.setting j) e' → ¬ j < k) ∧
          b.build.value = .error e) := by
  -- Plugins come first: the entries only matter when no plugin is missing.
  cases hm : b.missingPlugin? with
  | some name =>
      obtain ⟨before, after, heq, hbefore, hname⟩ := missingPlugin?_eq_some_iff.1 hm
      exact Or.inr (Or.inl ⟨before, name, after, heq, hbefore, hname, build_of_missing hm⟩)
  | none =>
      have hregistered := missingPlugin?_eq_none_iff.1 hm
      rcases forall_not_fails_or_first b.plugins b.config.rules with hall | hfirst
      · refine Or.inl ⟨hregistered, fun k => forall_not_fails_iff.1 fun e he => ?_⟩
        obtain ⟨entry, hentry, rfl⟩ := he.exists_mem
        exact hall entry hentry e ((entryFails_iff hentry).2 he)
      · obtain ⟨before, entry, after, e, hrules, hbefore, hentry⟩ := hfirst
        obtain ⟨hfails, hleast⟩ := fails_least_of_first hrules hbefore hentry
        refine Or.inr (Or.inr ⟨hregistered, entry.1, e, hfails, hleast, ?_⟩)
        rw [build_of_registered hm, hrules, activateAll_of_first_fails hbefore hentry]
        rfl

/-- Only a complete blueprint is built. -/
theorem complete_of_build {b : Blueprint} {l : Linter} (h : b.build.value = .ok l) :
    b.Complete := by
  rcases complete_or_fails b with hcomplete | ⟨_, _, _, _, _, _, hbuild⟩ | ⟨_, _, _, _, _, hbuild⟩
  · exact hcomplete
  · rw [hbuild] at h
    cases h
  · rw [hbuild] at h
    cases h

theorem Complete.not_fails {b : Blueprint} (h : b.Complete) {k : String} {e : LintError} :
    ¬ Fails b.plugins k (b.config.setting k) e :=
  forall_not_fails_iff.2 (h.accepted k) e

theorem Fails.unique {e e' : LintError} (h : Fails plugins name setting e)
    (h' : Fails plugins name setting e') : e = e' :=
  Except.error.inj ((activate_eq_error_iff.2 h).symm.trans (activate_eq_error_iff.2 h'))

/-- A blueprint with a rule at fault and all plugins fails because of the least such rule. -/
theorem build_of_least_fails {b : Blueprint} {k : String} {e : LintError}
    (hregistered : ∀ n ∈ b.config.plugins, Registered b.plugins n)
    (hfails : Fails b.plugins k (b.config.setting k) e)
    (hleast : ∀ j e', Fails b.plugins j (b.config.setting j) e' → ¬ j < k) :
    b.build.value = .error e := by
  rcases complete_or_fails b with hcomplete | hplugin | hrule
  · exact absurd hfails hcomplete.not_fails
  · obtain ⟨before, n, after, heq, -, hn, -⟩ := hplugin
    exact absurd (hregistered n (by simp [heq])) hn
  · obtain ⟨-, k', e', hfails', hleast', hbuild⟩ := hrule
    have hk : k' = k := String.le_antisymm (String.not_lt.1 (hleast' k e hfails))
      (String.not_lt.1 (hleast k' e' hfails'))
    subst hk
    rw [hbuild, hfails.unique hfails']

/-- **The outcome of building a linter.**  A blueprint is built exactly when it is complete. The
active rules are then the given ones at their own severities, followed by one for each rule that the
configuration enables, in the order of their names. Otherwise the first plugin that is missing is
the error, and when none is missing the rule at fault with the least name is. -/
theorem build_outcome (b : Blueprint) :
    ((∃ l, b.build.value = .ok l) ↔
      (∀ n ∈ b.config.plugins, Registered b.plugins n) ∧
        ∀ k severity options, b.config.setting k = .enabled severity options →
          ∃ provider rule, FirstProvider b.plugins k provider ∧
            (provider.build options).value = .ok rule) ∧
    (∀ l, b.build.value = .ok l →
      ∃ active : List (String × ActiveRule),
        l.rules = b.rules.map (fun r => ⟨r, r.defaultSeverity⟩) ++ active.map Prod.snd ∧
        (∀ k, k ∈ active.map Prod.fst ↔ b.config.isEnabled k) ∧
        ((active.map Prod.fst).Pairwise fun j k => Text.bytes j < Text.bytes k) ∧
        ∀ x ∈ active, Activates b.plugins x.1 (b.config.setting x.1) x.2) ∧
    (∀ e, b.build.value = .error e ↔
      (∃ before name after, b.config.plugins = before ++ name :: after ∧
        (∀ n ∈ before, Registered b.plugins n) ∧ ¬ Registered b.plugins name ∧
        e = .unknownPlugin name) ∨
      ((∀ n ∈ b.config.plugins, Registered b.plugins n) ∧
        ∃ k, Fails b.plugins k (b.config.setting k) e ∧
          ∀ j e', Fails b.plugins j (b.config.setting j) e' → Text.bytes k ≤ Text.bytes j)) := by
  have hle : ∀ {j k : String}, Text.bytes k ≤ Text.bytes j ↔ ¬ j < k := by
    intro j k
    rw [← List.not_lt, Text.bytes_lt_iff]
  refine ⟨⟨?_, ?_⟩, ?_, fun e => ⟨?_, ?_⟩⟩
  · rintro ⟨l, hl⟩
    exact ⟨(complete_of_build hl).registered, (complete_of_build hl).accepted⟩
  · rintro ⟨hregistered, haccepted⟩
    exact ⟨_, Complete.build_eq ⟨hregistered, haccepted⟩⟩
  · intro l hl
    have hcomplete := complete_of_build hl
    obtain rfl := Except.ok.inj (hcomplete.build_eq.symm.trans hl)
    refine ⟨activated b.plugins b.config.rules, rfl, hcomplete.mem_names_iff, ?_, ?_⟩
    · refine List.pairwise_map.2 ((ordered_activated b.config.ordered).imp fun {x y} hlt => ?_)
      exact Text.bytes_lt_iff.2 hlt
    · intro x hx
      obtain ⟨raw, hraw, hactive⟩ := mem_activated.1 hx
      rw [Config.setting_of_mem hraw]
      exact hactive
  · intro he
    rcases complete_or_fails b with hcomplete | hplugin | hrule
    · rw [hcomplete.build_eq] at he
      cases he
    · obtain ⟨before, n, after, heq, hbefore, hn, hbuild⟩ := hplugin
      exact Or.inl ⟨before, n, after, heq, hbefore, hn,
        Except.error.inj (he.symm.trans hbuild)⟩
    · obtain ⟨hregistered, k, e', hfails, hleast, hbuild⟩ := hrule
      obtain rfl : e = e' := Except.error.inj (he.symm.trans hbuild)
      exact Or.inr ⟨hregistered, k, hfails, fun j e' hj => hle.2 (hleast j e' hj)⟩
  · rintro (⟨before, n, after, heq, hbefore, hn, rfl⟩ | ⟨hregistered, k, hfails, hleast⟩)
    · exact build_of_missing (missingPlugin?_eq_some_iff.2 ⟨before, after, heq, hbefore, hn⟩)
    · exact build_of_least_fails hregistered hfails fun j e' hj => hle.1 (hleast j e' hj)

end Blueprint

end TemplateLint
