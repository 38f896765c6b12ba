import TemplateLint.Denylist.Rule
import TemplateLint.Proofs.Linter.Build

/-!
# Disabled rules

A configuration may name rules only to disable them. Nobody has to provide such a rule, and its
provider is not asked. A setting asks for this in three ways. One of them is an array that begins
with `off`, but it is understood when it has two items only; an array of any other length is taken
for the options of the rule, even if `off` is all that stands in it.

## Main definitions

* `Setting.AsksOff`: the raw settings that ask for a rule to be disabled
* `Setting.Misread`: those that are taken for options instead

## Main statements

* `Blueprint.build_of_disabled`: a linter for which all rules are disabled has the given rules only
* `Blueprint.build_of_misread`: a denylist that is to be disabled by a misread setting is refused
* `Blueprint.settings_understood`: how a setting is understood, and what follows for the linter
-/

namespace TemplateLint

/-! ### Asking for a rule to be disabled -/

namespace Setting

/-- **The raw settings that ask for a rule to be disabled**: false, `off`, and an array of any
length that begins with `off`. -/
inductive AsksOff : Json → Prop where
  | false : AsksOff (.bool false)
  | off : AsksOff (.str "off")
  | array (rest : List Json) : AsksOff (.arr (.str "off" :: rest))

/-- Whether a setting is an array that begins with `off` and is no pair. -/
def Misread (raw : Json) : Prop :=
  ∃ rest, raw = .arr (.str "off" :: rest) ∧ rest.length ≠ 1

variable {raw : Json}

/-- What disables a rule asks for it, and what asks for it does so unless it is misread. -/
theorem disables_iff : Disables raw ↔ AsksOff raw ∧ ¬ Misread raw := by
  constructor
  · intro h
    cases h with
    | false => exact ⟨.false, by rintro ⟨rest, ⟨⟩, -⟩⟩
    | off => exact ⟨.off, by rintro ⟨rest, ⟨⟩, -⟩⟩
    | pair options =>
        refine ⟨.array [options], ?_⟩
        rintro ⟨rest, ⟨⟩, hlength⟩
        exact hlength rfl
  · rintro ⟨hasks, hread⟩
    cases hasks with
    | false => exact .false
    | off => exact .off
    | array rest =>
        have hlength : rest.length = 1 := by
          by_contra hne
          exact hread ⟨rest, rfl, hne⟩
        obtain ⟨options, rfl⟩ := List.length_eq_one_iff.1 hlength
        exact .pair options

/-- A misread setting names no severity either. -/
theorem Misread.not_overrides (h : Misread raw) (severity : Severity) (options : Json) :
    ¬ Overrides raw severity options := by
  obtain ⟨rest, rfl, hlength⟩ := h
  intro hoverrides
  cases hoverrides
  exact hlength rfl

theorem ofRaw_of_misread (h : Misread raw) : ofRaw raw = verbatim raw :=
  ofRaw_of_other (fun hdisables => (disables_iff.1 hdisables).2 h) h.not_overrides

end Setting

/-! ### Linters -/

namespace Blueprint

variable {plugins : List Plugin}

/-- Entries that disable their rules activate nothing. -/
theorem activated_of_disabled {entries : List (String × Json)}
    (h : ∀ entry ∈ entries, Setting.Disables entry.2) : activated plugins entries = [] := by
  refine List.filterMap_eq_nil_iff.2 fun entry hentry => ?_
  rw [Setting.ofRaw_of_disables (h entry hentry), activate_eq_none_iff.2 rfl]

/-- An entry that disables its rule is never at fault, whether the rule is provided or not. -/
theorem not_entryFails_of_disabled {entry : String × Json} (h : Setting.Disables entry.2)
    (e : LintError) : ¬ EntryFails plugins entry e := by
  unfold EntryFails
  rw [Setting.ofRaw_of_disables h]
  intro hfails
  cases hfails

/-- **A linter for which all rules are disabled** has the given rules only. -/
theorem build_of_disabled {b : Blueprint}
    (registered : ∀ n ∈ b.config.plugins, Registered b.plugins n)
    (disabled : ∀ entry ∈ b.config.rules, Setting.Disables entry.2) :
    b.build.value = .ok ⟨b.rules.map fun r => ⟨r, r.defaultSeverity⟩⟩ := by
  rw [build_of_registered (missingPlugin?_eq_none_iff.2 registered),
    activateAll_of_forall_not_fails fun entry hentry => not_entryFails_of_disabled
      (disabled entry hentry), activated_of_disabled disabled]
  simp [Except.map]

/-- What a linter is built from when all that is set is a setting for the rule of denylists. -/
def ofDenylistSetting (raw : Json) : Blueprint where
  plugins := [Denylist.plugin]
  config := .ofSettings [] [(Denylist.ruleName, raw)]

/-- **A misread setting is refused.**  The rule of denylists is asked to accept an array as its
options, and no linter is built. -/
theorem build_of_misread {raw : Json} (h : Setting.Misread raw) :
    ∃ e, (ofDenylistSetting raw).build.value = .error (.configuration e) := by
  have hactivate : (activate [Denylist.plugin] Denylist.ruleName (Setting.ofRaw raw)).value =
      .error (.configuration ⟨Denylist.ruleName, [Denylist.docsPointer], raw⟩) := by
    rw [Setting.ofRaw_of_misread h]
    obtain ⟨rest, rfl, -⟩ := h
    rfl
  refine ⟨⟨Denylist.ruleName, [Denylist.docsPointer], raw⟩, ?_⟩
  rw [build_of_registered (missingPlugin?_eq_none_iff.2 (List.forall_mem_nil _))]
  change (activateAll [Denylist.plugin] [(Denylist.ruleName, raw)]).value.map _ = _
  rw [activateAll_cons, hactivate]
  rfl

/-- **How a setting is understood.**  It disables its rule if it asks for that and is not misread.
It enables the rule at a severity if it names one, alone or in a pair. Else, and also when it is
misread, it enables the rule and is its options. A configuration that asks for no plugins, and whose
settings all ask for their rules to be disabled, is built with any plugins if none of the settings
is misread, and then the plugins have no part in the linter. If the only setting is a misread one
for the rule of denylists, no linter is built. -/
theorem settings_understood (raw : Json) (b : Blueprint) :
    (Setting.ofRaw raw = .disabled ↔ Setting.AsksOff raw ∧ ¬ Setting.Misread raw) ∧
    (∀ severity options, Setting.ofRaw raw = .enabled (some severity) options ↔
      Setting.Overrides raw severity options) ∧
    (∀ options, Setting.ofRaw raw = .enabled none options ↔ options = raw ∧
      (Setting.Misread raw ∨
        ¬ Setting.AsksOff raw ∧ ∀ severity o, ¬ Setting.Overrides raw severity o)) ∧
    (b.config.plugins = [] →
      (∀ entry ∈ b.config.rules, Setting.AsksOff entry.2 ∧ ¬ Setting.Misread entry.2) →
        b.build.value = .ok ⟨b.rules.map fun r => ⟨r, r.defaultSeverity⟩⟩) ∧
    (Setting.Misread raw →
      ∃ e, (ofDenylistSetting raw).build.value = .error (.configuration e)) := by
  refine ⟨Setting.ofRaw_eq_disabled_iff.trans Setting.disables_iff,
    fun _ _ => Setting.ofRaw_eq_override_iff, fun options => ?_, fun hplugins hasks => ?_,
    build_of_misread⟩
  · rw [Setting.ofRaw_eq_verbatim_iff, Setting.disables_iff]
    refine and_congr_right fun _ => ⟨fun ⟨hnot, hoverrides⟩ => ?_, ?_⟩
    · by_cases hmisread : Setting.Misread raw
      · exact Or.inl hmisread
      · exact Or.inr ⟨fun hasks => hnot ⟨hasks, hmisread⟩, hoverrides⟩
    · rintro (hmisread | ⟨hasks, hoverrides⟩)
      · exact ⟨fun h => h.2 hmisread, hmisread.not_overrides⟩
      · exact ⟨fun h => hasks h.1, hoverrides⟩
  · exact build_of_disabled (by simp [hplugins]) fun entry hentry =>
      Setting.disables_iff.2 (hasks entry hentry)

theorem offAlone_refused :
    (¬ ∀ raw, Setting.ofRaw raw = .disabled ↔ Setting.AsksOff raw) ∧
    ∃ e, (ofDenylistSetting (.arr [.str "off"])).build.value = .error (.configuration e) := by
  constructor
  · intro h
    have hdisabled := (h (.arr [.str "off"])).2 (.array [])
    cases hdisabled
  · exact ⟨_, rfl⟩

end Blueprint

end TemplateLint
