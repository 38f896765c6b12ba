import TemplateLint.Config.Basic

/-!
# The settings of a configuration

A configuration holds each name once, so that what it says about a rule is what its only entry for
that rule says. An entry may disable its rule, or enable it at a severity; whatever else it says,
the rule is enabled and has the entry as its options.

## Main definitions

* `Severity.Named`: the severities that a setting may name
* `Setting.Disables`, `Setting.Overrides`: the raw settings that disable a rule, or give it a
  severity

## Main statements

* `Json.lookup_of_mem`: looking up a name in members in order
* `Setting.ofRaw_eq_disabled_iff`, `Setting.ofRaw_eq_override_iff`, `Setting.ofRaw_eq_verbatim_iff`:
  what a raw setting says
* `Config.setting_of_mem`: the setting of a rule that has an entry
* `Config.exists_mem_of_enabled`: only a rule that has an entry is enabled
-/

namespace TemplateLint

namespace Json

/-- In members in order, each member is found under its name. -/
theorem lookup_of_mem {name : String} {v : Json} {members : List (String × Json)}
    (ordered : Ordered members) (h : (name, v) ∈ members) : lookup name members = some v := by
  obtain ⟨before, after, rfl⟩ := List.append_of_mem h
  refine List.lookup_eq_some_iff.2 ⟨before, after, rfl, fun m hm => bne_iff_ne.2 ?_⟩
  have hlt : m.1 < name := (List.pairwise_append.1 ordered).2.2 m hm _ List.mem_cons_self
  exact (String.ne_of_lt hlt).symm

end Json

/-! ### Raw settings -/

/-- The severities by the names that a setting may use. -/
inductive Severity.Named : Severity → String → Prop where
  | error : Named .error "error"
  | warn : Named .warning "warn"
  | warning : Named .warning "warning"
  | info : Named .info "info"

theorem Severity.ofName?_eq_some_iff {name : String} {severity : Severity} :
    ofName? name = some severity ↔ severity.Named name := by
  constructor
  · intro h
    unfold ofName? at h
    split at h
    · cases h
      exact .error
    · cases h
      exact .warn
    · cases h
      exact .warning
    · cases h
      exact .info
    · cases h
  · rintro (_ | _ | _ | _) <;> rfl

namespace Setting

/-- **The raw settings that disable a rule**: false, `off`, and a pair of `off` and anything. -/
inductive Disables : Json → Prop where
  | false : Disables (.bool false)
  | off : Disables (.str "off")
  | pair (options : Json) : Disables (.arr [.str "off", options])

/-- **The raw settings that enable a rule at a severity**, and the options that they give it: the
name of a severity gives the options `true`, and a pair of such a name and options gives these. -/
inductive Overrides : Json → Severity → Json → Prop where
  | name {name : String} {severity : Severity} : severity.Named name →
    Overrides (.str name) severity (.bool true)
  | pair {name : String} {severity : Severity} {options : Json} : severity.Named name →
    Overrides (.arr [.str name, options]) severity options

variable {raw options : Json} {name : String} {severity : Severity}

theorem ofName_of_named (h : severity.Named name) :
    ofName name options raw = .enabled (some severity) options := by
  cases h <;> rfl

theorem ofName_of_unnamed (hoff : name ≠ "off") (h : ∀ s : Severity, ¬ s.Named name) :
    ofName name options raw = verbatim raw := by
  have hnone : Severity.ofName? name = none :=
    Option.eq_none_iff_forall_ne_some.2 fun s hs => h s (Severity.ofName?_eq_some_iff.1 hs)
  simp only [ofName, if_neg hoff, hnone]

theorem ofRaw_of_disables (h : Disables raw) : ofRaw raw = .disabled := by
  cases h <;> rfl

theorem ofRaw_of_overrides (h : Overrides raw severity options) :
    ofRaw raw = .enabled (some severity) options := by
  cases h with
  | name h => exact ofName_of_named h
  | pair h => exact ofName_of_named h

/-- What neither disables a rule nor gives it a severity is the options of the rule. -/
theorem ofRaw_of_other (hdisables : ¬ Disables raw) (hoverrides : ∀ s o, ¬ Overrides raw s o) :
    ofRaw raw = verbatim raw := by
  unfold ofRaw
  split
  · exact absurd .false hdisables
  · refine ofName_of_unnamed ?_ fun s hs => hoverrides s _ (.name hs)
    rintro rfl
    exact hdisables .off
  · refine ofName_of_unnamed ?_ fun s hs => hoverrides s _ (.pair hs)
    rintro rfl
    exact hdisables (.pair _)
  · rfl

/-- A setting disables its rule, or enables it at a severity, or is the options of the rule. -/
theorem ofRaw_cases (raw : Json) :
    (Disables raw ∧ ofRaw raw = .disabled) ∨
      (∃ s o, Overrides raw s o ∧ ofRaw raw = .enabled (some s) o) ∨
      ((¬ Disables raw ∧ ∀ s o, ¬ Overrides raw s o) ∧ ofRaw raw = verbatim raw) := by
  by_cases hdisables : Disables raw
  · exact Or.inl ⟨hdisables, ofRaw_of_disables hdisables⟩
  · by_cases hoverrides : ∃ s o, Overrides raw s o
    · obtain ⟨s, o, h⟩ := hoverrides
      exact Or.inr (Or.inl ⟨s, o, h, ofRaw_of_overrides h⟩)
    · have hnone : ∀ s o, ¬ Overrides raw s o := fun s o h => hoverrides ⟨s, o, h⟩
      exact Or.inr (Or.inr ⟨⟨hdisables, hnone⟩, ofRaw_of_other hdisables hnone⟩)

/-- **When a setting disables its rule.** -/
theorem ofRaw_eq_disabled_iff : ofRaw raw = .disabled ↔ Disables raw := by
  refine ⟨fun h => ?_, ofRaw_of_disables⟩
  rcases ofRaw_cases raw with ⟨hdisables, -⟩ | ⟨s, o, -, heq⟩ | ⟨-, heq⟩
  · exact hdisables
  · rw [heq] at h
    cases h
  · rw [heq] at h
    cases h

/-- **When a setting enables its rule at a severity**, and with which options. -/
theorem ofRaw_eq_override_iff :
    ofRaw raw = .enabled (some severity) options ↔ Overrides raw severity options := by
  refine ⟨fun h => ?_, ofRaw_of_overrides⟩
  rcases ofRaw_cases raw with ⟨-, heq⟩ | ⟨s, o, hoverrides, heq⟩ | ⟨-, heq⟩
  · rw [heq] at h
    cases h
  · rw [heq] at h
    cases h
    exact hoverrides
  · rw [heq] at h
    cases h

/-- **When a setting is the options of its rule.** -/
theorem ofRaw_eq_verbatim_iff :
    ofRaw raw = .enabled none options ↔
      options = raw ∧ ¬ Disables raw ∧ ∀ s o, ¬ Overrides raw s o := by
  constructor
  · intro h
    rcases ofRaw_cases raw with ⟨-, heq⟩ | ⟨s, o, -, heq⟩ | ⟨hother, heq⟩
    · rw [heq] at h
      cases h
    · rw [heq] at h
      cases h
    · rw [heq] at h
      cases h
      exact ⟨rfl, hother⟩
  · rintro ⟨rfl, hdisables, hoverrides⟩
    exact ofRaw_of_other hdisables hoverrides

/-- A pair with the name of a severity enables a rule at that severity. -/
theorem ofRaw_pair (severity : Severity) (options : Json) :
    ofRaw (.arr [.str severity.name, options]) = .enabled (some severity) options := by
  cases severity <;> rfl

end Setting

namespace Config

/-- The setting of a rule is what its entry says. -/
theorem setting_of_mem {c : Config} {name : String} {raw : Json} (h : (name, raw) ∈ c.rules) :
    c.setting name = Setting.ofRaw raw := by
  unfold setting
  rw [Json.lookup_of_mem c.ordered h]

/-- A rule that is enabled has an entry that enables it. -/
theorem exists_mem_of_enabled {c : Config} {name : String} {severity : Option Severity}
    {options : Json} (h : c.setting name = .enabled severity options) :
    ∃ raw, (name, raw) ∈ c.rules ∧ Setting.ofRaw raw = .enabled severity options := by
  unfold setting at h
  split at h
  · rename_i raw hraw
    obtain ⟨before, after, hrules, -⟩ := List.lookup_eq_some_iff.1 hraw
    exact ⟨raw, by simp [hrules], h⟩
  · cases h

end Config

end TemplateLint
