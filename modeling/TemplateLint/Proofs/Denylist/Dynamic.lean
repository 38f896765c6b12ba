import TemplateLint.Proofs.Denylist.Findings
import TemplateLint.Proofs.Denylist.Meaning
import TemplateLint.Proofs.Denylist.Normal
import TemplateLint.Proofs.Denylist.StaticContent

/-!
# Values that are not known beforehand

Of an interpolation nothing is known before the template is rendered, so its static text is empty.
The only pattern that is found in the empty text is the empty one, and that is why reading a
denylist drops the empty patterns: what is left is not found in such a value, whatever its anchors
are. A denylist that was not read from data may hold the empty pattern, and finds it there.

## Main definitions

* `Value.Dynamic`: the values of which nothing is known beforehand

## Main statements

* `Value.staticText_of_dynamic`: their static text is empty
* `Denylist.Entry.offences_of_dynamic`: a usable entry is not offended by them
* `Denylist.visit_of_dynamic`: the rule does not look at them, and goes on after them
-/

namespace TemplateLint

/-! ### Dynamic values -/

/-- **Whether nothing of a value is known beforehand**: it is an interpolation, it mixes parts none
of which is text, or it is of a kind that is not modelled. -/
def Value.Dynamic : Value → Prop
  | .literal _ => False
  | .mustache _ => True
  | .concat c => ∀ t, Part.literal t ∉ c.parts
  | .unknown => True

/-- The static text of a dynamic value is empty. -/
theorem Value.staticText_of_dynamic {v : Value} (h : v.Dynamic) : v.staticText = "" := by
  cases v with
  | literal t => exact h.elim
  | mustache m => rfl
  | concat c =>
      have hnone : c.parts.filterMap Part.staticText? = [] := by
        refine List.filterMap_eq_nil_iff.2 fun p hp => ?_
        cases p with
        | literal t => exact absurd hp (h t)
        | mustache m => rfl
        | unknown => rfl
      rw [Value.staticText, hnone]
      rfl
  | unknown => rfl

/-- In a static view dynamic values are all the same. -/
theorem Attribute.staticView_of_dynamic {a : Attribute} (h : a.value.Dynamic) {v : Value}
    (hv : v.Dynamic) : ({ a with value := v } : Attribute).staticView = a.staticView := by
  unfold staticView
  rw [Value.staticText_of_dynamic h, Value.staticText_of_dynamic hv]

namespace Denylist

/-- A usable entry is not offended by an element whose attribute of its name is dynamic, because
none of its patterns is empty. -/
theorem Entry.offences_of_dynamic {entry : Entry} (h : entry.Usable) {e : Element}
    {target : Attribute} (hfirst : e.attribute? entry.name = some target)
    (hdynamic : target.value.Dynamic) : entry.offences e = [] := by
  have hfound : forbiddenIn target.value.staticText entry.values = [] := by
    refine List.filter_eq_nil_iff.2 fun pattern hpattern => ?_
    rw [Value.staticText_of_dynamic hdynamic, forbids_empty_iff]
    exact h.value_ne_empty pattern hpattern
  simp only [Entry.offences, hfirst, hfound, List.map_nil]

/-- Entries that an element does not offend may be left out. -/
theorem visit_filter {d : Denylist} {e : Element} {p : Entry → Bool}
    (h : ∀ entry ∈ d.entries, ¬ p entry → entry.offences e = []) (scope : Scope) :
    (⟨d.entries.filter p⟩ : Denylist).visit scope e = d.visit scope e := by
  have hoffences : (⟨d.entries.filter p⟩ : Denylist).offences e = d.offences e := by
    unfold offences
    refine flatMap_filter_of_forall fun entry hentry hp => ?_
    rw [h entry hentry hp, List.map_nil]
  unfold visit
  rw [hoffences]

/-- **Dynamic values are never flagged.**  When a denylist has been read from data, and the first
attribute of some name has a dynamic value, then no entry of that name is offended, and the rule
reports what it would report without these entries. With any other dynamic value in its place the
rule reports the same. -/
theorem visit_of_dynamic {raw : Json} {d : Denylist} (hread : (parse raw).value = .ok d)
    {e : Element} {before after : List Attribute} {target : Attribute}
    (hplace : e.attributes = before ++ target :: after)
    (hfirst : ∀ a ∈ before, a.name ≠ target.name) (hdynamic : target.value.Dynamic)
    (scope : Scope) :
    (∀ entry ∈ d.entries, entry.name = target.name → entry.offences e = []) ∧
    d.rule.visit scope e =
      (rule ⟨d.entries.filter (·.name ≠ target.name)⟩).visit scope e ∧
    ∀ v : Value, v.Dynamic →
      d.rule.visit scope { e with attributes := before ++ { target with value := v } :: after } =
        d.rule.visit scope e := by
  have hquiet : ∀ entry ∈ d.entries, entry.name = target.name → entry.offences e = [] := by
    intro entry hentry hname
    have husable : entry.Usable := normal_of_read (parse_eq_ok_iff.1 hread) entry hentry
    have hfound : e.attribute? entry.name = some target := by
      rw [hname, attribute?_eq_some_iff]
      exact ⟨before, after, hplace, rfl, hfirst⟩
    exact Entry.offences_of_dynamic husable hfound hdynamic
  refine ⟨hquiet, ?_, fun v hv => ?_⟩
  · symm
    apply visit_filter
    intro entry hentry hname
    exact hquiet entry hentry (by simpa using hname)
  · show d.visit scope _ = d.visit scope e
    -- The rule sees static views only, and these do not show which dynamic value it is.
    rw [← visit_staticView, ← d.visit_staticView scope e]
    congr 1
    unfold Element.staticView
    rw [hplace, List.map_append, List.map_append, List.map_cons, List.map_cons,
      Attribute.staticView_of_dynamic hdynamic hv]

/-- A denylist that forbids any identifier, and one class. -/
def anyIdentifier : Denylist := ⟨[⟨"id", ["^", "$"]⟩, ⟨"class", ["foo"]⟩]⟩

/-- An interpolated identifier. -/
def interpolated : Attribute :=
  ⟨"id", .mustache ⟨⟨"this.id"⟩, Span.unknown⟩, ⟨⟨1, 5⟩, ⟨1, 19⟩⟩⟩

/-- An element with that identifier, and with a class that is known beforehand. -/
def division : Element :=
  ⟨"div", [interpolated, ⟨"class", .literal ⟨"foo", Span.unknown⟩, ⟨⟨1, 20⟩, ⟨1, 31⟩⟩⟩], [],
    ⟨⟨1, 0⟩, ⟨1, 38⟩⟩⟩

theorem visit_of_dynamic_interpolated :
    (parse anyIdentifier.toRaw).value = .ok anyIdentifier ∧
      division.attributes = [] ++ interpolated :: division.attributes.tail ∧
      interpolated.value.Dynamic ∧ Value.Dynamic .unknown ∧
      (∀ entry ∈ anyIdentifier.entries, entry.name = "id" → entry.offences division = []) ∧
      anyIdentifier.rule.visit ⟨"denylist", .error, ""⟩ division =
        (rule ⟨[⟨"class", ["foo"]⟩]⟩).visit ⟨"denylist", .error, ""⟩ division ∧
      anyIdentifier.rule.visit ⟨"denylist", .error, ""⟩
          { division with
            attributes := { interpolated with value := .unknown } :: division.attributes.tail } =
        anyIdentifier.rule.visit ⟨"denylist", .error, ""⟩ division := by
  have hread : (parse anyIdentifier.toRaw).value = .ok anyIdentifier := rfl
  have hplace : division.attributes = [] ++ interpolated :: division.attributes.tail := rfl
  have hdynamic : interpolated.value.Dynamic := trivial
  have hunknown : Value.Dynamic .unknown := trivial
  obtain ⟨hquiet, hvisit, hreplace⟩ :=
    visit_of_dynamic hread hplace (List.forall_mem_nil _) hdynamic ⟨"denylist", .error, ""⟩
  exact ⟨hread, hplace, hdynamic, hunknown, hquiet, hvisit, hreplace .unknown hunknown⟩

example :
    let e : Element :=
      ⟨"div", [⟨"id", .unknown, Span.unknown⟩,
        ⟨"class", .literal ⟨"foo", Span.unknown⟩, Span.unknown⟩], [], Span.unknown⟩
    ((rule ⟨[⟨"id", ["^", "$"]⟩, ⟨"class", ["foo"]⟩]⟩).visit ⟨"denylist", .error, ""⟩ e).value.map
        (·.message) =
      ["The value 'foo' is present in attribute 'class', but is forbidden"] := by
  decide

end Denylist

end TemplateLint
