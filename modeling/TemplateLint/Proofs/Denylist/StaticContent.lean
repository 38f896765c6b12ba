import TemplateLint.Linter
import TemplateLint.Denylist.Rule
import TemplateLint.Proofs.Template.Edit

/-!
# Only static content matters

A denylist looks at the static text of attributes and reports at the place of the attribute, with
the source of the element. So what it finds in a template depends on nothing but the static view of
the template, and an edit that keeps the static view goes unnoticed.

## Main statements

* `Denylist.visit_staticView`: the rule sees no more of an element than the static view
* `Denylist.lint_eq_of_edits`: edits of what is not static change no finding
-/

namespace TemplateLint

/-! ### Attributes in a static view -/

@[simp] theorem Attribute.staticText_staticView (a : Attribute) :
    a.staticView.value.staticText = a.value.staticText := rfl

/-- The first attribute of a name is the same in the static view, since names are kept. -/
theorem Element.attribute?_staticView (e : Element) (name : String) :
    e.staticView.attribute? name = (e.attribute? name).map Attribute.staticView := by
  unfold Element.attribute? Element.staticView
  rw [List.find?_map]
  rfl

namespace Denylist

/-- An offence of an attribute as one of its static view. -/
def Offence.staticView (o : Offence) : Offence :=
  { o with target := o.target.staticView }

theorem Entry.offences_staticView (entry : Entry) (e : Element) :
    entry.offences e.staticView = (entry.offences e).map Offence.staticView := by
  unfold Entry.offences
  rw [e.attribute?_staticView entry.name]
  cases e.attribute? entry.name with
  | none => rfl
  | some target =>
      simp only [Option.map_some, Attribute.staticText_staticView, List.map_map]
      rfl

theorem offences_staticView (d : Denylist) (e : Element) :
    d.offences e.staticView = (d.offences e).map fun (entry, o) => (entry, o.staticView) := by
  unfold offences
  rw [List.map_flatMap]
  simp only [Entry.offences_staticView, List.map_map]
  rfl

/-- **The rule sees no more of an element than its static view.**  Neither the diagnostic of an
offence nor what the log says about it holds anything else. -/
theorem visit_staticView (d : Denylist) (scope : Scope) (e : Element) :
    d.visit scope e.staticView = d.visit scope e := by
  unfold visit
  rw [offences_staticView]
  simp only [List.map_map]
  rfl

/-! ### Templates -/

theorem inspect_eq_flatMap_staticView (d : Denylist) (severity : Severity) (t : Template)
    (source : String) :
    (⟨d.rule, severity⟩ : ActiveRule).inspect t source =
      Logged.flatMap t.staticView (d.visit ⟨ruleName, severity, source⟩) := by
  have hvisit : (fun e : Element => d.visit ⟨ruleName, severity, source⟩ e.staticView) =
      d.visit ⟨ruleName, severity, source⟩ := by
    funext e
    exact d.visit_staticView ⟨ruleName, severity, source⟩ e
  calc (⟨d.rule, severity⟩ : ActiveRule).inspect t source
      = Logged.flatMap t.elements (fun e => d.visit ⟨ruleName, severity, source⟩ e.staticView) := by
        rw [hvisit]
        rfl
    _ = Logged.flatMap t.staticView (d.visit ⟨ruleName, severity, source⟩) := by
        unfold Logged.flatMap Template.staticView staticViews
        simp only [List.flatMap_map]
        rfl

/-- **Only static content matters.**  A linter that runs the rule of a denylist finds the same in
two templates, and says the same in its log, when edits of what is not static lead from one to the
other. -/
theorem lint_eq_of_edits (d : Denylist) (severity : Severity) (source : String) {t t' : Template}
    (h : Relation.EqvGen Template.Edit t t') :
    Linter.lint ⟨[⟨d.rule, severity⟩]⟩ t source = Linter.lint ⟨[⟨d.rule, severity⟩]⟩ t' source := by
  have hinspect : (⟨d.rule, severity⟩ : ActiveRule).inspect t source =
      (⟨d.rule, severity⟩ : ActiveRule).inspect t' source := by
    rw [inspect_eq_flatMap_staticView, inspect_eq_flatMap_staticView, staticView_eq_of_edits h]
  unfold Linter.lint
  simp only [Logged.flatMap, List.flatMap_cons, List.flatMap_nil, hinspect]

/-- An element in a block, with an interpolation in its class, and a comment in the other body. -/
def conditional : Template :=
  ⟨[.block ⟨"if"⟩
    [.element "p" [⟨"class", .concat ⟨[.literal ⟨"a", Span.unknown⟩,
      .mustache ⟨⟨"x"⟩, Span.unknown⟩, .literal ⟨"b", Span.unknown⟩], Span.unknown⟩, Span.unknown⟩]
      [] Span.unknown]
    (some [.other]) Span.unknown]⟩

/-- The same element behind an interpolation, with nothing but text in its class. -/
def unconditional : Template :=
  ⟨[.mustache ⟨⟨"y"⟩, Span.unknown⟩,
    .element "p" [⟨"class", .concat ⟨[.literal ⟨"a", Span.unknown⟩, .literal ⟨"b", Span.unknown⟩],
      Span.unknown⟩, Span.unknown⟩] [] Span.unknown]⟩

theorem edits_conditional_unconditional :
    Relation.EqvGen Template.Edit conditional unconditional := by
  let mixed : List Part := [.literal ⟨"a", Span.unknown⟩, .mustache ⟨⟨"x"⟩, Span.unknown⟩,
    .literal ⟨"b", Span.unknown⟩]
  let plain : List Part := [.literal ⟨"a", Span.unknown⟩, .literal ⟨"b", Span.unknown⟩]
  let p (parts : List Part) : Node :=
    .element "p" [⟨"class", .concat ⟨parts, Span.unknown⟩, Span.unknown⟩] [] Span.unknown
  have hother : Node.Inert .other := trivial
  have hmustache : Node.Inert (.mustache ⟨⟨"y"⟩, Span.unknown⟩) := trivial
  have hdissolve : Template.Edit conditional ⟨[p mixed, .other]⟩ :=
    NodesEdit.dissolve ⟨"if"⟩ [p mixed] (some [.other]) Span.unknown
  have hdelete : Template.Edit ⟨[p mixed, .other]⟩ ⟨[p mixed]⟩ :=
    NodesEdit.amid [p mixed] [] (.delete hother)
  have hparts : PartsEdit mixed plain :=
    PartsEdit.amid [.literal ⟨"a", Span.unknown⟩] [.literal ⟨"b", Span.unknown⟩] (.delete rfl)
  have hvalue : Template.Edit ⟨[p mixed]⟩ ⟨[p plain]⟩ :=
    NodesEdit.value "p" "class" [] [] [] Span.unknown Span.unknown (.parts Span.unknown hparts)
  have hinsert : Template.Edit ⟨[p plain]⟩ unconditional :=
    NodesEdit.amid [] [p plain] (.insert hmustache)
  exact (((Relation.EqvGen.rel _ _ hdissolve).trans _ _ _ (.rel _ _ hdelete)).trans _ _ _
    (.rel _ _ hvalue)).trans _ _ _ (.rel _ _ hinsert)

theorem lint_eq_of_edits_conditional :
    Relation.EqvGen Template.Edit conditional unconditional ∧
      Linter.lint ⟨[⟨rule ⟨[⟨"class", ["a b"]⟩]⟩, .error⟩]⟩ conditional "" =
        Linter.lint ⟨[⟨rule ⟨[⟨"class", ["a b"]⟩]⟩, .error⟩]⟩ unconditional "" :=
  ⟨edits_conditional_unconditional,
    lint_eq_of_edits ⟨[⟨"class", ["a b"]⟩]⟩ .error "" edits_conditional_unconditional⟩

end Denylist

end TemplateLint
