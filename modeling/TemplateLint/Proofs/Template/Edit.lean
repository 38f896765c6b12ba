import Mathlib.Logic.Relation
import TemplateLint.Template.Basic

/-!
# Edits that leave the static content alone

What is known of a template beforehand is its elements with their attributes, and of the attributes
the text that does not depend on interpolations. Text between elements, interpolations, comments
and blocks are none of that. An edit changes one of these at some place of the tree; the static
view of a template is what no edit changes.

## Main definitions

* `PartsEdit`, `ValueEdit`, `NodesEdit`, `Template.Edit`: one edit, at any depth
* `Element.staticView`, `Template.staticView`: what edits leave alone

## Main statements

* `staticText_eq_of_valueEdit`: an edit of a value keeps its static text
* `staticView_eq_of_edits`: any number of edits keep the static view of a template
-/

namespace TemplateLint

/-! ### Edits -/

/-- One edit of the parts of a mixed value. -/
inductive PartsEdit : List Part → List Part → Prop
  | insert {p : Part} (dynamic : p.staticText? = none) : PartsEdit [] [p]
  | delete {p : Part} (dynamic : p.staticText? = none) : PartsEdit [p] []
  | mustache (m m' : Mustache) : PartsEdit [.mustache m] [.mustache m']
  | move (chars : String) (loc loc' : Span) :
      PartsEdit [.literal ⟨chars, loc⟩] [.literal ⟨chars, loc'⟩]
  /-- An edit amid other parts. -/
  | amid (before after : List Part) {ps qs : List Part} (h : PartsEdit ps qs) :
      PartsEdit (before ++ ps ++ after) (before ++ qs ++ after)

/-- One edit of the value of an attribute. -/
inductive ValueEdit : Value → Value → Prop
  | mustache (m m' : Mustache) : ValueEdit (.mustache m) (.mustache m')
  | toUnknown (m : Mustache) : ValueEdit (.mustache m) .unknown
  | ofUnknown (m : Mustache) : ValueEdit .unknown (.mustache m)
  | move (chars : String) (loc loc' : Span) :
      ValueEdit (.literal ⟨chars, loc⟩) (.literal ⟨chars, loc'⟩)
  | moveConcat (parts : List Part) (loc loc' : Span) :
      ValueEdit (.concat ⟨parts, loc⟩) (.concat ⟨parts, loc'⟩)
  | parts {ps qs : List Part} (loc : Span) (h : PartsEdit ps qs) :
      ValueEdit (.concat ⟨ps, loc⟩) (.concat ⟨qs, loc⟩)

/-- A statement that is text, an interpolation, or of a kind that is not modelled. -/
def Node.Inert : Node → Prop
  | .literal _ => True
  | .mustache _ => True
  | .other => True
  | .element .. => False
  | .block .. => False

/-- One edit of some statements, or of what is inside one of them. -/
inductive NodesEdit : List Node → List Node → Prop
  | insert {n : Node} (inert : n.Inert) : NodesEdit [] [n]
  | delete {n : Node} (inert : n.Inert) : NodesEdit [n] []
  | mustache (m m' : Mustache) : NodesEdit [.mustache m] [.mustache m']
  | move (chars : String) (loc loc' : Span) :
      NodesEdit [.literal ⟨chars, loc⟩] [.literal ⟨chars, loc'⟩]
  /-- A block is replaced by its main body, followed by its `else` body. -/
  | dissolve (path : Path) (program : List Node) (inverse : Option (List Node)) (loc : Span) :
      NodesEdit [.block path program inverse loc] (program ++ inverse.getD [])
  | block (path path' : Path) (program : List Node) (inverse : Option (List Node))
      (loc loc' : Span) :
      NodesEdit [.block path program inverse loc] [.block path' program inverse loc']
  /-- An edit of the value of one attribute. -/
  | value (tag name : String) (before after : List Attribute) (children : List Node)
      (place loc : Span) {v w : Value} (h : ValueEdit v w) :
      NodesEdit [.element tag (before ++ ⟨name, v, place⟩ :: after) children loc]
        [.element tag (before ++ ⟨name, w, place⟩ :: after) children loc]
  | children (tag : String) (attributes : List Attribute) (loc : Span) {ns ms : List Node}
      (h : NodesEdit ns ms) :
      NodesEdit [.element tag attributes ns loc] [.element tag attributes ms loc]
  | program (path : Path) (inverse : Option (List Node)) (loc : Span) {ns ms : List Node}
      (h : NodesEdit ns ms) :
      NodesEdit [.block path ns inverse loc] [.block path ms inverse loc]
  | inverse (path : Path) (program : List Node) (loc : Span) {ns ms : List Node}
      (h : NodesEdit ns ms) :
      NodesEdit [.block path program (some ns) loc] [.block path program (some ms) loc]
  /-- An edit amid other statements. -/
  | amid (before after : List Node) {ns ms : List Node} (h : NodesEdit ns ms) :
      NodesEdit (before ++ ns ++ after) (before ++ ms ++ after)

/-- One edit of a template. -/
def Template.Edit (t t' : Template) : Prop :=
  NodesEdit t.body t'.body

/-! ### Static views -/

/-- An attribute with nothing of its value but the static text. -/
def Attribute.staticView (a : Attribute) : Attribute :=
  { a with value := .literal ⟨a.value.staticText, Span.unknown⟩ }

/-- An element without its children, and with static attributes. -/
def Element.staticView (e : Element) : Element :=
  { e with attributes := e.attributes.map Attribute.staticView, children := [] }

/-- The elements of some nodes, one by one, in their static views. -/
def staticViews (ns : List Node) : List Element :=
  (nodesElements ns).map Element.staticView

/-- The elements of a template, one by one, in their static views. -/
def Template.staticView (t : Template) : List Element :=
  staticViews t.body

theorem nodesElements_append (ns ms : List Node) :
    nodesElements (ns ++ ms) = nodesElements ns ++ nodesElements ms := by
  simp only [nodesElements_eq_flatMap, List.flatMap_append]

theorem nodesElements_element (tag : String) (attributes : List Attribute) (children : List Node)
    (loc : Span) :
    nodesElements [.element tag attributes children loc] =
      ⟨tag, attributes, children, loc⟩ :: nodesElements children := by
  simp [nodesElements, Node.elements]

theorem nodesElements_block (path : Path) (program : List Node) (inverse : Option (List Node))
    (loc : Span) :
    nodesElements [.block path program inverse loc] =
      nodesElements program ++ nodesElements (inverse.getD []) := by
  cases inverse with
  | none => simp [nodesElements, Node.elements]
  | some body => simp [nodesElements, Node.elements]

theorem staticViews_append (ns ms : List Node) :
    staticViews (ns ++ ms) = staticViews ns ++ staticViews ms := by
  unfold staticViews
  rw [nodesElements_append, List.map_append]

theorem staticViews_of_inert {n : Node} (h : n.Inert) : staticViews [n] = [] := by
  cases n with
  | element => exact h.elim
  | block => exact h.elim
  | literal => rfl
  | mustache => rfl
  | other => rfl

theorem staticViews_element (tag : String) (attributes : List Attribute) (children : List Node)
    (loc : Span) :
    staticViews [.element tag attributes children loc] =
      ⟨tag, attributes.map Attribute.staticView, [], loc⟩ :: staticViews children := by
  unfold staticViews
  rw [nodesElements_element]
  rfl

theorem staticViews_block (path : Path) (program : List Node) (inverse : Option (List Node))
    (loc : Span) :
    staticViews [.block path program inverse loc] =
      staticViews program ++ staticViews (inverse.getD []) := by
  unfold staticViews
  rw [nodesElements_block, List.map_append]

/-! ### Edits and static views -/

/-- An edit of parts keeps their static texts. -/
theorem filterMap_staticText?_eq_of_partsEdit {ps qs : List Part} (h : PartsEdit ps qs) :
    ps.filterMap Part.staticText? = qs.filterMap Part.staticText? := by
  induction h with
  | insert dynamic => simp [dynamic]
  | delete dynamic => simp [dynamic]
  | mustache => rfl
  | move => rfl
  | amid before after _ ih => simp only [List.filterMap_append, ih]

/-- An edit of a value keeps its static text. -/
theorem staticText_eq_of_valueEdit {v w : Value} (h : ValueEdit v w) :
    v.staticText = w.staticText := by
  cases h with
  | mustache => rfl
  | toUnknown => rfl
  | ofUnknown => rfl
  | move => rfl
  | moveConcat => rfl
  | parts loc h =>
      simp only [Value.staticText]
      rw [filterMap_staticText?_eq_of_partsEdit h]

/-- **An edit keeps the static views of all elements.** -/
theorem staticViews_eq_of_nodesEdit {ns ms : List Node} (h : NodesEdit ns ms) :
    staticViews ns = staticViews ms := by
  induction h with
  | insert inert => rw [staticViews_of_inert inert]; rfl
  | delete inert => rw [staticViews_of_inert inert]; rfl
  | mustache => rfl
  | move => rfl
  | dissolve => rw [staticViews_block, staticViews_append]
  | block => rw [staticViews_block, staticViews_block]
  | value tag name before after children place loc h =>
      rw [staticViews_element, staticViews_element]
      simp only [List.map_append, List.map_cons, Attribute.staticView, staticText_eq_of_valueEdit h]
  | children tag attributes loc _ ih => rw [staticViews_element, staticViews_element, ih]
  | program path inverse loc _ ih => rw [staticViews_block, staticViews_block, ih]
  | inverse path program loc _ ih =>
      rw [staticViews_block, staticViews_block, Option.getD_some, Option.getD_some, ih]
  | amid before after _ ih => simp only [staticViews_append, ih]

/-- Any number of edits keep the static view of a template, in whichever direction they lead. -/
theorem staticView_eq_of_edits {t t' : Template} (h : Relation.EqvGen Template.Edit t t') :
    t.staticView = t'.staticView := by
  induction h with
  | rel t t' h => exact staticViews_eq_of_nodesEdit h
  | refl t => rfl
  | symm t t' _ ih => exact ih.symm
  | trans t t' t'' _ _ ih ih' => exact ih.trans ih'

end TemplateLint
