import Mathlib.Data.List.Forall2
import TemplateLint.Proofs.Template.Edit

/-!
# Attributes in another order

An attribute is asked for by its name, and the first one of that name answers. So the attributes of
an element may be put in another order as long as those of one name keep theirs, and an attribute
behind another one of its name may come and go. Such changes leave alone what an element shows under
each name, and with it all that can be learned of the element without going through its attributes.

## Main definitions

* `AttributesRearranged`, `NodesRearranged`, `Template.Rearranged`: one rearrangement, at any depth
* `Element.SameByName`: elements that show the same under each name

## Main statements

* `find?_eq_of_rearranged`: a rearrangement keeps the first attribute of each name
* `sameByName_of_rearranged`: the elements of a rearranged tree show the same, one by one
-/

namespace TemplateLint

/-! ### Rearrangements -/

/-- One rearrangement of attributes. -/
inductive AttributesRearranged : List Attribute → List Attribute → Prop
  /-- Attributes of one name stay in their order. -/
  | permute {as bs : List Attribute} (perm : as.Perm bs)
      (kept : ∀ name, as.filter (·.name = name) = bs.filter (·.name = name)) :
      AttributesRearranged as bs
  /-- An attribute is inserted behind one of its name. -/
  | insert {a : Attribute} (before after : List Attribute)
      (shadowed : ∃ b ∈ before, b.name = a.name) :
      AttributesRearranged (before ++ after) (before ++ a :: after)
  /-- An attribute behind one of its name is deleted. -/
  | delete {a : Attribute} (before after : List Attribute)
      (shadowed : ∃ b ∈ before, b.name = a.name) :
      AttributesRearranged (before ++ a :: after) (before ++ after)

/-- Neighbours of different names may change places. -/
theorem AttributesRearranged.swap {a b : Attribute} (h : a.name ≠ b.name)
    (before after : List Attribute) :
    AttributesRearranged (before ++ a :: b :: after) (before ++ b :: a :: after) := by
  refine .permute ((List.Perm.swap b a after).append_left before) fun name => ?_
  rw [List.filter_append, List.filter_append]
  congr 1
  by_cases ha : a.name = name
  · have hb : b.name ≠ name := ha ▸ h.symm
    simp [ha, hb]
  · simp [List.filter_cons, ha]

/-- One rearrangement of the attributes of an element, at any depth of some statements. -/
inductive NodesRearranged : List Node → List Node → Prop
  | attributes (tag : String) (children : List Node) (loc : Span) {as bs : List Attribute}
      (h : AttributesRearranged as bs) :
      NodesRearranged [.element tag as children loc] [.element tag bs children loc]
  | children (tag : String) (attributes : List Attribute) (loc : Span) {ns ms : List Node}
      (h : NodesRearranged ns ms) :
      NodesRearranged [.element tag attributes ns loc] [.element tag attributes ms loc]
  | program (path : Path) (inverse : Option (List Node)) (loc : Span) {ns ms : List Node}
      (h : NodesRearranged ns ms) :
      NodesRearranged [.block path ns inverse loc] [.block path ms inverse loc]
  | inverse (path : Path) (program : List Node) (loc : Span) {ns ms : List Node}
      (h : NodesRearranged ns ms) :
      NodesRearranged [.block path program (some ns) loc] [.block path program (some ms) loc]
  /-- A rearrangement amid other statements. -/
  | amid (before after : List Node) {ns ms : List Node} (h : NodesRearranged ns ms) :
      NodesRearranged (before ++ ns ++ after) (before ++ ms ++ after)

/-- One rearrangement of a template. -/
def Template.Rearranged (t t' : Template) : Prop :=
  NodesRearranged t.body t'.body

/-! ### First attributes -/

/-- An attribute behind one of its name is not the first one of any name. -/
theorem find?_append_cons_of_shadowed {a : Attribute} {before : List Attribute}
    (shadowed : ∃ b ∈ before, b.name = a.name) (after : List Attribute) (name : String) :
    (before ++ a :: after).find? (·.name = name) = (before ++ after).find? (·.name = name) := by
  rw [List.find?_append, List.find?_append]
  cases hbefore : before.find? (·.name = name) with
  | some b => rfl
  | none =>
      have hname : a.name ≠ name := by
        obtain ⟨b, hb, hba⟩ := shadowed
        have hne := List.find?_eq_none.1 hbefore b hb
        simpa [hba] using hne
      rw [List.find?_cons_of_neg (by simpa using hname)]

/-- **A rearrangement keeps the first attribute of each name.** -/
theorem find?_eq_of_rearranged {as bs : List Attribute} (h : AttributesRearranged as bs)
    (name : String) : as.find? (·.name = name) = bs.find? (·.name = name) := by
  cases h with
  | permute _ kept => rw [← List.head?_filter, kept name, List.head?_filter]
  | insert before after shadowed => exact (find?_append_cons_of_shadowed shadowed after name).symm
  | delete before after shadowed => exact find?_append_cons_of_shadowed shadowed after name

/-! ### Elements -/

/-- **Whether two elements show the same under each name.**  Their children do not matter, and
neither does what stands behind the first attribute of a name. -/
structure Element.SameByName (e e' : Element) : Prop where
  tag_eq : e.tag = e'.tag
  loc_eq : e.loc = e'.loc
  attribute?_eq : ∀ name, e.attribute? name = e'.attribute? name

theorem Element.sameByName_self (es : List Element) : List.Forall₂ SameByName es es :=
  List.forall₂_same.2 fun _ _ => ⟨rfl, rfl, fun _ => rfl⟩

/-- **The elements of a rearranged tree show the same**, one by one, by induction on the place of
the rearrangement. -/
theorem sameByName_of_rearranged {ns ms : List Node} (h : NodesRearranged ns ms) :
    List.Forall₂ Element.SameByName (nodesElements ns) (nodesElements ms) := by
  induction h with
  | attributes tag children loc h =>
      rw [nodesElements_element, nodesElements_element]
      exact .cons ⟨rfl, rfl, find?_eq_of_rearranged h⟩ (Element.sameByName_self _)
  | children tag attributes loc _ ih =>
      rw [nodesElements_element, nodesElements_element]
      exact .cons ⟨rfl, rfl, fun _ => rfl⟩ ih
  | program path inverse loc _ ih =>
      rw [nodesElements_block, nodesElements_block]
      exact List.rel_append ih (Element.sameByName_self _)
  | inverse path program loc _ ih =>
      rw [nodesElements_block, nodesElements_block]
      exact List.rel_append (Element.sameByName_self _) ih
  | amid before after _ ih =>
      simp only [nodesElements_append]
      exact List.rel_append (List.rel_append (Element.sameByName_self _) ih)
        (Element.sameByName_self _)

end TemplateLint
