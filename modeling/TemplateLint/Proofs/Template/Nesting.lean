import TemplateLint.Proofs.Json.Nesting
import TemplateLint.Template.Decode

/-!
# Nodes inside nodes

Nodes are read with a bound on the nesting of their data. The bound is there for the recursion
only: data within the bound is read as it is with any larger one. So the reading of nodes satisfies
the equation that one would write without a bound, in which the nodes inside a node are read by the
same reading.

## Main definitions

* `Node.kinds`: how each kind of node is read, given how the nodes inside it are

## Main statements

* `Node.decodeWithin_eq_decode`: a bound that data keeps has no effect on its reading
* `Node.decode_eq`, `Template.decode_eq`: the equations of the readings
-/

namespace TemplateLint

open Json (Place Decoder AgreeBelow)

section

variable {bound : Nat} {node node' : Decoder Node} {place : Place}

/-! ### One node -/

theorem Element.decodeBy_agreeBelow (h : AgreeBelow bound node node') :
    AgreeBelow (bound + 1) (Element.decodeBy node place) (Element.decodeBy node' place) := by
  refine Json.agreeBelow_decode ?_
  intro s hs
  have hchildren :
      s.optional "children" [] (Json.list node) = s.optional "children" [] (Json.list node') :=
    s.field_congr _ fun v hv => Json.agreeBelow_list h (hs "children" v hv)
  simp only [hchildren]

theorem decodeBodyBy_agreeBelow (h : AgreeBelow bound node node') :
    AgreeBelow (bound + 1) (decodeBodyBy node place) (decodeBodyBy node' place) := by
  refine Json.agreeBelow_decode ?_
  intro s hs
  exact s.field_congr _ fun v hv => Json.agreeBelow_list h (hs "body" v hv)

theorem Block.decodeBy_agreeBelow (h : AgreeBelow bound node node') :
    AgreeBelow (bound + 1) (Block.decodeBy node place) (Block.decodeBy node' place) := by
  refine Json.agreeBelow_decode ?_
  intro s hs
  have hbody : AgreeBelow bound (decodeBodyBy node place) (decodeBodyBy node' place) :=
    fun v hv => decodeBodyBy_agreeBelow h (Nat.lt_succ_of_lt hv)
  have hprogram : s.optional "program" [] (decodeBodyBy node place) =
      s.optional "program" [] (decodeBodyBy node' place) :=
    s.field_congr _ fun v hv => hbody (hs "program" v hv)
  have hinverse : s.optional "inverse" none (Json.nullable (decodeBodyBy node place)) =
      s.optional "inverse" none (Json.nullable (decodeBodyBy node' place)) :=
    s.field_congr _ fun v hv => Json.agreeBelow_nullable hbody (hs "inverse" v hv)
  simp only [hprogram, hinverse]

/-- The kinds of nodes, each with a reading of what is left without the tag, given how the nodes
inside it are read. -/
def Node.kinds : List (String × (Decoder Node → Decoder Node)) :=
  [("ElementNode", fun node j => (Element.decodeBy node .tagged j).map Element.toNode),
    ("BlockStatement", fun node j => (Block.decodeBy node .tagged j).map Block.toNode),
    ("TextNode", fun _ j => (Literal.decode .tagged j).map .literal),
    ("MustacheStatement", fun _ j => (Mustache.decode .tagged j).map .mustache)]

theorem Node.variants_eq (node : Decoder Node) :
    Node.variants node = Node.kinds.map fun k => (k.1, k.2 node) := rfl

/-- A node uses the reading of nodes only for data that is nested less deep than its own. -/
theorem Node.decodeBy_agreeBelow (h : AgreeBelow bound node node') :
    AgreeBelow (bound + 1) (Node.decodeBy node place) (Node.decodeBy node' place) := by
  have hkinds : ∀ k ∈ Node.kinds, AgreeBelow (bound + 1) (k.2 node) (k.2 node') := by
    intro k hk j hj
    simp only [Node.kinds, List.mem_cons, List.not_mem_nil, or_false] at hk
    rcases hk with rfl | rfl | rfl | rfl
    · exact congrArg (Except.map Element.toNode) (Element.decodeBy_agreeBelow h hj)
    · exact congrArg (Except.map Block.toNode) (Block.decodeBy_agreeBelow h hj)
    · rfl
    · rfl
  unfold Node.decodeBy
  rw [Node.variants_eq, Node.variants_eq]
  exact Json.agreeBelow_tagged hkinds "Node" .other

end

/-! ### All nodes -/

/-- **A larger bound reads no differently what is within the smaller one.** -/
theorem Node.decodeWithin_agreeBelow {b b' : Nat} (hle : b ≤ b') (place : Place) :
    AgreeBelow (b + 1) (Node.decodeWithin place b) (Node.decodeWithin place b') := by
  induction b generalizing b' place with
  | zero =>
      intro j hj
      cases b' with
      | zero => rfl
      | succ b' =>
          -- Data that is not nested is no node, whichever bound finds that out.
          cases j with
          | arr items => simp [Json.depth] at hj
          | obj members => simp [Json.depth] at hj
          | _ => rfl
  | succ b ih =>
      cases b' with
      | zero => omega
      | succ b' => exact Node.decodeBy_agreeBelow (ih (Nat.le_of_succ_le_succ hle) .tagged)

/-- A bound that the data keeps has no effect. -/
theorem Node.decodeWithin_eq_decode {bound : Nat} {j : Json} (h : j.depth ≤ bound)
    (place : Place) : Node.decodeWithin place bound j = Node.decode place j :=
  (Node.decodeWithin_agreeBelow h place (Nat.lt_succ_self _)).symm

/-- **The nodes inside a node are read as nodes.** -/
theorem Node.decode_eq (place : Place) :
    Node.decode place = Node.decodeBy (Node.decode .tagged) place := by
  funext j
  have hinner :
      AgreeBelow (j.depth + 1) (Node.decodeWithin .tagged j.depth) (Node.decode .tagged) :=
    fun v hv => Node.decodeWithin_eq_decode (Nat.le_of_lt_succ hv) .tagged
  calc Node.decode place j
      = Node.decodeWithin place (j.depth + 1) j :=
        (Node.decodeWithin_eq_decode (Nat.le_succ _) place).symm
    _ = Node.decodeBy (Node.decodeWithin .tagged j.depth) place j := rfl
    _ = Node.decodeBy (Node.decode .tagged) place j :=
        Node.decodeBy_agreeBelow hinner (Nat.lt_succ_of_lt (Nat.lt_succ_self _))

/-- The statements of a template are read as nodes. -/
theorem Template.decode_eq :
    Template.decode = Template.record.decode .plain fun s =>
      Template.mk <$> s.optional "body" [] (Json.list (Node.decode .plain)) := by
  funext j
  have hnode : AgreeBelow j.depth (Node.decodeWithin .plain j.depth) (Node.decode .plain) :=
    fun v hv => Node.decodeWithin_eq_decode (Nat.le_of_lt hv) .plain
  unfold Template.decode
  refine Json.agreeBelow_decode ?_ (Nat.lt_succ_self j.depth)
  intro s hs
  have hbody : s.optional "body" [] (Json.list (Node.decodeWithin .plain j.depth)) =
      s.optional "body" [] (Json.list (Node.decode .plain)) :=
    s.field_congr _ fun v hv => Json.agreeBelow_list hnode (hs "body" v hv)
  simp only [hbody]

end TemplateLint
