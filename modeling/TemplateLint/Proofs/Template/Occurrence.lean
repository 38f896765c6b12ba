import TemplateLint.Template.Basic

/-!
# Occurrences of elements in a tree

`Template.elements` lists the elements of a template. A list of elements does not say where they
stand: two elements may be equal, and then it is not clear which of them is meant. A route says how
to get from a list of nodes down to one element, through children, main bodies and `else` bodies, so
that routes tell occurrences apart.

## Main definitions

* `Route` and `Route.element?`: a way down a tree, and the element at its end
* `Route.index`: how many elements stand before the end of a route
* `routesOf`: the routes to the elements of some nodes

## Main statements

* `mem_routesOf_iff`: the routes of `routesOf` are exactly those that lead to an element
* `map_element?_routesOf`: they lead to the elements of `nodesElements`, in the same order
* `map_index_routesOf`: their indices are `0`, `1`, `2`, …
* `getElem?_index`: an index is the place of its element among the elements of the nodes
-/

namespace TemplateLint

/-- A way from a list of nodes down to one element. -/
inductive Route where
  /-- The element is the first node. -/
  | here
  /-- The element is among the children of the first node. -/
  | child (r : Route)
  /-- The element is in the main body of the first node. -/
  | program (r : Route)
  /-- The element is in the `else` body of the first node. -/
  | inverse (r : Route)
  /-- The element is in the nodes after the first one. -/
  | next (r : Route)
  deriving DecidableEq, Repr

namespace Route

/-- The element at the end of a route, unless the route does not fit the nodes. -/
def element? : Route → List Node → Option Element
  | .here, .element tag attributes children loc :: _ => some ⟨tag, attributes, children, loc⟩
  | .child r, .element _ _ children _ :: _ => r.element? children
  | .program r, .block _ body _ _ :: _ => r.element? body
  | .inverse r, .block _ _ (some body) _ :: _ => r.element? body
  | .next r, _ :: rest => r.element? rest
  | _, _ => none

/-- The place of the element at the end of a route among all elements of the nodes, counted from
zero: an element stands before its children, and the main body of a block before its `else` body. -/
def index : Route → List Node → Nat
  | .child r, .element _ _ children _ :: _ => r.index children + 1
  | .program r, .block _ body _ _ :: _ => r.index body
  | .inverse r, .block _ main (some body) _ :: _ => (nodesElements main).length + r.index body
  | .next r, n :: rest => n.elements.length + r.index rest
  | _, _ => 0

end Route

mutual

/-- The routes to the elements of a node that is the first one of a list. -/
def Node.routes : Node → List Route
  | .element _ _ children _ => .here :: (routesOf children).map .child
  | .block _ program (some inverse) _ =>
    (routesOf program).map .program ++ (routesOf inverse).map .inverse
  | .block _ program none _ => (routesOf program).map .program
  | .literal _ => []
  | .mustache _ => []
  | .other => []

/-- The routes to the elements of some nodes. -/
def routesOf : List Node → List Route
  | [] => []
  | n :: ns => n.routes ++ (routesOf ns).map .next

end

/-! ### Routes and elements -/

mutual

private theorem map_element?_routes :
    ∀ (n : Node) (ns : List Node),
      n.routes.map (·.element? (n :: ns)) = n.elements.map some
  | .element tag attributes children loc, ns => by
    have ih := map_element?_routesOf children
    simpa [Node.routes, Node.elements, Route.element?, Function.comp_def] using ih
  | .block path program (some inverse) loc, ns => by
    have ih₁ := map_element?_routesOf program
    have ih₂ := map_element?_routesOf inverse
    simp [Node.routes, Node.elements, Route.element?, Function.comp_def, ih₁, ih₂]
  | .block path program none loc, ns => by
    have ih := map_element?_routesOf program
    simpa [Node.routes, Node.elements, Route.element?, Function.comp_def] using ih
  | .literal _, ns => rfl
  | .mustache _, ns => rfl
  | .other, ns => rfl

/-- The routes of some nodes lead to their elements, in the same order. -/
theorem map_element?_routesOf :
    ∀ ns : List Node, (routesOf ns).map (·.element? ns) = (nodesElements ns).map some
  | [] => rfl
  | n :: ns => by
    have ih₁ := map_element?_routes n ns
    have ih₂ := map_element?_routesOf ns
    simpa [routesOf, nodesElements, Route.element?, Function.comp_def, ih₁] using ih₂

end

/-- **Every route is listed.**  The induction is on the route, which says at each step which of the
lists of routes it comes from. -/
theorem mem_routesOf_of_element? {r : Route} {ns : List Node} {e : Element}
    (h : r.element? ns = some e) : r ∈ routesOf ns := by
  induction r generalizing ns with
  | here =>
    match ns with
    | .element .. :: _ => simp [routesOf, Node.routes]
    | [] | .block .. :: _ | .literal _ :: _ | .mustache _ :: _ | .other :: _ =>
      simp [Route.element?] at h
  | child r ih =>
    match ns with
    | .element .. :: _ => simpa [routesOf, Node.routes] using ih h
    | [] | .block .. :: _ | .literal _ :: _ | .mustache _ :: _ | .other :: _ =>
      simp [Route.element?] at h
  | program r ih =>
    match ns with
    | .block _ _ none _ :: _ | .block _ _ (some _) _ :: _ =>
      simpa [routesOf, Node.routes] using ih h
    | [] | .element .. :: _ | .literal _ :: _ | .mustache _ :: _ | .other :: _ =>
      simp [Route.element?] at h
  | inverse r ih =>
    match ns with
    | .block _ _ (some _) _ :: _ => simpa [routesOf, Node.routes] using ih h
    | [] | .element .. :: _ | .block _ _ none _ :: _ | .literal _ :: _ | .mustache _ :: _
    | .other :: _ => simp [Route.element?] at h
  | next r ih =>
    match ns with
    | n :: ns => exact List.mem_append_right _ (List.mem_map_of_mem (ih h))
    | [] => simp [Route.element?] at h

/-- The routes of some nodes are exactly those that lead to an element. -/
theorem mem_routesOf_iff {r : Route} {ns : List Node} :
    r ∈ routesOf ns ↔ ∃ e, r.element? ns = some e := by
  constructor
  · intro h
    have hmem : r.element? ns ∈ (nodesElements ns).map some := by
      rw [← map_element?_routesOf]
      exact List.mem_map_of_mem h
    obtain ⟨e, -, he⟩ := List.mem_map.1 hmem
    exact ⟨e, he.symm⟩
  · rintro ⟨e, he⟩
    exact mem_routesOf_of_element? he

/-! ### Indices -/

mutual

private theorem map_index_routes :
    ∀ (n : Node) (ns : List Node),
      n.routes.map (·.index (n :: ns)) = List.range n.elements.length
  | .element tag attributes children loc, ns => by
    have ih := map_index_routesOf children
    have hsucc : (routesOf children).map (fun r => r.index children + 1) =
        (List.range (nodesElements children).length).map Nat.succ := by
      rw [← ih, List.map_map]
      rfl
    simp [Node.routes, Node.elements, Route.index, Function.comp_def, hsucc,
      List.range_succ_eq_map]
  | .block path program (some inverse) loc, ns => by
    have ih₁ := map_index_routesOf program
    have ih₂ := map_index_routesOf inverse
    have hshift : (routesOf inverse).map
          (fun r => (nodesElements program).length + r.index inverse) =
        (List.range (nodesElements inverse).length).map ((nodesElements program).length + ·) := by
      rw [← ih₂, List.map_map]
      rfl
    simp [Node.routes, Node.elements, Route.index, Function.comp_def, ih₁, hshift,
      ← List.range_add]
  | .block path program none loc, ns => by
    have ih := map_index_routesOf program
    simpa [Node.routes, Node.elements, Route.index, Function.comp_def] using ih
  | .literal _, ns => rfl
  | .mustache _, ns => rfl
  | .other, ns => rfl

/-- **The indices of the routes count the elements.** -/
theorem map_index_routesOf :
    ∀ ns : List Node, (routesOf ns).map (·.index ns) = List.range (nodesElements ns).length
  | [] => rfl
  | n :: ns => by
    have ih₁ := map_index_routes n ns
    have ih₂ := map_index_routesOf ns
    have hshift : (routesOf ns).map (fun r => n.elements.length + r.index ns) =
        (List.range (nodesElements ns).length).map (n.elements.length + ·) := by
      rw [← ih₂, List.map_map]
      rfl
    simp [routesOf, nodesElements, Route.index, Function.comp_def, ih₁, hshift,
      ← List.range_add]

end

/-- Along the routes of some nodes the index grows. -/
theorem pairwise_index_routesOf (ns : List Node) :
    (routesOf ns).Pairwise fun r s => r.index ns < s.index ns := by
  have h : ((routesOf ns).map (·.index ns)).Pairwise (· < ·) := by
    rw [map_index_routesOf]
    exact List.pairwise_lt_range
  exact List.pairwise_map.1 h

/-- The index of a route is the place of its element among the elements of the nodes. -/
theorem getElem?_index {r : Route} {ns : List Node} {e : Element} (h : r.element? ns = some e) :
    (nodesElements ns)[r.index ns]? = some e := by
  obtain ⟨n, hn⟩ := List.mem_iff_getElem?.1 (mem_routesOf_of_element? h)
  -- Both lists are read at the place of the route among all routes, which is its index.
  have hindex : ((routesOf ns).map (·.index ns))[n]? = some (r.index ns) := by
    rw [List.getElem?_map, hn]
    rfl
  have helement : ((routesOf ns).map (·.element? ns))[n]? = some (some e) := by
    rw [List.getElem?_map, hn, Option.map_some, h]
  rw [map_index_routesOf] at hindex
  rw [map_element?_routesOf, List.getElem?_map] at helement
  obtain ⟨_, hplace⟩ := List.getElem?_eq_some_iff.1 hindex
  obtain ⟨e', he', heq⟩ := Option.map_eq_some_iff.1 helement
  rw [List.getElem_range] at hplace
  rw [← hplace, he', Option.some.inj heq]

end TemplateLint
