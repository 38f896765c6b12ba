import TemplateLint.Proofs.Json.Reading

/-!
# Decoders and nesting

A decoder of lists, records or tagged values hands to other decoders only values that are nested
less deep than the one it reads, or the same value without its tag. So two such decoders read a
value alike when their parts agree below the depth of that value.

## Main definitions

* `Json.AgreeBelow`: decoders that agree on every value nested less deep than a bound

## Main statements

* `agreeBelow_list`, `agreeBelow_nullable`, `agreeBelow_decode`, `agreeBelow_tagged`: decoders agree
  when their parts do
-/

namespace TemplateLint.Json

variable {α δ : Type}

/-! ### Depth -/

theorem itemsDepth_le_iff {items : List Json} {n : Nat} :
    itemsDepth items ≤ n ↔ ∀ v ∈ items, v.depth ≤ n := by
  induction items with
  | nil => simp [itemsDepth]
  | cons v rest ih => rw [itemsDepth, Nat.max_le, ih, List.forall_mem_cons]

theorem membersDepth_le_iff {members : List (String × Json)} {n : Nat} :
    membersDepth members ≤ n ↔ ∀ m ∈ members, m.2.depth ≤ n := by
  induction members with
  | nil => simp [membersDepth]
  | cons m rest ih => rw [membersDepth, Nat.max_le, ih, List.forall_mem_cons]

theorem depth_lt_of_mem_items {items : List Json} {v : Json} (h : v ∈ items) :
    v.depth < (Json.arr items).depth :=
  Nat.lt_succ_of_le (itemsDepth_le_iff.1 (Nat.le_refl _) v h)

theorem depth_lt_of_mem_members {members : List (String × Json)} {m : String × Json}
    (h : m ∈ members) : m.2.depth < (Json.obj members).depth :=
  Nat.lt_succ_of_le (membersDepth_le_iff.1 (Nat.le_refl _) m h)

theorem depth_obj_filter_le (p : String × Json → Bool) (members : List (String × Json)) :
    (Json.obj (members.filter p)).depth ≤ (Json.obj members).depth := by
  refine Nat.succ_le_succ (membersDepth_le_iff.2 ?_)
  intro m hm
  exact membersDepth_le_iff.1 (Nat.le_refl _) m (List.mem_filter.1 hm).1

theorem depth_arr_le_cons (v : Json) (items : List Json) :
    (Json.arr items).depth ≤ (Json.arr (v :: items)).depth :=
  Nat.succ_le_succ (Nat.le_max_right _ _)

/-! ### Agreement -/

/-- Two decoders read every value alike that is nested less deep than `bound`. -/
def AgreeBelow (bound : Nat) (d d' : Decoder α) : Prop :=
  ∀ ⦃j : Json⦄, j.depth < bound → d j = d' j

section

variable {bound : Nat} {place : Place}

theorem mapM_congr {item item' : Decoder α} {items : List Json}
    (h : ∀ v ∈ items, item v = item' v) : items.mapM item = items.mapM item' := by
  induction items with
  | nil => rfl
  | cons v rest ih =>
      have hrest := ih fun w hw => h w (List.mem_cons_of_mem v hw)
      rw [List.mapM_cons, List.mapM_cons, h v List.mem_cons_self, hrest]

theorem agreeBelow_list {item item' : Decoder α} (h : AgreeBelow bound item item') :
    AgreeBelow bound (list item) (list item') := by
  intro j hj
  cases j with
  | arr items =>
      have hitems : ∀ v ∈ items, item v = item' v :=
        fun v hv => h (Nat.lt_trans (depth_lt_of_mem_items hv) hj)
      exact mapM_congr hitems
  | _ => rfl

theorem agreeBelow_nullable {item item' : Decoder α} (h : AgreeBelow bound item item') :
    AgreeBelow bound (nullable item) (nullable item') := by
  intro j hj
  have hitem : item j = item' j := h hj
  cases j with
  | null => rfl
  | _ => exact congrArg (Except.map some) hitem

/-- A record is read alike when its fields are, given that they are nested less deep. -/
theorem agreeBelow_decode {r : Record} {read read' : Fields → Reading α}
    (h : ∀ s : Fields, (∀ name, ∀ v ∈ s.values name, v.depth < bound) → read s = read' s) :
    AgreeBelow (bound + 1) (r.decode place read) (r.decode place read') := by
  intro j hj
  cases j with
  | obj members =>
      have hread : read ⟨r, .named members⟩ = read' ⟨r, .named members⟩ := by
        refine h _ ?_
        intro name v hv
        have hdepth : v.depth < (Json.obj members).depth :=
          depth_lt_of_mem_members (mem_of_mem_valuesOf hv)
        omega
      simp only [Record.decode, hread]
  | arr items =>
      have hread : read ⟨r, .positional items⟩ = read' ⟨r, .positional items⟩ := by
        refine h _ ?_
        intro name v hv
        have hdepth : v.depth < (Json.arr items).depth :=
          depth_lt_of_mem_items (List.mem_of_getElem? (Option.mem_toList.1 hv))
        omega
      simp only [Record.decode, hread]
  | _ => rfl

/-! ### Tagged values -/

theorem variantOf_kinds (kinds : List (String × (δ → Decoder α))) (x : δ) (tag : Json) :
    variantOf (kinds.map fun k => (k.1, k.2 x)) place tag =
      (variantOf kinds place tag).map (Option.map fun read => read x) := by
  cases tag with
  | str s => simp [variantOf, List.find?_map, Except.map, Function.comp_def]
  | int n =>
      by_cases h : place = .tagged ∧ 0 ≤ n
      · simp [variantOf, h, Except.map, Function.comp_def]
      · simp [variantOf, h, Except.map]
  | _ => rfl

theorem exists_mem_of_variantOf {variants : List (String × α)} {tag : Json} {a : α}
    (h : variantOf variants place tag = .ok (some a)) : ∃ k ∈ variants, k.2 = a := by
  cases tag with
  | str s =>
      obtain ⟨k, hfind, hk⟩ := Option.map_eq_some_iff.1 (Except.ok.inj h)
      exact ⟨k, List.mem_of_find?_eq_some hfind, hk⟩
  | int n =>
      simp only [variantOf] at h
      split at h
      · obtain ⟨k, hget, hk⟩ := Option.map_eq_some_iff.1 (Except.ok.inj h)
        exact ⟨k, List.mem_of_getElem? hget, hk⟩
      · cases h
  | _ => cases h

/-- A tagged value is read alike when what its kinds stand for is. -/
theorem agreeBelow_tagged {kinds : List (String × (δ → Decoder α))} {x x' : δ}
    (h : ∀ k ∈ kinds, AgreeBelow bound (k.2 x) (k.2 x')) (name : String) (other : α) :
    AgreeBelow bound (tagged name (kinds.map fun k => (k.1, k.2 x)) other place)
      (tagged name (kinds.map fun k => (k.1, k.2 x')) other place) := by
  intro j hj
  cases j with
  | obj members =>
      simp only [tagged]
      cases occurrences tagName 0 members with
      | nil => rfl
      | cons m more =>
          simp only [variantOf_kinds]
          cases hv : variantOf kinds place m.2 with
          | error e => rfl
          | ok variant =>
              cases variant with
              | none => rfl
              | some read =>
                  obtain ⟨k, hk, rfl⟩ := exists_mem_of_variantOf hv
                  have hrest : k.2 x (.obj (members.filter (·.1 ≠ tagName))) =
                      k.2 x' (.obj (members.filter (·.1 ≠ tagName))) :=
                    h k hk (Nat.lt_of_le_of_lt (depth_obj_filter_le _ members) hj)
                  simp only [Except.map, Option.map, bind, Except.bind, hrest]
  | arr items =>
      cases items with
      | nil => rfl
      | cons tag items =>
          simp only [tagged, variantOf_kinds]
          cases hv : variantOf kinds place tag with
          | error e => rfl
          | ok variant =>
              cases variant with
              | none => rfl
              | some read =>
                  obtain ⟨k, hk, rfl⟩ := exists_mem_of_variantOf hv
                  exact h k hk (Nat.lt_of_le_of_lt (depth_arr_le_cons tag items) hj)
  | _ => rfl

end

end TemplateLint.Json
