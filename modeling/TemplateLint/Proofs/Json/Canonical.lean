import TemplateLint.Proofs.Json.Reading

/-!
# Members in order

The canonical form of a value puts the members of every object in order and keeps one of each name.
A member whose name is written once is still written once, and members may be left out before they
are put in order or afterwards.

## Main statements

* `filter_sortMembers`: leaving members out by their names commutes with putting them in order
* `valuesOf_sortMembers`: a member that is written once is kept
-/

namespace TemplateLint.Json

variable {α : Type}

theorem canonicalMembers_eq_map (members : List (String × Json)) :
    canonicalMembers members = members.map fun m => (m.1, m.2.canonical) := by
  induction members with
  | nil => rfl
  | cons m rest ih => rw [canonicalMembers, ih, List.map_cons]

theorem valuesOf_canonicalMembers (name : String) (members : List (String × Json)) :
    valuesOf name (canonicalMembers members) = (valuesOf name members).map canonical := by
  rw [canonicalMembers_eq_map]
  simp [valuesOf, List.filter_map, Function.comp_def]

/-- A member whose name is smaller than all others comes first. -/
theorem insertMember_of_lt {name : String} (value : α) {members : List (String × α)}
    (h : ∀ m ∈ members, name < m.1) :
    insertMember name value members = (name, value) :: members := by
  cases members with
  | nil => rfl
  | cons m rest => exact if_pos (h m List.mem_cons_self)

/-- A member may be put in order before others are left out by their names, or afterwards, unless it
is left out itself. -/
theorem filter_insertMember (p : String → Bool) (name : String) (value : α)
    {members : List (String × α)} (h : Ordered members) :
    (insertMember name value members).filter (p ·.1) =
      if p name then insertMember name value (members.filter (p ·.1))
      else members.filter (p ·.1) := by
  induction members with
  | nil => by_cases hp : p name <;> simp [insertMember, hp]
  | cons head rest ih =>
      obtain ⟨k, v⟩ := head
      obtain ⟨hk, hrest⟩ := List.pairwise_cons.1 h
      by_cases hlt : name < k
      · have hsmall : ∀ m ∈ ((k, v) :: rest).filter (p ·.1), name < m.1 := by
          intro m hm
          rcases List.mem_cons.1 (List.mem_filter.1 hm).1 with rfl | hm
          · exact hlt
          · exact String.lt_trans hlt (hk m hm)
        -- The new member comes first, and so it does among those that are kept.
        rw [insertMember_of_lt value hsmall]
        simp only [insertMember, hlt, if_true, List.filter_cons]
      · by_cases hgt : k < name
        · have hstep := ih hrest
          by_cases hp : p k
          · simp only [insertMember, hlt, hgt, if_true, if_false, List.filter_cons, hp, hstep]
            split
            · rfl
            · rfl
          · simp only [insertMember, hlt, hgt, if_true, if_false, List.filter_cons, hp, hstep]
            rfl
        · -- The new member takes the place of one of its name: both are kept, or neither is.
          obtain rfl : name = k :=
            String.le_antisymm (String.not_lt.1 hgt) (String.not_lt.1 hlt)
          by_cases hp : p name
          · simp [insertMember, hp]
          · simp [insertMember, hp]

/-- **Members may be left out before they are put in order, or afterwards.** -/
theorem filter_sortMembers (p : String → Bool) (members : List (String × α)) :
    (sortMembers members).filter (p ·.1) = sortMembers (members.filter (p ·.1)) := by
  unfold sortMembers
  suffices h : ∀ sorted : List (String × α), Ordered sorted →
      (members.foldl (fun sorted m => insertMember m.1 m.2 sorted) sorted).filter (p ·.1) =
        (members.filter (p ·.1)).foldl (fun sorted m => insertMember m.1 m.2 sorted)
          (sorted.filter (p ·.1)) from h [] List.Pairwise.nil
  induction members with
  | nil => exact fun sorted h => rfl
  | cons m rest ih =>
      intro sorted h
      rw [List.foldl_cons, ih _ (ordered_insertMember m.1 m.2 h), filter_insertMember p m.1 m.2 h,
        List.filter_cons]
      split
      · rfl
      · rfl

/-- A member that is written once is kept. -/
theorem valuesOf_sortMembers {name : String} {members : List (String × Json)} {v : Json}
    (h : valuesOf name members = [v]) : valuesOf name (sortMembers members) = [v] := by
  obtain ⟨⟨k, w⟩, hone, rfl⟩ := List.map_eq_singleton_iff.1 h
  have hsorted := filter_sortMembers (fun k => decide (k = name)) members
  unfold valuesOf
  rw [hsorted, hone]
  rfl

/-- The canonical form of what is written for a name once is written for it in the canonical
form. -/
theorem valuesOf_canonical {name : String} {members : List (String × Json)} {v : Json}
    (h : valuesOf name members = [v]) :
    valuesOf name (sortMembers (canonicalMembers members)) = [v.canonical] := by
  refine valuesOf_sortMembers ?_
  rw [valuesOf_canonicalMembers, h]
  rfl

/-- What is not written is not written in the canonical form. -/
theorem valuesOf_canonical_nil {name : String} {members : List (String × Json)}
    (h : valuesOf name members = []) :
    valuesOf name (sortMembers (canonicalMembers members)) = [] := by
  have hcanonical : valuesOf name (canonicalMembers members) = [] := by
    rw [valuesOf_canonicalMembers, h]
    rfl
  have hsorted := filter_sortMembers (fun k => decide (k = name)) (canonicalMembers members)
  unfold valuesOf at hcanonical ⊢
  rw [hsorted, List.map_eq_nil_iff.1 hcanonical]
  rfl

end TemplateLint.Json
