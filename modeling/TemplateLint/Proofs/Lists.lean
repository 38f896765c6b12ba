import Mathlib.Data.List.DropRight

/-!
# Lists

What is said of lists here is about order: which item comes first, which items a sort may swap, and
how items lie to the places that they have.

## Main statements

* `find?_eq_some_iff_first`, `exists_first`: the first item of a kind
* `pairwise_mergeSort_of_tied`: a stable sort keeps an order among equals
* `sublist_mergeSort_of_sublist`: a stable sort of a sublist is a sublist of the sort
* `filter_mergeSort`: filtering may be done before or after a stable sort
* `mergeSort_eq_of_tied`: a stable sort depends on the order among equals only
* `flatMap_eq_of_perm`: the order of lists is of no matter when all but one of them are empty
* `infix_intercalate_iff`: what holds no separator does not reach across lists that are joined
* `intercalate_append_cut`: joined lists, cut inside one of them
-/

namespace TemplateLint

variable {α : Type}

/-! ### Searching -/

/-- **A search finds the first item of its kind.** -/
theorem find?_eq_some_iff_first {p : α → Bool} {xs : List α} {x : α} :
    xs.find? p = some x ↔
      ∃ before after, xs = before ++ x :: after ∧ (∀ y ∈ before, p y = false) ∧ p x = true := by
  rw [List.find?_eq_some_iff_append]
  constructor
  · rintro ⟨hx, before, after, heq, hbefore⟩
    exact ⟨before, after, heq, fun y hy => by simpa using hbefore y hy, hx⟩
  · rintro ⟨before, after, heq, hbefore, hx⟩
    exact ⟨hx, before, after, heq, fun y hy => by simpa using hbefore y hy⟩

/-- Where some item is of a kind, there is a first one. -/
theorem exists_first {p : α → Prop} {xs : List α} (h : ∃ x ∈ xs, p x) :
    ∃ before x after, xs = before ++ x :: after ∧ (∀ y ∈ before, ¬ p y) ∧ p x := by
  induction xs with
  | nil => simp at h
  | cons a rest ih =>
      by_cases ha : p a
      · exact ⟨[], a, rest, rfl, by simp, ha⟩
      · have hrest : ∃ x ∈ rest, p x := by simpa [ha] using h
        obtain ⟨before, x, after, rfl, hbefore, hx⟩ := ih hrest
        exact ⟨a :: before, x, after, rfl, List.forall_mem_cons.2 ⟨ha, hbefore⟩, hx⟩

/-! ### Stability of sorting -/

/-- **A stable sort keeps an order among equals.**  Two items that the sort may swap, since each is
at or before the other one, are still in the order in which they were given. -/
theorem pairwise_mergeSort_of_tied {le : α → α → Bool} {R : α → α → Prop}
    (trans : ∀ a b c, le a b → le b c → le a c) (total : ∀ a b, le a b || le b a)
    {xs : List α} (given : xs.Pairwise R) :
    (xs.mergeSort le).Pairwise fun a b => le b a → R a b := by
  induction xs with
  | nil => simp
  | cons a xs ih =>
      obtain ⟨before, after, hcons, htail, hbefore⟩ := List.mergeSort_cons trans total a xs
      have hgiven := List.pairwise_cons.1 given
      have hsorted := ih hgiven.2
      rw [htail] at hsorted
      have hparts := List.pairwise_append.1 hsorted
      have hmem : ∀ b ∈ after, b ∈ xs := by
        intro b hb
        have hb' : b ∈ xs.mergeSort le := htail ▸ List.mem_append_right _ hb
        exact List.mem_mergeSort.1 hb'
      rw [hcons]
      refine List.pairwise_append.2 ⟨hparts.1, List.pairwise_cons.2 ⟨?_, hparts.2.1⟩, ?_⟩
      · intro b hb _
        exact hgiven.1 b (hmem b hb)
      · intro b hb c hc hle
        rcases List.mem_cons.1 hc with rfl | hc
        -- What the sort puts before the new item is strictly smaller, so it is not tied with it.
        · have hnot := hbefore b hb
          simp [hle] at hnot
        · exact hparts.2.2 b hb c hc hle

/-- Where a stable sort puts one more item in front: behind what is strictly smaller, and before
everything else. -/
theorem mergeSort_cons_eq {le : α → α → Bool} (trans : ∀ a b c, le a b → le b c → le a c)
    (total : ∀ a b, le a b || le b a) (a : α) (xs : List α) :
    (a :: xs).mergeSort le =
      (xs.mergeSort le).filter (fun b => ! le a b) ++ a :: (xs.mergeSort le).filter (le a) := by
  obtain ⟨before, after, hcons, htail, hbefore⟩ := List.mergeSort_cons trans total a xs
  have hsorted := List.pairwise_mergeSort trans total (a :: xs)
  rw [hcons] at hsorted
  have hafter : ∀ b ∈ after, le a b :=
    (List.pairwise_cons.1 (List.pairwise_append.1 hsorted).2.1).1
  have hsmaller : (before ++ after).filter (fun b => ! le a b) = before := by
    rw [List.filter_append, List.filter_eq_self.2 hbefore, List.filter_eq_nil_iff.2,
      List.append_nil]
    intro b hb
    simp [hafter b hb]
  have hrest : (before ++ after).filter (le a) = after := by
    rw [List.filter_append, List.filter_eq_self.2 hafter, List.filter_eq_nil_iff.2,
      List.nil_append]
    intro b hb
    simpa using hbefore b hb
  rw [hcons, htail, hsmaller, hrest]

/-- **Sorting keeps sublists.**  When some items are taken away before a stable sort, the others
come out of it as they would have with them. -/
theorem sublist_mergeSort_of_sublist {le : α → α → Bool}
    (trans : ∀ a b c, le a b → le b c → le a c) (total : ∀ a b, le a b || le b a)
    {xs ys : List α} (h : xs.Sublist ys) : (xs.mergeSort le).Sublist (ys.mergeSort le) := by
  induction h with
  | slnil => exact List.Sublist.refl _
  | @cons xs ys a _ ih =>
      obtain ⟨before, after, hcons, hys, -⟩ := List.mergeSort_cons trans total a ys
      rw [hcons]
      have hdrop : (before ++ after).Sublist (before ++ a :: after) :=
        (List.sublist_cons_self a after).append_left before
      exact ih.trans (hys ▸ hdrop)
  | @cons_cons xs ys a _ ih =>
      -- Both sorts put the item between what is strictly smaller and the rest.
      rw [mergeSort_cons_eq trans total a xs, mergeSort_cons_eq trans total a ys]
      exact (ih.filter _).append ((ih.filter _).cons_cons a)

/-- Filtering may be done before or after a stable sort. -/
theorem filter_mergeSort {le : α → α → Bool} (trans : ∀ a b c, le a b → le b c → le a c)
    (total : ∀ a b, le a b || le b a) (p : α → Bool) (xs : List α) :
    (xs.mergeSort le).filter p = (xs.filter p).mergeSort le := by
  have hsub : ((xs.filter p).mergeSort le).Sublist (xs.mergeSort le) :=
    sublist_mergeSort_of_sublist trans total List.filter_sublist
  have hkept : ((xs.filter p).mergeSort le).filter p = (xs.filter p).mergeSort le := by
    refine List.filter_eq_self.2 fun x hx => ?_
    exact (List.mem_filter.1 (List.mem_mergeSort.1 hx)).2
  have hlength : ((xs.filter p).mergeSort le).length = ((xs.mergeSort le).filter p).length := by
    rw [List.length_mergeSort]
    exact ((List.mergeSort_perm xs le).filter p).length_eq.symm
  have hfiltered := hsub.filter p
  rw [hkept] at hfiltered
  exact (hfiltered.eq_of_length hlength).symm

/-- Whether each of two items is at or before the other one, so that a sort may swap them. -/
def tied (le : α → α → Bool) (a b : α) : Bool :=
  le a b && le b a

theorem tied_self {le : α → α → Bool} (total : ∀ a b, le a b || le b a) (a : α) : tied le a a := by
  simpa [tied] using total a a

/-- Where lists have the same items tied with any item, they have the same items. -/
theorem mem_of_filter_tied_eq {le : α → α → Bool} (total : ∀ a b, le a b || le b a)
    {xs ys : List α} {a : α} (h : xs.filter (tied le a) = ys.filter (tied le a)) (ha : a ∈ xs) :
    a ∈ ys := by
  have hmem : a ∈ xs.filter (tied le a) := List.mem_filter.2 ⟨ha, tied_self total a⟩
  rw [h] at hmem
  exact (List.mem_filter.1 hmem).1

/-- Two sorted lists that have the same items tied with any item, in the same order, are equal. -/
theorem eq_of_pairwise_of_tied {le : α → α → Bool} (total : ∀ a b, le a b || le b a)
    {xs ys : List α} (hxs : xs.Pairwise fun a b => le a b) (hys : ys.Pairwise fun a b => le a b)
    (h : ∀ a, xs.filter (tied le a) = ys.filter (tied le a)) : xs = ys := by
  induction xs generalizing ys with
  | nil =>
      cases ys with
      | nil => rfl
      | cons y ys => cases mem_of_filter_tied_eq total (h y).symm List.mem_cons_self
  | cons x xs ih =>
      cases ys with
      | nil => cases mem_of_filter_tied_eq total (h x) List.mem_cons_self
      | cons y ys =>
          have hself : ∀ a, le a a := fun a => by simpa using total a a
          have hx : x ∈ y :: ys := mem_of_filter_tied_eq total (h x) List.mem_cons_self
          have hy : y ∈ x :: xs := mem_of_filter_tied_eq total (h y).symm List.mem_cons_self
          have hxy : le x y := by
            rcases List.mem_cons.1 hy with rfl | hy
            · exact hself y
            · exact (List.pairwise_cons.1 hxs).1 y hy
          have hyx : le y x := by
            rcases List.mem_cons.1 hx with rfl | hx
            · exact hself x
            · exact (List.pairwise_cons.1 hys).1 x hx
          -- The heads are tied, so that each of them is the first one among its equals.
          have hheads := h x
          have htied : tied le x y := by simp [tied, hxy, hyx]
          rw [List.filter_cons_of_pos (tied_self total x), List.filter_cons_of_pos htied] at hheads
          obtain rfl : x = y := (List.cons.inj hheads).1
          congr 1
          refine ih (List.pairwise_cons.1 hxs).2 (List.pairwise_cons.1 hys).2 fun a => ?_
          have ha := h a
          by_cases hax : tied le a x
          · rw [List.filter_cons_of_pos hax, List.filter_cons_of_pos hax] at ha
            exact (List.cons.inj ha).2
          · rwa [List.filter_cons_of_neg hax, List.filter_cons_of_neg hax] at ha

/-- **A stable sort depends on the order among equals only.**  Two lists that have the same items
tied with any item, in the same order, are sorted alike. -/
theorem mergeSort_eq_of_tied {le : α → α → Bool} (trans : ∀ a b c, le a b → le b c → le a c)
    (total : ∀ a b, le a b || le b a) {xs ys : List α}
    (h : ∀ a, xs.filter (tied le a) = ys.filter (tied le a)) :
    xs.mergeSort le = ys.mergeSort le := by
  refine eq_of_pairwise_of_tied total (List.pairwise_mergeSort trans total xs)
    (List.pairwise_mergeSort trans total ys) fun a => ?_
  rw [filter_mergeSort trans total, filter_mergeSort trans total, h a]

/-! ### Concatenation -/

/-- The order in which lists are put together is of no matter when of any two of them one is
empty. -/
theorem flatMap_eq_of_perm {β : Type} {f : α → List β} {xs ys : List α} (h : xs.Perm ys)
    (apart : xs.Pairwise fun a b => f a = [] ∨ f b = []) : xs.flatMap f = ys.flatMap f := by
  have hsymm : ∀ {a b}, f a = [] ∨ f b = [] → f b = [] ∨ f a = [] := fun h => h.symm
  induction h with
  | nil => rfl
  | cons a _ ih => rw [List.flatMap_cons, List.flatMap_cons, ih (List.pairwise_cons.1 apart).2]
  | swap a b xs =>
      have hab : f b = [] ∨ f a = [] := (List.pairwise_cons.1 apart).1 a List.mem_cons_self
      rcases hab with h | h
      · simp [h]
      · simp [h]
  | trans hxs _ ih ih' => rw [ih apart, ih' ((hxs.pairwise_iff hsymm).1 apart)]

/-- Items that give nothing may be left out. -/
theorem flatMap_filter_of_forall {β : Type} {f : α → List β} {p : α → Bool} {xs : List α}
    (h : ∀ x ∈ xs, ¬ p x → f x = []) : (xs.filter p).flatMap f = xs.flatMap f := by
  induction xs with
  | nil => rfl
  | cons x xs ih =>
      obtain ⟨hx, hxs⟩ := List.forall_mem_cons.1 h
      by_cases hp : p x
      · rw [List.filter_cons_of_pos hp, List.flatMap_cons, List.flatMap_cons, ih hxs]
      · rw [List.filter_cons_of_neg hp, List.flatMap_cons, hx hp, List.nil_append, ih hxs]

/-! ### Separators -/

/-- What holds no separator stands before it or behind it. -/
theorem infix_append_cons_iff {s : α} {part xs ys : List α} (h : s ∉ part) :
    part <:+: xs ++ s :: ys ↔ part <:+: xs ∨ part <:+: ys := by
  constructor
  · intro hpart
    have hend : ∀ p : List α, s ∉ p → p <+: s :: ys → p = [] := by
      intro p hp hprefix
      rcases List.prefix_cons_iff.1 hprefix with rfl | ⟨rest, rfl, -⟩
      · rfl
      · exact absurd List.mem_cons_self hp
    rcases List.infix_append_iff.1 hpart with hxs | hbehind | ⟨l, r, rfl, hl, hr⟩
    · exact Or.inl hxs
    · rcases List.infix_cons_iff.1 hbehind with hprefix | hys
      · rw [hend part h hprefix]
        exact Or.inl List.nil_infix
      · exact Or.inr hys
    · -- A part that began before the separator and reached behind it would hold it.
      obtain rfl := hend r (fun hs => h (List.mem_append_right l hs)) hr
      rw [List.append_nil]
      exact Or.inl hl.isInfix
  · rintro (hxs | hys)
    · exact hxs.trans (List.prefix_append xs (s :: ys)).isInfix
    · exact hys.trans ((List.suffix_cons s ys).trans (List.suffix_append xs _)).isInfix

/-- **What holds no separator stands in joined lists only where it stands in one of them.**  Nothing
at all stands also in no lists joined, so there has to be something. -/
theorem infix_intercalate_iff {s : α} {part : List α} (hne : part ≠ []) (h : s ∉ part)
    (xss : List (List α)) : part <:+: [s].intercalate xss ↔ ∃ xs ∈ xss, part <:+: xs := by
  induction xss with
  | nil => simp [hne]
  | cons xs rest ih =>
      cases rest with
      | nil => simp
      | cons next more =>
          rw [List.intercalate_cons_cons, List.append_assoc, List.singleton_append,
            infix_append_cons_iff h, ih]
          simp only [List.mem_cons, exists_eq_or_imp]

/-- Joined lists can be cut inside one of them. -/
theorem intercalate_append_cut (sep : List α) (front : List (List α)) (xs ys : List α)
    (rest : List (List α)) :
    sep.intercalate (front ++ (xs ++ ys) :: rest) =
      sep.intercalate (front ++ [xs]) ++ sep.intercalate (ys :: rest) := by
  induction front with
  | nil => cases rest <;> simp [List.intercalate_cons_cons]
  | cons first front ih =>
      have hstep : ∀ l ls, sep.intercalate (first :: (front ++ l :: ls)) =
          first ++ sep ++ sep.intercalate (front ++ l :: ls) := fun l ls =>
        List.intercalate_cons_of_ne_nil (List.append_ne_nil_of_right_ne_nil front (by simp))
      rw [List.cons_append, List.cons_append, hstep, hstep, ih, ← List.append_assoc]

/-- A beginning of two parts with a separator between them ends in the first part, or goes on behind
the separator. -/
theorem isPrefix_append_cons_iff {s : α} {xs ys zs : List α} :
    zs <+: xs ++ s :: ys ↔ zs <+: xs ∨ ∃ rest, zs = xs ++ s :: rest ∧ rest <+: ys := by
  constructor
  · intro h
    have hxs : xs <+: xs ++ s :: ys := List.prefix_append xs (s :: ys)
    rcases List.prefix_or_prefix_of_prefix h hxs with hshort | ⟨more, rfl⟩
    · exact Or.inl hshort
    · have hmore : more <+: s :: ys := (List.prefix_append_right_inj xs).1 h
      rcases List.prefix_cons_iff.1 hmore with rfl | ⟨rest, rfl, hrest⟩
      · exact Or.inl (by simp)
      · exact Or.inr ⟨rest, rfl, hrest⟩
  · rintro (hxs | ⟨rest, rfl, hrest⟩)
    · exact hxs.trans (List.prefix_append xs _)
    · exact (List.prefix_append_right_inj xs).2 (List.cons_prefix_cons.2 ⟨rfl, hrest⟩)

/-- Items of a kind at the end of a list are the last ones of their kind. -/
theorem rtakeWhile_append_of_pos {p : α → Bool} {xs ys : List α} (h : ∀ y ∈ ys, p y) :
    (xs ++ ys).rtakeWhile p = xs.rtakeWhile p ++ ys := by
  unfold List.rtakeWhile
  have hys : ∀ y ∈ ys.reverse, p y := fun y hy => h y (List.mem_reverse.1 hy)
  rw [List.reverse_append, List.takeWhile_append_of_pos hys, List.reverse_append,
    List.reverse_reverse]

/-- What stands before an item of another kind is not among the last ones of a kind. -/
theorem rtakeWhile_append_cons_of_neg {p : α → Bool} {s : α} (h : ¬ p s) (xs ys : List α) :
    (xs ++ s :: ys).rtakeWhile p = ys.rtakeWhile p := by
  induction ys using List.reverseRecOn with
  | nil => rw [List.rtakeWhile_concat_neg p xs s h, List.rtakeWhile_nil]
  | append_singleton ys y ih =>
      rw [← List.cons_append, ← List.append_assoc, List.rtakeWhile_concat,
        List.rtakeWhile_concat, ih]

/-! ### Places -/

/-- The places in a list grow along the list. -/
theorem pairwise_snd_zipIdx (xs : List α) : xs.zipIdx.Pairwise fun v w => v.2 < w.2 := by
  have h : (xs.zipIdx.map Prod.snd).Pairwise (· < ·) := by
    rw [List.zipIdx_map_snd]
    exact List.pairwise_lt_range'
  exact List.pairwise_map.1 h

/-- Filtering before numbering. -/
theorem map_fst_filter_zipIdx (p : α → Bool) (xs : List α) :
    (xs.zipIdx.filter fun v => p v.1).map Prod.fst = xs.filter p := by
  calc (xs.zipIdx.filter fun v => p v.1).map Prod.fst
      = (xs.zipIdx.map Prod.fst).filter p := by
        rw [List.filter_map]
        rfl
    _ = xs.filter p := by rw [List.zipIdx_map_fst]

/-- The first items of a list, around one of them. -/
theorem take_eq_append_cons {l : List α} {m n : Nat} (h : m < n) (hm : m < l.length) :
    l.take n = l.take m ++ l[m] :: (l.drop (m + 1)).take (n - (m + 1)) := by
  have hn : n = m + (n - (m + 1) + 1) := by omega
  rw [← List.take_succ_cons, ← List.drop_eq_getElem_cons hm, ← List.take_add, ← hn]

end TemplateLint
