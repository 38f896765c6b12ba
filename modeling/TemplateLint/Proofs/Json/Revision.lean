import Mathlib.Data.List.Basic
import TemplateLint.Proofs.Json.Reading

/-!
# Revised data

Data is revised at one place: a value inside it is replaced by another one, or an object inside it
gets one more member. What is read of the revised data follows from what was read before, if it does
so at the place itself. For items are read one by one, a record reads each field by its name or by
its place in an array, and a tagged value is read as what is left without the tag.

## Main definitions

* `Json.Carries`: what is read changes as a function says
* `ItemRevised`, `Record.FieldRevised`: one item of an array or one field of a record is replaced
* `MemberAdded`: an object has one more member
* `IsTag`, `IsUnknownTag`, `WithTag`: a tag, and a value with a tag put to it

## Main statements

* `carries_list`, `carries_nullable`: what is read of lists and of optional values
* `carries_of_fieldRevised`, `carries_of_memberAdded`: what is read of records
* `carries_of_withTag`: what is read of tagged values
-/

namespace TemplateLint.Json

variable {α β γ δ ε : Type}

/-- When the first one is a success, then the second one is a success, too, with what `f` makes of
it. -/
def Carries (f : α → α) (x x' : Except DecodeError α) : Prop :=
  ∀ a, x = .ok a → x' = .ok (f a)

/-! ### Lists and optional values -/

section

variable {item : Decoder α} {f : α → α} {v v' j j' : Json}

theorem Carries.map {x x' : Except DecodeError α} (h : Carries f x x') {g : α → β}
    {f' : β → β} (hg : ∀ a, f' (g a) = g (f a)) : Carries f' (x.map g) (x'.map g) := by
  intro b hb
  cases x with
  | error e => cases hb
  | ok a =>
      cases hb
      rw [h a rfl, hg a]
      rfl

/-- The item at the place `i` of an array is replaced. -/
inductive ItemRevised (i : Nat) : (j j' v v' : Json) → Prop
  | intro {before : List Json} (h : before.length = i) (after : List Json) (v v' : Json) :
      ItemRevised i (.arr (before ++ v :: after)) (.arr (before ++ v' :: after)) v v'

theorem carries_list {i : Nat} (h : ItemRevised i j j' v v') (hv : Carries f (item v) (item v')) :
    Carries (fun as => as.modify i f) (list item j) (list item j') := by
  obtain @⟨before, hlength, after, v, v'⟩ := h
  subst hlength
  intro as (has : (before ++ v :: after).mapM item = .ok as)
  show (before ++ v' :: after).mapM item = _
  -- The items before the one that is replaced are read as they were.
  induction before generalizing as with
  | nil =>
      obtain ⟨a, rest, ha, hrest, rfl⟩ := mapM_cons_eq_ok_iff.1 has
      exact mapM_cons_eq_ok_iff.2 ⟨f a, rest, hv a ha, hrest, rfl⟩
  | cons w before ih =>
      obtain ⟨a, rest, ha, hrest, rfl⟩ := mapM_cons_eq_ok_iff.1 has
      exact mapM_cons_eq_ok_iff.2 ⟨a, rest.modify before.length f, ha, ih rest hrest, rfl⟩

theorem nullable_of_ne_null (h : v ≠ .null) : nullable item v = (item v).map some := by
  cases v with
  | null => exact absurd rfl h
  | _ => rfl

/-- An optional value that is there is replaced by one that is there, too. -/
theorem carries_nullable (hne : v ≠ .null) (hne' : v' ≠ .null)
    (hv : Carries f (item v) (item v')) :
    Carries (Option.map f) (nullable item v) (nullable item v') := by
  rw [nullable_of_ne_null hne, nullable_of_ne_null hne']
  exact hv.map fun _ => rfl

end

/-! ### Fields that are read together -/

namespace Reading

/-- When the first reading is a success, then the second one is a success, too, and what they give
is related. -/
def Related (R : α → α → Prop) (x x' : Reading α) : Prop :=
  ∀ a, x = .ok a → ∃ b, x' = .ok b ∧ R a b

/-- When the first reading is a success, then the second one is a success, too, with what `f` makes
of it. -/
def Carries (f : α → α) : (x x' : Reading α) → Prop :=
  Related fun a b => b = f a

section

variable {p : α → α} {R : β → β → Prop} {x x' : Reading α}

theorem Carries.related_map (hx : Carries p x x') {f : α → β} (h : ∀ a, R (f a) (f (p a))) :
    Related R (f <$> x) (f <$> x') := by
  intro b hb
  obtain ⟨a, ha, rfl⟩ := map_eq_ok_iff.1 hb
  obtain ⟨_, hp, rfl⟩ := hx a ha
  exact ⟨f (p a), map_eq_ok_iff.2 ⟨p a, hp, rfl⟩, h a⟩

/-- What is read of a field and of the ones before it follows from what is read of each of them. -/
theorem Related.seq {f f' : Reading (α → β)}
    (hf : Related (fun k k' => ∀ a, R (k a) (k' (p a))) f f') (hx : Carries p x x') :
    Related R (f <*> x) (f' <*> x') := by
  intro b hb
  obtain ⟨k, a, hk, ha, rfl⟩ := seq_eq_ok_iff.1 hb
  obtain ⟨k', hk', hR⟩ := hf k hk
  obtain ⟨_, hp, rfl⟩ := hx a ha
  exact ⟨k' (p a), seq_eq_ok_iff.2 ⟨k', p a, hk', hp, rfl⟩, hR a⟩

end

section

variable {p : α → α} {q : β → β} {r : γ → γ} {u : δ → δ} {g : ε → ε} {x x' : Reading α}
  {y y' : Reading β} {z z' : Reading γ} {w w' : Reading δ}

theorem carries_map (hx : Carries p x x') {f : α → ε} (h : ∀ a, f (p a) = g (f a)) :
    Carries g (f <$> x) (f <$> x') :=
  hx.related_map h

theorem carries_map₂ (hx : Carries p x x') (hy : Carries q y y') {f : α → β → ε}
    (h : ∀ a b, f (p a) (q b) = g (f a b)) : Carries g (f <$> x <*> y) (f <$> x' <*> y') :=
  (hx.related_map h).seq hy

theorem carries_map₃ (hx : Carries p x x') (hy : Carries q y y') (hz : Carries r z z')
    {f : α → β → γ → ε} (h : ∀ a b c, f (p a) (q b) (r c) = g (f a b c)) :
    Carries g (f <$> x <*> y <*> z) (f <$> x' <*> y' <*> z') :=
  ((hx.related_map h).seq hy).seq hz

theorem carries_map₄ (hx : Carries p x x') (hy : Carries q y y') (hz : Carries r z z')
    (hw : Carries u w w') {f : α → β → γ → δ → ε}
    (h : ∀ a b c d, f (p a) (q b) (r c) (u d) = g (f a b c d)) :
    Carries g (f <$> x <*> y <*> z <*> w) (f <$> x' <*> y' <*> z' <*> w') :=
  (((hx.related_map h).seq hy).seq hz).seq hw

end

end Reading

/-! ### Records -/

namespace Fields

/-- What is written for a field stays as it is. -/
def SameAt (name : String) (s s' : Fields) : Prop :=
  s'.values name = s.values name

/-- A value that is written for the field `name` is replaced, and what is written for the other
fields stays as it is. -/
structure Revised (name : String) (x x' : Json) (s s' : Fields) : Prop where
  sameAt : ∀ other, other ≠ name → SameAt other s s'
  revised : ∃ before after,
    s.values name = before ++ x :: after ∧ s'.values name = before ++ x' :: after

section

variable {s s' : Fields} {name : String} {x x' : Json} {decode : Decoder α} {f : α → α}
  {default : α}

theorem SameAt.required (h : SameAt name s s') :
    Reading.Carries id (s.required name decode) (s'.required name decode) := by
  intro a ha
  rw [required_eq_ok_iff] at ha
  refine ⟨a, ?_, rfl⟩
  rwa [required_eq_ok_iff, h]

theorem SameAt.optional (h : SameAt name s s') :
    Reading.Carries id (s.optional name default decode) (s'.optional name default decode) := by
  intro a ha
  rw [optional_eq_ok_iff] at ha
  refine ⟨a, ?_, rfl⟩
  rwa [optional_eq_ok_iff, h]

/-- A value that is the only one written for its field is replaced by the only one. -/
theorem Revised.values_of_singleton (h : Revised name x x' s s') {v : Json}
    (hv : s.values name = [v]) : v = x ∧ s'.values name = [x'] := by
  obtain ⟨before, after, hs, hs'⟩ := h.revised
  rw [hv] at hs
  cases before with
  | nil =>
      obtain ⟨rfl, rfl⟩ := List.cons.inj hs
      exact ⟨rfl, hs'⟩
  | cons w before => simp at hs

theorem Revised.required (h : Revised name x x' s s') (hx : Json.Carries f (decode x) (decode x')) :
    Reading.Carries f (s.required name decode) (s'.required name decode) := by
  intro a ha
  obtain ⟨v, hv, ha⟩ := required_eq_ok_iff.1 ha
  obtain ⟨rfl, hs'⟩ := h.values_of_singleton hv
  exact ⟨f a, required_eq_ok_iff.2 ⟨x', hs', hx a ha⟩, rfl⟩

/-- A field with a default is not left to its default when a value is written for it. -/
theorem Revised.optional (h : Revised name x x' s s') (hx : Json.Carries f (decode x) (decode x')) :
    Reading.Carries f (s.optional name default decode) (s'.optional name default decode) := by
  intro a ha
  rcases optional_eq_ok_iff.1 ha with ⟨hnil, -⟩ | ⟨v, hv, ha⟩
  · obtain ⟨before, after, hs, -⟩ := h.revised
    simp [hnil] at hs
  · obtain ⟨rfl, hs'⟩ := h.values_of_singleton hv
    exact ⟨f a, optional_eq_ok_iff.2 (Or.inr ⟨x', hs', hx a ha⟩), rfl⟩

end

end Fields

/-- The value of the field `name` of a record is replaced, in an object or in an array. -/
inductive Record.FieldRevised (r : Record) (name : String) : (j j' x x' : Json) → Prop
  | member (before after : List (String × Json)) (x x' : Json) :
      FieldRevised r name (.obj (before ++ (name, x) :: after))
        (.obj (before ++ (name, x') :: after)) x x'
  | item {j j' x x' : Json} (h : ItemRevised (r.fields.idxOf name) j j' x x') :
      FieldRevised r name j j' x x'

/-- An object has one more member, called `name`, at some place among the others. -/
inductive MemberAdded (name : String) : (j j' : Json) → Prop
  | intro (before after : List (String × Json)) (value : Json) :
      MemberAdded name (.obj (before ++ after)) (.obj (before ++ (name, value) :: after))

theorem fields_revised_of_member (r : Record) (name : String) (before after : List (String × Json))
    (x x' : Json) :
    Fields.Revised name x x' ⟨r, .named (before ++ (name, x) :: after)⟩
      ⟨r, .named (before ++ (name, x') :: after)⟩ where
  sameAt other hne := by
    show valuesOf other (before ++ (name, x') :: after) =
      valuesOf other (before ++ (name, x) :: after)
    rw [valuesOf_insert hne, valuesOf_insert hne]
  revised := by
    refine ⟨valuesOf name before, valuesOf name after, ?_, ?_⟩
    · show valuesOf name (before ++ (name, x) :: after) = _
      rw [valuesOf_append, valuesOf_cons, if_pos rfl]
    · show valuesOf name (before ++ (name, x') :: after) = _
      rw [valuesOf_append, valuesOf_cons, if_pos rfl]

theorem fields_revised_of_item {r : Record} {name : String} (hname : name ∈ r.fields)
    {before : List Json} (h : before.length = r.fields.idxOf name) (after : List Json)
    (x x' : Json) :
    Fields.Revised name x x' ⟨r, .positional (before ++ x :: after)⟩
      ⟨r, .positional (before ++ x' :: after)⟩ where
  sameAt other hne := by
    -- Another field has another place, be it before the one that is replaced or after it.
    have hplace : r.fields.idxOf other ≠ before.length := by
      rw [h]
      exact fun heq => hne ((List.idxOf_inj hname).1 heq.symm).symm
    show ((before ++ x' :: after)[r.fields.idxOf other]?).toList =
      ((before ++ x :: after)[r.fields.idxOf other]?).toList
    congr 1
    rcases Nat.lt_or_gt_of_ne hplace with hlt | hgt
    · rw [List.getElem?_append_left hlt, List.getElem?_append_left hlt]
    · obtain ⟨n, hn⟩ := Nat.exists_eq_add_of_lt hgt
      rw [hn, List.getElem?_append_right (by omega), List.getElem?_append_right (by omega)]
      simp [Nat.add_assoc]
  revised := by
    refine ⟨[], [], ?_, ?_⟩
    · show ((before ++ x :: after)[r.fields.idxOf name]?).toList = _
      simp [← h]
    · show ((before ++ x' :: after)[r.fields.idxOf name]?).toList = _
      simp [← h]

section

variable {r : Record} {place : Place} {read : Fields → Reading α} {name : String}
  {j j' x x' : Json}

/-- **A field of a record is replaced.**  What is read of the record follows from what is read of
its fields, whether they are written by name or in order. -/
theorem carries_of_fieldRevised {f : α → α} (hname : name ∈ r.fields)
    (h : r.FieldRevised name j j' x x')
    (hread : ∀ s s', Fields.Revised name x x' s s' → Reading.Carries f (read s) (read s')) :
    Carries f (r.decode place read j) (r.decode place read j') := by
  intro a ha
  cases h with
  | member before after =>
      rw [decode_obj_eq_ok_iff] at ha ⊢
      obtain ⟨_, ha', rfl⟩ := hread _ _ (fields_revised_of_member r name before after x x') a ha
      exact ha'
  | item h =>
      obtain ⟨hlength, after, x, x'⟩ := h
      rw [decode_arr_eq_ok_iff] at ha ⊢
      obtain ⟨_, ha', rfl⟩ := hread _ _ (fields_revised_of_item hname hlength after x x') a ha.1
      refine ⟨ha', ?_⟩
      simpa using ha.2

/-- **An object has one more member.**  What is read of a record is the same when none of its fields
is called as the new member is. -/
theorem carries_of_memberAdded (hname : name ∉ r.fields) (h : MemberAdded name j j')
    (hread : ∀ s s', (∀ other ∈ r.fields, Fields.SameAt other s s') →
      Reading.Carries id (read s) (read s')) :
    Carries id (r.decode place read j) (r.decode place read j') := by
  intro a ha
  cases h with
  | intro before after value =>
      rw [decode_obj_eq_ok_iff] at ha ⊢
      have hsame : ∀ other ∈ r.fields, Fields.SameAt other ⟨r, .named (before ++ after)⟩
          ⟨r, .named (before ++ (name, value) :: after)⟩ := fun other hother =>
        valuesOf_insert (ne_of_mem_of_not_mem hother hname) before after value
      obtain ⟨_, ha', rfl⟩ := hread _ _ hsame a ha
      exact ha'

end

/-! ### Tagged values -/

/-- The tags of a variant: its name and, inside a tagged value, its number. -/
inductive IsTag (names : List String) (place : Place) (name : String) : Json → Prop
  | name : IsTag names place name (.str name)
  | number (h : place = .tagged) : IsTag names place name (.int (names.idxOf name))

/-- The tags of no variant: other names and, inside a tagged value, numbers that are too large. -/
inductive IsUnknownTag (names : List String) (place : Place) : Json → Prop
  | name {other : String} (h : other ∉ names) : IsUnknownTag names place (.str other)
  | number {n : Nat} (h : place = .tagged) (hn : names.length ≤ n) :
      IsUnknownTag names place (.int n)

/-- A value to which a tag is put: as a member at some place, or as the first item. -/
inductive WithTag (tag : Json) : (v j : Json) → Prop
  | member {before after : List (String × Json)} (h : valuesOf tagName (before ++ after) = []) :
      WithTag tag (.obj (before ++ after)) (.obj (before ++ (tagName, tag) :: after))
  | item (items : List Json) : WithTag tag (.arr items) (.arr (tag :: items))

section

variable {place : Place} {tag : Json}

theorem variantOf_of_isTag {variants : List (String × α)} {name : String}
    (h : IsTag (variants.map (·.1)) place name tag) :
    variantOf variants place tag = .ok ((variants.find? (·.1 = name)).map (·.2)) := by
  cases h with
  | name => rfl
  | number hplace =>
      -- The number is the place of the first variant of that name, and so the name finds it, too.
      have hfind : variants.find? (·.1 = name) = variants[(variants.map (·.1)).idxOf name]? := by
        rw [List.find?_eq_getElem?_findIdx, List.idxOf, List.findIdx_map]
        congr 2
      simp [variantOf, hplace, hfind]

theorem variantOf_of_isUnknownTag {variants : List (String × α)}
    (h : IsUnknownTag (variants.map (·.1)) place tag) :
    variantOf variants place tag = .ok none := by
  cases h with
  | @name other hother =>
      have hfind : variants.find? (·.1 = other) = none := by
        rw [List.find?_eq_none]
        intro x hx heq
        exact hother (List.mem_map.2 ⟨x, hx, of_decide_eq_true heq⟩)
      simp [variantOf, hfind]
  | number hplace hn =>
      rw [List.length_map] at hn
      simp [variantOf, hplace, hn]

variable {variants : List (String × Decoder α)} {decode : Decoder α} {v v' j j' : Json}

/-- A tagged value is read as what is left without the tag. -/
theorem tagged_of_withTag (h : WithTag tag v j)
    (hv : variantOf variants place tag = .ok (some decode)) (name : String) (other : α) :
    tagged name variants other place j = decode v := by
  cases h with
  | @member before after hnil =>
      rw [valuesOf_append, List.append_eq_nil_iff] at hnil
      have hone : valuesOf tagName (before ++ (tagName, tag) :: after) = [tag] := by
        rw [valuesOf_append, hnil.1, valuesOf_cons_of_nil hnil.2, List.nil_append]
      have hrest :
          (before ++ (tagName, tag) :: after).filter (·.1 ≠ tagName) = before ++ after := by
        rw [List.filter_append, filter_ne_of_nil hnil.1, filter_ne_cons_of_nil hnil.2]
      rw [tagged_obj_of_some hone hv, hrest]
  | item items =>
      simp only [tagged, hv]
      rfl

/-- **What a tag is put to is replaced.**  What is read of the tagged value follows from what is
read of it, and the tag may stand at another place than before. -/
theorem carries_of_withTag {f : α → α} (h : WithTag tag v j) (h' : WithTag tag v' j')
    (hv : variantOf variants place tag = .ok (some decode)) (name : String) (other : α)
    (hread : Carries f (decode v) (decode v')) :
    Carries f (tagged name variants other place j) (tagged name variants other place j') := by
  rwa [tagged_of_withTag h hv, tagged_of_withTag h' hv]

end

end TemplateLint.Json
