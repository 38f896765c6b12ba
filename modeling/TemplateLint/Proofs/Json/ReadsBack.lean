import TemplateLint.Proofs.Json.Canonical

/-!
# Values that are read back

A value may be kept as it is written, as in a text, or in its canonical form, as in memory. It is
read back as something when both are read as that. Lists, records and tagged values are read back
when their parts are.

## Main definitions

* `Json.ReadsBack`: a value is read back, as it is written and in its canonical form
* `Fields.Of`: the fields of an object, as they are written and in its canonical form

## Main statements

* `readsBack_arr_cons`, `readsBack_list`: lists
* `Fields.Of.required`, `Fields.Of.optional`, `Fields.Of.absent`, `readsBack_record`: records
* `readsBack_tagged`, `readsBack_other`: tagged values
-/

namespace TemplateLint.Json

variable {α β : Type}

/-- The value is read as `a`, as it is written and in its canonical form. -/
structure ReadsBack (decode : Decoder α) (j : Json) (a : α) : Prop where
  written : decode j = .ok a
  canonical : decode j.canonical = .ok a

/-! ### Plain values -/

theorem readsBack_text (s : String) : ReadsBack text (.str s) s := ⟨rfl, rfl⟩

theorem readsBack_natural (n : Nat) : ReadsBack natural (.nat n) n := by
  have h : natural (.nat n) = .ok n := by simp [natural, Json.nat]
  exact ⟨h, h⟩

theorem readsBack_boolean (b : Bool) : ReadsBack boolean (.bool b) b := ⟨rfl, rfl⟩

section

variable {item : Decoder α}

theorem readsBack_arr_nil : ReadsBack (list item) (.arr []) [] := ⟨rfl, rfl⟩

theorem readsBack_arr_cons {v : Json} {items : List Json} {a : α} {as : List α}
    (h : ReadsBack item v a) (hs : ReadsBack (list item) (.arr items) as) :
    ReadsBack (list item) (.arr (v :: items)) (a :: as) where
  written := mapM_cons_eq_ok_iff.2 ⟨a, as, h.written, hs.written, rfl⟩
  canonical := mapM_cons_eq_ok_iff.2 ⟨a, as, h.canonical, hs.canonical, rfl⟩

/-- A list is read back when each of its items is. -/
theorem readsBack_list {encode : α → Json} (h : ∀ a, ReadsBack item (encode a) a) (as : List α) :
    ReadsBack (list item) (.arr (as.map encode)) as := by
  induction as with
  | nil => exact readsBack_arr_nil
  | cons a as ih => exact readsBack_arr_cons (h a) ih

theorem readsBack_null : ReadsBack (nullable item) .null none := ⟨rfl, rfl⟩

/-- An object is not null, and neither is its canonical form. -/
theorem readsBack_nullable {members : List (String × Json)} {a : α}
    (h : ReadsBack item (.obj members) a) : ReadsBack (nullable item) (.obj members) (some a) where
  written := congrArg (Except.map some) h.written
  canonical := congrArg (Except.map some) h.canonical

end

/-- What is read back is read back as what a function makes of it. -/
theorem ReadsBack.map {decode : Decoder α} {j : Json} {a : α} (h : ReadsBack decode j a)
    (f : α → β) : ReadsBack (fun j => (decode j).map f) j (f a) where
  written := congrArg (Except.map f) h.written
  canonical := congrArg (Except.map f) h.canonical

/-! ### Records -/

/-- The fields of an object: as they are written, and as the canonical form has them. -/
inductive Fields.Of (r : Record) (members : List (String × Json)) : Fields → Prop where
  | written : Of r members ⟨r, .named members⟩
  | canonical : Of r members ⟨r, .named (sortMembers (canonicalMembers members))⟩

section

variable {r : Record} {members : List (String × Json)} {s : Fields} {name : String}
  {decode : Decoder α} {v : Json} {a : α}

theorem Fields.Of.required (hs : s.Of r members) (hv : valuesOf name members = [v])
    (h : ReadsBack decode v a) : s.required name decode = .ok a := by
  cases hs with
  | written => exact required_eq_ok_iff.2 ⟨v, hv, h.written⟩
  | canonical => exact required_eq_ok_iff.2 ⟨v.canonical, valuesOf_canonical hv, h.canonical⟩

theorem Fields.Of.optional (hs : s.Of r members) (hv : valuesOf name members = [v])
    (h : ReadsBack decode v a) (default : α) : s.optional name default decode = .ok a := by
  cases hs with
  | written => exact optional_eq_ok_iff.2 (Or.inr ⟨v, hv, h.written⟩)
  | canonical =>
      exact optional_eq_ok_iff.2 (Or.inr ⟨v.canonical, valuesOf_canonical hv, h.canonical⟩)

/-- A field that is not written is read as its default. -/
theorem Fields.Of.absent (hs : s.Of r members) (hv : valuesOf name members = []) (default : α) :
    s.optional name default decode = .ok default := by
  cases hs with
  | written => exact optional_eq_ok_iff.2 (Or.inl ⟨hv, rfl⟩)
  | canonical => exact optional_eq_ok_iff.2 (Or.inl ⟨valuesOf_canonical_nil hv, rfl⟩)

/-- A record is read back when it is read from its fields, wherever they stand. -/
theorem readsBack_record {place : Place} {read : Fields → Reading α}
    (h : ∀ s : Fields, s.Of r members → read s = .ok a) :
    ReadsBack (r.decode place read) (.obj members) a where
  written := decode_obj_eq_ok_iff.2 (h _ .written)
  canonical := decode_obj_eq_ok_iff.2 (h _ .canonical)

end

/-! ### Tagged values -/

section

variable {variants : List (String × Decoder α)} {place : Place} {kind : String}
  {members : List (String × Json)}

/-- A tagged value is read back when the variant that its tag names reads back what is left. -/
theorem readsBack_tagged {decode : Decoder α} {a : α}
    (hkind : variantOf variants place (.str kind) = .ok (some decode))
    (htag : valuesOf tagName members = []) (h : ReadsBack decode (.obj members) a)
    (name : String) (other : α) :
    ReadsBack (tagged name variants other place) (.obj ((tagName, .str kind) :: members)) a where
  written := by
    rw [tagged_obj_of_some (valuesOf_cons_of_nil htag _) hkind, filter_ne_cons_of_nil htag]
    exact h.written
  canonical := by
    have hcanonical : valuesOf tagName (canonicalMembers members) = [] := by
      rw [valuesOf_canonicalMembers, htag]
      rfl
    have hone := valuesOf_sortMembers (valuesOf_cons_of_nil hcanonical (.str kind))
    have hrest := filter_sortMembers (fun k => decide (k ≠ tagName))
      ((tagName, .str kind) :: canonicalMembers members)
    show tagged name variants other place
      (.obj (sortMembers ((tagName, .str kind) :: canonicalMembers members))) = _
    rw [tagged_obj_of_some hone hkind, hrest, filter_ne_cons_of_nil hcanonical]
    exact h.canonical

/-- A tag that names no variant is read back as what such tags stand for. -/
theorem readsBack_other (hkind : variantOf variants place (.str kind) = .ok none) (name : String)
    (other : α) :
    ReadsBack (tagged name variants other place) (.obj [(tagName, .str kind)]) other where
  written := tagged_obj_of_none rfl hkind name other
  canonical := tagged_obj_of_none rfl hkind name other

end

end TemplateLint.Json
