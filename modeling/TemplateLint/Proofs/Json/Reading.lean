import TemplateLint.Json.Decode

/-!
# Reading fields

A record reads its fields, and of a field it uses only what is written for it: the values of the
members of its name, wherever they stand, or the item at its place in an array. A required field is
read when it is written once, and a field with a default also when it is not written at all. The
tag of a tagged value is such a member, too.

## Main definitions

* `Json.valuesOf`: the values of the members of a name
* `Fields.values`: what is written for a field

## Main statements

* `Fields.required_eq_ok_iff`, `Fields.optional_eq_ok_iff`: when a field is read
* `Fields.field_congr`: a field is read alike by decoders that agree on what is written for it
* `decode_obj_eq_ok_iff`, `decode_arr_eq_ok_iff`: when a record is read
* `tagged_obj_of_some`, `tagged_obj_of_none`: how a tagged value is read
-/

namespace TemplateLint.Json

variable {α β : Type}

/-! ### Members of a name -/

/-- The values of the members called `name`, in the order of the members. -/
def valuesOf (name : String) (members : List (String × Json)) : List Json :=
  (members.filter (·.1 = name)).map (·.2)

theorem valuesOf_cons (name k : String) (v : Json) (rest : List (String × Json)) :
    valuesOf name ((k, v) :: rest) =
      if k = name then v :: valuesOf name rest else valuesOf name rest := by
  by_cases hk : k = name
  · simp [valuesOf, hk]
  · simp [valuesOf, hk]

theorem valuesOf_append (name : String) (ms ns : List (String × Json)) :
    valuesOf name (ms ++ ns) = valuesOf name ms ++ valuesOf name ns := by
  simp [valuesOf]

/-- A member of another name does not change what the members of a name are. -/
theorem valuesOf_insert {name other : String} (hne : other ≠ name)
    (before after : List (String × Json)) (value : Json) :
    valuesOf other (before ++ (name, value) :: after) = valuesOf other (before ++ after) := by
  rw [valuesOf_append, valuesOf_append, valuesOf_cons, if_neg hne.symm]

section

variable {name : String} {members : List (String × Json)}

/-- A member of a new name is the only one of that name. -/
theorem valuesOf_cons_of_nil (h : valuesOf name members = []) (v : Json) :
    valuesOf name ((name, v) :: members) = [v] := by
  rw [valuesOf_cons, if_pos rfl, h]

/-- Without the members of a name that no member has there are all members. -/
theorem filter_ne_of_nil (h : valuesOf name members = []) :
    members.filter (·.1 ≠ name) = members := by
  rw [List.filter_eq_self]
  intro m hm
  have hne : ¬ m.1 = name := by
    intro heq
    have hmem : m ∈ members.filter (·.1 = name) := List.mem_filter.2 ⟨hm, decide_eq_true heq⟩
    rw [List.map_eq_nil_iff.1 h] at hmem
    cases hmem
  exact decide_eq_true hne

/-- Without the member of a new name there are the other members. -/
theorem filter_ne_cons_of_nil (h : valuesOf name members = []) (v : Json) :
    ((name, v) :: members).filter (·.1 ≠ name) = members := by
  rw [List.filter_cons_of_neg (by simp), filter_ne_of_nil h]

end

theorem mem_of_mem_valuesOf {name : String} {members : List (String × Json)} {v : Json}
    (h : v ∈ valuesOf name members) : (name, v) ∈ members := by
  obtain ⟨⟨k, w⟩, hfilter, rfl⟩ := List.mem_map.1 h
  obtain ⟨hm, hk⟩ := List.mem_filter.1 hfilter
  obtain rfl : k = name := of_decide_eq_true hk
  exact hm

theorem map_snd_occurrences (name : String) (i : Nat) (members : List (String × Json)) :
    (occurrences name i members).map (·.2) = valuesOf name members := by
  induction members generalizing i with
  | nil => rfl
  | cons m rest ih =>
      obtain ⟨k, v⟩ := m
      rw [occurrences, valuesOf_cons]
      split
      · rw [List.map_cons, ih]
      · exact ih (i + 1)

/-! ### Lists -/

theorem mapM_cons_eq_ok_iff {item : Decoder α} {v : Json} {items : List Json} {as : List α} :
    (v :: items).mapM item = .ok as ↔
      ∃ a rest, item v = .ok a ∧ items.mapM item = .ok rest ∧ as = a :: rest := by
  rw [List.mapM_cons]
  cases item v with
  | error e => simp [bind, Except.bind]
  | ok a =>
      cases items.mapM item with
      | error e => simp [bind, Except.bind]
      | ok rest => simp [bind, Except.bind, pure, Except.pure, eq_comm]

/-! ### Outcomes -/

namespace Reading

theorem located_eq_ok_iff {position : Nat} {x : Except DecodeError α} {a : α} :
    located position x = .ok a ↔ x = .ok a := by
  cases x with
  | error e =>
      constructor
      · intro h
        cases h
      · intro h
        cases h
  | ok b =>
      constructor
      · intro h
        cases h
        rfl
      · intro h
        cases h
        rfl

theorem settle_eq_ok_iff {x : Reading α} {a : α} : x.settle = .ok a ↔ x = .ok a := by
  constructor
  · intro h
    cases x with
    | error e => cases h
    | ok b =>
        cases h
        rfl
  · rintro rfl
    rfl

theorem map_eq_ok_iff {f : α → β} {x : Reading α} {b : β} :
    f <$> x = .ok b ↔ ∃ a, x = .ok a ∧ f a = b := by
  constructor
  · intro h
    cases x with
    | error _ => cases h
    | ok a =>
        cases h
        exact ⟨a, rfl, rfl⟩
  · rintro ⟨a, rfl, rfl⟩
    rfl

theorem seq_eq_ok_iff {f : Reading (α → β)} {x : Reading α} {b : β} :
    f <*> x = .ok b ↔ ∃ g a, f = .ok g ∧ x = .ok a ∧ g a = b := by
  constructor
  · intro h
    cases f with
    | error _ =>
        cases x with
        | error _ => cases h
        | ok _ => cases h
    | ok g =>
        cases x with
        | error _ => cases h
        | ok a =>
            cases h
            exact ⟨g, a, rfl, rfl, rfl⟩
  · rintro ⟨g, a, rfl, rfl, rfl⟩
    rfl

end Reading

/-! ### Fields -/

namespace Fields

/-- What is written for a field. -/
def values (s : Fields) (name : String) : List Json :=
  match s.written with
  | .named members => valuesOf name members
  | .positional items => (items[s.record.fields.idxOf name]?).toList

section

variable (s : Fields) {name : String} (absent : Nat → DecodeError → Reading α) (decode : Decoder α)

theorem field_of_nil (h : s.values name = []) :
    ∃ position e, s.field name absent decode = absent position e := by
  obtain ⟨record, written⟩ := s
  cases written with
  | named members =>
      have hnone : occurrences name 0 members = [] := by
        rw [← List.map_eq_nil_iff, map_snd_occurrences]
        exact h
      simp only [field, hnone]
      exact ⟨_, _, rfl⟩
  | positional items =>
      have hnone : items[record.fields.idxOf name]? = none := Option.toList_eq_nil_iff.1 h
      simp only [field, hnone]
      exact ⟨_, _, rfl⟩

theorem field_of_singleton {v : Json} (h : s.values name = [v]) :
    ∃ position, s.field name absent decode = Reading.located position (decode v) := by
  obtain ⟨record, written⟩ := s
  cases written with
  | named members =>
      have hmap : (occurrences name 0 members).map (·.2) = [v] := by
        rw [map_snd_occurrences]
        exact h
      obtain ⟨⟨i, w⟩, hone, rfl⟩ := List.map_eq_singleton_iff.1 hmap
      simp only [field, hone]
      exact ⟨_, rfl⟩
  | positional items =>
      have hsome : items[record.fields.idxOf name]? = some v := Option.toList_eq_singleton_iff.1 h
      simp only [field, hsome]
      exact ⟨_, rfl⟩

/-- A field that is written more than once is not read. -/
theorem field_ne_ok_of_cons_cons {v w : Json} {more : List Json}
    (h : s.values name = v :: w :: more) (a : α) : s.field name absent decode ≠ .ok a := by
  obtain ⟨record, written⟩ := s
  cases written with
  | named members =>
      have hmap : (occurrences name 0 members).map (·.2) = v :: w :: more := by
        rw [map_snd_occurrences]
        exact h
      obtain ⟨⟨i, v⟩, rest, htwo, -, hrest⟩ := List.map_eq_cons_iff.1 hmap
      obtain ⟨⟨j, w⟩, rest, rfl, -, -⟩ := List.map_eq_cons_iff.1 hrest
      simp only [field, htwo]
      cases decode v with
      | error e => nofun
      | ok b => nofun
  | positional items =>
      have hlength := congrArg List.length h
      cases hitem : items[record.fields.idxOf name]? with
      | none => simp [values, hitem] at hlength
      | some v => simp [values, hitem] at hlength

/-- A field is read alike by decoders that agree on what is written for it. -/
theorem field_congr {decode decode' : Decoder α} (h : ∀ v ∈ s.values name, decode v = decode' v) :
    s.field name absent decode = s.field name absent decode' := by
  obtain ⟨record, written⟩ := s
  cases written with
  | named members =>
      have hmem : ∀ m ∈ occurrences name 0 members, decode m.2 = decode' m.2 := by
        intro m hm
        refine h m.2 ?_
        show m.2 ∈ valuesOf name members
        rw [← map_snd_occurrences name 0]
        exact List.mem_map_of_mem hm
      simp only [field]
      cases hm : occurrences name 0 members with
      | nil => rfl
      | cons m more =>
          have hfirst : decode m.2 = decode' m.2 := hmem m (by simp [hm])
          cases more with
          | nil => simp only [hfirst]
          | cons m' more => simp only [hfirst]
  | positional items =>
      simp only [field]
      cases hitem : items[record.fields.idxOf name]? with
      | none => rfl
      | some v =>
          have hv : decode v = decode' v := h v (by simp [values, hitem])
          simp only [hv]

end

/-- A required field is read when it is written once. -/
theorem required_eq_ok_iff {s : Fields} {name : String} {decode : Decoder α} {a : α} :
    s.required name decode = .ok a ↔ ∃ v, s.values name = [v] ∧ decode v = .ok a := by
  cases h : s.values name with
  | nil =>
      obtain ⟨position, e, heq⟩ := s.field_of_nil (fun position e => .error (position, e)) decode h
      constructor
      · intro hok
        cases heq.symm.trans hok
      · rintro ⟨v, h, -⟩
        cases h
  | cons v rest =>
      cases rest with
      | nil =>
          obtain ⟨position, heq⟩ :=
            s.field_of_singleton (fun position e => .error (position, e)) decode h
          rw [required, heq, Reading.located_eq_ok_iff]
          simp
      | cons w more =>
          constructor
          · intro hok
            exact absurd hok (s.field_ne_ok_of_cons_cons _ decode h a)
          · rintro ⟨v, h, -⟩
            cases h

/-- A field with a default is read when it is written once, or not at all. -/
theorem optional_eq_ok_iff {s : Fields} {name : String} {default : α} {decode : Decoder α} {a : α} :
    s.optional name default decode = .ok a ↔
      s.values name = [] ∧ default = a ∨ ∃ v, s.values name = [v] ∧ decode v = .ok a := by
  cases h : s.values name with
  | nil =>
      obtain ⟨position, e, heq⟩ := s.field_of_nil (fun _ _ => .ok default) decode h
      rw [optional, heq]
      constructor
      · intro hok
        cases hok
        exact Or.inl ⟨rfl, rfl⟩
      · rintro (⟨-, rfl⟩ | ⟨v, h, -⟩)
        · rfl
        · cases h
  | cons v rest =>
      cases rest with
      | nil =>
          obtain ⟨position, heq⟩ := s.field_of_singleton (fun _ _ => .ok default) decode h
          rw [optional, heq, Reading.located_eq_ok_iff]
          simp
      | cons w more =>
          constructor
          · intro hok
            exact absurd hok (s.field_ne_ok_of_cons_cons _ decode h a)
          · rintro (⟨h, -⟩ | ⟨v, h, -⟩)
            · cases h
            · cases h

end Fields

/-! ### Records -/

section

variable {r : Record} {place : Place} {read : Fields → Reading α} {a : α}

theorem decode_obj_eq_ok_iff {members : List (String × Json)} :
    r.decode place read (.obj members) = .ok a ↔ read ⟨r, .named members⟩ = .ok a :=
  Reading.settle_eq_ok_iff

/-- An array may leave out fields at its end, but has no items beyond them. -/
theorem decode_arr_eq_ok_iff {items : List Json} :
    r.decode place read (.arr items) = .ok a ↔
      read ⟨r, .positional items⟩ = .ok a ∧ items.length ≤ r.fields.length := by
  rw [← Reading.settle_eq_ok_iff]
  simp only [Record.decode]
  generalize (read ⟨r, .positional items⟩).settle = y
  cases y with
  | error e => simp [bind, Except.bind]
  | ok b =>
      by_cases hlength : items.length ≤ r.fields.length
      · simp [bind, Except.bind, hlength]
      · simp [bind, Except.bind, hlength]

end

/-! ### Tagged values -/

section

variable {variants : List (String × Decoder α)} {place : Place} {members : List (String × Json)}
  {tag : Json}

/-- A tag that is written once is found wherever it stands. -/
theorem occurrences_tagName_of_values (h : valuesOf tagName members = [tag]) :
    ∃ i, occurrences tagName 0 members = [(i, tag)] := by
  rw [← map_snd_occurrences tagName 0] at h
  obtain ⟨⟨i, v⟩, hone, rfl⟩ := List.map_eq_singleton_iff.1 h
  exact ⟨i, hone⟩

/-- What is left without the tag is read as the variant that the tag names. -/
theorem tagged_obj_of_some {decode : Decoder α} (h : valuesOf tagName members = [tag])
    (hv : variantOf variants place tag = .ok (some decode)) (name : String) (other : α) :
    tagged name variants other place (.obj members) =
      decode (.obj (members.filter (·.1 ≠ tagName))) := by
  obtain ⟨i, hone⟩ := occurrences_tagName_of_values h
  simp only [tagged, hone, hv]
  rfl

/-- Every other tag stands for the same value, whatever else is written. -/
theorem tagged_obj_of_none (h : valuesOf tagName members = [tag])
    (hv : variantOf variants place tag = .ok none) (name : String) (other : α) :
    tagged name variants other place (.obj members) = .ok other := by
  obtain ⟨i, hone⟩ := occurrences_tagName_of_values h
  simp only [tagged, hone, hv]
  rfl

end

end TemplateLint.Json
