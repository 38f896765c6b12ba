import TemplateLint.Decimal.Binary64

/-!
# JSON values

A JSON value as a tree. An object is a list of members in the order in which they are written; the
canonical form of a value has the members of every object in increasing order of their names and
each name once. Names are compared by code point, which is also the order of their UTF-8 bytes.

## Main definitions

* `Json`: a value
* `Json.insertMember`: one member put into a list in order
* `Json.canonical`: the canonical form
* `Json.depth`: how deep arrays and objects are nested
-/

namespace TemplateLint

/-- A JSON value. Integers and floating point numbers are told apart, as their texts are. -/
inductive Json where
  | null
  | bool (b : Bool)
  | int (n : Int)
  | float (x : Binary64)
  | str (s : String)
  | arr (items : List Json)
  | obj (members : List (String × Json))
  deriving Inhabited

namespace Json

/-- A natural number as a value. -/
def nat (n : Nat) : Json := .int n

/-- Puts a member into a list that is ordered by name. A member of that name is replaced. -/
def insertMember {α : Type} (name : String) (value : α) : List (String × α) → List (String × α)
  | [] => [(name, value)]
  | (k, v) :: rest =>
    if name < k then (name, value) :: (k, v) :: rest
    else if k < name then (k, v) :: insertMember name value rest
    else (name, value) :: rest

/-- Members in increasing order of name; of two members of one name the last one is kept. -/
def sortMembers {α : Type} (members : List (String × α)) : List (String × α) :=
  members.foldl (fun sorted m => insertMember m.1 m.2 sorted) []

mutual

/-- The value with the members of every object in order and without repeated names. -/
def canonical : Json → Json
  | .arr items => .arr (canonicalItems items)
  | .obj members => .obj (sortMembers (canonicalMembers members))
  | .null => .null
  | .bool b => .bool b
  | .int n => .int n
  | .float x => .float x
  | .str s => .str s

/-- The canonical forms of the items of an array. -/
def canonicalItems : List Json → List Json
  | [] => []
  | v :: vs => v.canonical :: canonicalItems vs

/-- The members of an object with their values in canonical form. -/
def canonicalMembers : List (String × Json) → List (String × Json)
  | [] => []
  | (k, v) :: ms => (k, v.canonical) :: canonicalMembers ms

end

-- The first member with a name is found as in any list of pairs.
export List (lookup)

mutual

/-- How many arrays and objects are nested in one another at most. -/
def depth : Json → Nat
  | .arr items => itemsDepth items + 1
  | .obj members => membersDepth members + 1
  | _ => 0

/-- The greatest depth of the items of an array. -/
def itemsDepth : List Json → Nat
  | [] => 0
  | v :: vs => max v.depth (itemsDepth vs)

/-- The greatest depth of the members of an object. -/
def membersDepth : List (String × Json) → Nat
  | [] => 0
  | (_, v) :: ms => max v.depth (membersDepth ms)

end

/-! ### Order of members -/

/-- Members in strictly increasing order of their names. -/
def Ordered {α : Type} (members : List (String × α)) : Prop :=
  members.Pairwise fun a b => a.1 < b.1

private theorem name_eq_of_not_lt {a b : String} (h₁ : ¬ a < b) (h₂ : ¬ b < a) : a = b :=
  String.le_antisymm (String.not_lt.1 h₂) (String.not_lt.1 h₁)

/-- The names after an insertion are the old ones and the new one. -/
theorem mem_insertMember_name {α : Type} {name : String} {value : α}
    {members : List (String × α)} {m : String × α} (h : m ∈ insertMember name value members) :
    m.1 = name ∨ m ∈ members := by
  induction members with
  | nil => simp_all [insertMember]
  | cons head rest ih =>
    obtain ⟨k, v⟩ := head
    unfold insertMember at h
    split at h
    · rcases List.mem_cons.1 h with rfl | h
      · exact Or.inl rfl
      · exact Or.inr h
    · split at h
      · rcases List.mem_cons.1 h with rfl | h
        · exact Or.inr (by simp)
        · exact (ih h).imp_right (List.mem_cons_of_mem _)
      · rcases List.mem_cons.1 h with rfl | h
        · exact Or.inl rfl
        · exact Or.inr (List.mem_cons_of_mem _ h)

theorem ordered_insertMember {α : Type} (name : String) (value : α)
    {members : List (String × α)} (h : Ordered members) :
    Ordered (insertMember name value members) := by
  induction members with
  | nil => simp [insertMember, Ordered]
  | cons head rest ih =>
    obtain ⟨k, v⟩ := head
    have hk := (List.pairwise_cons.1 h).1
    have hrest := (List.pairwise_cons.1 h).2
    unfold insertMember
    split
    · rename_i hlt
      refine List.pairwise_cons.2 ⟨fun m hm => ?_, h⟩
      rcases List.mem_cons.1 hm with rfl | hm
      · exact hlt
      · exact String.lt_trans hlt (hk m hm)
    · split
      · rename_i _ hlt
        refine List.pairwise_cons.2 ⟨fun m hm => ?_, ih hrest⟩
        rcases mem_insertMember_name hm with heq | hm
        · simpa [heq] using hlt
        · exact hk m hm
      · rename_i h₁ h₂
        obtain rfl := name_eq_of_not_lt h₁ h₂
        exact List.pairwise_cons.2 ⟨hk, hrest⟩

theorem ordered_sortMembers {α : Type} (members : List (String × α)) :
    Ordered (sortMembers members) := by
  unfold sortMembers
  suffices h : ∀ sorted : List (String × α), Ordered sorted →
      Ordered (members.foldl (fun sorted m => insertMember m.1 m.2 sorted) sorted) from
    h [] List.Pairwise.nil
  induction members with
  | nil => exact fun sorted h => h
  | cons m rest ih => exact fun sorted h => ih _ (ordered_insertMember m.1 m.2 h)

end Json

end TemplateLint
