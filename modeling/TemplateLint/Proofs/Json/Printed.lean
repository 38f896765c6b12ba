import Mathlib.Data.List.Forall2
import TemplateLint.Proofs.Json.Nesting
import TemplateLint.Proofs.Json.Spelling

/-!
# Printed values are read back

What is printed over several lines is read as the tree of the value, whatever stands behind it that
no number goes on with, and the value is the one of this tree as long as all of it is used. Numbers
have to be integers of the size that the reader keeps as integers.

## Main definitions

* `Json.Integral`: the values all of whose numbers are such integers
* `Json.document`: the tree of a value
* `Outline.Keeps`: the outlines that use all of a value

## Main statements

* `Integral.spells_prettyAt`: a printed value spells its tree, by induction on the value
* `Outline.keeps_arr`, `Outline.keeps_obj`, `Outline.keeps_whole`: what is used of a value
* `ofTextBy?_pretty`, `ofTextBy?_pretty_record`: a printed value is read back
-/

namespace TemplateLint.Json

open Reader (Spells skipBlanks spells_null spells_true spells_false spells_quote spells_int
  spells_arr_nil spells_arr spells_obj_nil spells_obj spells_member)

/-! ### Trees of values -/

/-- Whether every number of a value is an integer that is kept as an integer. -/
inductive Integral : Json → Prop
  | null : Integral .null
  | bool (b : Bool) : Integral (.bool b)
  | int {n : Int} (low : Reader.integerRange.1 ≤ n) (high : n ≤ Reader.integerRange.2) :
    Integral (.int n)
  | str (s : String) : Integral (.str s)
  | arr {items : List Json} (h : ∀ v ∈ items, Integral v) : Integral (.arr items)
  | obj {members : List (String × Json)} (h : ∀ m ∈ members, Integral m.2) :
    Integral (.obj members)

theorem integral_arr_iff {items : List Json} : (arr items).Integral ↔ ∀ v ∈ items, Integral v := by
  constructor
  · rintro ⟨⟩
    assumption
  · exact .arr

theorem integral_obj_iff {members : List (String × Json)} :
    (obj members).Integral ↔ ∀ m ∈ members, Integral m.2 := by
  constructor
  · rintro ⟨⟩
    assumption
  · exact .obj

/-- A natural number of 64 bits is kept as an integer. -/
theorem Integral.nat {n : Nat} (h : n < UInt64.size) : Integral (.nat n) := by
  refine .int (Int.le_trans (by decide) (Int.natCast_nonneg n)) ?_
  simp only [Reader.integerRange, UInt64.size] at *
  omega

mutual

/-- The tree of a value. -/
def document : Json → Document
  | .arr items => .arr (itemDocuments items)
  | .obj members => .obj (memberDocuments members)
  | .null => .null
  | .bool b => .bool b
  | .int n => .int n
  | .float x => .float x
  | .str s => .str s

/-- The trees of the items of an array. -/
def itemDocuments : List Json → List Document
  | [] => []
  | v :: vs => v.document :: itemDocuments vs

/-- The trees of the members of an object. -/
def memberDocuments : List (String × Json) → List (Option String × Document)
  | [] => []
  | (k, v) :: ms => (some k, v.document) :: memberDocuments ms

end

theorem itemDocuments_eq_map (items : List Json) : itemDocuments items = items.map document := by
  induction items with
  | nil => rfl
  | cons v vs ih => rw [itemDocuments, ih, List.map_cons]

theorem memberDocuments_eq_map (members : List (String × Json)) :
    memberDocuments members = members.map fun m => (some m.1, m.2.document) := by
  induction members with
  | nil => rfl
  | cons m ms ih => rw [memberDocuments, ih, List.map_cons]

/-! ### Printing -/

theorem prettyItems_eq_map (level : Nat) (items : List Json) :
    prettyItems level items = items.map (prettyAt level) := by
  induction items with
  | nil => rfl
  | cons v vs ih => rw [prettyItems, ih, List.map_cons]

theorem prettyMembers_eq_map (level : Nat) (members : List (String × Json)) :
    prettyMembers level members =
      members.map fun m => quote m.1 ++ ": " ++ prettyAt level m.2 := by
  induction members with
  | nil => rfl
  | cons m ms ih => rw [prettyMembers, ih, List.map_cons]

theorem skipBlanks_newline (level : Nat) : skipBlanks (newline level).toList = [] := by
  refine List.dropWhile_eq_nil_iff.2 fun c hc => ?_
  unfold newline at hc
  rw [String.toList_ofList] at hc
  rcases List.mem_cons.1 hc with rfl | hc
  · rfl
  · rw [List.eq_of_mem_replicate hc]
    rfl

/-- Parts on lines of their own: blanks stand in front of each of them and behind the last one. -/
theorem toList_block (opening closing : String) (level : Nat) {parts : List String}
    (hne : parts ≠ []) :
    (block opening closing level parts).toList =
      opening.toList ++ ((newline (level + 1)).toList ++
        (',' :: (newline (level + 1)).toList).intercalate (parts.map String.toList) ++
          (newline level).toList ++ closing.toList) := by
  cases parts with
  | nil => exact absurd rfl hne
  | cons part rest => simp [block, String.toList_intercalate]

/-- Values on lines of their own between brackets are an array. -/
theorem spells_block_arr {parts : List String} {ds : List Document}
    (h : List.Forall₂ (fun part d => Spells Reader.value part.toList d) parts ds) (level : Nat) :
    Spells Reader.value (block "[" "]" level parts).toList (.arr ds) := by
  cases h with
  | nil =>
      have htext : (block "[" "]" level []).toList = ['[', ']'] := by simp [block]
      rw [htext]
      exact spells_arr_nil
  | cons hpart hparts =>
      rw [toList_block _ _ _ (List.cons_ne_nil _ _)]
      exact spells_arr (skipBlanks_newline _) (skipBlanks_newline _)
        (List.forall₂_map_left_iff.2 (.cons hpart hparts)) (List.cons_ne_nil _ _)

/-- Members on lines of their own between brackets are an object. -/
theorem spells_block_obj {parts : List String} {ms : List (Option String × Document)}
    (h : List.Forall₂ (fun part m => Spells Reader.member part.toList m) parts ms) (level : Nat) :
    Spells Reader.value (block "\x7b" "\x7d" level parts).toList (.obj ms) := by
  cases h with
  | nil =>
      have htext : (block "\x7b" "\x7d" level []).toList = ['\x7b', '\x7d'] := by simp [block]
      rw [htext]
      exact spells_obj_nil
  | cons hpart hparts =>
      rw [toList_block _ _ _ (List.cons_ne_nil _ _)]
      exact spells_obj (skipBlanks_newline _) (skipBlanks_newline _)
        (List.forall₂_map_left_iff.2 (.cons hpart hparts)) (List.cons_ne_nil _ _)

/-- **A printed value spells its tree**, at every level of indentation. -/
theorem Integral.spells_prettyAt {j : Json} (h : j.Integral) (level : Nat) :
    Spells Reader.value (prettyAt level j).toList j.document := by
  induction h generalizing level with
  | null =>
      have htext : (prettyAt level .null).toList = ['n', 'u', 'l', 'l'] := by
        simp [prettyAt, compact]
      rw [htext]
      exact spells_null
  | bool b =>
      cases b with
      | true =>
          have htext : (prettyAt level (.bool true)).toList = ['t', 'r', 'u', 'e'] := by
            simp [prettyAt, compact]
          rw [htext]
          exact spells_true
      | false =>
          have htext : (prettyAt level (.bool false)).toList = ['f', 'a', 'l', 's', 'e'] := by
            simp [prettyAt, compact]
          rw [htext]
          exact spells_false
  | int low high => exact spells_int low high
  | str s => exact spells_quote s
  | arr h ih =>
      rw [prettyAt, prettyItems_eq_map, document, itemDocuments_eq_map]
      refine spells_block_arr (List.forall₂_map_left_iff.2 (List.forall₂_map_right_iff.2
        (List.forall₂_same.2 fun v hv => ?_))) level
      exact ih v hv (level + 1)
  | obj h ih =>
      rw [prettyAt, prettyMembers_eq_map, document, memberDocuments_eq_map]
      refine spells_block_obj (List.forall₂_map_left_iff.2 (List.forall₂_map_right_iff.2
        (List.forall₂_same.2 fun m hm => ?_))) level
      have hblank : skipBlanks [' '] = [] := rfl
      have hmember := spells_member hblank m.1 (ih m hm (level + 1))
      simpa using hmember

/-- A printed value, with blanks behind it, is read as its tree. -/
theorem Integral.document?_pretty {j : Json} (h : j.Integral) {blanks : String}
    (hblanks : skipBlanks blanks.toList = []) :
    Reader.document? (j.pretty ++ blanks) = some j.document := by
  have hends : Reader.Ends blanks.toList := by
    simpa using Reader.ends_append hblanks Reader.ends_nil
  have hvalue : Reader.value (2 * (j.pretty ++ blanks).toList.length + 2)
      (j.pretty ++ blanks).toList = some (j.document, blanks.toList) := by
    rw [String.toList_append]
    refine h.spells_prettyAt 0 _ _ ?_ hends
    rw [List.length_append]
    unfold pretty
    omega
  unfold Reader.document?
  simp only [hvalue, Option.bind_eq_bind, Option.bind_some, hblanks]
  rfl

/-! ### The used parts -/

/-- Whether an outline uses all of a value: with as many open arrays and objects as the value has,
the value is the one of its tree. -/
def Outline.Keeps (o : Outline) (j : Json) : Prop :=
  ∀ room, j.depth ≤ room → j.document.valueWithin room o = some j

namespace Outline

variable {o : Outline}

/-- A field that a record knows is used when all fields are. -/
theorem field?_map_whole {name : String} {names : List String} (h : name ∈ names) :
    field? name (names.map fun k => (k, whole)) = some whole := by
  induction names with
  | nil => exact absurd h List.not_mem_nil
  | cons k names ih =>
      rw [List.map_cons, field?]
      split
      · rfl
      · rename_i hne
        exact ih ((List.mem_cons.1 h).resolve_left fun heq => hne heq.symm)

theorem itemValues_of_keeps {items : List Json} (h : ∀ v ∈ items, o.Keeps v) {room : Nat}
    (hroom : itemsDepth items ≤ room) :
    Document.itemValues room [] o (itemDocuments items) = some items := by
  induction items with
  | nil => rfl
  | cons v vs ih =>
      obtain ⟨hv, hvs⟩ := Nat.max_le.1 hroom
      have hvalue := h v List.mem_cons_self room hv
      have hvalues := ih (fun w hw => h w (List.mem_cons_of_mem v hw)) hvs
      rw [itemDocuments, Document.itemValues, List.headD_nil, List.tail_nil, hvalue, hvalues]
      rfl

theorem memberValues_of_keeps {members : List (String × Json)}
    (h : ∀ m ∈ members, ∃ inner, o.member? m.1 = some inner ∧ inner.Keeps m.2) {room : Nat}
    (hroom : membersDepth members ≤ room) :
    Document.memberValues room o (memberDocuments members) = some members := by
  induction members with
  | nil => rfl
  | cons m ms ih =>
      obtain ⟨hm, hms⟩ := Nat.max_le.1 hroom
      obtain ⟨inner, hinner, hkeeps⟩ := h m List.mem_cons_self
      have hvalue := hkeeps room hm
      have hvalues := ih (fun n hn => h n (List.mem_cons_of_mem m hn)) hms
      rw [memberDocuments, Document.memberValues, hvalues]
      simp [hinner, hvalue]

/-- All of an array is used when all of each item is. -/
theorem keeps_arr (hpositions : o.positions = []) {items : List Json}
    (h : ∀ v ∈ items, o.item.Keeps v) : o.Keeps (.arr items) := by
  intro room hroom
  have hpos : room ≠ 0 := by
    rintro rfl
    exact Nat.not_succ_le_zero _ hroom
  have hvalues := itemValues_of_keeps h (Nat.le_sub_one_of_lt hroom)
  rw [document, Document.valueWithin, if_neg hpos, hpositions, hvalues]
  rfl

/-- All of an object is used when none of its members is skipped, and all of each is used. -/
theorem keeps_obj {members : List (String × Json)}
    (h : ∀ m ∈ members, ∃ inner, o.member? m.1 = some inner ∧ inner.Keeps m.2) :
    o.Keeps (.obj members) := by
  intro room hroom
  have hpos : room ≠ 0 := by
    rintro rfl
    exact Nat.not_succ_le_zero _ hroom
  have hvalues := memberValues_of_keeps h (Nat.le_sub_one_of_lt hroom)
  rw [document, Document.valueWithin, if_neg hpos, hvalues]
  rfl

mutual

/-- **An outline of a whole value uses all of it**, by recursion on the value. -/
theorem keeps_whole : (j : Json) → whole.Keeps j
  | .null => fun _ _ => rfl
  | .bool _ => fun _ _ => rfl
  | .int _ => fun _ _ => rfl
  | .float _ => fun _ _ => rfl
  | .str _ => fun _ _ => rfl
  | .arr items => keeps_arr rfl (keeps_whole_items items)
  | .obj members => keeps_obj fun m hm => ⟨whole, rfl, keeps_whole_members members m hm⟩

theorem keeps_whole_items : (items : List Json) → ∀ v ∈ items, whole.Keeps v
  | [] => fun _ hv => absurd hv List.not_mem_nil
  | v :: vs => List.forall_mem_cons.2 ⟨keeps_whole v, keeps_whole_items vs⟩

theorem keeps_whole_members :
    (members : List (String × Json)) → ∀ m ∈ members, whole.Keeps m.2
  | [] => fun _ hm => absurd hm List.not_mem_nil
  | (_, v) :: ms => List.forall_mem_cons.2 ⟨keeps_whole v, keeps_whole_members ms⟩

end

/-- All of an object is used when its members are those that a record knows. -/
theorem keeps_record {names : List String} {members : List (String × Json)}
    (h : ∀ m ∈ members, m.1 ∈ names) :
    (record (names.map fun name => (name, whole))).Keeps (.obj members) :=
  keeps_obj fun m hm => ⟨whole, field?_map_whole (h m hm), keeps_whole m.2⟩

end Outline

/-- **A printed value is read back**, with blanks behind it, when its outline uses all of it and it
is not nested too deep. -/
theorem ofTextBy?_pretty {j : Json} (hnumbers : j.Integral) (hdepth : j.depth ≤ nestingLimit)
    {o : Outline} (hkeeps : o.Keeps j) {blanks : String}
    (hblanks : skipBlanks blanks.toList = []) :
    ofTextBy? o (j.pretty ++ blanks) = some j := by
  have hvalue : j.document.value? o = some j := hkeeps nestingLimit hdepth
  unfold ofTextBy?
  rw [hnumbers.document?_pretty hblanks]
  exact hvalue

/-- A printed object is read back by a record that knows its members. -/
theorem ofTextBy?_pretty_record {names : List String} {members : List (String × Json)}
    (hnumbers : (obj members).Integral) (hdepth : (obj members).depth ≤ nestingLimit)
    (hnames : ∀ m ∈ members, m.1 ∈ names) :
    ofTextBy? (.record (names.map fun name => (name, .whole))) (obj members).pretty =
      some (.obj members) := by
  have hblank : skipBlanks "".toList = [] := rfl
  have hread := ofTextBy?_pretty hnumbers hdepth (Outline.keeps_record hnames) hblank
  rwa [String.append_empty] at hread

/-- The canonical form of a printed value is that of the value. -/
theorem ofText?_pretty {j : Json} (hnumbers : j.Integral) (hdepth : j.depth ≤ nestingLimit)
    {blanks : String} (hblanks : skipBlanks blanks.toList = []) :
    ofText? (j.pretty ++ blanks) = some j.canonical := by
  unfold ofText?
  rw [ofTextBy?_pretty hnumbers hdepth (Outline.keeps_whole j) hblanks]
  rfl

end TemplateLint.Json
