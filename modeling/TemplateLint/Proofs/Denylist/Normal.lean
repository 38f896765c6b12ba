import TemplateLint.Denylist.Rule

/-!
# Normal denylists

Reading a denylist leaves only entries that can forbid something: those with a name and with
patterns none of which is empty. A denylist of such entries is written and read again without loss,
and without a word in the log. A denylist that was not read from data may hold other entries, too.
When it is written and read, these go, and so do the empty patterns; that is worth no warning.

## Main definitions

* `Denylist.Entry.Usable`: the entries that can forbid something
* `Denylist.Normal`: the denylists of such entries
* `Denylist.pruned`: a denylist without what cannot forbid anything

## Main statements

* `Denylist.normal_of_read`: a denylist that has been read is normal
* `Denylist.pruned_eq_iff`: there is nothing to prune in a normal denylist, and only there
* `Denylist.parse_toRaw`: any denylist is read pruned when it was written
* `Denylist.read_toRaw`: a normal denylist is read as it was written
-/

namespace TemplateLint.Denylist

/-! ### Usable entries -/

/-- An entry that can forbid something. The empty pattern is none that may stand in it. -/
structure Entry.Usable (e : Entry) : Prop where
  name_ne_empty : e.name ≠ ""
  values_ne_nil : e.values ≠ []
  value_ne_empty : ∀ v ∈ e.values, v ≠ ""

theorem usable?_eq_some_iff {name : String} {values : List String} {e : Entry} :
    usable? name values = some e ↔
      e.name = name ∧ e.name ≠ "" ∧ e.values = values.filter (· ≠ "") ∧ e.values ≠ [] := by
  obtain ⟨name', values'⟩ := e
  unfold usable?
  dsimp only
  split
  · rename_i hempty
    constructor
    · intro h
      cases h
    · rintro ⟨rfl, hname, rfl, hvalues⟩
      exact absurd hempty (not_or.2 ⟨hname, hvalues⟩)
  · rename_i hfull
    obtain ⟨hname, hvalues⟩ := not_or.1 hfull
    constructor
    · intro h
      cases h
      exact ⟨rfl, hname, rfl, hvalues⟩
    · rintro ⟨rfl, -, rfl, -⟩
      rfl

theorem usable_of_usable? {name : String} {values : List String} {e : Entry}
    (h : usable? name values = some e) : e.Usable := by
  obtain ⟨-, hname, hkept, hvalues⟩ := usable?_eq_some_iff.1 h
  refine ⟨hname, hvalues, fun v hv => ?_⟩
  rw [hkept] at hv
  simpa using (List.mem_filter.1 hv).2

/-- No pattern of a usable entry is taken away. -/
theorem Entry.Usable.filter_values {e : Entry} (h : e.Usable) :
    e.values.filter (· ≠ "") = e.values := by
  refine List.filter_eq_self.2 fun v hv => ?_
  simpa using h.value_ne_empty v hv

/-- A usable entry is kept as it is. -/
theorem Entry.Usable.usable?_eq {e : Entry} (h : e.Usable) : usable? e.name e.values = some e :=
  usable?_eq_some_iff.2 ⟨rfl, h.name_ne_empty, h.filter_values.symm, h.values_ne_nil⟩

/-! ### What reading leaves -/

/-- A denylist all of whose entries are usable. -/
def Normal (d : Denylist) : Prop :=
  ∀ e ∈ d.entries, e.Usable

/-- The members of an item give an entry by their name and their values. -/
theorem readMembers_fst (members : List (String × Json)) :
    (readMembers members).1 = (entryName members).1.bind fun name =>
      (entryValues name members).1.bind (usable? name) := by
  unfold readMembers
  split
  · rename_i hname
    rw [hname]
    rfl
  · rename_i hname
    rw [hname]
    rfl

theorem usable_of_readMembers {members : List (String × Json)} {e : Entry}
    (h : (readMembers members).1 = some e) : e.Usable := by
  rw [readMembers_fst] at h
  obtain ⟨name, -, hvalues⟩ := Option.bind_eq_some_iff.1 h
  obtain ⟨values, -, husable⟩ := Option.bind_eq_some_iff.1 hvalues
  exact usable_of_usable? husable

/-- One well-formed entry is read before the others are. -/
theorem readEntries_cons {entry : Json} {members : List (String × Json)} (index : Nat)
    (rest : List Json) (h : wellFormed entry = .ok members) :
    readEntries index (entry :: rest) =
      ((readEntries (index + 1) rest).1.map ((readMembers members).1.toList ++ ·),
        (readMembers members).2 ++
          (if (readMembers members).1.isNone then [.entryDropped index] else []) ++
          (readEntries (index + 1) rest).2) := by
  rw [readEntries, h]

theorem usable_of_readEntries {items : List Json} {entries : List Entry} {index : Nat}
    (h : (readEntries index items).1 = some entries) : ∀ e ∈ entries, e.Usable := by
  induction items generalizing index entries with
  | nil =>
      cases h
      simp
  | cons item rest ih =>
      cases hitem : wellFormed item with
      | error reason => simp [readEntries, hitem] at h
      | ok members =>
          rw [readEntries_cons index rest hitem] at h
          obtain ⟨more, hmore, rfl⟩ := Option.map_eq_some_iff.1 h
          intro e he
          rcases List.mem_append.1 he with he | he
          · exact usable_of_readMembers (Option.mem_toList.1 he)
          · exact ih hmore e he

theorem usable_of_readList (raw : Json) : ∀ e ∈ (readList raw).1, e.Usable := by
  unfold readList
  split
  · rename_i items
    cases hentries : (readEntries 0 items).1 with
    | none => simp [hentries]
    | some entries =>
        intro e he
        refine usable_of_readEntries hentries e ?_
        simpa [hentries] using he
  · exact List.forall_mem_nil _

/-- **A denylist that has been read is normal.** -/
theorem normal_of_read {raw : Json} {d : Denylist} (h : (read raw).1 = some d) : d.Normal := by
  unfold read at h
  split at h
  · cases h
    exact List.forall_mem_nil _
  · rename_i members
    cases hlist : Json.lookup "attributes" members with
    | none =>
        rw [hlist] at h
        cases h
        exact List.forall_mem_nil _
    | some raw =>
        rw [hlist] at h
        cases h
        exact usable_of_readList raw
  · cases h

/-! ### Pruning -/

/-- An entry without its empty patterns. -/
def Entry.pruned (e : Entry) : Entry :=
  { e with values := e.values.filter (· ≠ "") }

/-- **A denylist without what cannot forbid anything**: without its empty patterns, and then without
the entries that have no name or no pattern left. -/
def pruned (d : Denylist) : Denylist :=
  ⟨(d.entries.map Entry.pruned).filter fun e => e.name ≠ "" ∧ e.values ≠ []⟩

/-- What is left of a denylist can forbid something. -/
theorem normal_pruned (d : Denylist) : d.pruned.Normal := by
  intro e he
  obtain ⟨hmem, hkept⟩ := List.mem_filter.1 he
  obtain ⟨original, -, rfl⟩ := List.mem_map.1 hmem
  obtain ⟨hname, hvalues⟩ := of_decide_eq_true hkept
  refine ⟨hname, hvalues, fun v hv => ?_⟩
  simpa using (List.mem_filter.1 hv).2

theorem Entry.Usable.pruned_eq {e : Entry} (h : e.Usable) : e.pruned = e := by
  unfold Entry.pruned
  rw [h.filter_values]

/-- **There is nothing to prune in a normal denylist, and only there.** -/
theorem pruned_eq_iff {d : Denylist} : d.pruned = d ↔ d.Normal := by
  constructor
  · intro h
    rw [← h]
    exact normal_pruned d
  · intro h
    have hmap : d.entries.map Entry.pruned = d.entries := by
      rw [List.map_congr_left fun e he => (h e he).pruned_eq, List.map_id']
    have hfilter : d.entries.filter (fun e => e.name ≠ "" ∧ e.values ≠ []) = d.entries := by
      refine List.filter_eq_self.2 fun e he => ?_
      exact decide_eq_true ⟨(h e he).name_ne_empty, (h e he).values_ne_nil⟩
    unfold pruned
    rw [hmap, hfilter]

/-- An entry is kept without its empty patterns, if it has a name and other patterns. -/
theorem usable?_eq_guard (e : Entry) :
    usable? e.name e.values =
      Option.guard (fun e : Entry => e.name ≠ "" ∧ e.values ≠ []) e.pruned := by
  ext kept
  rw [usable?_eq_some_iff, Option.guard_eq_some_iff, decide_eq_true_iff]
  constructor
  · rintro ⟨hname, hne, hvalues, hsome⟩
    have hpruned : e.pruned = kept := by
      obtain ⟨name, values⟩ := kept
      obtain rfl : name = e.name := hname
      obtain rfl : values = e.values.filter (· ≠ "") := hvalues
      rfl
    rw [hpruned]
    exact ⟨rfl, hne, hsome⟩
  · rintro ⟨rfl, hne, hsome⟩
    exact ⟨rfl, hne, rfl, hsome⟩

/-- Keeping the usable ones among the entries of a denylist is pruning it. -/
theorem filterMap_usable? (d : Denylist) :
    d.entries.filterMap (fun e => usable? e.name e.values) = d.pruned.entries := by
  unfold pruned
  rw [← List.filterMap_eq_filter, List.filterMap_map]
  congr 1
  funext e
  exact usable?_eq_guard e

/-! ### Written and read again -/

/-- The strings of a list of strings. -/
theorem stringItems_map_str (name : String) (values : List String) :
    stringItems name (values.map Json.str) = (values, []) := by
  induction values with
  | nil => rfl
  | cons v values ih => rw [List.map_cons, stringItems, ih]

/-- What is written of an entry is well-formed, and its name and patterns are read from it. -/
theorem Entry.readMembers_toRaw (e : Entry) :
    ∃ members, wellFormed e.toRaw = .ok members ∧
      readMembers members = (usable? e.name e.values, []) := by
  refine ⟨_, rfl, ?_⟩
  have hvalues : entryValues e.name
      [("name", .str e.name), ("values", .arr (e.values.map .str))] = (some e.values, []) := by
    simp [entryValues, List.lookup_cons, stringItems_map_str]
  simp [readMembers, entryName, hvalues]

/-- The notices on those of some entries that cannot forbid anything. The first entry stands at
`index`. -/
def dropNotices (index : Nat) (entries : List Entry) : List Notice :=
  ((entries.zipIdx index).filter fun e => (usable? e.1.name e.1.values).isNone).map fun e =>
    .entryDropped e.2

/-- What is written of entries is read entry by entry, and only those that can forbid something are
kept. -/
theorem readEntries_toRaw (entries : List Entry) (index : Nat) :
    readEntries index (entries.map Entry.toRaw) =
      (some (entries.filterMap fun e => usable? e.name e.values), dropNotices index entries) := by
  induction entries generalizing index with
  | nil => rfl
  | cons e rest ih =>
      obtain ⟨members, hmembers, hread⟩ := e.readMembers_toRaw
      rw [List.map_cons, readEntries_cons index _ hmembers, hread, ih]
      unfold dropNotices
      rw [List.zipIdx_cons]
      cases husable : usable? e.name e.values with
      | none => simp [husable]
      | some kept => simp [husable]

/-- **A denylist is read pruned when it was written.** -/
theorem read_toRaw_eq_pruned (d : Denylist) :
    read d.toRaw = (some d.pruned, dropNotices 0 d.entries) := by
  have hlookup : Json.lookup "attributes" [("attributes", Json.arr (d.entries.map Entry.toRaw))] =
      some (.arr (d.entries.map Entry.toRaw)) := rfl
  unfold read toRaw
  simp only [hlookup, readList, readEntries_toRaw, filterMap_usable?, Option.getD_some]

/-- **A normal denylist is read as it was written**, and there is nothing to say about it. -/
theorem read_toRaw {d : Denylist} (h : d.Normal) : read d.toRaw = (some d, []) := by
  have hnotices : dropNotices 0 d.entries = [] := by
    refine List.map_eq_nil_iff.2 (List.filter_eq_nil_iff.2 fun e he => ?_)
    rw [(h e.1 (List.fst_mem_of_mem_zipIdx he)).usable?_eq]
    simp
  rw [read_toRaw_eq_pruned, pruned_eq_iff.2 h, hnotices]

/-- Dropping single entries is worth no warning. -/
theorem level_dropNotices {d : Denylist} {m : Log.Entry}
    (h : m ∈ (dropNotices 0 d.entries).map Notice.entry) : m.level ≠ .warn := by
  obtain ⟨n, hn, rfl⟩ := List.mem_map.1 h
  obtain ⟨e, -, rfl⟩ := List.mem_map.1 hn
  simp [Notice.entry, Notice.isWarning]

theorem parse_value (raw : Json) :
    (parse raw).value = match (read raw).1 with
      | some d => .ok d
      | none => .error ⟨ruleName, [docsPointer], raw⟩ := rfl

theorem parse_eq_ok_iff {raw : Json} {d : Denylist} :
    (parse raw).value = .ok d ↔ (read raw).1 = some d := by
  rw [parse_value]
  cases (read raw).1 <;> simp

/-- **What is written is read pruned.**  Any denylist that is written is read without a warning, and
comes out pruned; so it comes out as it went in when it is normal, and only then. What has been read
from data comes out as it went in. -/
theorem parse_toRaw :
    (∀ d : Denylist, (parse d.toRaw).value = .ok d.pruned ∧
      (∀ m ∈ (parse d.toRaw).log, m.level ≠ .warn) ∧
      ((parse d.toRaw).value = .ok d ↔ d.Normal)) ∧
    ∀ raw d, (parse raw).value = .ok d → (parse d.toRaw).value = .ok d := by
  have hpruned : ∀ d : Denylist, (parse d.toRaw).value = .ok d.pruned := by
    intro d
    rw [parse_eq_ok_iff, read_toRaw_eq_pruned]
  have hsame : ∀ d : Denylist, (parse d.toRaw).value = .ok d ↔ d.Normal := by
    intro d
    rw [hpruned, Except.ok.injEq, pruned_eq_iff]
  refine ⟨fun d => ⟨hpruned d, fun m hm => ?_, hsame d⟩, fun raw d hread => ?_⟩
  · apply level_dropNotices
    unfold parse at hm
    rwa [read_toRaw_eq_pruned] at hm
  · rw [hsame]
    exact normal_of_read (parse_eq_ok_iff.1 hread)

example : (parse (toRaw ⟨[⟨"class", ["", "a"]⟩, ⟨"", ["b"]⟩, ⟨"id", [""]⟩]⟩)).value =
    .ok ⟨[⟨"class", ["a"]⟩]⟩ :=
  rfl

/-! ### Rules from options -/

theorem buildRule_eq_ok_iff {raw : Json} {r : Rule} :
    (buildRule raw).value = .ok r ↔ ∃ d, (read raw).1 = some d ∧ r = d.rule := by
  unfold buildRule parse
  cases hread : read raw with
  | mk d? notices =>
      cases d? with
      | none =>
          constructor
          · intro h
            cases h
          · rintro ⟨d, h, -⟩
            cases h
      | some d =>
          constructor
          · intro h
            cases h
            exact ⟨d, rfl, rfl⟩
          · rintro ⟨d', h, rfl⟩
            cases h
            rfl

/-- The rule of a normal denylist is built from its own options. -/
theorem buildRule_toRaw {d : Denylist} (h : d.Normal) : buildRule d.toRaw = ⟨.ok d.rule, []⟩ := by
  unfold buildRule parse
  rw [read_toRaw h]
  rfl

end TemplateLint.Denylist
