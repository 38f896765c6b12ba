import TemplateLint.Proofs.Denylist.Reading
import TemplateLint.Proofs.Lists
import TemplateLint.Proofs.Text.Bytes

/-!
# What reading a denylist says

Whatever reading a denylist loses shows in the log. A list that is lost as a whole is worth one
warning, which comes last and names the item that spoils the list. An item that is lost alone is
worth a notice with its place, among other notices on what stands in it. So the places of the
notices, together with the entries that are kept, account for every item.

## Main definitions

* `Denylist.Spoils`: why an item spoils its list
* `Denylist.Lost`: the data whose list is lost as a whole
* `Denylist.Warns`: the warning that such data is worth
* `Denylist.lostPlaces`: the places of the items that give no entry
* `Denylist.saysDropped`: the messages on items that are lost alone

## Main statements

* `Denylist.wellFormed_eq_error_iff`: when reading stops at an item
* `Denylist.read_of_lost`, `Denylist.not_isWarning_of_not_lost`: when there is a warning, and which
* `Denylist.filterMap_dropped?_readEntries`: the places of the notices on items lost alone
* `Denylist.parse_log`: the log of a denylist that is read
-/

namespace TemplateLint.Denylist

/-! ### Items that spoil their list -/

/-- Whether a name is the least one, byte by byte, among the names of members that no entry may
have. -/
structure IsLeastUnexpected (members : List (String × Json)) (key : String) : Prop where
  exists_member : ∃ value, (key, value) ∈ members
  ne_name : key ≠ "name"
  ne_values : key ≠ "values"
  le : ∀ m ∈ members, m.1 ≠ "name" → m.1 ≠ "values" → Text.bytes key ≤ Text.bytes m.1

/-- **Why an item spoils its list**: it is no object, or it has members besides a name and values,
the least of which is the reason. -/
inductive Spoils (item : Json) : Malformed → Prop where
  | notAnObject : (∀ members, item ≠ .obj members) → Spoils item (.notAnObject item)
  | unexpectedKey {members : List (String × Json)} {key : String} : item = .obj members →
    IsLeastUnexpected members key → Spoils item (.unexpectedKey key)

theorem leastName?_cons (k : String) (ks : List String) :
    ∃ least, leastName? (k :: ks) = some least ∧ least ∈ k :: ks ∧
      ∀ k' ∈ k :: ks, ¬ k' < least := by
  induction ks generalizing k with
  | nil =>
      refine ⟨k, rfl, List.mem_cons_self, fun k' hk' => ?_⟩
      rw [List.mem_singleton.1 hk']
      exact String.lt_irrefl k
  | cons k₂ ks ih =>
      obtain ⟨least, hleast, hmem, hle⟩ := ih k₂
      rw [leastName?, hleast]
      dsimp only
      split
      · rename_i hlt
        refine ⟨least, rfl, List.mem_cons_of_mem k hmem, ?_⟩
        exact List.forall_mem_cons.2 ⟨String.lt_asymm hlt, hle⟩
      · rename_i hnlt
        -- The least of the others is not smaller than `k`, so that none of them is.
        refine ⟨k, rfl, List.mem_cons_self, List.forall_mem_cons.2 ⟨String.lt_irrefl k, ?_⟩⟩
        intro k' hk'
        have hleast' : least ≤ k' := String.not_lt.1 (hle k' hk')
        exact String.not_lt.2 (String.le_trans (String.not_lt.1 hnlt) hleast')

/-- The least of some names is one of them, and none of them is smaller. -/
theorem leastName?_eq_some_iff {names : List String} {key : String} :
    leastName? names = some key ↔ key ∈ names ∧ ∀ k ∈ names, ¬ k < key := by
  cases names with
  | nil => simp [leastName?]
  | cons k ks =>
      obtain ⟨least, hleast, hmem, hle⟩ := leastName?_cons k ks
      rw [hleast, Option.some.injEq]
      constructor
      · rintro rfl
        exact ⟨hmem, hle⟩
      · rintro ⟨hkey, hkeyle⟩
        exact String.le_antisymm (String.not_lt.1 (hle key hkey))
          (String.not_lt.1 (hkeyle least hmem))

theorem unexpectedKey?_eq_some_iff {members : List (String × Json)} {key : String} :
    unexpectedKey? members = some key ↔ IsLeastUnexpected members key := by
  have hmem : ∀ k, k ∈ (members.map (·.1)).filter (fun k => ! allowedKeys.contains k) ↔
      (∃ value, (k, value) ∈ members) ∧ k ≠ "name" ∧ k ≠ "values" := by
    intro k
    simp [List.mem_filter, allowedKeys]
  unfold unexpectedKey?
  rw [leastName?_eq_some_iff]
  simp only [hmem, ← Text.bytes_lt_iff, List.not_lt]
  constructor
  · rintro ⟨⟨hmember, hname, hvalues⟩, hle⟩
    exact ⟨hmember, hname, hvalues, fun m hm hn hv => hle m.1 ⟨⟨m.2, hm⟩, hn, hv⟩⟩
  · rintro ⟨hmember, hname, hvalues, hle⟩
    refine ⟨⟨hmember, hname, hvalues⟩, fun k hk => ?_⟩
    obtain ⟨⟨value, hvalue⟩, hn, hv⟩ := hk
    exact hle (k, value) hvalue hn hv

/-- **Reading stops at the items that spoil their list.** -/
theorem wellFormed_eq_error_iff {item : Json} {reason : Malformed} :
    wellFormed item = .error reason ↔ Spoils item reason := by
  constructor
  · intro h
    cases item with
    | obj members =>
        cases hkey : unexpectedKey? members with
        | none => simp [wellFormed, hkey] at h
        | some key =>
            simp only [wellFormed, hkey, Except.error.injEq] at h
            subst h
            exact .unexpectedKey rfl (unexpectedKey?_eq_some_iff.1 hkey)
    | _ =>
        cases h
        exact .notAnObject (by simp)
  · intro h
    cases h with
    | notAnObject hitem =>
        cases item with
        | obj members => exact absurd rfl (hitem members)
        | _ => rfl
    | unexpectedKey hitem hkey =>
        subst hitem
        simp only [wellFormed, unexpectedKey?_eq_some_iff.2 hkey]

/-- An item is admissible, or there is a reason why it is not. -/
theorem exists_spoils_iff {item : Json} : (∃ reason, Spoils item reason) ↔ ¬ Admissible item := by
  simp only [← wellFormed_eq_error_iff, ← exists_wellFormed_iff]
  cases wellFormed item <;> simp

/-! ### Notices on single items -/

/-- The place of the item that a notice says to be dropped. -/
def Notice.dropped? : Notice → Option Nat
  | .entryDropped index => some index
  | _ => none

theorem notice_of_mem_stringItems {name : String} {items : List Json} {n : Notice}
    (h : n ∈ (stringItems name items).2) : ∃ found, n = .valueIgnored found name := by
  induction items with
  | nil => simp [stringItems] at h
  | cons item rest ih =>
      cases item with
      | str value => exact ih h
      | _ =>
          rcases List.mem_cons.1 h with rfl | h
          · exact ⟨_, rfl⟩
          · exact ih h

/-- Of what stands in an item, only names and values that are of no use are worth a notice. -/
theorem notice_of_mem_readMembers {members : List (String × Json)} {n : Notice}
    (h : n ∈ (readMembers members).2) :
    (∃ found, n = .nameIgnored found) ∨ (∃ found name, n = .valueIgnored found name) ∨
      ∃ name found, n = .valuesIgnored name found := by
  have hname : ∀ n ∈ (entryName members).2, ∃ found, n = .nameIgnored found := by
    intro n hn
    unfold entryName at hn
    split at hn
    · cases hn
    · cases hn
    · exact ⟨_, List.mem_singleton.1 hn⟩
    · cases hn
  have hvalues : ∀ name, ∀ n ∈ (entryValues name members).2,
      (∃ found, n = .valueIgnored found name) ∨ ∃ found, n = .valuesIgnored name found := by
    intro name n hn
    unfold entryValues at hn
    split at hn
    · cases hn
    · cases hn
    · cases hn
    · exact Or.inl (notice_of_mem_stringItems hn)
    · exact Or.inr ⟨_, List.mem_singleton.1 hn⟩
  unfold readMembers at h
  split at h
  · rename_i notices heq
    exact Or.inl (hname n (by rw [heq]; exact h))
  · rename_i name notices heq
    rcases List.mem_append.1 h with h | h
    · exact Or.inl (hname n (by rw [heq]; exact h))
    · rcases hvalues name n h with ⟨found, rfl⟩ | ⟨found, rfl⟩
      · exact Or.inr (Or.inl ⟨found, name, rfl⟩)
      · exact Or.inr (Or.inr ⟨name, found, rfl⟩)

/-- What is said of a single item is no warning, and drops nothing by itself. -/
theorem readMembers_notices_minor {members : List (String × Json)} {n : Notice}
    (h : n ∈ (readMembers members).2) : n.isWarning = false ∧ n.dropped? = none := by
  rcases notice_of_mem_readMembers h with ⟨_, rfl⟩ | ⟨_, _, rfl⟩ | ⟨_, _, rfl⟩ <;> exact ⟨rfl, rfl⟩

/-! ### Notices on lists -/

/-- There is no warning about a list of admissible items. -/
theorem not_isWarning_of_admissible {items : List Json} (h : ∀ item ∈ items, Admissible item)
    {index : Nat} {n : Notice} (hn : n ∈ (readEntries index items).2) : n.isWarning = false := by
  induction items generalizing index with
  | nil => simp [readEntries] at hn
  | cons item rest ih =>
      obtain ⟨hitem, hrest⟩ := List.forall_mem_cons.1 h
      obtain ⟨members, hmembers⟩ := exists_wellFormed_iff.2 hitem
      rw [readEntries_cons index rest hmembers] at hn
      rcases List.mem_append.1 hn with hn | hn
      · rcases List.mem_append.1 hn with hn | hn
        · exact (readMembers_notices_minor hn).1
        · split at hn
          · obtain rfl := List.mem_singleton.1 hn
            rfl
          · cases hn
      · exact ih hrest hn

/-- **The first item that spoils a list** ends the reading, and the warning about it comes last. -/
theorem readEntries_of_spoils {before : List Json} (hbefore : ∀ i ∈ before, Admissible i)
    {item : Json} {reason : Malformed} (h : Spoils item reason) (after : List Json) (index : Nat) :
    readEntries index (before ++ item :: after) =
      (none, (readEntries index before).2 ++ [.listIgnored (index + before.length) reason]) := by
  induction before generalizing index with
  | nil => simp [readEntries, wellFormed_eq_error_iff.2 h]
  | cons first rest ih =>
      obtain ⟨hfirst, hrest⟩ := List.forall_mem_cons.1 hbefore
      obtain ⟨members, hmembers⟩ := exists_wellFormed_iff.2 hfirst
      rw [List.cons_append, readEntries_cons index _ hmembers, ih hrest,
        readEntries_cons index rest hmembers, List.length_cons, Nat.add_right_comm, ← Nat.add_assoc]
      simp

/-! ### Warnings -/

/-- **Whether the list of an object is lost as a whole**: it is no list, or it holds an item that is
not admissible. -/
def Lost (raw : Json) : Prop :=
  ∃ members found, raw = .obj members ∧ Json.lookup "attributes" members = some found ∧
    ∀ items, found = .arr items → ∃ item ∈ items, ¬ Admissible item

/-- **The warning that data is worth**: its list is no list, or an item spoils it. The first such
item is the one that is named. -/
inductive Warns : Json → Notice → Prop where
  | notAList {members : List (String × Json)} {found : Json} :
    Json.lookup "attributes" members = some found → (∀ items, found ≠ .arr items) →
      Warns (.obj members) (.notAList found)
  | listIgnored {members : List (String × Json)} {before after : List Json} {item : Json}
      {reason : Malformed} :
    Json.lookup "attributes" members = some (.arr (before ++ item :: after)) →
      (∀ i ∈ before, Admissible i) → Spoils item reason →
      Warns (.obj members) (.listIgnored before.length reason)

theorem Warns.isWarning {raw : Json} {n : Notice} (h : Warns raw n) : n.isWarning = true := by
  cases h <;> rfl

/-- **What is said of data whose list is lost**: one warning, after what was said before the reading
stopped. Nothing of the list is kept. -/
theorem read_of_lost {raw : Json} (h : Lost raw) :
    ∃ calm n, read raw = (some {}, calm ++ [n]) ∧ (∀ c ∈ calm, c.isWarning = false) ∧
      Warns raw n := by
  obtain ⟨members, found, rfl, hlookup, hlost⟩ := h
  by_cases hlist : ∃ items, found = .arr items
  · obtain ⟨items, rfl⟩ := hlist
    obtain ⟨before, item, after, rfl, hbefore, hitem⟩ := exists_first (hlost items rfl)
    have hadmissible : ∀ i ∈ before, Admissible i := fun i hi => not_not.1 (hbefore i hi)
    obtain ⟨reason, hreason⟩ := exists_spoils_iff.2 hitem
    refine ⟨(readEntries 0 before).2, .listIgnored before.length reason, ?_,
      fun c hc => not_isWarning_of_admissible hadmissible hc,
      .listIgnored hlookup hadmissible hreason⟩
    simp [read, hlookup, readList, readEntries_of_spoils hadmissible hreason]
  · have hnone : ∀ items, found ≠ .arr items := fun items hitems => hlist ⟨items, hitems⟩
    refine ⟨[], .notAList found, ?_, by simp, .notAList hlookup hnone⟩
    cases found with
    | arr items => exact absurd rfl (hnone items)
    | _ => simp [read, hlookup, readList]

/-- What is not lost is a list, and all of its items are admissible. -/
theorem admissible_of_not_lost {members : List (String × Json)} {found : Json}
    (hlookup : Json.lookup "attributes" members = some found) (h : ¬ Lost (.obj members)) :
    ∃ items, found = .arr items ∧ ∀ item ∈ items, Admissible item := by
  by_contra hnone
  refine h ⟨members, found, rfl, hlookup, fun items hitems => ?_⟩
  by_contra hall
  exact hnone ⟨items, hitems, fun item hitem => by_contra fun hspoilt =>
    hall ⟨item, hitem, hspoilt⟩⟩

/-- **There is no warning where no list is lost.** -/
theorem not_isWarning_of_not_lost {raw : Json} (h : ¬ Lost raw) {n : Notice}
    (hn : n ∈ (read raw).2) : n.isWarning = false := by
  unfold read at hn
  split at hn
  · cases hn
  · rename_i members
    cases hlookup : Json.lookup "attributes" members with
    | none => simp [hlookup] at hn
    | some found =>
        obtain ⟨items, rfl, hitems⟩ := admissible_of_not_lost hlookup h
        rw [hlookup] at hn
        exact not_isWarning_of_admissible hitems hn
  · cases hn

/-! ### Items lost alone -/

/-- The entry that an item gives, if it gives one. -/
def given? : Json → Option Entry
  | .obj members => (readMembers members).1
  | _ => none

theorem given?_eq_some_iff {item : Json} {e : Entry} : given? item = some e ↔ e.GivenBy item := by
  cases item with
  | obj members => exact readMembers_eq_some_iff
  | _ =>
      constructor
      · intro h
        cases h
      · rintro ⟨members, -, -, h, -⟩
        cases h

theorem given?_eq_none_iff {item : Json} : given? item = none ↔ ∀ e : Entry, ¬ e.GivenBy item := by
  simp only [← given?_eq_some_iff, Option.eq_none_iff_forall_ne_some, ne_eq]

/-- The places of the items that give no entry. The first item stands at `index`. -/
def lostPlaces (index : Nat) (items : List Json) : List Nat :=
  ((items.zipIdx index).filter fun v => (given? v.1).isNone).map Prod.snd

theorem lostPlaces_cons_of_given {item : Json} {rest : List Json} {e : Entry}
    (h : e.GivenBy item) (index : Nat) :
    lostPlaces index (item :: rest) = lostPlaces (index + 1) rest := by
  unfold lostPlaces
  rw [List.zipIdx_cons, List.filter_cons_of_neg (by simp [given?_eq_some_iff.2 h])]

theorem lostPlaces_cons_of_lost {item : Json} {rest : List Json}
    (h : ∀ e : Entry, ¬ e.GivenBy item) (index : Nat) :
    lostPlaces index (item :: rest) = index :: lostPlaces (index + 1) rest := by
  unfold lostPlaces
  rw [List.zipIdx_cons, List.filter_cons_of_pos (by simp [given?_eq_none_iff.2 h])]
  rfl

/-- **The notices on items that are lost alone** have the places of those that give no entry, in
order. -/
theorem filterMap_dropped?_readEntries {items : List Json} (h : ∀ item ∈ items, Admissible item)
    (index : Nat) :
    (readEntries index items).2.filterMap Notice.dropped? = lostPlaces index items := by
  induction items generalizing index with
  | nil => rfl
  | cons item rest ih =>
      obtain ⟨hitem, hrest⟩ := List.forall_mem_cons.1 h
      obtain ⟨members, hmembers⟩ := exists_wellFormed_iff.2 hitem
      have hminor : (readMembers members).2.filterMap Notice.dropped? = [] :=
        List.filterMap_eq_nil_iff.2 fun n hn => (readMembers_notices_minor hn).2
      rw [readEntries_cons index rest hmembers, List.filterMap_append, List.filterMap_append,
        hminor, ih hrest, List.nil_append]
      obtain ⟨rfl, -⟩ := wellFormed_eq_ok_iff.1 hmembers
      cases hread : (readMembers members).1 with
      | none =>
          have hlost : ∀ e : Entry, ¬ e.GivenBy (.obj members) := given?_eq_none_iff.1 hread
          rw [lostPlaces_cons_of_lost hlost]
          rfl
      | some e =>
          rw [lostPlaces_cons_of_given (readMembers_eq_some_iff.1 hread)]
          rfl

theorem mem_lostPlaces {items : List Json} {i : Nat} :
    i ∈ lostPlaces 0 items ↔ ∃ item, items[i]? = some item ∧ ∀ e : Entry, ¬ e.GivenBy item := by
  unfold lostPlaces
  simp only [List.mem_map, List.mem_filter, Option.isNone_iff_eq_none, given?_eq_none_iff]
  constructor
  · rintro ⟨⟨item, j⟩, ⟨hat, hnone⟩, rfl⟩
    exact ⟨item, List.mem_zipIdx_iff_getElem?.1 hat, hnone⟩
  · rintro ⟨item, hat, hnone⟩
    exact ⟨(item, i), ⟨List.mem_zipIdx_iff_getElem?.2 hat, hnone⟩, rfl⟩

theorem pairwise_lostPlaces (items : List Json) : (lostPlaces 0 items).Pairwise (· < ·) :=
  List.pairwise_map.2 ((pairwise_snd_zipIdx items).filter _)

/-- The entries that items give and the places of those that give none are as many as the items. -/
theorem Collects.length_add_length {items : List Json} {entries : List Entry}
    (h : Collects items entries) (index : Nat) :
    entries.length + (lostPlaces index items).length = items.length := by
  induction h generalizing index with
  | nil => rfl
  | keep he _ ih =>
      rw [lostPlaces_cons_of_given he, List.length_cons, List.length_cons, ← ih (index + 1),
        Nat.add_right_comm]
  | drop hnone _ ih =>
      rw [lostPlaces_cons_of_lost hnone, List.length_cons, List.length_cons, ← ih (index + 1),
        Nat.add_assoc]

/-! ### The log -/

/-- Whether a message of the log says that an item is dropped. -/
def saysDropped (m : Log.Entry) : Bool :=
  "Dropping attribute entry #".toList.isPrefixOf m.message.toList

theorem level_entry (n : Notice) : n.entry.level = .warn ↔ n.isWarning = true := by
  unfold Notice.entry
  cases n.isWarning <;> simp

theorem saysDropped_entry (n : Notice) : saysDropped n.entry = n.dropped?.isSome := by
  unfold saysDropped Notice.entry
  cases n with
  | entryDropped index =>
      refine List.isPrefixOf_iff_prefix.2 ?_
      dsimp only [Notice.message]
      rw [String.toList_append, String.toList_append, List.append_assoc]
      exact List.prefix_append _ _
  | _ =>
      dsimp only [Notice.message]
      simp only [String.toList_append, List.append_assoc]
      rfl

/-- Of the messages of the log, those on dropped items are the notices with their places. -/
theorem filter_saysDropped (notices : List Notice) :
    (notices.map Notice.entry).filter saysDropped =
      (notices.filterMap Notice.dropped?).map fun i => (Notice.entryDropped i).entry := by
  induction notices with
  | nil => rfl
  | cons n rest ih =>
      rw [List.map_cons, List.filter_cons, saysDropped_entry, ih]
      cases n <;> rfl

/-- The log of data whose list is lost ends with the warning, and holds no other one. -/
theorem log_of_lost {raw : Json} (h : Lost raw) :
    ∃ calm n, (parse raw).log = calm ++ [n.entry] ∧ (∀ m ∈ calm, m.level ≠ .warn) ∧
      Warns raw n ∧ (parse raw).value = .ok {} := by
  obtain ⟨calm, n, hread, hcalm, hwarns⟩ := read_of_lost h
  have hlog : (parse raw).log = (read raw).2.map Notice.entry := rfl
  refine ⟨calm.map Notice.entry, n, ?_, ?_, hwarns, parse_eq_ok_iff.2 (by rw [hread])⟩
  · rw [hlog, hread, List.map_append]
    rfl
  · refine List.forall_mem_map.2 fun c hc hlevel => ?_
    rw [level_entry, hcalm c hc] at hlevel
    cases hlevel

/-- The log of data whose list is not lost holds no warning. -/
theorem log_of_not_lost {raw : Json} (h : ¬ Lost raw) : ∀ m ∈ (parse raw).log, m.level ≠ .warn := by
  have hlog : (parse raw).log = (read raw).2.map Notice.entry := rfl
  rw [hlog]
  refine List.forall_mem_map.2 fun n hn hlevel => ?_
  rw [level_entry, not_isWarning_of_not_lost h hn] at hlevel
  cases hlevel

theorem exists_warning_iff {raw : Json} :
    (∃ m ∈ (parse raw).log, m.level = .warn) ↔ Lost raw := by
  constructor
  · rintro ⟨m, hm, hlevel⟩
    by_contra hkept
    exact log_of_not_lost hkept m hm hlevel
  · intro h
    obtain ⟨calm, n, hlog, -, hwarns, -⟩ := log_of_lost h
    exact ⟨n.entry, by simp [hlog], (level_entry n).2 hwarns.isWarning⟩

/-- A warning is the only one, and the last message. -/
theorem eq_of_warning {raw : Json} {m : Log.Entry} (hm : m ∈ (parse raw).log)
    (hlevel : m.level = .warn) :
    ∃ n, Warns raw n ∧ m = n.entry ∧ (parse raw).log.getLast? = some m ∧
      (parse raw).value = .ok {} := by
  obtain ⟨calm, n, hlog, hcalm, hwarns, hvalue⟩ :=
    log_of_lost (exists_warning_iff.1 ⟨m, hm, hlevel⟩)
  rw [hlog] at hm ⊢
  rcases List.mem_append.1 hm with hm | hm
  · exact absurd hlevel (hcalm m hm)
  · obtain rfl := List.mem_singleton.1 hm
    exact ⟨n, hwarns, rfl, by simp, hvalue⟩

theorem countP_warning_le_one (raw : Json) : (parse raw).log.countP (·.level = .warn) ≤ 1 := by
  by_cases h : Lost raw
  · obtain ⟨calm, n, hlog, hcalm, -, -⟩ := log_of_lost h
    have hnone : calm.countP (·.level = .warn) = 0 :=
      List.countP_eq_zero.2 fun m hm => by simpa using hcalm m hm
    rw [hlog, List.countP_append, hnone, Nat.zero_add]
    exact List.countP_le_length
  · have hnone : (parse raw).log.countP (·.level = .warn) = 0 :=
      List.countP_eq_zero.2 fun m hm => by simpa using log_of_not_lost h m hm
    omega

/-- What is said of a list of admissible items. -/
theorem log_of_admissible {members : List (String × Json)} {items : List Json}
    (hlookup : Json.lookup "attributes" members = some (.arr items))
    (h : ∀ item ∈ items, Admissible item) :
    (parse (.obj members)).log.filter saysDropped =
      (lostPlaces 0 items).map fun i => (Notice.entryDropped i).entry := by
  have hlog : (parse (.obj members)).log = (readEntries 0 items).2.map Notice.entry := by
    simp [parse, read, hlookup, readList]
  rw [hlog, filter_saysDropped, filterMap_dropped?_readEntries h]

/-- **What reading a denylist says.**  There is at most one warning. It comes last, and nothing is
kept then. There is one exactly when the list is lost as a whole: it shows what stands in place of a
list, or it names the place of the first item that spoils the list and shows the item, or the least
of the members that the item may not have. When the list is not lost, the items that are said to be
dropped, each at its place, are those that give no entry, in their order, and together with the
entries that are kept they are as many as the items. -/
theorem parse_log (raw : Json) :
    (parse raw).log.countP (·.level = .warn) ≤ 1 ∧
    (∀ m ∈ (parse raw).log, m.level = .warn →
      (parse raw).log.getLast? = some m ∧ (parse raw).value = .ok ⟨[]⟩) ∧
    ((∃ m ∈ (parse raw).log, m.level = .warn) ↔ Lost raw) ∧
    (∀ members found, raw = .obj members → Json.lookup "attributes" members = some found →
      ∀ m ∈ (parse raw).log, m.level = .warn →
        ((∀ items, found ≠ .arr items) ∧
          m.message = "Ignoring denylist attributes: expected a list, got " ++ found.compact) ∨
        ∃ before item after reason, found = .arr (before ++ item :: after) ∧
          (∀ i ∈ before, Admissible i) ∧
          m.message =
            "Ignoring all denylist attributes: entry #" ++ toString before.length ++ " " ++ reason ∧
          ((∀ fields, item ≠ .obj fields) ∧ reason = "is not an object: " ++ item.compact ∨
            ∃ fields key, item = .obj fields ∧ IsLeastUnexpected fields key ∧
              reason = "has unexpected key `" ++ key ++ "`")) ∧
    ∀ members items, raw = .obj members →
      Json.lookup "attributes" members = some (.arr items) →
      (∀ m ∈ (parse raw).log, m.level ≠ .warn) → ∃ (d : Denylist) (places : List Nat),
        (parse raw).value = .ok d ∧ Collects items d.entries ∧
        (parse raw).log.filter saysDropped = places.map (fun i =>
          ⟨.debug, "Dropping attribute entry #" ++ toString i ++
            " without a usable name or values"⟩) ∧
        places.Pairwise (· < ·) ∧
        (∀ i, i ∈ places ↔ ∃ item, items[i]? = some item ∧ ∀ e : Entry, ¬ e.GivenBy item) ∧
        d.entries.length + places.length = items.length := by
  refine ⟨countP_warning_le_one raw, fun m hm hlevel => ?_, exists_warning_iff, ?_, ?_⟩
  · obtain ⟨-, -, -, hlast, hvalue⟩ := eq_of_warning hm hlevel
    exact ⟨hlast, hvalue⟩
  · rintro members found rfl hlookup m hm hlevel
    obtain ⟨n, hwarns, rfl, -⟩ := eq_of_warning hm hlevel
    cases hwarns with
    | notAList hfound hnone =>
        obtain rfl := Option.some.inj (hlookup.symm.trans hfound)
        exact Or.inl ⟨hnone, rfl⟩
    | listIgnored hfound hbefore hreason =>
        obtain rfl := Option.some.inj (hlookup.symm.trans hfound)
        refine Or.inr ⟨_, _, _, _, rfl, hbefore, rfl, ?_⟩
        cases hreason with
        | notAnObject hitem => exact Or.inl ⟨hitem, rfl⟩
        | unexpectedKey hitem hkey => exact Or.inr ⟨_, _, hitem, hkey, rfl⟩
  · rintro members items rfl hlookup hcalm
    have hkept : ¬ Lost (.obj members) := by
      rw [← exists_warning_iff]
      rintro ⟨m, hm, hlevel⟩
      exact hcalm m hm hlevel
    obtain ⟨items', heq, hitems⟩ := admissible_of_not_lost hlookup hkept
    obtain rfl := Json.arr.inj heq
    have haccepted : ∃ d, (read (.obj members)).1 = some d :=
      exists_read_iff.2 (Or.inr ⟨members, rfl⟩)
    obtain ⟨d, hd⟩ := haccepted
    have hcollects := (read_of_admissible hlookup hitems d).1 hd
    exact ⟨d, lostPlaces 0 items, parse_eq_ok_iff.2 hd, hcollects, log_of_admissible hlookup hitems,
      pairwise_lostPlaces items, fun i => mem_lostPlaces, hcollects.length_add_length 0⟩

example : (parse (.obj [("attributes", .arr [
    .obj [("name", .str "id"), ("values", .arr [.int 1])],
    .obj [("name", .str "class"), ("values", .str "foo")],
    .obj [("name", .str "class"), ("severity", .str "error"), ("rule", .null)]])])).log =
    [⟨.debug, "Ignoring non-string value 1 for attribute `id`"⟩,
      ⟨.debug, "Dropping attribute entry #0 without a usable name or values"⟩,
      ⟨.warn, "Ignoring all denylist attributes: entry #2 has unexpected key `rule`"⟩] := by
  decide

end TemplateLint.Denylist
