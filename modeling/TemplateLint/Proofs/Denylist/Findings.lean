import TemplateLint.Denylist.Rule
import TemplateLint.Proofs.Linter.Order
import TemplateLint.Proofs.Template.Occurrence

/-!
# What a denylist finds in a template

A linter that runs only the rule of a denylist reports one diagnostic for every occurrence of an
element, every entry of the denylist and every pattern of that entry such that the first attribute
of the entry's name contains the pattern.

## Main definitions

* `Denylist.Finding` and `Denylist.Finding.IsIn`: an offence with all that it is about
* `Denylist.Finding.key`: what decides where a finding is reported
* `Denylist.findings`: the findings in a template in the order in which they are found

## Main statements

* `Denylist.mem_findings_iff`: nothing is found that is no offence, and nothing is missed
* `Denylist.lint_findings`: the diagnostics of a linter, one by one and in order
-/

namespace TemplateLint.Denylist

/-! ### Findings -/

/-- Whether an attribute is the first one of a name. -/
def IsFirst (name : String) (target : Attribute) (attributes : List Attribute) : Prop :=
  ∃ before after, attributes = before ++ target :: after ∧ target.name = name ∧
    ∀ a ∈ before, a.name ≠ name

theorem attribute?_eq_some_iff {e : Element} {name : String} {target : Attribute} :
    e.attribute? name = some target ↔ IsFirst name target e.attributes := by
  unfold Element.attribute? IsFirst
  rw [find?_eq_some_iff_first]
  simp only [decide_eq_false_iff_not, decide_eq_true_eq, and_comm, ne_eq]

/-- A pattern of a denylist in an attribute of an element, with the places of all of them. -/
structure Finding where
  /-- The way to the element. -/
  route : Route
  element : Element
  /-- The place of the entry in the denylist. -/
  entryIndex : Nat
  entry : Entry
  /-- The place of the pattern in the entry. -/
  valueIndex : Nat
  pattern : String
  /-- The attribute that contains the pattern. -/
  target : Attribute

namespace Finding

/-- **Whether a finding is an offence of a template against a denylist**: everything stands at its
place, the attribute is the first one of the entry's name, and what is known of its text is
forbidden. -/
structure IsIn (f : Finding) (d : Denylist) (t : Template) : Prop where
  element_at : f.route.element? t.body = some f.element
  entry_at : d.entries[f.entryIndex]? = some f.entry
  pattern_at : f.entry.values[f.valueIndex]? = some f.pattern
  isFirst : IsFirst f.entry.name f.target f.element.attributes
  forbidden : forbids f.pattern f.target.value.staticText

/-- The places of the element, of the entry and of the pattern. -/
def place (f : Finding) : Route × Nat × Nat :=
  (f.route, f.entryIndex, f.valueIndex)

/-- When a finding is reported: by element, by entry and by pattern. -/
def rank (t : Template) (f : Finding) : List Nat :=
  [f.route.index t.body, f.entryIndex, f.valueIndex]

/-- Where a finding stands among all findings: by the start of the attribute, and then by rank. -/
def key (t : Template) (f : Finding) : List Nat :=
  f.target.loc.start.line :: f.target.loc.start.column :: f.rank t

/-- The diagnostic of a finding. -/
def diagnostic (severity : Severity) (source : String) (f : Finding) : Diagnostic where
  rule := "denylist"
  severity := severity
  message := "The value '" ++ f.pattern ++ "' is present in attribute '" ++ f.entry.name ++
    "', but is forbidden"
  span := f.target.loc
  source := Source.quote source f.element.loc
  isFixable := false
  file := none

/-- The places decide the rest of an offence. -/
theorem eq_of_place_eq {d : Denylist} {t : Template} {f g : Finding} (hf : f.IsIn d t)
    (hg : g.IsIn d t) (h : f.place = g.place) : f = g := by
  obtain ⟨route, element, i, entry, j, pattern, target⟩ := f
  obtain ⟨route', element', i', entry', j', pattern', target'⟩ := g
  obtain ⟨rfl, rfl, rfl⟩ : route = route' ∧ i = i' ∧ j = j' := by simpa [place] using h
  obtain rfl : element = element' := Option.some.inj (hf.element_at.symm.trans hg.element_at)
  obtain rfl : entry = entry' := Option.some.inj (hf.entry_at.symm.trans hg.entry_at)
  obtain rfl : pattern = pattern' := Option.some.inj (hf.pattern_at.symm.trans hg.pattern_at)
  obtain rfl : target = target' := Option.some.inj <|
    (attribute?_eq_some_iff.2 hf.isFirst).symm.trans (attribute?_eq_some_iff.2 hg.isFirst)
  rfl

end Finding

/-! ### Finding them all -/

/-- The findings at an element against one entry. -/
def findingsAgainst (route : Route) (e : Element) (entry : Entry) (i : Nat) : List Finding :=
  match e.attribute? entry.name with
  | none => []
  | some target =>
    (entry.values.zipIdx.filter fun v => forbids v.1 target.value.staticText).map fun v =>
      ⟨route, e, i, entry, v.2, v.1, target⟩

/-- The findings at an element. -/
def findingsAt (d : Denylist) (route : Route) (e : Element) : List Finding :=
  d.entries.zipIdx.flatMap fun entry => findingsAgainst route e entry.1 entry.2

/-- The findings at the end of a route. -/
def findingsOn (d : Denylist) (ns : List Node) (route : Route) : List Finding :=
  match route.element? ns with
  | none => []
  | some e => d.findingsAt route e

/-- The findings in a template, in the order in which they are found. -/
def findings (d : Denylist) (t : Template) : List Finding :=
  (routesOf t.body).flatMap (d.findingsOn t.body)

theorem mem_findingsAgainst {f : Finding} {route : Route} {e : Element} {entry : Entry} {i : Nat} :
    f ∈ findingsAgainst route e entry i ↔
      (f.route = route ∧ f.element = e ∧ f.entryIndex = i ∧ f.entry = entry) ∧
        f.entry.values[f.valueIndex]? = some f.pattern ∧
        IsFirst f.entry.name f.target f.element.attributes ∧
        forbids f.pattern f.target.value.staticText := by
  obtain ⟨route', e', i', entry', j, pattern, target⟩ := f
  unfold findingsAgainst
  constructor
  · intro h
    split at h
    · simp at h
    · rename_i target' htarget
      obtain ⟨⟨pattern', j'⟩, hv, heq⟩ := List.mem_map.1 h
      obtain ⟨hat, hforbids⟩ := List.mem_filter.1 hv
      cases heq
      exact ⟨⟨rfl, rfl, rfl, rfl⟩, List.mem_zipIdx_iff_getElem?.1 hat,
        attribute?_eq_some_iff.1 htarget, hforbids⟩
  · rintro ⟨⟨rfl, rfl, rfl, rfl⟩, hpattern, hfirst, hforbids⟩
    rw [attribute?_eq_some_iff.2 hfirst]
    refine List.mem_map.2 ⟨(pattern, j), List.mem_filter.2 ⟨?_, hforbids⟩, rfl⟩
    exact List.mem_zipIdx_iff_getElem?.2 hpattern

theorem mem_findingsAt {f : Finding} {d : Denylist} {route : Route} {e : Element} :
    f ∈ d.findingsAt route e ↔
      (f.route = route ∧ f.element = e) ∧ d.entries[f.entryIndex]? = some f.entry ∧
        f.entry.values[f.valueIndex]? = some f.pattern ∧
        IsFirst f.entry.name f.target f.element.attributes ∧
        forbids f.pattern f.target.value.staticText := by
  unfold findingsAt
  rw [List.mem_flatMap]
  constructor
  · rintro ⟨⟨entry, i⟩, hentry, hf⟩
    obtain ⟨⟨hroute, helement, rfl, rfl⟩, hrest⟩ := mem_findingsAgainst.1 hf
    exact ⟨⟨hroute, helement⟩, List.mem_zipIdx_iff_getElem?.1 hentry, hrest⟩
  · rintro ⟨⟨hroute, helement⟩, hentry, hrest⟩
    exact ⟨(f.entry, f.entryIndex), List.mem_zipIdx_iff_getElem?.2 hentry,
      mem_findingsAgainst.2 ⟨⟨hroute, helement, rfl, rfl⟩, hrest⟩⟩

theorem mem_findingsOn {f : Finding} {d : Denylist} {ns : List Node} {route : Route} :
    f ∈ d.findingsOn ns route ↔
      f.route = route ∧ route.element? ns = some f.element ∧
        d.entries[f.entryIndex]? = some f.entry ∧
        f.entry.values[f.valueIndex]? = some f.pattern ∧
        IsFirst f.entry.name f.target f.element.attributes ∧
        forbids f.pattern f.target.value.staticText := by
  unfold findingsOn
  cases h : route.element? ns with
  | none => simp
  | some e =>
      rw [mem_findingsAt]
      constructor
      · rintro ⟨⟨hroute, rfl⟩, hrest⟩
        exact ⟨hroute, rfl, hrest⟩
      · rintro ⟨hroute, helement, hrest⟩
        exact ⟨⟨hroute, (Option.some.inj helement).symm⟩, hrest⟩

/-- **Exactly the offences are found.** -/
theorem mem_findings_iff {f : Finding} {d : Denylist} {t : Template} :
    f ∈ d.findings t ↔ f.IsIn d t := by
  unfold findings
  rw [List.mem_flatMap]
  constructor
  · rintro ⟨r, -, hf⟩
    obtain ⟨rfl, helement, hentry, hpattern, hfirst, hforbids⟩ := mem_findingsOn.1 hf
    exact ⟨helement, hentry, hpattern, hfirst, hforbids⟩
  · intro hf
    refine ⟨f.route, mem_routesOf_iff.2 ⟨f.element, hf.element_at⟩, mem_findingsOn.2 ?_⟩
    exact ⟨rfl, hf.element_at, hf.entry_at, hf.pattern_at, hf.isFirst, hf.forbidden⟩

/-! ### The order of findings -/

theorem pairwise_findingsAgainst (route : Route) (e : Element) (entry : Entry) (i : Nat) :
    (findingsAgainst route e entry i).Pairwise fun f g => f.valueIndex < g.valueIndex := by
  unfold findingsAgainst
  split
  · exact List.Pairwise.nil
  · rw [List.pairwise_map]
    exact (pairwise_snd_zipIdx entry.values).filter _

theorem pairwise_findingsAt (d : Denylist) (route : Route) (e : Element) :
    (d.findingsAt route e).Pairwise fun f g =>
      [f.entryIndex, f.valueIndex] < [g.entryIndex, g.valueIndex] := by
  unfold findingsAt
  rw [List.pairwise_flatMap]
  constructor
  · rintro ⟨entry, i⟩ -
    refine (pairwise_findingsAgainst route e entry i).imp_of_mem fun hf hg hlt => ?_
    obtain ⟨⟨-, -, hi, -⟩, -⟩ := mem_findingsAgainst.1 hf
    obtain ⟨⟨-, -, hi', -⟩, -⟩ := mem_findingsAgainst.1 hg
    simp [List.cons_lt_cons_iff, hi, hi', hlt]
  · refine (pairwise_snd_zipIdx d.entries).imp fun hlt f hf g hg => ?_
    obtain ⟨⟨-, -, hi, -⟩, -⟩ := mem_findingsAgainst.1 hf
    obtain ⟨⟨-, -, hi', -⟩, -⟩ := mem_findingsAgainst.1 hg
    simp [List.cons_lt_cons_iff, hi, hi', hlt]

theorem pairwise_findingsOn (d : Denylist) (ns : List Node) (route : Route) :
    (d.findingsOn ns route).Pairwise fun f g =>
      [f.entryIndex, f.valueIndex] < [g.entryIndex, g.valueIndex] := by
  unfold findingsOn
  split
  · exact List.Pairwise.nil
  · exact pairwise_findingsAt d route _

/-- Findings are found in the order of their ranks. -/
theorem pairwise_rank_findings (d : Denylist) (t : Template) :
    (d.findings t).Pairwise fun f g => f.rank t < g.rank t := by
  unfold findings
  rw [List.pairwise_flatMap]
  constructor
  · intro r _
    refine (pairwise_findingsOn d t.body r).imp_of_mem fun hf hg hlt => ?_
    unfold Finding.rank
    rw [(mem_findingsOn.1 hf).1, (mem_findingsOn.1 hg).1, List.cons_lt_cons_iff]
    exact Or.inr ⟨rfl, hlt⟩
  · refine (pairwise_index_routesOf t.body).imp fun hlt f hf g hg => ?_
    unfold Finding.rank
    rw [(mem_findingsOn.1 hf).1, (mem_findingsOn.1 hg).1, List.cons_lt_cons_iff]
    exact Or.inl hlt

/-! ### Reporting -/

/-- What the rule reports at an element because of one entry. -/
def Entry.reports (entry : Entry) (scope : Scope) (e : Element) : List Diagnostic :=
  (entry.offences e).map (Denylist.diagnostic scope e entry)

/-- The rule reports at an element because of one entry after the other. -/
theorem value_visit (d : Denylist) (scope : Scope) (e : Element) :
    (d.visit scope e).value = d.entries.flatMap fun entry => entry.reports scope e := by
  change (d.offences e).map _ = _
  unfold offences
  rw [List.map_flatMap]
  simp only [List.map_map]
  rfl

theorem map_diagnostic_findingsAgainst (severity : Severity) (source : String) (route : Route)
    (e : Element) (entry : Entry) (i : Nat) :
    (findingsAgainst route e entry i).map (Finding.diagnostic severity source) =
      entry.reports ⟨ruleName, severity, source⟩ e := by
  unfold findingsAgainst Entry.reports Entry.offences
  cases e.attribute? entry.name with
  | none => rfl
  | some target =>
      simp only [forbiddenIn]
      rw [← map_fst_filter_zipIdx (forbids · target.value.staticText)]
      simp only [List.map_map]
      rfl

theorem map_diagnostic_findingsAt (severity : Severity) (source : String) (d : Denylist)
    (route : Route) (e : Element) :
    (d.findingsAt route e).map (Finding.diagnostic severity source) =
      (d.visit ⟨ruleName, severity, source⟩ e).value := by
  let scope : Scope := ⟨ruleName, severity, source⟩
  calc (d.findingsAt route e).map (Finding.diagnostic severity source)
      = d.entries.zipIdx.flatMap (fun entry => entry.1.reports scope e) := by
        unfold findingsAt
        rw [List.map_flatMap]
        simp only [map_diagnostic_findingsAgainst]
        rfl
    _ = (d.entries.zipIdx.map Prod.fst).flatMap (fun entry => entry.reports scope e) := by
        rw [List.flatMap_map]
    _ = (d.visit scope e).value := by rw [List.zipIdx_map_fst, value_visit]

/-- **The rule reports the findings**, in the order in which they are found. -/
theorem map_diagnostic_findings (severity : Severity) (source : String) (d : Denylist)
    (t : Template) :
    (d.findings t).map (Finding.diagnostic severity source) =
      ((⟨d.rule, severity⟩ : ActiveRule).inspect t source).value := by
  let reports : Option Element → List Diagnostic
    | none => []
    | some e => (d.rule.visit ⟨ruleName, severity, source⟩ e).value
  have hroute : ∀ r : Route, (d.findingsOn t.body r).map (Finding.diagnostic severity source) =
      reports (r.element? t.body) := by
    intro r
    unfold findingsOn
    cases r.element? t.body with
    | none => rfl
    | some e => exact map_diagnostic_findingsAt severity source d r e
  calc (d.findings t).map (Finding.diagnostic severity source)
      = (routesOf t.body).flatMap (fun r => reports (r.element? t.body)) := by
        unfold findings
        rw [List.map_flatMap]
        simp only [hroute]
    _ = ((routesOf t.body).map (·.element? t.body)).flatMap reports := by rw [List.flatMap_map]
    _ = ((nodesElements t.body).map some).flatMap reports := by rw [map_element?_routesOf]
    _ = ((⟨d.rule, severity⟩ : ActiveRule).inspect t source).value := by
        rw [List.flatMap_map]
        rfl

/-- **What a denylist finds.**  The diagnostics of a linter that runs only the rule of a denylist
are those of the offences: every offence is reported, nothing else is, and no element, entry and
pattern come together twice. They stand in the order of their keys. -/
theorem lint_findings (d : Denylist) (severity : Severity) (t : Template) (source : String) :
    ∃ fs : List Finding,
      (∀ f, f ∈ fs ↔ f.IsIn d t) ∧
      (fs.map Finding.place).Nodup ∧
      (fs.Pairwise fun f g => f.key t < g.key t) ∧
      (Linter.lint ⟨[⟨d.rule, severity⟩]⟩ t source).value.diagnostics =
        fs.map (Finding.diagnostic severity source) := by
  let start : Finding → Position := fun f => f.target.loc.start
  let fs := (d.findings t).mergeSort fun f g => start f ≤ start g
  have hmem : ∀ f, f ∈ fs ↔ f.IsIn d t := by
    intro f
    rw [List.mem_mergeSort, mem_findings_iff]
  have hkey : fs.Pairwise fun f g => f.key t < g.key t := by
    have hsorted := Linter.pairwise_sortByStart (Finding.diagnostic severity source)
      (pairwise_rank_findings d t)
    -- The rank is all that decides between findings that start at one place.
    refine hsorted.imp fun {f g} ⟨hle, htied⟩ => ?_
    rcases (Position.le_iff _ _).1 hle with hline | ⟨hline, hcolumn⟩
    · exact List.cons_lt_cons_iff.2 (Or.inl hline)
    · refine List.cons_lt_cons_iff.2 (Or.inr ⟨hline, List.cons_lt_cons_iff.2 ?_⟩)
      rcases Nat.lt_or_eq_of_le hcolumn with hcolumn | hcolumn
      · exact Or.inl hcolumn
      · exact Or.inr ⟨hcolumn, htied (Or.inr ⟨hline.symm, Nat.le_of_eq hcolumn.symm⟩)⟩
  refine ⟨fs, hmem, ?_, hkey, ?_⟩
  · -- Two findings at the same places would be one, and its key would be smaller than itself.
    refine List.pairwise_map.2 (hkey.imp_of_mem fun {f g} hf hg hlt heq => ?_)
    rw [Finding.eq_of_place_eq ((hmem f).1 hf) ((hmem g).1 hg) heq] at hlt
    exact List.lt_irrefl _ hlt
  · rw [Linter.lint_value]
    simp only [List.flatMap_cons, List.flatMap_nil, List.append_nil]
    rw [← map_diagnostic_findings, Linter.sortByStart_map]
    rfl

end TemplateLint.Denylist
