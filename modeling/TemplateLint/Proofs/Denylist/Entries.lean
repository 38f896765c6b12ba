import Mathlib.Data.List.Flatten
import Mathlib.Data.List.Nodup
import Mathlib.Logic.Relation
import TemplateLint.Proofs.Denylist.Findings

/-!
# More entries, and entries in another order

The rule of a denylist goes through the entries at every element, and what it reports because of
one entry does not depend on the others. So a longer denylist reports at each element all that a
shorter one does, and a sort by start keeps that. A denylist in another order reports the same at
each element, too, in another order; the sort undoes this where the attributes of an element start
at different places, because then two entries never report at one place.

## Main definitions

* `Denylist.Insertion`: a denylist with one entry or one pattern more

## Main statements

* `Denylist.lint_value_rule`: the findings of a denylist as a sort of what its entries report
* `Denylist.lint_sublist_of_insertions`: growing a denylist only adds findings
* `Denylist.lint_eq_of_perm`: the order of the entries does not matter
-/

namespace TemplateLint.Denylist

/-- The findings are what the entries report, element by element, sorted by start. -/
theorem lint_value_rule (d : Denylist) (severity : Severity) (t : Template) (source : String) :
    (Linter.lint ⟨[⟨d.rule, severity⟩]⟩ t source).value =
      ⟨Linter.sortByStart <| t.elements.flatMap fun e =>
        d.entries.flatMap fun entry => entry.reports ⟨ruleName, severity, source⟩ e, 1⟩ := by
  rw [Linter.lint_value, List.flatMap_singleton]
  simp only [← value_visit]
  rfl

/-- An entry reports its patterns, as far as the first attribute of its name contains them. -/
theorem Entry.mem_reports_iff {entry : Entry} {scope : Scope} {e : Element} {d : Diagnostic} :
    d ∈ entry.reports scope e ↔ ∃ target, IsFirst entry.name target e.attributes ∧
      ∃ pattern ∈ entry.values, forbids pattern target.value.staticText ∧
        d = diagnostic scope e entry ⟨target, pattern⟩ := by
  simp only [← attribute?_eq_some_iff]
  unfold Entry.reports Entry.offences
  cases e.attribute? entry.name with
  | none => simp
  | some target =>
      simp only [forbiddenIn, List.map_map, List.mem_map, List.mem_filter, Option.some.injEq,
        exists_eq_left', Function.comp_apply]
      constructor
      · rintro ⟨pattern, ⟨hpattern, hforbids⟩, rfl⟩
        exact ⟨pattern, hpattern, hforbids, rfl⟩
      · rintro ⟨pattern, hpattern, hforbids, rfl⟩
        exact ⟨pattern, ⟨hpattern, hforbids⟩, rfl⟩

/-! ### More entries -/

/-- One entry more at some place of a denylist, or one pattern more at some place of an entry. -/
inductive Insertion : Denylist → Denylist → Prop
  | entry (before after : List Entry) (e : Entry) :
      Insertion ⟨before ++ after⟩ ⟨before ++ e :: after⟩
  | pattern (before after : List Entry) (name : String) (values more : List String) (p : String) :
      Insertion ⟨before ++ ⟨name, values ++ more⟩ :: after⟩
        ⟨before ++ ⟨name, values ++ p :: more⟩ :: after⟩

section

variable (scope : Scope) (e : Element)

/-- An entry with more patterns reports all that it reports with fewer. -/
theorem Entry.reports_sublist {name : String} {values values' : List String}
    (h : values.Sublist values') :
    ((⟨name, values⟩ : Entry).reports scope e).Sublist
      ((⟨name, values'⟩ : Entry).reports scope e) := by
  unfold Entry.reports Entry.offences
  cases e.attribute? name with
  | none => exact List.Sublist.refl _
  | some target =>
      simp only [List.map_map]
      exact (h.filter _).map _

/-- A denylist reports all that it reported before an insertion, and in the same order. -/
theorem reports_sublist_of_insertion {d d' : Denylist} (h : Insertion d d') :
    (d.entries.flatMap fun entry => entry.reports scope e).Sublist
      (d'.entries.flatMap fun entry => entry.reports scope e) := by
  cases h with
  | entry before after entry =>
      have hmore : (before ++ after).Sublist (before ++ entry :: after) :=
        (List.sublist_cons_self entry after).append_left before
      exact hmore.flatMap _
  | pattern before after name values more p =>
      have hmore : (values ++ more).Sublist (values ++ p :: more) :=
        (List.sublist_cons_self p more).append_left values
      simp only [List.flatMap_append, List.flatMap_cons]
      exact ((Entry.reports_sublist scope e hmore).append_right _).append_left _

end

/-- One insertion only adds findings. -/
theorem lint_sublist_of_insertion {d d' : Denylist} (h : Insertion d d') (severity : Severity)
    (t : Template) (source : String) :
    (Linter.lint ⟨[⟨d.rule, severity⟩]⟩ t source).value.diagnostics.Sublist
      (Linter.lint ⟨[⟨d'.rule, severity⟩]⟩ t source).value.diagnostics := by
  rw [lint_value_rule, lint_value_rule]
  have hfound := List.Sublist.flatMap_right t.elements fun e _ =>
    reports_sublist_of_insertion ⟨ruleName, severity, source⟩ e h
  exact sublist_mergeSort_of_sublist (Linter.start_trans id) (Linter.start_total id) hfound

/-- **Growing a denylist only adds findings.**  When entries are inserted into a denylist at any
places, and patterns at any places into its entries, all diagnostics stay, in the same order. -/
theorem lint_sublist_of_insertions {d d' : Denylist} (h : Relation.ReflTransGen Insertion d d')
    (severity : Severity) (t : Template) (source : String) :
    (Linter.lint ⟨[⟨d.rule, severity⟩]⟩ t source).value.diagnostics.Sublist
      (Linter.lint ⟨[⟨d'.rule, severity⟩]⟩ t source).value.diagnostics := by
  induction h with
  | refl => exact List.Sublist.refl _
  | tail _ h ih => exact ih.trans (lint_sublist_of_insertion h severity t source)

/-- An element with a class and an identifier, and a child with a class. -/
def labelled : Template :=
  ⟨[.element "p" [⟨"class", .literal ⟨"a b", Span.unknown⟩, ⟨⟨1, 3⟩, ⟨1, 14⟩⟩⟩,
    ⟨"id", .literal ⟨"x", Span.unknown⟩, ⟨⟨1, 15⟩, ⟨1, 21⟩⟩⟩]
    [.element "b" [⟨"class", .literal ⟨"b", Span.unknown⟩, ⟨⟨1, 25⟩, ⟨1, 34⟩⟩⟩] []
      ⟨⟨1, 22⟩, ⟨1, 39⟩⟩]
    ⟨⟨1, 0⟩, ⟨1, 43⟩⟩]⟩

theorem insertions_labelled :
    Relation.ReflTransGen Insertion ⟨[⟨"class", ["a"]⟩]⟩
      ⟨[⟨"id", ["^x$"]⟩, ⟨"class", ["b", "a"]⟩]⟩ :=
  (Relation.ReflTransGen.single (.pattern [] [] "class" [] ["a"] "b")).tail
    (.entry [] [⟨"class", ["b", "a"]⟩] ⟨"id", ["^x$"]⟩)

theorem lint_sublist_of_insertions_labelled :
    Relation.ReflTransGen Insertion ⟨[⟨"class", ["a"]⟩]⟩
        ⟨[⟨"id", ["^x$"]⟩, ⟨"class", ["b", "a"]⟩]⟩ ∧
      (Linter.lint ⟨[⟨rule ⟨[⟨"class", ["a"]⟩]⟩, .error⟩]⟩ labelled "").value.diagnostics.Sublist
        (Linter.lint ⟨[⟨rule ⟨[⟨"id", ["^x$"]⟩, ⟨"class", ["b", "a"]⟩]⟩, .error⟩]⟩
          labelled "").value.diagnostics :=
  ⟨insertions_labelled, lint_sublist_of_insertions insertions_labelled .error labelled ""⟩

/-! ### Entries in another order -/

/-- What an entry reports, it reports at an attribute of its name. -/
theorem Entry.exists_attribute_of_mem_reports {entry : Entry} {scope : Scope} {e : Element}
    {d : Diagnostic} (h : d ∈ entry.reports scope e) :
    ∃ target ∈ e.attributes, target.name = entry.name ∧ d.span = target.loc := by
  obtain ⟨target, hfirst, pattern, -, -, rfl⟩ := Entry.mem_reports_iff.1 h
  obtain ⟨before, after, hattributes, hname, -⟩ := hfirst
  exact ⟨target, by simp [hattributes], hname, rfl⟩

/-- **At one place no two entries report**, when the attributes of an element start at different
places and the entries have different names. -/
theorem Entry.reports_apart {entry entry' : Entry} {e : Element}
    (apart : (e.attributes.map (·.loc.start)).Nodup) (hname : entry.name ≠ entry'.name)
    (scope : Scope) (place : Position) :
    (entry.reports scope e).filter (·.span.start = place) = [] ∨
      (entry'.reports scope e).filter (·.span.start = place) = [] := by
  by_contra hboth
  obtain ⟨hne, hne'⟩ := not_or.1 hboth
  obtain ⟨d, hd⟩ := List.exists_mem_of_ne_nil _ hne
  obtain ⟨d', hd'⟩ := List.exists_mem_of_ne_nil _ hne'
  obtain ⟨hreport, hplace⟩ := List.mem_filter.1 hd
  obtain ⟨hreport', hplace'⟩ := List.mem_filter.1 hd'
  obtain ⟨target, hmem, htarget, hspan⟩ := Entry.exists_attribute_of_mem_reports hreport
  obtain ⟨target', hmem', htarget', hspan'⟩ := Entry.exists_attribute_of_mem_reports hreport'
  have hstart : target.loc.start = target'.loc.start := by
    rw [← hspan, ← hspan', of_decide_eq_true hplace, of_decide_eq_true hplace']
  obtain rfl : target = target' := List.inj_on_of_nodup_map apart hmem hmem' hstart
  exact hname (htarget.symm.trans htarget')

/-- At each place of an element the same is reported by a denylist in another order. -/
theorem filter_reports_eq_of_perm {d d' : Denylist} (h : d.entries.Perm d'.entries)
    (distinct : (d.entries.map (·.name)).Nodup) {e : Element}
    (apart : (e.attributes.map (·.loc.start)).Nodup) (scope : Scope) (place : Position) :
    (d.entries.flatMap fun entry => entry.reports scope e).filter (·.span.start = place) =
      (d'.entries.flatMap fun entry => entry.reports scope e).filter (·.span.start = place) := by
  rw [List.filter_flatMap, List.filter_flatMap]
  refine flatMap_eq_of_perm h ?_
  exact (List.pairwise_map.1 distinct).imp fun hname => Entry.reports_apart apart hname scope place

/-- **The order of the entries does not matter.**  Denylists with the same entries in another order
find the same, and in the same order, where no two entries have one name and no two attributes of
the template start at one place. -/
theorem lint_eq_of_perm {d d' : Denylist} (h : d.entries.Perm d'.entries)
    (distinct : (d.entries.map (·.name)).Nodup) {t : Template}
    (apart : ((t.elements.flatMap (·.attributes)).map (·.loc.start)).Nodup) (severity : Severity)
    (source : String) :
    (Linter.lint ⟨[⟨d.rule, severity⟩]⟩ t source).value =
      (Linter.lint ⟨[⟨d'.rule, severity⟩]⟩ t source).value := by
  -- Of the places of all attributes only those within one element matter.
  have hapart : ∀ e ∈ t.elements, (e.attributes.map (·.loc.start)).Nodup := by
    rw [List.map_flatMap] at apart
    exact (List.nodup_flatMap.1 apart).1
  rw [lint_value_rule, lint_value_rule]
  congr 1
  refine Linter.sortByStart_eq_of_filter_eq fun place => ?_
  rw [List.filter_flatMap, List.filter_flatMap]
  refine List.flatMap_congr fun e he => ?_
  exact filter_reports_eq_of_perm h distinct (hapart e he) ⟨ruleName, severity, source⟩ place

/-- Classes before identifiers. -/
def classFirst : Denylist := ⟨[⟨"class", ["a", "b"]⟩, ⟨"id", ["^x$"]⟩]⟩

/-- Identifiers before classes. -/
def idFirst : Denylist := ⟨[⟨"id", ["^x$"]⟩, ⟨"class", ["a", "b"]⟩]⟩

theorem lint_eq_of_perm_labelled :
    classFirst.entries.Perm idFirst.entries ∧
      (Linter.lint ⟨[⟨classFirst.rule, .error⟩]⟩ labelled "").value =
        (Linter.lint ⟨[⟨idFirst.rule, .error⟩]⟩ labelled "").value := by
  have hperm : classFirst.entries.Perm idFirst.entries := List.Perm.swap _ _ _
  exact ⟨hperm, lint_eq_of_perm hperm (by decide) (by decide) .error ""⟩

end TemplateLint.Denylist
