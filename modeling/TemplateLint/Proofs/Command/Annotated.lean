import TemplateLint.Proofs.Command.Checks

/-!
# Findings above their own sources

The report of a check as text looks up the source of a finding by the path of its file. A check
remembers one source for each path, and a path that comes again has its source remembered again. As
long as the files stay as they are, a path stands for one tree and one source, and so what is
remembered in the end is what every finding of that path was found in.

## Main definitions

* `Command.FoundIn`: the findings that come from a file
* `Checked.Faithful`: what is checked agrees with the files on every source

## Main statements

* `Checked.Faithful.add`: one more file keeps the agreement
* `Command.check_annotates`: every finding is shown above the source that it was found in
-/

namespace TemplateLint.Command

/-- Whether a diagnostic comes from the file at a path: from its tree, linted with this source. -/
def FoundIn (files : Files) (l : Linter) (path source : String) (d : Diagnostic) : Prop :=
  ∃ t, (loadTemplate files path).value = .ok (t, source) ∧
    ∃ d₀ ∈ (l.lint t source).value.diagnostics, d = { d₀ with file := some path }

theorem FoundIn.file_eq {files : Files} {l : Linter} {path source : String} {d : Diagnostic}
    (h : FoundIn files l path source d) : d.file = some path := by
  obtain ⟨-, -, d₀, -, rfl⟩ := h
  rfl

namespace Checked

/-! ### Remembered sources -/

/-- The source of the file that was checked last replaces one that is remembered for its path. -/
theorem source?_add (c : Checked) (path source : String) (found : Findings) (p : String) :
    (c.add path source found).source? p = if path = p then some source else c.source? p := by
  unfold source? add
  rw [List.find?_cons]
  by_cases h : path = p <;> simp [h]

/-- A diagnostic is shown with the source that is remembered for its file, and without one only
when that source is empty. -/
theorem textOf_eq {c : Checked} {d : Diagnostic} {path source : String}
    (hfile : d.file = some path) (hsource : c.source? path = some source) :
    c.textOf d = if source = "" then plain d else Annotation.render d path source ++ "\n" := by
  have hsourceOf : c.sourceOf? d = if source = "" then none else some (path, source) := by
    simp [sourceOf?, hfile, hsource]
  unfold textOf
  rw [hsourceOf]
  by_cases h : source = "" <;> simp [h]

/-- **What is checked agrees with the files.**  Every diagnostic comes from a file that was checked,
and for each of these files its source is remembered. -/
structure Faithful (files : Files) (l : Linter) (done : List String) (c : Checked) : Prop where
  foundIn : ∀ d ∈ c.findings.diagnostics, ∃ path ∈ done, ∃ source, FoundIn files l path source d
  remembers : ∀ path ∈ done, ∀ t source, (loadTemplate files path).value = .ok (t, source) →
    c.source? path = some source

variable {files : Files} {l : Linter} {done : List String} {c : Checked}

theorem faithful_nil (files : Files) (l : Linter) : Faithful files l [] {} :=
  ⟨fun _ hd => absurd hd List.not_mem_nil, fun _ hpath => absurd hpath List.not_mem_nil⟩

/-- One more file keeps the agreement, also when its path was there before: the path stands for the
same tree and the same source again. -/
theorem Faithful.add (h : Faithful files l done c) {path : String} {t : Template}
    {source : String} (hload : (loadTemplate files path).value = .ok (t, source)) :
    Faithful files l (done ++ [path]) (c.add path source (l.lint t source).value) := by
  constructor
  · intro d hd
    rcases List.mem_append.1 hd with hold | hnew
    · obtain ⟨p, hp, s, hfound⟩ := h.foundIn d hold
      exact ⟨p, List.mem_append_left _ hp, s, hfound⟩
    · obtain ⟨d₀, hd₀, rfl⟩ := List.mem_map.1 hnew
      exact ⟨path, by simp, source, t, hload, d₀, hd₀, rfl⟩
  · intro p hp t' s hload'
    rw [source?_add]
    by_cases hpath : path = p
    · -- The path of the file itself, be it new or not.
      subst hpath
      rw [hload] at hload'
      cases hload'
      exact if_pos rfl
    · rw [if_neg hpath]
      have hdone : p ∈ done := by simpa [Ne.symm hpath] using hp
      exact h.remembers p hdone t' s hload'

end Checked

/-! ### Checks -/

/-- A check that goes through agrees with its files. -/
theorem faithful_of_checkFiles {files : Files} {l : Linter} {paths : List String} {c : Checked}
    (h : (checkFiles files l paths).value = .ok c) : c.Faithful files l paths :=
  checkFiles_induction (P := fun done k => k.Faithful files l done)
    (fun hdone hload => hdone.add hload) (Checked.faithful_nil files l) h

/-- **Every finding is shown above its own source.**  Each diagnostic of a check has the path of a
checked file, the source that is remembered for that path is the one that the tree in the file was
linted with, and the report shows the diagnostic above that source. It is shown without a source
exactly when that source is empty. -/
theorem check_annotates {files : Files} {config : ConfigSource} {paths : List String} {c : Checked}
    (h : (check files config paths).value = .ok c) :
    ∃ settings l, (config.load files).value = .ok settings ∧ (buildLinter settings).value = .ok l ∧
      (∀ d ∈ c.findings.diagnostics, ∃ path ∈ paths, ∃ source, FoundIn files l path source d ∧
        d.file = some path ∧ c.source? path = some source ∧
        c.textOf d =
          if source = "" then Checked.plain d else Annotation.render d path source ++ "\n") ∧
      ∀ verbose, (outcomeOf verbose (runCheck files config paths .text)).output =
        String.join (c.findings.diagnostics.map c.textOf) ++ Checked.summary c.findings ++
          "\n" := by
  obtain ⟨settings, l, hconfig, hlinter, hcheck⟩ := check_eq_ok_iff.1 h
  have hfaithful := faithful_of_checkFiles hcheck
  refine ⟨settings, l, hconfig, hlinter, fun d hd => ?_, fun verbose => ?_⟩
  · obtain ⟨path, hpath, source, hfound⟩ := hfaithful.foundIn d hd
    have ⟨t, hload, _⟩ := hfound
    have hsource := hfaithful.remembers path hpath t source hload
    exact ⟨path, hpath, source, hfound, hfound.file_eq, hsource,
      Checked.textOf_eq hfound.file_eq hsource⟩
  · exact (outcomeOf_runCheck_of_ok h .text verbose).1

theorem check_annotates_twoTrees :
    ∃ (c : Checked) (l : Linter),
      (check twoTrees (.explicit "c.json") ["a.json", "b.json", "a.json"]).value = .ok c ∧
      c.findings.diagnostics.length = 3 ∧
      ∀ d ∈ c.findings.diagnostics, ∃ path ∈ ["a.json", "b.json", "a.json"], ∃ source,
        FoundIn twoTrees l path source d ∧ d.file = some path ∧ c.source? path = some source ∧
        c.textOf d =
          if source = "" then Checked.plain d else Annotation.render d path source ++ "\n" := by
  obtain ⟨c, hfiles, hfindings⟩ := exists_checkFiles loadTemplate_twoTrees
  have hc : (check twoTrees (.explicit "c.json") ["a.json", "b.json", "a.json"]).value = .ok c :=
    check_eq_ok_iff.2 ⟨_, _, load_twoTrees, buildLinter_identifierConfig, hfiles⟩
  have hlength : c.findings.diagnostics.length = 3 := by
    rw [hfindings]
    decide +kernel
  obtain ⟨-, l, -, -, hshown, -⟩ := check_annotates hc
  exact ⟨c, l, hc, hlength, hshown⟩

end TemplateLint.Command
