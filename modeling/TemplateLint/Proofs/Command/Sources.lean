import TemplateLint.Proofs.Command.Checks
import TemplateLint.Proofs.Command.Normalized
import TemplateLint.Proofs.Denylist.Quotations

/-!
# Checks and the sources of templates

A check reads the tree of a template from a file, and its source from the same file or from the one
beside it. When only the sources change, or cannot be found any more, the check finds the same and
ends with the same status.

## Main definitions

* `Command.template`: the tree in a file, or why there is none

## Main statements

* `Command.template_eq_of_read_eq`: the file beside a tree has no part in it
* `Command.unquoted_checkFilesAfter`: what is found in files does not depend on their sources
* `Command.findings_independent_of_source`: nor do the numbers of findings and the status of a run
-/

namespace TemplateLint.Command

/-! ### The trees in files -/

/-- The tree in a file, or why there is none. -/
def template (files : Files) (path : String) : Except Failure Template :=
  (loadTemplate files path).value.map Prod.fst

/-- The tree in a file depends on no other file. -/
theorem template_eq_of_read_eq {files files' : Files} {path : String}
    (h : files.read path = files'.read path) : template files path = template files' path := by
  unfold template loadTemplate
  rw [h]
  cases files'.read path with
  | error fault => rfl
  | ok text =>
      dsimp only
      cases TemplateFile.ofText? text with
      | none => rfl
      | some file =>
          obtain ⟨source, body⟩ := file
          cases source with
          | none => rfl
          | some source => rfl

theorem loadTemplate_of_error {files : Files} {path : String} {failure : Failure}
    (h : template files path = .error failure) :
    (loadTemplate files path).value = .error failure := by
  unfold template at h
  cases hload : (loadTemplate files path).value with
  | error failure' =>
      rw [hload] at h
      cases h
      rfl
  | ok loaded =>
      rw [hload] at h
      cases h

theorem loadTemplate_of_ok {files : Files} {path : String} {t : Template}
    (h : template files path = .ok t) :
    ∃ source, (loadTemplate files path).value = .ok (t, source) := by
  unfold template at h
  cases hload : (loadTemplate files path).value with
  | error failure =>
      rw [hload] at h
      cases h
  | ok loaded =>
      rw [hload] at h
      cases h
      exact ⟨loaded.2, rfl⟩

/-! ### Checking files -/

/-- A file without a tree ends the check. -/
theorem value_checkFilesAfter_of_error {files : Files} {path : String} {failure : Failure}
    (h : template files path = .error failure) (l : Linter) (c : Checked) (rest : List String) :
    (checkFilesAfter files l c (path :: rest)).value = .error failure := by
  rw [checkFilesAfter_cons, loadTemplate_of_error h]

/-- The tree in a file is linted with some source, and the check goes on with the other files. -/
theorem value_checkFilesAfter_of_ok {files : Files} {path : String} {t : Template}
    (h : template files path = .ok t) (l : Linter) :
    ∃ source, ∀ (c : Checked) (rest : List String),
      (checkFilesAfter files l c (path :: rest)).value =
        (checkFilesAfter files l (c.add path source (l.lint t source).value) rest).value := by
  obtain ⟨source, hload⟩ := loadTemplate_of_ok h
  refine ⟨source, fun c rest => ?_⟩
  rw [checkFilesAfter_cons, hload]

/-- One more file adds the same findings, whatever its source is. -/
theorem unquoted_add {l : Linter} (hl : l.DenylistsOnly) {c c' : Checked}
    (h : c.findings.unquoted = c'.findings.unquoted) (path : String) (t : Template)
    (s₁ s₂ : String) :
    (c.add path s₁ (l.lint t s₁).value).findings.unquoted =
      (c'.add path s₂ (l.lint t s₂).value).findings.unquoted := by
  simp only [Checked.add]
  rw [Findings.unquoted_extend, Findings.unquoted_extend, Findings.unquoted_inFile,
    Findings.unquoted_inFile, h, Linter.unquoted_lint hl t s₁ s₂]

/-- **What is found in files does not depend on their sources**, and neither does what makes a check
fail. The induction is on the files that are left; what was found before has to be the same. -/
theorem unquoted_checkFilesAfter {files files' : Files} {l : Linter} (hl : l.DenylistsOnly)
    {paths : List String} (same : ∀ path ∈ paths, template files path = template files' path)
    {c c' : Checked} (h : c.findings.unquoted = c'.findings.unquoted) :
    ((checkFilesAfter files l c paths).value.map fun k => k.findings.unquoted) =
      (checkFilesAfter files' l c' paths).value.map fun k => k.findings.unquoted := by
  induction paths generalizing c c' with
  | nil => exact congrArg Except.ok h
  | cons path rest ih =>
      have hpath := same path List.mem_cons_self
      have hrest : ∀ p ∈ rest, template files p = template files' p := fun p hp =>
        same p (List.mem_cons_of_mem path hp)
      cases htemplate : template files' path with
      | error failure =>
          rw [value_checkFilesAfter_of_error (hpath.trans htemplate),
            value_checkFilesAfter_of_error htemplate]
      | ok t =>
          obtain ⟨s₁, h₁⟩ := value_checkFilesAfter_of_ok (hpath.trans htemplate) l
          obtain ⟨s₂, h₂⟩ := value_checkFilesAfter_of_ok htemplate l
          rw [h₁, h₂]
          exact ih hrest (unquoted_add hl h path t s₁ s₂)

/-! ### Runs -/

/-- The linters of the program run nothing but denylists. -/
theorem denylistsOnly_of_buildLinter {config : Config} {l : Linter}
    (h : (buildLinter config).value = .ok l) : l.DenylistsOnly := by
  intro a ha
  rcases rules_of_buildLinter h with hnone | ⟨d, severity, -, hone⟩
  · rw [hnone] at ha
    cases ha
  · rw [hone] at ha
    obtain rfl := List.mem_singleton.1 ha
    exact ⟨d, rfl⟩

/-- A check finds the same in the same trees, whatever their sources are. -/
theorem unquoted_check {files files' : Files} {config : ConfigSource} {paths : List String}
    (sameConfig : (config.load files).value = (config.load files').value)
    (same : ∀ path ∈ paths, template files path = template files' path) :
    ((check files config paths).value.map fun c => c.findings.unquoted) =
      (check files' config paths).value.map fun c => c.findings.unquoted := by
  rw [check_value, check_value, sameConfig]
  cases (config.load files').value with
  | error failure => rfl
  | ok settings =>
      dsimp only
      cases hl : (buildLinter settings).value with
      | error failure => rfl
      | ok l => exact unquoted_checkFilesAfter (denylistsOnly_of_buildLinter hl) same rfl

theorem statusOf_unquoted (f : Findings) : statusOf f.unquoted = statusOf f := by
  unfold statusOf
  rw [Findings.hasErrors_unquoted]

/-- The status of a check is that of its findings, and one when it fails. -/
theorem exit_runCheck (files : Files) (config : ConfigSource) (paths : List String)
    (format : Format) (verbose : Bool) :
    (outcomeOf verbose (runCheck files config paths format)).exit =
      match (check files config paths).value.map fun c => c.findings.unquoted with
      | .error _ => 1
      | .ok f => statusOf f := by
  cases hcheck : (check files config paths).value with
  | error failure => exact (outcomeOf_runCheck_of_error hcheck format verbose).2.1
  | ok c =>
      rw [(outcomeOf_runCheck_of_ok hcheck format verbose).2.1]
      exact (statusOf_unquoted c.findings).symm

/-- **Findings do not depend on the source.**  A linter of denylists finds the same in a template
for any two sources, one by one and in the same order, apart from what is quoted. So the numbers of
findings of each severity are the same, and a check of the same trees with the same configuration
ends with the same status. -/
theorem findings_independent_of_source {l : Linter} (hl : l.DenylistsOnly) (t : Template)
    (s₁ s₂ : String) :
    List.Forall₂ Diagnostic.AgreeButSource (l.lint t s₁).value.diagnostics
        (l.lint t s₂).value.diagnostics ∧
      (l.lint t s₁).value.tally = (l.lint t s₂).value.tally ∧
      (l.lint t s₁).value.hasErrors = (l.lint t s₂).value.hasErrors ∧
      ∀ (files files' : Files) (config : ConfigSource) (paths : List String) (format : Format)
        (verbose : Bool), (config.load files).value = (config.load files').value →
        (∀ path ∈ paths, template files path = template files' path) →
        (outcomeOf verbose (runCheck files config paths format)).exit =
          (outcomeOf verbose (runCheck files' config paths format)).exit := by
  have hlint := Linter.unquoted_lint hl t s₁ s₂
  refine ⟨Findings.forall₂_of_unquoted_eq hlint, ?_, ?_, ?_⟩
  · rw [← Findings.tally_unquoted, hlint, Findings.tally_unquoted]
  · rw [← Findings.hasErrors_unquoted, hlint, Findings.hasErrors_unquoted]
  · intro files files' config paths format verbose sameConfig same
    rw [exit_runCheck, exit_runCheck, unquoted_check sameConfig same]

/-- The tree of an element with an identifier, and a configuration that forbids the identifier. -/
def treeAndConfig : List (String × Except ReadFault String) :=
  [("a.json", .ok (identifiedText none "x")), ("c.json", .ok (identifierText "x"))]

/-- The same files and the source of the element beside its tree. -/
def withSource : List (String × Except ReadFault String) :=
  treeAndConfig ++ [("a.hbs", .ok "<p id=\"x\"></p>")]

/-- The linter that the configuration stands for. -/
def identifierLinter : Linter :=
  ⟨[⟨(identifierDenylist "x").rule, .error⟩]⟩

/-- The element with its places in the source. -/
def placed : Template :=
  ⟨[.element "p" [⟨"id", .literal ⟨"x", Span.unknown⟩, ⟨⟨1, 3⟩, ⟨1, 9⟩⟩⟩] [] ⟨⟨1, 0⟩, ⟨1, 14⟩⟩]⟩

theorem findings_independent_of_source_missing :
    identifierLinter.DenylistsOnly ∧
      List.Forall₂ Diagnostic.AgreeButSource
        (identifierLinter.lint placed "<p id=\"x\"></p>").value.diagnostics
        (identifierLinter.lint placed "").value.diagnostics ∧
      (outcomeOf false (runCheck (Files.ofList withSource) (.explicit "c.json") ["a.json"]
          .text)).exit =
        (outcomeOf false (runCheck (Files.ofList treeAndConfig) (.explicit "c.json") ["a.json"]
          .text)).exit := by
  have honly : identifierLinter.DenylistsOnly := by
    intro a ha
    obtain rfl := List.mem_singleton.1 ha
    exact ⟨_, rfl⟩
  have hconfig : (ConfigSource.load (Files.ofList withSource) (.explicit "c.json")).value =
      (ConfigSource.load (Files.ofList treeAndConfig) (.explicit "c.json")).value := by
    have hread : (Files.ofList withSource).read "c.json" =
        (Files.ofList treeAndConfig).read "c.json" := rfl
    simp only [ConfigSource.load, ConfigSource.readOrFail, ConfigSource.read, hread]
  have htree : ∀ path ∈ ["a.json"], template (Files.ofList withSource) path =
      template (Files.ofList treeAndConfig) path := by
    intro path hpath
    obtain rfl := List.mem_singleton.1 hpath
    exact template_eq_of_read_eq rfl
  obtain ⟨hagree, -, -, hexit⟩ :=
    findings_independent_of_source honly placed "<p id=\"x\"></p>" ""
  exact ⟨honly, hagree, hexit _ _ _ _ .text false hconfig htree⟩

end TemplateLint.Command
