import TemplateLint.Command.Run
import TemplateLint.Proofs.Json.Printed

/-!
# Checking file after file

A check goes through its files one at a time. A file that holds the tree of a template is linted and
added to what is checked already; the first file that holds none ends the check. So whatever every
single file keeps true is true of a whole check.

## Main definitions

* `Command.Unloadable`: why a file holds no tree of a template
* `Command.Loadable`: the files that hold one

## Main statements

* `Command.loadTemplate_eq_error_iff`: when no tree is loaded
* `Command.checkFilesAfter_cons`: what one file does
* `Command.checkFiles_induction`: what every file keeps true, a check keeps true
* `Command.checkFilesAfter_eq_error_iff`: the first file without a tree decides
-/

namespace TemplateLint

/-- A configuration that is printed is what its data stands for. -/
theorem Config.ofJson?_pretty {members : List (String × Json)}
    (hnumbers : (Json.obj members).Integral)
    (hdepth : (Json.obj members).depth ≤ Json.nestingLimit)
    (hnames : ∀ m ∈ members, m.1 ∈ record.fields) :
    ofJson? (Json.obj members).pretty = (decode (.obj members)).toOption := by
  have hread : Json.ofTextBy? outline (Json.obj members).pretty = some (.obj members) :=
    Json.ofTextBy?_pretty_record hnumbers hdepth hnames
  unfold ofJson?
  rw [hread]
  rfl

namespace Command

/-! ### Loading a file -/

/-- **Why a file holds no tree of a template**: it cannot be read, or its text spells none. The
source beside the file has no part in it. -/
inductive Unloadable (files : Files) (path : String) : Failure → Prop where
  | unread {fault : ReadFault} : files.read path = .error fault →
    Unloadable files path ⟨"Failed to read " ++ path, [fault.message]⟩
  | unparsed {text : String} : files.read path = .ok text → TemplateFile.ofText? text = none →
    Unloadable files path
      ⟨"Failed to parse template AST: " ++ path, ["not the tree of a template"]⟩

/-- Whether a file holds the tree of a template. -/
def Loadable (files : Files) (path : String) : Prop :=
  ∀ failure, ¬ Unloadable files path failure

/-- The tree in a file goes with the source in the same file, or with that beside it. -/
theorem loadTemplate_of_tree {files : Files} {path text : String} {file : TemplateFile}
    (hread : files.read path = .ok text) (htree : TemplateFile.ofText? text = some file) :
    (loadTemplate files path).value =
      .ok (⟨file.body⟩, file.source.getD (siblingText files path).value) := by
  obtain ⟨source, body⟩ := file
  unfold loadTemplate
  cases source <;> simp [hread, htree]

/-- Without a source in the file or beside it, the source is empty. -/
theorem siblingText_of_error {files : Files} {path : String} {fault : ReadFault}
    (h : files.read (FilePath.siblingSource path) = .error fault) :
    (siblingText files path).value = "" := by
  simp only [siblingText, h]

theorem loadTemplate_of_unloadable {files : Files} {path : String} {failure : Failure}
    (h : Unloadable files path failure) : (loadTemplate files path).value = .error failure := by
  unfold loadTemplate
  cases h with
  | unread hread => simp [hread]
  | unparsed hread htree => simp [hread, htree]

/-- **When no tree is loaded.**  It is the file itself that decides. -/
theorem loadTemplate_eq_error_iff {files : Files} {path : String} {failure : Failure} :
    (loadTemplate files path).value = .error failure ↔ Unloadable files path failure := by
  refine ⟨fun h => ?_, loadTemplate_of_unloadable⟩
  cases hread : files.read path with
  | error fault =>
      have hunread : Unloadable files path _ := .unread hread
      rw [loadTemplate_of_unloadable hunread] at h
      cases h
      exact hunread
  | ok text =>
      cases htree : TemplateFile.ofText? text with
      | none =>
          have hunparsed : Unloadable files path _ := .unparsed hread htree
          rw [loadTemplate_of_unloadable hunparsed] at h
          cases h
          exact hunparsed
      | some file =>
          rw [loadTemplate_of_tree hread htree] at h
          cases h

theorem loadable_iff {files : Files} {path : String} :
    Loadable files path ↔ ∃ loaded, (loadTemplate files path).value = .ok loaded := by
  unfold Loadable
  simp only [← loadTemplate_eq_error_iff]
  cases (loadTemplate files path).value <;> simp

/-- The file of a template that is printed is what its data stands for. -/
theorem TemplateFile.ofText?_pretty {members : List (String × Json)}
    (hnumbers : (Json.obj members).Integral)
    (hdepth : (Json.obj members).depth ≤ Json.nestingLimit)
    (hnames : ∀ m ∈ members, m.1 ∈ record.fields) :
    ofText? (Json.obj members).pretty = (decode (.obj members)).toOption := by
  have hread : Json.ofTextBy? outline (Json.obj members).pretty = some (.obj members) :=
    Json.ofTextBy?_pretty_record hnumbers hdepth hnames
  unfold ofText?
  rw [hread]
  rfl

/-- A configuration that was asked for is read as JSON, unless its name says that it is TOML. -/
theorem load_explicit_of_json {files : Files} {path text : String} {c : Config}
    (hread : files.read path = .ok text) (hname : FilePath.hasExtension path "toml" = false)
    (hjson : Config.ofJson? text = some c) :
    (ConfigSource.load files (.explicit path)).value = .ok c := by
  simp only [ConfigSource.load, ConfigSource.readOrFail, ConfigSource.read, hread, hname, hjson]
  rfl

/-! ### One file -/

/-- **What one file does**: it ends the check, or the check goes on with one file more. -/
theorem checkFilesAfter_cons (files : Files) (l : Linter) (c : Checked) (path : String)
    (rest : List String) :
    (checkFilesAfter files l c (path :: rest)).value =
      match (loadTemplate files path).value with
      | .error failure => .error failure
      | .ok (t, source) =>
        (checkFilesAfter files l (c.add path source (l.lint t source).value) rest).value := by
  rw [checkFilesAfter, Logged.value_bind]
  cases (loadTemplate files path).value with
  | error failure => rfl
  | ok loaded => rfl

/-! ### All files -/

variable {files : Files} {l : Linter} {paths : List String}

section Induction

variable {P : List String → Checked → Prop}
  (step : ∀ {done : List String} {c : Checked} {path : String} {t : Template} {source : String},
    P done c → (loadTemplate files path).value = .ok (t, source) →
      P (done ++ [path]) (c.add path source (l.lint t source).value))

include step

/-- The induction is on the files that are left; those before them are `done`. -/
theorem checkFilesAfter_induction {done : List String} {c k : Checked} (start : P done c)
    (h : (checkFilesAfter files l c paths).value = .ok k) : P (done ++ paths) k := by
  induction paths generalizing done c with
  | nil =>
      cases h
      rwa [List.append_nil]
  | cons path rest ih =>
      rw [checkFilesAfter_cons] at h
      cases hload : (loadTemplate files path).value with
      | error failure =>
          rw [hload] at h
          cases h
      | ok loaded =>
          rw [hload] at h
          rw [List.append_cons]
          exact ih (step start hload) h

/-- **What every file keeps true, a check keeps true.**  The property is one of the files that are
checked so far and of what was found in them. -/
theorem checkFiles_induction {k : Checked} (start : P [] {})
    (h : (checkFiles files l paths).value = .ok k) : P paths k :=
  checkFilesAfter_induction step start h

end Induction

/-- **The first file without a tree decides.** -/
theorem checkFilesAfter_eq_error_iff {c : Checked} {failure : Failure} :
    (checkFilesAfter files l c paths).value = .error failure ↔
      ∃ before path after, paths = before ++ path :: after ∧
        (∀ p ∈ before, Loadable files p) ∧ Unloadable files path failure := by
  induction paths generalizing c with
  | nil =>
      constructor
      · intro h
        cases h
      · rintro ⟨before, path, after, h, -⟩
        simp at h
  | cons path rest ih =>
      rw [checkFilesAfter_cons]
      cases hload : (loadTemplate files path).value with
      | error failure' =>
          have hpath := loadTemplate_eq_error_iff.1 hload
          constructor
          · intro h
            cases h
            exact ⟨[], path, rest, rfl, by simp, hpath⟩
          · rintro ⟨before, path', after, hpaths, hbefore, hfails⟩
            cases before with
            | nil =>
                cases hpaths
                rw [loadTemplate_of_unloadable hfails] at hload
                cases hload
                rfl
            | cons p before =>
                cases hpaths
                exact absurd hpath (hbefore path List.mem_cons_self failure')
      | ok loaded =>
          have hpath : Loadable files path := loadable_iff.2 ⟨loaded, hload⟩
          refine ih.trans ⟨?_, ?_⟩
          · rintro ⟨before, path', after, rfl, hbefore, hfails⟩
            exact ⟨path :: before, path', after, rfl, List.forall_mem_cons.2 ⟨hpath, hbefore⟩,
              hfails⟩
          · rintro ⟨before, path', after, hpaths, hbefore, hfails⟩
            cases before with
            | nil =>
                cases hpaths
                exact absurd hfails (hpath failure)
            | cons p before =>
                cases hpaths
                exact ⟨before, path', after, rfl, (List.forall_mem_cons.1 hbefore).2, hfails⟩

/-- Files that all hold trees are checked to the end. -/
theorem exists_checkFilesAfter (h : ∀ path ∈ paths, Loadable files path) (c : Checked) :
    ∃ k, (checkFilesAfter files l c paths).value = .ok k := by
  cases hcheck : (checkFilesAfter files l c paths).value with
  | ok k => exact ⟨k, rfl⟩
  | error failure =>
      obtain ⟨before, path, after, rfl, -, hfails⟩ := checkFilesAfter_eq_error_iff.1 hcheck
      exact absurd hfails (h path (by simp) failure)

end Command

end TemplateLint
