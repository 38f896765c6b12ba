import TemplateLint.Proofs.Command.Files
import TemplateLint.Proofs.Lists

/-!
# What a check reports

A check that goes through reports what was found in each of its files, file after file, and ends
with a status that says whether there are errors. A check that fails reports nothing but its
failure, whatever was found before.

## Main definitions

* `Command.Fails`: why a check fails
* `Command.found`: what is found in files one after another

## Main statements

* `Command.check_eq_ok_iff`, `Command.check_eq_error_iff`: when a check goes through, and when not
* `Command.check_reports`: the report of a check that goes through
* `Command.check_fails_silently`: the outcome of a check that fails
-/

namespace TemplateLint

/-! ### Numbers of findings -/

namespace Findings

/-- Every diagnostic is counted once. -/
theorem count_add_count_add_count (f : Findings) :
    f.count .error + f.count .warning + f.count .info = f.diagnostics.length := by
  obtain ⟨ds, n⟩ := f
  unfold count
  dsimp only
  induction ds with
  | nil => rfl
  | cons d ds ih =>
      simp only [List.countP_cons, List.length_cons, ← ih]
      cases d.severity <;> simp <;> omega

end Findings

namespace Command

variable {files : Files} {config : ConfigSource} {l : Linter} {paths : List String}

/-! ### Checks -/

/-- A check is one of files with the linter of its configuration. -/
theorem check_value (files : Files) (config : ConfigSource) (paths : List String) :
    (check files config paths).value =
      match (config.load files).value with
      | .error failure => .error failure
      | .ok settings =>
        match (buildLinter settings).value with
        | .error failure => .error failure
        | .ok l => (checkFiles files l paths).value := by
  unfold check
  rw [Logged.value_bind]
  cases (config.load files).value with
  | error failure => rfl
  | ok settings =>
      dsimp only
      rw [Logged.value_bind]
      cases (buildLinter settings).value with
      | error failure => rfl
      | ok l => rfl

theorem check_eq_ok_iff {c : Checked} :
    (check files config paths).value = .ok c ↔
      ∃ settings l, (config.load files).value = .ok settings ∧
        (buildLinter settings).value = .ok l ∧ (checkFiles files l paths).value = .ok c := by
  rw [check_value]
  cases (config.load files).value with
  | error failure => simp
  | ok settings =>
      cases hlinter : (buildLinter settings).value with
      | error failure => simp [hlinter]
      | ok l => simp [hlinter]

/-- **Why a check fails.**  The configuration comes first, then the linter, then the files in their
order. -/
inductive Fails (files : Files) (config : ConfigSource) (paths : List String) : Failure → Prop where
  | config {failure : Failure} : (config.load files).value = .error failure →
    Fails files config paths failure
  | linter {settings : Config} {failure : Failure} : (config.load files).value = .ok settings →
    (buildLinter settings).value = .error failure → Fails files config paths failure
  | file {settings : Config} {l : Linter} {before after : List String} {path : String}
      {failure : Failure} : (config.load files).value = .ok settings →
    (buildLinter settings).value = .ok l → paths = before ++ path :: after →
    (∀ p ∈ before, Loadable files p) → Unloadable files path failure →
    Fails files config paths failure

theorem check_eq_error_iff {failure : Failure} :
    (check files config paths).value = .error failure ↔ Fails files config paths failure := by
  rw [check_value]
  constructor
  · intro h
    cases hconfig : (config.load files).value with
    | error failure' =>
        rw [hconfig] at h
        cases h
        exact .config hconfig
    | ok settings =>
        rw [hconfig] at h
        dsimp only at h
        cases hlinter : (buildLinter settings).value with
        | error failure' =>
            rw [hlinter] at h
            cases h
            exact .linter hconfig hlinter
        | ok l =>
            rw [hlinter] at h
            obtain ⟨before, path, after, hpaths, hbefore, hpath⟩ :=
              checkFilesAfter_eq_error_iff.1 h
            exact .file hconfig hlinter hpaths hbefore hpath
  · intro h
    cases h with
    | config hconfig => rw [hconfig]
    | linter hconfig hlinter => simp only [hconfig, hlinter]
    | file hconfig hlinter hpaths hbefore hpath =>
        simp only [hconfig, hlinter]
        exact checkFilesAfter_eq_error_iff.2 ⟨_, _, _, hpaths, hbefore, hpath⟩

/-! ### Outcomes -/

theorem runCheck_value (files : Files) (config : ConfigSource) (paths : List String)
    (format : Format) :
    (runCheck files config paths format).value =
      (check files config paths).value.map fun c =>
        { exit := statusOf c.findings, output := c.print format } := by
  unfold runCheck
  rw [Logged.value_bind]
  cases (check files config paths).value with
  | error failure => rfl
  | ok c => rfl

/-- The output and the status of a check that goes through. -/
theorem outcomeOf_runCheck_of_ok {c : Checked} (h : (check files config paths).value = .ok c)
    (format : Format) (verbose : Bool) :
    (outcomeOf verbose (runCheck files config paths format)).output = c.print format ∧
      (outcomeOf verbose (runCheck files config paths format)).exit = statusOf c.findings ∧
      (outcomeOf verbose (runCheck files config paths format)).error = none := by
  unfold outcomeOf
  rw [runCheck_value, h]
  exact ⟨rfl, rfl, rfl⟩

/-- The output and the status of a check that fails. -/
theorem outcomeOf_runCheck_of_error {failure : Failure}
    (h : (check files config paths).value = .error failure) (format : Format) (verbose : Bool) :
    (outcomeOf verbose (runCheck files config paths format)).output = "" ∧
      (outcomeOf verbose (runCheck files config paths format)).exit = 1 ∧
      (outcomeOf verbose (runCheck files config paths format)).error = some failure.render := by
  unfold outcomeOf
  rw [runCheck_value, h]
  exact ⟨rfl, rfl, rfl⟩

/-! ### Checks that go through -/

/-- What is found in files one after another, each of which holds a tree and goes with a source. -/
def found (l : Linter) (loaded : String → Template × String) (paths : List String) : Findings :=
  ⟨paths.flatMap fun path =>
      (l.lint (loaded path).1 (loaded path).2).value.diagnostics.map fun d =>
        { d with file := some path },
    .ofNat paths.length⟩

theorem found_append (l : Linter) (loaded : String → Template × String)
    (first second : List String) :
    found l loaded (first ++ second) = (found l loaded first).extend (found l loaded second) := by
  simp only [found, Findings.extend, List.flatMap_append, List.length_append, UInt64.ofNat_add]

/-- One more file adds what is found in it. -/
theorem findings_add (c : Checked) (loaded : String → Template × String) (path : String) :
    (c.add path (loaded path).2 (l.lint (loaded path).1 (loaded path).2).value).findings =
      c.findings.extend (found l loaded [path]) := by
  simp only [Checked.add, found, Findings.inFile, List.flatMap_singleton]
  rfl

/-- **What a check finds** is what is found in its files one after another. -/
theorem exists_checkFiles {loaded : String → Template × String}
    (h : ∀ path ∈ paths, (loadTemplate files path).value = .ok (loaded path)) :
    ∃ c, (checkFiles files l paths).value = .ok c ∧ c.findings = found l loaded paths := by
  obtain ⟨c, hc⟩ : ∃ c, (checkFiles files l paths).value = .ok c :=
    exists_checkFilesAfter (fun path hpath => loadable_iff.2 ⟨_, h path hpath⟩) {}
  refine ⟨c, hc, ?_⟩
  -- The invariant speaks of the files so far, of each of which it is known what is loaded.
  refine checkFiles_induction (P := fun done k =>
    (∀ path ∈ done, (loadTemplate files path).value = .ok (loaded path)) →
      k.findings = found l loaded done) ?_ (fun _ => rfl) hc h
  intro done k path t source hdone hload hall
  have hpath : loaded path = (t, source) :=
    Except.ok.inj ((hall path (by simp)).symm.trans hload)
  have hadd := findings_add (l := l) k loaded path
  rw [hpath] at hadd
  rw [hadd, found_append, hdone fun p hp => hall p (List.mem_append_left _ hp)]

/-- **The report of a check that goes through.**  Its findings are those of the files one after
another, each with the path of its file, and the number of templates is that of the paths (as a word
of 64 bits). So the findings of paths that are cut in two are those of the first part followed by
those of the second. The numbers in the summary sum up to that of the diagnostics, and in every
format the status is one if there is an error, and zero otherwise. -/
theorem check_reports {settings : Config} {loaded : String → Template × String}
    (hconfig : (config.load files).value = .ok settings)
    (hlinter : (buildLinter settings).value = .ok l)
    (hloaded : ∀ path ∈ paths, (loadTemplate files path).value = .ok (loaded path)) :
    ∃ c : Checked, (check files config paths).value = .ok c ∧
      c.findings.templatesChecked = .ofNat paths.length ∧
      (c.findings.diagnostics = paths.flatMap fun path =>
        (l.lint (loaded path).1 (loaded path).2).value.diagnostics.map fun d =>
          { d with file := some path }) ∧
      (∀ first second, paths = first ++ second → ∃ c₁ c₂ : Checked,
        (check files config first).value = .ok c₁ ∧ (check files config second).value = .ok c₂ ∧
          c.findings = c₁.findings.extend c₂.findings) ∧
      c.findings.count .error + c.findings.count .warning + c.findings.count .info =
        c.findings.diagnostics.length ∧
      (∃ reports, ∃ colour : Colour, c.print .text = reports ++ (colour.code ++
        ("Found " ++ toString (c.findings.count .error) ++ " error(s), " ++
          toString (c.findings.count .warning) ++ " warning(s), " ++
          toString (c.findings.count .info) ++ " info(s) in " ++
          toString c.findings.templatesChecked ++ " template(s)") ++ Colour.reset) ++ "\n") ∧
      ∀ format verbose,
        (outcomeOf verbose (runCheck files config paths format)).output = c.print format ∧
        (outcomeOf verbose (runCheck files config paths format)).exit =
          if 0 < c.findings.count .error then 1 else 0 := by
  have hcheck : ∀ {part : List String},
      (∀ path ∈ part, (loadTemplate files path).value = .ok (loaded path)) →
        ∃ c, (check files config part).value = .ok c ∧ c.findings = found l loaded part := by
    intro part hpart
    obtain ⟨c, hc, hfindings⟩ := exists_checkFiles hpart
    exact ⟨c, check_eq_ok_iff.2 ⟨settings, l, hconfig, hlinter, hc⟩, hfindings⟩
  obtain ⟨c, hc, hfindings⟩ := hcheck hloaded
  refine ⟨c, hc, by rw [hfindings]; rfl, by rw [hfindings]; rfl, ?_,
    c.findings.count_add_count_add_count, ⟨_, _, rfl⟩, fun format verbose => ?_⟩
  · rintro first second rfl
    obtain ⟨c₁, hc₁, h₁⟩ := hcheck fun path hpath => hloaded path (List.mem_append_left _ hpath)
    obtain ⟨c₂, hc₂, h₂⟩ := hcheck fun path hpath => hloaded path (List.mem_append_right _ hpath)
    exact ⟨c₁, c₂, hc₁, hc₂, by rw [hfindings, h₁, h₂, found_append]⟩
  · obtain ⟨houtput, hexit, -⟩ := outcomeOf_runCheck_of_ok hc format verbose
    refine ⟨houtput, ?_⟩
    rw [hexit, statusOf]
    simp only [Findings.hasErrors_iff]

/-- An element with an identifier. -/
def identified (identifier : String) : Node :=
  .element "p" [⟨"id", .literal ⟨identifier, Span.unknown⟩, Span.unknown⟩] [] Span.unknown

/-- The text of a file with the tree of such an element, and with its source if there is one. -/
def identifiedText (source : Option String) (identifier : String) : String :=
  (Json.obj ((source.map fun text => ("source", .str text)).toList ++ [("body", .arr [
    .obj [("type", .str "ElementNode"), ("tag", .str "p"), ("attributes", .arr [
      .obj [("name", .str "id"),
        ("value", .obj [("type", .str "TextNode"), ("chars", .str identifier)])]])]])])).pretty

theorem ofText?_identifiedText (source : Option String) (identifier : String) :
    TemplateFile.ofText? (identifiedText source identifier) =
      some ⟨source, [identified identifier]⟩ := by
  unfold identifiedText
  rw [TemplateFile.ofText?_pretty]
  · cases source <;> rfl
  · cases source <;> simp [Json.integral_obj_iff, Json.integral_arr_iff, Json.Integral.str]
  · cases source <;> simp [Json.depth, Json.itemsDepth, Json.membersDepth, Json.nestingLimit]
  · cases source <;> simp [TemplateFile.record]

/-- A denylist that forbids a pattern in identifiers. -/
def identifierDenylist (pattern : String) : Denylist :=
  ⟨[⟨"id", [pattern]⟩]⟩

/-- The options that stand for that denylist. -/
def identifierOptions (pattern : String) : Json :=
  .obj [("attributes", .arr [.obj [("name", .str "id"), ("values", .str pattern)]])]

/-- A configuration with these options. -/
def identifierConfig (pattern : String) : Config :=
  .ofSettings [] [("denylist", identifierOptions pattern)]

/-- The text of the configuration. -/
def identifierText (pattern : String) : String :=
  (Json.obj [("rules", .obj [("denylist", identifierOptions pattern)])]).pretty

theorem ofJson?_identifierText (pattern : String) :
    Config.ofJson? (identifierText pattern) = some (identifierConfig pattern) := by
  have hcanonical : (identifierOptions pattern).canonical = identifierOptions pattern := by
    have hlt : "name" < "values" := by decide
    simp only [identifierOptions, Json.canonical, Json.canonicalItems, Json.canonicalMembers,
      Json.sortMembers, List.foldl_cons, List.foldl_nil, Json.insertMember,
      if_neg (String.lt_asymm hlt), if_pos hlt]
  have hdecode : ∀ options, Config.decode (.obj [("rules", .obj [("denylist", options)])]) =
      .ok (.ofSettings [] [("denylist", options.canonical)]) := fun _ => rfl
  unfold identifierText
  rw [Config.ofJson?_pretty, hdecode, hcanonical]
  · rfl
  · simp [identifierOptions, Json.integral_obj_iff, Json.integral_arr_iff, Json.Integral.str]
  · simp [identifierOptions, Json.depth, Json.itemsDepth, Json.membersDepth, Json.nestingLimit]
  · simp [Config.record]

/-- Two files with the tree of an element, one of them with its source, and a configuration that
forbids the identifier of the element. -/
def twoTrees : Files :=
  .ofList [("a.json", .ok (identifiedText (some "<p id=x>") "x")),
    ("b.json", .ok (identifiedText none "x")), ("c.json", .ok (identifierText "x"))]

/-- What is loaded from the two files. -/
def twoLoaded (path : String) : Template × String :=
  (⟨[identified "x"]⟩, if path = "a.json" then "<p id=x>" else "")

theorem load_twoTrees :
    (ConfigSource.load twoTrees (.explicit "c.json")).value = .ok (identifierConfig "x") :=
  load_explicit_of_json rfl rfl (ofJson?_identifierText "x")

theorem buildLinter_identifierConfig : (buildLinter (identifierConfig "x")).value =
    .ok ⟨[⟨(identifierDenylist "x").rule, .error⟩]⟩ :=
  rfl

theorem loadTemplate_twoTrees : ∀ path ∈ ["a.json", "b.json", "a.json"],
    (loadTemplate twoTrees path).value = .ok (twoLoaded path) := by
  have ha : (loadTemplate twoTrees "a.json").value = .ok (twoLoaded "a.json") :=
    loadTemplate_of_tree rfl (ofText?_identifiedText (some "<p id=x>") "x")
  have hb : (loadTemplate twoTrees "b.json").value = .ok (twoLoaded "b.json") := by
    have hmissing : twoTrees.read (FilePath.siblingSource "b.json") = .error .notFound := rfl
    rw [loadTemplate_of_tree rfl (ofText?_identifiedText none "x"), siblingText_of_error hmissing]
    rfl
  simp [ha, hb]

theorem check_reports_twoTrees :
    ∃ c : Checked,
      (check twoTrees (.explicit "c.json") ["a.json", "b.json", "a.json"]).value = .ok c ∧
      c.findings.templatesChecked = 3 ∧
      c.findings.diagnostics.map (·.file) = [some "a.json", some "b.json", some "a.json"] ∧
      ∀ format verbose, (outcomeOf verbose (runCheck twoTrees (.explicit "c.json")
        ["a.json", "b.json", "a.json"] format)).exit = 1 := by
  obtain ⟨c, hc, htemplates, hdiagnostics, -, -, -, hexit⟩ :=
    check_reports load_twoTrees buildLinter_identifierConfig loadTemplate_twoTrees
  have hcount : c.findings.count .error = 3 := by
    unfold Findings.count
    rw [hdiagnostics]
    decide +kernel
  refine ⟨c, hc, htemplates, by rw [hdiagnostics]; decide +kernel, fun format verbose => ?_⟩
  rw [(hexit format verbose).2, hcount]
  rfl

/-! ### Checks that fail -/

/-- A check fails exactly when its configuration, its linter or one of its files is at fault. -/
theorem exists_fails_iff :
    (∃ failure, Fails files config paths failure) ↔
      (∃ failure, (config.load files).value = .error failure) ∨
      (∃ settings failure, (config.load files).value = .ok settings ∧
        (buildLinter settings).value = .error failure) ∨
      ∃ path ∈ paths, ∃ failure, Unloadable files path failure := by
  constructor
  · rintro ⟨failure, hfails⟩
    cases hfails with
    | config hconfig => exact Or.inl ⟨failure, hconfig⟩
    | linter hconfig hlinter => exact Or.inr (Or.inl ⟨_, failure, hconfig, hlinter⟩)
    | file hconfig hlinter hpaths hbefore hpath =>
        exact Or.inr (Or.inr ⟨_, by simp [hpaths], failure, hpath⟩)
  · intro h
    cases hconfig : (config.load files).value with
    | error failure => exact ⟨failure, .config hconfig⟩
    | ok settings =>
        cases hlinter : (buildLinter settings).value with
        | error failure => exact ⟨failure, .linter hconfig hlinter⟩
        | ok l =>
            -- Neither the configuration nor the linter is at fault, so a file is.
            have hfile : ∃ path ∈ paths, ∃ failure, Unloadable files path failure := by
              rcases h with ⟨failure, h⟩ | ⟨settings', failure, h, h'⟩ | h
              · rw [hconfig] at h
                cases h
              · rw [hconfig] at h
                cases h
                rw [hlinter] at h'
                cases h'
              · exact h
            obtain ⟨before, path, after, hpaths, hbefore, failure, hpath⟩ := exists_first hfile
            exact ⟨failure, .file hconfig hlinter hpaths
              (fun p hp failure' hp' => hbefore p hp ⟨failure', hp'⟩) hpath⟩

/-- **A check that fails is silent.**  When the configuration cannot be loaded, the linter cannot be
built or some file holds no tree, the check prints nothing, its status is not zero, and it ends with
the failure of the configuration or of the linter, or else with that of the first such file. In any
other case it does not fail. A source that is not found beside a tree is no failure: the source is
empty then. -/
theorem check_fails_silently (files : Files) (config : ConfigSource) (paths : List String)
    (format : Format) (verbose : Bool) :
    ((∃ failure, Fails files config paths failure) ↔
      (∃ failure, (config.load files).value = .error failure) ∨
      (∃ settings failure, (config.load files).value = .ok settings ∧
        (buildLinter settings).value = .error failure) ∨
      ∃ path ∈ paths, ∃ failure, Unloadable files path failure) ∧
    (∀ failure, Fails files config paths failure →
      (runCheck files config paths format).value = .error failure ∧
      (outcomeOf verbose (runCheck files config paths format)).output = "" ∧
      (outcomeOf verbose (runCheck files config paths format)).exit ≠ 0 ∧
      (outcomeOf verbose (runCheck files config paths format)).error = some failure.render) ∧
    ((∀ failure, ¬ Fails files config paths failure) →
      (outcomeOf verbose (runCheck files config paths format)).error = none) ∧
    ∀ path text file fault, files.read path = .ok text → TemplateFile.ofText? text = some file →
      files.read (FilePath.siblingSource path) = .error fault →
        (loadTemplate files path).value = .ok (⟨file.body⟩, file.source.getD "") := by
  refine ⟨exists_fails_iff, ?_, ?_, ?_⟩
  · intro failure hfails
    have hcheck := check_eq_error_iff.2 hfails
    have hrun : (runCheck files config paths format).value = .error failure := by
      rw [runCheck_value, hcheck]
      rfl
    obtain ⟨houtput, hexit, herror⟩ := outcomeOf_runCheck_of_error hcheck format verbose
    exact ⟨hrun, houtput, by simp [hexit], herror⟩
  · intro hnone
    cases hcheck : (check files config paths).value with
    | error failure => exact absurd (check_eq_error_iff.1 hcheck) (hnone failure)
    | ok c => exact (outcomeOf_runCheck_of_ok hcheck format verbose).2.2
  · intro path text file fault hread htree hmissing
    rw [loadTemplate_of_tree hread htree, siblingText_of_error hmissing]

end Command

end TemplateLint
