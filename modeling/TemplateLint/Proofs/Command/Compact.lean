import TemplateLint.Proofs.Command.Annotated
import TemplateLint.Proofs.Command.Normalized
import TemplateLint.Proofs.Denylist.Entries
import TemplateLint.Proofs.Source.Before
import TemplateLint.Proofs.Text.Tokens

/-!
# One line for each finding

The compact report of a check shows every finding as it is displayed, and ends it with a line feed.
A display names the file, the pattern and the attribute as they are. As long as these stand on one
line each, the lines of the report are the displays of the findings, one by one. A line feed in one
of them is not escaped; then the finding takes several lines, and the report has more lines than
findings.

## Main definitions

* `Text.OneLine`: the texts without a line feed
* `Denylist.OneLine`: the denylists whose names and patterns are such texts

## Main statements

* `Text.lines_ended`: the lines of texts each of which is ended by a line feed
* `Diagnostic.oneLine_display_iff`: when a diagnostic is displayed on one line
* `Command.check_compact`: the lines of a compact report
-/

namespace TemplateLint

/-! ### Texts on one line -/

namespace Text

/-- Whether a text stands on one line. -/
def OneLine (s : String) : Prop :=
  '\n' ∉ s.toList

instance (s : String) : Decidable (OneLine s) :=
  inferInstanceAs (Decidable ('\n' ∉ s.toList))

theorem oneLine_append_iff {s t : String} : OneLine (s ++ t) ↔ OneLine s ∧ OneLine t := by
  simp only [OneLine, String.toList_append, List.mem_append, not_or]

/-- A number stands on one line: it is written in digits. -/
theorem oneLine_toString (n : Nat) : OneLine (toString n) := by
  unfold OneLine
  rw [Nat.toString_eq_repr, Nat.toList_repr]
  intro h
  have hdigit := Nat.isDigit_of_mem_toDigits (by decide) (by decide) h
  exact absurd hdigit (by decide)

/-- **Texts that are ended by line feeds** have the lines of the texts, and nothing behind the last
line feed. -/
theorem lines_ended (texts : List (List Char)) :
    lines (texts.flatMap (· ++ ['\n'])) = texts.flatMap lines ++ [[]] := by
  induction texts with
  | nil => rfl
  | cons text rest ih =>
      have hcut : lines (text ++ '\n' :: rest.flatMap (· ++ ['\n'])) =
          lines text ++ lines (rest.flatMap (· ++ ['\n'])) :=
        List.splitOn_append_cons_self _ _
      rw [List.flatMap_cons, List.append_assoc, List.singleton_append, hcut, ih, List.flatMap_cons,
        List.append_assoc]

theorem flatMap_lines_of_forall {texts : List (List Char)} (h : ∀ text ∈ texts, '\n' ∉ text) :
    texts.flatMap lines = texts := by
  calc texts.flatMap lines
      = texts.flatMap (fun text => [text]) :=
        List.flatMap_congr fun text htext => List.splitOn_eq_singleton (h text htext)
    _ = texts := List.flatMap_singleton' texts

/-- Texts have one line each exactly when they have as many lines as they are. -/
theorem length_flatMap_lines_iff {texts : List (List Char)} :
    (texts.flatMap lines).length = texts.length ↔ ∀ text ∈ texts, '\n' ∉ text := by
  have hle : ∀ more : List (List Char), more.length ≤ (more.flatMap lines).length := by
    intro more
    induction more with
    | nil => simp
    | cons text rest ih =>
        rw [List.flatMap_cons, List.length_append, length_lines, List.length_cons]
        omega
  induction texts with
  | nil => simp
  | cons text rest ih =>
      have hrest := hle rest
      rw [List.flatMap_cons, List.length_append, length_lines, List.length_cons,
        List.forall_mem_cons, ← List.count_eq_zero]
      constructor
      · intro h
        exact ⟨by omega, ih.1 (by omega)⟩
      · rintro ⟨htext, hothers⟩
        have hlength := ih.2 hothers
        omega

end Text

open Text (OneLine oneLine_append_iff)

/-! ### Displays -/

namespace Diagnostic

theorem oneLine_showPosition (p : Position) : OneLine (showPosition p) := by
  simp only [showPosition, oneLine_append_iff, Text.oneLine_toString, true_and, and_true]
  decide

/-- **When a diagnostic is displayed on one line**: when its file, its rule and its message stand on
one line each. -/
theorem oneLine_display_iff {d : Diagnostic} :
    OneLine d.display ↔ (∀ file ∈ d.file, OneLine file) ∧ OneLine d.rule ∧ OneLine d.message := by
  have hseverity : OneLine d.severity.name := by
    cases d.severity <;> decide
  have hmarks : OneLine ":" ∧ OneLine ": " ∧ OneLine " [" ∧ OneLine "] " ∧ OneLine "" := by
    decide
  obtain ⟨hcolon, hgap, hopen, hclose, hempty⟩ := hmarks
  unfold display
  cases d.file <;>
    simp [oneLine_append_iff, oneLine_showPosition, and_assoc, *]

end Diagnostic

namespace Denylist

theorem oneLine_message_iff {pattern name : String} :
    OneLine (message pattern name) ↔ OneLine pattern ∧ OneLine name := by
  have hwords : OneLine "The value '" ∧ OneLine "' is present in attribute '" ∧
      OneLine "', but is forbidden" := by
    decide
  obtain ⟨hfirst, hmiddle, hlast⟩ := hwords
  simp [message, oneLine_append_iff, *]

/-- Whether the names and the patterns of a denylist stand on one line each. -/
def OneLine (d : Denylist) : Prop :=
  ∀ e ∈ d.entries, Text.OneLine e.name ∧ ∀ v ∈ e.values, Text.OneLine v

theorem Entry.toRaw_injective : Function.Injective Entry.toRaw := by
  rintro ⟨name, values⟩ ⟨name', values'⟩ h
  simp only [Entry.toRaw, Json.obj.injEq, List.cons.injEq, Prod.mk.injEq, Json.str.injEq,
    Json.arr.injEq] at h
  obtain ⟨⟨-, rfl⟩, ⟨-, hvalues⟩, -⟩ := h
  obtain rfl := List.map_injective_iff.2 (fun _ _ hstr => Json.str.inj hstr) hvalues
  rfl

/-- The rule of a denylist tells which denylist it is. -/
theorem rule_injective : Function.Injective rule := by
  rintro ⟨entries⟩ ⟨entries'⟩ h
  have hoptions : toRaw ⟨entries⟩ = toRaw ⟨entries'⟩ := congrArg Rule.options h
  simp only [toRaw, Json.obj.injEq, List.cons.injEq, Prod.mk.injEq, Json.arr.injEq] at hoptions
  obtain ⟨⟨-, hentries⟩, -⟩ := hoptions
  obtain rfl := List.map_injective_iff.2 Entry.toRaw_injective hentries
  rfl

/-- What a denylist reports is one of its patterns in an attribute that it names. -/
theorem exists_pattern_of_mem_lint {d : Denylist} {severity : Severity} {t : Template}
    {source : String} {found : Diagnostic}
    (h : found ∈ (Linter.lint ⟨[⟨d.rule, severity⟩]⟩ t source).value.diagnostics) :
    ∃ entry ∈ d.entries, ∃ pattern ∈ entry.values,
      found.rule = ruleName ∧ found.message = message pattern entry.name := by
  rw [lint_value_rule, Linter.mem_sortByStart] at h
  obtain ⟨e, -, h⟩ := List.mem_flatMap.1 h
  obtain ⟨entry, hentry, h⟩ := List.mem_flatMap.1 h
  obtain ⟨target, -, pattern, hpattern, -, rfl⟩ := Entry.mem_reports_iff.1 h
  exact ⟨entry, hentry, pattern, hpattern, rfl, rfl⟩

end Denylist

/-! ### Compact reports -/

namespace Command

variable {files : Files} {config : ConfigSource} {settings : Config} {l : Linter}
  {paths : List String}

namespace Checked

/-- A compact report has the lines of the displays, one display after the other. -/
theorem lines_printCompact (c : Checked) :
    Text.lines c.printCompact.toList =
      (c.findings.diagnostics.map (·.display.toList)).flatMap Text.lines ++ [[]] := by
  rw [← Text.lines_ended]
  unfold printCompact
  rw [String.toList_join, List.flatMap_map, List.flatMap_map]
  simp only [String.toList_append]
  rfl

/-- A report whose findings are displayed on one line each has the displays for its lines. -/
theorem lines_printCompact_of_oneLine {c : Checked}
    (h : ∀ d ∈ c.findings.diagnostics, OneLine d.display) :
    Text.lines c.printCompact.toList =
      c.findings.diagnostics.map (·.display.toList) ++ [[]] := by
  rw [lines_printCompact, Text.flatMap_lines_of_forall (List.forall_mem_map.2 h)]

/-- Only such a report has as many lines as findings. -/
theorem length_lines_printCompact_iff {c : Checked} :
    (Text.lines c.printCompact.toList).length = c.findings.diagnostics.length + 1 ↔
      ∀ d ∈ c.findings.diagnostics, OneLine d.display := by
  rw [lines_printCompact, List.length_append, List.length_singleton, Nat.add_right_cancel_iff,
    ← List.length_map (fun d : Diagnostic => d.display.toList), Text.length_flatMap_lines_iff,
    List.forall_mem_map]
  rfl

end Checked

/-- What a check reports at a path is a pattern of the denylist that it runs. -/
theorem exists_pattern_of_foundIn {path source : String} {d : Diagnostic}
    (hlinter : (buildLinter settings).value = .ok l) (h : FoundIn files l path source d) :
    ∃ a ∈ l.rules, ∃ denylist : Denylist, a.rule = denylist.rule ∧ ∃ entry ∈ denylist.entries,
      ∃ pattern ∈ entry.values, d.file = some path ∧ d.rule = Denylist.ruleName ∧
        d.message = Denylist.message pattern entry.name := by
  obtain ⟨t, -, d₀, hd₀, rfl⟩ := h
  obtain ⟨rules⟩ := l
  rcases rules_of_buildLinter hlinter with rfl | ⟨denylist, severity, -, rfl⟩
  · simp [Linter.lint_value, Linter.mem_sortByStart] at hd₀
  · obtain ⟨entry, hentry, pattern, hpattern, hrule, hmessage⟩ :=
      Denylist.exists_pattern_of_mem_lint hd₀
    exact ⟨_, List.mem_singleton.2 rfl, denylist, rfl, entry, hentry, pattern, hpattern, rfl,
      hrule, hmessage⟩

/-- **The lines of a compact report.**  When a configuration gives a linter and every file holds a
tree, the check goes through. If the paths and all that the denylist names and forbids stand on one
line each, the lines of its report are the displays of the findings, one by one, and nothing stands
behind the last line feed. In any case the report has as many lines as findings exactly if every
finding is displayed on one line; and a finding is not, if the path of its file, its pattern or the
name of its attribute holds a line feed, and for no other reason. -/
theorem check_compact (hconfig : (config.load files).value = .ok settings)
    (hlinter : (buildLinter settings).value = .ok l)
    (hloaded : ∀ path ∈ paths, Loadable files path) :
    ∃ c : Checked, (check files config paths).value = .ok c ∧
      (∀ verbose, (outcomeOf verbose (runCheck files config paths .compact)).output =
        c.printCompact) ∧
      ((∀ path ∈ paths, OneLine path) →
        (∀ a ∈ l.rules, ∀ denylist : Denylist, a.rule = denylist.rule → denylist.OneLine) →
          Text.lines c.printCompact.toList =
            c.findings.diagnostics.map (·.display.toList) ++ [[]]) ∧
      ((Text.lines c.printCompact.toList).length = c.findings.diagnostics.length + 1 ↔
        ∀ d ∈ c.findings.diagnostics, OneLine d.display) ∧
      ∀ d ∈ c.findings.diagnostics, ∃ path ∈ paths, ∃ a ∈ l.rules, ∃ denylist : Denylist,
        a.rule = denylist.rule ∧ ∃ entry ∈ denylist.entries, ∃ pattern ∈ entry.values,
          d.message = Denylist.message pattern entry.name ∧
          (OneLine d.display ↔ OneLine path ∧ OneLine pattern ∧ OneLine entry.name) := by
  obtain ⟨c, hfiles⟩ := exists_checkFilesAfter (l := l) hloaded {}
  have hcheck : (check files config paths).value = .ok c :=
    check_eq_ok_iff.2 ⟨settings, l, hconfig, hlinter, hfiles⟩
  have horigin : ∀ d ∈ c.findings.diagnostics, ∃ path ∈ paths, ∃ a ∈ l.rules,
      ∃ denylist : Denylist, a.rule = denylist.rule ∧ ∃ entry ∈ denylist.entries,
        ∃ pattern ∈ entry.values, d.message = Denylist.message pattern entry.name ∧
          (OneLine d.display ↔ OneLine path ∧ OneLine pattern ∧ OneLine entry.name) := by
    intro d hd
    obtain ⟨path, hpath, source, hfound⟩ := (faithful_of_checkFiles hfiles).foundIn d hd
    obtain ⟨a, ha, denylist, hrule, entry, hentry, pattern, hpattern, hfile, hname, hmessage⟩ :=
      exists_pattern_of_foundIn hlinter hfound
    refine ⟨path, hpath, a, ha, denylist, hrule, entry, hentry, pattern, hpattern, hmessage, ?_⟩
    have hruleName : OneLine Denylist.ruleName := by decide
    simp [Diagnostic.oneLine_display_iff, hfile, hname, hmessage, hruleName,
      Denylist.oneLine_message_iff]
  refine ⟨c, hcheck, fun verbose => (outcomeOf_runCheck_of_ok hcheck .compact verbose).1, ?_,
    Checked.length_lines_printCompact_iff, horigin⟩
  intro hpaths hdenylists
  refine Checked.lines_printCompact_of_oneLine fun d hd => ?_
  obtain ⟨path, hpath, a, ha, denylist, hrule, entry, hentry, pattern, hpattern, -, hiff⟩ :=
    horigin d hd
  obtain ⟨hname, hvalues⟩ := hdenylists a ha denylist hrule entry hentry
  exact hiff.2 ⟨hpaths path hpath, hvalues pattern hpattern, hname⟩

theorem check_compact_twoTrees :
    ∃ c : Checked,
      (check twoTrees (.explicit "c.json") ["a.json", "b.json", "a.json"]).value = .ok c ∧
      c.findings.diagnostics.length = 3 ∧
      Text.lines c.printCompact.toList =
        c.findings.diagnostics.map (·.display.toList) ++ [[]] := by
  obtain ⟨c, hc, -, hlines, -, -⟩ := check_compact load_twoTrees buildLinter_identifierConfig
    fun path hpath => loadable_iff.2 ⟨_, loadTemplate_twoTrees path hpath⟩
  have hlength : c.findings.diagnostics.length = 3 := by
    obtain ⟨c', hfiles, hfindings⟩ := exists_checkFiles loadTemplate_twoTrees
    have hc' := check_eq_ok_iff.2 ⟨_, _, load_twoTrees, buildLinter_identifierConfig, hfiles⟩
    obtain rfl := Except.ok.inj (hc.symm.trans hc')
    rw [hfindings]
    decide +kernel
  refine ⟨c, hc, hlength, hlines (by decide) fun a ha denylist hrule => ?_⟩
  obtain rfl := List.mem_singleton.1 ha
  obtain rfl := Denylist.rule_injective hrule
  intro e he
  obtain rfl := List.mem_singleton.1 he
  decide

/-! ### Line feeds in a pattern -/

/-- The tree of an element whose identifier holds a line feed, and a configuration that forbids the
identifier. -/
def brokenFiles : Files :=
  .ofList [("a.json", .ok (identifiedText (some "") "x\ny")),
    ("c.json", .ok (identifierText "x\ny"))]

theorem load_brokenFiles :
    (ConfigSource.load brokenFiles (.explicit "c.json")).value = .ok (identifierConfig "x\ny") :=
  load_explicit_of_json rfl rfl (ofJson?_identifierText "x\ny")

theorem buildLinter_brokenFiles : (buildLinter (identifierConfig "x\ny")).value =
    .ok ⟨[⟨(identifierDenylist "x\ny").rule, .error⟩]⟩ :=
  rfl

theorem loadTemplate_brokenFiles :
    (loadTemplate brokenFiles "a.json").value = .ok (⟨[identified "x\ny"]⟩, "") :=
  loadTemplate_of_tree rfl (ofText?_identifiedText (some "") "x\ny")

/-- One finding takes two lines, neither of which is its display. -/
theorem check_compact_brokenFiles :
    ∃ c : Checked, (check brokenFiles (.explicit "c.json") ["a.json"]).value = .ok c ∧
      c.findings.diagnostics.length = 1 ∧
      Text.lines (outcomeOf false (runCheck brokenFiles (.explicit "c.json") ["a.json"]
        .compact)).output.toList =
        ["a.json:0:0: error [denylist] The value 'x".toList,
          "y' is present in attribute 'id', but is forbidden".toList, []] := by
  have hloaded : ∀ path ∈ ["a.json"],
      (loadTemplate brokenFiles path).value = .ok (⟨[identified "x\ny"]⟩, "") :=
    List.forall_mem_singleton.2 loadTemplate_brokenFiles
  obtain ⟨c, hfiles, hfindings⟩ := exists_checkFiles hloaded
  have hcheck : (check brokenFiles (.explicit "c.json") ["a.json"]).value = .ok c :=
    check_eq_ok_iff.2 ⟨_, _, load_brokenFiles, buildLinter_brokenFiles, hfiles⟩
  have hdisplays : c.findings.diagnostics.map (·.display) =
      ["a.json:0:0: error [denylist] The value 'x\ny' is present in attribute 'id', " ++
        "but is forbidden"] := by
    rw [hfindings]
    decide +kernel
  refine ⟨c, hcheck, by simpa using congrArg List.length hdisplays, ?_⟩
  have hlines : c.findings.diagnostics.map (·.display.toList) =
      (c.findings.diagnostics.map (·.display)).map String.toList := by
    rw [List.map_map]
    rfl
  rw [(outcomeOf_runCheck_of_ok hcheck .compact false).1, Checked.print,
    Checked.lines_printCompact, hlines, hdisplays]
  decide

end Command

end TemplateLint
