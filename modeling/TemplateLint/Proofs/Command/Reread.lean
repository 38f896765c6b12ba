import TemplateLint.Command.Output
import TemplateLint.Proofs.Json.Printed
import TemplateLint.Proofs.Json.ReadsBack
import TemplateLint.Proofs.Template.RoundTrip

/-!
# Reports read again

Findings that are printed as JSON can be read again, from the report itself or from the value that
it spells, and they are the same findings in the same order. All members of a diagnostic are written
but for a file that is not known, and that is the only one that may be missing. A file that is known
is written even when its path is empty, and no path is written as null.

Counts and places have to be words of 64 bits: the reader keeps greater numbers as floating point
numbers, which are no counts.

## Main definitions

* `Findings.Fits`: the findings whose places are such words
* `Findings.ofText?`: the findings that a text spells

## Main statements

* `Diagnostic.readsBack`, `Findings.readsBack`: data is read back
* `Findings.integral_encode`, `Findings.keeps_outline`: all of the data is written and used
* `Command.reread_report`: a report is read back
-/

namespace TemplateLint

open Json (Place ReadsBack readsBack_record readsBack_text readsBack_natural readsBack_boolean
  readsBack_list Outline)

/-! ### Data -/

theorem Severity.readsBack (s : Severity) : ReadsBack Severity.decode s.encode s :=
  ⟨s.decode_encode, s.decode_encode⟩

namespace Diagnostic

/-- A path is read back as a path that may be missing, also when it is empty. -/
theorem readsBack_path (path : String) :
    ReadsBack (Json.nullable filePath) (.str path) (some path) := ⟨rfl, rfl⟩

/-- **A diagnostic that is written is read back**, with its file or without one. -/
theorem readsBack (place : Place) (d : Diagnostic) : ReadsBack (decode place) d.encode d := by
  obtain ⟨rule, severity, message, ⟨⟨line, column⟩, ⟨endLine, endColumn⟩⟩, source, isFixable,
    file⟩ := d
  refine readsBack_record ?_
  intro s hs
  have hfile : s.optional "file" none (Json.nullable filePath) = .ok file := by
    cases file with
    | none => exact hs.absent rfl none
    | some path => exact hs.optional rfl (readsBack_path path) none
  -- What is written for the other fields does not depend on whether there is a file.
  have hrule : s.required "rule" Json.text = .ok rule :=
    hs.required (by cases file <;> rfl) (readsBack_text rule)
  have hseverity : s.required "severity" Severity.decode = .ok severity :=
    hs.required (by cases file <;> rfl) severity.readsBack
  have hmessage : s.required "message" Json.text = .ok message :=
    hs.required (by cases file <;> rfl) (readsBack_text message)
  have hline : s.required "line" Json.natural = .ok line :=
    hs.required (by cases file <;> rfl) (readsBack_natural line)
  have hcolumn : s.required "column" Json.natural = .ok column :=
    hs.required (by cases file <;> rfl) (readsBack_natural column)
  have hendLine : s.required "endLine" Json.natural = .ok endLine :=
    hs.required (by cases file <;> rfl) (readsBack_natural endLine)
  have hendColumn : s.required "endColumn" Json.natural = .ok endColumn :=
    hs.required (by cases file <;> rfl) (readsBack_natural endColumn)
  have hsource : s.required "source" Json.text = .ok source :=
    hs.required (by cases file <;> rfl) (readsBack_text source)
  have hisFixable : s.required "isFixable" Json.boolean = .ok isFixable :=
    hs.required (by cases file <;> rfl) (readsBack_boolean isFixable)
  rw [hrule, hseverity, hmessage, hline, hcolumn, hendLine, hendColumn, hsource, hisFixable, hfile]
  rfl

end Diagnostic

theorem Findings.readsBack (f : Findings) : ReadsBack Findings.decode f.encode f := by
  refine readsBack_record ?_
  intro s hs
  have hdiagnostics :
      s.required "diagnostics" (Json.list (Diagnostic.decode .plain)) = .ok f.diagnostics :=
    hs.required rfl (readsBack_list (Diagnostic.readsBack .plain) f.diagnostics)
  have hchecked : s.required "templatesChecked" Json.natural = .ok f.templatesChecked.toNat :=
    hs.required rfl (readsBack_natural _)
  rw [hdiagnostics, hchecked]
  show Except.ok (Findings.mk f.diagnostics (UInt64.ofNat f.templatesChecked.toNat)) = _
  rw [UInt64.ofNat_toNat]

/-! ### Text -/

/-- The lines and columns of a span. -/
def Span.coordinates (s : Span) : List Nat :=
  [s.start.line, s.start.column, s.finish.line, s.finish.column]

/-- Whether the places of all diagnostics are words of 64 bits. -/
def Findings.Fits (f : Findings) : Prop :=
  ∀ d ∈ f.diagnostics, ∀ n ∈ d.span.coordinates, n < UInt64.size

instance (f : Findings) : Decidable f.Fits :=
  inferInstanceAs (Decidable (∀ d ∈ f.diagnostics, ∀ n ∈ d.span.coordinates, n < UInt64.size))

namespace Diagnostic

variable {d : Diagnostic}

/-- The members of a diagnostic are named for its fields, and no arrays or objects stand in them. -/
theorem exists_members (d : Diagnostic) :
    ∃ members, d.encode = .obj members ∧ ∀ m ∈ members, m.1 ∈ record.fields ∧
      ((∃ s, m.2 = .str s) ∨ (∃ b, m.2 = .bool b) ∨ ∃ n ∈ d.span.coordinates, m.2 = .nat n) := by
  refine ⟨_, rfl, fun m hm => ?_⟩
  rcases List.mem_append.1 hm with hm | hm
  · simp only [List.mem_cons, List.not_mem_nil, or_false] at hm
    rcases hm with rfl | rfl | rfl | rfl | rfl | rfl | rfl | rfl | rfl
    all_goals simp [record, Span.coordinates, Severity.encode, Json.nat]
  · cases hfile : d.file with
    | none => simp [hfile] at hm
    | some path =>
        rw [hfile] at hm
        obtain rfl := List.mem_singleton.1 hm
        exact ⟨by simp [record], Or.inl ⟨path, rfl⟩⟩

theorem integral_encode (h : ∀ n ∈ d.span.coordinates, n < UInt64.size) : d.encode.Integral := by
  obtain ⟨members, hencode, hmembers⟩ := d.exists_members
  rw [hencode]
  refine .obj fun m hm => ?_
  rcases (hmembers m hm).2 with ⟨s, hs⟩ | ⟨b, hb⟩ | ⟨n, hn, hnat⟩
  · rw [hs]
    exact .str s
  · rw [hb]
    exact .bool b
  · rw [hnat]
    exact .nat (h n hn)

theorem depth_encode (d : Diagnostic) : d.encode.depth ≤ 1 := by
  obtain ⟨members, hencode, hmembers⟩ := d.exists_members
  rw [hencode]
  refine Nat.succ_le_succ (Json.membersDepth_le_iff.2 fun m hm => ?_)
  rcases (hmembers m hm).2 with ⟨s, hs⟩ | ⟨b, hb⟩ | ⟨n, -, hnat⟩
  · rw [hs]
    exact Nat.le_refl 0
  · rw [hb]
    exact Nat.le_refl 0
  · rw [hnat]
    exact Nat.le_refl 0

/-- All of a diagnostic is used: its members are those that the reader knows. -/
theorem keeps_outline (d : Diagnostic) : outline.Keeps d.encode := by
  obtain ⟨members, hencode, hmembers⟩ := d.exists_members
  rw [hencode]
  exact Outline.keeps_record fun m hm => (hmembers m hm).1

end Diagnostic

namespace Findings

theorem integral_encode {f : Findings} (h : f.Fits) : f.encode.Integral := by
  refine .obj (List.forall_mem_cons.2 ⟨.arr fun v hv => ?_, List.forall_mem_singleton.2 ?_⟩)
  · obtain ⟨d, hd, rfl⟩ := List.mem_map.1 hv
    exact Diagnostic.integral_encode (h d hd)
  · exact .nat f.templatesChecked.toNat_lt

/-- Findings are an object, their diagnostics a list in it, and each of them an object in the list,
which is far from too deep. -/
theorem depth_encode (f : Findings) : f.encode.depth ≤ Json.nestingLimit := by
  have hitems : Json.itemsDepth (f.diagnostics.map Diagnostic.encode) ≤ 1 := by
    refine Json.itemsDepth_le_iff.2 fun v hv => ?_
    obtain ⟨d, -, rfl⟩ := List.mem_map.1 hv
    exact d.depth_encode
  have hmembers : Json.membersDepth [("diagnostics", .arr (f.diagnostics.map Diagnostic.encode)),
      ("templatesChecked", .nat f.templatesChecked.toNat)] ≤ 2 := by
    refine Json.membersDepth_le_iff.2 (List.forall_mem_cons.2 ⟨?_, List.forall_mem_singleton.2 ?_⟩)
    · exact Nat.succ_le_succ hitems
    · exact Nat.zero_le 2
  exact Nat.le_trans (Nat.succ_le_succ hmembers) (by decide)

theorem keeps_outline (f : Findings) : outline.Keeps f.encode := by
  refine Outline.keeps_obj (List.forall_mem_cons.2 ⟨⟨_, rfl, ?_⟩, List.forall_mem_singleton.2
    ⟨_, rfl, Outline.keeps_whole _⟩⟩)
  refine Outline.keeps_arr rfl fun v hv => ?_
  obtain ⟨d, -, rfl⟩ := List.mem_map.1 hv
  exact d.keeps_outline

/-- The findings that a text spells. -/
def ofText? (text : String) : Option Findings := do
  let j ← Json.ofTextBy? outline text
  (decode j).toOption

end Findings

namespace Command

/-- **A report in JSON is read back.**  Findings as data are read as the same findings, as they are
written and in the canonical form. When their places are words of 64 bits, their report spells them:
it is read as the same findings, at once and through the value that it spells, with the same number
of templates and the same diagnostics in the same order. So a diagnostic without a file is read back
without one, and one with an empty path with the empty path. -/
theorem reread_report (c : Checked) :
    (Findings.decode c.findings.encode = .ok c.findings ∧
      Findings.decode c.findings.encode.canonical = .ok c.findings) ∧
    (c.findings.Fits →
      Findings.ofText? (c.print .json) = some c.findings ∧
      (Json.ofText? (c.print .json)).map Findings.decode = some (.ok c.findings)) := by
  have hback := c.findings.readsBack
  refine ⟨⟨hback.written, hback.canonical⟩, fun hfits => ?_⟩
  have hnumbers := Findings.integral_encode hfits
  have hdepth := c.findings.depth_encode
  have hblank : Json.Reader.skipBlanks "\n".toList = [] := by decide
  constructor
  · have htext : Json.ofTextBy? Findings.outline (c.print .json) = some c.findings.encode :=
      Json.ofTextBy?_pretty hnumbers hdepth c.findings.keeps_outline hblank
    unfold Findings.ofText?
    simp only [htext, Option.bind_eq_bind, Option.bind_some, hback.written]
    rfl
  · have htext : Json.ofText? (c.print .json) = some c.findings.encode.canonical :=
      Json.ofText?_pretty hnumbers hdepth hblank
    rw [htext, Option.map_some, hback.canonical]

/-- Two diagnostics at the last place there is: one has no file, and the path of the other is
empty. -/
def oddFindings : Findings :=
  let last : Position := ⟨UInt64.size - 1, UInt64.size - 1⟩
  let place : Span := ⟨last, last⟩
  ⟨[{ rule := "denylist", severity := .error, message := "\"a\\b\"\n\x01", span := place },
    { rule := "", severity := .info, message := "", span := place, file := some "" }], 2⟩

theorem reread_report_oddFindings :
    oddFindings.Fits ∧
      Findings.ofText? (Checked.print ⟨oddFindings, []⟩ .json) = some oddFindings := by
  have hfits : oddFindings.Fits := by decide
  exact ⟨hfits, ((reread_report ⟨oddFindings, []⟩).2 hfits).1⟩

end Command

end TemplateLint
