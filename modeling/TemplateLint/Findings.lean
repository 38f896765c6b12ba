import TemplateLint.Diagnostic

/-!
# Findings

What a run over some templates found, and how many templates it looked at. Findings of several runs
are joined in the order of the runs.

## Main definitions

* `Findings`, `Findings.extend`, `Findings.inFile`
* `Findings.hasErrors`, `Findings.count`, `Findings.tally`: how many there are of each severity
* `Findings.encode`, `Findings.decode`: findings as data
-/

namespace TemplateLint

open Json (Record Decoder Outline)

/-- The diagnostics of some templates and the number of these templates. The number is a word of 64
bits: joining findings that claim more templates than it can hold goes on from zero. -/
structure Findings where
  diagnostics : List Diagnostic := []
  templatesChecked : UInt64 := 0
  deriving DecidableEq, Repr, Inhabited

namespace Findings

/-- Findings with those of a later run after them. -/
def extend (f g : Findings) : Findings :=
  ⟨f.diagnostics ++ g.diagnostics, f.templatesChecked + g.templatesChecked⟩

/-- Findings whose diagnostics all come from one file. -/
def inFile (f : Findings) (path : String) : Findings :=
  { f with diagnostics := f.diagnostics.map fun d => { d with file := some path } }

/-- Whether there is an error among the diagnostics. -/
def hasErrors (f : Findings) : Bool :=
  f.diagnostics.any (·.severity = .error)

/-- The number of diagnostics of a severity. -/
def count (f : Findings) (s : Severity) : Nat :=
  f.diagnostics.countP (·.severity = s)

/-- The numbers of errors, of warnings and of infos. -/
def tally (f : Findings) : Nat × Nat × Nat :=
  (f.count .error, f.count .warning, f.count .info)

theorem hasErrors_iff (f : Findings) : f.hasErrors ↔ 0 < f.count .error := by
  simp [hasErrors, count, List.countP_pos_iff]

/-! ### Findings as data -/

/-- The fields of findings. -/
def record : Record := ⟨"LintResult", ["diagnostics", "templatesChecked"]⟩

/-- Findings as data. -/
def encode (f : Findings) : Json :=
  .obj [("diagnostics", .arr (f.diagnostics.map Diagnostic.encode)),
    ("templatesChecked", .nat f.templatesChecked.toNat)]

/-- Reads findings. -/
def decode : Decoder Findings :=
  record.decode .plain fun s =>
    mk <$> s.required "diagnostics" (Json.list (Diagnostic.decode .plain))
      <*> (UInt64.ofNat <$> s.required "templatesChecked" Json.natural)

/-- The used parts of the text of findings. -/
def outline : Outline :=
  .record [("diagnostics", .list Diagnostic.outline), ("templatesChecked", .whole)]

end Findings

end TemplateLint
