import TemplateLint.Json.Decode

/-!
# Severities

How serious a finding is. A rule setting names a severity in one of several ways; data and messages
use one name for each.

## Main definitions

* `Severity` and its order by `Severity.rank`
* `Severity.name`: the name in messages and data
* `Severity.ofName?`: the severity that a rule setting names
* `Severity.encode`, `Severity.decode`: severities as data
-/

namespace TemplateLint

/-- How serious a finding is. Only errors make a run fail. -/
inductive Severity where
  | info
  | warning
  | error
  deriving DecidableEq, Repr, Inhabited

namespace Severity

/-- The place of a severity in the order from least to most serious. -/
def rank : Severity → Nat
  | info => 0
  | warning => 1
  | error => 2

/-- The name of a severity in messages and data. -/
def name : Severity → String
  | info => "info"
  | warning => "warning"
  | error => "error"

/-- The severity that a name in a rule setting stands for. -/
def ofName? : String → Option Severity
  | "error" => some error
  | "warn" => some warning
  | "warning" => some warning
  | "info" => some info
  | _ => none

/-- The severities by name, in the order in which a message lists them. -/
def named : List (String × Severity) :=
  [info, warning, error].map fun s => (s.name, s)

/-- A severity as data: its name. -/
def encode (s : Severity) : Json := .str s.name

/-- Reads a severity. -/
def decode : Json.Decoder Severity := Json.enumeration named

@[simp] theorem ofName?_name (s : Severity) : ofName? s.name = some s := by
  cases s <;> rfl

@[simp] theorem decode_encode (s : Severity) : decode s.encode = .ok s := by
  cases s <;> rfl

end Severity

end TemplateLint
