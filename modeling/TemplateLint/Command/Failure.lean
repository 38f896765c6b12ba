/-!
# Failures

Why a run failed: what was being done, and the causes, each behind the one before it.

## Main definitions

* `Failure` and `Failure.render`
-/

namespace TemplateLint.Command

/-- What failed, and why. -/
structure Failure where
  message : String
  causes : List String := []
  deriving DecidableEq, Repr

namespace Failure

/-- A text with its first line after `head` and every other line after `indent`. -/
def indented (head indent text : String) : String :=
  head ++ String.ofList (text.toList.flatMap fun c => if c = '\n' then c :: indent.toList else [c])

/-- A number in a field of five columns, and a colon. -/
def numbering (n : Nat) : String :=
  let digits := toString n
  String.ofList (List.replicate (5 - digits.length) ' ') ++ digits ++ ": "

/-- The causes, each on lines of its own. Several causes are numbered. -/
def renderCauses : List String → List String
  | [] => []
  | [cause] => [indented "    " "    " cause]
  | causes => causes.zipIdx.map fun (cause, n) => indented (numbering n) "       " cause

/-- The failure as the last words of a run. -/
def render (f : Failure) : String :=
  let causes := renderCauses f.causes
  "Error: " ++ f.message ++
    if causes.isEmpty then "" else "\n\nCaused by:\n" ++ "\n".intercalate causes

end Failure

end TemplateLint.Command
