import TemplateLint.Json.Basic

/-!
# JSON documents

A document is what a text spells, before anyone decides which parts of it matter. It may hold
tokens without a value: a number too large for the format, or a string with half a surrogate pair.
Such a token, and nesting beyond the limit, is a fault only where the value is used. An outline
says which parts are used: whoever reads a record skips the members that it does not know.

## Main definitions

* `Document`: the tree of a text
* `Outline`: the parts of a document that a reader uses
* `Document.value?`: the value of the used parts
* `nestingLimit`: how many arrays and objects may be open at once
-/

namespace TemplateLint.Json

/-- The tree of a JSON text. The names of members may be strings without a value, too. -/
inductive Document where
  | null
  | bool (b : Bool)
  | int (n : Int)
  | float (x : Binary64)
  | str (s : String)
  /-- A well-formed number or string that has no value. -/
  | valueless
  | arr (items : List Document)
  | obj (members : List (Option String × Document))
  deriving Inhabited

/-- The parts of a document that a reader uses. -/
inductive Outline where
  /-- Everything is used. -/
  | whole
  /-- A list, each item of which is used as told. -/
  | list (item : Outline)
  /-- A record: an object whose other members are skipped, or an array of the fields' values. -/
  | record (fields : List (String × Outline))

/-- How many arrays and objects may be open at once where a document is used. -/
def nestingLimit : Nat := 127

namespace Outline

/-- The outline of the items of an array. -/
def item : Outline → Outline
  | .list o => o
  | _ => .whole

/-- The outlines of the fields of a record by position. -/
def positions : Outline → List Outline
  | .record fields => fields.map (·.2)
  | _ => []

/-- The outline of the field called `name`. -/
def field? (name : String) : List (String × Outline) → Option Outline
  | [] => none
  | (k, o) :: rest => if k = name then some o else field? name rest

/-- The outline of the member called `name`, or nothing when the member is skipped. -/
def member? (name : String) : Outline → Option Outline
  | .record fields => field? name fields
  | _ => some .whole

end Outline

namespace Document

mutual

/-- The value of the parts of a document that are used, with at most `room` open arrays and
objects; skipped members are left out. -/
def valueWithin (room : Nat) (o : Outline) : Document → Option Json
  | .null => some .null
  | .bool b => some (.bool b)
  | .int n => some (.int n)
  | .float x => some (.float x)
  | .str s => some (.str s)
  | .valueless => none
  | .arr items =>
    if room = 0 then none
    else (itemValues (room - 1) o.positions o.item items).map .arr
  | .obj members =>
    if room = 0 then none else (memberValues (room - 1) o members).map .obj

/-- The values of the items of an array: the first ones by the outlines of their positions, the
others all alike. -/
def itemValues (room : Nat) (positions : List Outline) (item : Outline) :
    List Document → Option (List Json)
  | [] => some []
  | d :: ds => do
    let v ← valueWithin room (positions.headD item) d
    let vs ← itemValues room positions.tail item ds
    return v :: vs

/-- The members of an object that are used. Every name has to have a value, even of a member that
is skipped. -/
def memberValues (room : Nat) (o : Outline) :
    List (Option String × Document) → Option (List (String × Json))
  | [] => some []
  | (name, d) :: ms => do
    let k ← name
    let rest ← memberValues room o ms
    match o.member? k with
    | none => return rest
    | some inner =>
      let v ← valueWithin room inner d
      return (k, v) :: rest

end

/-- The value of the parts of a document that are used. -/
def value? (o : Outline) (d : Document) : Option Json :=
  valueWithin nestingLimit o d

end Document

end TemplateLint.Json
