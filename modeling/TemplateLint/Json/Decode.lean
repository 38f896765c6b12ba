import TemplateLint.Json.Printer
import TemplateLint.Text.Printable

/-!
# Decoding JSON values

A decoder reads a value of some type from a JSON value, or says what is wrong with it. A record is
read from an object, whose other members are ignored, or from an array of its fields' values in the
order in which the record declares them. A tagged value names its variant in the member `type`, or
in the first item of an array; inside another tagged value it may also give its variant's number.

Of several faults in an object the one that comes first is reported. Missing fields come after
the last member.

## Main definitions

* `DecodeError`: what is wrong with a value, and `DecodeError.message`
* `Decoder`: a reading of values; `text`, `boolean`, `natural`, `list`, `pair`, `nullable`
* `Record.decode`, `Fields.required`, `Fields.optional`: records
* `tagged`, `enumeration`: values that name their variant
-/

namespace TemplateLint.Json

/-- Where a value stands: inside a tagged value, or not. It decides which tags there are, and the
words about an array with too many items. -/
inductive Place where
  | plain
  | tagged
  deriving DecidableEq, Repr

/-- What is wrong with a value. -/
inductive DecodeError where
  | missingField (name : String)
  | duplicateField (name : String)
  | wrongType (found : Json) (expected : String)
  | wrongValue (found : Json) (expected : String)
  | unknownVariant (name : String) (known : List String)
  | tooShort (present : Nat) (expected : String)
  | tooLong (present : Nat) (used : Nat) (place : Place)

/-- What a message calls a value. -/
def describe : Json → String
  | .null => "null"
  | .bool b => "boolean `" ++ (if b then "true" else "false") ++ "`"
  | .int n => "integer `" ++ toString n ++ "`"
  | .float x => "floating point `" ++ x.render ++ "`"
  | .str s => "string " ++ Text.quoteDebug s
  | .arr _ => "sequence"
  | .obj _ => "map"

/-- A count of elements in words. -/
def elements (n : Nat) : String :=
  toString n ++ (if n = 1 then " element" else " elements")

/-- A name between backticks. -/
def ticked (name : String) : String := "`" ++ name ++ "`"

/-- The message of an error. -/
def DecodeError.message : DecodeError → String
  | .missingField name => "missing field " ++ ticked name
  | .duplicateField name => "duplicate field " ++ ticked name
  | .wrongType found expected => "invalid type: " ++ describe found ++ ", expected " ++ expected
  | .wrongValue found expected => "invalid value: " ++ describe found ++ ", expected " ++ expected
  | .unknownVariant name known =>
    "unknown variant " ++ ticked name ++ ", expected one of " ++ ", ".intercalate (known.map ticked)
  | .tooShort present expected => "invalid length " ++ toString present ++ ", expected " ++ expected
  | .tooLong present _ .plain =>
    "invalid length " ++ toString present ++ ", expected fewer elements in array"
  | .tooLong present used .tagged =>
    "invalid length " ++ toString present ++ ", expected " ++ elements used ++ " in sequence"

/-- A reading of JSON values. -/
abbrev Decoder (α : Type) := Json → Except DecodeError α

variable {α β : Type}

/-! ### Plain values -/

/-- A string. -/
def text : Decoder String
  | .str s => .ok s
  | j => .error (.wrongType j "a string")

/-- A truth value. -/
def boolean : Decoder Bool
  | .bool b => .ok b
  | j => .error (.wrongType j "a boolean")

/-- A natural number, which has to be written as an integer. -/
def natural : Decoder Nat
  | .int n => if 0 ≤ n then .ok n.toNat else .error (.wrongValue (.int n) "usize")
  | j => .error (.wrongType j "usize")

/-- An array whose items are all read alike. -/
def list (item : Decoder α) : Decoder (List α)
  | .arr items => items.mapM item
  | j => .error (.wrongType j "a sequence")

/-- An array of two items. -/
def pair (first : Decoder α) (second : Decoder β) : Decoder (α × β)
  | .arr [] => .error (.tooShort 0 "a tuple of size 2")
  | .arr [a] => do
    let _ ← first a
    .error (.tooShort 1 "a tuple of size 2")
  | .arr (a :: b :: more) => do
    let x ← first a
    let y ← second b
    if more.isEmpty then .ok (x, y) else .error (.tooLong (more.length + 2) 2 .plain)
  | j => .error (.wrongType j "a tuple of size 2")

/-- A value that may be null. -/
def nullable (item : Decoder α) : Decoder (Option α)
  | .null => .ok none
  | j => (item j).map some

/-! ### Records -/

/-- The members of a name and their positions among all members. -/
def occurrences (name : String) : Nat → List (String × Json) → List (Nat × Json)
  | _, [] => []
  | i, (k, v) :: rest =>
    if k = name then (i, v) :: occurrences name (i + 1) rest else occurrences name (i + 1) rest

/-- The outcome of reading fields; an error comes with its position. -/
def Reading (α : Type) := Except (Nat × DecodeError) α

namespace Reading

/-- Reads two fields. Of two errors the earlier one is kept. -/
def seq (f : Reading (α → β)) (x : Reading α) : Reading β :=
  match f, x with
  | .ok f, .ok a => .ok (f a)
  | .ok _, .error e => .error e
  | .error e, .ok _ => .error e
  | .error e, .error e' => .error (if e'.1 < e.1 then e' else e)

instance : Functor Reading where
  map f x := Except.map f x

instance : Seq Reading where
  seq f x := seq f (x ())

/-- A value read at a position. -/
def located (position : Nat) (x : Except DecodeError α) : Reading α :=
  x.mapError fun e => (position, e)

/-- The outcome without the position of the error. -/
def settle (x : Reading α) : Except DecodeError α :=
  Except.mapError (·.2) x

end Reading

/-- A record type: its name and the names of its fields in the order of their declaration. -/
structure Record where
  name : String
  fields : List String

/-- The fields of a record as they are written. -/
inductive Written where
  | named (members : List (String × Json))
  | positional (items : List Json)

/-- A record type together with fields to read it from. -/
structure Fields where
  record : Record
  written : Written

namespace Fields

/-- The value of a field; `absent` says what becomes of a field that is not there, given the
position and the error that stand for its absence. -/
def field (s : Fields) (name : String) (absent : Nat → DecodeError → Reading α)
    (decode : Decoder α) : Reading α :=
  let place := s.record.fields.idxOf name
  match s.written with
  | .named members =>
    match occurrences name 0 members with
    | [] => absent (members.length + place) (.missingField name)
    | (i, v) :: [] => Reading.located i (decode v)
    | (i, v) :: (j, _) :: _ =>
      match decode v with
      | .ok _ => Reading.located j (.error (.duplicateField name))
      | .error e => Reading.located i (.error e)
  | .positional items =>
    match items[place]? with
    | none =>
      absent place <| .tooShort place <|
        "struct " ++ s.record.name ++ " with " ++ elements s.record.fields.length
    | some v => Reading.located place (decode v)

/-- A field that has to be there. -/
def required (s : Fields) (name : String) (decode : Decoder α) : Reading α :=
  s.field name (fun position e => .error (position, e)) decode

/-- A field with a default. -/
def optional (s : Fields) (name : String) (default : α) (decode : Decoder α) : Reading α :=
  s.field name (fun _ _ => .ok default) decode

end Fields

/-- A record, read from an object or from an array of its fields' values. -/
def Record.decode (r : Record) (place : Place) (read : Fields → Reading α) : Decoder α
  | .obj members => (read ⟨r, .named members⟩).settle
  | .arr items => do
    let a ← (read ⟨r, .positional items⟩).settle
    if items.length ≤ r.fields.length then .ok a
    else .error (.tooLong items.length r.fields.length place)
  | j => .error (.wrongType j ("struct " ++ r.name))

/-! ### Variants -/

/-- The member that names the variant of a tagged value. -/
def tagName : String := "type"

/-- The variant that a tag stands for, or none for a tag that is not known. A tag is the name of a
variant. Inside a tagged value it may also be the number of a variant, counted from zero. -/
def variantOf (variants : List (String × α)) (place : Place) :
    Json → Except DecodeError (Option α)
  | .str s => .ok ((variants.find? (·.1 = s)).map (·.2))
  | .int n =>
    if place = .tagged ∧ 0 ≤ n then .ok ((variants[n.toNat]?).map (·.2))
    else .error (.wrongType (.int n) "variant identifier")
  | j => .error (.wrongType j "variant identifier")

/-- A tagged value. The variants that are known have decoders for what is left without the tag;
every other tag stands for `other`. -/
def tagged (name : String) (variants : List (String × Decoder α)) (other : α) (place : Place) :
    Decoder α
  | .obj members =>
    match occurrences tagName 0 members with
    | [] => .error (.missingField tagName)
    | (_, tag) :: more => do
      let variant ← variantOf variants place tag
      if ! more.isEmpty then .error (.duplicateField tagName)
      else match variant with
        | some decode => decode (.obj (members.filter (·.1 ≠ tagName)))
        | none => .ok other
  | .arr [] => .error (.missingField tagName)
  | .arr (tag :: items) => do
    match ← variantOf variants place tag with
    | some decode => decode (.arr items)
    | none => if items.isEmpty then .ok other else .error (.tooLong items.length 0 .tagged)
  | j => .error (.wrongType j ("internally tagged enum " ++ name))

/-- The variant called `name`. -/
def variantCalled (variants : List (String × α)) (name : String) : Except DecodeError α :=
  match variants.find? (·.1 = name) with
  | some (_, a) => .ok a
  | none => .error (.unknownVariant name (variants.map (·.1)))

/-- One of several names, alone or as the only member of an object, with the value null. -/
def enumeration (variants : List (String × α)) : Decoder α
  | .str s => variantCalled variants s
  | .obj [(k, v)] => do
    let a ← variantCalled variants k
    match v with
    | .null => .ok a
    | _ => .error (.wrongType v "unit")
  | .obj members => .error (.wrongValue (.obj members) "map with a single key")
  | j => .error (.wrongType j "string or map")

end TemplateLint.Json
