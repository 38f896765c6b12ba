import TemplateLint.Rule

/-!
# Denylists

A denylist forbids patterns in the values of attributes. It is written as data that is loosely
typed, and reading it keeps what is usable. An entry that is no object, or that has a member other
than `name` and `values`, makes the whole list worthless; an entry without a usable name or without
usable patterns is dropped alone.

## Main definitions

* `Denylist`, `Denylist.Entry`: the forbidden patterns of each attribute
* `Denylist.toRaw`: the denylist as data
* `Denylist.Notice`: what reading has to say, and `Denylist.Notice.entry`
* `Denylist.read`: a denylist from data, and `Denylist.parse`, which refuses other shapes
* `Denylist.decode`: a denylist from data that is taken as it is
-/

namespace TemplateLint

open Json (Record Decoder)

/-- The forbidden patterns of one attribute. -/
structure Denylist.Entry where
  /-- The name of the attribute. -/
  name : String
  /-- The written forms of the patterns. -/
  values : List String
  deriving DecidableEq, Repr, Inhabited

/-- Forbidden patterns, attribute by attribute. -/
structure Denylist where
  entries : List Denylist.Entry := []
  deriving DecidableEq, Repr, Inhabited

namespace Denylist

/-- The name of the rule. -/
def ruleName : String := "denylist"

/-- Where to read about the options of the rule. -/
def docsPointer : String :=
  "Please refer to https://github.com/shamrt/ember-template-lint-plugin-denylist/ for details"

/-- An entry as data. -/
def Entry.toRaw (e : Entry) : Json :=
  .obj [("name", .str e.name), ("values", .arr (e.values.map .str))]

/-- A denylist as data. -/
def toRaw (d : Denylist) : Json :=
  .obj [("attributes", .arr (d.entries.map Entry.toRaw))]

/-! ### Notices -/

/-- Why an entry makes the whole list worthless. -/
inductive Malformed where
  | notAnObject (entry : Json)
  | unexpectedKey (key : String)

/-- The reason as it continues the words "entry #n". -/
def Malformed.message : Malformed → String
  | .notAnObject entry => "is not an object: " ++ entry.compact
  | .unexpectedKey key => "has unexpected key `" ++ key ++ "`"

/-- What reading a denylist has to say. -/
inductive Notice where
  /-- The list of entries is no list. -/
  | notAList (found : Json)
  /-- The whole list is ignored because of an entry. -/
  | listIgnored (index : Nat) (reason : Malformed)
  /-- An entry is dropped. -/
  | entryDropped (index : Nat)
  /-- The name of an entry is no string. -/
  | nameIgnored (found : Json)
  /-- One of the patterns of an attribute is no string. -/
  | valueIgnored (found : Json) (name : String)
  /-- The patterns of an attribute are neither a string nor a list. -/
  | valuesIgnored (name : String) (found : Json)

/-- Whether a notice is a warning: only those that ignore all entries are. -/
def Notice.isWarning : Notice → Bool
  | .notAList _ => true
  | .listIgnored _ _ => true
  | _ => false

/-- The words of a notice. -/
def Notice.message : Notice → String
  | .notAList found =>
    "Ignoring " ++ ruleName ++ " attributes: expected a list, got " ++ found.compact
  | .listIgnored index reason =>
    "Ignoring all " ++ ruleName ++ " attributes: entry #" ++ toString index ++ " " ++ reason.message
  | .entryDropped index =>
    "Dropping attribute entry #" ++ toString index ++ " without a usable name or values"
  | .nameIgnored found => "Ignoring non-string attribute name " ++ found.compact
  | .valueIgnored found name =>
    "Ignoring non-string value " ++ found.compact ++ " for attribute `" ++ name ++ "`"
  | .valuesIgnored name found =>
    "Ignoring values for attribute `" ++ name ++ "`: " ++ found.compact

/-- A notice as a message of the log. -/
def Notice.entry (n : Notice) : Log.Entry :=
  ⟨if n.isWarning then .warn else .debug, n.message⟩

/-! ### Reading -/

/-- The members that an entry may have. -/
def allowedKeys : List String := ["name", "values"]

/-- The least of some names. -/
def leastName? : List String → Option String
  | [] => none
  | k :: ks =>
    match leastName? ks with
    | none => some k
    | some least => some (if least < k then least else k)

/-- The least name of a member that an entry may not have. -/
def unexpectedKey? (members : List (String × Json)) : Option String :=
  leastName? ((members.map (·.1)).filter fun k => ! allowedKeys.contains k)

/-- The name of an entry; a missing name is empty. -/
def entryName (members : List (String × Json)) : Option String × List Notice :=
  match Json.lookup "name" members with
  | some (.str name) => (some name, [])
  | some .null => (some "", [])
  | some found => (none, [.nameIgnored found])
  | none => (some "", [])

/-- The strings of a list, and a notice for every other item. -/
def stringItems (name : String) : List Json → List String × List Notice
  | [] => ([], [])
  | .str value :: rest =>
    let (values, notices) := stringItems name rest
    (value :: values, notices)
  | found :: rest =>
    let (values, notices) := stringItems name rest
    (values, .valueIgnored found name :: notices)

/-- The strings given as the patterns of an entry. -/
def entryValues (name : String) (members : List (String × Json)) :
    Option (List String) × List Notice :=
  match Json.lookup "values" members with
  | none => (some [], [])
  | some .null => (some [], [])
  | some (.str value) => (some [value], [])
  | some (.arr items) =>
    let (values, notices) := stringItems name items
    (some values, notices)
  | some found => (none, [.valuesIgnored name found])

/-- The entry with this name and the patterns among these strings that are not empty, if the entry
is of any use. The empty pattern would forbid every value. -/
def usable? (name : String) (values : List String) : Option Entry :=
  let kept := values.filter (· ≠ "")
  if name = "" ∨ kept = [] then none else some ⟨name, kept⟩

/-- The entry that an object stands for, if it is of any use. -/
def readMembers (members : List (String × Json)) : Option Entry × List Notice :=
  match entryName members with
  | (none, notices) => (none, notices)
  | (some name, notices) =>
    let (values?, more) := entryValues name members
    (values?.bind (usable? name), notices ++ more)

/-- The members of a well-formed entry. -/
def wellFormed (entry : Json) : Except Malformed (List (String × Json)) :=
  match entry with
  | .obj members =>
    match unexpectedKey? members with
    | some key => .error (.unexpectedKey key)
    | none => .ok members
  | _ => .error (.notAnObject entry)

/-- The usable ones of the entries from `index` on, or nothing when one is malformed. -/
def readEntries (index : Nat) : List Json → Option (List Entry) × List Notice
  | [] => (some [], [])
  | entry :: rest =>
    match wellFormed entry with
    | .error reason => (none, [.listIgnored index reason])
    | .ok members =>
      let (usable, notices) := readMembers members
      let dropped := if usable.isNone then [.entryDropped index] else []
      let (entries?, more) := readEntries (index + 1) rest
      (entries?.map (usable.toList ++ ·), notices ++ dropped ++ more)

/-- The usable entries of the data given as the list of entries. -/
def readList : Json → List Entry × List Notice
  | .arr items =>
    let (entries?, notices) := readEntries 0 items
    (entries?.getD [], notices)
  | found => ([], [.notAList found])

/-- The denylist that data stands for: `true` and an object without a list stand for an empty one,
and other shapes stand for none. -/
def read : Json → Option Denylist × List Notice
  | .bool true => (some {}, [])
  | .obj members =>
    match Json.lookup "attributes" members with
    | none => (some {}, [])
    | some raw =>
      let (entries, notices) := readList raw
      (some ⟨entries⟩, notices)
  | _ => (none, [])

/-- Reads a denylist. -/
def parse (raw : Json) : Logged (Except ConfigurationError Denylist) :=
  let (denylist?, notices) := read raw
  ⟨match denylist? with
    | some d => .ok d
    | none => .error ⟨ruleName, [docsPointer], raw⟩,
    notices.map Notice.entry⟩

/-! ### Denylists taken as they are -/

/-- The fields of an entry. -/
def Entry.record : Record := ⟨"AttributeRule", ["name", "values"]⟩

/-- Reads an entry as it is. -/
def Entry.decode : Decoder Entry :=
  Entry.record.decode .plain fun s =>
    Entry.mk <$> s.required "name" Json.text <*> s.required "values" (Json.list Json.text)

/-- The fields of a denylist. -/
def record : Record := ⟨"RuleConfig", ["attributes"]⟩

/-- Reads a denylist as it is, usable or not. -/
def decode : Decoder Denylist :=
  record.decode .plain fun s => mk <$> s.required "attributes" (Json.list Entry.decode)

end Denylist

end TemplateLint
