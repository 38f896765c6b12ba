import TemplateLint.Json.Basic

/-!
# TOML tables

The tables of a TOML text grow as the text is read. How a table came about decides what may still be
added to it: a table with a header has no second header and is closed to dotted keys; a table
implied by the header of an inner one may get its own header; a table made by dotted keys grows only
by dotted keys and by headers of inner tables. Values, among them inline tables, never grow.

## Main definitions

* `Toml.Item`: a value, a table or an array of tables
* `Toml.descend`: a change to the table at a path
* `Toml.insertKey`, `Toml.openTable`, `Toml.openElement`: keys and headers
* `Toml.Item.toJson`: an item as JSON
-/

namespace TemplateLint.Toml

/-- How a table came about. -/
inductive Origin where
  /-- It has a header, or it is the root or an element of an array of tables. -/
  | header
  /-- It is a part of the path of a header. -/
  | implied
  /-- It is a part of a dotted key. -/
  | dotted
  deriving DecidableEq, Repr

/-- What a key stands for. -/
inductive Item where
  | value (j : Json)
  | table (origin : Origin) (entries : List (String × Item))
  | tables (elements : List (List (String × Item)))
  deriving Inhabited

/-- The keys of a table and what they stand for. -/
abbrev Entries := List (String × Item)

/-- What a key stands for. -/
def get? (key : String) : Entries → Option Item
  | [] => none
  | (k, item) :: rest => if k = key then some item else get? key rest

/-- The entries with a key standing for something else; a new key comes last. -/
def put (key : String) (item : Item) : Entries → Entries
  | [] => [(key, item)]
  | (k, old) :: rest => if k = key then (key, item) :: rest else (k, old) :: put key item rest

/-- A change to a table, which may be refused. -/
abbrev Change := Origin → Entries → Option Entries

/-- Changes the table at a path below a table, making the tables that are missing on the way. Of an
array of tables the last element is meant. A dotted path does not enter a table with a header. -/
def descend (dotted : Bool) : List String → Change → Change
  | [], change => change
  | key :: path, change => fun _ entries =>
    match get? key entries with
    | none =>
      let origin := if dotted then Origin.dotted else .implied
      (descend dotted path change origin []).map fun inner =>
        put key (.table origin inner) entries
    | some (.value _) => none
    | some (.table origin inner) =>
      if dotted ∧ origin = .header then none
      else (descend dotted path change origin inner).map fun inner =>
        put key (.table origin inner) entries
    | some (.tables elements) =>
      match elements.getLast? with
      | none => none
      | some last => (descend dotted path change .header last).map fun last =>
        put key (.tables (elements.dropLast ++ [last])) entries

/-- Adds a dotted key, given as its path and its last part. The table at the end of a path has to
be one made by dotted keys, and the key has to be new. -/
def insertKey (path : List String) (key : String) (j : Json) : Change :=
  descend true path fun origin entries =>
    if (origin = .dotted) = (path = []) then none
    else match get? key entries with
      | none => some (put key (.value j) entries)
      | some _ => none

/-- Opens the table of a header, given as its path and its last part. -/
def openTable (path : List String) (key : String) : Change :=
  descend false path fun _ entries =>
    match get? key entries with
    | none => some (put key (.table .header []) entries)
    | some (.table .implied inner) => some (put key (.table .header inner) entries)
    | some _ => none

/-- Opens a further element of an array of tables, given as the path of its header and its last
part. -/
def openElement (path : List String) (key : String) : Change :=
  descend false path fun _ entries =>
    match get? key entries with
    | none => some (put key (.tables [[]]) entries)
    | some (.tables elements) => some (put key (.tables (elements ++ [[]])) entries)
    | some _ => none

/-! ### JSON -/

mutual

/-- An item as JSON. -/
def Item.toJson : Item → Json
  | .value j => j
  | .table _ entries => .obj (entriesToMembers entries)
  | .tables elements => .arr (elementsToItems elements)

/-- The entries of a table as members of an object. -/
def entriesToMembers : List (String × Item) → List (String × Json)
  | [] => []
  | (k, item) :: rest => (k, item.toJson) :: entriesToMembers rest

/-- The elements of an array of tables as items of an array. -/
def elementsToItems : List (List (String × Item)) → List Json
  | [] => []
  | entries :: rest => .obj (entriesToMembers entries) :: elementsToItems rest

end

end TemplateLint.Toml
