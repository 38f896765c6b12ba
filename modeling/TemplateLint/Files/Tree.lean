import TemplateLint.Files.Basic

/-!
# Directory trees

Files that lie in a tree of directories in memory. A path is followed part by part from where it
starts; an empty part and a single dot stay in a directory, and two dots leave it. Nothing can be
found above the top of the tree.

## Main definitions

* `Tree`, `Tree.insert`
* `Volume`: a tree, the path under which its top is known, and a working directory
* `Volume.files`: the files of a volume
-/

namespace TemplateLint

/-- A file or a directory. -/
inductive Tree where
  | file (bytes : ByteArray)
  | directory (entries : List (String × Tree))
  deriving Inhabited

namespace Tree

/-- The entries of a directory with one called `name` replaced or added. -/
def setEntry (name : String) (t : Tree) : List (String × Tree) → List (String × Tree)
  | [] => [(name, t)]
  | (k, old) :: rest => if k = name then (name, t) :: rest else (k, old) :: setEntry name t rest

/-- The entries of a directory; a file has none. -/
def entries : Tree → List (String × Tree)
  | .file _ => []
  | .directory es => es

/-- The tree with `content` at a path of names; missing directories are made. -/
def insert (content : Tree) : List String → Tree → Tree
  | [], _ => content
  | name :: path, t =>
    let below := (t.entries.lookup name).getD (.directory [])
    .directory (setEntry name (insert content path below) t.entries)

/-- What lies at a path of names. -/
def find? : List String → Tree → Option Tree
  | [], t => some t
  | name :: path, t => (t.entries.lookup name).bind (find? path)

end Tree

/-- The parts of a path between its slashes. -/
def pathParts (path : String) : List String :=
  (path.toList.splitOn '/').map String.ofList

/-- The names on the way to what a path means, two dots taking away the name before them. -/
def foldDots (start : List String) (parts : List String) : List String :=
  parts.foldl
    (fun names part =>
      if part = "" ∨ part = "." then names
      else if part = ".." then names.dropLast
      else names ++ [part])
    start

/-- A tree whose top is known under a path, and a working directory in it. -/
structure Volume where
  top : String
  root : Tree
  workDir : List String

namespace Volume

/-- Follows parts of a path from a directory, given by the names from the top down to it, or from
above the top. -/
def follow (root : Tree) : Option (List String) → List String → Except ReadFault Tree
  | none, [] => .ok (.directory [])
  | none, part :: parts =>
    if part = "" ∨ part = "." ∨ part = ".." then follow root none parts else .error .notFound
  | some names, [] =>
    match root.find? names with
    | some t => .ok t
    | none => .error .notFound
  | some names, part :: parts =>
    match root.find? names with
    | none => .error .notFound
    | some (.file _) => .error .notADirectory
    | some (.directory _) =>
      if part = "" ∨ part = "." then follow root (some names) parts
      else if part = ".." then
        follow root (if names = [] then none else some names.dropLast) parts
      else follow root (some (names ++ [part])) parts

/-- What a path means: it starts at the top when it begins with the path of the top, outside of the
tree when it begins with a slash, and in the working directory otherwise. -/
def resolve (v : Volume) (path : String) : Except ReadFault Tree :=
  let parts := pathParts path
  let topParts := pathParts v.top
  if path = "" then .error .notFound
  else if topParts.isPrefixOf parts then follow v.root (some []) (parts.drop topParts.length)
  else if parts.head? = some "" then follow v.root none parts
  else follow v.root (some v.workDir) parts

/-- The text of the file at a path. -/
def read (v : Volume) (path : String) : Except ReadFault String :=
  match v.resolve path with
  | .error fault => .error fault
  | .ok (.directory _) => .error .isDirectory
  | .ok (.file bytes) =>
    match String.fromUTF8? bytes with
    | some text => .ok text
    | none => .error .notText

/-- The files of a volume. -/
def files (v : Volume) : Files := ⟨v.read⟩

/-- The volume with content put at a path, which is relative to the working directory. -/
def put (v : Volume) (path : String) (content : Tree) : Volume :=
  { v with root := Tree.insert content (foldDots v.workDir (pathParts path)) v.root }

end Volume

end TemplateLint
