/-!
# Paths of files

A path is its parts between slashes. The last part names a file unless it is empty or a dot
directory. The extension of a name is what follows its last dot; a dot in front of a name does not
start an extension, and a name that ends with a dot has the empty one.

## Main definitions

* `FilePath.join`: a name below a directory
* `FilePath.extension?`, `FilePath.withExtension`
* `FilePath.siblingSource`: the source that lies beside the tree of a template
-/

namespace TemplateLint.FilePath

/-- A name below a directory. -/
def join (directory name : String) : String :=
  if directory = "" then name
  else if directory.toList.getLast? = some '/' then directory ++ name
  else directory ++ "/" ++ name

/-- A path up to its last slash, and what follows it. -/
def splitLast (path : List Char) : List Char × List Char :=
  let name := (path.reverse.takeWhile (· ≠ '/')).reverse
  (path.take (path.length - name.length), name)

/-- A name up to the dot of its extension, and the extension. -/
def splitName (name : List Char) : List Char × Option (List Char) :=
  let extension := (name.reverse.takeWhile (· ≠ '.')).reverse
  if extension.length + 1 < name.length then
    (name.take (name.length - extension.length - 1), some extension)
  else (name, none)

/-- Whether the last part of a path is no name of a file. -/
def isDots (name : List Char) : Bool :=
  name = [] || name = ['.'] || name = ['.', '.']

/-- The extension of the file that a path names. -/
def extension? (path : List Char) : Option (List Char) :=
  let name := (splitLast path).2
  if isDots name then none else (splitName name).2

/-- A path whose file name has its extension replaced; nothing happens when there is no name. -/
def setExtension (extension path : List Char) : List Char :=
  let (directory, name) := splitLast path
  if isDots name then path
  else
    let ending := if extension = [] then [] else '.' :: extension
    directory ++ (splitName name).1 ++ ending

/-- A path with another extension. The old one is cut off first, and then the new one is set; what
is left by the cut may end with a dot, or may be no name at all. -/
def withExtension (extension path : List Char) : List Char :=
  match extension? path with
  | none => setExtension extension path
  | some old => setExtension extension (path.take (path.length - old.length))

/-- The extension of sources. -/
def sourceExtension : List Char := ['h', 'b', 's']

/-- The path of the source that lies beside the tree of a template: `index.hbs` for both
`index.hbs.json` and `index.json`. -/
def siblingSource (path : String) : String :=
  let stripped := withExtension [] path.toList
  String.ofList <|
    if extension? stripped = some sourceExtension then stripped
    else withExtension sourceExtension path.toList

/-- Whether a path has a given extension. -/
def hasExtension (path extension : String) : Bool :=
  extension? path.toList = some extension.toList

end TemplateLint.FilePath
