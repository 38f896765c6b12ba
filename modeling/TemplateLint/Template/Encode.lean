import TemplateLint.Template.Basic

/-!
# Templates as data

Every node, attribute value and part of a value carries the name of its kind in the member `type`;
the other structures have none. All members are written, also those that have a default.

## Main definitions

* `Template.encode`, `Node.encode`, `Element.encode`, `Attribute.encode`, `Value.encode`, …
-/

namespace TemplateLint

/-- Members with the name of a kind before them. -/
def withKind (kind : String) : Json → Json
  | .obj members => .obj (("type", .str kind) :: members)
  | j => j

/-- Nothing but the name of a kind. -/
def kindAlone (kind : String) : Json :=
  .obj [("type", .str kind)]

/-- Literal text as data. -/
def Literal.encode (t : Literal) : Json :=
  .obj [("chars", .str t.chars), ("loc", t.loc.encode)]

/-- A path as data. -/
def Path.encode (p : Path) : Json :=
  .obj [("original", .str p.original)]

/-- An interpolation as data. -/
def Mustache.encode (m : Mustache) : Json :=
  .obj [("path", m.path.encode), ("loc", m.loc.encode)]

/-- A part of a mixed value as data. -/
def Part.encode : Part → Json
  | .literal t => withKind "TextNode" t.encode
  | .mustache m => withKind "MustacheStatement" m.encode
  | .unknown => kindAlone "Unknown"

/-- A mixed value as data. -/
def Concat.encode (c : Concat) : Json :=
  .obj [("parts", .arr (c.parts.map Part.encode)), ("loc", c.loc.encode)]

/-- The value of an attribute as data. -/
def Value.encode : Value → Json
  | .literal t => withKind "TextNode" t.encode
  | .mustache m => withKind "MustacheStatement" m.encode
  | .concat c => withKind "ConcatStatement" c.encode
  | .unknown => kindAlone "Unknown"

/-- An attribute as data. -/
def Attribute.encode (a : Attribute) : Json :=
  .obj [("name", .str a.name), ("value", a.value.encode), ("loc", a.loc.encode)]

/-- The members of an element, given its children as data. -/
def elementMembers (tag : String) (attributes : List Attribute) (children : List Json)
    (loc : Span) : Json :=
  .obj [("tag", .str tag), ("attributes", .arr (attributes.map Attribute.encode)),
    ("children", .arr children), ("loc", loc.encode)]

/-- The body of a block as data, given its statements as data. -/
def bodyMembers (body : List Json) : Json :=
  .obj [("body", .arr body)]

/-- The members of a block, given its bodies as data. -/
def blockMembers (path : Path) (program inverse : Json) (loc : Span) : Json :=
  .obj [("path", path.encode), ("program", program), ("inverse", inverse), ("loc", loc.encode)]

mutual

/-- A statement as data. -/
def Node.encode : Node → Json
  | .element tag attributes children loc =>
    withKind "ElementNode" (elementMembers tag attributes (encodeNodes children) loc)
  | .block path program (some inverse) loc =>
    withKind "BlockStatement" <|
      blockMembers path (bodyMembers (encodeNodes program)) (bodyMembers (encodeNodes inverse)) loc
  | .block path program none loc =>
    withKind "BlockStatement" <|
      blockMembers path (bodyMembers (encodeNodes program)) .null loc
  | .literal t => withKind "TextNode" t.encode
  | .mustache m => withKind "MustacheStatement" m.encode
  | .other => kindAlone "Other"

/-- Statements as data. -/
def encodeNodes : List Node → List Json
  | [] => []
  | n :: ns => n.encode :: encodeNodes ns

end

/-- The body of a block as data. -/
def encodeBody (body : List Node) : Json :=
  bodyMembers (encodeNodes body)

/-- An element as data. -/
def Element.encode (e : Element) : Json :=
  elementMembers e.tag e.attributes (encodeNodes e.children) e.loc

/-- A block as data. -/
def Block.encode (b : Block) : Json :=
  blockMembers b.path (encodeBody b.program) ((b.inverse.map encodeBody).getD .null) b.loc

/-- A template as data. -/
def Template.encode (t : Template) : Json :=
  .obj [("body", .arr (encodeNodes t.body))]

end TemplateLint
