import TemplateLint.Location

/-!
# Templates

The tree of a template: elements with attributes, blocks, text and interpolations. Every other kind
of node, of attribute value and of part of a value is kept as something unknown, in which nothing is
ever found.

Static text is what is known of an attribute's value before the template is rendered: the text of a
plain value, the pieces of text of a mixed one, nothing of any other.

## Main definitions

* `Template`, `Node`, `Element`, `Attribute`
* `Value`: the value of an attribute, and `Part`: a part of a mixed value
* `Element.attribute?`: the first attribute of a name
* `Value.staticText`: the static text of a value
* `Node.elements`, `Template.elements`: the elements of a tree in the order of the source
-/

namespace TemplateLint

/-- Literal text. -/
structure Literal where
  chars : String
  loc : Span := Span.unknown
  deriving DecidableEq, Repr, Inhabited

/-- A path as it is written in the source, such as `this.classes`. -/
structure Path where
  original : String := ""
  deriving DecidableEq, Repr, Inhabited

/-- An interpolation, whose value is not known before the template is rendered. -/
structure Mustache where
  path : Path := {}
  loc : Span := Span.unknown
  deriving DecidableEq, Repr, Inhabited

/-- A part of a value that mixes text and interpolations. -/
inductive Part where
  | literal (text : Literal)
  | mustache (m : Mustache)
  | unknown
  deriving DecidableEq, Repr, Inhabited

/-- A quoted value that mixes text and interpolations. -/
structure Concat where
  parts : List Part := []
  loc : Span := Span.unknown
  deriving DecidableEq, Repr, Inhabited

/-- The value of an attribute. -/
inductive Value where
  /-- Nothing but text. -/
  | literal (text : Literal)
  /-- A single interpolation. -/
  | mustache (m : Mustache)
  /-- Text and interpolations. -/
  | concat (c : Concat)
  | unknown
  deriving DecidableEq, Repr, Inhabited

/-- An attribute of an element. -/
structure Attribute where
  name : String
  value : Value
  loc : Span := Span.unknown
  deriving DecidableEq, Repr, Inhabited

/-- A statement of a template. -/
inductive Node where
  /-- An element with its children. -/
  | element (tag : String) (attributes : List Attribute) (children : List Node) (loc : Span)
  /-- A block with its main body and, perhaps, its `else` body. -/
  | block (path : Path) (program : List Node) (inverse : Option (List Node)) (loc : Span)
  | literal (text : Literal)
  | mustache (m : Mustache)
  /-- A comment, or any other kind of statement. -/
  | other
  deriving Inhabited

/-- An element as a rule sees it. -/
structure Element where
  tag : String
  attributes : List Attribute := []
  children : List Node := []
  loc : Span := Span.unknown
  deriving Inhabited

/-- A template: the statements at its top. -/
structure Template where
  body : List Node := []
  deriving Inhabited

/-- A block statement on its own. -/
structure Block where
  path : Path := {}
  program : List Node := []
  inverse : Option (List Node) := none
  loc : Span := Span.unknown
  deriving Inhabited

/-- The first attribute called `name`. Later ones of that name have no effect. -/
def Element.attribute? (e : Element) (name : String) : Option Attribute :=
  e.attributes.find? (·.name = name)

/-- An element as a statement. -/
def Element.toNode (e : Element) : Node :=
  .element e.tag e.attributes e.children e.loc

/-- A block as a statement. -/
def Block.toNode (b : Block) : Node :=
  .block b.path b.program b.inverse b.loc

/-! ### Static text -/

/-- The text of a part, if it is text. -/
def Part.staticText? : Part → Option String
  | .literal t => some t.chars
  | .mustache _ => none
  | .unknown => none

/-- The text of a value that is known beforehand; pieces are joined by one space. -/
def Value.staticText : Value → String
  | .literal t => t.chars
  | .mustache _ => ""
  | .concat c => " ".intercalate (c.parts.filterMap Part.staticText?)
  | .unknown => ""

/-! ### Elements of a tree -/

mutual

/-- The elements of a node in the order of the source: an element stands before its children, and
the main body of a block before its `else` body. -/
def Node.elements : Node → List Element
  | .element tag attributes children loc =>
    ⟨tag, attributes, children, loc⟩ :: nodesElements children
  | .block _ program (some inverse) _ => nodesElements program ++ nodesElements inverse
  | .block _ program none _ => nodesElements program
  | .literal _ => []
  | .mustache _ => []
  | .other => []

/-- The elements of some nodes in the order of the source. -/
def nodesElements : List Node → List Element
  | [] => []
  | n :: ns => n.elements ++ nodesElements ns

end

/-- The elements of a template in the order of the source. -/
def Template.elements (t : Template) : List Element :=
  nodesElements t.body

theorem nodesElements_eq_flatMap (ns : List Node) :
    nodesElements ns = ns.flatMap Node.elements := by
  induction ns with
  | nil => rfl
  | cons n ns ih => simp [nodesElements, ih]

end TemplateLint
