import TemplateLint.Template.Basic

/-!
# Templates from data

A template is read from the tree that a parser of templates writes. Members that are not modelled
are ignored, and nodes, values and parts of a kind that is not modelled are read as unknown ones.

Nodes are nested, and a node is read with a bound on the nesting of its data. The depth of the data
itself is always enough.

## Main definitions

* `Node.decodeWithin`: a node whose data is nested no deeper than a bound
* `Template.decode`, `Node.decode`, `Element.decode`, `Attribute.decode`, `Value.decode`, …
-/

namespace TemplateLint

open Json (Place Record Decoder)

/-! ### Values of attributes -/

/-- The fields of literal text. -/
def Literal.record : Record := ⟨"TextNode", ["chars", "loc"]⟩

/-- Reads literal text. -/
def Literal.decode (place : Place) : Decoder Literal :=
  Literal.record.decode place fun s =>
    Literal.mk <$> s.required "chars" Json.text
      <*> s.optional "loc" Span.unknown (Span.decode place)

/-- The fields of a path. -/
def Path.record : Record := ⟨"PathExpression", ["original"]⟩

/-- Reads a path. -/
def Path.decode (place : Place) : Decoder Path :=
  Path.record.decode place fun s => Path.mk <$> s.optional "original" "" Json.text

/-- The fields of an interpolation. -/
def Mustache.record : Record := ⟨"MustacheStatement", ["path", "loc"]⟩

/-- Reads an interpolation. -/
def Mustache.decode (place : Place) : Decoder Mustache :=
  Mustache.record.decode place fun s =>
    Mustache.mk <$> s.optional "path" {} (Path.decode place)
      <*> s.optional "loc" Span.unknown (Span.decode place)

/-- The kinds of parts. -/
def Part.variants : List (String × Decoder Part) :=
  [("TextNode", fun j => (Literal.decode .tagged j).map .literal),
    ("MustacheStatement", fun j => (Mustache.decode .tagged j).map .mustache)]

/-- Reads a part of a mixed value. -/
def Part.decode (place : Place) : Decoder Part :=
  Json.tagged "ConcatPart" Part.variants .unknown place

/-- The fields of a mixed value. -/
def Concat.record : Record := ⟨"ConcatStatement", ["parts", "loc"]⟩

/-- Reads a mixed value. -/
def Concat.decode (place : Place) : Decoder Concat :=
  Concat.record.decode place fun s =>
    Concat.mk <$> s.optional "parts" [] (Json.list (Part.decode place))
      <*> s.optional "loc" Span.unknown (Span.decode place)

/-- The kinds of attribute values. -/
def Value.variants : List (String × Decoder Value) :=
  [("TextNode", fun j => (Literal.decode .tagged j).map .literal),
    ("MustacheStatement", fun j => (Mustache.decode .tagged j).map .mustache),
    ("ConcatStatement", fun j => (Concat.decode .tagged j).map .concat)]

/-- Reads the value of an attribute. -/
def Value.decode (place : Place) : Decoder Value :=
  Json.tagged "AttrValue" Value.variants .unknown place

/-- The fields of an attribute. -/
def Attribute.record : Record := ⟨"AttrNode", ["name", "value", "loc"]⟩

/-- Reads an attribute. -/
def Attribute.decode (place : Place) : Decoder Attribute :=
  Attribute.record.decode place fun s =>
    Attribute.mk <$> s.required "name" Json.text <*> s.required "value" (Value.decode place)
      <*> s.optional "loc" Span.unknown (Span.decode place)

/-! ### Nodes -/

/-- The fields of an element. -/
def Element.record : Record := ⟨"ElementNode", ["tag", "attributes", "children", "loc"]⟩

/-- Reads an element, given how nodes are read. -/
def Element.decodeBy (node : Decoder Node) (place : Place) : Decoder Element :=
  Element.record.decode place fun s =>
    Element.mk <$> s.required "tag" Json.text
      <*> s.optional "attributes" [] (Json.list (Attribute.decode place))
      <*> s.optional "children" [] (Json.list node)
      <*> s.optional "loc" Span.unknown (Span.decode place)

/-- The fields of the body of a block. -/
def bodyRecord : Record := ⟨"Block", ["body"]⟩

/-- Reads the body of a block, given how nodes are read. -/
def decodeBodyBy (node : Decoder Node) (place : Place) : Decoder (List Node) :=
  bodyRecord.decode place fun s => s.optional "body" [] (Json.list node)

/-- The fields of a block. -/
def Block.record : Record := ⟨"BlockStatement", ["path", "program", "inverse", "loc"]⟩

/-- Reads a block, given how nodes are read. -/
def Block.decodeBy (node : Decoder Node) (place : Place) : Decoder Block :=
  Block.record.decode place fun s =>
    Block.mk <$> s.optional "path" {} (Path.decode place)
      <*> s.optional "program" [] (decodeBodyBy node place)
      <*> s.optional "inverse" none (Json.nullable (decodeBodyBy node place))
      <*> s.optional "loc" Span.unknown (Span.decode place)

/-- The kinds of nodes, given how the nodes inside a node are read. -/
def Node.variants (node : Decoder Node) : List (String × Decoder Node) :=
  [("ElementNode", fun j => (Element.decodeBy node .tagged j).map Element.toNode),
    ("BlockStatement", fun j => (Block.decodeBy node .tagged j).map Block.toNode),
    ("TextNode", fun j => (Literal.decode .tagged j).map .literal),
    ("MustacheStatement", fun j => (Mustache.decode .tagged j).map .mustache)]

/-- Reads a node, given how the nodes inside it are read. -/
def Node.decodeBy (node : Decoder Node) (place : Place) : Decoder Node :=
  Json.tagged "Node" (Node.variants node) .other place

/-- Reads a node from data that is nested at most `bound` deep. Data that is not nested at all is
no node. The nodes inside a node stand inside a tagged value. -/
def Node.decodeWithin (place : Place) : Nat → Decoder Node
  | 0 => fun j => .error (.wrongType j "internally tagged enum Node")
  | bound + 1 => Node.decodeBy (Node.decodeWithin .tagged bound) place

/-- Reads a node. -/
def Node.decode (place : Place) : Decoder Node :=
  fun j => Node.decodeWithin place j.depth j

/-- Reads an element. -/
def Element.decode (place : Place) : Decoder Element :=
  fun j => Element.decodeBy (Node.decodeWithin place j.depth) place j

/-- Reads a block. -/
def Block.decode (place : Place) : Decoder Block :=
  fun j => Block.decodeBy (Node.decodeWithin place j.depth) place j

/-- Reads the body of a block. -/
def decodeBody (place : Place) : Decoder (List Node) :=
  fun j => decodeBodyBy (Node.decodeWithin place j.depth) place j

/-- The fields of a template. -/
def Template.record : Record := ⟨"Template", ["body"]⟩

/-- Reads a template. -/
def Template.decode : Decoder Template :=
  fun j =>
    let node := Node.decodeWithin .plain j.depth
    Template.record.decode .plain
      (fun s => Template.mk <$> s.optional "body" [] (Json.list node)) j

end TemplateLint
