import TemplateLint.Json.Document
import TemplateLint.Template.Decode

/-!
# The used parts of a template's text

Which members of a template's text are used. A node, an attribute value or a part of one is used as
a whole, since its kind may be named after its other members; elsewhere members that are not
modelled are skipped.

## Main definitions

* `Template.outline`, `Element.outline`, `Attribute.outline`, `Span.outline`, …
-/

namespace TemplateLint

open Json (Outline)

/-- The used parts of a position. -/
def Position.outline : Outline := .record [("line", .whole), ("column", .whole)]

/-- The used parts of a span. -/
def Span.outline : Outline := .record [("start", Position.outline), ("end", Position.outline)]

/-- The used parts of literal text. -/
def Literal.outline : Outline := .record [("chars", .whole), ("loc", Span.outline)]

/-- The used parts of a path. -/
def Path.outline : Outline := .record [("original", .whole)]

/-- The used parts of an interpolation. -/
def Mustache.outline : Outline := .record [("path", Path.outline), ("loc", Span.outline)]

/-- The used parts of a mixed value. -/
def Concat.outline : Outline := .record [("parts", .whole), ("loc", Span.outline)]

/-- The used parts of an attribute. -/
def Attribute.outline : Outline :=
  .record [("name", .whole), ("value", .whole), ("loc", Span.outline)]

/-- The used parts of an element. -/
def Element.outline : Outline :=
  .record [("tag", .whole), ("attributes", .list Attribute.outline), ("children", .whole),
    ("loc", Span.outline)]

/-- The used parts of the body of a block. -/
def bodyOutline : Outline := .record [("body", .whole)]

/-- The used parts of a block. -/
def Block.outline : Outline :=
  .record [("path", Path.outline), ("program", bodyOutline), ("inverse", bodyOutline),
    ("loc", Span.outline)]

/-- The used parts of a template. -/
def Template.outline : Outline := .record [("body", .whole)]

end TemplateLint
