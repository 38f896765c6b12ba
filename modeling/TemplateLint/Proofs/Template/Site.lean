import TemplateLint.Proofs.Json.Revision
import TemplateLint.Proofs.Template.Nesting

/-!
# Sites in the data of a template

The data of a template is nested: data of one kind is written in the fields of data of another kind,
and some of it with a tag that says of which kind it is. A site is a way down through fields, items
of lists and tags to data of some kind. It leads down in a template as well as in its data, so that
what stands there can be changed in the one and replaced in the other.

## Main definitions

* `Kind`: the kinds of data, with what is read of each and how
* `Field`, `Variant`: the data that is written in a field, or with a tag
* `Site`: a way down to data of some kind
* `Site.modify`: a change of what is read at a site
* `Site.Revised`: the replacement of what is written at a site
-/

namespace TemplateLint

open Json (Place Record Decoder ItemRevised IsTag WithTag)

/-! ### Kinds of data -/

/-- A kind of data. Nodes stand at the top of a template or inside other nodes, and everything else
stands inside nodes. -/
inductive Kind where
  | template
  | node (place : Place)
  | element
  | block
  /-- The main body or the `else` body of a block. -/
  | body
  | attr
  | value
  | concat
  | part
  | literal
  | mustache
  | path
  | span
  | position
  | list (item : Kind)
  | nullable (item : Kind)
  deriving DecidableEq, Repr

namespace Kind

/-- What is read of data of a kind. -/
abbrev Carrier : Kind → Type
  | .template => Template
  | .node _ => Node
  | .element => Element
  | .block => Block
  | .body => List Node
  | .attr => Attribute
  | .value => Value
  | .concat => Concat
  | .part => Part
  | .literal => Literal
  | .mustache => Mustache
  | .path => Path
  | .span => Span
  | .position => Position
  | .list item => List item.Carrier
  | .nullable item => Option item.Carrier

/-- How data of a kind is read. -/
def decode : (k : Kind) → Decoder k.Carrier
  | .template => Template.decode
  | .node place => Node.decode place
  | .element => Element.decodeBy (Node.decode .tagged) .tagged
  | .block => Block.decodeBy (Node.decode .tagged) .tagged
  | .body => decodeBodyBy (Node.decode .tagged) .tagged
  | .attr => Attribute.decode .tagged
  | .value => Value.decode .tagged
  | .concat => Concat.decode .tagged
  | .part => Part.decode .tagged
  | .literal => Literal.decode .tagged
  | .mustache => Mustache.decode .tagged
  | .path => Path.decode .tagged
  | .span => Span.decode .tagged
  | .position => Position.decode .tagged
  | .list item => Json.list item.decode
  | .nullable item => Json.nullable item.decode

/-- The record as which data of a kind is written, if it is written as one. -/
def record? : Kind → Option Record
  | .template => some Template.record
  | .element => some Element.record
  | .block => some Block.record
  | .body => some bodyRecord
  | .attr => some Attribute.record
  | .concat => some Concat.record
  | .literal => some Literal.record
  | .mustache => some Mustache.record
  | .path => some Path.record
  | .span => some Span.record
  | .position => some Position.record
  | _ => none

/-- The names of the variants of a tagged kind. -/
def variants : Kind → List String
  | .node _ => (Node.variants (Node.decode .tagged)).map (·.1)
  | .value => Value.variants.map (·.1)
  | .part => Part.variants.map (·.1)
  | _ => []

/-- What a tagged kind is read as when its tag is not known. -/
def other? : (k : Kind) → Option k.Carrier
  | .node _ => some Node.other
  | .value => some Value.unknown
  | .part => some Part.unknown
  | _ => none

/-- Where data of a kind stands. -/
def place : Kind → Place
  | .template => .plain
  | .node place => place
  | _ => .tagged

end Kind

/-! ### Data inside data -/

/-- The data that is written in a field of a record. -/
inductive Field : Kind → Kind → Type
  | statements : Field .template (.list (.node .plain))
  | attributes : Field .element (.list .attr)
  | children : Field .element (.list (.node .tagged))
  | elementLoc : Field .element .span
  | blockPath : Field .block .path
  | program : Field .block .body
  | inverse : Field .block (.nullable .body)
  | blockLoc : Field .block .span
  | body : Field .body (.list (.node .tagged))
  | value : Field .attr .value
  | attrLoc : Field .attr .span
  | parts : Field .concat (.list .part)
  | concatLoc : Field .concat .span
  | literalLoc : Field .literal .span
  | mustachePath : Field .mustache .path
  | mustacheLoc : Field .mustache .span
  | start : Field .span .position
  | finish : Field .span .position

/-- The data that is left of tagged data without the tag. -/
inductive Variant : Kind → Kind → Type
  | element (place : Place) : Variant (.node place) .element
  | block (place : Place) : Variant (.node place) .block
  | literal (place : Place) : Variant (.node place) .literal
  | mustache (place : Place) : Variant (.node place) .mustache
  | valueLiteral : Variant .value .literal
  | valueMustache : Variant .value .mustache
  | valueConcat : Variant .value .concat
  | partLiteral : Variant .part .literal
  | partMustache : Variant .part .mustache

variable {k k' : Kind}

namespace Field

/-- The name of a field. -/
def name : Field k k' → String
  | .statements => "body"
  | .attributes => "attributes"
  | .children => "children"
  | .elementLoc => "loc"
  | .blockPath => "path"
  | .program => "program"
  | .inverse => "inverse"
  | .blockLoc => "loc"
  | .body => "body"
  | .value => "value"
  | .attrLoc => "loc"
  | .parts => "parts"
  | .concatLoc => "loc"
  | .literalLoc => "loc"
  | .mustachePath => "path"
  | .mustacheLoc => "loc"
  | .start => "start"
  | .finish => "end"

/-- Changes what is read of a field. -/
def modify : Field k k' → (k'.Carrier → k'.Carrier) → k.Carrier → k.Carrier
  | .statements, f, (t : Template) => { t with body := f t.body }
  | .attributes, f, (e : Element) => { e with attributes := f e.attributes }
  | .children, f, (e : Element) => { e with children := f e.children }
  | .elementLoc, f, (e : Element) => { e with loc := f e.loc }
  | .blockPath, f, (b : Block) => { b with path := f b.path }
  | .program, f, (b : Block) => { b with program := f b.program }
  | .inverse, f, (b : Block) => { b with inverse := f b.inverse }
  | .blockLoc, f, (b : Block) => { b with loc := f b.loc }
  | .body, f, (ns : List Node) => f ns
  | .value, f, (a : Attribute) => { a with value := f a.value }
  | .attrLoc, f, (a : Attribute) => { a with loc := f a.loc }
  | .parts, f, (c : Concat) => { c with parts := f c.parts }
  | .concatLoc, f, (c : Concat) => { c with loc := f c.loc }
  | .literalLoc, f, (t : Literal) => { t with loc := f t.loc }
  | .mustachePath, f, (m : Mustache) => { m with path := f m.path }
  | .mustacheLoc, f, (m : Mustache) => { m with loc := f m.loc }
  | .start, f, (l : Span) => { l with start := f l.start }
  | .finish, f, (l : Span) => { l with finish := f l.finish }

/-- What is written in a field is replaced. -/
def Revised (g : Field k k') (j j' v v' : Json) : Prop :=
  ∃ r, k.record? = some r ∧ r.FieldRevised g.name j j' v v'

end Field

namespace Variant

/-- The name of a variant. -/
def name : Variant k k' → String
  | .element _ => "ElementNode"
  | .block _ => "BlockStatement"
  | .literal _ => "TextNode"
  | .mustache _ => "MustacheStatement"
  | .valueLiteral => "TextNode"
  | .valueMustache => "MustacheStatement"
  | .valueConcat => "ConcatStatement"
  | .partLiteral => "TextNode"
  | .partMustache => "MustacheStatement"

/-- Changes what is read of a variant. -/
def modify : Variant k k' → (k'.Carrier → k'.Carrier) → k.Carrier → k.Carrier
  | .element _, f, .element tag attributes children loc =>
    (f ⟨tag, attributes, children, loc⟩).toNode
  | .block _, f, .block path program inverse loc => (f ⟨path, program, inverse, loc⟩).toNode
  | .literal _, f, .literal t => .literal (f t)
  | .mustache _, f, .mustache m => .mustache (f m)
  | .valueLiteral, f, .literal t => .literal (f t)
  | .valueMustache, f, .mustache m => .mustache (f m)
  | .valueConcat, f, .concat c => .concat (f c)
  | .partLiteral, f, .literal t => .literal (f t)
  | .partMustache, f, .mustache m => .mustache (f m)
  | _, _, a => a

/-- What is written with the tag of a variant is replaced. The tag stays, and it may stand anywhere
among the members of an object. -/
def Revised (c : Variant k k') (j j' v v' : Json) : Prop :=
  ∃ tag, IsTag k.variants k.place c.name tag ∧ WithTag tag v j ∧ WithTag tag v' j'

end Variant

/-- A way down to data of a kind. -/
inductive Site : Kind → Kind → Type
  | here {k : Kind} : Site k k
  | field {k k' k'' : Kind} (g : Field k k') (s : Site k' k'') : Site k k''
  | variant {k k' k'' : Kind} (c : Variant k k') (s : Site k' k'') : Site k k''
  /-- Down into an item of a list. -/
  | item {k k' : Kind} (i : Nat) (s : Site k k') : Site (.list k) k'
  /-- Down into an optional value that is there. -/
  | present {k k' : Kind} (s : Site k k') : Site (.nullable k) k'

namespace Site

/-- Changes what is read at a site and leaves everything else as it is. -/
def modify : {k k' : Kind} → Site k k' → (k'.Carrier → k'.Carrier) → k.Carrier → k.Carrier
  | _, _, .here, f => f
  | _, _, .field g s, f => g.modify (s.modify f)
  | _, _, .variant c s, f => c.modify (s.modify f)
  | _, _, .item i s, f => fun as => as.modify i (s.modify f)
  | _, _, .present s, f => Option.map (s.modify f)

/-- What is written at a site is replaced: in `j` there stands `v`, and in `j'` there stands `v'`
instead. -/
def Revised : {k k' : Kind} → Site k k' → (j j' v v' : Json) → Prop
  | _, _, .here, j, j', v, v' => v = j ∧ v' = j'
  | _, _, .field g s, j, j', v, v' => ∃ w w', g.Revised j j' w w' ∧ s.Revised w w' v v'
  | _, _, .variant c s, j, j', v, v' => ∃ w w', c.Revised j j' w w' ∧ s.Revised w w' v v'
  | _, _, .item i s, j, j', v, v' => ∃ w w', ItemRevised i j j' w w' ∧ s.Revised w w' v v'
  | _, _, .present s, j, j', v, v' => j ≠ .null ∧ j' ≠ .null ∧ s.Revised j j' v v'

end Site

end TemplateLint
