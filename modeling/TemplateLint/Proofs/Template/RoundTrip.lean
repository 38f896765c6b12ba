import TemplateLint.Proofs.Json.ReadsBack
import TemplateLint.Proofs.Template.Nesting
import TemplateLint.Template.Encode

/-!
# Templates written and read again

A template that is written as data is read back as it was: no member is missing, no tag is taken
for another one, and a block without an `else` body is told from one with an empty body. The data
may be kept as it was written or in its canonical form.

## Main statements

* `Node.readsBack`, `nodes_readsBack`: nodes, by recursion on the tree
* `Template.decode_rewritten`: templates, and whatever is read as a template
-/

namespace TemplateLint

open Json (Place Decoder ReadsBack readsBack_record readsBack_tagged readsBack_other readsBack_list
  readsBack_text)

variable (place : Place)

/-! ### Spans -/

theorem Position.readsBack (p : Position) : ReadsBack (Position.decode place) p.encode p := by
  refine readsBack_record ?_
  intro s hs
  have hline : s.required "line" Json.natural = .ok p.line :=
    hs.required rfl (Json.readsBack_natural _)
  have hcolumn : s.required "column" Json.natural = .ok p.column :=
    hs.required rfl (Json.readsBack_natural _)
  rw [hline, hcolumn]
  rfl

theorem Span.readsBack (l : Span) : ReadsBack (Span.decode place) l.encode l := by
  refine readsBack_record ?_
  intro s hs
  have hstart : s.required "start" (Position.decode place) = .ok l.start :=
    hs.required rfl (l.start.readsBack place)
  have hfinish : s.required "end" (Position.decode place) = .ok l.finish :=
    hs.required rfl (l.finish.readsBack place)
  rw [hstart, hfinish]
  rfl

/-! ### Values of attributes -/

theorem Literal.readsBack (t : Literal) : ReadsBack (Literal.decode place) t.encode t := by
  refine readsBack_record ?_
  intro s hs
  have hchars : s.required "chars" Json.text = .ok t.chars := hs.required rfl (readsBack_text _)
  have hloc : s.optional "loc" Span.unknown (Span.decode place) = .ok t.loc :=
    hs.optional rfl (t.loc.readsBack place) _
  rw [hchars, hloc]
  rfl

theorem Path.readsBack (p : Path) : ReadsBack (Path.decode place) p.encode p := by
  refine readsBack_record ?_
  intro s hs
  have horiginal : s.optional "original" "" Json.text = .ok p.original :=
    hs.optional rfl (readsBack_text _) _
  rw [horiginal]
  rfl

theorem Mustache.readsBack (m : Mustache) : ReadsBack (Mustache.decode place) m.encode m := by
  refine readsBack_record ?_
  intro s hs
  have hpath : s.optional "path" {} (Path.decode place) = .ok m.path :=
    hs.optional rfl (m.path.readsBack place) _
  have hloc : s.optional "loc" Span.unknown (Span.decode place) = .ok m.loc :=
    hs.optional rfl (m.loc.readsBack place) _
  rw [hpath, hloc]
  rfl

theorem Part.readsBack (p : Part) : ReadsBack (Part.decode place) p.encode p := by
  cases p with
  | literal t => exact readsBack_tagged rfl rfl ((t.readsBack .tagged).map Part.literal) _ _
  | mustache m => exact readsBack_tagged rfl rfl ((m.readsBack .tagged).map Part.mustache) _ _
  | unknown => exact readsBack_other rfl _ _

theorem Concat.readsBack (c : Concat) : ReadsBack (Concat.decode place) c.encode c := by
  refine readsBack_record ?_
  intro s hs
  have hparts : s.optional "parts" [] (Json.list (Part.decode place)) = .ok c.parts :=
    hs.optional rfl (readsBack_list (Part.readsBack place) c.parts) _
  have hloc : s.optional "loc" Span.unknown (Span.decode place) = .ok c.loc :=
    hs.optional rfl (c.loc.readsBack place) _
  rw [hparts, hloc]
  rfl

theorem Value.readsBack (v : Value) : ReadsBack (Value.decode place) v.encode v := by
  cases v with
  | literal t => exact readsBack_tagged rfl rfl ((t.readsBack .tagged).map Value.literal) _ _
  | mustache m => exact readsBack_tagged rfl rfl ((m.readsBack .tagged).map Value.mustache) _ _
  | concat c => exact readsBack_tagged rfl rfl ((c.readsBack .tagged).map Value.concat) _ _
  | unknown => exact readsBack_other rfl _ _

theorem Attribute.readsBack (a : Attribute) : ReadsBack (Attribute.decode place) a.encode a := by
  refine readsBack_record ?_
  intro s hs
  have hname : s.required "name" Json.text = .ok a.name := hs.required rfl (readsBack_text _)
  have hvalue : s.required "value" (Value.decode place) = .ok a.value :=
    hs.required rfl (a.value.readsBack place)
  have hloc : s.optional "loc" Span.unknown (Span.decode place) = .ok a.loc :=
    hs.optional rfl (a.loc.readsBack place) _
  rw [hname, hvalue, hloc]
  rfl

/-! ### Nodes -/

section

variable {node : Decoder Node}

theorem elementMembers_readsBack {encoded : List Json} {children : List Node}
    (h : ReadsBack (Json.list node) (.arr encoded) children) (tag : String)
    (attributes : List Attribute) (loc : Span) :
    ReadsBack (Element.decodeBy node place) (elementMembers tag attributes encoded loc)
      ⟨tag, attributes, children, loc⟩ := by
  refine readsBack_record ?_
  intro s hs
  have htag : s.required "tag" Json.text = .ok tag := hs.required rfl (readsBack_text _)
  have hattributes :
      s.optional "attributes" [] (Json.list (Attribute.decode place)) = .ok attributes :=
    hs.optional rfl (readsBack_list (Attribute.readsBack place) attributes) _
  have hchildren : s.optional "children" [] (Json.list node) = .ok children :=
    hs.optional rfl h _
  have hloc : s.optional "loc" Span.unknown (Span.decode place) = .ok loc :=
    hs.optional rfl (loc.readsBack place) _
  rw [htag, hattributes, hchildren, hloc]
  rfl

theorem bodyMembers_readsBack {encoded : List Json} {body : List Node}
    (h : ReadsBack (Json.list node) (.arr encoded) body) :
    ReadsBack (decodeBodyBy node place) (bodyMembers encoded) body := by
  refine readsBack_record ?_
  intro s hs
  exact hs.optional rfl h _

theorem blockMembers_readsBack {program inverse : Json} {body : List Node}
    {alternative : Option (List Node)}
    (hprogram : ReadsBack (decodeBodyBy node place) program body)
    (hinverse : ReadsBack (Json.nullable (decodeBodyBy node place)) inverse alternative)
    (path : Path) (loc : Span) :
    ReadsBack (Block.decodeBy node place) (blockMembers path program inverse loc)
      ⟨path, body, alternative, loc⟩ := by
  refine readsBack_record ?_
  intro s hs
  have hpath : s.optional "path" {} (Path.decode place) = .ok path :=
    hs.optional rfl (path.readsBack place) _
  have hbody : s.optional "program" [] (decodeBodyBy node place) = .ok body :=
    hs.optional rfl hprogram _
  have halternative :
      s.optional "inverse" none (Json.nullable (decodeBodyBy node place)) = .ok alternative :=
    hs.optional rfl hinverse _
  have hloc : s.optional "loc" Span.unknown (Span.decode place) = .ok loc :=
    hs.optional rfl (loc.readsBack place) _
  rw [hpath, hbody, halternative, hloc]
  rfl

end

mutual

/-- **A node that is written is read back.** -/
theorem Node.readsBack (place : Place) : (n : Node) → ReadsBack (Node.decode place) n.encode n
  | .element tag attributes children loc => by
      -- The children stand inside a tagged value, wherever the element stands.
      have hchildren := nodes_readsBack .tagged children
      have helement := elementMembers_readsBack .tagged hchildren tag attributes loc
      rw [Node.decode_eq]
      exact readsBack_tagged rfl rfl (helement.map Element.toNode) _ _
  | .block path program none loc => by
      have hprogram := bodyMembers_readsBack .tagged (nodes_readsBack .tagged program)
      have hblock := blockMembers_readsBack .tagged hprogram Json.readsBack_null path loc
      rw [Node.decode_eq]
      exact readsBack_tagged rfl rfl (hblock.map Block.toNode) _ _
  | .block path program (some inverse) loc => by
      have hprogram := bodyMembers_readsBack .tagged (nodes_readsBack .tagged program)
      have hinverse := bodyMembers_readsBack .tagged (nodes_readsBack .tagged inverse)
      have hblock :=
        blockMembers_readsBack .tagged hprogram (Json.readsBack_nullable hinverse) path loc
      rw [Node.decode_eq]
      exact readsBack_tagged rfl rfl (hblock.map Block.toNode) _ _
  | .literal t => by
      rw [Node.decode_eq]
      exact readsBack_tagged rfl rfl ((t.readsBack .tagged).map Node.literal) _ _
  | .mustache m => by
      rw [Node.decode_eq]
      exact readsBack_tagged rfl rfl ((m.readsBack .tagged).map Node.mustache) _ _
  | .other => by
      rw [Node.decode_eq]
      exact readsBack_other rfl _ _

/-- Nodes that are written are read back. -/
theorem nodes_readsBack (place : Place) :
    (ns : List Node) → ReadsBack (Json.list (Node.decode place)) (.arr (encodeNodes ns)) ns
  | [] => Json.readsBack_arr_nil
  | n :: ns => Json.readsBack_arr_cons (Node.readsBack place n) (nodes_readsBack place ns)

end

/-! ### Templates -/

theorem Template.readsBack (t : Template) : ReadsBack Template.decode t.encode t := by
  rw [Template.decode_eq]
  refine readsBack_record ?_
  intro s hs
  have hbody : s.optional "body" [] (Json.list (Node.decode .plain)) = .ok t.body :=
    hs.optional rfl (nodes_readsBack .plain t.body) _
  rw [hbody]
  rfl

/-- **A template that is written is read back**, as it is written and in its canonical form. So
what is read as a template, in whichever form and with whichever defaults left out, is read as the
same template when it has been written and read once more, and what is no template stays none. -/
theorem Template.decode_rewritten :
    (∀ t : Template,
      Template.decode t.encode = .ok t ∧ Template.decode t.encode.canonical = .ok t) ∧
    ∀ j : Json,
      ((Template.decode j).bind fun t => Template.decode t.encode.canonical) =
        Template.decode j := by
  constructor
  · intro t
    exact ⟨t.readsBack.written, t.readsBack.canonical⟩
  · intro j
    cases Template.decode j with
    | error e => rfl
    | ok t => exact t.readsBack.canonical

end TemplateLint
