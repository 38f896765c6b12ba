import TemplateLint.Proofs.Template.Site

/-!
# Revised data of a template

The data of a template is read field by field, item by item and variant by variant. So what is read
of it changes at one site, when other data is written there, and it does not change at all, when an
object has one more member that no field is called after.

## Main statements

* `Element.carries_of_field`, `Element.carries_of_memberAdded`, …: the records
* `Field.carries`, `Variant.carries`, `Site.carries`: what is written at a site is replaced
* `Kind.carries_of_memberAdded`: an object has one more member
-/

namespace TemplateLint

open Json (Carries Reading MemberAdded carries_list carries_nullable carries_of_fieldRevised
  carries_of_withTag variantOf_of_isTag)

variable {k k' : Kind} {j j' v v' : Json} {f : k'.Carrier → k'.Carrier} {name : String}

theorem Field.name_mem_fields (g : Field k k') {r : Json.Record} (hr : k.record? = some r) :
    g.name ∈ r.fields := by
  cases g <;> cases hr <;> decide

/-! ### Positions, spans and paths -/

theorem Position.carries_of_memberAdded (hname : name ∉ Position.record.fields)
    (h : MemberAdded name j j') :
    Carries id (Position.decode .tagged j) (Position.decode .tagged j') := by
  refine Json.carries_of_memberAdded hname h fun s s' hs => ?_
  exact Reading.carries_map₂ (hs "line" (by decide)).required (hs "column" (by decide)).required
    fun _ _ => rfl

theorem Span.carries_of_field (g : Field .span k') (h : Span.record.FieldRevised g.name j j' v v')
    (hv : Carries f (k'.decode v) (k'.decode v')) :
    Carries (g.modify f) (Span.decode .tagged j) (Span.decode .tagged j') := by
  refine carries_of_fieldRevised (g.name_mem_fields rfl) h fun s s' hs => ?_
  cases g with
  | start =>
      exact Reading.carries_map₂ (hs.required hv) (hs.sameAt "end" (by decide)).required
        fun _ _ => rfl
  | finish =>
      exact Reading.carries_map₂ (hs.sameAt "start" (by decide)).required (hs.required hv)
        fun _ _ => rfl

theorem Span.carries_of_memberAdded (hname : name ∉ Span.record.fields)
    (h : MemberAdded name j j') :
    Carries id (Span.decode .tagged j) (Span.decode .tagged j') := by
  refine Json.carries_of_memberAdded hname h fun s s' hs => ?_
  exact Reading.carries_map₂ (hs "start" (by decide)).required (hs "end" (by decide)).required
    fun _ _ => rfl

theorem Path.carries_of_memberAdded (hname : name ∉ Path.record.fields)
    (h : MemberAdded name j j') :
    Carries id (Path.decode .tagged j) (Path.decode .tagged j') := by
  refine Json.carries_of_memberAdded hname h fun s s' hs => ?_
  exact Reading.carries_map (hs "original" (by decide)).optional fun _ => rfl

/-! ### Values of attributes -/

theorem Literal.carries_of_field (g : Field .literal k')
    (h : Literal.record.FieldRevised g.name j j' v v')
    (hv : Carries f (k'.decode v) (k'.decode v')) :
    Carries (g.modify f) (Literal.decode .tagged j) (Literal.decode .tagged j') := by
  refine carries_of_fieldRevised (g.name_mem_fields rfl) h fun s s' hs => ?_
  cases g with
  | literalLoc =>
      exact Reading.carries_map₂ (hs.sameAt "chars" (by decide)).required (hs.optional hv)
        fun _ _ => rfl

theorem Literal.carries_of_memberAdded (hname : name ∉ Literal.record.fields)
    (h : MemberAdded name j j') :
    Carries id (Literal.decode .tagged j) (Literal.decode .tagged j') := by
  refine Json.carries_of_memberAdded hname h fun s s' hs => ?_
  exact Reading.carries_map₂ (hs "chars" (by decide)).required (hs "loc" (by decide)).optional
    fun _ _ => rfl

theorem Mustache.carries_of_field (g : Field .mustache k')
    (h : Mustache.record.FieldRevised g.name j j' v v')
    (hv : Carries f (k'.decode v) (k'.decode v')) :
    Carries (g.modify f) (Mustache.decode .tagged j) (Mustache.decode .tagged j') := by
  refine carries_of_fieldRevised (g.name_mem_fields rfl) h fun s s' hs => ?_
  cases g with
  | mustachePath =>
      exact Reading.carries_map₂ (hs.optional hv) (hs.sameAt "loc" (by decide)).optional
        fun _ _ => rfl
  | mustacheLoc =>
      exact Reading.carries_map₂ (hs.sameAt "path" (by decide)).optional (hs.optional hv)
        fun _ _ => rfl

theorem Mustache.carries_of_memberAdded (hname : name ∉ Mustache.record.fields)
    (h : MemberAdded name j j') :
    Carries id (Mustache.decode .tagged j) (Mustache.decode .tagged j') := by
  refine Json.carries_of_memberAdded hname h fun s s' hs => ?_
  exact Reading.carries_map₂ (hs "path" (by decide)).optional (hs "loc" (by decide)).optional
    fun _ _ => rfl

theorem Concat.carries_of_field (g : Field .concat k')
    (h : Concat.record.FieldRevised g.name j j' v v')
    (hv : Carries f (k'.decode v) (k'.decode v')) :
    Carries (g.modify f) (Concat.decode .tagged j) (Concat.decode .tagged j') := by
  refine carries_of_fieldRevised (g.name_mem_fields rfl) h fun s s' hs => ?_
  cases g with
  | parts =>
      exact Reading.carries_map₂ (hs.optional hv) (hs.sameAt "loc" (by decide)).optional
        fun _ _ => rfl
  | concatLoc =>
      exact Reading.carries_map₂ (hs.sameAt "parts" (by decide)).optional (hs.optional hv)
        fun _ _ => rfl

theorem Concat.carries_of_memberAdded (hname : name ∉ Concat.record.fields)
    (h : MemberAdded name j j') :
    Carries id (Concat.decode .tagged j) (Concat.decode .tagged j') := by
  refine Json.carries_of_memberAdded hname h fun s s' hs => ?_
  exact Reading.carries_map₂ (hs "parts" (by decide)).optional (hs "loc" (by decide)).optional
    fun _ _ => rfl

theorem Attribute.carries_of_field (g : Field .attr k')
    (h : Attribute.record.FieldRevised g.name j j' v v')
    (hv : Carries f (k'.decode v) (k'.decode v')) :
    Carries (g.modify f) (Attribute.decode .tagged j) (Attribute.decode .tagged j') := by
  refine carries_of_fieldRevised (g.name_mem_fields rfl) h fun s s' hs => ?_
  cases g with
  | value =>
      exact Reading.carries_map₃ (hs.sameAt "name" (by decide)).required (hs.required hv)
        (hs.sameAt "loc" (by decide)).optional fun _ _ _ => rfl
  | attrLoc =>
      exact Reading.carries_map₃ (hs.sameAt "name" (by decide)).required
        (hs.sameAt "value" (by decide)).required (hs.optional hv) fun _ _ _ => rfl

theorem Attribute.carries_of_memberAdded (hname : name ∉ Attribute.record.fields)
    (h : MemberAdded name j j') :
    Carries id (Attribute.decode .tagged j) (Attribute.decode .tagged j') := by
  refine Json.carries_of_memberAdded hname h fun s s' hs => ?_
  exact Reading.carries_map₃ (hs "name" (by decide)).required (hs "value" (by decide)).required
    (hs "loc" (by decide)).optional fun _ _ _ => rfl

/-! ### Nodes -/

theorem Element.carries_of_field (g : Field .element k')
    (h : Element.record.FieldRevised g.name j j' v v')
    (hv : Carries f (k'.decode v) (k'.decode v')) :
    Carries (g.modify f) (Element.decodeBy (Node.decode .tagged) .tagged j)
      (Element.decodeBy (Node.decode .tagged) .tagged j') := by
  refine carries_of_fieldRevised (g.name_mem_fields rfl) h fun s s' hs => ?_
  cases g with
  | attributes =>
      exact Reading.carries_map₄ (hs.sameAt "tag" (by decide)).required (hs.optional hv)
        (hs.sameAt "children" (by decide)).optional (hs.sameAt "loc" (by decide)).optional
        fun _ _ _ _ => rfl
  | children =>
      exact Reading.carries_map₄ (hs.sameAt "tag" (by decide)).required
        (hs.sameAt "attributes" (by decide)).optional (hs.optional hv)
        (hs.sameAt "loc" (by decide)).optional fun _ _ _ _ => rfl
  | elementLoc =>
      exact Reading.carries_map₄ (hs.sameAt "tag" (by decide)).required
        (hs.sameAt "attributes" (by decide)).optional (hs.sameAt "children" (by decide)).optional
        (hs.optional hv) fun _ _ _ _ => rfl

theorem Element.carries_of_memberAdded (hname : name ∉ Element.record.fields)
    (h : MemberAdded name j j') :
    Carries id (Element.decodeBy (Node.decode .tagged) .tagged j)
      (Element.decodeBy (Node.decode .tagged) .tagged j') := by
  refine Json.carries_of_memberAdded hname h fun s s' hs => ?_
  exact Reading.carries_map₄ (hs "tag" (by decide)).required (hs "attributes" (by decide)).optional
    (hs "children" (by decide)).optional (hs "loc" (by decide)).optional fun _ _ _ _ => rfl

theorem carries_of_bodyField (g : Field .body k') (h : bodyRecord.FieldRevised g.name j j' v v')
    (hv : Carries f (k'.decode v) (k'.decode v')) :
    Carries (g.modify f) (decodeBodyBy (Node.decode .tagged) .tagged j)
      (decodeBodyBy (Node.decode .tagged) .tagged j') := by
  refine carries_of_fieldRevised (g.name_mem_fields rfl) h fun s s' hs => ?_
  cases g with
  | body => exact hs.optional hv

theorem carries_of_bodyMemberAdded (hname : name ∉ bodyRecord.fields)
    (h : MemberAdded name j j') :
    Carries id (decodeBodyBy (Node.decode .tagged) .tagged j)
      (decodeBodyBy (Node.decode .tagged) .tagged j') :=
  Json.carries_of_memberAdded hname h fun s s' hs => (hs "body" (by decide)).optional

theorem Block.carries_of_field (g : Field .block k')
    (h : Block.record.FieldRevised g.name j j' v v')
    (hv : Carries f (k'.decode v) (k'.decode v')) :
    Carries (g.modify f) (Block.decodeBy (Node.decode .tagged) .tagged j)
      (Block.decodeBy (Node.decode .tagged) .tagged j') := by
  refine carries_of_fieldRevised (g.name_mem_fields rfl) h fun s s' hs => ?_
  cases g with
  | blockPath =>
      exact Reading.carries_map₄ (hs.optional hv) (hs.sameAt "program" (by decide)).optional
        (hs.sameAt "inverse" (by decide)).optional (hs.sameAt "loc" (by decide)).optional
        fun _ _ _ _ => rfl
  | program =>
      exact Reading.carries_map₄ (hs.sameAt "path" (by decide)).optional (hs.optional hv)
        (hs.sameAt "inverse" (by decide)).optional (hs.sameAt "loc" (by decide)).optional
        fun _ _ _ _ => rfl
  | inverse =>
      exact Reading.carries_map₄ (hs.sameAt "path" (by decide)).optional
        (hs.sameAt "program" (by decide)).optional (hs.optional hv)
        (hs.sameAt "loc" (by decide)).optional fun _ _ _ _ => rfl
  | blockLoc =>
      exact Reading.carries_map₄ (hs.sameAt "path" (by decide)).optional
        (hs.sameAt "program" (by decide)).optional (hs.sameAt "inverse" (by decide)).optional
        (hs.optional hv) fun _ _ _ _ => rfl

theorem Block.carries_of_memberAdded (hname : name ∉ Block.record.fields)
    (h : MemberAdded name j j') :
    Carries id (Block.decodeBy (Node.decode .tagged) .tagged j)
      (Block.decodeBy (Node.decode .tagged) .tagged j') := by
  refine Json.carries_of_memberAdded hname h fun s s' hs => ?_
  exact Reading.carries_map₄ (hs "path" (by decide)).optional (hs "program" (by decide)).optional
    (hs "inverse" (by decide)).optional (hs "loc" (by decide)).optional fun _ _ _ _ => rfl

theorem Template.carries_of_field (g : Field .template k')
    (h : Template.record.FieldRevised g.name j j' v v')
    (hv : Carries f (k'.decode v) (k'.decode v')) :
    Carries (g.modify f) (Template.decode j) (Template.decode j') := by
  rw [Template.decode_eq]
  refine carries_of_fieldRevised (g.name_mem_fields rfl) h fun s s' hs => ?_
  cases g with
  | statements => exact Reading.carries_map (hs.optional hv) fun _ => rfl

theorem Template.carries_of_memberAdded (hname : name ∉ Template.record.fields)
    (h : MemberAdded name j j') : Carries id (Template.decode j) (Template.decode j') := by
  rw [Template.decode_eq]
  refine Json.carries_of_memberAdded hname h fun s s' hs => ?_
  exact Reading.carries_map (hs "body" (by decide)).optional fun _ => rfl

/-! ### Any kind of data -/

/-- What is written in a field is replaced. -/
theorem Field.carries (g : Field k k') (h : g.Revised j j' v v')
    (hv : Carries f (k'.decode v) (k'.decode v')) :
    Carries (g.modify f) (k.decode j) (k.decode j') := by
  obtain ⟨r, hr, h⟩ := h
  cases k with
  | template =>
      cases hr
      exact Template.carries_of_field g h hv
  | element =>
      cases hr
      exact Element.carries_of_field g h hv
  | block =>
      cases hr
      exact Block.carries_of_field g h hv
  | body =>
      cases hr
      exact carries_of_bodyField g h hv
  | attr =>
      cases hr
      exact Attribute.carries_of_field g h hv
  | concat =>
      cases hr
      exact Concat.carries_of_field g h hv
  | literal =>
      cases hr
      exact Literal.carries_of_field g h hv
  | mustache =>
      cases hr
      exact Mustache.carries_of_field g h hv
  | span =>
      cases hr
      exact Span.carries_of_field g h hv
  | _ => nomatch g

/-- An object has one more member. -/
theorem Kind.carries_of_memberAdded {r : Json.Record} (hr : k.record? = some r)
    (hname : name ∉ r.fields) (h : MemberAdded name j j') :
    Carries id (k.decode j) (k.decode j') := by
  cases k with
  | template =>
      cases hr
      exact Template.carries_of_memberAdded hname h
  | element =>
      cases hr
      exact Element.carries_of_memberAdded hname h
  | block =>
      cases hr
      exact Block.carries_of_memberAdded hname h
  | body =>
      cases hr
      exact carries_of_bodyMemberAdded hname h
  | attr =>
      cases hr
      exact Attribute.carries_of_memberAdded hname h
  | concat =>
      cases hr
      exact Concat.carries_of_memberAdded hname h
  | literal =>
      cases hr
      exact Literal.carries_of_memberAdded hname h
  | mustache =>
      cases hr
      exact Mustache.carries_of_memberAdded hname h
  | path =>
      cases hr
      exact Path.carries_of_memberAdded hname h
  | span =>
      cases hr
      exact Span.carries_of_memberAdded hname h
  | position =>
      cases hr
      exact Position.carries_of_memberAdded hname h
  | _ => cases hr

/-- What is written with a tag is replaced. -/
theorem Variant.carries (c : Variant k k') (h : c.Revised j j' v v')
    (hv : Carries f (k'.decode v) (k'.decode v')) :
    Carries (c.modify f) (k.decode j) (k.decode j') := by
  obtain ⟨tag, htag, hj, hj'⟩ := h
  cases c with
  | element | block | literal | mustache =>
      show Carries _ (Node.decode _ j) (Node.decode _ j')
      rw [Node.decode_eq]
      refine carries_of_withTag hj hj' (variantOf_of_isTag htag) _ _ ?_
      exact hv.map fun _ => rfl
  | valueLiteral | valueMustache | valueConcat | partLiteral | partMustache =>
      refine carries_of_withTag hj hj' (variantOf_of_isTag htag) _ _ ?_
      exact hv.map fun _ => rfl

/-- **What is written at a site is replaced.**  What is read of the whole changes at that site, as
what is read there does, and nowhere else. -/
theorem Site.carries (s : Site k k') (h : s.Revised j j' v v')
    (hv : Carries f (k'.decode v) (k'.decode v')) :
    Carries (s.modify f) (k.decode j) (k.decode j') := by
  induction s generalizing j j' with
  | here =>
      obtain ⟨rfl, rfl⟩ := h
      exact hv
  | field g s ih =>
      obtain ⟨w, w', hg, hs⟩ := h
      exact g.carries hg (ih hs hv)
  | variant c s ih =>
      obtain ⟨w, w', hc, hs⟩ := h
      exact c.carries hc (ih hs hv)
  | item i s ih =>
      obtain ⟨w, w', hi, hs⟩ := h
      exact carries_list hi (ih hs hv)
  | present s ih =>
      obtain ⟨hne, hne', hs⟩ := h
      exact carries_nullable hne hne' (ih hs hv)

theorem Field.modify_id (g : Field k k') : g.modify id = id := by
  cases g <;> rfl

theorem Variant.modify_id (c : Variant k k') : c.modify id = id := by
  funext a
  cases c <;> cases a <;> rfl

/-- What is read is the same when what is read at a site is. -/
theorem Site.modify_id (s : Site k k') : s.modify id = id := by
  induction s with
  | here => rfl
  | field g s ih => rw [modify, ih, g.modify_id]
  | variant c s ih => rw [modify, ih, c.modify_id]
  | item i s ih =>
      funext as
      rw [modify, ih]
      exact List.modify_id i as
  | present s ih => rw [modify, ih, Option.map_id]

end TemplateLint
