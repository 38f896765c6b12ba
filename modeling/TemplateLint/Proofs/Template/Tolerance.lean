import Mathlib.Logic.Relation
import TemplateLint.Proofs.Template.Revision
import TemplateLint.Template.Encode

/-!
# Data that a template does not use

The data of a template may say more than is read of it: an object may have members that no field is
called after, and a node, a value or a part may be of a kind that is not modelled. Such members have
no effect, wherever they are added. Data of an unknown kind is read as unknown, whatever else is
written there, and everything around it is read as before.

## Main definitions

* `Kind.Grown`, `Template.Grows`: an object has one more member that means nothing there

## Main statements

* `Kind.decode_of_isUnknownTag`: data with an unknown tag is read as unknown
* `Template.decode_tolerant`: further members anywhere, and data with unknown tags anywhere
-/

namespace TemplateLint

open Json (Carries MemberAdded ItemRevised IsUnknownTag WithTag valuesOf valuesOf_insert tagName
  variantOf_of_isUnknownTag tagged_obj_of_none)

variable {k : Kind} {j j' v v' : Json}

/-- An object has one more member that means nothing there: no field of the record is called after
it, or the tag of the object is not known and the member is not a tag. -/
inductive Kind.Grown (k : Kind) : (j j' : Json) → Prop
  | record {r : Json.Record} {name : String} {j j' : Json} (hr : k.record? = some r)
      (hname : name ∉ r.fields) (h : MemberAdded name j j') : Grown k j j'
  | tagged {other : k.Carrier} {members : List (String × Json)} {tag j' : Json} {name : String}
      (hother : k.other? = some other) (htag : valuesOf tagName members = [tag])
      (hunknown : IsUnknownTag k.variants k.place tag) (hname : name ≠ tagName)
      (h : MemberAdded name (.obj members) j') : Grown k (.obj members) j'

/-- The data of a template grows by one member that means nothing where it is added. -/
def Template.Grows (j j' : Json) : Prop :=
  ∃ (k : Kind) (s : Site .template k) (v v' : Json), s.Revised j j' v v' ∧ k.Grown v v'

/-- Data with an unknown tag is read as unknown, whatever else is written there. -/
theorem Kind.decode_of_isUnknownTag {other : k.Carrier} (hother : k.other? = some other)
    {members : List (String × Json)} {tag : Json} (htag : valuesOf tagName members = [tag])
    (hunknown : IsUnknownTag k.variants k.place tag) : k.decode (.obj members) = .ok other := by
  cases k with
  | node place =>
      cases hother
      show Node.decode place (.obj members) = .ok .other
      rw [Node.decode_eq]
      exact tagged_obj_of_none htag (variantOf_of_isUnknownTag hunknown) "Node" .other
  | value =>
      cases hother
      exact tagged_obj_of_none htag (variantOf_of_isUnknownTag hunknown) "AttrValue" .unknown
  | part =>
      cases hother
      exact tagged_obj_of_none htag (variantOf_of_isUnknownTag hunknown) "ConcatPart" .unknown
  | _ => cases hother

/-- A further member has no effect on what is read of an object. -/
theorem Kind.carries_of_grown (h : k.Grown v v') : Carries id (k.decode v) (k.decode v') := by
  cases h with
  | record hr hname h => exact Kind.carries_of_memberAdded hr hname h
  | @tagged other members tag j' name hother htag hunknown hname h =>
      cases h with
      | intro before after value =>
          intro a ha
          -- The tag is still the only one, so both objects are read as unknown.
          have htag' : valuesOf tagName (before ++ (name, value) :: after) = [tag] := by
            rw [valuesOf_insert hname.symm, htag]
          rw [Kind.decode_of_isUnknownTag hother htag hunknown] at ha
          cases ha
          exact Kind.decode_of_isUnknownTag hother htag' hunknown

/-- A template is read from grown data as before. -/
theorem Template.decode_of_grows {t : Template} (ht : Template.decode j = .ok t)
    (h : Template.Grows j j') : Template.decode j' = .ok t := by
  obtain ⟨k, s, v, v', hs, hv⟩ := h
  have hcarries := s.carries hs (Kind.carries_of_grown hv) t ht
  rwa [s.modify_id] at hcarries

/-- **Data that a template does not use has no effect.**  Any number of members may be added to
objects of the data, when they mean nothing there. And in the place of any node, value or part there
may stand an object with a tag that is not known: then something unknown is read there, whatever the
other members are, and everything else is read as before. -/
theorem Template.decode_tolerant {t : Template} (ht : Template.decode j = .ok t) :
    (∀ j', Relation.ReflTransGen Template.Grows j j' → Template.decode j' = .ok t) ∧
      ∀ (k : Kind) (s : Site .template k) (other : k.Carrier) (j' v tag : Json)
        (members : List (String × Json)), k.other? = some other → s.Revised j j' v (.obj members) →
        valuesOf tagName members = [tag] → IsUnknownTag k.variants k.place tag →
        Template.decode j' = .ok (s.modify (fun _ => other) t) := by
  constructor
  · intro j' h
    induction h with
    | refl => exact ht
    | tail _ h ih => exact Template.decode_of_grows ih h
  · intro k s other j' v tag members hother hs htag hunknown
    have hv : Carries (fun _ => other) (k.decode v) (k.decode (.obj members)) := fun _ _ =>
      Kind.decode_of_isUnknownTag hother htag hunknown
    exact s.carries hs hv t ht

/-! ### A paragraph -/

/-- The data of a paragraph whose class has one part, perhaps with further members. -/
def paragraphFields (more : List (String × Json)) (part : Json) : Json :=
  .obj (("tag", .str "p") ::
    ("attributes", .arr [.obj [("name", .str "class"),
      ("value", withKind "ConcatStatement" (.obj [("parts", .arr [part])]))]]) :: more)

/-- The data of a template with such a paragraph. -/
def paragraphData (more : List (String × Json)) (part : Json) : Json :=
  .obj [("body", .arr [withKind "ElementNode" (paragraphFields more part)])]

/-- A template with a paragraph whose class has one part. -/
def paragraph (part : Part) : Template :=
  ⟨[.element "p" [⟨"class", .concat ⟨[part], Span.unknown⟩, Span.unknown⟩] [] Span.unknown]⟩

theorem decode_paragraphData :
    Template.decode (paragraphData [] (withKind "TextNode" (.obj [("chars", .str "a")]))) =
      .ok (paragraph (.literal ⟨"a", Span.unknown⟩)) := rfl

/-- The site of the paragraph. -/
def paragraphSite : Site .template .element :=
  .field .statements <| .item 0 <| .variant (.element .plain) .here

theorem paragraphSite_revised (part : Json) :
    paragraphSite.Revised (paragraphData [] part) (paragraphData [("blockParams", .arr [])] part)
      (paragraphFields [] part) (paragraphFields [("blockParams", .arr [])] part) :=
  ⟨_, _, ⟨_, rfl, .member [] [] _ _⟩, _, _, @ItemRevised.intro 0 [] rfl [] _ _, _, _,
    ⟨_, .name, @WithTag.member _ [] _ rfl, @WithTag.member _ [] _ rfl⟩, rfl, rfl⟩

/-- The site of the part of its class. -/
def partSite : Site .template .part :=
  .field .statements <| .item 0 <| .variant (.element .plain) <| .field .attributes <| .item 0 <|
    .field .value <| .variant .valueConcat <| .field .parts <| .item 0 .here

theorem partSite_revised (part part' : Json) :
    partSite.Revised (paragraphData [] part) (paragraphData [] part') part part' :=
  ⟨_, _, ⟨_, rfl, .member [] [] _ _⟩, _, _, @ItemRevised.intro 0 [] rfl [] _ _, _, _,
    ⟨_, .name, @WithTag.member _ [] _ rfl, @WithTag.member _ [] _ rfl⟩, _, _,
    ⟨_, rfl, .member [_] [] _ _⟩, _, _, @ItemRevised.intro 0 [] rfl [] _ _, _, _,
    ⟨_, rfl, .member [_] [] _ _⟩, _, _,
    ⟨_, .name, @WithTag.member _ [] _ rfl, @WithTag.member _ [] _ rfl⟩, _, _,
    ⟨_, rfl, .member [] [] _ _⟩, _, _, @ItemRevised.intro 0 [] rfl [] _ _, rfl, rfl⟩

theorem grows_paragraphData (part : Json) :
    Template.Grows (paragraphData [] part) (paragraphData [("blockParams", .arr [])] part) := by
  refine ⟨.element, paragraphSite, _, _, paragraphSite_revised part, ?_⟩
  exact .record rfl (by decide) (.intro [_, _] [] _)

theorem decode_tolerant_paragraph :
    Template.decode (paragraphData [] (withKind "TextNode" (.obj [("chars", .str "a")]))) =
        .ok (paragraph (.literal ⟨"a", Span.unknown⟩)) ∧
      Template.decode (paragraphData [("blockParams", .arr [])]
          (withKind "TextNode" (.obj [("chars", .str "a")]))) =
        .ok (paragraph (.literal ⟨"a", Span.unknown⟩)) ∧
      Template.decode (paragraphData [] (withKind "SubExpression" (.obj [("params", .null)]))) =
        .ok (paragraph .unknown) := by
  obtain ⟨hgrown, hreplaced⟩ := Template.decode_tolerant decode_paragraphData
  refine ⟨decode_paragraphData, hgrown _ (.single (grows_paragraphData _)), ?_⟩
  exact hreplaced .part partSite Part.unknown _ _ (.str "SubExpression") _ rfl
    (partSite_revised _ _) rfl (.name (by decide))

end TemplateLint
