import TemplateLint.Denylist.Rule
import TemplateLint.Proofs.Linter.Order
import TemplateLint.Proofs.Template.Rearrangement

/-!
# The order of attributes does not matter

The rule of a denylist goes through its own entries and asks the element for the attribute of each
of them. What it reports, the span of it and the order depend on the entries and on the answers, not
on where the attributes stand or what else has their names. So rearranged attributes are reported
alike, and the sort by start gets the same diagnostics in the same order, ties included.

## Main statements

* `Denylist.visit_eq_of_sameByName`: the rule sees of an element what it shows under each name
* `Denylist.lint_eq_of_rearrangements`: rearranging attributes changes no finding
-/

namespace TemplateLint.Denylist

variable {e e' : Element}

/-- An entry is offended by what the element shows under its name. -/
theorem Entry.offences_eq_of_sameByName (h : e.SameByName e') (entry : Entry) :
    entry.offences e = entry.offences e' := by
  unfold Entry.offences
  rw [h.attribute?_eq entry.name]

theorem offences_eq_of_sameByName (h : e.SameByName e') (d : Denylist) :
    d.offences e = d.offences e' := by
  unfold offences
  simp only [Entry.offences_eq_of_sameByName h]

/-- **The rule sees no more of an element than what it shows under each name**, beside the tag and
the place of the element: neither in what it reports nor in what it says in the log. -/
theorem visit_eq_of_sameByName (h : e.SameByName e') (d : Denylist) (scope : Scope) :
    d.visit scope e = d.visit scope e' := by
  have hdiagnostic : diagnostic scope e = diagnostic scope e' := by
    funext entry o
    unfold diagnostic
    rw [h.loc_eq]
  have htrace : trace e = trace e' := by
    funext entry o
    unfold trace
    rw [h.tag_eq]
  unfold visit
  rw [offences_eq_of_sameByName h, hdiagnostic, htrace]

/-- One rearrangement changes no finding. -/
theorem lint_eq_of_rearranged {t t' : Template} (h : t.Rearranged t') (d : Denylist)
    (severity : Severity) (source : String) :
    Linter.lint ⟨[⟨d.rule, severity⟩]⟩ t source = Linter.lint ⟨[⟨d.rule, severity⟩]⟩ t' source := by
  apply Linter.lint_eq_of_inspect_eq
  intro a ha
  obtain rfl := List.mem_singleton.1 ha
  apply Logged.flatMap_eq_of_forall₂
  exact (sameByName_of_rearranged h).imp fun _ _ he => visit_eq_of_sameByName he d _

/-- **The order of attributes and shadowed duplicates do not matter.**  A linter that runs the rule
of a denylist finds the same in two templates, in the same order, and says the same in its log, when
any number of rearrangements lead from one to the other: attributes put in another order, those of
one name in theirs, and attributes inserted or deleted behind others of their names. -/
theorem lint_eq_of_rearrangements (d : Denylist) (severity : Severity) (source : String)
    {t t' : Template} (h : Relation.EqvGen Template.Rearranged t t') :
    Linter.lint ⟨[⟨d.rule, severity⟩]⟩ t source = Linter.lint ⟨[⟨d.rule, severity⟩]⟩ t' source := by
  induction h with
  | rel t t' h => exact lint_eq_of_rearranged h d severity source
  | refl t => rfl
  | symm t t' _ ih => exact ih.symm
  | trans t t' t'' _ _ ih ih' => exact ih.trans ih'

/-- An attribute with nothing but text in it. -/
def plainAttribute (name text : String) (column : Nat) : Attribute :=
  ⟨name, .literal ⟨text, Span.unknown⟩, ⟨⟨1, column⟩, ⟨1, column + 8⟩⟩⟩

/-- A block with an element that has two classes, the second one behind an identifier. -/
def twoClasses : Template :=
  ⟨[.block ⟨"if"⟩ [.element "p" [plainAttribute "class" "a" 3, plainAttribute "id" "x" 12,
    plainAttribute "class" "b" 20] [] Span.unknown] none Span.unknown]⟩

/-- The same with one class, behind the identifier. -/
def classBehind : Template :=
  ⟨[.block ⟨"if"⟩ [.element "p" [plainAttribute "id" "x" 12, plainAttribute "class" "a" 3]
    [] Span.unknown] none Span.unknown]⟩

theorem rearrangements_twoClasses : Relation.EqvGen Template.Rearranged twoClasses classBehind := by
  let class₁ := plainAttribute "class" "a" 3
  let class₂ := plainAttribute "class" "b" 20
  let identifier := plainAttribute "id" "x" 12
  have hdelete : AttributesRearranged [class₁, identifier, class₂] [class₁, identifier] :=
    .delete [class₁, identifier] [] ⟨class₁, List.mem_cons_self, rfl⟩
  have hswap : AttributesRearranged [class₁, identifier] [identifier, class₁] :=
    .swap (show "class" ≠ "id" by decide) [] []
  have hinside : ∀ {as bs : List Attribute}, AttributesRearranged as bs →
      Template.Rearranged ⟨[.block ⟨"if"⟩ [.element "p" as [] Span.unknown] none Span.unknown]⟩
        ⟨[.block ⟨"if"⟩ [.element "p" bs [] Span.unknown] none Span.unknown]⟩ :=
    fun h => NodesRearranged.program ⟨"if"⟩ none Span.unknown (.attributes "p" [] Span.unknown h)
  exact (Relation.EqvGen.rel _ _ (hinside hdelete)).trans _ _ _ (.rel _ _ (hinside hswap))

theorem lint_eq_of_rearrangements_twoClasses :
    Relation.EqvGen Template.Rearranged twoClasses classBehind ∧
      Linter.lint ⟨[⟨rule ⟨[⟨"class", ["a", "b"]⟩, ⟨"id", ["x"]⟩]⟩, .error⟩]⟩ twoClasses "" =
        Linter.lint ⟨[⟨rule ⟨[⟨"class", ["a", "b"]⟩, ⟨"id", ["x"]⟩]⟩, .error⟩]⟩ classBehind "" :=
  ⟨rearrangements_twoClasses, lint_eq_of_rearrangements ⟨[⟨"class", ["a", "b"]⟩, ⟨"id", ["x"]⟩]⟩
    .error "" rearrangements_twoClasses⟩

end TemplateLint.Denylist
