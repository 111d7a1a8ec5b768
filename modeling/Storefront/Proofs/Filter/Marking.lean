import Mathlib.Data.List.Forall2
import Storefront.Marking
import Storefront.Proofs.Variant.Marking

/-! What the evaluation of a filter does to the document. The answer does not depend on marks, and a
document is marked only where there is an answer to mark: at the variants, of which the first that
satisfies the filter is told from the others. -/
namespace Storefront.Filter
open Variant (FirstTrue MarkedWhere)

variable {filter : Filter} {path : List Char} {doc : Json}

theorem evaluateInPlace_of_plain (plain : filter.variantPath? = none) (marking : Bool) (doc : Json) :
    filter.evaluateInPlace marking doc = (filter.holds doc, doc) := by
  simp only [evaluateInPlace, holds, plain]

theorem evaluateInPlace_failed (variants : filter.variantPath? = some path) (marking : Bool)
    (failed : Variant.firstMatching doc (filter.test path) = .error error) :
    filter.evaluateInPlace marking doc = (.error error, doc) := by
  simp only [evaluateInPlace, variants, failed]

theorem evaluateInPlace_found (variants : filter.variantPath? = some path) (marking : Bool)
    (found : Variant.firstMatching doc (filter.test path) = .ok first) :
    filter.evaluateInPlace marking doc =
      (.ok first.isSome, if marking then Variant.markMatching doc first else doc) := by
  simp only [evaluateInPlace, variants, found]

theorem holds_of_variants (variants : filter.variantPath? = some path) (doc : Json) :
    filter.holds doc = (Variant.firstMatching doc (filter.test path)).map (·.isSome) := by
  simp only [holds, variants]

theorem evaluate_eq (filter : Filter) (marking : Bool) (doc : Json) :
    filter.evaluate marking doc =
      (filter.evaluateInPlace marking doc).1.map fun truth =>
        (truth, (filter.evaluateInPlace marking doc).2) := by
  cases shape : filter.variantPath? with
  | none => simp only [evaluate, evaluateInPlace_of_plain shape, holds, shape]
  | some path =>
    cases searched : Variant.firstMatching doc (filter.test path) with
    | error error =>
      simp only [evaluate, evaluateInPlace_failed shape marking searched, shape, searched, Except.map]
    | ok first =>
      simp only [evaluate, evaluateInPlace_found shape marking searched, shape, searched, Except.map]

/-- A filter answers alike with marks and without. The document stays as it is if the evaluation fails,
if no marks are wanted and if the filter is not about variants; else each variant that is an object is
marked, as the first one that satisfies the filter or as another one, and nothing else changes. -/
theorem evaluation_marks_first_match (filter : Filter) (marking : Bool) (doc : Json) :
    let outcome := filter.evaluateInPlace marking doc
    outcome.1 = filter.holds doc ∧
    ((∃ error, outcome.1 = .error error) ∨ marking = false ∨ filter.variantPath? = none →
      outcome.2 = doc) ∧
    (∀ truth path, outcome.1 = .ok truth → marking = true → filter.variantPath? = some path →
      MarkedWhere (FirstTrue (filter.test path) (Variant.all doc)) doc outcome.2) ∧
    filter.evaluate marking doc = outcome.1.map fun truth => (truth, outcome.2) := by
  intro outcome
  refine ⟨?_, ?_, ?_, filter.evaluate_eq marking doc⟩
  · cases shape : filter.variantPath? with
    | none => exact congrArg Prod.fst (evaluateInPlace_of_plain shape marking doc)
    | some path =>
      rw [holds_of_variants shape]
      cases searched : Variant.firstMatching doc (filter.test path) with
      | error error => exact congrArg Prod.fst (evaluateInPlace_failed shape marking searched)
      | ok first => exact congrArg Prod.fst (evaluateInPlace_found shape marking searched)
  · intro unmarked
    cases shape : filter.variantPath? with
    | none => exact congrArg Prod.snd (evaluateInPlace_of_plain shape marking doc)
    | some path =>
      cases searched : Variant.firstMatching doc (filter.test path) with
      | error error => exact congrArg Prod.snd (evaluateInPlace_failed shape marking searched)
      | ok first =>
        have found := evaluateInPlace_found shape marking searched
        rcases unmarked with ⟨error, failed⟩ | rfl | plain
        · cases failed.symm.trans (congrArg Prod.fst found)
        · exact congrArg Prod.snd found
        · cases plain.symm.trans shape
  · rintro truth path answered rfl shape
    cases searched : Variant.firstMatching doc (filter.test path) with
    | error error =>
      have failed := evaluateInPlace_failed shape true searched
      cases answered.symm.trans (congrArg Prod.fst failed)
    | ok first =>
      have after : outcome.2 = Variant.markMatching doc first :=
        congrArg Prod.snd (evaluateInPlace_found shape true searched)
      have chosen : (first = some ·) = FirstTrue (filter.test path) (Variant.all doc) :=
        funext fun number => propext (Variant.firstMatching_spec searched number)
      rw [after, ← chosen]
      exact Variant.markedWhere_markMatching doc first

/-- Without a master variant the entries of the list are numbered from zero, those that are not objects
included: of these three the second one is the first with a stock number. -/
theorem evaluation_marks_second_entry :
    let filter : Filter := ⟨"variants.sku", .presence [true]⟩
    let doc := Json.ofMembers [("masterVariant", .null), ("variants", .array [.ofNat 7,
      .ofMembers [("sku", .string "a")],
      .ofMembers [("isMatchingVariant", .bool true), ("sku", .string "b")]])]
    let after := (filter.evaluateInPlace true doc).2
    filter.variantPath? = some "sku".toList ∧ (filter.evaluateInPlace true doc).1 = .ok true ∧
    MarkedWhere (FirstTrue (filter.test "sku".toList) (Variant.all doc)) doc after ∧
    ((Variant.all after).map fun variant => (variant.field? "isMatchingVariant").bind (·.bool?)) =
      [none, some true, some false] := by
  intro filter doc after
  have shape : filter.variantPath? = some "sku".toList := by decide +kernel
  have answered : (filter.evaluateInPlace true doc).1 = .ok true := by decide +kernel
  have marked := (evaluation_marks_first_match filter true doc).2.2.1 true _ answered rfl shape
  exact ⟨shape, answered, marked, by decide +kernel⟩

end Storefront.Filter
