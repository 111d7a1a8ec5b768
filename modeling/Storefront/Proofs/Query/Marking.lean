import Storefront.Proofs.Query.Evaluation
import Storefront.Proofs.Variant.Marking

/-! What the evaluation of a query does to the document. It marks the variants as the last condition on
variants saw them that was reached and does not stand under a negation, and only if it succeeds. -/
namespace Storefront.Query
open Variant (AtMostOneMarked MarkedWhere)

variable {query : Query} {doc : Json}

theorem evaluateInPlace_failed (failed : query.run doc = .error error) (marking : Bool) :
    query.evaluateInPlace marking doc = (.error error, doc) := by
  have judged := (query.agrees_run doc).fst { wanted := marking }
  rw [failed] at judged
  unfold evaluateInPlace
  split
  · rename_i other _ judgement
    rw [judgement] at judged
    cases judged
    rfl
  · rename_i truth _ judgement
    rw [judgement] at judged
    cases judged

theorem evaluateInPlace_found (found : query.run doc = .ok outcome) (marking : Bool) :
    query.evaluateInPlace marking doc =
      (.ok outcome.result,
        if marking then (outcome.reached.map (Variant.markMatching doc)).getD doc else doc) := by
  have agrees := query.agrees_run doc
  rw [found] at agrees
  cases agrees with
  | found judgement =>
    unfold evaluateInPlace
    rw [judgement]
    cases outcome.reached with
    | none => cases marking <;> rfl
    | some first => cases marking <;> rfl

theorem evaluate_eq (query : Query) (marking : Bool) (doc : Json) :
    query.evaluate marking doc =
      (query.evaluateInPlace marking doc).1.map fun truth =>
        (truth, (query.evaluateInPlace marking doc).2) := by
  cases ran : query.run doc with
  | error error =>
    simp only [evaluate, ran, evaluateInPlace_failed ran, Except.map]
  | ok outcome =>
    simp only [evaluate, ran, evaluateInPlace_found ran, Except.map]
    cases marking <;> cases outcome.reached <;> rfl

/-- A query answers alike with marks and without. The document stays as it is if the evaluation fails,
if no marks are wanted and if no condition on variants was reached but under negations; else it is marked
for the first match of the last such condition, and nothing else changes. -/
theorem evaluation_marks_last_condition (query : Query) (marking : Bool) (doc : Json) :
    let outcome := query.evaluateInPlace marking doc
    let last := (markers (query.visits doc)).getLast?
    outcome.1 = query.holds doc ∧
    ((∃ error, outcome.1 = .error error) ∨ marking = false ∨ last = none → outcome.2 = doc) ∧
    (∀ truth test, outcome.1 = .ok truth → marking = true → last = some test →
      ∃ first, Variant.firstMatching doc test = .ok first ∧
        outcome.2 = Variant.markMatching doc first ∧
        MarkedWhere (first = some ·) doc outcome.2 ∧ AtMostOneMarked outcome.2) ∧
    query.evaluate marking doc = outcome.1.map fun truth => (truth, outcome.2) := by
  intro outcome last
  have traced := query.traced_run doc
  refine ⟨?_, ?_, ?_, query.evaluate_eq marking doc⟩
  · cases ran : query.run doc with
    | error error => simp only [outcome, evaluateInPlace_failed ran, holds, ran, Except.map]
    | ok found => simp only [outcome, evaluateInPlace_found ran, holds, ran, Except.map]
  · intro unmarked
    cases ran : query.run doc with
    | error error => exact congrArg Prod.snd (evaluateInPlace_failed ran marking)
    | ok found =>
      have evaluated := evaluateInPlace_found ran marking
      rcases unmarked with ⟨error, failed⟩ | rfl | nothing
      · cases failed.symm.trans (congrArg Prod.fst evaluated)
      · exact congrArg Prod.snd evaluated
      · have reached : found.reached.map .ok = last.map (Variant.firstMatching doc) :=
          traced.reached found ran
        rw [nothing, Option.map_none, Option.map_eq_none_iff] at reached
        rw [reached] at evaluated
        rw [congrArg Prod.snd evaluated]
        cases marking <;> rfl
  · rintro truth test answered rfl isLast
    cases ran : query.run doc with
    | error error => cases answered.symm.trans (congrArg Prod.fst (evaluateInPlace_failed ran true))
    | ok found =>
      have reached : found.reached.map .ok = last.map (Variant.firstMatching doc) :=
        traced.reached found ran
      rw [isLast, Option.map_some] at reached
      obtain ⟨first, kept, searched⟩ := Option.map_eq_some_iff.mp reached
      have after : outcome.2 = Variant.markMatching doc first := by
        rw [congrArg Prod.snd (evaluateInPlace_found ran true), kept]
        rfl
      refine ⟨first, searched.symm, after, ?_, ?_⟩
      · rw [after]
        exact Variant.markedWhere_markMatching doc first
      · rw [after]
        exact Variant.atMostOneMarked_markMatching doc first

/-- The condition under the negation comes last and finds the master variant, but the match that is
kept is that of the condition before it. -/
theorem evaluation_marks_beside_negation :
    let sku (value : String) : Query := .exact ⟨"variants.sku", none, none⟩ (some (.string value)) none false
    let query : Query := .and [sku "b", .nor [.and [sku "a", sku "z"]]]
    let doc := Json.ofMembers [("masterVariant", .ofMembers [("sku", .string "a")]),
      ("variants", .array [.ofMembers [("sku", .string "b")]])]
    let outcome := query.evaluateInPlace true doc
    outcome.1 = .ok true ∧ (query.visits doc).map (·.negated) = [false, true, true] ∧
    ∃ test first, (markers (query.visits doc)).getLast? = some test ∧
      Variant.firstMatching doc test = .ok first ∧ first = some 1 ∧
      outcome.2 = Variant.markMatching doc first ∧
      MarkedWhere (first = some ·) doc outcome.2 ∧ AtMostOneMarked outcome.2 := by
  intro sku query doc outcome
  have answered : outcome.1 = .ok true := by decide +kernel
  have visited : (query.visits doc).map (·.negated) = [false, true, true] := by decide +kernel
  have second : (markers (query.visits doc)).getLast?.map (Variant.firstMatching doc) =
      some (.ok (some 1)) := by
    decide +kernel
  obtain ⟨test, isLast, finds⟩ := Option.map_eq_some_iff.mp second
  obtain ⟨first, searched, after, marked, single⟩ :=
    (evaluation_marks_last_condition query true doc).2.2.1 true test answered rfl isLast
  have same : first = some 1 := Except.ok.inj (searched.symm.trans finds)
  exact ⟨answered, visited, test, first, isLast, searched, same, after, marked, single⟩

end Storefront.Query
