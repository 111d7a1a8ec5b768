import Storefront.Proofs.Predicate.Grouping
import Storefront.Proofs.Store.Paging

/-!
Queries with several predicates. They ask for what their conjunction asks for, and the text of the
conjunction can stand for all of them.
-/
namespace Storefront.Store

theorem allM_singleton {α : Type} (test : α → Except Error Bool) (item : α) :
    [item].allM test = test item := by
  rw [allM_cons]
  cases test item with
  | error e => rfl
  | ok holds => cases holds <;> rfl

/-- A page depends on the predicates only through what they come out as on a document. -/
theorem select_congr {params params' : QueryParams} {compiled compiled' : List Predicate}
    (expand : params'.expand = params.expand) (offset : params'.offset = params.offset)
    (limit : params'.limit = params.limit)
    (alike : ∀ doc, compiled'.allM (·.matchesWith params'.bindings doc) =
      compiled.allM (·.matchesWith params.bindings doc)) (store : Store) (tenant typeId : String) :
    store.select tenant typeId params' compiled' = store.select tenant typeId params compiled := by
  simp only [select, alike, expand, offset, limit]

/-- Predicates that each compile are their conjunction in parentheses. Its text compiles, to the same
truth or error on every document, and a query with it alone is answered as one with all of them. -/
theorem predicates_are_their_conjunction (sources : List String) (nonempty : sources ≠ [])
    (compiles : ∀ source ∈ sources, ∃ predicate, Predicate.compile source = .ok predicate) :
    ∃ all single, Predicate.compileAll sources = .ok all ∧
      Predicate.compile all.source = .ok single ∧
      (∀ vars doc, single.matchesWith vars doc = all.matchesWith vars doc) ∧
      ∀ store, Reachable store → ∀ tenant typeId (params : QueryParams),
        (store.query tenant typeId { params with predicates := sources }).1 =
          (store.query tenant typeId { params with predicates := [all.source] }).1 := by
  obtain ⟨all, single, each, together, alone, compiled, alike⟩ :=
    Predicate.exists_compiled_conjunction nonempty compiles
  refine ⟨all, single, together, alone, fun vars doc => (alike vars doc).1, ?_⟩
  intro store reachable tenant typeId params
  let asked : QueryParams := { params with predicates := sources }
  let asked' : QueryParams := { params with predicates := [all.source] }
  have one : [all.source].mapM Predicate.compile = .ok [single] := by
    rw [List.mapM_cons, alone]
    rfl
  have answer := reachable.faithful.query tenant typeId asked compiled
  have answer' := reachable.faithful.query tenant typeId asked' one
  refine answer.trans (Eq.trans ?_ answer'.symm)
  apply select_congr rfl rfl rfl
  intro doc
  have answers := alike params.bindings doc
  rw [answers.2, ← answers.1]
  exact (allM_singleton (·.matchesWith params.bindings doc) single).symm

/-- Parentheses keep an alternative together: either text alone, and both in a query. -/
theorem predicates_are_their_conjunction_with_alternatives :
    let sources := ["a = 1 or b = 2 ", "not(c is defined)"]
    (sources ≠ [] ∧ ∀ source ∈ sources, ∃ predicate, Predicate.compile source = .ok predicate) ∧
    ∃ all single, Predicate.compileAll sources = .ok all ∧
      Predicate.compile all.source = .ok single ∧
      (∀ vars doc, single.matchesWith vars doc = all.matchesWith vars doc) ∧
      ∀ store, Reachable store → ∀ tenant typeId (params : QueryParams),
        (store.query tenant typeId { params with predicates := sources }).1 =
          (store.query tenant typeId { params with predicates := [all.source] }).1 := by
  intro sources
  have nonempty : sources ≠ [] := List.cons_ne_nil _ _
  have readable : ∀ source ∈ sources, (Predicate.compile source).isOk = true := by
    decide +kernel
  have compiles : ∀ source ∈ sources, ∃ predicate, Predicate.compile source = .ok predicate :=
    fun source mem => exists_of_isOk (readable source mem)
  exact ⟨⟨nonempty, compiles⟩, predicates_are_their_conjunction sources nonempty compiles⟩

end Storefront.Store
