import Storefront.Proofs.Filter.Marking
import Storefront.Proofs.Query.Operands

/-! Intervals in filters and in queries. A range condition with its bounds included is the filter for the
interval between them: the two come out alike on every document and mark the same variant, and where a
value cannot be compared with a bound both fail, each in its own words. -/
namespace Storefront

/-- What a filter fails with, as a query on a field words it. -/
def Error.inQuery (field : String) : Error → Error
  | .evaluation (.filterBound valueType boundType) =>
    .evaluation (.queryBound valueType field boundType)
  | other => other

/-! ### Changing what a search fails with -/

section Searches
variable {α : Type} {change : Error → Error} {left right : α → Except Error Bool}

theorem anyM_mapError (same : ∀ item, left item = (right item).mapError change) (items : List α) :
    items.anyM left = (items.anyM right).mapError change := by
  induction items with
  | nil => rfl
  | cons item items ih =>
    simp only [List.anyM, same]
    cases right item with
    | error error => rfl
    | ok truth =>
      cases truth with
      | true => rfl
      | false => exact ih

theorem Variant.firstFrom_mapError {left right : Json → Except Error Bool}
    (same : ∀ variant, left variant = (right variant).mapError change) (index : Nat)
    (variants : List Json) :
    firstFrom left index variants = (firstFrom right index variants).mapError change := by
  induction variants generalizing index with
  | nil => rfl
  | cons variant variants ih =>
    simp only [firstFrom, same]
    cases right variant with
    | error error => rfl
    | ok truth =>
      cases truth with
      | true => rfl
      | false => exact ih (index + 1)

end Searches

/-! ### One value -/

theorem Query.passes_eq_mapError (field : String) (accept : Ordering → Bool) (value : Json) (bound : Bound) :
    Query.passes field accept value bound =
      (Condition.passes accept value bound).mapError (Error.inQuery field) := by
  cases bound with
  | none => rfl
  | some bound =>
    simp only [Query.passes, Condition.passes, Condition.orderWith]
    cases value.compareStrict bound <;> rfl

/-- The lower bound is looked at first on both sides, and the upper one only if the lower one is met. -/
theorem Query.contain_eq_mapError (field : String) (low high : Bound) (value : Json) :
    Bounds.contain { atLeast := low, atMost := high } field value =
      (Condition.inInterval value (low, high)).mapError (Error.inQuery field) := by
  simp only [Bounds.contain, List.allM, passes_eq_mapError, Condition.inInterval]
  cases Condition.passes (· != .lt) value low with
  | error error => rfl
  | ok above =>
    cases above with
    | false => rfl
    | true =>
      cases Condition.passes (· != .gt) value high with
      | error error => rfl
      | ok below => cases below <;> rfl

/-! ### Fields -/

/-- The filter that looks for a value in an interval. -/
def Filter.interval (path : String) (low high : Bound) : Filter :=
  ⟨path, .ranges [(low, high)]⟩

namespace Query

/-- The query that looks for a value in an interval. An open end is left out. -/
def interval (path : String) (low high : Bound) : Query :=
  .range ⟨path, none, none⟩ { atLeast := low, atMost := high }

def intervalCheck (path : String) (low high : Bound) : Check :=
  ⟨⟨path, none, none⟩, anyCandidate (Bounds.contain { atLeast := low, atMost := high } path)⟩

theorem check?_interval (path : String) {low high : Bound} (bounded : low ≠ none ∨ high ≠ none) :
    (interval path low high).check? = some (.ok (intervalCheck path low high)) := by
  have closed : Bounds.isOpen { atLeast := low, atMost := high } ≠ true := by
    rw [ne_eq, isOpen_iff]
    intro unbounded
    cases unbounded
    exact bounded.elim (· rfl) (· rfl)
  exact congrArg some (if_neg closed)

/-- What a path leads to in a document or a variant is tested alike. -/
theorem testAt_intervalCheck (path : String) (low high : Bound) (names : List Char) (value : Json) :
    (intervalCheck path low high).testAt names value =
      ((Filter.interval path low high).test names value).mapError (Error.inQuery path) := by
  have resolved : Target.resolve? ⟨path, none, none⟩ names value =
      Variant.resolveField? value names := by
    rw [Target.resolve?]
    cases Variant.resolveField? value names <;> rfl
  rw [Check.testAt, intervalCheck, resolved, Filter.test]
  cases Variant.resolveField? value names with
  | none => rfl
  | some found =>
    apply anyM_mapError
    intro candidate
    rw [contain_eq_mapError]
    simp only [List.anyM]
    cases Condition.inInterval candidate (low, high) with
    | error error => rfl
    | ok inside => cases inside <;> rfl

/-- The first variant in the interval is searched for alike. -/
theorem firstMatching_intervalCheck (path : String) (low high : Bound) (names : List Char)
    (doc : Json) :
    Variant.firstMatching doc ((intervalCheck path low high).testAt names) =
      (Variant.firstMatching doc ((Filter.interval path low high).test names)).mapError
        (Error.inQuery path) :=
  Variant.firstFrom_mapError (testAt_intervalCheck path low high names) 0 (Variant.all doc)

/-- A query on an interval answers as the filter on it does, and leaves the document that the filter
leaves. -/
theorem evaluateInPlace_interval (path : String) {low high : Bound}
    (bounded : low ≠ none ∨ high ≠ none) (marking : Bool) (doc : Json) :
    (interval path low high).evaluateInPlace marking doc =
      (((Filter.interval path low high).evaluateInPlace marking doc).1.mapError (Error.inQuery path),
        ((Filter.interval path low high).evaluateInPlace marking doc).2) := by
  let filter := Filter.interval path low high
  let check := intervalCheck path low high
  have ran : (interval path low high).run doc = check.probe doc :=
    run_of_check? (check?_interval path bounded) doc
  -- The path of the check and that of the filter are the same text.
  cases shape : filter.variantPath? with
  | none =>
    have plain : check.variantPath? = none := shape
    have tested : check.testAt check.target.field.toList doc =
        (filter.test path.toList doc).mapError (Error.inQuery path) :=
      testAt_intervalCheck path low high path.toList doc
    have answer : filter.holds doc = filter.test path.toList doc := by
      simp only [Filter.holds, shape]
      rfl
    rw [Check.probe_of_plain plain, tested] at ran
    rw [Filter.evaluateInPlace_of_plain shape, answer]
    cases judged : filter.test path.toList doc with
    | error error =>
      rw [judged] at ran
      exact evaluateInPlace_failed ran marking
    | ok truth =>
      rw [judged] at ran
      rw [evaluateInPlace_found ran marking]
      cases marking <;> rfl
  | some names =>
    have variants : check.variantPath? = some names := shape
    rw [Check.probe_of_variants variants, firstMatching_intervalCheck] at ran
    cases searched : Variant.firstMatching doc (filter.test names) with
    | error error =>
      rw [searched] at ran
      rw [Filter.evaluateInPlace_failed shape marking searched]
      exact evaluateInPlace_failed ran marking
    | ok first =>
      rw [searched] at ran
      rw [Filter.evaluateInPlace_found shape marking searched]
      exact evaluateInPlace_found ran marking

end Query

/-! ### Failures -/

/-- The only failure of an interval is that a value and a bound cannot be compared. -/
theorem Condition.inInterval_error {value : Json} {interval : Bound × Bound}
    (failed : inInterval value interval = .error error) :
    ∃ valueType boundType, error = .evaluation (.filterBound valueType boundType) := by
  have passes_error {accept : Ordering → Bool} {bound : Bound}
      (failed : passes accept value bound = .error error) :
      ∃ valueType boundType, error = .evaluation (.filterBound valueType boundType) := by
    cases bound with
    | none => contradiction
    | some bound =>
      simp only [passes, orderWith] at failed
      cases compared : value.compareStrict bound with
      | none =>
        rw [compared] at failed
        cases failed
        exact ⟨_, _, rfl⟩
      | some order =>
        rw [compared] at failed
        contradiction
  rw [inInterval] at failed
  split at failed
  · rename_i below
    cases failed
    exact passes_error below
  · contradiction
  · exact passes_error failed

namespace Filter

variable {path : String} {low high : Bound} {error : Error}

theorem test_interval_error {names : List Char} {value : Json}
    (failed : (interval path low high).test names value = .error error) :
    ∃ valueType boundType, error = .evaluation (.filterBound valueType boundType) := by
  rw [test] at failed
  cases resolved : Variant.resolveField? value names with
  | none =>
    rw [resolved] at failed
    contradiction
  | some found =>
    rw [resolved] at failed
    obtain ⟨candidate, -, outside⟩ := Query.exists_of_search_error (.inl failed)
    obtain ⟨bounds, -, outside⟩ := Query.exists_of_search_error (.inl outside)
    exact Condition.inInterval_error outside

theorem evaluateInPlace_interval_error {marking : Bool} {doc : Json}
    (failed : ((interval path low high).evaluateInPlace marking doc).1 = .error error) :
    ∃ valueType boundType, error = .evaluation (.filterBound valueType boundType) := by
  cases shape : (interval path low high).variantPath? with
  | none =>
    rw [evaluateInPlace_of_plain shape] at failed
    simp only [holds, shape] at failed
    exact test_interval_error failed
  | some names =>
    cases searched : Variant.firstMatching doc ((interval path low high).test names) with
    | error other =>
      rw [evaluateInPlace_failed shape marking searched] at failed
      cases failed
      obtain ⟨variant, outside⟩ := Query.exists_of_firstFrom_error searched
      exact test_interval_error outside
    | ok first =>
      rw [evaluateInPlace_found shape marking searched] at failed
      contradiction

end Filter

/-- The two languages for searches agree on intervals. On every document, with marks and without, the
filter on an interval and the query on it come out alike and leave the same document, or both fail since
the same types of values cannot be compared. -/
theorem intervals_agree (path : String) {low high : Bound} (bounded : low ≠ none ∨ high ≠ none)
    (marking : Bool) (doc : Json) :
    let filtered := (Filter.interval path low high).evaluateInPlace marking doc
    let queried := (Query.interval path low high).evaluateInPlace marking doc
    queried.2 = filtered.2 ∧
    ((∃ truth, filtered.1 = .ok truth ∧ queried.1 = .ok truth) ∨
      ∃ valueType boundType,
        filtered.1 = .error (.evaluation (.filterBound valueType boundType)) ∧
        queried.1 = .error (.evaluation (.queryBound valueType path boundType))) := by
  intro filtered queried
  have same : queried = (filtered.1.mapError (Error.inQuery path), filtered.2) :=
    Query.evaluateInPlace_interval path bounded marking doc
  constructor
  · rw [same]
  · cases outcome : filtered.1 with
    | ok truth =>
      left
      refine ⟨truth, rfl, ?_⟩
      rw [same, outcome]
      rfl
    | error error =>
      right
      obtain ⟨valueType, boundType, rfl⟩ := Filter.evaluateInPlace_interval_error outcome
      refine ⟨valueType, boundType, rfl, ?_⟩
      rw [same, outcome]
      rfl

/-- Of two variants with sizes, the second one has one in the interval, and both languages mark it. With a
text for a bound both fail at the first size. -/
theorem intervals_agree_on_sizes :
    let sizes (values : List Json) := Json.ofMembers [("sizes", .array values)]
    let doc := Json.ofMembers [("masterVariant", sizes [.ofNat 1, .ofNat 3]),
      ("variants", .array [sizes [.ofNat 4, .string "L"]])]
    let low : Bound := some (.ofNat 4)
    let text : Bound := some (.string "S")
    let filtered (low : Bound) := (Filter.interval "variants.sizes" low none).evaluateInPlace true doc
    let queried (low : Bound) := (Query.interval "variants.sizes" low none).evaluateInPlace true doc
    (low ≠ none ∨ (none : Bound) ≠ none) ∧ (text ≠ none ∨ (none : Bound) ≠ none) ∧
    (queried low).2 = (filtered low).2 ∧ (filtered low).1 = .ok true ∧ (queried low).1 = .ok true ∧
    ((Variant.all (queried low).2).map fun variant =>
      (variant.field? "isMatchingVariant").bind (·.bool?)) = [some false, some true] ∧
    (queried text).2 = (filtered text).2 ∧
    (filtered text).1 = .error (.evaluation (.filterBound "number" "string")) ∧
    (queried text).1 = .error (.evaluation (.queryBound "number" "variants.sizes" "string")) := by
  intro sizes doc low text filtered queried
  have bounded (bound : Json) : some bound ≠ none ∨ (none : Bound) ≠ none := .inl nofun
  obtain ⟨left, alike⟩ := intervals_agree "variants.sizes" (bounded (.ofNat 4)) true doc
  obtain ⟨left', alike'⟩ := intervals_agree "variants.sizes" (bounded (.string "S")) true doc
  have found : (filtered low).1 = .ok true := by decide +kernel
  have refused : (filtered text).1 = .error (.evaluation (.filterBound "number" "string")) := by
    decide +kernel
  have answered : (queried low).1 = .ok true := by
    rcases alike with ⟨truth, answer, same⟩ | ⟨_, _, failed, -⟩
    · cases found.symm.trans answer
      exact same
    · cases found.symm.trans failed
  have reported : (queried text).1 =
      .error (.evaluation (.queryBound "number" "variants.sizes" "string")) := by
    rcases alike' with ⟨truth, answer, -⟩ | ⟨_, _, failed, same⟩
    · cases refused.symm.trans answer
    · cases refused.symm.trans failed
      exact same
  exact ⟨bounded _, bounded _, left, found, answered, by decide +kernel, left', refused, reported⟩

end Storefront
