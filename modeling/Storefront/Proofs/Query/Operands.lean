import Storefront.Catalog
import Storefront.Proofs.Query.Marking

/-! Conditions that lack their operands. They are refused where evaluation comes to them and nowhere
else: a connective that is settled before keeps them from being noticed, and so does an empty catalog. -/
namespace Storefront
namespace Query

variable {doc : Json} {query inner : Query} {check : Check} {error : Error}

/-- A range without bounds or an exact condition without values, and what is said of it. -/
inductive Malformed : Query → InputFault → Prop where
  | range (target : Target) : Malformed (range target {}) (.noBounds target.field)
  | exact (target : Target) (ignoreCase : Bool) (none : values = none ∨ values = some []) :
      Malformed (exact target .none values ignoreCase) (.noOperands target.field)

/-! ### What a condition fails with -/

theorem isOpen_iff {bounds : Bounds} : bounds.isOpen = true ↔ bounds = {} := by
  obtain ⟨atLeast, above, atMost, below⟩ := bounds
  simp [Bounds.isOpen, and_assoc]

theorem operands?_eq_none_iff {value : Option Json} {values : Option (List Json)} :
    operands? value values = none ↔ value = none ∧ (values = none ∨ values = some []) := by
  rcases value with _ | value
  · rcases values with _ | _ | ⟨first, others⟩ <;> simp [operands?]
  · simp [operands?]

theorem rangeCheck_eq_error_iff {target : Target} {bounds : Bounds} :
    rangeCheck target bounds = .error error ↔
      bounds = {} ∧ .badInput (.noBounds target.field) = error := by
  rw [rangeCheck, ← isOpen_iff]
  cases bounds.isOpen <;> simp

theorem exactCheck_eq_error_iff {target : Target} :
    exactCheck target value values ignoreCase = .error error ↔
      (value = none ∧ (values = none ∨ values = some [])) ∧
        .badInput (.noOperands target.field) = error := by
  rw [exactCheck, ← operands?_eq_none_iff]
  cases operands? value values <;> simp

/-- A condition has a check exactly if it is not malformed. -/
theorem malformed_iff_check?_error (condition : query.check? = some checked) (fault : InputFault) :
    Malformed query fault ↔ checked = .error (.badInput fault) := by
  cases query with
  | range target bounds =>
    cases condition
    rw [rangeCheck_eq_error_iff]
    constructor
    · intro malformed
      cases malformed
      exact ⟨rfl, rfl⟩
    · rintro ⟨rfl, same⟩
      cases same
      exact .range target
  | exact target value values ignoreCase =>
    cases condition
    rw [exactCheck_eq_error_iff]
    constructor
    · intro malformed
      cases malformed with
      | exact _ _ empty => exact ⟨⟨rfl, empty⟩, rfl⟩
    · rintro ⟨⟨rfl, empty⟩, same⟩
      cases same
      exact .exact target ignoreCase empty
  | present | textual =>
    cases condition
    constructor
    · intro malformed
      cases malformed
    · intro same
      cases same
  | _ => contradiction

/-- A search through a list fails with one of its items. -/
theorem exists_of_search_error {α : Type} {test : α → Except Error Bool} {items : List α}
    (failed : items.anyM test = .error error ∨ items.allM test = .error error) :
    ∃ item ∈ items, test item = .error error := by
  induction items with
  | nil => rcases failed with failed | failed <;> cases failed
  | cons item items ih =>
    simp only [List.anyM, List.allM] at failed
    cases judged : test item with
    | error other =>
      rw [judged] at failed
      rcases failed with failed | failed
      all_goals
        cases failed
        exact ⟨item, List.mem_cons_self, judged⟩
    | ok truth =>
      have later : items.anyM test = .error error ∨ items.allM test = .error error := by
        rw [judged] at failed
        cases truth with
        | true => exact .inr (failed.resolve_left nofun)
        | false => exact .inl (failed.resolve_right nofun)
      obtain ⟨other, member, fails⟩ := ih later
      exact ⟨other, List.mem_cons_of_mem _ member, fails⟩

theorem exists_of_anyCandidate_error {test : Json → Except Error Bool} {field : Option Json}
    (failed : anyCandidate test field = .error error) : ∃ candidate, test candidate = .error error := by
  cases field with
  | none => cases failed
  | some value =>
    obtain ⟨candidate, -, fails⟩ := exists_of_search_error (.inl failed)
    exact ⟨candidate, fails⟩

/-- The only failure of a bound is that it cannot be compared. -/
theorem passes_error {field : String} {accept : Ordering → Bool} {value : Json} {bound : Option Json}
    (failed : passes field accept value bound = .error error) : ∃ fault, error = .evaluation fault := by
  cases bound with
  | none => cases failed
  | some bound =>
    rw [passes] at failed
    split at failed
    · cases failed
    · cases failed
      exact ⟨_, rfl⟩

/-- A condition that has its operands never finds fault with the input. -/
theorem test_error (condition : query.check? = some (.ok check)) {field : Option Json}
    (failed : check.test field = .error error) : ∃ fault, error = .evaluation fault := by
  cases query with
  | range target bounds =>
    simp only [check?, rangeCheck] at condition
    split at condition
    · cases condition
    · cases condition
      obtain ⟨candidate, outside⟩ := exists_of_anyCandidate_error failed
      obtain ⟨bound, -, fails⟩ := exists_of_search_error (.inr outside)
      exact passes_error fails
  | exact target value values ignoreCase =>
    simp only [check?, exactCheck] at condition
    split at condition
    · cases condition
    · cases condition
      obtain ⟨candidate, fails⟩ := exists_of_anyCandidate_error failed
      cases fails
  | present target =>
    cases condition
    cases failed
  | textual mode target value ignoreCase =>
    cases condition
    obtain ⟨candidate, fails⟩ := exists_of_anyCandidate_error failed
    cases fails
  | _ => contradiction

theorem exists_of_firstFrom_error {test : Json → Except Error Bool} {index : Nat} {variants : List Json}
    (failed : Variant.firstFrom test index variants = .error error) :
    ∃ variant, test variant = .error error := by
  induction variants generalizing index with
  | nil => cases failed
  | cons variant variants ih =>
    rw [Variant.firstFrom] at failed
    split at failed
    · rename_i judged
      cases failed
      exact ⟨variant, judged⟩
    · cases failed
    · exact ih failed

theorem exists_of_probe_error (failed : check.probe doc = .error error) :
    ∃ field, check.test field = .error error := by
  cases shape : check.variantPath? with
  | none =>
    rw [Check.probe_of_plain shape, Expansion.map_eq_error_iff] at failed
    exact ⟨_, failed⟩
  | some path =>
    rw [Check.probe_of_variants shape, Expansion.map_eq_error_iff] at failed
    obtain ⟨variant, fails⟩ := exists_of_firstFrom_error failed
    exact ⟨_, fails⟩

/-- A condition is refused exactly if it is malformed, whatever the document. -/
theorem condition_refused_iff (condition : query.check? = some checked) (doc : Json)
    (fault : InputFault) : query.run doc = .error (.badInput fault) ↔ Malformed query fault := by
  rw [malformed_iff_check?_error condition, run_of_check? condition]
  cases checked with
  | error other => simp only [Except.bind, Except.error.injEq]
  | ok check =>
    constructor
    · intro failed
      obtain ⟨field, fails⟩ := exists_of_probe_error failed
      obtain ⟨_, different⟩ := test_error condition fails
      cases different
    · nofun

/-! ### Conditions that are reached -/

theorem mem_visitsWhile {children : List Query} {visit : Visit}
    (reached : visit ∈ visitsWhile doc going children) : ∃ child ∈ children, visit ∈ child.visits doc := by
  induction children with
  | nil => cases reached
  | cons child children ih =>
    rw [visitsWhile, List.mem_append] at reached
    rcases reached with here | later
    · exact ⟨child, List.mem_cons_self, here⟩
    · split at later
      · obtain ⟨other, member, there⟩ := ih later
        exact ⟨other, List.mem_cons_of_mem _ member, there⟩
      · cases later

theorem visitsWhile_within {children : List Query} {visit : Visit}
    (each : ∀ child ∈ children, ∀ visit ∈ child.visits doc,
      Within visit.condition child ∧ ∃ checked, visit.condition.check? = some checked)
    (reached : visit ∈ visitsWhile doc going children) :
    ∃ child ∈ children, Within visit.condition child ∧
      ∃ checked, visit.condition.check? = some checked := by
  obtain ⟨child, member, there⟩ := mem_visitsWhile reached
  exact ⟨child, member, each child member visit there⟩

/-- Evaluation comes to conditions of the query only. -/
theorem visits_within (query : Query) (doc : Json) : ∀ visit ∈ query.visits doc,
    Within visit.condition query ∧ ∃ checked, visit.condition.check? = some checked := by
  induction query using induct with
  | and children ih | or children ih | filter children ih =>
    intro visit reached
    obtain ⟨child, member, within, condition⟩ := visitsWhile_within ih reached
    exact ⟨.child member within, condition⟩
  | not child ih =>
    intro visit reached
    obtain ⟨visit, there, rfl⟩ := List.mem_map.mp reached
    obtain ⟨within, condition⟩ := ih visit there
    exact ⟨.child List.mem_cons_self within, condition⟩
  | nor children ih =>
    intro visit reached
    obtain ⟨visit, there, rfl⟩ := List.mem_map.mp reached
    obtain ⟨child, member, within, condition⟩ := visitsWhile_within ih there
    exact ⟨.child member within, condition⟩
  | condition query checked condition =>
    intro visit reached
    rw [visits_of_check? condition] at reached
    cases List.mem_singleton.mp reached
    exact ⟨.self, checked, condition⟩

/-- Evaluation on a document comes to a malformed condition in the query. -/
def Meets (query : Query) (doc : Json) (fault : InputFault) : Prop :=
  ∃ visit ∈ query.visits doc, Within visit.condition query ∧ Malformed visit.condition fault

/-- Evaluation finds fault with the query exactly where it comes to a malformed condition. -/
theorem run_refused_iff (query : Query) (doc : Json) (fault : InputFault) :
    query.run doc = .error (.badInput fault) ↔ query.Meets doc fault := by
  rw [(query.traced_run doc).failure]
  constructor
  · rintro ⟨visit, reached, failed⟩
    obtain ⟨within, checked, condition⟩ := query.visits_within doc visit reached
    exact ⟨visit, reached, within, (condition_refused_iff condition doc fault).mp failed⟩
  · rintro ⟨visit, reached, within, malformed⟩
    obtain ⟨-, checked, condition⟩ := query.visits_within doc visit reached
    exact ⟨visit, reached, (condition_refused_iff condition doc fault).mpr malformed⟩

theorem evaluateInPlace_error_iff (query : Query) (marking : Bool) (doc : Json) :
    (query.evaluateInPlace marking doc).1 = .error error ↔ query.run doc = .error error := by
  cases ran : query.run doc with
  | error other => simp only [evaluateInPlace_failed ran, Except.error.injEq]
  | ok outcome =>
    rw [evaluateInPlace_found ran]
    constructor <;> nofun

end Query

namespace Catalog

variable {store : Store} {tenant : String} {error : Error}

/-- A search fails with the first projection on which its condition fails. -/
theorem matching_error_iff {condition : Json → Except Error (Bool × Json)} {projections : List Json} :
    matching condition projections = .error error ↔
      ∃ before projection after, projections = before ++ projection :: after ∧
        (∀ earlier ∈ before, ∃ answer, condition earlier = .ok answer) ∧
        condition projection = .error error := by
  induction projections with
  | nil =>
    constructor
    · nofun
    · rintro ⟨before, projection, after, parts, -⟩
      cases before <;> cases parts
  | cons projection projections ih =>
    rw [matching]
    cases judged : condition projection with
    | error other =>
      constructor
      · intro failed
        cases failed
        exact ⟨[], projection, projections, rfl, nofun, judged⟩
      · rintro ⟨before, failing, after, parts, passed, fails⟩
        cases before with
        | nil =>
          cases parts
          cases judged.symm.trans fails
          rfl
        | cons first before =>
          cases parts
          obtain ⟨answer, answered⟩ := passed projection List.mem_cons_self
          cases judged.symm.trans answered
    | ok answer =>
      have rest : (∃ before failing after, projection :: projections = before ++ failing :: after ∧
            (∀ earlier ∈ before, ∃ answer, condition earlier = .ok answer) ∧
            condition failing = .error error) ↔
          matching condition projections = .error error := by
        rw [ih]
        constructor
        · rintro ⟨before, failing, after, parts, passed, fails⟩
          cases before with
          | nil =>
            cases parts
            cases judged.symm.trans fails
          | cons first before =>
            cases parts
            exact ⟨before, failing, after, rfl, (List.forall_mem_cons.mp passed).2, fails⟩
        · rintro ⟨before, failing, after, rfl, passed, fails⟩
          exact ⟨projection :: before, failing, after, rfl,
            List.forall_mem_cons.mpr ⟨⟨answer, judged⟩, passed⟩, fails⟩
      rw [rest]
      cases matching condition projections with
      | error other => exact Iff.rfl
      | ok kept => constructor <;> nofun

/-- Nothing is expanded in a search by a query, so it fails with its query only. -/
theorem search_error_iff {request : ProductSearchRequest} :
    search store tenant request = .error error ↔
      matching (applyQuery request) (projections store tenant request.staged) = .error error := by
  rw [search]
  cases matching (applyQuery request) (projections store tenant request.staged) with
  | error other => simp only [Except.error.injEq]
  | ok found =>
    simp only [page, if_true]
    constructor <;> nofun

end Catalog

namespace Query

variable {query : Query}

theorem evaluate_error_iff {marking : Bool} {doc : Json} :
    query.evaluate marking doc = .error error ↔ query.run doc = .error error := by
  rw [evaluate_eq, Expansion.map_eq_error_iff, evaluateInPlace_error_iff]

theorem exists_evaluate_iff {marking : Bool} {doc : Json} :
    (∃ answer, query.evaluate marking doc = .ok answer) ↔ ∃ truth, query.holds doc = .ok truth := by
  rw [holds]
  cases ran : query.run doc with
  | error error => simp [evaluate_error_iff.mpr ran, Except.map]
  | ok outcome =>
    have evaluated := query.evaluate_eq marking doc
    rw [evaluateInPlace_found ran] at evaluated
    simp [evaluated, Except.map]

/-- A query is refused by a document exactly if evaluation comes to a malformed condition in it. A
search with it is refused exactly if that happens on a projection before which it failed on none. -/
theorem refused_exactly_where_reached (query : Query) :
    (∀ (marking : Bool) (doc : Json) (fault : InputFault),
      (query.evaluateInPlace marking doc).1 = .error (.badInput fault) ↔ query.Meets doc fault) ∧
    ∀ (store : Store) (tenant : String) (request : ProductSearchRequest) (fault : InputFault),
      Catalog.search store tenant { request with query := some query } = .error (.badInput fault) ↔
        ∃ before projection after,
          Catalog.projections store tenant request.staged = before ++ projection :: after ∧
          (∀ earlier ∈ before, ∃ truth, query.holds earlier = .ok truth) ∧
          query.Meets projection fault := by
  constructor
  · intro marking doc fault
    rw [evaluateInPlace_error_iff, run_refused_iff]
  · intro store tenant request fault
    rw [Catalog.search_error_iff, Catalog.matching_error_iff]
    simp only [Catalog.applyQuery, evaluate_error_iff, exists_evaluate_iff, run_refused_iff]

/-- The range has no bounds, but the conjunction is false before, and a store without products has
nothing to evaluate it on. -/
theorem malformed_condition_passed_over :
    let unbounded : Query := .range ⟨"n", none, none⟩ {}
    let query : Query := .and [.present ⟨"x", none, none⟩, unbounded]
    let search (query : Query) := Catalog.search (.empty {}) "shop" { query := some query }
    Malformed unbounded (.noBounds "n") ∧ Within unbounded query ∧
    query.evaluateInPlace false (.object []) = (.ok false, .object []) ∧
    (search query).isOk = true ∧ (search unbounded).isOk = true := by
  intro unbounded query search
  refine ⟨.range _, .child (List.mem_cons_of_mem _ List.mem_cons_self) .self, rfl, rfl, rfl⟩

end Query
end Storefront
