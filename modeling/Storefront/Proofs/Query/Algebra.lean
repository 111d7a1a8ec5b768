import Storefront.Proofs.Query.Marking

/-! Laws of the connectives of queries: a negation moves through a conjunction or a disjunction, and a
conjunction inside of a conjunction, or a disjunction inside of a disjunction, comes to its children in
its place. The laws hold of answers that are errors too. A negation keeps no match to mark, so those that
move one speak of answers only; the others keep all that an evaluation does. -/
namespace Storefront.Query

variable {doc : Json} {left right : Query} {going : Bool}

/-! ### Answers -/

/-- The answer of children that are evaluated as long as they come out as `going`. -/
def holdsWhile (doc : Json) (going : Bool) (children : List Query) : Except Error Bool :=
  (runWhile doc going children).map (·.result)

@[simp] theorem holdsWhile_nil (doc : Json) (going : Bool) : holdsWhile doc going [] = .ok going := by
  rw [holdsWhile, runWhile_nil]
  rfl

theorem holdsWhile_cons (doc : Json) (going : Bool) (child : Query) (children : List Query) :
    holdsWhile doc going (child :: children) =
      (child.holds doc).bind fun truth =>
        if truth = going then holdsWhile doc going children else .ok truth := by
  rw [holdsWhile, runWhile_cons, holds, follow]
  cases child.run doc with
  | error error => rfl
  | ok here =>
    by_cases goesOn : here.result = going
    · simp only [Except.bind, Except.map, if_pos goesOn, holdsWhile]
      cases runWhile doc going children <;> rfl
    · simp only [Except.bind, Except.map, if_neg goesOn]

theorem holds_and (children : List Query) (doc : Json) :
    (and children).holds doc = holdsWhile doc true children := by
  rw [holds, run, holdsWhile, runWhile, if_pos rfl]

theorem holds_or (children : List Query) (doc : Json) :
    (or children).holds doc = holdsWhile doc false children := by
  rw [holds, run, holdsWhile, runWhile, if_neg Bool.false_ne_true]

theorem holds_not (child : Query) (doc : Json) :
    (not child).holds doc = (child.holds doc).map (!·) := by
  rw [holds, run_not, holds]
  cases child.run doc <;> rfl

theorem holds_nor (children : List Query) (doc : Json) :
    (nor children).holds doc = (holdsWhile doc false children).map (!·) := by
  rw [holds, run_nor, holdsWhile]
  cases runWhile doc false children <;> rfl

/-- Children stop where their negations do, at an answer turned over or at the same error. -/
theorem holdsWhile_negated (doc : Json) (going : Bool) (children : List Query) :
    holdsWhile doc (!going) (children.map not) = (holdsWhile doc going children).map (!·) := by
  induction children with
  | nil =>
    rw [List.map_nil, holdsWhile_nil, holdsWhile_nil]
    rfl
  | cons child children ih =>
    rw [List.map_cons, holdsWhile_cons, holdsWhile_cons, holds_not, ih]
    cases child.holds doc with
    | error error => rfl
    | ok truth => cases truth <;> cases going <;> rfl

/-! ### Answers and marks -/

theorem thread_assoc (first second third : Marks → Except Error Bool × Marks) :
    thread going (thread going first second) third =
      thread going first (thread going second third) := by
  funext marks
  by_cases goesOn : (first marks).1.toOption = some going
  · simp only [thread, if_pos goesOn]
  · simp only [thread, if_neg goesOn]

theorem judgeWhile_append (doc : Json) (going : Bool) (earlier later : List Query) :
    judgeWhile doc going (earlier ++ later) =
      thread going (judgeWhile doc going earlier) (judgeWhile doc going later) := by
  induction earlier with
  | nil =>
    funext marks
    simp [thread, Except.toOption]
  | cons child children ih => rw [List.cons_append, judgeWhile_cons, ih, ← thread_assoc, ← judgeWhile_cons]

theorem judgeWhile_singleton (doc : Json) (going : Bool) (child : Query) :
    judgeWhile doc going [child] = child.judge doc := by
  rw [judgeWhile_cons]
  funext marks
  rcases judged : child.judge doc marks with ⟨error | truth, later⟩
  · simp [thread, judged, Except.toOption]
  · by_cases goesOn : truth = going
    · simp [thread, judged, goesOn, Except.toOption]
    · simp [thread, judged, goesOn, Except.toOption]

/-- A child that goes through its own children in the way its parent does may give way to them. -/
theorem judgeWhile_flatten {inner : Query} {children : List Query}
    (same : inner.judge doc = judgeWhile doc going children) (earlier later : List Query) :
    judgeWhile doc going (earlier ++ [inner] ++ later) =
      judgeWhile doc going (earlier ++ children ++ later) := by
  rw [judgeWhile_append, judgeWhile_append, judgeWhile_singleton, same, ← judgeWhile_append,
    ← judgeWhile_append]

theorem judge_and (children : List Query) (doc : Json) :
    (and children).judge doc = judgeWhile doc true children := by
  funext marks
  rw [judge, judgeWhile, if_pos rfl]

theorem judge_or (children : List Query) (doc : Json) :
    (or children).judge doc = judgeWhile doc false children := by
  funext marks
  rw [judge, judgeWhile, if_neg Bool.false_ne_true]

theorem evaluateInPlace_fst (query : Query) (marking : Bool) (doc : Json) :
    (query.evaluateInPlace marking doc).1 = query.holds doc := by
  rw [holds]
  cases ran : query.run doc with
  | error error => rw [evaluateInPlace_failed ran, Except.map]
  | ok outcome => rw [evaluateInPlace_found ran, Except.map]

/-! ### The laws -/

/-- Queries that answer alike, by a truth or by an error, whatever marks are kept or wanted. -/
structure SameAnswer (left right : Query) : Prop where
  holds : ∀ doc, left.holds doc = right.holds doc
  judge : ∀ doc marks, (left.judge doc marks).1 = (right.judge doc marks).1
  evaluated : ∀ doc marking, (left.evaluateInPlace marking doc).1 = (right.evaluateInPlace marking doc).1

/-- Queries that answer alike, keep the same match to mark and leave the same document. -/
structure SameEvaluation (left right : Query) : Prop extends SameAnswer left right where
  marks : ∀ doc marks, left.judge doc marks = right.judge doc marks
  document : ∀ doc marking, left.evaluateInPlace marking doc = right.evaluateInPlace marking doc
  evaluate : ∀ doc marking, left.evaluate marking doc = right.evaluate marking doc

theorem SameAnswer.of_holds (same : ∀ doc, left.holds doc = right.holds doc) : SameAnswer left right where
  holds := same
  judge doc marks := by
    rw [(left.agrees_run doc).fst, (right.agrees_run doc).fst]
    exact same doc
  evaluated doc marking := by rw [evaluateInPlace_fst, evaluateInPlace_fst, same]

theorem SameEvaluation.of_judge (same : ∀ doc, left.judge doc = right.judge doc) :
    SameEvaluation left right := by
  have document (doc : Json) (marking : Bool) :
      left.evaluateInPlace marking doc = right.evaluateInPlace marking doc := by
    rw [evaluateInPlace, evaluateInPlace, same]
  have holds (doc : Json) : left.holds doc = right.holds doc := by
    rw [← evaluateInPlace_fst left true, ← evaluateInPlace_fst right true, document]
  exact {
    toSameAnswer := .of_holds holds
    marks := fun doc marks => by rw [same]
    document
    evaluate := fun doc marking => by rw [evaluate_eq, evaluate_eq, document] }

/-- Negations move through conjunctions and disjunctions and cancel out, as far as answers go. A filter
is a conjunction, a single negation is a list of one, and connectives inside of the same connective
flatten, with marks and all. -/
theorem connective_laws (query : Query) (children earlier later : List Query) :
    (SameAnswer (nor children) (not (or children)) ∧
      SameAnswer (nor children) (and (children.map not))) ∧
    SameAnswer (not (and children)) (or (children.map not)) ∧
    SameAnswer (not (not query)) query ∧
    SameEvaluation (nor [query]) (not query) ∧
    SameEvaluation (filter children) (and children) ∧
    SameEvaluation (and (earlier ++ [and children] ++ later)) (and (earlier ++ children ++ later)) ∧
    SameEvaluation (or (earlier ++ [or children] ++ later)) (or (earlier ++ children ++ later)) := by
  refine ⟨⟨.of_holds fun doc => ?_, .of_holds fun doc => ?_⟩, .of_holds fun doc => ?_,
    .of_holds fun doc => ?_, .of_judge fun doc => ?_, .of_judge fun doc => ?_,
    .of_judge fun doc => ?_, .of_judge fun doc => ?_⟩
  · rw [holds_nor, holds_not, holds_or]
  · rw [holds_nor, holds_and]
    exact (holdsWhile_negated doc false children).symm
  · rw [holds_not, holds_and, holds_or]
    exact (holdsWhile_negated doc true children).symm
  · rw [holds_not, holds_not]
    cases query.holds doc with
    | error error => rfl
    | ok truth => exact congrArg Except.ok (Bool.not_not truth)
  · funext marks
    have single := congrFun (judgeWhile_singleton doc false query) .suspended
    rw [judgeWhile, if_neg Bool.false_ne_true] at single
    rw [judge, judge, single]
  · funext marks
    rw [judge, judge]
  · rw [judge_and, judge_and, judgeWhile_flatten (judge_and children doc)]
  · rw [judge_or, judge_or, judgeWhile_flatten (judge_or children doc)]

-- A condition under two negations answers as it does alone, but it leaves nothing to mark.
example :
    let sku : Query := .exact ⟨"variants.sku", none, none⟩ (some (.string "b")) none false
    let doc := Json.ofMembers [("masterVariant", .ofMembers [("sku", .string "b")])]
    (sku.run doc).toOption = some ⟨true, some (some 0)⟩ ∧
      ((not (not sku)).run doc).toOption = some ⟨true, none⟩ := by
  decide +kernel

end Storefront.Query
