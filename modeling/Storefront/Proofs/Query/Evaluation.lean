import Storefront.Proofs.Expansion.Growth
import Storefront.Proofs.Query.Structure

/-! How the evaluation of a query goes through its tree: the conditions it comes to, and what they leave
behind. A failure is that of a condition that was reached; the match that is kept is that of the last
condition on variants that was reached and does not stand under a negation. Carrying marks along while
evaluating comes to the same. -/
namespace Storefront.Query

variable {doc : Json} {query : Query} {going : Bool} {first rest : Except Error Outcome}

/-! ### Children one after the other -/

/-- Children are evaluated as long as they come out in one way, all of them for `true` as in a
conjunction, and for `false` as in a disjunction. -/
def runWhile (doc : Json) (going : Bool) (children : List Query) : Except Error Outcome :=
  if going then runAll doc children else runAny doc children

/-- The outcome of a child and of those that follow it, if it came out as `going`. -/
def follow (going : Bool) (first rest : Except Error Outcome) : Except Error Outcome :=
  first.bind fun here =>
    if here.result = going then
      rest.map fun later => ⟨later.result, later.reached.or here.reached⟩
    else .ok here

@[simp] theorem runWhile_nil (doc : Json) (going : Bool) :
    runWhile doc going [] = .ok ⟨going, none⟩ := by
  cases going <;> rfl

theorem runWhile_cons (doc : Json) (going : Bool) (child : Query) (children : List Query) :
    runWhile doc going (child :: children) =
      follow going (child.run doc) (runWhile doc going children) := by
  cases going with
  | true =>
    simp only [runWhile, if_true, runAll, follow]
    cases child.run doc with
    | error error => rfl
    | ok here => cases runAll doc children <;> rfl
  | false =>
    simp only [runWhile, Bool.false_eq_true, if_false, runAny, follow]
    cases child.run doc with
    | error error => rfl
    | ok here =>
      obtain ⟨result, reached⟩ := here
      cases result <;> cases runAny doc children <;> rfl

def judgeWhile (doc : Json) (going : Bool) (children : List Query) (marks : Marks) :
    Except Error Bool × Marks :=
  if going then judgeAll doc children marks else judgeAny doc children marks

/-- The judgement of a child and, if it came out as `going`, that of what follows it. -/
def thread (going : Bool) (judged next : Marks → Except Error Bool × Marks) (marks : Marks) :
    Except Error Bool × Marks :=
  if (judged marks).1.toOption = some going then next (judged marks).2 else judged marks

@[simp] theorem judgeWhile_nil (doc : Json) (going : Bool) (marks : Marks) :
    judgeWhile doc going [] marks = (.ok going, marks) := by
  cases going <;> rfl

theorem judgeWhile_cons (doc : Json) (going : Bool) (child : Query) (children : List Query) :
    judgeWhile doc going (child :: children) =
      thread going (child.judge doc) (judgeWhile doc going children) := by
  funext marks
  cases going with
  | true =>
    simp only [judgeWhile, if_true, judgeAll, thread]
    rcases child.judge doc marks with ⟨error | truth, later⟩
    · rfl
    · cases truth <;> rfl
  | false =>
    simp only [judgeWhile, Bool.false_eq_true, if_false, judgeAny, thread]
    rcases child.judge doc marks with ⟨error | truth, later⟩
    · rfl
    · cases truth <;> rfl

/-! ### Conditions -/

namespace Check

def probe (check : Check) (doc : Json) : Except Error Outcome :=
  check.target.probe doc check.test

theorem probe_of_plain {check : Check} (plain : check.variantPath? = none) (doc : Json) :
    check.probe doc = (check.testAt check.target.field.toList doc).map fun result => ⟨result, none⟩ := by
  unfold variantPath? at plain
  simp only [probe, Target.probe, plain, testAt]

theorem probe_of_variants {check : Check} (variants : check.variantPath? = some path) (doc : Json) :
    check.probe doc = (Variant.firstMatching doc (check.testAt path)).map fun first =>
      ⟨first.isSome, some first⟩ := by
  unfold variantPath? at variants
  simp only [probe, Target.probe, variants]
  rfl

end Check

theorem run_of_check? (condition : query.check? = some check) (doc : Json) :
    query.run doc = check.bind (·.probe doc) := by
  cases query with
  | range target bounds =>
    cases condition
    simp only [run, rangeCheck]
    split <;> rfl
  | exact target value values ignoreCase =>
    cases condition
    simp only [run, exactCheck]
    cases operands? value values <;> rfl
  | present | textual =>
    cases condition
    rfl
  | _ => contradiction

theorem judge_of_check? (condition : query.check? = some check) (doc : Json) :
    query.judge doc = judgeCheck doc check := by
  cases query with
  | range | exact | present | textual =>
    cases condition
    rfl
  | _ => contradiction

/-! ### Marks carried along -/

/-- The marks after an evaluation that kept the match of a condition, or none. -/
def Marks.after (marks : Marks) : Option (Option Nat) → Marks
  | none => marks
  | some first => marks.keep first

theorem Marks.after_or (marks : Marks) (earlier later : Option (Option Nat)) :
    (marks.after earlier).after later = marks.after (later.or earlier) := by
  cases later with
  | none => rfl
  | some second =>
    cases earlier with
    | none => rfl
    | some first => cases wanted : marks.wanted <;> simp [after, keep, wanted]

/-- Carrying marks along gives the result of an outcome, with its match kept. -/
inductive Agrees : Except Error Outcome → (Marks → Except Error Bool × Marks) → Prop where
  | failed : (∀ marks, (judged marks).1 = .error error) → Agrees (.error error) judged
  | found : (∀ marks, judged marks = (.ok outcome.result, marks.after outcome.reached)) →
      Agrees (.ok outcome) judged

variable {judged next : Marks → Except Error Bool × Marks}

theorem Agrees.fst (agrees : Agrees first judged) (marks : Marks) :
    (judged marks).1 = first.map (·.result) := by
  cases agrees with
  | failed judgement => exact judgement marks
  | found judgement => exact congrArg Prod.fst (judgement marks)

theorem Agrees.follow (here : Agrees first judged) (there : Agrees rest next) :
    Agrees (follow going first rest) (thread going judged next) := by
  cases here with
  | failed judgement =>
    refine .failed fun marks => ?_
    simp [thread, judgement, Except.toOption]
  | @found _ outcome judgement =>
    by_cases goesOn : outcome.result = going
    · have threaded : ∀ marks, thread going judged next marks = next (marks.after outcome.reached) := by
        intro marks
        simp [thread, judgement, goesOn, Except.toOption]
      have followed : Query.follow going (.ok outcome) rest =
          rest.map fun later => ⟨later.result, later.reached.or outcome.reached⟩ := if_pos goesOn
      rw [followed]
      cases there with
      | failed judgement =>
        refine .failed fun marks => ?_
        rw [threaded, judgement]
      | found judgement =>
        refine .found fun marks => ?_
        rw [threaded, judgement, Marks.after_or]
    · have threaded : thread going judged next = judged := by
        funext marks
        simp [thread, judgement, goesOn, Except.toOption]
      have followed : Query.follow going (.ok outcome) rest = .ok outcome := if_neg goesOn
      rw [threaded, followed]
      exact .found judgement

theorem agrees_runWhile {children : List Query}
    (each : ∀ child ∈ children, Agrees (child.run doc) (child.judge doc)) (going : Bool) :
    Agrees (runWhile doc going children) (judgeWhile doc going children) := by
  induction children with
  | nil =>
    rw [runWhile_nil]
    exact .found fun marks => judgeWhile_nil doc going marks
  | cons child children ih =>
    obtain ⟨here, there⟩ := List.forall_mem_cons.mp each
    rw [runWhile_cons, judgeWhile_cons]
    exact here.follow (ih there)

/-- A negation turns the result over and keeps no match. -/
theorem Agrees.negate (agrees : Agrees first judged) :
    Agrees (first.map fun outcome => ⟨!outcome.result, none⟩)
      (fun marks => ((judged .suspended).1.map (!·), marks)) := by
  cases agrees with
  | failed judgement =>
    refine .failed fun marks => ?_
    rw [judgement]
    rfl
  | found judgement =>
    refine .found fun marks => ?_
    rw [judgement]
    rfl

theorem agrees_probe (check : Check) (doc : Json) : Agrees (check.probe doc) (check.judge doc) := by
  cases shape : check.variantPath? with
  | none =>
    rw [Check.probe_of_plain shape]
    cases tested : check.testAt check.target.field.toList doc with
    | error error =>
      refine .failed fun marks => ?_
      simp only [Check.judge, shape, tested]
    | ok result =>
      refine .found fun marks => ?_
      simp only [Check.judge, shape, tested, Marks.after]
  | some path =>
    rw [Check.probe_of_variants shape]
    cases searched : Variant.firstMatching doc (check.testAt path) with
    | error error =>
      refine .failed fun marks => ?_
      simp only [Check.judge, shape, searched]
    | ok first =>
      refine .found fun marks => ?_
      simp only [Check.judge, shape, searched, Marks.after]

theorem run_not (child : Query) (doc : Json) :
    (not child).run doc = (child.run doc).map fun outcome => ⟨!outcome.result, none⟩ := by
  rw [run]
  cases child.run doc <;> rfl

theorem run_nor (children : List Query) (doc : Json) : (nor children).run doc =
    (runWhile doc false children).map fun outcome => ⟨!outcome.result, none⟩ := by
  rw [run, runWhile, if_neg Bool.false_ne_true]
  cases runAny doc children <;> rfl

/-- Judging a query with marks comes to the same as running it. -/
theorem agrees_run (query : Query) (doc : Json) : Agrees (query.run doc) (query.judge doc) := by
  induction query using induct with
  | and children ih => exact agrees_runWhile ih true
  | filter children ih => exact agrees_runWhile ih true
  | or children ih => exact agrees_runWhile ih false
  | not child ih =>
    rw [run_not]
    exact ih.negate
  | nor children ih =>
    rw [run_nor]
    exact (agrees_runWhile ih false).negate
  | condition query check condition =>
    rw [run_of_check? condition, judge_of_check? condition]
    cases check with
    | error error => exact .failed fun marks => rfl
    | ok check => exact agrees_probe check doc

/-! ### Conditions that are reached -/

/-- A condition that evaluation comes to, and whether it stands under a negation. -/
structure Visit where
  condition : Query
  negated : Bool

def Visit.negate (visit : Visit) : Visit :=
  { visit with negated := true }

mutual
/-- The conditions that the evaluation of a query comes to, in its order. -/
def visits (doc : Json) : Query → List Visit
  | and children => visitsWhile doc true children
  | filter children => visitsWhile doc true children
  | or children => visitsWhile doc false children
  | not child => (visits doc child).map .negate
  | nor children => (visitsWhile doc false children).map .negate
  | condition => [⟨condition, false⟩]

/-- Evaluation goes on to the next child after one that came out as `going`. -/
def visitsWhile (doc : Json) (going : Bool) : List Query → List Visit
  | [] => []
  | child :: children =>
    visits doc child ++
      if (child.holds doc).toOption = some going then visitsWhile doc going children else []
end

/-- The test that a condition on variants puts to each of them, if it has its operands. -/
def variantTest? (condition : Query) : Option (Json → Except Error Bool) := do
  let check ← (← condition.check?).toOption
  let path ← check.variantPath?
  some (check.testAt path)

/-- The tests of the conditions on variants among some conditions that are not negated. -/
def markers (visits : List Visit) : List (Json → Except Error Bool) :=
  visits.filterMap fun visit => if visit.negated then none else visit.condition.variantTest?

@[simp] theorem markers_append (earlier later : List Visit) :
    markers (earlier ++ later) = markers earlier ++ markers later :=
  List.filterMap_append

@[simp] theorem markers_negate (visits : List Visit) : markers (visits.map .negate) = [] := by
  simp [markers, Visit.negate]

theorem visits_of_check? (condition : query.check? = some check) (doc : Json) :
    query.visits doc = [⟨query, false⟩] := by
  cases query with
  | range | exact | present | textual => rfl
  | _ => contradiction

/-- An outcome is that of the conditions that were reached: it fails exactly if one of them does, and
the match it keeps is that of the last one that may mark. -/
structure Traced (doc : Json) (outcome : Except Error Outcome) (visits : List Visit) : Prop where
  failure : ∀ error, outcome = .error error ↔
    ∃ visit ∈ visits, visit.condition.run doc = .error error
  reached : ∀ found, outcome = .ok found →
    found.reached.map .ok = (markers visits).getLast?.map (Variant.firstMatching doc)

variable {earlier later : List Visit}

theorem Traced.follow (here : Traced doc first earlier) (there : Traced doc rest later) :
    Traced doc (follow going first rest)
      (earlier ++ if (first.map (·.result)).toOption = some going then later else []) := by
  cases first with
  | error error =>
    rw [if_neg (by simp [Except.map, Except.toOption]), List.append_nil]
    exact here
  | ok found =>
    by_cases goesOn : found.result = going
    · have followed : Query.follow going (.ok found) rest =
          rest.map fun later => ⟨later.result, later.reached.or found.reached⟩ := if_pos goesOn
      have goes : (Except.map Outcome.result (.ok found : Except Error Outcome)).toOption = some going :=
        congrArg some goesOn
      rw [followed, if_pos goes]
      constructor
      · intro error
        have none : ¬ ∃ visit ∈ earlier, visit.condition.run doc = .error error := by
          rw [← here.failure error]
          nofun
        rw [Expansion.map_eq_error_iff, there.failure error]
        simp only [List.mem_append, or_and_right, exists_or, none, false_or]
      · intro outcome succeeded
        cases rest with
        | error _ => cases succeeded
        | ok last =>
          cases succeeded
          rw [markers_append, List.getLast?_append, Option.map_or, Option.map_or,
            there.reached last rfl, here.reached found rfl]
    · have followed : Query.follow going (.ok found) rest = .ok found := if_neg goesOn
      have stops : ¬ (Except.map Outcome.result (.ok found : Except Error Outcome)).toOption = some going :=
        fun same => goesOn (Option.some.inj same)
      rw [followed, if_neg stops, List.append_nil]
      exact here

theorem Traced.negate (traced : Traced doc first earlier) :
    Traced doc (first.map fun outcome => ⟨!outcome.result, none⟩) (earlier.map .negate) := by
  constructor
  · intro error
    rw [Expansion.map_eq_error_iff, traced.failure error]
    simp [Visit.negate]
  · intro found succeeded
    cases first with
    | error _ => cases succeeded
    | ok outcome =>
      cases succeeded
      rw [markers_negate]
      rfl

theorem traced_runWhile {children : List Query}
    (each : ∀ child ∈ children, Traced doc (child.run doc) (child.visits doc)) (going : Bool) :
    Traced doc (runWhile doc going children) (visitsWhile doc going children) := by
  induction children with
  | nil =>
    rw [runWhile_nil, visitsWhile]
    constructor
    · simp
    · intro found same
      cases same
      rfl
  | cons child children ih =>
    obtain ⟨here, there⟩ := List.forall_mem_cons.mp each
    rw [runWhile_cons, visitsWhile]
    exact here.follow (ih there)

theorem variantTest?_of_check (condition : query.check? = some (.ok check)) :
    query.variantTest? = check.variantPath?.map check.testAt := by
  rw [variantTest?, condition]
  cases shape : check.variantPath? <;> simp [Except.toOption, shape]

/-- A condition alone keeps what its search among the variants finds. -/
theorem traced_condition (condition : query.check? = some check) (doc : Json) :
    Traced doc (query.run doc) [⟨query, false⟩] := by
  constructor
  · simp
  · intro found succeeded
    rw [run_of_check? condition] at succeeded
    cases check with
    | error error => cases succeeded
    | ok check =>
      have tested := variantTest?_of_check condition
      change check.probe doc = .ok found at succeeded
      cases shape : check.variantPath? with
      | none =>
        rw [Check.probe_of_plain shape] at succeeded
        obtain ⟨result, -, rfl⟩ := Expansion.map_eq_ok_iff.mp succeeded
        simp [markers, tested, shape]
      | some path =>
        rw [Check.probe_of_variants shape] at succeeded
        obtain ⟨first, searched, rfl⟩ := Expansion.map_eq_ok_iff.mp succeeded
        simp [markers, tested, shape, searched]

/-- Evaluation fails with a condition that it reaches, and keeps the match of the last one that may
mark. -/
theorem traced_run (query : Query) (doc : Json) : Traced doc (query.run doc) (query.visits doc) := by
  induction query using induct with
  | and children ih => exact traced_runWhile ih true
  | filter children ih => exact traced_runWhile ih true
  | or children ih => exact traced_runWhile ih false
  | not child ih =>
    rw [run_not]
    exact ih.negate
  | nor children ih =>
    rw [run_nor]
    exact (traced_runWhile ih false).negate
  | condition query check condition =>
    rw [visits_of_check? condition]
    exact traced_condition condition doc

end Storefront.Query
