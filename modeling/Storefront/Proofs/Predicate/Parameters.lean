import Storefront.Predicate.Basic
import Storefront.Proofs.Traversal

/-!
Parameters of predicates. An evaluation fails at the first parameter without a value that it comes to,
and on nothing else. How far it goes depends on the document.
-/
namespace Storefront

/-- A parameter that is given no value. -/
def Unbound (vars : Variables) (name : String) : Prop :=
  Dictionary.get? vars name = none

variable {vars : Variables} {error : Error} {name : String}

namespace Operand

theorem resolve_error_iff {operand : Operand} :
    operand.resolve vars = .error error ↔
      ∃ name, operand = .parameter name ∧ Unbound vars name ∧
        error = .badInput (.unbound name) := by
  cases operand with
  | value literal => exact ⟨nofun, nofun⟩
  | parameter name =>
    simp only [resolve, Unbound]
    constructor
    · intro failed
      split at failed
      · contradiction
      · rename_i missing
        exact ⟨name, rfl, missing, (Except.error.inj failed).symm⟩
    · rintro ⟨_, same, missing, rfl⟩
      cases same
      rw [missing]

/-- A list takes an operand in exactly if the operand has a value. -/
theorem splice_error_iff {operand : Operand} :
    operand.splice vars = .error error ↔ operand.resolve vars = .error error := by
  unfold splice
  split
  · rename_i resolved
    rw [resolved, Except.error.injEq, Except.error.injEq]
  · rename_i resolved
    rw [resolved]
    exact ⟨nofun, nofun⟩
  · rename_i resolved
    rw [resolved]
    exact ⟨nofun, nofun⟩

/-- The operands of a list are resolved up to the first one without a value. -/
theorem resolveAll_error_iff {operands : List Operand} :
    resolveAll vars operands = .error error ↔
      ∃ operand,
        ComesTo (fun earlier => ∃ value, earlier.resolve vars = .ok value) operands operand ∧
        operand.resolve vars = .error error := by
  induction operands with
  | nil => exact ⟨nofun, fun ⟨_, comes, _⟩ => absurd comes comesTo_nil⟩
  | cons first operands ih =>
    rw [exists_comesTo_cons, ← ih, resolveAll]
    cases resolved : first.resolve vars with
    | error e =>
      rw [splice_error_iff.mpr resolved]
      simp
    | ok value =>
      cases spliced : first.splice vars with
      | error e => exact absurd (resolved.symm.trans (splice_error_iff.mp spliced)) nofun
      | ok found => cases resolveAll vars operands <;> simp

/-- Resolving some operands comes to a parameter without a value. -/
def Meets (vars : Variables) (operands : List Operand) (name : String) : Prop :=
  ComesTo (fun earlier => ∃ value, earlier.resolve vars = .ok value) operands (.parameter name) ∧
    Unbound vars name

theorem resolveAll_error_iff_meets {operands : List Operand} :
    resolveAll vars operands = .error error ↔
      ∃ name, error = .badInput (.unbound name) ∧ Meets vars operands name := by
  rw [resolveAll_error_iff]
  constructor
  · rintro ⟨operand, comes, failed⟩
    obtain ⟨name, rfl, unbound, rfl⟩ := resolve_error_iff.mp failed
    exact ⟨name, rfl, comes, unbound⟩
  · rintro ⟨name, rfl, comes, unbound⟩
    exact ⟨_, comes, resolve_error_iff.mpr ⟨name, rfl, unbound, rfl⟩⟩

def parameter? : Operand → Option String
  | value _ => none
  | parameter name => some name

end Operand

namespace Test

/-- The evaluation of a test on a document comes to a parameter without a value. -/
def Meets (vars : Variables) (test : Test) (doc : Json) (name : String) : Prop :=
  match test with
  | negation inner => inner.Meets vars doc name
  | conjunction left right =>
    left.Meets vars doc name ∨ left.evaluate vars doc = .ok true ∧ right.Meets vars doc name
  | disjunction left right =>
    left.Meets vars doc name ∨ left.evaluate vars doc = .ok false ∧ right.Meets vars doc name
  | comparison _ _ operand => operand = .parameter name ∧ Unbound vars name
  | membership _ _ operands => Operand.Meets vars operands name
  | examination _ _ _ => False
  | containment _ _ operands => Operand.Meets vars operands name
  | descent field inner =>
    match doc.field? field with
    | none => False
    | some (.array items) =>
      ∃ item, ComesTo (fun earlier => inner.evaluate vars earlier = .ok false) items item ∧
        inner.Meets vars item name
    | some child => Json.isTruthy (some child) = true ∧ inner.Meets vars child name

/-- An error for a parameter that is found at once, or further on if that is reached. -/
theorem exists_met_either {first later : String → Prop} {reached : Prop} :
    (∃ name, error = .badInput (.unbound name) ∧ (first name ∨ reached ∧ later name)) ↔
      (∃ name, error = .badInput (.unbound name) ∧ first name) ∨
        reached ∧ ∃ name, error = .badInput (.unbound name) ∧ later name := by
  constructor
  · rintro ⟨name, same, met | ⟨goes, met⟩⟩
    · exact .inl ⟨name, same, met⟩
    · exact .inr ⟨goes, name, same, met⟩
  · rintro (⟨name, same, met⟩ | ⟨goes, name, same, met⟩)
    · exact ⟨name, same, .inl met⟩
    · exact ⟨name, same, .inr ⟨goes, met⟩⟩

/-- An evaluation fails exactly if it comes to a parameter without a value, and names it. -/
theorem evaluate_error_iff {test : Test} {doc : Json} :
    test.evaluate vars doc = .error error ↔
      ∃ name, error = .badInput (.unbound name) ∧ test.Meets vars doc name := by
  induction test generalizing doc with
  | negation inner ih =>
    simp only [Meets, ← ih, evaluate]
    cases inner.evaluate vars doc <;> simp
  | conjunction left right ihLeft ihRight =>
    simp only [Meets, exists_met_either, ← ihLeft, ← ihRight, evaluate]
    cases left.evaluate vars doc with
    | error e => simp
    | ok holds => cases holds <;> simp
  | disjunction left right ihLeft ihRight =>
    simp only [Meets, exists_met_either, ← ihLeft, ← ihRight, evaluate]
    cases left.evaluate vars doc with
    | error e => simp
    | ok holds => cases holds <;> simp
  | comparison field relation operand =>
    have failed : (comparison field relation operand).evaluate vars doc = .error error ↔
        operand.resolve vars = .error error := by
      rw [evaluate]
      cases operand.resolve vars <;> simp
    rw [failed, Operand.resolve_error_iff]
    constructor
    · rintro ⟨name, same, unbound, fault⟩
      exact ⟨name, fault, same, unbound⟩
    · rintro ⟨name, fault, same, unbound⟩
      exact ⟨name, same, unbound, fault⟩
  | membership field negated operands =>
    have failed : (membership field negated operands).evaluate vars doc = .error error ↔
        Operand.resolveAll vars operands = .error error := by
      rw [evaluate]
      cases Operand.resolveAll vars operands <;> simp
    exact failed.trans Operand.resolveAll_error_iff_meets
  | examination field negated check => simp [Meets, evaluate]
  | containment field quantifier operands =>
    have failed : (containment field quantifier operands).evaluate vars doc = .error error ↔
        Operand.resolveAll vars operands = .error error := by
      rw [evaluate]
      cases Operand.resolveAll vars operands <;> simp
    exact failed.trans Operand.resolveAll_error_iff_meets
  | descent field inner ih =>
    have single (child : Json) :
        (if Json.isTruthy (some child) = true then inner.evaluate vars child else .ok false) =
            .error error ↔
          ∃ name, error = .badInput (.unbound name) ∧
            Json.isTruthy (some child) = true ∧ inner.Meets vars child name := by
      cases truthy : Json.isTruthy (some child) with
      | false => simp
      | true => simpa using ih
    simp only [Meets, evaluate]
    cases there : doc.field? field with
    | none => simp [Json.isTruthy]
    | some child =>
      cases child with
      | array items =>
        change items.anyM _ = _ ↔ _
        rw [anyM_error_iff]
        constructor
        · rintro ⟨item, comes, failed⟩
          obtain ⟨name, same, met⟩ := ih.mp failed
          exact ⟨name, same, item, comes, met⟩
        · rintro ⟨name, same, item, comes, met⟩
          exact ⟨item, comes, ih.mpr ⟨name, same, met⟩⟩
      | _ => exact single _

/-- The names of the parameters of a test. -/
def parameters : Test → List String
  | negation inner => inner.parameters
  | conjunction left right => left.parameters ++ right.parameters
  | disjunction left right => left.parameters ++ right.parameters
  | comparison _ _ operand => operand.parameter?.toList
  | membership _ _ operands => operands.filterMap Operand.parameter?
  | examination _ _ _ => []
  | containment _ _ operands => operands.filterMap Operand.parameter?
  | descent _ inner => inner.parameters

/-- What an evaluation comes to is a parameter of the test, and unbound. -/
theorem Meets.parameter {test : Test} {doc : Json} (met : test.Meets vars doc name) :
    name ∈ test.parameters ∧ Unbound vars name := by
  have among {operands : List Operand} (met : Operand.Meets vars operands name) :
      name ∈ operands.filterMap Operand.parameter? ∧ Unbound vars name :=
    ⟨List.mem_filterMap.mpr ⟨_, met.1.mem, rfl⟩, met.2⟩
  induction test generalizing doc with
  | negation inner ih => exact ih met
  | conjunction left right ihLeft ihRight =>
    rcases met with met | ⟨-, met⟩
    · exact (ihLeft met).imp_left (List.mem_append_left _)
    · exact (ihRight met).imp_left (List.mem_append_right _)
  | disjunction left right ihLeft ihRight =>
    rcases met with met | ⟨-, met⟩
    · exact (ihLeft met).imp_left (List.mem_append_left _)
    · exact (ihRight met).imp_left (List.mem_append_right _)
  | comparison field relation operand =>
    obtain ⟨rfl, unbound⟩ := met
    exact ⟨List.mem_singleton_self name, unbound⟩
  | membership field negated operands => exact among met
  | examination field negated check => exact met.elim
  | containment field quantifier operands => exact among met
  | descent field inner ih =>
    simp only [Meets] at met
    split at met
    · exact met.elim
    · obtain ⟨item, -, met⟩ := met
      exact ih met
    · exact ih met.2

/-- Where all parameters are bound, an evaluation succeeds on every document. -/
theorem exists_evaluate {test : Test} (bound : ∀ name ∈ test.parameters, ¬ Unbound vars name)
    (doc : Json) : ∃ truth, test.evaluate vars doc = .ok truth := by
  cases evaluated : test.evaluate vars doc with
  | ok truth => exact ⟨truth, rfl⟩
  | error e =>
    obtain ⟨name, -, met⟩ := evaluate_error_iff.mp evaluated
    exact absurd met.parameter.2 (bound name met.parameter.1)

end Test

namespace Predicate

/-- The evaluation of a predicate on a document comes to a parameter without a value. -/
def Meets (predicate : Predicate) (vars : Variables) (doc : Json) (name : String) : Prop :=
  ∃ test, ComesTo (fun earlier => earlier.evaluate vars doc = .ok true) predicate.tests test ∧
    test.Meets vars doc name

theorem matchesWith_error_iff {predicate : Predicate} {doc : Json} :
    predicate.matchesWith vars doc = .error error ↔
      ∃ name, error = .badInput (.unbound name) ∧ predicate.Meets vars doc name := by
  rw [matchesWith, allM_error_iff]
  constructor
  · rintro ⟨test, comes, failed⟩
    obtain ⟨name, same, met⟩ := Test.evaluate_error_iff.mp failed
    exact ⟨name, same, test, comes, met⟩
  · rintro ⟨name, same, test, comes, met⟩
    exact ⟨test, comes, Test.evaluate_error_iff.mpr ⟨name, same, met⟩⟩

/-- All parameters of a predicate have values. -/
def Bound (predicate : Predicate) (vars : Variables) : Prop :=
  ∀ test ∈ predicate.tests, ∀ name ∈ test.parameters, ¬ Unbound vars name

theorem Bound.not_meets {predicate : Predicate} (bound : predicate.Bound vars) (doc : Json) :
    ¬ predicate.Meets vars doc name := by
  rintro ⟨test, comes, met⟩
  exact bound test comes.mem name met.parameter.1 met.parameter.2

end Predicate
end Storefront
