import Storefront.Json.Comparison

/-!
Loose order against loose equality. The two are case tables of their own over pairs of types, and they
agree: except for null, values are equal exactly if neither is in front of the other, and have an order
exactly if both are texts or both count as numbers.
-/
namespace Storefront

theorem Binary64.equal_eq_order (a b : Binary64) : a.equal b = (a.order b == .eq) := by
  rw [Bool.eq_iff_iff, beq_iff_eq, order, Std.compare_eq_iff_eq, equal, decide_eq_true_eq]

namespace Json

/-- A truth value, a number or a text, as literals are. -/
inductive IsScalar : Json → Prop where
  | bool (value : Bool) : IsScalar (bool value)
  | number (value : Number) : IsScalar (number value)
  | string (value : String) : IsScalar (string value)

/-- Two texts, or two values that count as numbers. -/
def Comparable (value literal : Json) : Prop :=
  (value.isString = true ∧ literal.isString = true) ∨
    (value.toNumber?.isSome = true ∧ literal.toNumber?.isSome = true)

/-- The order of two values as numbers, if they count as numbers. -/
def compareAsNumbers (value literal : Json) : Option Ordering :=
  match value.toNumber?, literal.toNumber? with
  | some a, some b => some (a.order b)
  | _, _ => none

variable {value literal : Json}

theorem compareLoose_eq_compareAsNumbers (mixed : ¬ (value.isString = true ∧ literal.isString = true)) :
    value.compareLoose literal = value.compareAsNumbers literal := by
  unfold compareLoose
  split
  · exact absurd ⟨rfl, rfl⟩ mixed
  · rfl

/-- A value that is not null equals a literal if neither is in front of the other. -/
theorem looseEq_eq_compareLoose (present : value ≠ null) (scalar : literal.IsScalar) :
    looseEq (some value) literal = ((value.compareLoose literal).map (· == .eq)).getD false := by
  have asNumbers : (match value.toNumber?, literal.toNumber? with
      | some a, some b => a.equal b
      | _, _ => false) = ((value.compareAsNumbers literal).map (· == .eq)).getD false := by
    unfold compareAsNumbers
    cases value.toNumber? with
    | none => rfl
    | some a =>
      cases literal.toNumber? with
      | none => rfl
      | some b => exact Binary64.equal_eq_order a b
  cases value with
  | null => exact absurd rfl present
  | array items => cases scalar <;> rfl
  | object members => cases scalar <;> rfl
  | string a =>
    cases scalar with
    | string b =>
      have same : decide (a = b) = (compare a b == .eq) := by
        rw [Bool.eq_iff_iff, beq_iff_eq, Std.compare_eq_iff_eq, decide_eq_true_eq]
      exact same
    | bool b => exact asNumbers
    | number b => exact asNumbers
  | bool a => cases scalar <;> exact asNumbers
  | number a =>
    cases scalar with
    | number b => exact Binary64.equal_eq_order a.toBinary64 b.toBinary64
    | bool b => exact asNumbers
    | string b => exact asNumbers

theorem isSome_compareLoose_iff :
    (value.compareLoose literal).isSome = true ↔ Comparable value literal := by
  by_cases texts : value.isString = true ∧ literal.isString = true
  · obtain ⟨a, rfl⟩ : ∃ a, value = string a := by cases value <;> simp_all [isString]
    obtain ⟨b, rfl⟩ : ∃ b, literal = string b := by cases literal <;> simp_all [isString]
    exact iff_of_true rfl (.inl texts)
  · rw [compareLoose_eq_compareAsNumbers texts, Comparable, or_iff_right texts, compareAsNumbers]
    cases value.toNumber? <;> cases literal.toNumber? <;> simp

end Json
end Storefront
