import Storefront.Proofs.Json.Structure

/-! Positions inside of a value, given by the members and the items to go to one after the other. -/
namespace Storefront.Json

inductive Selector where
  | member (name : String)
  | item (index : Nat)
deriving DecidableEq

abbrev Position := List Selector

def select? (value : Json) : Selector → Option Json
  | .member name => value.field? name
  | .item index => value.item? index

/-- The value at a position of another. -/
def at? : Json → Position → Option Json
  | value, [] => some value
  | value, selector :: position =>
    match value.select? selector with
    | none => none
    | some inner => inner.at? position

variable {value inner : Json} {selector : Selector} {position : Position}

@[simp] theorem at?_nil (value : Json) : value.at? [] = some value := rfl

theorem at?_cons_of_some (selected : value.select? selector = some inner) (position : Position) :
    value.at? (selector :: position) = inner.at? position := by
  simp only [at?, selected]

theorem at?_cons_of_none (missing : value.select? selector = none) (position : Position) :
    value.at? (selector :: position) = none := by
  simp only [at?, missing]

theorem at?_cons (value : Json) (selector : Selector) (position : Position) :
    value.at? (selector :: position) = (value.select? selector).bind (·.at? position) := by
  cases selected : value.select? selector with
  | none => rw [at?_cons_of_none selected, Option.bind_none]
  | some inner => rw [at?_cons_of_some selected, Option.bind_some]

theorem at?_cons_eq_some_iff :
    value.at? (selector :: position) = some inner ↔
      ∃ middle, value.select? selector = some middle ∧ middle.at? position = some inner := by
  cases selected : value.select? selector with
  | none => simp [at?_cons_of_none selected]
  | some middle => simp [at?_cons_of_some selected]

theorem at?_append (value : Json) (position further : Position) :
    value.at? (position ++ further) = (value.at? position).bind (·.at? further) := by
  induction position generalizing value with
  | nil => rfl
  | cons selector position ih =>
    cases selected : value.select? selector with
    | none => simp only [List.cons_append, at?_cons_of_none selected, Option.bind_none]
    | some inner => simp only [List.cons_append, at?_cons_of_some selected, ih]

/-- Setting a member changes what is selected by its name only. -/
theorem select?_setField_of_ne (value member : Json) (different : selector ≠ .member name) :
    (value.setField name member).select? selector = value.select? selector := by
  cases selector with
  | member other =>
    have distinct : name ≠ other := fun same => different (congrArg Selector.member same.symm)
    exact field?_setField_of_ne value member distinct
  | item index => cases value <;> rfl

theorem select?_setField_self (shape : value.isObject = true) (name : String) (member : Json) :
    (value.setField name member).select? (.member name) = some member :=
  field?_setField_self shape name member

/-- A value without what is inside of it, which other positions tell. -/
def hull : Json → Json
  | array _ => array []
  | object _ => object []
  | value => value

theorem hull_of_isObject (shape : value.isObject = true) : value.hull = object [] := by
  obtain ⟨_, rfl⟩ := isObject_iff.mp shape
  rfl

end Storefront.Json
