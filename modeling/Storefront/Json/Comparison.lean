import Storefront.Json.Basic
import Storefront.Decimal.Numeral
import Storefront.Text.Blank

/-!
Truth, equality and order of JSON values. Predicates compare loosely: numbers, booleans and strings
that spell numbers are compared as numbers. Ranges and searches compare strictly.
-/
namespace Storefront.Json

/-- Absent values, null, `false`, zero and the empty string are not truthy. -/
def isTruthy : Option Json → Bool
  | none => false
  | some null => false
  | some (bool value) => value
  | some (number value) => !value.toBinary64.isZero
  | some (string value) => value ≠ ""
  | some (array _) => true
  | some (object _) => true

def isExponentMark (c : Char) : Bool :=
  c = 'e' || c = 'E'

def isLetter (c : Char) : Bool :=
  ('a' ≤ c && c ≤ 'z') || ('A' ≤ c && c ≤ 'Z')

/-- The number a string spells between blanks; blanks alone spell zero. -/
def spelledNumber? (text : String) : Option Binary64 :=
  let cs := Text.trim text.toList
  if cs = [] then some Binary64.zero
  else if cs.any (fun c => isLetter c && !isExponentMark c) then none
  else Numeral.binary64? cs

/-- The number that a value counts as in a loose comparison. -/
def toNumber? : Json → Option Binary64
  | null => some Binary64.zero
  | bool value => some (Binary64.ofInt (if value then 1 else 0))
  | number value => some value.toBinary64
  | string value => spelledNumber? value
  | array _ => none
  | object _ => none

/-- Equality without coercion; numbers are equal if their binary64 values are. -/
def strictEq : Json → Json → Bool
  | number a, number b => a.toBinary64.equal b.toBinary64
  | a, b => a.same b

/-- Equality of a field that may be absent with a literal. Null equals null and an absent field
only, containers are compared as they are, and values of different types as numbers. -/
def looseEq : Option Json → Json → Bool
  | none, literal => literal.isNull
  | some null, null => true
  | some null, _ => false
  | some _, null => false
  | some (string a), string b => a = b
  | some (number a), number b => strictEq (number a) (number b)
  | some (array items), literal => same (array items) literal
  | some (object members), literal => same (object members) literal
  | some _, array _ => false
  | some _, object _ => false
  | some field, literal =>
    match toNumber? field, toNumber? literal with
    | some a, some b => a.equal b
    | _, _ => false

/-- The order of two strings, or of two values as numbers. -/
def compareLoose : Json → Json → Option Ordering
  | string a, string b => some (compare a b)
  | field, literal =>
    match toNumber? field, toNumber? literal with
    | some a, some b => some (a.order b)
    | _, _ => none

def compareStrict : Json → Json → Option Ordering
  | string a, string b => some (compare a b)
  | number a, number b => some (a.toBinary64.order b.toBinary64)
  | _, _ => none

/-- The values a condition is tried on: the elements of an array, else the value itself. -/
def candidates : Json → List Json
  | array items => items
  | value => [value]

end Storefront.Json
