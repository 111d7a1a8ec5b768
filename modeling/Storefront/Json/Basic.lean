import Storefront.Decimal.Binary64
import Storefront.Dictionary

/-!
JSON values: documents, drafts, operands and answers. Integers and binary64 numbers are different
values, also where they are numerically equal; an object is a dictionary of its members.
-/
namespace Storefront

/-- A number is an integer of 64 bits, signed or not, or a finite binary64 number. -/
inductive Number where
  | integer (value : Int)
  | float (value : Binary64)
deriving DecidableEq, Repr

namespace Number

/-- The binary64 number nearest to a number; all numeric order and equality go through it. -/
def toBinary64 : Number → Binary64
  | integer value => Binary64.ofInt value
  | float value => value

/-- Sameness of values: integers with integers, floats with floats. -/
def same : Number → Number → Bool
  | integer a, integer b => a = b
  | float a, float b => a.equal b
  | _, _ => false

/-- The number as an unsigned integer of 64 bits. -/
def toNatural? : Number → Option Nat
  | integer value => if 0 ≤ value ∧ value < 0x10000000000000000 then some value.toNat else none
  | float _ => none

/-- What the constructors promise of their values. -/
def InRange : Number → Prop
  | integer value => -0x8000000000000000 ≤ value ∧ value < 0x10000000000000000
  | float value => value.units < Binary64.limit

end Number

/-- The members of an object form a `Dictionary`. -/
inductive Json where
  | null
  | bool (value : Bool)
  | number (value : Number)
  | string (value : String)
  | array (items : List Json)
  | object (members : List (String × Json))
deriving Repr, Inhabited

namespace Json

def field? : Json → String → Option Json
  | object members, name => Dictionary.get? members name
  | _, _ => none

def item? : Json → Nat → Option Json
  | array items, index => items[index]?
  | _, _ => none

def string? : Json → Option String
  | string value => some value
  | _ => none

def bool? : Json → Option Bool
  | bool value => some value
  | _ => none

def natural? : Json → Option Nat
  | number value => value.toNatural?
  | _ => none

def array? : Json → Option (List Json)
  | array items => some items
  | _ => none

def isString : Json → Bool
  | string _ => true
  | _ => false

def isObject : Json → Bool
  | object _ => true
  | _ => false

def isNull : Json → Bool
  | null => true
  | _ => false

def ofNat (n : Nat) : Json :=
  number (.integer n)

def ofInt (i : Int) : Json :=
  number (.integer i)

/-- An object with the members given, in any order. -/
def ofMembers (members : List (String × Json)) : Json :=
  object (Dictionary.ofList members)

/-- `value` with the member `name` set; other values than objects stay as they are. -/
def setField (value : Json) (name : String) (member : Json) : Json :=
  match value with
  | object members => object (Dictionary.insert members name member)
  | other => other

def dropField (value : Json) (name : String) : Json :=
  match value with
  | object members => object (Dictionary.erase members name)
  | other => other

/-- The type of a value as error messages name it. -/
def typeName : Json → String
  | null => "null"
  | bool _ => "boolean"
  | number _ => "number"
  | string _ => "string"
  | array _ => "array"
  | object _ => "object"

mutual
/-- Sameness of values, which keeps integers and floats apart at every depth. -/
def same : Json → Json → Bool
  | null, null => true
  | bool a, bool b => a = b
  | number a, number b => a.same b
  | string a, string b => a = b
  | array xs, array ys => sameItems xs ys
  | object xs, object ys => sameMembers xs ys
  | _, _ => false

def sameItems : List Json → List Json → Bool
  | [], [] => true
  | x :: xs, y :: ys => same x y && sameItems xs ys
  | _, _ => false

def sameMembers : List (String × Json) → List (String × Json) → Bool
  | [], [] => true
  | (a, x) :: xs, (b, y) :: ys => a = b && same x y && sameMembers xs ys
  | _, _ => false
end

mutual
/-- What reading promises of a value: numbers in range and the members of every object in order. -/
def WellFormed : Json → Prop
  | number value => value.InRange
  | array items => WellFormedItems items
  | object members => Dictionary.Ordered members ∧ WellFormedMembers members
  | _ => True

def WellFormedItems : List Json → Prop
  | [] => True
  | item :: items => WellFormed item ∧ WellFormedItems items

def WellFormedMembers : List (String × Json) → Prop
  | [] => True
  | (_, value) :: members => WellFormed value ∧ WellFormedMembers members
end

end Json
end Storefront
