/-!
Binary64 numbers as exact integers.

Every binary64 number is a whole number of units of `2⁻¹⁰⁷⁴`, so that order and equality of numbers
are those of integers and each operation is one exact integer computation followed by one rounding.
The magnitude of `2¹⁰²⁴` stands for infinity. There is no not-a-number: no operation here yields it.
-/
namespace Storefront

/-- A sign and a magnitude in units of `2⁻¹⁰⁷⁴`. Both zeros are kept apart as values. -/
structure Binary64 where
  negative : Bool
  units : Nat
deriving DecidableEq, Repr, Inhabited

namespace Binary64

/-- The units in one. -/
def unit : Nat := Nat.pow 2 1074

/-- The magnitude at which a number is infinite, in units. -/
def limit : Nat := Nat.pow 2 2098

/-- The signed count of units. -/
def toInt (x : Binary64) : Int :=
  if x.negative then -(x.units : Int) else x.units

def isFinite (x : Binary64) : Bool :=
  x.units < limit

def isZero (x : Binary64) : Bool :=
  x.units = 0

/-- How many low bits of a magnitude of `q` units lie below its 53 leading bits. -/
def spareBits (q : Nat) : Nat :=
  Nat.log2 q - 52

/-- The representable magnitude nearest to `num / den` units, of two equally near ones the one with
an even significand; infinity from the middle between the largest finite magnitude and `limit`. -/
def nearest (num den : Nat) : Nat :=
  let bits := spareBits (num / den)
  let step := den * Nat.pow 2 bits
  let below := num / step
  let rest := num % step
  let rounded :=
    if 2 * rest > step ∨ (2 * rest = step ∧ below % 2 = 1) then below + 1 else below
  min (rounded * Nat.pow 2 bits) limit

/-- The number nearest to the quotient `num / den` with the given sign. -/
def ofRatio (negative : Bool) (num den : Nat) : Binary64 :=
  ⟨negative, nearest (num * unit) den⟩

def zero : Binary64 := ⟨false, 0⟩

def ofInt (i : Int) : Binary64 :=
  ofRatio (i < 0) i.natAbs 1

def mul (x y : Binary64) : Binary64 :=
  ⟨x.negative != y.negative, nearest (x.units * y.units) unit⟩

/-- The quotient by a divisor other than zero. -/
def div (x y : Binary64) : Binary64 :=
  ⟨x.negative != y.negative, nearest (x.units * unit) y.units⟩

/-- The numeric order; the two zeros are level. -/
def order (x y : Binary64) : Ordering :=
  compare x.toInt y.toInt

/-- Numeric equality; the two zeros are equal. -/
def equal (x y : Binary64) : Bool :=
  x.toInt = y.toInt

end Binary64
end Storefront
