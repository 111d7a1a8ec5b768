import Storefront.Decimal.Binary64

/-!
The decimal written for a binary64 number: the fewest significant digits that read back as the same
number, and of those the nearest to it.
-/
namespace Storefront

/-- `digits × 10 ^ exponent`. -/
structure Decimal where
  digits : Nat
  exponent : Int
deriving DecidableEq, Repr

namespace Decimal

/-- The number of decimal digits of `n`; one for zero. -/
def length (n : Nat) : Nat :=
  (Nat.toDigits 10 n).length

/-- The decimal without the zeros at the end of its digits, of which at most `fuel` are taken. -/
def trim : Nat → Decimal → Decimal
  | 0, d => d
  | fuel + 1, d =>
    if d.digits % 10 = 0 ∧ d.digits ≠ 0 then trim fuel ⟨d.digits / 10, d.exponent + 1⟩ else d

end Decimal

namespace Binary64

/-- The decimal exponent of the leading digit of a magnitude above zero: the smallest such magnitude
is above `10 ^ (-324)`. -/
def leadingExponent (units : Nat) : Int :=
  (Decimal.length (units * Nat.pow 10 324 / unit) : Int) - 325

/-- The quotient `units / (unit × 10 ^ exponent)` as a pair of naturals. -/
def scaled (units : Nat) (exponent : Int) : Nat × Nat :=
  (units * Nat.pow 10 (-exponent).toNat, unit * Nat.pow 10 exponent.toNat)

/-- Whether `digits × 10 ^ exponent` reads back as the finite magnitude `units`. -/
def readsBack (units : Nat) (digits : Nat) (exponent : Int) : Bool :=
  nearest (digits * Nat.pow 10 exponent.toNat * unit) (Nat.pow 10 (-exponent).toNat) = units

/-- The decimal with `count` significant digits nearest to the magnitude that reads back as it, if
one does; of two equally near ones the one with an even last digit. -/
def withDigits? (units count : Nat) : Option Decimal :=
  let exponent := leadingExponent units - count + 1
  let (num, den) := scaled units exponent
  let below := num / den
  let rest := num % den
  let up := decide (2 * rest > den ∨ (2 * rest = den ∧ below % 2 = 1))
  let first := if up then below + 1 else below
  let second := if up then below else below + 1
  if readsBack units first exponent then some ⟨first, exponent⟩
  else if readsBack units second exponent then some ⟨second, exponent⟩
  else none

/-- The shortest decimal of a finite magnitude; seventeen digits always suffice. -/
def shortest (units : Nat) : Decimal :=
  if units = 0 then ⟨0, 0⟩
  else
    let found := (List.range 17).findSome? (fun n => withDigits? units (n + 1))
    (found.getD ⟨0, 0⟩).trim 17

end Binary64
end Storefront
