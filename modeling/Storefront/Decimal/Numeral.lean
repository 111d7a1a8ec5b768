import Storefront.Decimal.Binary64

/-!
Reading numerals: digits of the ASCII range only, with an optional sign where the reader allows one.
-/
namespace Storefront.Numeral

def isDigit (c : Char) : Bool :=
  '0' ≤ c ∧ c ≤ '9'

def digitValue (c : Char) : Nat :=
  c.toNat - '0'.toNat

def ofDigits (digits : List Char) : Nat :=
  digits.foldl (fun n c => n * 10 + digitValue c) 0

def digits? (cs : List Char) : Option Nat :=
  if cs ≠ [] ∧ cs.all isDigit then some (ofDigits cs) else none

/-- The largest count and the largest version. -/
def maxNatural : Nat := 0xFFFFFFFFFFFFFFFF

/-- A natural number up to `bound`, with an optional `+` in front. -/
def natural? (bound : Nat) (cs : List Char) : Option Nat :=
  let body := match cs with
    | '+' :: rest => rest
    | _ => cs
  (digits? body).filter (· ≤ bound)

/-- An integer of 64 bits, with an optional sign in front. -/
def integer? (cs : List Char) : Option Int :=
  let value := match cs with
    | '-' :: rest => (digits? rest).map (fun n => -(n : Int))
    | '+' :: rest => (digits? rest).map (fun n => (n : Int))
    | _ => (digits? cs).map (fun n => (n : Int))
  value.filter (fun i => -0x8000000000000000 ≤ i ∧ i < 0x8000000000000000)

/-- The exponent after the digits of a number: nothing, or `e`, an optional sign and digits. -/
def exponent? : List Char → Option Int
  | [] => some 0
  | e :: rest =>
    if e = 'e' ∨ e = 'E' then
      match rest with
      | '-' :: more => (digits? more).map (fun n => -(n : Int))
      | '+' :: more => (digits? more).map (fun n => (n : Int))
      | more => (digits? more).map (fun n => (n : Int))
    else none

/-- The number nearest to `digits × 10 ^ exponent`. Beyond the outermost powers of ten the answer is
infinity or zero without any power being computed. -/
def nearestDecimal (negative : Bool) (count digits : Nat) (exponent : Int) : Binary64 :=
  if digits = 0 then ⟨negative, 0⟩
  else if exponent > 400 then ⟨negative, Binary64.limit⟩
  else if exponent + count < -400 then ⟨negative, 0⟩
  else Binary64.ofRatio negative (digits * Nat.pow 10 exponent.toNat) (Nat.pow 10 (-exponent).toNat)

/-- A number without its sign: digits with a point anywhere among, before or after them, then an
exponent. -/
def unsigned? (negative : Bool) (cs : List Char) : Option Binary64 :=
  let whole := cs.takeWhile isDigit
  let afterWhole := cs.dropWhile isDigit
  let (fraction, afterFraction) := match afterWhole with
    | '.' :: rest => (rest.takeWhile isDigit, rest.dropWhile isDigit)
    | _ => ([], afterWhole)
  let digits := whole ++ fraction
  if digits = [] then none
  else (exponent? afterFraction).map fun exponent =>
    nearestDecimal negative digits.length (ofDigits digits) (exponent - fraction.length)

/-- The number nearest to the decimal written, possibly infinite, with an optional sign in front. -/
def binary64? (cs : List Char) : Option Binary64 :=
  match cs with
  | '-' :: rest => unsigned? true rest
  | '+' :: rest => unsigned? false rest
  | _ => unsigned? false cs

end Storefront.Numeral
