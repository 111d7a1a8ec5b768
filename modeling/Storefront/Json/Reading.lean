import Storefront.Json.Basic
import Storefront.Decimal.Numeral

/-!
Reading JSON text.

A text is read into a `Reading` first: everything in the order of the text, up to the first place
where the text stops being JSON. A reader of a whole value asks for `toJson?`; a reader of a body
with fixed members walks the `Reading` itself, so that of two faults the one that comes first in the
text decides. Some values are JSON by their form and still cannot be used: a number beyond the
finite ones, a string with half of a surrogate pair, a container nested too deeply. Using them is a
fault of the text, but passing over them is none.
-/
namespace Storefront

inductive Container where
  | array
  | object
deriving DecidableEq, Repr

/-- A JSON text as far as it goes. `closed` says that the closing bracket of a container was met; a
member whose name cannot be used has none. -/
inductive Reading where
  | null
  | bool (value : Bool)
  | number (value : Number)
  | string (value : String)
  | array (items : List Reading) (closed : Bool)
  | object (members : List (Option String × Reading)) (closed : Bool)
  | unusable
  | tooDeep (container : Container) (closed : Bool)
  | broken
deriving Repr, Inhabited

namespace Reading

/-- How many containers may enclose another one. -/
def maxNesting : Nat := 126

def isBlank (c : Char) : Bool :=
  c = ' ' ∨ c = '\n' ∨ c = '\t' ∨ c = '\r'

def skipBlanks (cs : List Char) : List Char :=
  cs.dropWhile isBlank

/-! ### Numbers -/

structure NumberText where
  negative : Bool
  whole : List Char
  fraction : Option (List Char)
  exponent : Option Int
deriving Repr

/-- The exponent behind a number, if there is one; a mark without digits is a fault. -/
def scanExponent? (cs : List Char) : Option (Option Int × List Char) :=
  match cs with
  | mark :: rest =>
    if mark = 'e' ∨ mark = 'E' then
      let (negative, rest) := match rest with
        | '-' :: more => (true, more)
        | '+' :: more => (false, more)
        | more => (false, more)
      let digits := rest.takeWhile Numeral.isDigit
      if digits = [] then none
      else
        let size : Int := Numeral.ofDigits digits
        some (some (if negative then -size else size), rest.dropWhile Numeral.isDigit)
    else some (none, cs)
  | [] => some (none, [])

/-- The number at the front of a text. No zero stands in front of further digits, and a point has a
digit on either side. -/
def scanNumber? (cs : List Char) : Option (NumberText × List Char) :=
  let (negative, body) := match cs with
    | '-' :: rest => (true, rest)
    | _ => (false, cs)
  let whole := body.takeWhile Numeral.isDigit
  let rest := body.dropWhile Numeral.isDigit
  if whole = [] ∨ (whole.head? = some '0' ∧ whole.length ≠ 1) then none
  else
    match rest with
    | '.' :: more =>
      let fraction := more.takeWhile Numeral.isDigit
      if fraction = [] then none
      else (scanExponent? (more.dropWhile Numeral.isDigit)).map fun (exponent, rest) =>
        (⟨negative, whole, some fraction, exponent⟩, rest)
    | _ => (scanExponent? rest).map fun (exponent, rest) =>
        (⟨negative, whole, none, exponent⟩, rest)

/-- Takes digits into a significand of 64 bits as long as it holds them; the second part counts the
digits that were left over. -/
def takeDigits (significand : Nat) : List Char → Nat × Nat
  | [] => (significand, 0)
  | c :: cs =>
    let next := significand * 10 + Numeral.digitValue c
    if next < 0x10000000000000000 then takeDigits next cs else (significand, cs.length + 1)

def power (n : Nat) : Binary64 :=
  Binary64.ofInt (Nat.pow 10 n)

/-- A significand scaled by a power of ten in one rounded step, after steps of `10 ^ 308` as long as
the exponent lies below that; none if the number is beyond the finite ones. -/
def scale? (x : Binary64) (exponent : Int) : Option Binary64 :=
  if exponent.natAbs ≤ 308 then
    if 0 ≤ exponent then (some (x.mul (power exponent.toNat))).filter (·.isFinite)
    else some (x.div (power (-exponent).toNat))
  else if x.isZero then some x
  else if 0 ≤ exponent then none
  else scale? (x.div (power 308)) (exponent + 308)
termination_by exponent.natAbs
decreasing_by omega

/-- The value of a number as written: an integer if it has neither point nor exponent and fits, and
is not `-0`. -/
def NumberText.value? (text : NumberText) : Option Number :=
  let (whole, dropped) := takeDigits 0 text.whole
  let float (significand : Nat) (exponent : Int) : Option Number :=
    (scale? (Binary64.ofInt significand) exponent).map fun x =>
      .float ⟨text.negative, x.units⟩
  match text.fraction, text.exponent with
  | none, none =>
    if dropped ≠ 0 then float whole dropped
    else if text.negative then
      if whole = 0 ∨ 0x8000000000000000 < whole then float whole 0 else some (.integer (-whole))
    else some (.integer whole)
  | none, some exponent => float whole (dropped + exponent)
  | some fraction, exponent =>
    let (significand, left) := takeDigits whole fraction
    float significand (dropped - (fraction.length - left : Nat) + exponent.getD 0)

/-! ### Strings -/

def hexValue? (c : Char) : Option Nat :=
  if '0' ≤ c ∧ c ≤ '9' then some (c.toNat - '0'.toNat)
  else if 'a' ≤ c ∧ c ≤ 'f' then some (c.toNat - 'a'.toNat + 10)
  else if 'A' ≤ c ∧ c ≤ 'F' then some (c.toNat - 'A'.toNat + 10)
  else none

def hex4? (a b c d : Char) : Option Nat := do
  let a ← hexValue? a
  let b ← hexValue? b
  let c ← hexValue? c
  let d ← hexValue? d
  some (((a * 16 + b) * 16 + c) * 16 + d)

/-- The code point that a one-letter escape stands for. -/
def escaped? (c : Char) : Option Nat :=
  match c with
  | '"' => some 0x22
  | '\\' => some 0x5c
  | '/' => some 0x2f
  | 'b' => some 0x08
  | 'f' => some 0x0c
  | 'n' => some 0x0a
  | 'r' => some 0x0d
  | 't' => some 0x09
  | _ => none

/-- The code points and escaped units of a string up to its closing quote, and what follows it. -/
def scanString? : List Char → Option (List Nat × List Char)
  | [] => none
  | '"' :: rest => some ([], rest)
  | '\\' :: 'u' :: a :: b :: c :: d :: rest =>
    match hex4? a b c d with
    | some unit => (scanString? rest).map fun (units, rest) => (unit :: units, rest)
    | none => none
  | '\\' :: e :: rest =>
    match escaped? e with
    | some code => (scanString? rest).map fun (units, rest) => (code :: units, rest)
    | none => none
  | c :: rest =>
    if c.toNat < 0x20 ∨ c = '\\' then none
    else (scanString? rest).map fun (units, rest) => (c.toNat :: units, rest)

def isHighSurrogate (unit : Nat) : Bool :=
  0xd800 ≤ unit ∧ unit < 0xdc00

def isLowSurrogate (unit : Nat) : Bool :=
  0xdc00 ≤ unit ∧ unit < 0xe000

/-- The characters of a string; surrogates have to come in pairs. -/
def assemble? : List Nat → Option (List Char)
  | [] => some []
  | [unit] =>
    if isHighSurrogate unit ∨ isLowSurrogate unit then none else some [Char.ofNat unit]
  | unit :: next :: rest =>
    if isHighSurrogate unit then
      if isLowSurrogate next then
        (assemble? rest).map
          (Char.ofNat (0x10000 + (unit - 0xd800) * 0x400 + (next - 0xdc00)) :: ·)
      else none
    else if isLowSurrogate unit then none
    else (assemble? (next :: rest)).map (Char.ofNat unit :: ·)

/-! ### Values -/

/-- Whether the text of a value is JSON to its end. -/
def isWhole : Reading → Bool
  | array _ closed => closed
  | object _ closed => closed
  | tooDeep _ closed => closed
  | broken => false
  | _ => true

def arrayAt (nesting : Nat) (items : List Reading) (closed : Bool) : Reading :=
  if nesting ≤ maxNesting then array items closed else tooDeep .array closed

def objectAt (nesting : Nat) (members : List (Option String × Reading)) (closed : Bool) : Reading :=
  if nesting ≤ maxNesting then object members closed else tooDeep .object closed

def word (letters : List Char) (value : Reading) (cs : List Char) : Reading × Option (List Char) :=
  if letters.isPrefixOf cs then (value, some (cs.drop letters.length)) else (broken, none)

mutual
/-- The value at the front of a text, and what follows it unless the text stops being JSON. Two
units of fuel for each character and two more are enough. -/
def value : Nat → Nat → List Char → Reading × Option (List Char)
  | 0, _, _ => (broken, none)
  | fuel + 1, nesting, cs =>
    match skipBlanks cs with
    | [] => (broken, none)
    | '"' :: rest =>
      match scanString? rest with
      | none => (broken, none)
      | some (units, rest) =>
        match assemble? units with
        | some chars => (string (String.ofList chars), some rest)
        | none => (unusable, some rest)
    | '[' :: rest =>
      match skipBlanks rest with
      | ']' :: rest => (arrayAt nesting [] true, some rest)
      | rest =>
        let (items, after) := items fuel (nesting + 1) rest
        (arrayAt nesting items after.isSome, after)
    | '\x7b' :: rest =>
      match skipBlanks rest with
      | '\x7d' :: rest => (objectAt nesting [] true, some rest)
      | rest =>
        let (members, after) := members fuel (nesting + 1) rest
        (objectAt nesting members after.isSome, after)
    | 'n' :: rest => word ['u', 'l', 'l'] null rest
    | 't' :: rest => word ['r', 'u', 'e'] (bool true) rest
    | 'f' :: rest => word ['a', 'l', 's', 'e'] (bool false) rest
    | cs =>
      match scanNumber? cs with
      | none => (broken, none)
      | some (text, rest) =>
        match text.value? with
        | some value => (number value, some rest)
        | none => (unusable, some rest)

/-- The elements from one element on, up to the closing bracket. -/
def items : Nat → Nat → List Char → List Reading × Option (List Char)
  | 0, _, _ => ([], none)
  | fuel + 1, nesting, cs =>
    match value fuel nesting cs with
    | (item, none) => ([item], none)
    | (item, some rest) =>
      match skipBlanks rest with
      | ',' :: rest =>
        let (more, after) := items fuel nesting rest
        (item :: more, after)
      | ']' :: rest => ([item], some rest)
      | _ => ([item], none)

/-- The members from one member on, up to the closing bracket. -/
def members : Nat → Nat → List Char → List (Option String × Reading) × Option (List Char)
  | 0, _, _ => ([], none)
  | fuel + 1, nesting, cs =>
    match skipBlanks cs with
    | '"' :: rest =>
      match scanString? rest with
      | none => ([(none, broken)], none)
      | some (units, rest) =>
        let name := (assemble? units).map String.ofList
        match skipBlanks rest with
        | ':' :: rest =>
          match value fuel nesting rest with
          | (member, none) => ([(name, member)], none)
          | (member, some rest) =>
            match skipBlanks rest with
            | ',' :: rest =>
              let (more, after) := members fuel nesting rest
              ((name, member) :: more, after)
            | '\x7d' :: rest => ([(name, member)], some rest)
            | _ => ([(name, member)], none)
        | _ => ([(name, broken)], none)
    | _ => ([], none)
end

/-- The value at the front of a text and what follows it. -/
def ofText (cs : List Char) : Reading × Option (List Char) :=
  value (2 * cs.length + 2) 0 cs

mutual
/-- The value read, if all of it can be used. -/
def toJson? : Reading → Option Json
  | null => some .null
  | bool value => some (.bool value)
  | number value => some (.number value)
  | string value => some (.string value)
  | array items closed => if closed then (itemsToJson? items).map .array else none
  | object members closed => if closed then (membersToJson? members).map Json.ofMembers else none
  | _ => none

def itemsToJson? : List Reading → Option (List Json)
  | [] => some []
  | item :: items => do
    let value ← toJson? item
    let values ← itemsToJson? items
    some (value :: values)

def membersToJson? : List (Option String × Reading) → Option (List (String × Json))
  | [] => some []
  | (name, member) :: members => do
    let name ← name
    let value ← toJson? member
    let values ← membersToJson? members
    some ((name, value) :: values)
end

mutual
/-- The reading of a value, as of a text that spells it. -/
def ofJson : Json → Reading
  | .null => null
  | .bool value => bool value
  | .number value => number value
  | .string value => string value
  | .array items => array (ofItems items) true
  | .object members => object (ofMembers members) true

def ofItems : List Json → List Reading
  | [] => []
  | item :: items => ofJson item :: ofItems items

def ofMembers : List (String × Json) → List (Option String × Reading)
  | [] => []
  | (name, value) :: members => (some name, ofJson value) :: ofMembers members
end

end Reading

/-- The value of a text that holds one JSON value and blanks. -/
def Json.ofText? (text : String) : Option Json :=
  match Reading.ofText text.toList with
  | (reading, some rest) => if Reading.skipBlanks rest = [] then reading.toJson? else none
  | (_, none) => none

end Storefront
