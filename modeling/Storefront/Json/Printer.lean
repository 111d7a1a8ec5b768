import Storefront.Json.Basic
import Storefront.Decimal.Shortest

/-!
Writing JSON without blanks. Members go in the order of their names, and a binary64 number always
shows that it is none of the integers: by a point or by an exponent.
-/
namespace Storefront

namespace Decimal

def zeros (n : Nat) : String :=
  String.ofList (List.replicate n '0')

/-- Positional from `0.00001` up to sixteen digits before the point, scientific with a signed
exponent elsewhere. -/
def render (d : Decimal) : String :=
  let digits := toString d.digits
  let leading : Int := d.exponent + digits.length - 1
  if leading < -5 ∨ 15 < leading then
    let body := match digits.toList with
      | first :: [] => String.ofList [first]
      | first :: rest => String.ofList (first :: '.' :: rest)
      | [] => ""
    body ++ "e" ++ (if leading < 0 then "-" else "+") ++ toString leading.natAbs
  else if leading < 0 then
    "0." ++ zeros ((-leading).toNat - 1) ++ digits
  else
    let whole := leading.toNat + 1
    if digits.length ≤ whole then digits ++ zeros (whole - digits.length) ++ ".0"
    else String.ofList (digits.toList.take whole) ++ "." ++ String.ofList (digits.toList.drop whole)

end Decimal

def Binary64.render (x : Binary64) : String :=
  (if x.negative then "-" else "") ++ (Binary64.shortest x.units).render

def Number.render : Number → String
  | .integer value => toString value
  | .float value => value.render

namespace Json

/-- Escaped are the quote, the backslash and the control characters, of which five have letters. -/
def escape (c : Char) : String :=
  match c with
  | '"' => "\\\""
  | '\\' => "\\\\"
  | '\x08' => "\\b"
  | '\x0c' => "\\f"
  | '\n' => "\\n"
  | '\r' => "\\r"
  | '\t' => "\\t"
  | _ =>
    if c.toNat < 0x20 then
      "\\u00" ++ String.ofList [Nat.digitChar (c.toNat / 16), Nat.digitChar (c.toNat % 16)]
    else String.ofList [c]

def quote (s : String) : String :=
  "\"" ++ String.join (s.toList.map escape) ++ "\""

mutual
def render : Json → String
  | null => "null"
  | bool value => if value then "true" else "false"
  | number value => value.render
  | string value => quote value
  | array items => "[" ++ renderItems items ++ "]"
  | object members => "\x7b" ++ renderMembers members ++ "\x7d"

def renderItems : List Json → String
  | [] => ""
  | [item] => render item
  | item :: next :: items => render item ++ "," ++ renderItems (next :: items)

def renderMembers : List (String × Json) → String
  | [] => ""
  | [(name, value)] => quote name ++ ":" ++ render value
  | (name, value) :: next :: members =>
    quote name ++ ":" ++ render value ++ "," ++ renderMembers (next :: members)
end

end Json
end Storefront
