import Storefront.Json.Basic
import Storefront.Decimal.Numeral
import Storefront.Error

/-!
The values of literal tokens.
-/
namespace Storefront.Literal

/-- The characters that a run with backslash escapes stands for. A backslash stands for the next
character, before `n` and `t` for a line feed and a tab, and at the end for itself. -/
def unescape : List Char → List Char
  | [] => []
  | '\\' :: 'n' :: cs => '\n' :: unescape cs
  | '\\' :: 't' :: cs => '\t' :: unescape cs
  | '\\' :: c :: cs => c :: unescape cs
  | c :: cs => c :: unescape cs

/-- The text inside the quotes, which are the first and the last character. -/
def unquote (text : String) : String :=
  match text.toList with
  | _ :: c :: cs => String.ofList (unescape ((c :: cs).dropLast))
  | short => String.ofList (unescape short)

/-- The value of a numeral: an integer if it has the form and the size of one, else the nearest
binary64 number, which has to be finite. -/
def number (text : String) : Except Error Json :=
  match Numeral.integer? text.toList with
  | some i => .ok (Json.ofInt i)
  | none =>
    match (Numeral.binary64? text.toList).filter (·.isFinite) with
    | some x => .ok (.number (.float x))
    | none => .error (.badText .invalidNumber text)

end Storefront.Literal
