import Storefront.Json.Basic
import Storefront.Text.Search

/-!
Following a path of member names. Arrays on the way are entered and what their elements lead to is
collected, arrays of finds being spliced; a path that leads nowhere finds nothing.
-/
namespace Storefront.Json

mutual
def resolve? : Json → List String → Option Json
  | value, [] => some value
  | object members, name :: path => resolveMember? members name path
  | array items, name :: path =>
    match resolveItems items (name :: path) with
    | [] => none
    | found => some (array found)
  | _, _ :: _ => none

/-- The value at the end of a path that begins with a member of these. -/
def resolveMember? : List (String × Json) → String → List String → Option Json
  | [], _, _ => none
  | (other, value) :: members, name, path =>
    if other = name then resolve? value path else resolveMember? members name path

/-- All that a path leads to from the elements of an array. -/
def resolveItems : List Json → List String → List Json
  | [], _ => []
  | item :: items, path =>
    match resolve? item path with
    | some (array found) => found ++ resolveItems items path
    | some found => found :: resolveItems items path
    | none => resolveItems items path
end

def pathNames (path : List Char) : List String :=
  (Text.split '.' path).map String.ofList

end Storefront.Json
