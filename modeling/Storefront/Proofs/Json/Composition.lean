import Storefront.Proofs.Json.Path

/-!
Paths one behind another. To follow a path and then another from what was found is to follow both at
once. The arrays on the way may be entered at different times and their finds spliced in different
groups; it is the same elements in the same order in the end.
-/
namespace Storefront.Json

/-- What an array of finds comes to: nothing if there are none. -/
def listed : List Json → Option Json
  | [] => none
  | found => some (array found)

theorem resolve?_array (items : List Json) (name : String) (path : List String) :
    (array items).resolve? (name :: path) = listed (resolveItems items (name :: path)) := by
  rw [resolve?]
  cases resolveItems items (name :: path) <;> rfl

/-- From a list of finds a path leads on as from the array of them. -/
theorem listed_bind_resolve? (found : List Json) (name : String) (path : List String) :
    (listed found).bind (·.resolve? (name :: path)) = listed (resolveItems found (name :: path)) := by
  cases found with
  | nil => rfl
  | cons first rest => exact resolve?_array (first :: rest) name path

/-- What a path finds from a find, it finds from the elements of that find one by one. -/
theorem finds_bind_resolve? (found : Option Json) (name : String) (path : List String) :
    finds (found.bind (·.resolve? (name :: path))) =
      (finds found).flatMap fun item => finds (item.resolve? (name :: path)) := by
  cases found with
  | none => rfl
  | some value =>
    cases value with
    | array items =>
      exact (finds_resolve?_array items name path).trans (resolveItems_eq_flatMap items _)
    | _ => exact (List.flatMap_singleton ..).symm

/-- If two paths compose from every element of an array, they do from the array. -/
theorem resolve?_append_array {items : List Json} {name next : String} {path further : List String}
    (each : ∀ item ∈ items, item.resolve? (name :: (path ++ next :: further)) =
      (item.resolve? (name :: path)).bind (·.resolve? (next :: further))) :
    (array items).resolve? (name :: (path ++ next :: further)) =
      ((array items).resolve? (name :: path)).bind (·.resolve? (next :: further)) := by
  have collected : resolveItems items (name :: (path ++ next :: further)) =
      resolveItems (resolveItems items (name :: path)) (next :: further) := by
    simp only [resolveItems_eq_flatMap, List.flatMap_assoc]
    refine List.flatMap_congr fun item among => ?_
    rw [each item among, finds_bind_resolve?]
  rw [resolve?_array, collected, resolve?_array, listed_bind_resolve?]

/-- Following one path behind another is following them both at once, from any value whatever. It finds
nothing if the first path does, and otherwise what the second finds from there. -/
theorem resolve?_append (value : Json) (path further : List String) :
    value.resolve? (path ++ further) = (value.resolve? path).bind (·.resolve? further) := by
  match path, further with
  | [], further => rw [resolve?_nil, Option.bind_some, List.nil_append]
  | path, [] => simp only [resolve?_nil, List.append_nil, Option.bind_fun_some]
  | name :: path, next :: further =>
    rw [List.cons_append]
    -- an array is entered with the path undiminished, so its elements come in by the value
    induction value using Json.induct with
    | array items each => exact resolve?_append_array each
    | object members =>
      rw [resolve?_of_object rfl, resolve?_of_object rfl, Option.bind_assoc]
      exact Option.bind_congr fun child _ => resolve?_append child path (next :: further)
    | _ => rfl

/-- Two arrays on the way, one directly inside of the other, are spliced before the second path or
behind it. -/
example : (ofMembers [("lines", .array [.array [ofMembers [("sku", .string "a")]],
      ofMembers [("sku", .string "b")]])]).resolve? (["lines"] ++ ["sku"]) =
    some (.array [.string "a", .string "b"]) := rfl

end Storefront.Json
