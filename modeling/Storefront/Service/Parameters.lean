import Storefront.Catalog
import Storefront.Service.Failure

/-!
Parameters of a query string, as a list of names with values in which a name may come repeatedly.
Lists collect all values of a name; of a single value the last one counts.
-/
namespace Storefront

/-- The pairs of a query string, decoded. -/
abbrev Parameters := List (String × String)

namespace Parameters

def values (parameters : Parameters) (name : String) : List String :=
  (parameters.filter (·.1 = name)).map (·.2)

def last? (parameters : Parameters) (name : String) : Option String :=
  (parameters.values name).getLast?

def natural (name value : String) : Except Failure Nat :=
  match Numeral.natural? Numeral.maxNatural value.toList with
  | some n => .ok n
  | none => .error (.invalidValue value name)

def flag (name value : String) : Except Failure Bool :=
  if value = "true" then .ok true
  else if value = "false" then .ok false
  else .error (.invalidValue value name)

/-- The natural number that the last value of a name spells, if the name is there. -/
def natural? (parameters : Parameters) (name : String) : Except Failure (Option Nat) :=
  match parameters.last? name with
  | none => .ok none
  | some value => (natural name value).map some

/-- The truth value that the last value of a name spells; false if the name is not there. -/
def flagOrFalse (parameters : Parameters) (name : String) : Except Failure Bool :=
  match parameters.last? name with
  | none => .ok false
  | some value => flag name value

/-- A variable with one more value: several values make a list. -/
def addValue (value : Json) : Option Json → Json
  | none => value
  | some (.array items) => .array (items ++ [value])
  | some previous => .array [previous, value]

/-- The variables with the value that a parameter named `var.` and a name binds. -/
def bindVariable (bound : Variables) (parameter : String × String) : Variables :=
  match Text.after? "var." parameter.1.toList with
  | none => bound
  | some name =>
    let name := String.ofList name
    Dictionary.insert bound name
      (addValue (.string parameter.2) (Dictionary.get? bound name))

def bindings (parameters : Parameters) : Variables :=
  parameters.foldl bindVariable []

def queryParams (parameters : Parameters) : Except Failure QueryParams := do
  let offset ← parameters.natural? "offset"
  let limit ← parameters.natural? "limit"
  .ok { predicates := parameters.values "where", expand := parameters.values "expand", offset, limit,
        bindings := parameters.bindings }

def projectionSearch (parameters : Parameters) : Except Failure ProjectionSearchParams := do
  let markMatchingVariants ← parameters.flagOrFalse "markMatchingVariants"
  let staged ← parameters.flagOrFalse "staged"
  let offset ← parameters.natural? "offset"
  let limit ← parameters.natural? "limit"
  .ok { filter := parameters.values "filter", filterQuery := parameters.values "filter.query",
        filterFacets := parameters.values "filter.facets", markMatchingVariants, staged, offset,
        limit, expand := parameters.values "expand" }

end Parameters
end Storefront
