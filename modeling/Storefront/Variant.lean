import Storefront.Error
import Storefront.Json.Path

/-!
Product variants: their order, the flag that marks one of them, and the fields that conditions name.
The master variant comes first, the others follow in the order of their list.
-/
namespace Storefront

namespace Variant

/-- The member that marks a variant. -/
def matchingFlag : String := "isMatchingVariant"

/-- The path relative to a variant of a path that begins with `variants.`. -/
def relativePath? (path : List Char) : Option (List Char) :=
  Text.after? "variants." path

/-- The master variant of a product, if it is an object. -/
def master? (product : Json) : Option Json :=
  (product.field? "masterVariant").filter (·.isObject)

def others (product : Json) : List Json :=
  ((product.field? "variants").bind (·.array?)).getD []

def all (product : Json) : List Json :=
  (master? product).toList ++ others product

/-- The number of the first variant, counted from `index`, for which a test is true. -/
def firstFrom (test : Json → Except Error Bool) (index : Nat) :
    List Json → Except Error (Option Nat)
  | [] => .ok none
  | variant :: variants =>
    match test variant with
    | .error e => .error e
    | .ok true => .ok (some index)
    | .ok false => firstFrom test (index + 1) variants

/-- The number of the first variant for which a test is true. -/
def firstMatching (product : Json) (test : Json → Except Error Bool) :
    Except Error (Option Nat) :=
  firstFrom test 0 (all product)

/-- The variant number `index` with its mark set; only an object can carry one. -/
def mark (matching : Option Nat) (index : Nat) (variant : Json) : Json :=
  variant.setField matchingFlag (.bool (some index = matching))

/-- The product with the variant numbered `matching` marked and every other one marked as not
matching. -/
def markMatching (product : Json) (matching : Option Nat) : Json :=
  let first := (master? product).toList.length
  let product := match master? product with
    | some master => product.setField "masterVariant" (mark matching 0 master)
    | none => product
  match product.field? "variants" with
  | some (.array variants) =>
    product.setField "variants"
      (.array (variants.mapIdx fun index variant => mark matching (first + index) variant))
  | _ => product

def firstPriceAmount? (target : Json) : Option Json := do
  let prices ← target.field? "prices"
  let price ← prices.item? 0
  let value ← price.field? "value"
  value.field? "centAmount"

def attribute? (target : Json) (name : String) : Option Json := do
  let attributes ← (target.field? "attributes").bind (·.array?)
  let entry ← attributes.find? fun entry => (entry.field? "name").bind (·.string?) = some name
  entry.field? "value"

/-- What a path names in a variant or any other value. An attribute is named by
`attributes.<name>`, which a path inside its value may follow; three paths name the amount of the
first price, one of them only if there is no scoped price; any other path leads through members. -/
def resolveField? (target : Json) (path : List Char) : Option Json :=
  match Text.after? "attributes." path with
  | some rest =>
    match Json.pathNames rest with
    | [] => none
    | name :: names => (attribute? target name).bind (Json.resolve? · names)
  | none =>
    if path = "price.centAmount".toList ∨ path = "prices.currentCentAmount".toList ∨
        (path = "scopedPrice.value.centAmount".toList ∧ (target.field? "scopedPrice").isNone) then
      firstPriceAmount? target
    else Json.resolve? target (Json.pathNames path)

end Variant
end Storefront
