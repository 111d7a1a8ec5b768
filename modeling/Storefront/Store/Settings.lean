import Storefront.Json.Basic

/-!
Settings of a store.
-/
namespace Storefront

structure Settings where
  /-- Whether a reference without a target fails an expansion. -/
  strictReferences : Bool := false
  /-- The size of a page that is asked for without one. -/
  defaultLimit : Nat := 20
  /-- The largest size of a page. -/
  maxLimit : Nat := 500
  /-- How many compiled predicates are kept; none for zero. -/
  predicateCacheSize : Nat := 1024
deriving DecidableEq, Repr

namespace Settings

def effectiveLimit (settings : Settings) (requested : Option Nat) : Nat :=
  min (requested.getD settings.defaultLimit) settings.maxLimit

def toJson (settings : Settings) : Json :=
  .ofMembers [("strictReferences", .bool settings.strictReferences),
    ("defaultLimit", .ofNat settings.defaultLimit), ("maxLimit", .ofNat settings.maxLimit),
    ("predicateCacheSize", .ofNat settings.predicateCacheSize)]

end Settings
end Storefront
