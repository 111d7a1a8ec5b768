import Storefront.Json.Basic

/-!
Pages: a stretch of a list of results, with what is needed to ask for the next one.
-/
namespace Storefront

structure Page where
  /-- The number of results on the page. -/
  count : Nat
  /-- The number of results on all pages. -/
  total : Nat
  offset : Nat
  limit : Nat
  results : List Json
deriving Repr

namespace Page

/-- The stretch of a list from `offset` on, up to `limit` elements long. -/
def slice {α : Type} (offset limit : Nat) (all : List α) : List α :=
  (all.drop offset).take limit

def ofList (offset limit : Nat) (all : List Json) : Page :=
  let results := slice offset limit all
  ⟨results.length, all.length, offset, limit, results⟩

def toJson (page : Page) : Json :=
  .ofMembers [("count", .ofNat page.count), ("total", .ofNat page.total),
    ("offset", .ofNat page.offset), ("limit", .ofNat page.limit), ("results", .array page.results)]

end Page
end Storefront
