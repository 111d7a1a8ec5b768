import Storefront.Filter.Grammar
import Storefront.Query.Wire
import Storefront.Store.Basic

/-!
Search of the product catalog. A product keeps its current and its staged data apart; a search looks
at projections, flat views of one of the two with the base properties of the product.
-/
namespace Storefront

structure ProjectionSearchParams where
  filter : List String := []
  filterQuery : List String := []
  filterFacets : List String := []
  markMatchingVariants : Bool := false
  staged : Bool := false
  offset : Option Nat := none
  limit : Option Nat := none
  expand : List String := []
deriving DecidableEq, Repr

/-- A search by a query; without one everything is found. -/
structure ProductSearchRequest where
  query : Option Query := none
  markMatchingVariants : Bool := false
  staged : Bool := false
  offset : Option Nat := none
  limit : Option Nat := none
deriving Repr

namespace Catalog

def productType : String := "product"

/-- The members of a product that its projections have. -/
def baseFields : List String :=
  ["id", "version", "key", "productType", "createdAt", "lastModifiedAt"]

/-- Whether product data count as published; they do unless they say otherwise. -/
def isPublished (masterData : Json) : Bool :=
  ((masterData.field? "published").bind (·.bool?)).getD true

/-- A member of one value copied into another one, if it is there. -/
def copyField (source : Json) (target : Json) (name : String) : Json :=
  match source.field? name with
  | some value => target.setField name value
  | none => target

/-- The projection of a product to its staged or its current data. There is no current projection of
a product that is not published. A document without product data is its own projection. -/
def project? (product : Json) (staged : Bool) : Option Json :=
  match product.field? "masterData" with
  | none => some product
  | some masterData =>
    let published := isPublished masterData
    if !staged && !published then none
    else
      match masterData.field? (if staged then "staged" else "current") with
      | none => none
      | some data =>
        let fields := if data.isObject then data else .object []
        let based := baseFields.foldl (copyField product) fields
        some (copyField masterData (based.setField "published" (.bool published))
          "hasStagedChanges")

/-- The projections of all products, in order. -/
def projections (store : Store) (tenant : String) (staged : Bool) : List Json :=
  (store.all tenant productType).filterMap (project? · staged)

/-- Whether a projection satisfies all filters, and the projection with the marks they left. -/
def applyFilters (marking : Bool) : List Filter → Json → Except Error (Bool × Json)
  | [], projection => .ok (true, projection)
  | filter :: filters, projection =>
    match filter.evaluate marking projection with
    | .error e => .error e
    | .ok (false, marked) => .ok (false, marked)
    | .ok (true, marked) => applyFilters marking filters marked

/-- The projections that satisfy a condition, as the condition leaves them. -/
def matching (condition : Json → Except Error (Bool × Json)) :
    List Json → Except Error (List Json)
  | [] => .ok []
  | projection :: projections =>
    match condition projection with
    | .error e => .error e
    | .ok (keep, marked) =>
      match matching condition projections with
      | .error e => .error e
      | .ok kept => .ok (if keep then marked :: kept else kept)

/-- The page of some results, expanded. -/
def page (store : Store) (tenant : String) (offset limit : Option Nat) (expand : List String)
    (all : List Json) : Except Error Page :=
  let page := Page.ofList (offset.getD 0) (store.settings.effectiveLimit limit) all
  if expand = [] then .ok page
  else (page.results.mapM (store.expand tenant expand)).map fun results =>
    { page with results := results }

namespace ProjectionSearch

def filters (params : ProjectionSearchParams) : List String :=
  params.filter ++ params.filterQuery ++ params.filterFacets

end ProjectionSearch

/-- Searches by filters, all of which have to hold. -/
def searchProjections (store : Store) (tenant : String) (params : ProjectionSearchParams) :
    Except Error Page :=
  match (ProjectionSearch.filters params).mapM Filter.compile with
  | .error e => .error e
  | .ok filters =>
    match matching (applyFilters params.markMatchingVariants filters)
        (projections store tenant params.staged) with
    | .error e => .error e
    | .ok found => page store tenant params.offset params.limit params.expand found

/-- Whether a projection satisfies the query of a request, and the projection with its marks. -/
def applyQuery (request : ProductSearchRequest) (projection : Json) :
    Except Error (Bool × Json) :=
  match request.query with
  | none => .ok (true, projection)
  | some query => query.evaluate request.markMatchingVariants projection

def search (store : Store) (tenant : String) (request : ProductSearchRequest) :
    Except Error Page :=
  match matching (applyQuery request) (projections store tenant request.staged) with
  | .error e => .error e
  | .ok found => page store tenant request.offset request.limit [] found

end Catalog
end Storefront
