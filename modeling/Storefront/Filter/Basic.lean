import Storefront.Json.Comparison
import Storefront.Variant

/-!
Catalog filters: a field path and a condition on what it names. A path that begins with `variants.`
is tried on each variant of a product in turn, and the first variant that satisfies the condition can
be marked.
-/
namespace Storefront

/-- One end of an interval; an open end is none. -/
abbrev Bound := Option Json

inductive Condition where
  /-- The field equals one of the values. -/
  | values (allowed : List Json)
  /-- The field is present, for an entry that is true, or absent. -/
  | presence (wanted : List Bool)
  /-- The field lies in one of the intervals, ends included. -/
  | ranges (intervals : List (Bound × Bound))
deriving Repr

structure Filter where
  path : String
  condition : Condition
deriving Repr

namespace Condition

/-- The order of a value and a bound, which have to be comparable. -/
def orderWith (value bound : Json) : Except Error Ordering :=
  match value.compareStrict bound with
  | some order => .ok order
  | none => .error (.evaluation (.filterBound value.typeName bound.typeName))

/-- Whether a bound, if there is one, lets a value pass. -/
def passes (accept : Ordering → Bool) (value : Json) : Bound → Except Error Bool
  | none => .ok true
  | some bound => (orderWith value bound).map accept

/-- Whether a value lies in an interval. The lower end is looked at first. -/
def inInterval (value : Json) (interval : Bound × Bound) : Except Error Bool :=
  match passes (· != .lt) value interval.1 with
  | .error e => .error e
  | .ok false => .ok false
  | .ok true => passes (· != .gt) value interval.2

/-- Whether a field, found or not, satisfies a condition. -/
def holds (condition : Condition) (field : Option Json) : Except Error Bool :=
  match condition, field with
  | presence wanted, field => .ok (wanted.any (· = Json.isTruthy field))
  | values _, none => .ok false
  | values allowed, some found =>
    .ok (found.candidates.any fun candidate => allowed.any (Json.looseEq (some candidate)))
  | ranges _, none => .ok false
  | ranges intervals, some found =>
    found.candidates.anyM fun candidate => intervals.anyM (inInterval candidate)

end Condition

namespace Filter

/-- The path relative to a variant, if the filter is about variants. -/
def variantPath? (filter : Filter) : Option (List Char) :=
  Variant.relativePath? filter.path.toList

def isVariantFilter (filter : Filter) : Bool :=
  filter.variantPath?.isSome

/-- The condition of a filter on what a path names in a value. -/
def test (filter : Filter) (path : List Char) (target : Json) : Except Error Bool :=
  filter.condition.holds (Variant.resolveField? target path)

def holds (filter : Filter) (doc : Json) : Except Error Bool :=
  match filter.variantPath? with
  | some path => (Variant.firstMatching doc (filter.test path)).map (·.isSome)
  | none => filter.test filter.path.toList doc

/-- Whether a document satisfies a filter, and the document with the first variant that does marked,
if marks are wanted and the filter is about variants. -/
def evaluate (filter : Filter) (marking : Bool) (doc : Json) : Except Error (Bool × Json) :=
  match filter.variantPath? with
  | none => (filter.test filter.path.toList doc).map fun result => (result, doc)
  | some path =>
    match Variant.firstMatching doc (filter.test path) with
    | .error e => .error e
    | .ok first => .ok (first.isSome, if marking then Variant.markMatching doc first else doc)

end Filter
end Storefront
