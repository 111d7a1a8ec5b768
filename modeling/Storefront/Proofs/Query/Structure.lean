import Storefront.Marking

/-! Induction over queries, and the queries inside of a query. Every query is a connective over its
children or a condition with a check. -/
namespace Storefront.Query

/-- What a condition checks, unless it lacks its operands. A connective has no check of its own. -/
def check? : Query → Option (Except Error Check)
  | range target bounds => some (rangeCheck target bounds)
  | exact target value values ignoreCase => some (exactCheck target value values ignoreCase)
  | present target => some (.ok (presentCheck target))
  | textual mode target value ignoreCase => some (.ok (textCheck mode target value ignoreCase))
  | _ => none

/-- What holds of all children holds of the connective, and it holds of every condition. -/
@[elab_as_elim]
theorem induct {motive : Query → Prop}
    (and : ∀ children, (∀ child ∈ children, motive child) → motive (and children))
    (or : ∀ children, (∀ child ∈ children, motive child) → motive (or children))
    (filter : ∀ children, (∀ child ∈ children, motive child) → motive (filter children))
    (not : ∀ child, motive child → motive (not child))
    (nor : ∀ children, (∀ child ∈ children, motive child) → motive (nor children))
    (condition : ∀ query check, check? query = some check → motive query)
    (query : Query) : motive query := by
  refine Query.rec (motive_1 := motive) (motive_2 := fun queries => ∀ query ∈ queries, motive query)
    and or filter not nor ?_ ?_ ?_ ?_ ?_ ?_ query
  · exact fun target bounds => condition _ _ rfl
  · exact fun target value values ignoreCase => condition _ _ rfl
  · exact fun target => condition _ _ rfl
  · exact fun mode target value ignoreCase => condition _ _ rfl
  · exact fun _ absent => nomatch absent
  · intro first rest here there query member
    rcases List.mem_cons.mp member with rfl | later
    · exact here
    · exact there query later

/-- The queries that a connective connects. -/
def children : Query → List Query
  | and children | or children | filter children | nor children => children
  | not child => [child]
  | _ => []

theorem children_of_check? (condition : check? query = some check) : query.children = [] := by
  cases query with
  | range | exact | present | textual => rfl
  | _ => contradiction

/-- What holds of a query as soon as it holds of its children holds of every query. -/
theorem induct_children {motive : Query → Prop}
    (step : ∀ query : Query, (∀ child ∈ query.children, motive child) → motive query)
    (query : Query) : motive query := by
  induction query using induct with
  | and children ih => exact step _ ih
  | or children ih => exact step _ ih
  | filter children ih => exact step _ ih
  | nor children ih => exact step _ ih
  | not child ih => exact step _ (List.forall_mem_singleton.mpr ih)
  | condition query check condition => exact step _ (children_of_check? condition ▸ nofun)

/-- The query itself and every query inside of it. -/
inductive Within (inner : Query) : Query → Prop where
  | self : Within inner inner
  | child (member : child ∈ query.children) : Within inner child → Within inner query

end Storefront.Query
