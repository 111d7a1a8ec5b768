import Storefront.Filter.Basic
import Storefront.Query.Basic

/-!
Evaluation in place, which gives an answer and may mark a variant of the document it was given. The
mark is set once the answer is known. A query carries the first match of the last condition on
variants along while it is evaluated, and keeps none under a negation.
-/
namespace Storefront

/-- The answer of a filter, and the document as it is afterwards. -/
def Filter.evaluateInPlace (filter : Filter) (marking : Bool) (doc : Json) :
    Except Error Bool × Json :=
  match filter.variantPath? with
  | none => (filter.test filter.path.toList doc, doc)
  | some path =>
    match Variant.firstMatching doc (filter.test path) with
    | .error e => (.error e, doc)
    | .ok first => (.ok first.isSome, if marking then Variant.markMatching doc first else doc)

namespace Query

/-- The match to mark once the answer is known. Nothing is kept unless marks are wanted. -/
structure Marks where
  wanted : Bool
  last : Option (Option Nat) := none
deriving DecidableEq, Repr

namespace Marks

def suspended : Marks := { wanted := false }

def keep (marks : Marks) (first : Option Nat) : Marks :=
  if marks.wanted then { marks with last := some first } else marks

end Marks

/-- What a condition that has its operands comes to: where it looks, and its test of what is there. -/
structure Check where
  target : Target
  test : Option Json → Except Error Bool

namespace Check

def variantPath? (check : Check) : Option (List Char) :=
  Variant.relativePath? check.target.field.toList

/-- The test of what a path names in a document or a variant. -/
def testAt (check : Check) (path : List Char) (value : Json) : Except Error Bool :=
  check.test (check.target.resolve? path value)

def judge (check : Check) (doc : Json) (marks : Marks) : Except Error Bool × Marks :=
  match check.variantPath? with
  | none => (check.testAt check.target.field.toList doc, marks)
  | some path =>
    match Variant.firstMatching doc (check.testAt path) with
    | .error e => (.error e, marks)
    | .ok first => (.ok first.isSome, marks.keep first)

end Check

def rangeCheck (target : Target) (bounds : Bounds) : Except Error Check :=
  if bounds.isOpen then .error (.badInput (.noBounds target.field))
  else .ok ⟨target, anyCandidate (bounds.contain target.field)⟩

def exactCheck (target : Target) (value : Option Json) (values : Option (List Json))
    (ignoreCase : Bool) : Except Error Check :=
  match operands? value values with
  | none => .error (.badInput (.noOperands target.field))
  | some operands =>
    .ok ⟨target, anyCandidate fun candidate => .ok (operands.any (exactEq ignoreCase candidate))⟩

def presentCheck (target : Target) : Check :=
  ⟨target, fun field => .ok field.isSome⟩

def textCheck (mode : TextMode) (target : Target) (value : String) (ignoreCase : Bool) : Check :=
  ⟨target, anyCandidate fun candidate => .ok (textHolds mode ignoreCase value candidate)⟩

/-- A condition that lacks its operands is refused as soon as evaluation comes to it. -/
def judgeCheck (doc : Json) (check : Except Error Check) (marks : Marks) :
    Except Error Bool × Marks :=
  match check with
  | .error e => (.error e, marks)
  | .ok check => check.judge doc marks

mutual
/-- The answer of a query, and the match to mark as it is known then. -/
def judge (doc : Json) : Query → Marks → Except Error Bool × Marks
  | and children, marks => judgeAll doc children marks
  | filter children, marks => judgeAll doc children marks
  | or children, marks => judgeAny doc children marks
  | not child, marks => ((judge doc child .suspended).1.map (!·), marks)
  | nor children, marks => ((judgeAny doc children .suspended).1.map (!·), marks)
  | range target bounds, marks => judgeCheck doc (rangeCheck target bounds) marks
  | exact target value values ignoreCase, marks =>
    judgeCheck doc (exactCheck target value values ignoreCase) marks
  | present target, marks => judgeCheck doc (.ok (presentCheck target)) marks
  | textual mode target value ignoreCase, marks =>
    judgeCheck doc (.ok (textCheck mode target value ignoreCase)) marks

def judgeAll (doc : Json) : List Query → Marks → Except Error Bool × Marks
  | [], marks => (.ok true, marks)
  | child :: children, marks =>
    match judge doc child marks with
    | (.ok true, marks) => judgeAll doc children marks
    | stopped => stopped

def judgeAny (doc : Json) : List Query → Marks → Except Error Bool × Marks
  | [], marks => (.ok false, marks)
  | child :: children, marks =>
    match judge doc child marks with
    | (.ok false, marks) => judgeAny doc children marks
    | stopped => stopped
end

/-- The answer of a query, and the document as it is afterwards. -/
def evaluateInPlace (query : Query) (marking : Bool) (doc : Json) : Except Error Bool × Json :=
  match query.judge doc { wanted := marking } with
  | (.error e, _) => (.error e, doc)
  | (.ok truth, marks) => (.ok truth, (marks.last.map (Variant.markMatching doc)).getD doc)

end Query
end Storefront
