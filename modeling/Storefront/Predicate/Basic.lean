import Storefront.Error
import Storefront.Json.Comparison

/-!
Predicates over documents, as their parsed form and its meaning. A test looks at one member of the
value at hand; a descent moves to the value of a member, or to each of its elements if that is an
array. Evaluation goes from left to right, stops as soon as the result is known, and fails only at a
parameter without a value.
-/
namespace Storefront

abbrev Variables := Dictionary Json

/-- A literal, or a parameter whose value is given at evaluation. -/
inductive Operand where
  | value (literal : Json)
  | parameter (name : String)
deriving Repr

inductive Relation where
  | equal
  | notEqual
  | greater
  | less
  | atLeast
  | atMost
deriving DecidableEq, Repr

inductive Check where
  | defined
  | empty
deriving DecidableEq, Repr

inductive Quantifier where
  | any
  | all
deriving DecidableEq, Repr

inductive Test where
  | negation (inner : Test)
  | conjunction (left right : Test)
  | disjunction (left right : Test)
  | comparison (field : String) (relation : Relation) (operand : Operand)
  | membership (field : String) (negated : Bool) (operands : List Operand)
  | examination (field : String) (negated : Bool) (check : Check)
  | containment (field : String) (quantifier : Quantifier) (operands : List Operand)
  | descent (field : String) (inner : Test)
deriving Repr

namespace Operand

def resolve (vars : Variables) : Operand → Except Error Json
  | value literal => .ok literal
  | parameter name =>
    match Dictionary.get? vars name with
    | some found => .ok found
    | none => .error (.badInput (.unbound name))

/-- The values an operand adds to a list: a parameter bound to an array adds its elements. -/
def splice (vars : Variables) (operand : Operand) : Except Error (List Json) :=
  match operand, operand.resolve vars with
  | _, .error e => .error e
  | parameter _, .ok (.array items) => .ok items
  | _, .ok found => .ok [found]

def resolveAll (vars : Variables) : List Operand → Except Error (List Json)
  | [] => .ok []
  | operand :: operands =>
    match operand.splice vars with
    | .error e => .error e
    | .ok found =>
      match resolveAll vars operands with
      | .error e => .error e
      | .ok values => .ok (found ++ values)

end Operand

/-- Whether a member satisfies a condition: any element of it if it is an array. -/
def anyElement (member : Option Json) (condition : Option Json → Bool) : Bool :=
  match member with
  | some (.array items) => items.any (fun item => condition (some item))
  | other => condition other

/-- Whether two values are in an order that `accept` allows; values without an order are not. -/
def ordered (accept : Ordering → Bool) (operand : Json) (member : Option Json) : Bool :=
  match member with
  | none => false
  | some value => ((value.compareLoose operand).map accept).getD false

/-- The truth of a comparison of a member with an operand. -/
def Relation.holds (relation : Relation) (member : Option Json) (operand : Json) : Bool :=
  match relation with
  | equal => anyElement member (Json.looseEq · operand)
  | notEqual => !anyElement member (Json.looseEq · operand)
  | greater => anyElement member (ordered (· == .gt) operand)
  | less => anyElement member (ordered (· == .lt) operand)
  | atLeast => anyElement member (ordered (· != .lt) operand)
  | atMost => anyElement member (ordered (· != .gt) operand)

/-- Whether a value is an empty array, string or object. -/
def Json.isEmpty : Json → Bool
  | .array items => items.isEmpty
  | .string value => value = ""
  | .object members => members.isEmpty
  | _ => false

/-- The truth of a check. Null counts as absent, and what is absent is neither empty nor not. -/
def Check.holds (check : Check) (negated : Bool) (member : Option Json) : Bool :=
  match check, member with
  | defined, none => negated
  | defined, some .null => negated
  | defined, some _ => !negated
  | empty, none => false
  | empty, some .null => false
  | empty, some value => value.isEmpty != negated

/-- Whether an array contains any or all of some values; a member of another kind never does. -/
def Quantifier.holds (quantifier : Quantifier) (member : Option Json) (wanted : List Json) : Bool :=
  match member with
  | some (.array items) =>
    let contained (value : Json) := items.any (fun item => Json.looseEq (some item) value)
    match quantifier with
    | any => wanted.any contained
    | all => wanted.all contained
  | _ => false

namespace Test

/-- The truth of a test on a document under the values of its parameters. -/
def evaluate (vars : Variables) : Test → Json → Except Error Bool
  | negation inner, doc =>
    match inner.evaluate vars doc with
    | .error e => .error e
    | .ok result => .ok (!result)
  | conjunction left right, doc =>
    match left.evaluate vars doc with
    | .error e => .error e
    | .ok false => .ok false
    | .ok true => right.evaluate vars doc
  | disjunction left right, doc =>
    match left.evaluate vars doc with
    | .error e => .error e
    | .ok true => .ok true
    | .ok false => right.evaluate vars doc
  | comparison field relation operand, doc =>
    match operand.resolve vars with
    | .error e => .error e
    | .ok expected => .ok (relation.holds (doc.field? field) expected)
  | membership field negated operands, doc =>
    match Operand.resolveAll vars operands with
    | .error e => .error e
    | .ok values =>
      let found := anyElement (doc.field? field) fun member => values.any (Json.looseEq member)
      .ok (found != negated)
  | examination field negated check, doc => .ok (check.holds negated (doc.field? field))
  | containment field quantifier operands, doc =>
    match Operand.resolveAll vars operands with
    | .error e => .error e
    | .ok wanted => .ok (quantifier.holds (doc.field? field) wanted)
  | descent field inner, doc =>
    let child := doc.field? field
    if Json.isTruthy child then
      match child with
      | some (.array items) => items.anyM (fun item => inner.evaluate vars item)
      | some child => inner.evaluate vars child
      | none => .ok false
    else .ok false

end Test

/-- A compiled predicate: tests that all have to hold, and the text they were read from. -/
structure Predicate where
  source : String
  tests : List Test
deriving Repr

namespace Predicate

/-- Whether a predicate holds of a document under the values of its parameters. -/
def matchesWith (predicate : Predicate) (vars : Variables) (doc : Json) : Except Error Bool :=
  predicate.tests.allM (fun test => test.evaluate vars doc)

end Predicate
end Storefront
