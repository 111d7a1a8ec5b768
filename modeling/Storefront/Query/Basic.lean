import Storefront.Json.Comparison
import Storefront.Query.Language
import Storefront.Variant

/-!
Search queries: trees of connectives over conditions on fields, and their meaning.

Evaluation goes from left to right and stops as soon as the result is known. A condition on a field
of variants is tried on each variant in turn; the last one of these conditions that was reached, not
counting those under a negation, decides which variant is marked.
-/
namespace Storefront

namespace Query

/-- The field of a condition, with the language to look it up in and the type of its values. -/
structure Target where
  field : String
  language : Option String := none
  fieldType : Option String := none
deriving DecidableEq, Repr

/-- The bounds of a range condition, in the order in which they are looked at. -/
structure Bounds where
  atLeast : Option Json := none
  above : Option Json := none
  atMost : Option Json := none
  below : Option Json := none
deriving Repr

inductive TextMode where
  | fullText
  | fullTextPrefix
  | beginning
  | wildcard
deriving DecidableEq, Repr

end Query

inductive Query where
  | and (children : List Query)
  | or (children : List Query)
  /-- All children have to hold, as for `and`. -/
  | filter (children : List Query)
  | not (child : Query)
  /-- None of the children may hold. -/
  | nor (children : List Query)
  | range (target : Query.Target) (bounds : Query.Bounds)
  | exact (target : Query.Target) (value : Option Json) (values : Option (List Json))
      (ignoreCase : Bool)
  | present (target : Query.Target)
  | textual (mode : Query.TextMode) (target : Query.Target) (value : String) (ignoreCase : Bool)
deriving Repr

namespace Query

/-- The result of a query, and the first matching variant as the last condition on variants saw it,
if one was reached. -/
structure Outcome where
  result : Bool
  reached : Option (Option Nat)
deriving DecidableEq, Repr

/-- What a condition looks at: the field, in its language, with enumeration values by their keys. -/
def Target.resolve? (target : Target) (path : List Char) (doc : Json) : Option Json := do
  let value ← Variant.resolveField? doc path
  let value ← match target.language with
    | some language => localized? language value
    | none => some value
  match target.fieldType with
  | some kind => if "enum".toList.isSuffixOf kind.toList then enumKeys? value else some value
  | none => some value

/-- Tries a test on the field of a document, or on that of each variant up to the first for which it
is true. -/
def Target.probe (target : Target) (doc : Json) (test : Option Json → Except Error Bool) :
    Except Error Outcome :=
  match Variant.relativePath? target.field.toList with
  | some path =>
    (Variant.firstMatching doc fun variant => test (target.resolve? path variant)).map fun first =>
      ⟨first.isSome, some first⟩
  | none => (test (target.resolve? target.field.toList doc)).map fun result => ⟨result, none⟩

/-- Whether any candidate of a field that was found passes a test. -/
def anyCandidate (test : Json → Except Error Bool) : Option Json → Except Error Bool
  | none => .ok false
  | some value => value.candidates.anyM test

/-- Whether a bound, if there is one, lets a value pass; the two have to be comparable. -/
def passes (field : String) (accept : Ordering → Bool) (value : Json) :
    Option Json → Except Error Bool
  | none => .ok true
  | some bound =>
    match value.compareStrict bound with
    | some order => .ok (accept order)
    | none => .error (.evaluation (.queryBound value.typeName field bound.typeName))

def Bounds.contain (bounds : Bounds) (field : String) (value : Json) : Except Error Bool :=
  [((· != .lt : Ordering → Bool), bounds.atLeast), ((· == .gt), bounds.above),
    ((· != .gt), bounds.atMost), ((· == .lt), bounds.below)].allM
      fun (accept, bound) => passes field accept value bound

def Bounds.isOpen (bounds : Bounds) : Bool :=
  bounds.atLeast.isNone && bounds.above.isNone && bounds.atMost.isNone && bounds.below.isNone

/-- The values an exact condition allows: its value, or else its nonempty list of values. -/
def operands? : Option Json → Option (List Json) → Option (List Json)
  | some value, _ => some [value]
  | none, some (value :: values) => some (value :: values)
  | none, _ => none

/-- Equality of a candidate and an operand, where the case of two strings may not count. -/
def exactEq (ignoreCase : Bool) : Json → Json → Bool
  | .string a, .string b =>
    if ignoreCase then Text.lower a.toList = Text.lower b.toList else a = b
  | a, b => Json.strictEq a b

/-- Whether the pieces of a pattern between stars all occur in a text. -/
def wildcardMatches (text pattern : List Char) : Bool :=
  (Text.split '*' pattern).all fun piece => piece.isEmpty || Text.occursIn piece text

/-- Whether a text satisfies a text condition. Case counts always in the full-text modes. -/
def TextMode.holds (mode : TextMode) (ignoreCase : Bool) (wanted text : List Char) : Bool :=
  let fold (cs : List Char) := if ignoreCase then Text.lower cs else cs
  match mode with
  | fullText => Text.occursIn wanted text
  | fullTextPrefix => wanted.isPrefixOf text
  | beginning => (fold wanted).isPrefixOf (fold text)
  | wildcard => wildcardMatches (fold text) (fold wanted)

/-- Whether a candidate is a string that satisfies a text condition. -/
def textHolds (mode : TextMode) (ignoreCase : Bool) (wanted : String) (candidate : Json) : Bool :=
  match candidate with
  | .string text => mode.holds ignoreCase wanted.toList text.toList
  | _ => false

mutual
def run (doc : Json) : Query → Except Error Outcome
  | and children => runAll doc children
  | filter children => runAll doc children
  | or children => runAny doc children
  | not child =>
    match run doc child with
    | .error e => .error e
    | .ok outcome => .ok ⟨!outcome.result, none⟩
  | nor children =>
    match runAny doc children with
    | .error e => .error e
    | .ok outcome => .ok ⟨!outcome.result, none⟩
  | range target bounds =>
    if bounds.isOpen then .error (.badInput (.noBounds target.field))
    else target.probe doc (anyCandidate (bounds.contain target.field))
  | exact target value values ignoreCase =>
    match operands? value values with
    | none => .error (.badInput (.noOperands target.field))
    | some operands =>
      target.probe doc (anyCandidate fun candidate =>
        .ok (operands.any (exactEq ignoreCase candidate)))
  | present target => target.probe doc fun field => .ok field.isSome
  | textual mode target value ignoreCase =>
    target.probe doc (anyCandidate fun candidate => .ok (textHolds mode ignoreCase value candidate))

def runAll (doc : Json) : List Query → Except Error Outcome
  | [] => .ok ⟨true, none⟩
  | child :: children =>
    match run doc child with
    | .error e => .error e
    | .ok first =>
      if first.result then
        match runAll doc children with
        | .error e => .error e
        | .ok later => .ok ⟨later.result, later.reached.or first.reached⟩
      else .ok first

def runAny (doc : Json) : List Query → Except Error Outcome
  | [] => .ok ⟨false, none⟩
  | child :: children =>
    match run doc child with
    | .error e => .error e
    | .ok first =>
      if first.result then .ok first
      else
        match runAny doc children with
        | .error e => .error e
        | .ok later => .ok ⟨later.result, later.reached.or first.reached⟩
end

def holds (query : Query) (doc : Json) : Except Error Bool :=
  (query.run doc).map (·.result)

/-- Whether a document satisfies a query, and the document with a variant marked if marks are wanted
and a condition on variants was reached. -/
def evaluate (query : Query) (marking : Bool) (doc : Json) : Except Error (Bool × Json) :=
  match query.run doc with
  | .error e => .error e
  | .ok outcome =>
    match marking, outcome.reached with
    | true, some first => .ok (outcome.result, Variant.markMatching doc first)
    | _, _ => .ok (outcome.result, doc)

end Query
end Storefront
