import Storefront.Filter.Basic
import Storefront.Filter.Lexicon
import Storefront.Grammar
import Storefront.Token.Literal

/-!
The grammar of filters, and compiling a text into a filter: a path, a colon, and a comma-separated
list of values, of `exists` and `missing`, or of intervals, which do not mix.
-/
namespace Storefront.Filter

inductive Node where
  | path (path : String)
  | value (value : Json)
  | presence (wanted : Bool)
  | ranges (intervals : List (Bound × Bound))
  | clause (filter : Filter)

namespace Node

def value? : Node → Option Json
  | value found => some found
  | _ => none

def presence? : Node → Option Bool
  | presence wanted => some wanted
  | _ => none

def ranges? : Node → Option (List (Bound × Bound))
  | ranges intervals => some intervals
  | _ => none

end Node

def clausePower : Nat := 1
def itemPower : Nat := 10

def leaf (node : Token Kind → Except Error Node) : LeadingRule Kind Node :=
  fun token rest _ => do
    let node ← node token
    .ok ⟨node, rest, Nat.lt_succ_self _⟩

def readBound : (tokens : List (Token Kind)) → Except Error (Parsed Kind Bound tokens.length)
  | [] => .error (.badText .expectedBound "")
  | token :: rest => do
    let bound : Bound ← match token.kind with
      | .star => .ok none
      | .number => (Literal.number token.text).map some
      | .str => .ok (some (.string (Literal.unquote token.text)))
      | _ => .error (.badText .expectedBound token.text)
    .ok ⟨bound, rest, Nat.lt_succ_self _⟩

def readInterval (tokens : List (Token Kind)) :
    Except Error (Parsed Kind (Bound × Bound) tokens.length) := do
  let opening ← expect .lParen tokens
  let low ← readBound opening.rest
  let word ← expect .to low.rest
  let high ← readBound word.rest
  let closing ← expect .rParen high.rest
  .ok ⟨(low.value, high.value), closing.rest, by
    have := opening.shorter; have := low.shorter; have := word.shorter
    have := high.shorter; have := closing.shorter; omega⟩

/-- The intervals behind `range`. A comma has to be followed by another interval. -/
def readIntervals (tokens : List (Token Kind)) :
    Except Error (Parsed Kind (List (Bound × Bound)) tokens.length) :=
  match readInterval tokens with
  | .error e => .error e
  | .ok first =>
    match _step : first.rest with
    | [] => .ok ⟨[first.value], [], by have := first.shorter; simp_all⟩
    | next :: rest =>
      have shorter : rest.length + 1 < tokens.length := by
        have := first.shorter; simp_all
      if next.kind = .comma then
        if startsWith .lParen rest then
          match readIntervals rest with
          | .error e => .error e
          | .ok more =>
            .ok ⟨first.value :: more.value, more.rest, by have := more.shorter; omega⟩
        else .error (.badText .mixedItems ((rest.head?.map (·.text)).getD ""))
      else .ok ⟨[first.value], next :: rest, by simpa using shorter⟩
termination_by tokens.length

def readRanges : LeadingRule Kind Node := fun _ rest _ => do
  let intervals ← readIntervals rest
  .ok ⟨.ranges intervals.value, intervals.rest, by have := intervals.shorter; omega⟩

/-- What each item of a list is in a category, if all of them are of that category. -/
def collect {α : Type} (path : String) (pick : Node → Option α) (items : List Node) :
    Except Error (List α) :=
  match items.mapM pick with
  | some found => .ok found
  | none => .error (.badText .mixedItems path)

/-- The condition that a list of items spells; its first item decides the category. -/
def conditionOf (path : String) (items : List Node) : Except Error Condition :=
  match items with
  | .value _ :: _ => (collect path Node.value? items).map .values
  | .presence _ :: _ => (collect path Node.presence? items).map .presence
  | .ranges _ :: _ => (collect path Node.ranges? items).map fun lists => .ranges lists.flatten
  | _ => .error (.badText .expectedItem path)

def clauseRule : TrailingRule Kind Node where
  power := clausePower
  read left token rest parse :=
    match left with
    | .path path => do
      let items ← readList .comma itemPower (fun node => .ok node) _ parse rest (Nat.le_refl _)
      let condition ← conditionOf path items.value
      .ok ⟨.clause ⟨path, condition⟩, items.rest, by have := items.shorter; omega⟩
    | _ => .error (.badText .expectedPath token.text)

def leading : Kind → Option (LeadingRule Kind Node)
  | .path => some (leaf fun token => .ok (.path token.text))
  | .str => some (leaf fun token => .ok (.value (.string (Literal.unquote token.text))))
  | .number => some (leaf fun token => (Literal.number token.text).map .value)
  | .yes => some (leaf fun _ => .ok (.value (.bool true)))
  | .no => some (leaf fun _ => .ok (.value (.bool false)))
  | .exist => some (leaf fun _ => .ok (.presence true))
  | .missing => some (leaf fun _ => .ok (.presence false))
  | .range => some readRanges
  | _ => none

def trailing : Kind → Option (TrailingRule Kind Node)
  | .colon => some clauseRule
  | _ => none

def grammar : Grammar Kind Node := ⟨lexicon, leading, trailing⟩

def compile (source : String) : Except Error Filter := do
  match ← grammar.parseSource source with
  | .clause filter => .ok filter
  | _ => .error (.badText .expectedClause (fragment source.toList))

end Storefront.Filter
