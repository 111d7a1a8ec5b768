import Storefront.Filter.Grammar
import Storefront.Proofs.Grammar.Reading

/-!
The grammar of filters as its rules, and what a derivation by them says.

    Clause     ::= Path ':' Expression {',' Expression}
    Expression ::= Str | Number | 'true' | 'false' | 'exists' | 'missing'
                 | 'range' Interval {',' Interval}
    Interval   ::= '(' Bound 'TO' Bound ')'
    Bound      ::= '*' | Number | Str

The expressions of a clause are all values, all `exists` or `missing`, or all ranges. A comma
belongs to the list of expressions or to a list of intervals; nothing here says which one is to look
at it first.
-/
namespace Storefront.Filter

/-- A bound is one token. The text of a number has to be that of a finite one. -/
inductive SpellsBound : Bound → Token Kind → Prop
  | unbounded {token : Token Kind} (kind : token.kind = .star) : SpellsBound none token
  | number {token : Token Kind} {value : Json} (kind : token.kind = .number)
      (converts : Literal.number token.text = .ok value) : SpellsBound (some value) token
  | text {token : Token Kind} (kind : token.kind = .str) :
      SpellsBound (some (.string (Literal.unquote token.text))) token

inductive SpellsInterval : Bound × Bound → List (Token Kind) → Prop
  | between {low high : Bound} {opening first word last closing : Token Kind}
      (opens : opening.kind = .lParen) (lower : SpellsBound low first) (goesOn : word.kind = .to)
      (upper : SpellsBound high last) (closes : closing.kind = .rParen) :
      SpellsInterval (low, high) [opening, first, word, last, closing]

/-- What stands between the commas of a clause. -/
inductive Expression where
  | value (value : Json)
  | presence (wanted : Bool)
  | ranges (intervals : List (Bound × Bound))

namespace Expression

def isRanges : Expression → Bool
  | ranges _ => true
  | _ => false

inductive Spelt : Expression → List (Token Kind) → Prop
  | text {token : Token Kind} (kind : token.kind = .str) :
      Spelt (.value (.string (Literal.unquote token.text))) [token]
  | number {token : Token Kind} {value : Json} (kind : token.kind = .number)
      (converts : Literal.number token.text = .ok value) : Spelt (.value value) [token]
  | yes {token : Token Kind} (kind : token.kind = .yes) : Spelt (.value (.bool true)) [token]
  | no {token : Token Kind} (kind : token.kind = .no) : Spelt (.value (.bool false)) [token]
  | exist {token : Token Kind} (kind : token.kind = .exist) : Spelt (.presence true) [token]
  | missing {token : Token Kind} (kind : token.kind = .missing) : Spelt (.presence false) [token]
  | ranges {token : Token Kind} {intervals : List (Bound × Bound)} {pieces : List (Token Kind)}
      (kind : token.kind = .range) (spelt : Separated .comma SpellsInterval intervals pieces) :
      Spelt (.ranges intervals) (token :: pieces)

/-- Expressions of one category, and the condition that lists what they say, in their order. -/
inductive Lists : List Expression → Condition → Prop
  | values (values : List Json) : Lists (values.map .value) (.values values)
  | presence (wanted : List Bool) : Lists (wanted.map .presence) (.presence wanted)
  | ranges (lists : List (List (Bound × Bound))) :
      Lists (lists.map .ranges) (.ranges lists.flatten)

end Expression

/-- The tokens that the grammar derives as a filter. -/
inductive Derives : List (Token Kind) → Filter → Prop
  | clause {name mark : Token Kind} {expressions : List Expression} {pieces : List (Token Kind)}
      {condition : Condition} (path : name.kind = .path) (colon : mark.kind = .colon)
      (spelt : Separated .comma Expression.Spelt expressions pieces)
      (lists : Expression.Lists expressions condition) :
      Derives (name :: mark :: pieces) ⟨name.text, condition⟩

/-- The number of times that the word `range` stands among tokens. -/
def rangeWords (tokens : List (Token Kind)) : Nat :=
  tokens.countP (·.kind = .range)

/-- The word `range` stands in more than one place. -/
def RepeatsRange (tokens : List (Token Kind)) : Prop :=
  1 < rangeWords tokens

instance (tokens : List (Token Kind)) : Decidable (RepeatsRange tokens) :=
  inferInstanceAs (Decidable (1 < rangeWords tokens))

/-! ### How often `range` stands in a derivation -/

@[simp]
theorem rangeWords_append (front back : List (Token Kind)) :
    rangeWords (front ++ back) = rangeWords front + rangeWords back :=
  List.countP_append

theorem rangeWords_cons (token : Token Kind) (tokens : List (Token Kind)) :
    rangeWords (token :: tokens) = rangeWords tokens + if token.kind = .range then 1 else 0 := by
  simp [rangeWords, List.countP_cons]

theorem rangeWords_cons_of_ne {token : Token Kind} (other : token.kind ≠ .range)
    (tokens : List (Token Kind)) : rangeWords (token :: tokens) = rangeWords tokens := by
  rw [rangeWords_cons, if_neg other, Nat.add_zero]

theorem SpellsBound.kind_ne {bound : Bound} {token : Token Kind}
    (spelt : SpellsBound bound token) : token.kind ≠ .range := by
  cases spelt <;> simp_all

theorem SpellsInterval.rangeWords_eq {interval : Bound × Bound} {piece : List (Token Kind)}
    (spelt : SpellsInterval interval piece) : rangeWords piece = 0 := by
  obtain ⟨opens, lower, goesOn, upper, closes⟩ := spelt
  have first := lower.kind_ne
  have last := upper.kind_ne
  simp [rangeWords, opens, goesOn, closes, first, last]

/-- A comma between two pieces is no `range`, so a list has as many of them as its pieces. -/
theorem rangeWords_separated {β : Type} {spells : β → List (Token Kind) → Prop} {marked : β → Bool}
    (counts : ∀ value piece, spells value piece → rangeWords piece = if marked value then 1 else 0)
    {values : List β} {pieces : List (Token Kind)} (separated : Separated .comma spells values pieces) :
    rangeWords pieces = values.countP marked := by
  induction separated with
  | one spelt => rw [counts _ _ spelt, List.countP_singleton]
  | @cons value piece separator values pieces spelt same _ ih =>
    have other : separator.kind ≠ .range := by simp [same]
    rw [rangeWords_append, counts _ _ spelt, rangeWords_cons_of_ne other, ih, List.countP_cons,
      Nat.add_comm]

theorem Expression.Spelt.rangeWords_eq {expression : Expression} {piece : List (Token Kind)}
    (spelt : expression.Spelt piece) : rangeWords piece = if expression.isRanges then 1 else 0 := by
  cases spelt with
  | @ranges token intervals pieces kind spelt =>
    have none : rangeWords pieces = intervals.countP fun _ => false :=
      rangeWords_separated (fun _ _ spelt => spelt.rangeWords_eq) spelt
    rw [rangeWords_cons, if_pos kind, none, List.countP_false]
    rfl
  | _ kind => simp [rangeWords, isRanges, kind]

end Storefront.Filter
