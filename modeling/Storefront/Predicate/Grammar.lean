import Storefront.Grammar
import Storefront.Predicate.Basic
import Storefront.Predicate.Lexicon
import Storefront.Token.Literal

/-!
The grammar of predicates, and compiling a text into a predicate.

While a predicate is read, an expression is a field name, an operand or a test; each rule asks for
the ones it can use. `or` binds loosest, then `and`, then `not`; both connectives associate to the
right.
-/
namespace Storefront.Predicate

inductive Node where
  | field (name : String)
  | operand (operand : Operand)
  | test (test : Test)

namespace Node

def toField (fragment : String) : Node → Except Error String
  | field name => .ok name
  | _ => .error (.badText .expectedField fragment)

def toOperand (fragment : String) : Node → Except Error Operand
  | operand found => .ok found
  | _ => .error (.badText .expectedOperand fragment)

def toTest (fragment : String) : Node → Except Error Test
  | test found => .ok found
  | _ => .error (.badText .expectedTest fragment)

end Node

def orPower : Nat := 5
def andPower : Nat := 6
def notPower : Nat := 7
def comparisonPower : Nat := 10
def descentPower : Nat := 20
def operandPower : Nat := 30

def leaf (node : Token Kind → Except Error Node) : LeadingRule Kind Node :=
  fun token rest _ => do
    let node ← node token
    .ok ⟨node, rest, Nat.lt_succ_self _⟩

def literal (value : Json) : Node :=
  .operand (.value value)

/-- The name of a parameter token, which stands behind a colon. -/
def parameterName (token : Token Kind) : String :=
  String.ofList (token.text.toList.drop 1)

/-- A test in parentheses, whose opening one is `token`. -/
def readGroup : LeadingRule Kind Node := fun token rest parse => do
  let inner ← parse 0 rest (Nat.le_refl _)
  let test ← inner.value.toTest token.text
  let closing ← expect .rParen inner.rest
  .ok ⟨.test test, closing.rest, by
    have := inner.shorter; have := closing.shorter; omega⟩

def readNegation : LeadingRule Kind Node := fun token rest parse => do
  let inner ← parse notPower rest (Nat.le_refl _)
  let test ← inner.value.toTest token.text
  .ok ⟨.test (.negation test), inner.rest, by have := inner.shorter; omega⟩

/-- A connective; its right side may hold the same connective. -/
def connective (power : Nat) (join : Test → Test → Test) : TrailingRule Kind Node where
  power := power
  read left token rest parse := do
    let left ← left.toTest token.text
    let inner ← parse (power - 1) rest (Nat.le_refl _)
    let right ← inner.value.toTest token.text
    .ok ⟨.test (join left right), inner.rest, by have := inner.shorter; omega⟩

def comparisonRule (relation : Relation) : TrailingRule Kind Node where
  power := comparisonPower
  read left token rest parse := do
    let field ← left.toField token.text
    let inner ← parse comparisonPower rest (Nat.le_refl _)
    let operand ← inner.value.toOperand token.text
    .ok ⟨.test (.comparison field relation operand), inner.rest, by
      have := inner.shorter; omega⟩

/-- A list of operands in parentheses, or a single parameter. -/
def readOperandList (rest : List (Token Kind)) (parse : Subparser Kind Node rest.length) :
    Except Error (Parsed Kind (List Operand) rest.length) :=
  match rest with
  | [] => .error (.badText (.expectedAtEnd (TokenKind.name Kind.lParen)) "")
  | first :: more =>
    if first.kind = .parameter then
      .ok ⟨[.parameter (parameterName first)], more, Nat.lt_succ_self _⟩
    else do
      let opening ← expect .lParen (first :: more)
      let operands ← readList .comma operandPower (Node.toOperand opening.value.text) _ parse
        opening.rest (Nat.le_of_lt opening.shorter)
      let closing ← expect .rParen operands.rest
      .ok ⟨operands.value, closing.rest, by
        have := opening.shorter; have := operands.shorter; have := closing.shorter; omega⟩

/-- Membership in a list, where `not` may stand in front of `in`. -/
def membershipRule (negated : Bool) : TrailingRule Kind Node where
  power := comparisonPower
  read left token rest parse := do
    let field ← left.toField token.text
    if negated then
      let word ← expect .isIn rest
      let operands ← readOperandList word.rest fun threshold tokens le =>
        parse threshold tokens (by have := word.shorter; omega)
      .ok ⟨.test (.membership field true operands.value), operands.rest, by
        have := word.shorter; have := operands.shorter; omega⟩
    else
      let operands ← readOperandList rest parse
      .ok ⟨.test (.membership field false operands.value), operands.rest, by
        have := operands.shorter; omega⟩

/-- The word that says what to check. The fragment is the `is` before it. -/
def readCheck (field fragment : String) (negated : Bool) :
    (rest : List (Token Kind)) → Except Error (Parsed Kind Node rest.length)
  | [] => .error (.badText .expectedCheck fragment)
  | word :: rest =>
    if word.kind = .defined then
      .ok ⟨.test (.examination field negated .defined), rest, Nat.lt_succ_self _⟩
    else if word.kind = .empty then
      .ok ⟨.test (.examination field negated .empty), rest, Nat.lt_succ_self _⟩
    else .error (.badText .expectedCheck word.text)

/-- What stands behind `is`: `not` or nothing, and the word that says what to check. -/
def readExamination (field fragment : String) :
    (rest : List (Token Kind)) → Except Error (Parsed Kind Node rest.length)
  | [] => .error (.badText .expectedCheck fragment)
  | word :: rest =>
    if word.kind = .not then
      (readCheck field fragment true rest).map (·.weaken (Nat.le_succ _))
    else readCheck field fragment false (word :: rest)

def examinationRule : TrailingRule Kind Node where
  power := comparisonPower
  read left token rest _ := do
    let field ← left.toField token.text
    let node ← readExamination field token.text rest
    .ok (node.weaken (Nat.le_succ _))

/-- The word behind `contains`. The fragment is the `contains` before it. -/
def readQuantifier (fragment : String) :
    (rest : List (Token Kind)) → Except Error (Parsed Kind Quantifier rest.length)
  | [] => .error (.badText .expectedQuantifier fragment)
  | word :: rest =>
    if word.kind = .all then .ok ⟨.all, rest, Nat.lt_succ_self _⟩
    else if word.kind = .any then .ok ⟨.any, rest, Nat.lt_succ_self _⟩
    else .error (.badText .expectedQuantifier word.text)

def containmentRule : TrailingRule Kind Node where
  power := comparisonPower
  read left token rest parse := do
    let field ← left.toField token.text
    let quantifier ← readQuantifier token.text rest
    let operands ← readOperandList quantifier.rest fun threshold tokens le =>
      parse threshold tokens (by have := quantifier.shorter; omega)
    .ok ⟨.test (.containment field quantifier.value operands.value), operands.rest, by
      have := quantifier.shorter; have := operands.shorter; omega⟩

/-- A test of the value of a field, in parentheses behind its name. -/
def descentRule : TrailingRule Kind Node where
  power := descentPower
  read left token rest parse := do
    let field ← left.toField token.text
    let inner ← parse 0 rest (Nat.le_refl _)
    let test ← inner.value.toTest token.text
    let closing ← expect .rParen inner.rest
    .ok ⟨.test (.descent field test), closing.rest, by
      have := inner.shorter; have := closing.shorter; omega⟩

def leading : Kind → Option (LeadingRule Kind Node)
  | .identifier => some (leaf fun token => .ok (.field token.text))
  | .str => some (leaf fun token => .ok (literal (.string (Literal.unquote token.text))))
  | .number => some (leaf fun token => (Literal.number token.text).map literal)
  | .yes => some (leaf fun _ => .ok (literal (.bool true)))
  | .no => some (leaf fun _ => .ok (literal (.bool false)))
  | .parameter => some (leaf fun token => .ok (.operand (.parameter (parameterName token))))
  | .lParen => some readGroup
  | .not => some readNegation
  | _ => none

def trailing : Kind → Option (TrailingRule Kind Node)
  | .and => some (connective andPower .conjunction)
  | .or => some (connective orPower .disjunction)
  | .eq => some (comparisonRule .equal)
  | .notEq => some (comparisonRule .notEqual)
  | .gt => some (comparisonRule .greater)
  | .lt => some (comparisonRule .less)
  | .gte => some (comparisonRule .atLeast)
  | .lte => some (comparisonRule .atMost)
  | .isIn => some (membershipRule false)
  | .not => some (membershipRule true)
  | .is => some examinationRule
  | .contains => some containmentRule
  | .lParen => some descentRule
  | _ => none

def grammar : Grammar Kind Node := ⟨lexicon, leading, trailing⟩

def readTest (source : String) : Except Error Test := do
  let node ← grammar.parseSource source
  node.toTest (fragment source.toList)

def compile (source : String) : Except Error Predicate := do
  let test ← readTest source
  .ok ⟨source, [test]⟩

/-- Compiles predicates that all have to hold; the source is their conjunction. -/
def compileAll (sources : List String) : Except Error Predicate := do
  let tests ← sources.mapM readTest
  .ok ⟨" and ".intercalate (sources.map fun source => "(" ++ source ++ ")"), tests⟩

end Storefront.Predicate
