import Storefront.Predicate.Grammar
import Storefront.Proofs.Grammar.Cursor

/-!
The rules for predicates as programs over a cursor, which take tokens and ask for further expressions
without a word on how many tokens are left. Each does what the rule of the grammar does.
-/
namespace Storefront.Predicate
open Cursor

namespace Program

def leaf (node : Token Kind → Except Error Node) : LeadingProgram Kind Node := fun _ _ token =>
  settle (node token)

def group : LeadingProgram Kind Node := fun _ parse token => do
  let inner ← parse 0
  let test ← settle (inner.toTest token.text)
  let _ ← demand .rParen
  pure (.test test)

def negation : LeadingProgram Kind Node := fun _ parse token => do
  let inner ← parse notPower
  let test ← settle (inner.toTest token.text)
  pure (.test (.negation test))

def connective (power : Nat) (join : Test → Test → Test) : TrailingProgram Kind Node where
  power := power
  read _ parse left token := do
    let left ← settle (left.toTest token.text)
    let inner ← parse (power - 1)
    let right ← settle (inner.toTest token.text)
    pure (.test (join left right))

def comparison (relation : Relation) : TrailingProgram Kind Node where
  power := comparisonPower
  read _ parse left token := do
    let field ← settle (left.toField token.text)
    let inner ← parse comparisonPower
    let operand ← settle (inner.toOperand token.text)
    pure (.test (.comparison field relation operand))

def operandList (fuel : Nat) (parse : ExpressionProgram Kind Node) : Cursor Kind (List Operand) := do
  match ← advanceIf .parameter with
  | some token => pure [.parameter (parameterName token)]
  | none => do
    let opening ← demand .lParen
    let operands ← separated .comma
      (parse operandPower >>= fun node => settle (node.toOperand opening.text)) fuel
    let _ ← demand .rParen
    pure operands

def membership (negated : Bool) : TrailingProgram Kind Node where
  power := comparisonPower
  read fuel parse left token := do
    let field ← settle (left.toField token.text)
    if negated then do
      let _ ← demand .isIn
      let operands ← operandList fuel parse
      pure (.test (.membership field true operands))
    else do
      let operands ← operandList fuel parse
      pure (.test (.membership field false operands))

/-- The word that says what to check, which an error names, or else the `is` before it. -/
def check (field fragment : String) (negated : Bool) : Cursor Kind Node := do
  match ← advance with
  | none => fail (.badText .expectedCheck fragment)
  | some word =>
    if word.kind = .defined then pure (.test (.examination field negated .defined))
    else if word.kind = .empty then pure (.test (.examination field negated .empty))
    else fail (.badText .expectedCheck word.text)

def examination : TrailingProgram Kind Node where
  power := comparisonPower
  read _ _ left token := do
    let field ← settle (left.toField token.text)
    let negation ← advanceIf .not
    check field token.text negation.isSome

def quantifier (fragment : String) : Cursor Kind Quantifier := do
  match ← advance with
  | none => fail (.badText .expectedQuantifier fragment)
  | some word =>
    if word.kind = .all then pure .all
    else if word.kind = .any then pure .any
    else fail (.badText .expectedQuantifier word.text)

def containment : TrailingProgram Kind Node where
  power := comparisonPower
  read fuel parse left token := do
    let field ← settle (left.toField token.text)
    let quantifier ← quantifier token.text
    let operands ← operandList fuel parse
    pure (.test (.containment field quantifier operands))

def descent : TrailingProgram Kind Node where
  power := descentPower
  read _ parse left token := do
    let field ← settle (left.toField token.text)
    let inner ← parse 0
    let test ← settle (inner.toTest token.text)
    let _ ← demand .rParen
    pure (.test (.descent field test))

def leading : Kind → Option (LeadingProgram Kind Node)
  | .identifier => some (leaf fun token => .ok (.field token.text))
  | .str => some (leaf fun token => .ok (literal (.string (Literal.unquote token.text))))
  | .number => some (leaf fun token => (Literal.number token.text).map literal)
  | .yes => some (leaf fun _ => .ok (literal (.bool true)))
  | .no => some (leaf fun _ => .ok (literal (.bool false)))
  | .parameter => some (leaf fun token => .ok (.operand (.parameter (parameterName token))))
  | .lParen => some group
  | .not => some negation
  | _ => none

def trailing : Kind → Option (TrailingProgram Kind Node)
  | .and => some (connective andPower .conjunction)
  | .or => some (connective orPower .disjunction)
  | .eq => some (comparison .equal)
  | .notEq => some (comparison .notEqual)
  | .gt => some (comparison .greater)
  | .lt => some (comparison .less)
  | .gte => some (comparison .atLeast)
  | .lte => some (comparison .atMost)
  | .isIn => some (membership false)
  | .not => some (membership true)
  | .is => some examination
  | .contains => some containment
  | .lParen => some descent
  | _ => none

end Program

/-- The grammar of predicates as programs. -/
def programs : Programs Kind Node := ⟨Program.leading, Program.trailing⟩

section Rules
variable {fuel : Nat} {parse : ExpressionProgram Kind Node} {token : Token Kind} {rest : List (Token Kind)}
  {left : Node} {subparser : Subparser Kind Node rest.length}

theorem runs_leaf (node : Token Kind → Except Error Node) :
    Runs (Program.leaf node fuel parse token) rest (leaf node token rest subparser) := by
  simp only [Program.leaf, leaf]
  cases node token <;> rfl

theorem runs_check (field fragment : String) (negated : Bool) (rest : List (Token Kind)) :
    Runs (Program.check field fragment negated) rest (readCheck field fragment negated rest) := by
  cases rest with
  | nil => rfl
  | cons word rest =>
    rw [Runs, Program.check, bind_apply, readCheck]
    change (if _ then _ else if _ then _ else _ : Cursor Kind Node) rest = _
    split
    · rfl
    · split <;> rfl

theorem runs_quantifier (fragment : String) (rest : List (Token Kind)) :
    Runs (Program.quantifier fragment) rest (readQuantifier fragment rest) := by
  cases rest with
  | nil => rfl
  | cons word rest =>
    rw [Runs, Program.quantifier, bind_apply, readQuantifier]
    change (if _ then _ else if _ then _ else _ : Cursor Kind Quantifier) rest = _
    split
    · rfl
    · split <;> rfl

theorem runs_examination :
    Runs (Program.examination.read fuel parse left token) rest
      (examinationRule.read left token rest subparser) := by
  refine Runs.step fun field => ?_
  have examines : Runs (advanceIf .not >>= fun negation =>
      Program.check field token.text negation.isSome) rest (readExamination field token.text rest) := by
    cases rest with
    | nil => rfl
    | cons word rest =>
      rw [Runs, bind_apply, advanceIf_cons, readExamination]
      by_cases kind : word.kind = .not
      · simp only [kind, if_true]
        exact (runs_check field token.text true rest).weaken _
      · simp only [kind, if_false]
        exact runs_check field token.text false (word :: rest)
  rw [Runs, examines]
  cases readExamination field token.text rest <;> rfl

variable (agrees : ReadsAs parse subparser)

include agrees

theorem runs_group :
    Runs (Program.group fuel parse token) rest (readGroup token rest subparser) := by
  refine (agrees 0 rest _).bind fun inner => Runs.step fun test => ?_
  refine (runs_demand .rParen inner.rest).bind fun closing => ?_
  exact runs_ok

theorem runs_negation :
    Runs (Program.negation fuel parse token) rest (readNegation token rest subparser) :=
  (agrees notPower rest _).bind fun _ => Runs.step fun _ => runs_ok

theorem runs_connective (power : Nat) (join : Test → Test → Test) :
    Runs ((Program.connective power join).read fuel parse left token) rest
      ((connective power join).read left token rest subparser) :=
  Runs.step fun _ => (agrees (power - 1) rest _).bind fun _ => Runs.step fun _ => runs_ok

theorem runs_comparison (relation : Relation) :
    Runs ((Program.comparison relation).read fuel parse left token) rest
      ((comparisonRule relation).read left token rest subparser) :=
  Runs.step fun _ => (agrees comparisonPower rest _).bind fun _ => Runs.step fun _ => runs_ok

theorem runs_descent :
    Runs (Program.descent.read fuel parse left token) rest
      (descentRule.read left token rest subparser) := by
  refine Runs.step fun field => (agrees 0 rest _).bind fun inner => Runs.step fun test => ?_
  refine (runs_demand .rParen inner.rest).bind fun closing => ?_
  exact runs_ok

theorem runs_operandList (enough : rest.length < fuel) :
    Runs (Program.operandList fuel parse) rest (readOperandList rest subparser) := by
  cases rest with
  | nil => rfl
  | cons first more =>
    rw [Runs, Program.operandList, bind_apply, advanceIf_cons, readOperandList]
    by_cases kind : first.kind = .parameter
    · simp only [kind, if_true]
      rfl
    · simp only [kind, if_false]
      refine (runs_demand .lParen (first :: more)).bind fun opening => ?_
      have shorter := opening.shorter
      refine (runs_separated (agrees operandPower) fuel opening.rest _ (by omega)).bind ?_
      intro operands
      refine (runs_demand .rParen operands.rest).bind fun closing => ?_
      exact runs_ok

theorem runs_membership (enough : rest.length < fuel) (negated : Bool) :
    Runs ((Program.membership negated).read fuel parse left token) rest
      ((membershipRule negated).read left token rest subparser) := by
  refine Runs.step fun field => ?_
  cases negated with
  | false => exact (runs_operandList agrees enough).bind fun _ => runs_ok
  | true =>
    refine (runs_demand Kind.isIn rest).bind fun word => ?_
    have shorter := word.shorter
    have within : word.rest.length < fuel := by omega
    exact (runs_operandList (agrees.weaken (Nat.le_of_lt shorter)) within).bind fun _ => runs_ok

theorem runs_containment (enough : rest.length < fuel) :
    Runs (Program.containment.read fuel parse left token) rest
      (containmentRule.read left token rest subparser) := by
  refine Runs.step fun field => (runs_quantifier token.text rest).bind fun quantifier => ?_
  have shorter := quantifier.shorter
  have within : quantifier.rest.length < fuel := by omega
  exact (runs_operandList (agrees.weaken (Nat.le_of_lt shorter)) within).bind fun _ => runs_ok

end Rules

/-- The programs do what the rules of the grammar do. -/
theorem programs_agree : programs.Agree grammar where
  leads kind := by
    cases kind
    case identifier | str | number | yes | no | parameter =>
      exact .some fun _ _ _ _ _ _ _ => runs_leaf _
    case lParen => exact .some fun _ _ _ _ _ _ agrees => runs_group agrees
    case not => exact .some fun _ _ _ _ _ _ agrees => runs_negation agrees
    all_goals exact .none
  trails kind := by
    cases kind
    case and | or => exact .some ⟨rfl, fun _ _ _ _ _ _ _ agrees => runs_connective agrees _ _⟩
    case eq | notEq | gt | lt | gte | lte =>
      exact .some ⟨rfl, fun _ _ _ _ _ _ _ agrees => runs_comparison agrees _⟩
    case isIn | not =>
      exact .some ⟨rfl, fun _ _ _ _ _ _ enough agrees => runs_membership agrees enough _⟩
    case is => exact .some ⟨rfl, fun _ _ _ _ _ _ _ _ => runs_examination⟩
    case contains =>
      exact .some ⟨rfl, fun _ _ _ _ _ _ enough agrees => runs_containment agrees enough⟩
    case lParen => exact .some ⟨rfl, fun _ _ _ _ _ _ _ agrees => runs_descent agrees⟩
    all_goals exact .none

/-- Compiles a text with fuel for every loop on the way. -/
def compileWithin (fuel : Nat) (source : String) : Option (Except Error Predicate) :=
  (programs.parseSource lexicon fuel source).map fun parsed => do
    let node ← parsed
    let test ← node.toTest (fragment source.toList)
    .ok ⟨source, [test]⟩

theorem compileWithin_eq {fuel : Nat} {source : String} (enough : source.length < fuel) :
    compileWithin fuel source = some (compile source) := by
  refine (congrArg (Option.map _) (programs_agree.parseSource_eq enough)).trans ?_
  rw [compile, readTest]
  cases grammar.parseSource source with
  | error e => rfl
  | ok node => rfl

end Storefront.Predicate
