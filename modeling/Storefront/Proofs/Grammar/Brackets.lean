import Storefront.Proofs.Token.Layout

/-!
Formulas of binary operators, and the brackets in them. An operand needs brackets for the operator on
its outside, if that one binds less tightly than the operator it belongs to, or as tightly while both
group on the other side. Brackets are enough if those are among them.
-/
namespace Storefront

/-- The side on which operators of one power group. -/
inductive Associativity where
  | left
  | right
deriving DecidableEq

structure Operator where
  power : Nat
  associativity : Associativity
  power_pos : 0 < power

namespace Operator

/-- The threshold at which a right operand is read. -/
def threshold (operator : Operator) : Nat :=
  match operator.associativity with
  | .left => operator.power
  | .right => operator.power - 1

/-- Whether an operand on a side needs brackets for its own operator: that one binds less tightly, or
as tightly while both group on the other side. -/
def encloses (outer : Operator) (side : Associativity) (inner : Operator) : Bool :=
  inner.power < outer.power || (inner.power = outer.power && outer.associativity ≠ side)

theorem threshold_le (operator : Operator) : operator.threshold ≤ operator.power := by
  unfold threshold
  split <;> omega

theorem le_threshold {operator : Operator} {bound : Nat} (below : bound < operator.power) :
    bound ≤ operator.threshold := by
  unfold threshold
  split <;> omega

/-- A right operand stands without brackets exactly if its operator exceeds the threshold. -/
theorem encloses_right_iff {outer inner : Operator} :
    outer.encloses .right inner = false ↔ outer.threshold < inner.power := by
  have := outer.power_pos
  unfold encloses threshold
  cases outer.associativity <;> simp <;> omega

/-- A left operand stands without brackets exactly if the reading of its right side stops at the
operator behind it. -/
theorem encloses_left_iff {outer inner : Operator}
    (agree : inner.power = outer.power → inner.associativity = outer.associativity) :
    outer.encloses .left inner = false ↔ outer.power ≤ inner.threshold := by
  have := inner.power_pos
  unfold encloses threshold
  by_cases same : inner.power = outer.power
  · rw [agree same]
    cases outer.associativity <;> simp
    all_goals omega
  · cases inner.associativity <;> simp [same]
    all_goals omega

end Operator

/-- Kinds of atoms, of brackets and of binary operators. Operators of one power group on one side. -/
structure Operators (κ : Type) where
  opening : κ
  closing : κ
  isAtom : κ → Bool
  operator? : κ → Option Operator
  opening_not_atom : isAtom opening = false
  closing_not_operator : operator? closing = none
  agree : ∀ {first second : κ} {one other : Operator}, operator? first = some one →
    operator? second = some other → one.power = other.power →
      one.associativity = other.associativity

/-- Atoms joined by binary operators. -/
inductive Formula (κ : Type) where
  | atom (lexeme : Lexeme κ)
  | binary (operator : κ) (left right : Formula κ)

/-- A formula with the brackets that stand in it. -/
inductive Bracketed (κ : Type) where
  | atom (lexeme : Lexeme κ)
  | group (inner : Bracketed κ)
  | binary (operator : κ) (left right : Bracketed κ)

variable {κ : Type}

namespace Bracketed

/-- The formula without the brackets. -/
def formula : Bracketed κ → Formula κ
  | .atom lexeme => .atom lexeme
  | .group inner => inner.formula
  | .binary operator left right => .binary operator left.formula right.formula

def isGroup : Bracketed κ → Bool
  | .group _ => true
  | _ => false

/-- The second has the brackets of the first, and maybe more of them around any parts. -/
inductive Widens : Bracketed κ → Bracketed κ → Prop
  | atom (lexeme : Lexeme κ) : Widens (.atom lexeme) (.atom lexeme)
  | group {inner wide : Bracketed κ} (widens : Widens inner wide) :
      Widens (.group inner) (.group wide)
  | binary {operator : κ} {left right wideLeft wideRight : Bracketed κ}
      (onLeft : Widens left wideLeft) (onRight : Widens right wideRight) :
      Widens (.binary operator left right) (.binary operator wideLeft wideRight)
  | add {narrow wide : Bracketed κ} (widens : Widens narrow wide) : Widens narrow (.group wide)

theorem Widens.refl (bracketed : Bracketed κ) : Widens bracketed bracketed := by
  induction bracketed with
  | atom lexeme => exact .atom lexeme
  | group inner ih => exact .group ih
  | binary operator left right onLeft onRight => exact .binary onLeft onRight

theorem Widens.formula_eq {narrow wide : Bracketed κ} (widens : Widens narrow wide) :
    wide.formula = narrow.formula := by
  induction widens with
  | atom lexeme => rfl
  | group _ ih => exact ih
  | binary _ _ onLeft onRight => simp only [formula, onLeft, onRight]
  | add _ ih => exact ih

theorem Widens.isGroup {narrow wide : Bracketed κ} (widens : Widens narrow wide)
    (grouped : narrow.isGroup = true) : wide.isGroup = true := by
  cases widens with
  | atom => exact grouped
  | group => rfl
  | binary => exact grouped
  | add => rfl

theorem Widens.of_group {narrow wide : Bracketed κ} (ungrouped : narrow.isGroup = false)
    (widens : Widens narrow (.group wide)) : Widens narrow wide := by
  cases widens with
  | group => contradiction
  | add widens => exact widens

end Bracketed

namespace Operators
variable (operators : Operators κ)

/-! ### Writing -/

/-- Formulas over the atoms and the operators of the table. -/
inductive Formed : Formula κ → Prop
  | atom {lexeme : Lexeme κ} (known : operators.isAtom lexeme.kind = true) : Formed (.atom lexeme)
  | binary {kind : κ} {operator : Operator} {left right : Formula κ}
      (found : operators.operator? kind = some operator) (onLeft : Formed left)
      (onRight : Formed right) : Formed (.binary kind left right)

/-- Whether a formula needs brackets as the operand on a side of an operator. -/
def requires (side : Associativity) (outer : κ) : Formula κ → Bool
  | .atom _ => false
  | .binary inner _ _ =>
    match operators.operator? outer, operators.operator? inner with
    | some outer, some inner => outer.encloses side inner
    | _, _ => false

def enclose (side : Associativity) (outer : κ) (operand : Formula κ) (written : Bracketed κ) :
    Bracketed κ :=
  if operators.requires side outer operand then .group written else written

/-- A formula with brackets around exactly the operands that need them. -/
def bracket : Formula κ → Bracketed κ
  | .atom lexeme => .atom lexeme
  | .binary operator left right =>
    .binary operator (operators.enclose .left operator left (bracket left))
      (operators.enclose .right operator right (bracket right))

/-- The tokens that write a formula with its brackets. What the tokens of brackets and operators say
beside their kinds does not matter. -/
inductive Spells : Bracketed κ → List (Token κ) → Prop
  | atom (token : Token κ) : Spells (.atom token.lexeme) [token]
  | group (opening closing : Token κ) {inner : Bracketed κ} {tokens : List (Token κ)}
      (opens : opening.kind = operators.opening) (spelt : Spells inner tokens)
      (closes : closing.kind = operators.closing) :
      Spells (.group inner) (opening :: (tokens ++ [closing]))
  | binary (operator : Token κ) {left right : Bracketed κ} {before behind : List (Token κ)}
      (onLeft : Spells left before) (onRight : Spells right behind) :
      Spells (.binary operator.kind left right) (before ++ operator :: behind)

/-! ### What stands without brackets -/

/-- The operator at the root of a written formula, unless it stands in brackets. -/
def top? : Bracketed κ → Option Operator
  | .binary kind _ _ => operators.operator? kind
  | _ => none

/-- Every operand that needs brackets has them. -/
inductive Sufficient : Bracketed κ → Prop
  | atom {lexeme : Lexeme κ} (known : operators.isAtom lexeme.kind = true) :
      Sufficient (.atom lexeme)
  | group {inner : Bracketed κ} (within : Sufficient inner) : Sufficient (.group inner)
  | binary {kind : κ} {operator : Operator} {left right : Bracketed κ}
      (found : operators.operator? kind = some operator)
      (onLeft : Sufficient left) (onRight : Sufficient right)
      (leftEnclosed : operators.requires .left kind left.formula = true → left.isGroup = true)
      (rightEnclosed : operators.requires .right kind right.formula = true → right.isGroup = true) :
      Sufficient (.binary kind left right)

section Brackets
variable {operators} {kind : κ} {operator inner : Operator} {bracketed : Bracketed κ}

theorem exists_kind_of_top? (top : operators.top? bracketed = some inner) :
    ∃ kind, operators.operator? kind = some inner := by
  cases bracketed with
  | atom => contradiction
  | group => contradiction
  | binary kind left right => exact ⟨kind, top⟩

/-- An operand has the brackets it needs exactly if the operator on its outside, where there is one,
may stand there without them. -/
theorem enclosed_iff (found : operators.operator? kind = some operator) (side : Associativity) :
    (operators.requires side kind bracketed.formula = true → bracketed.isGroup = true) ↔
      ∀ inner, operators.top? bracketed = some inner → operator.encloses side inner = false := by
  cases bracketed with
  | atom lexeme => simp [requires, top?, Bracketed.formula]
  | group inside => simp [Bracketed.isGroup, top?]
  | binary other left right =>
    simp only [requires, top?, Bracketed.formula, Bracketed.isGroup, found]
    cases operators.operator? other with
    | none => simp
    | some inner => simp

theorem Formed.of_sufficient (sufficient : operators.Sufficient bracketed) :
    operators.Formed bracketed.formula := by
  induction sufficient with
  | atom known => exact .atom known
  | group _ ih => exact ih
  | binary found _ _ _ _ onLeft onRight => exact .binary found onLeft onRight

theorem formula_enclose {side : Associativity} {outer : κ} {operand : Formula κ}
    (same : bracketed.formula = operand) :
    (operators.enclose side outer operand bracketed).formula = operand := by
  unfold enclose
  split <;> exact same

theorem formula_bracket (formula : Formula κ) : (operators.bracket formula).formula = formula := by
  induction formula with
  | atom lexeme => rfl
  | binary operator left right onLeft onRight =>
    simp only [bracket, Bracketed.formula, formula_enclose onLeft, formula_enclose onRight]

theorem isGroup_bracket (formula : Formula κ) : (operators.bracket formula).isGroup = false := by
  cases formula <;> rfl

theorem isGroup_enclose {side : Associativity} {outer : κ} {operand : Formula κ}
    (needed : operators.requires side outer operand = true) (written : Bracketed κ) :
    (operators.enclose side outer operand written).isGroup = true := by
  rw [enclose, if_pos needed]
  rfl

theorem Sufficient.enclose (sufficient : operators.Sufficient bracketed) (side : Associativity)
    (outer : κ) (operand : Formula κ) :
    operators.Sufficient (operators.enclose side outer operand bracketed) := by
  unfold Operators.enclose
  split
  · exact .group sufficient
  · exact sufficient

/-- Brackets where they are needed are enough. -/
theorem Formed.sufficient {formula : Formula κ} (formed : operators.Formed formula) :
    operators.Sufficient (operators.bracket formula) := by
  induction formed with
  | atom known => exact .atom known
  | @binary kind operator left right found _ _ onLeft onRight =>
    refine .binary found (onLeft.enclose _ _ _) (onRight.enclose _ _ _) ?_ ?_
    · rw [formula_enclose (formula_bracket left)]
      exact fun needed => isGroup_enclose needed _
    · rw [formula_enclose (formula_bracket right)]
      exact fun needed => isGroup_enclose needed _

/-- More brackets are enough where fewer are. -/
theorem Sufficient.widens {narrow wide : Bracketed κ} (widens : narrow.Widens wide)
    (sufficient : operators.Sufficient narrow) : operators.Sufficient wide := by
  induction widens with
  | atom lexeme => exact sufficient
  | group _ ih =>
    cases sufficient with
    | group within => exact .group (ih within)
  | binary widensLeft widensRight onLeft onRight =>
    cases sufficient with
    | binary found leftWithin rightWithin leftEnclosed rightEnclosed =>
      rw [← widensLeft.formula_eq] at leftEnclosed
      rw [← widensRight.formula_eq] at rightEnclosed
      exact .binary found (onLeft leftWithin) (onRight rightWithin)
        (fun needed => widensLeft.isGroup (leftEnclosed needed))
        (fun needed => widensRight.isGroup (rightEnclosed needed))
  | add _ ih => exact .group (ih sufficient)

theorem enclose_widens {side : Associativity} {outer : κ}
    (widens : (operators.bracket bracketed.formula).Widens bracketed)
    (enclosed : operators.requires side outer bracketed.formula = true → bracketed.isGroup = true) :
    (operators.enclose side outer bracketed.formula
      (operators.bracket bracketed.formula)).Widens bracketed := by
  unfold enclose
  split
  · rename_i needed
    cases bracketed with
    | group inner => exact .group (widens.of_group (isGroup_bracket _))
    | atom => cases enclosed needed
    | binary => cases enclosed needed
  · exact widens

/-- Brackets that are enough are those that are needed, and maybe more. -/
theorem Sufficient.bracket_widens (sufficient : operators.Sufficient bracketed) :
    (operators.bracket bracketed.formula).Widens bracketed := by
  induction sufficient with
  | atom known => exact .atom _
  | group _ ih => exact .add ih
  | binary found _ _ leftEnclosed rightEnclosed onLeft onRight =>
    exact .binary (enclose_widens onLeft leftEnclosed) (enclose_widens onRight rightEnclosed)

end Brackets

end Operators
end Storefront
