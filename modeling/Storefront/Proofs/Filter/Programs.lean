import Storefront.Filter.Grammar
import Storefront.Proofs.Grammar.Cursor

/-!
The rules for filters as programs over a cursor, each of which does what the rule of the grammar does.
The intervals behind `range` are read in a loop of their own, without the help of other rules.
-/
namespace Storefront.Filter
open Cursor

namespace Program

def leaf (node : Token Kind → Except Error Node) : LeadingProgram Kind Node := fun _ _ token =>
  settle (node token)

def bound : Cursor Kind Bound := do
  match ← advance with
  | none => fail (.badText .expectedBound "")
  | some token =>
    match token.kind with
    | .star => pure none
    | .number => settle ((Literal.number token.text).map some)
    | .str => pure (some (.string (Literal.unquote token.text)))
    | _ => fail (.badText .expectedBound token.text)

def interval : Cursor Kind (Bound × Bound) := do
  let _ ← demand .lParen
  let low ← bound
  let _ ← demand .to
  let high ← bound
  let _ ← demand .rParen
  pure (low, high)

def intervals : Nat → Cursor Kind (List (Bound × Bound))
  | 0 => ranOut
  | fuel + 1 => do
    let first ← interval
    match ← advanceIf .comma with
    | none => pure [first]
    | some _ => do
      let next ← peek
      if next.map (·.kind) = some .lParen then do
        let more ← intervals fuel
        pure (first :: more)
      else fail (.badText .mixedItems ((next.map (·.text)).getD ""))

def ranges : LeadingProgram Kind Node := fun fuel _ _ => do
  let found ← intervals fuel
  pure (.ranges found)

def clause : TrailingProgram Kind Node where
  power := clausePower
  read fuel parse left token :=
    match left with
    | .path path => do
      let items ← separated .comma (parse itemPower) fuel
      let condition ← settle (conditionOf path items)
      pure (.clause ⟨path, condition⟩)
    | _ => fail (.badText .expectedPath token.text)

def leading : Kind → Option (LeadingProgram Kind Node)
  | .path => some (leaf fun token => .ok (.path token.text))
  | .str => some (leaf fun token => .ok (.value (.string (Literal.unquote token.text))))
  | .number => some (leaf fun token => (Literal.number token.text).map .value)
  | .yes => some (leaf fun _ => .ok (.value (.bool true)))
  | .no => some (leaf fun _ => .ok (.value (.bool false)))
  | .exist => some (leaf fun _ => .ok (.presence true))
  | .missing => some (leaf fun _ => .ok (.presence false))
  | .range => some ranges
  | _ => none

def trailing : Kind → Option (TrailingProgram Kind Node)
  | .colon => some clause
  | _ => none

end Program

/-- The grammar of filters as programs. -/
def programs : Programs Kind Node := ⟨Program.leading, Program.trailing⟩

section Rules
variable {fuel : Nat} {parse : ExpressionProgram Kind Node} {token : Token Kind}
  {rest : List (Token Kind)} {left : Node} {subparser : Subparser Kind Node rest.length}

theorem runs_leaf (node : Token Kind → Except Error Node) :
    Runs (Program.leaf node fuel parse token) rest (leaf node token rest subparser) := by
  simp only [Program.leaf, leaf]
  cases node token <;> rfl

theorem runs_bound (tokens : List (Token Kind)) : Runs Program.bound tokens (readBound tokens) := by
  cases tokens with
  | nil => rfl
  | cons token rest =>
    rw [Runs, Program.bound, bind_apply, readBound]
    change (match token.kind with
      | .star => pure none
      | .number => settle ((Literal.number token.text).map some)
      | .str => pure (some (.string (Literal.unquote token.text)))
      | _ => fail _ : Cursor Kind Bound) rest = _
    cases token.kind
    case number => cases Literal.number token.text <;> rfl
    all_goals rfl

theorem runs_interval (tokens : List (Token Kind)) :
    Runs Program.interval tokens (readInterval tokens) := by
  refine (runs_demand .lParen tokens).bind fun opening => ?_
  refine (runs_bound opening.rest).bind fun low => ?_
  refine (runs_demand .to low.rest).bind fun word => ?_
  refine (runs_bound word.rest).bind fun high => ?_
  refine (runs_demand .rParen high.rest).bind fun closing => ?_
  exact runs_ok

/-- Each interval takes tokens, so the loop ends if there is more fuel than there are tokens. -/
theorem runs_intervals (fuel : Nat) : ∀ tokens : List (Token Kind), tokens.length < fuel →
    Runs (Program.intervals fuel) tokens (readIntervals tokens) := by
  induction fuel with
  | zero => exact fun _ enough => absurd enough (Nat.not_lt_zero _)
  | succ fuel ih =>
    intro tokens enough
    rw [Runs, Program.intervals, bind_apply, runs_interval tokens, readIntervals]
    rcases readInterval tokens with e | ⟨interval, rest, shorter⟩
    · rfl
    · cases rest with
      | nil => rfl
      | cons next rest =>
        have within : rest.length < fuel := by
          rw [List.length_cons] at shorter
          omega
        change (advanceIf .comma >>= _) (next :: rest) = _
        rw [bind_apply, advanceIf_cons]
        by_cases comma : next.kind = .comma
        · simp only [comma, if_true]
          change (if (rest.head?.map (·.kind)) = some .lParen then _ else _ : Cursor Kind _) rest = _
          have opens : startsWith .lParen rest = true ↔ rest.head?.map (·.kind) = some .lParen := by
            cases rest <;> simp [startsWith]
          by_cases another : startsWith .lParen rest = true
          · rw [if_pos (opens.mp another)]
            simp only [another, if_true]
            rw [bind_apply, ih rest within]
            cases readIntervals rest <;> rfl
          · rw [if_neg (another ∘ opens.mpr)]
            simp only [another]
            rfl
        · simp only [comma, if_false]
          rfl

theorem runs_ranges (enough : rest.length < fuel) :
    Runs (Program.ranges fuel parse token) rest (readRanges token rest subparser) :=
  (runs_intervals fuel rest enough).bind fun _ => runs_ok

theorem runs_clause (agrees : ReadsAs parse subparser) (enough : rest.length < fuel) :
    Runs (Program.clause.read fuel parse left token) rest
      (clauseRule.read left token rest subparser) := by
  cases left with
  | path path =>
    have items : Runs (separated .comma (parse itemPower) fuel) rest
        (readList .comma itemPower (fun node => .ok node) _ subparser rest (Nat.le_refl _)) := by
      have unconverted : parse itemPower = parse itemPower >>= fun node => settle (.ok node) :=
        (bind_pure _).symm
      rw [unconverted]
      exact runs_separated (agrees itemPower) fuel rest _ enough
    exact items.bind fun _ => Runs.step fun _ => runs_ok
  | _ => rfl

end Rules

/-- The programs do what the rules of the grammar do. -/
theorem programs_agree : programs.Agree grammar where
  leads kind := by
    cases kind
    case path | str | number | yes | no | exist | missing =>
      exact .some fun _ _ _ _ _ _ _ => runs_leaf _
    case range => exact .some fun _ _ _ _ _ enough _ => runs_ranges enough
    all_goals exact .none
  trails kind := by
    cases kind
    case colon => exact .some ⟨rfl, fun _ _ _ _ _ _ enough agrees => runs_clause agrees enough⟩
    all_goals exact .none

/-- Compiles a text with fuel for every loop on the way. -/
def compileWithin (fuel : Nat) (source : String) : Option (Except Error Filter) :=
  (programs.parseSource lexicon fuel source).map fun parsed => do
    match ← parsed with
    | .clause filter => .ok filter
    | _ => .error (.badText .expectedClause (fragment source.toList))

theorem compileWithin_eq {fuel : Nat} {source : String} (enough : source.length < fuel) :
    compileWithin fuel source = some (compile source) :=
  congrArg (Option.map _) (programs_agree.parseSource_eq enough)

end Storefront.Filter
