import Storefront.Proofs.Grammar.Brackets
import Storefront.Proofs.Grammar.Reading

/-!
Precedence and associativity. Over any table of binary operators, a formula is read from the tokens
that write it with brackets around the operands that need them; more brackets change nothing, and
nothing else is read.
-/
namespace Storefront

variable {κ : Type}

namespace Operators
variable (operators : Operators κ)

/-! ### The grammar -/

def readAtom : LeadingRule κ (Formula κ) := fun token rest _ =>
  .ok ⟨.atom token.lexeme, rest, Nat.lt_add_one _⟩

def readGroup [DecidableEq κ] [TokenKind κ] : LeadingRule κ (Formula κ) := fun _ rest parse => do
  let inner ← parse 0 rest (Nat.le_refl _)
  let closing ← expect operators.closing inner.rest
  .ok ⟨inner.value, closing.rest, by
    have := inner.shorter; have := closing.shorter; omega⟩

def binaryRule (operator : Operator) : TrailingRule κ (Formula κ) where
  power := operator.power
  read left token rest parse := do
    let right ← parse operator.threshold rest (Nat.le_refl _)
    .ok ⟨.binary token.kind left right.value, right.rest, by
      have := right.shorter; omega⟩

def grammar [DecidableEq κ] [TokenKind κ] (lexicon : Lexicon κ) : Grammar κ (Formula κ) where
  lexicon := lexicon
  leading kind :=
    if kind = operators.opening then some operators.readGroup
    else if operators.isAtom kind then some readAtom
    else none
  trailing kind := (operators.operator? kind).map binaryRule

/-! ### Reading -/

section Reading
variable [DecidableEq κ] [TokenKind κ] {operators} {lexicon : Lexicon κ} {threshold : Nat}
  {bracketed left right : Bracketed κ} {operator : Operator} {token : Token κ}
  {tokens rest more : List (Token κ)}

theorem trailing_of_found {kind : κ} (found : operators.operator? kind = some operator) :
    (operators.grammar lexicon).trailing kind = some (binaryRule operator) := by
  simp only [grammar, found, Option.map_some]

theorem power_of_found {kind : κ} (found : operators.operator? kind = some operator) :
    (operators.grammar lexicon).power kind = operator.power :=
  Grammar.power_eq (trailing_of_found found)

theorem stops_of_closing (closes : token.kind = operators.closing) :
    (operators.grammar lexicon).Stops threshold (token :: rest) := by
  have outside := operators.closing_not_operator
  rw [Grammar.stops_cons, closes]
  simp only [Grammar.power, grammar, outside, Option.map_none, Nat.zero_le]

/-- What a bracketed formula is like that is read at a threshold in front of some tokens: no operator
outside of its brackets is left to whoever asked for it, or takes in what follows. -/
structure Fits (operators : Operators κ) (lexicon : Lexicon κ) (threshold : Nat)
    (bracketed : Bracketed κ) (rest : List (Token κ)) : Prop where
  sufficient : operators.Sufficient bracketed
  above : ∀ inner, operators.top? bracketed = some inner → threshold < inner.power
  ends : ∀ inner, operators.top? bracketed = some inner →
    (operators.grammar lexicon).Stops inner.threshold rest

/-- A binary formula is read by reading its left operand in front of the operator, and its right one
at the threshold of the operator in front of what follows. -/
theorem fits_binary_iff (found : operators.operator? token.kind = some operator)
    (more : List (Token κ)) :
    Fits operators lexicon threshold (.binary token.kind left right) rest ↔
      threshold < operator.power ∧ (operators.grammar lexicon).Stops operator.threshold rest ∧
        Fits operators lexicon threshold left (token :: more) ∧
        Fits operators lexicon operator.threshold right rest := by
  -- A left operand may do without brackets exactly if its own right side ends at the operator.
  have behindLeft {inner : Operator} (top : operators.top? left = some inner) :
      operator.encloses .left inner = false ↔
        (operators.grammar lexicon).Stops inner.threshold (token :: more) := by
    obtain ⟨kind, foundInner⟩ := exists_kind_of_top? top
    rw [Grammar.stops_cons, power_of_found found]
    exact Operator.encloses_left_iff (operators.agree foundInner found)
  constructor
  · rintro ⟨sufficient, above, ends⟩
    cases sufficient with
    | binary found' onLeft onRight leftEnclosed rightEnclosed =>
      obtain rfl := Option.some.inj (found.symm.trans found')
      rw [enclosed_iff found] at leftEnclosed rightEnclosed
      have within := above operator found
      have stops := ends operator found
      refine ⟨within, stops, ⟨onLeft, ?_, ?_⟩, ⟨onRight, ?_, ?_⟩⟩
      · intro inner top
        have behind := (behindLeft top).1 (leftEnclosed inner top)
        rw [Grammar.stops_cons, power_of_found found] at behind
        have := inner.threshold_le
        omega
      · exact fun inner top => (behindLeft top).1 (leftEnclosed inner top)
      · exact fun inner top => Operator.encloses_right_iff.1 (rightEnclosed inner top)
      · intro inner top
        have exceeds := Operator.encloses_right_iff.1 (rightEnclosed inner top)
        exact stops.mono (Operator.le_threshold exceeds)
  · rintro ⟨above, stops, onLeft, onRight⟩
    refine ⟨.binary found onLeft.sufficient onRight.sufficient ?_ ?_, ?_, ?_⟩
    · rw [enclosed_iff found]
      exact fun inner top => (behindLeft top).2 (onLeft.ends inner top)
    · rw [enclosed_iff found]
      exact fun inner top => Operator.encloses_right_iff.2 (onRight.above inner top)
    · intro inner top
      obtain rfl := Option.some.inj (found.symm.trans top)
      exact above
    · intro inner top
      obtain rfl := Option.some.inj (found.symm.trans top)
      exact stops

theorem fits_atom {lexeme : Lexeme κ} (known : operators.isAtom lexeme.kind = true) :
    Fits operators lexicon threshold (.atom lexeme) rest :=
  ⟨.atom known, fun _ top => (nomatch top), fun _ top => (nomatch top)⟩

/-- Inside brackets all operators are read, up to the closing one. -/
theorem fits_group_iff (closes : token.kind = operators.closing) (more : List (Token κ)) :
    Fits operators lexicon threshold (.group bracketed) rest ↔
      Fits operators lexicon 0 bracketed (token :: more) := by
  constructor
  · rintro ⟨sufficient, -, -⟩
    cases sufficient with
    | group within =>
      exact ⟨within, fun inner _ => inner.power_pos, fun _ _ => stops_of_closing closes⟩
  · intro within
    exact ⟨.group within.sufficient, fun _ top => (nomatch top), fun _ top => (nomatch top)⟩

/-- What a bracketed formula that fits is spelt by is read as its formula, and the reading goes on
behind it. -/
theorem yields_of_spells (spelt : operators.Spells bracketed tokens)
    (fits : Fits operators lexicon threshold bracketed rest) {formula : Formula κ}
    (goesOn : Yields ((operators.grammar lexicon).extend threshold bracketed.formula rest) formula
      more) :
    Yields ((operators.grammar lexicon).parse threshold (tokens ++ rest)) formula more := by
  -- What stands behind is left open, so that a left operand is read in front of its operator.
  induction spelt generalizing threshold rest formula more with
  | atom token =>
    cases fits.sufficient with
    | atom known =>
      have other : token.kind ≠ operators.opening := by
        intro same
        rw [Token.lexeme, same, operators.opening_not_atom] at known
        contradiction
      have leads : (operators.grammar lexicon).leading token.kind = some readAtom := by
        simp only [grammar, other, if_false]
        exact if_pos known
      exact Grammar.yields_parse leads ⟨Nat.lt_succ_self _, rfl⟩ goesOn
  | group opening closing opens _ closes ih =>
    have leads : (operators.grammar lexicon).leading opening.kind = some operators.readGroup :=
      if_pos opens
    have within := (fits_group_iff closes rest).1 fits
    have reads := ih within (Grammar.yields_of_stops (stops_of_closing closes) _)
    rw [List.cons_append, List.append_assoc]
    refine Grammar.yields_parse leads ?_ goesOn
    exact reads.bind fun _ => (yields_expect closes rest).bind fun _ => ⟨_, rfl⟩
  | @binary token left right before behind _ _ onLeft onRight =>
    cases fits.sufficient with
    | @binary _ operator _ _ found =>
      obtain ⟨above, stops, fitsLeft, fitsRight⟩ :=
        (fits_binary_iff found (behind ++ rest)).1 fits
      have reads := onRight fitsRight (Grammar.yields_of_stops stops _)
      rw [List.append_assoc]
      apply onLeft fitsLeft
      refine Grammar.yields_extend (trailing_of_found found) above ?_ goesOn
      exact reads.bind fun _ => ⟨_, rfl⟩

/-- A formula that was read, with the brackets that stood in its tokens. -/
def Stands (operators : Operators κ) (lexicon : Lexicon κ) (threshold : Nat) (formula : Formula κ)
    (tokens rest : List (Token κ)) : Prop :=
  ∃ bracketed : Bracketed κ, bracketed.formula = formula ∧ operators.Spells bracketed tokens ∧
    Fits operators lexicon threshold bracketed rest

theorem inductive_stands (operators : Operators κ) (lexicon : Lexicon κ) :
    (operators.grammar lexicon).Inductive (Stands operators lexicon) := by
  constructor
  · intro threshold token rest rule leads parse keeps
    simp only [grammar] at leads
    split at leads
    · rename_i opens
      obtain rfl := Option.some.inj leads
      refine (keeps 0 rest _).bind ?_
      rintro inner ⟨consumed, split, ⟨bracketed, same, spelt, fits⟩, -⟩
      refine (ensures_expect operators.closing inner.rest).bind ?_
      rintro closing ⟨split', closes⟩
      refine ⟨token :: (consumed ++ [closing.value]), by simp [split, split'], .group bracketed, same,
        .group token closing.value opens spelt closes, ?_⟩
      rw [split'] at fits
      exact (fits_group_iff closes _).2 fits
    · split at leads
      · rename_i known
        obtain rfl := Option.some.inj leads
        exact ⟨[token], rfl, .atom token.lexeme, rfl, .atom token, fits_atom known⟩
      · contradiction
  · intro threshold left consumed token rest rule trails above before parse keeps
    obtain ⟨operator, found, rfl⟩ := Option.map_eq_some_iff.1 trails
    obtain ⟨onLeft, same, spelt, fitsLeft⟩ := before
    refine (keeps operator.threshold rest _).bind ?_
    rintro right ⟨behind, split, ⟨onRight, same', spelt', fitsRight⟩, stops⟩
    refine ⟨token :: behind, by simp [split], .binary token.kind onLeft onRight, ?_,
      .binary token spelt spelt', ?_⟩
    · simp only [Bracketed.formula, same, same']
    · exact (fits_binary_iff found rest).2 ⟨above, stops, fitsLeft, fitsRight⟩

theorem parseAll_eq_ok_iff {formula : Formula κ} :
    (operators.grammar lexicon).parseAll tokens = .ok formula ↔
      ∃ bracketed : Bracketed κ, bracketed.formula = formula ∧ operators.Sufficient bracketed ∧
        operators.Spells bracketed tokens := by
  unfold Grammar.parseAll
  constructor
  · intro parsed
    have stands := (inductive_stands operators lexicon).ensures_parse 0 tokens
    cases reads : (operators.grammar lexicon).parse 0 tokens with
    | error e => simp [reads] at parsed
    | ok found =>
      obtain ⟨value, rest, shorter⟩ := found
      rw [reads] at stands
      obtain ⟨consumed, split, ⟨bracketed, same, spelt, fits⟩, -⟩ := stands
      cases rest with
      | cons token rest => simp [reads] at parsed
      | nil =>
        simp only [reads, Except.ok.injEq] at parsed
        rw [List.append_nil] at split
        exact ⟨bracketed, same.trans parsed, fits.sufficient, split ▸ spelt⟩
  · rintro ⟨bracketed, rfl, sufficient, spelt⟩
    have fits : Fits operators lexicon 0 bracketed [] :=
      ⟨sufficient, fun inner _ => inner.power_pos, fun _ _ => Grammar.stops_nil⟩
    have reads := yields_of_spells spelt fits (Grammar.yields_of_stops Grammar.stops_nil _)
    rw [List.append_nil] at reads
    obtain ⟨shorter, reads⟩ := reads
    simp only [reads]

end Reading

/-- A text is read as a formula if its tokens write the formula with brackets around the operands that
need them, or with more brackets than those, and otherwise not. -/
theorem precedence_and_associativity_honoured [DecidableEq κ] [TokenKind κ]
    (operators : Operators κ) (lexicon : Lexicon κ) :
    (∀ formula, operators.Formed formula → ∀ source tokens, lexicon.tokenize source = .ok tokens →
      operators.Spells (operators.bracket formula) tokens →
      (operators.grammar lexicon).parseSource source = .ok formula) ∧
    (∀ source formula, (operators.grammar lexicon).parseSource source = .ok formula ↔
      operators.Formed formula ∧ ∃ tokens wide, lexicon.tokenize source = .ok tokens ∧
        (operators.bracket formula).Widens wide ∧ operators.Spells wide tokens) := by
  have exact (source : String) (formula : Formula κ) :
      (operators.grammar lexicon).parseSource source = .ok formula ↔
        operators.Formed formula ∧ ∃ tokens wide, lexicon.tokenize source = .ok tokens ∧
          (operators.bracket formula).Widens wide ∧ operators.Spells wide tokens := by
    rw [Grammar.parseSource_eq_ok_iff]
    constructor
    · rintro ⟨tokens, cut, parsed⟩
      obtain ⟨wide, rfl, sufficient, spelt⟩ := parseAll_eq_ok_iff.1 parsed
      exact ⟨.of_sufficient sufficient, tokens, wide, cut, sufficient.bracket_widens, spelt⟩
    · rintro ⟨formed, tokens, wide, cut, widens, spelt⟩
      have same := widens.formula_eq.trans (formula_bracket formula)
      exact ⟨tokens, cut, parseAll_eq_ok_iff.2
        ⟨wide, same, formed.sufficient.widens widens, spelt⟩⟩
  refine ⟨?_, exact⟩
  intro formula formed source tokens cut spelt
  exact (exact source formula).2 ⟨formed, tokens, _, cut, .refl _, spelt⟩

end Operators

/-! ### A calculator -/

namespace Calculator

inductive Kind where
  | space
  | number
  | plus
  | minus
  | star
  | caret
  | lParen
  | rParen
deriving DecidableEq

instance : TokenKind Kind where
  name
    | .space => "Space"
    | .number => "Num"
    | .plus => "Plus"
    | .minus => "Minus"
    | .star => "Star"
    | .caret => "Caret"
    | .lParen => "LParen"
    | .rParen => "RParen"

def lexicon : Lexicon Kind :=
  [⟨.space, Pattern.blanks, true⟩, ⟨.number, Pattern.many1 Text.isDigit, false⟩,
   ⟨.plus, Pattern.exact "+", false⟩, ⟨.minus, Pattern.exact "-", false⟩,
   ⟨.star, Pattern.exact "*", false⟩, ⟨.caret, Pattern.exact "^", false⟩,
   ⟨.lParen, Pattern.exact "(", false⟩, ⟨.rParen, Pattern.exact ")", false⟩]

def operator? : Kind → Option Operator
  | .plus | .minus => some ⟨10, .left, by decide⟩
  | .star => some ⟨20, .left, by decide⟩
  | .caret => some ⟨30, .right, by decide⟩
  | _ => none

/-- Sums and differences group on the left and bind least, powers group on the right and bind most. -/
def operators : Operators Kind where
  opening := .lParen
  closing := .rParen
  isAtom kind := kind = .number
  operator? := operator?
  opening_not_atom := rfl
  closing_not_operator := rfl
  agree {first second one other} found found' same := by
    cases first <;> cases second <;> cases found <;> cases found' <;> first | rfl | contradiction

/-- A difference of differences and a power of powers, with brackets where they are needed. -/
theorem operands_grouped_by_precedence :
    let source := "9-(8-7)*2^3^2"
    let number (text : String) : Formula Kind := .atom ⟨.number, text⟩
    let formula : Formula Kind :=
      .binary .minus (number "9") (.binary .star (.binary .minus (number "8") (number "7"))
        (.binary .caret (number "2") (.binary .caret (number "3") (number "2"))))
    operators.Formed formula ∧
      (operators.grammar lexicon).parseSource source = .ok formula := by
  intro source number formula
  have formed : operators.Formed formula :=
    .binary rfl (.atom rfl) (.binary rfl (.binary rfl (.atom rfl) (.atom rfl))
      (.binary rfl (.atom rfl) (.binary rfl (.atom rfl) (.atom rfl))))
  let token (kind : Kind) (text : String) (offset : Nat) : Token Kind := ⟨kind, text, offset⟩
  have digit (text : String) (offset : Nat) :
      operators.Spells (.atom ⟨.number, text⟩) [token .number text offset] :=
    .atom (token .number text offset)
  have difference := Operators.Spells.binary (token .minus "-" 4) (digit "8" 3) (digit "7" 5)
  have power := Operators.Spells.binary (token .caret "^" 9) (digit "2" 8)
    (.binary (token .caret "^" 11) (digit "3" 10) (digit "2" 12))
  have product := Operators.Spells.binary (token .star "*" 7)
    (.group (token .lParen "(" 2) (token .rParen ")" 6) rfl difference rfl) power
  have spelt := Operators.Spells.binary (token .minus "-" 1) (digit "9" 0) product
  refine ⟨formed, (operators.precedence_and_associativity_honoured lexicon).1 formula formed source _
    ?_ spelt⟩
  change lexicon.tokenize "9-(8-7)*2^3^2" = _
  with_unfolding_all rfl

end Calculator
end Storefront
