import Storefront.Proofs.Predicate.Unambiguity
import Storefront.Proofs.Token.Numeral

/-!
What is parsed is what the grammar derives. At every point of the parser's loop the node at hand was
read from the tokens of a field, of a term or of a derivation, and what is behind a connective
leaves no operator that would have bound tighter. Every rule keeps this, and each failure on the way
is a fault of the text.
-/
namespace Storefront.Predicate

/-- What a node was read from, at a threshold and in front of a rest. -/
inductive Stands (threshold : Nat) : Node → List (Token Kind) → List (Token Kind) → Prop
  | field (word : Word .identifier) {rest : List (Token Kind)} :
      Stands threshold (.field word.val.text) [word.val] rest
  | operand (term : Term) {rest : List (Token Kind)} :
      Stands threshold (.operand term.operand) [term.token] rest
  | unary (derivation : Derivation .unary) {rest : List (Token Kind)} :
      Stands threshold (.test derivation.test) derivation.tokens rest
  | conjunction (derivation : Derivation .conjunction) {rest : List (Token Kind)}
      (loose : threshold < andPower) (follows : Follows .conjunction rest) :
      Stands threshold (.test derivation.test) derivation.tokens rest
  | test (derivation : Derivation .test) {rest : List (Token Kind)}
      (loose : threshold < orPower) (follows : Follows .test rest) :
      Stands threshold (.test derivation.test) derivation.tokens rest

/-- A test that is derived as a phrase from these tokens. -/
def Derived (phrase : Phrase) (consumed : List (Token Kind)) (test : Test) : Prop :=
  ∃ derivation : Derivation phrase, derivation.tokens = consumed ∧ derivation.test = test

namespace Stands
variable {threshold : Nat} {node : Node} {consumed rest : List (Token Kind)}

theorem ensures_toField (stands : Stands threshold node consumed rest) (fragment : String) :
    Ensures (fun name => ∃ word : Word .identifier, word.val.text = name ∧ consumed = [word.val])
      (node.toField fragment) := by
  cases stands with
  | field word => exact ⟨word, rfl, rfl⟩
  | _ => exact ensures_badText

theorem ensures_toOperand (stands : Stands threshold node consumed rest) (fragment : String) :
    Ensures (fun operand => ∃ term : Term, term.operand = operand ∧ consumed = [term.token])
      (node.toOperand fragment) := by
  cases stands with
  | operand term => exact ⟨term, rfl, rfl⟩
  | _ => exact ensures_badText

/-- Any test may stand where the rules ask for the loosest phrase. -/
theorem ensures_test (stands : Stands threshold node consumed rest) (fragment : String) :
    Ensures (Derived .test consumed) (node.toTest fragment) := by
  cases stands with
  | unary derivation => exact ⟨.ofConjunction (.ofUnary derivation), rfl, rfl⟩
  | conjunction derivation => exact ⟨.ofConjunction derivation, rfl, rfl⟩
  | test derivation => exact ⟨derivation, rfl, rfl⟩
  | _ => exact ensures_badText

/-- A test is a conjunction where a disjunction was not read or would go on. -/
theorem ensures_conjunction (stands : Stands threshold node consumed rest)
    (bound : orPower ≤ threshold ∨ ¬ Follows .test rest) (fragment : String) :
    Ensures (Derived .conjunction consumed) (node.toTest fragment) := by
  cases stands with
  | unary derivation => exact ⟨.ofUnary derivation, rfl, rfl⟩
  | conjunction derivation => exact ⟨derivation, rfl, rfl⟩
  | test derivation loose follows =>
    rcases bound with tight | goesOn
    · exact absurd loose (Nat.not_lt.2 tight)
    · exact absurd follows goesOn
  | _ => exact ensures_badText

/-- A test is unary where a connective was not read or a conjunction would go on. -/
theorem ensures_unary (stands : Stands threshold node consumed rest)
    (bound : andPower ≤ threshold ∨ ¬ Follows .conjunction rest) (fragment : String) :
    Ensures (Derived .unary consumed) (node.toTest fragment) := by
  cases stands with
  | unary derivation => exact ⟨derivation, rfl, rfl⟩
  | conjunction derivation loose follows =>
    rcases bound with tight | goesOn
    · exact absurd loose (Nat.not_lt.2 tight)
    · exact absurd follows goesOn
  | test derivation loose follows =>
    rcases bound with tight | goesOn
    · exact absurd loose (Nat.not_lt.2 (Nat.le_trans (by decide) tight))
    · exact absurd (follows.mono (by decide)) goesOn
  | _ => exact ensures_badText

end Stands

/-- A reading of tokens behind consumed ones ends in a node that was read from both. -/
abbrev ReadsOn (threshold : Nat) (consumed tokens : List (Token Kind)) {bound : Nat}
    (reading : Except Error (Parsed Kind Node bound)) : Prop :=
  Ensures (Grammar.Splits (fun node more => Stands threshold node (consumed ++ more)) tokens)
    reading

section Rules
variable {threshold : Nat} {rest : List (Token Kind)} {parse : Subparser Kind Node rest.length}

theorem ensures_readGroup (keeps : grammar.Keeps Stands parse) (opening : Word .lParen) :
    Ensures (Grammar.Splits (Stands threshold) (opening.val :: rest))
      (readGroup opening.val rest parse) := by
  refine (keeps 0 rest _).bind ?_
  rintro inner ⟨consumed, split, stands, -⟩
  refine (stands.ensures_test _).bind ?_
  rintro test ⟨derivation, rfl, rfl⟩
  refine (ensures_expect .rParen inner.rest).bind ?_
  rintro closing ⟨split', kind⟩
  let group := Derivation.group opening derivation ⟨closing.value, kind⟩
  exact ⟨group.tokens, by simp [group, Derivation.tokens, split, split'], .unary (.ofPrimary group)⟩

theorem ensures_readNegation (keeps : grammar.Keeps Stands parse) (word : Word .not) :
    Ensures (Grammar.Splits (Stands threshold) (word.val :: rest))
      (readNegation word.val rest parse) := by
  refine (keeps notPower rest _).bind ?_
  rintro inner ⟨consumed, split, stands, -⟩
  refine (stands.ensures_unary (.inl (by decide)) _).bind ?_
  rintro test ⟨derivation, rfl, rfl⟩
  exact ⟨_, by simp [split, Derivation.tokens], .unary (.negation word derivation)⟩

/-- What is read from the front of a list of tokens is a list of terms. -/
theorem exists_terms_of_separated {operands : List Operand} {pieces : List (Token Kind)}
    (separated : Separated .comma
      (fun operand piece => ∃ term : Term, term.operand = operand ∧ piece = [term.token])
      operands pieces) :
    ∃ (first : Term) (more : List (Word .comma × Term)),
      pieces = first.token :: furtherTokens more ∧
      operands = first.operand :: more.map (·.2.operand) := by
  induction separated with
  | one spelt =>
    obtain ⟨term, rfl, rfl⟩ := spelt
    exact ⟨term, [], rfl, rfl⟩
  | cons spelt same _ ih =>
    obtain ⟨term, rfl, rfl⟩ := spelt
    obtain ⟨first, more, rfl, rfl⟩ := ih
    exact ⟨term, (⟨_, same⟩, first) :: more, rfl, rfl⟩

theorem ensures_readOperandList (keeps : grammar.Keeps Stands parse) :
    Ensures (fun parsed => ∃ terms : TermList,
        rest = terms.tokens ++ parsed.rest ∧ terms.operands = parsed.value)
      (readOperandList rest parse) := by
  cases rest with
  | nil => exact ensures_badText
  | cons first behind =>
    simp only [readOperandList]
    split
    · next kind => exact ⟨.parameter ⟨first, kind⟩, rfl, rfl⟩
    · refine (ensures_expect Kind.lParen _).bind ?_
      rintro opening ⟨split, kind⟩
      have item : ∀ tokens le, Ensures
          (fun parsed => ∃ piece, tokens = piece ++ parsed.rest ∧
            Ensures (fun operand => ∃ term : Term, term.operand = operand ∧ piece = [term.token])
              (parsed.value.toOperand opening.value.text))
          (parse operandPower tokens le) := by
        intro tokens le
        refine (keeps operandPower tokens le).mono ?_
        rintro parsed ⟨piece, split, stands, -⟩
        exact ⟨piece, split, stands.ensures_toOperand _⟩
      refine (ensures_readList item opening.rest (Nat.le_of_lt opening.shorter)).bind ?_
      rintro operands ⟨pieces, split', separated⟩
      obtain ⟨term, more, rfl, same⟩ := exists_terms_of_separated separated
      refine (ensures_expect .rParen operands.rest).bind ?_
      rintro closing ⟨split'', kind'⟩
      refine ⟨.listed ⟨opening.value, kind⟩ term more ⟨closing.value, kind'⟩, ?_, ?_⟩
      · simp [TermList.tokens, split, split', split'']
      · simp [TermList.operands, TermList.terms, same]

variable {left : Node} {consumed : List (Token Kind)}

/-- A field and a condition behind it make a test. -/
theorem splits_condition {bound : Nat} (field : Word .identifier) (condition : Condition)
    {tokens : List (Token Kind)} {parsed : Parsed Kind Node bound}
    (split : tokens = condition.tokens ++ parsed.rest)
    (value : parsed.value = .test (condition.test field.val.text)) :
    Grammar.Splits (fun node more => Stands threshold node ([field.val] ++ more)) tokens parsed :=
  ⟨condition.tokens, split, value ▸ .unary (.ofPrimary (.condition field condition))⟩

theorem ensures_comparisonRule (keeps : grammar.Keeps Stands parse) (relation : Relation)
    (sign : Word (.ofRelation relation))
    (stands : Stands threshold left consumed (sign.val :: rest)) :
    ReadsOn threshold consumed (sign.val :: rest)
      ((comparisonRule relation).read left sign.val rest parse) := by
  refine (stands.ensures_toField _).bind ?_
  rintro name ⟨field, rfl, rfl⟩
  refine (keeps comparisonPower rest _).bind ?_
  rintro inner ⟨piece, split, standsInner, -⟩
  refine (standsInner.ensures_toOperand _).bind ?_
  rintro operand ⟨term, rfl, rfl⟩
  exact splits_condition field (.comparison relation sign term)
    (by simp [Condition.tokens, split]) rfl

theorem ensures_membershipRule (keeps : grammar.Keeps Stands parse) (word : Word .isIn)
    (stands : Stands threshold left consumed (word.val :: rest)) :
    ReadsOn threshold consumed (word.val :: rest)
      ((membershipRule false).read left word.val rest parse) := by
  refine (stands.ensures_toField _).bind ?_
  rintro name ⟨field, rfl, rfl⟩
  refine (ensures_readOperandList keeps).bind ?_
  rintro operands ⟨terms, split, same⟩
  exact splits_condition field (.membership none word terms)
    (by simp [Condition.tokens, negationTokens, split]) (same ▸ rfl)

theorem ensures_negatedMembershipRule (keeps : grammar.Keeps Stands parse) (negation : Word .not)
    (stands : Stands threshold left consumed (negation.val :: rest)) :
    ReadsOn threshold consumed (negation.val :: rest)
      ((membershipRule true).read left negation.val rest parse) := by
  refine (stands.ensures_toField _).bind ?_
  rintro name ⟨field, rfl, rfl⟩
  refine (ensures_expect Kind.isIn rest).bind ?_
  rintro word ⟨split, kind⟩
  refine (ensures_readOperandList fun inner tokens le => keeps inner tokens _).bind ?_
  rintro operands ⟨terms, split', same⟩
  exact splits_condition field (.membership (some negation) ⟨word.value, kind⟩ terms)
    (by simp [Condition.tokens, negationTokens, split, split']) (same ▸ rfl)

theorem ensures_readCheck (field fragment : String) (negated : Bool) (tokens : List (Token Kind)) :
    Ensures (fun parsed => ∃ (check : Check) (checked : Word (.ofCheck check)),
        tokens = checked.val :: parsed.rest ∧
        parsed.value = .test (.examination field negated check))
      (readCheck field fragment negated tokens) := by
  cases tokens with
  | nil => exact ensures_badText
  | cons word behind =>
    simp only [readCheck]
    split
    · next kind => exact ⟨.defined, ⟨word, kind⟩, rfl, rfl⟩
    · split
      · next kind => exact ⟨.empty, ⟨word, kind⟩, rfl, rfl⟩
      · exact ensures_badText

theorem ensures_readExamination (field fragment : String) (tokens : List (Token Kind)) :
    Ensures (fun parsed => ∃ (negation : Option (Word .not)) (check : Check)
        (checked : Word (.ofCheck check)),
        tokens = negationTokens negation ++ checked.val :: parsed.rest ∧
        parsed.value = .test (.examination field negation.isSome check))
      (readExamination field fragment tokens) := by
  cases tokens with
  | nil => exact ensures_badText
  | cons word behind =>
    simp only [readExamination]
    split
    · next kind =>
      refine (ensures_readCheck field fragment true behind).map ?_
      rintro parsed ⟨check, checked, split, value⟩
      exact ⟨some ⟨word, kind⟩, check, checked, congrArg (word :: ·) split, value⟩
    · refine (ensures_readCheck field fragment false (word :: behind)).mono ?_
      rintro parsed ⟨check, checked, split, value⟩
      exact ⟨none, check, checked, split, value⟩

theorem ensures_examinationRule (word : Word .is)
    (stands : Stands threshold left consumed (word.val :: rest)) :
    ReadsOn threshold consumed (word.val :: rest)
      (examinationRule.read left word.val rest parse) := by
  refine (stands.ensures_toField _).bind ?_
  rintro name ⟨field, rfl, rfl⟩
  refine (ensures_readExamination field.val.text word.val.text rest).bind ?_
  rintro parsed ⟨negation, check, checked, split, value⟩
  exact splits_condition field (.examination word negation check checked)
    (by simp [Condition.tokens, split, Parsed.weaken]) value

theorem ensures_readQuantifier (fragment : String) (tokens : List (Token Kind)) :
    Ensures (fun parsed => ∃ quantified : Word (.ofQuantifier parsed.value),
        tokens = quantified.val :: parsed.rest)
      (readQuantifier fragment tokens) := by
  cases tokens with
  | nil => exact ensures_badText
  | cons word behind =>
    simp only [readQuantifier]
    split
    · next kind => exact ⟨⟨word, kind⟩, rfl⟩
    · split
      · next kind => exact ⟨⟨word, kind⟩, rfl⟩
      · exact ensures_badText

theorem ensures_containmentRule (keeps : grammar.Keeps Stands parse) (word : Word .contains)
    (stands : Stands threshold left consumed (word.val :: rest)) :
    ReadsOn threshold consumed (word.val :: rest)
      (containmentRule.read left word.val rest parse) := by
  refine (stands.ensures_toField _).bind ?_
  rintro name ⟨field, rfl, rfl⟩
  refine (ensures_readQuantifier word.val.text rest).bind ?_
  rintro quantifier ⟨quantified, split⟩
  refine (ensures_readOperandList fun inner tokens le => keeps inner tokens _).bind ?_
  rintro operands ⟨terms, split', same⟩
  exact splits_condition field (.containment word quantifier.value quantified terms)
    (by simp [Condition.tokens, split, split']) (same ▸ rfl)

theorem ensures_descentRule (keeps : grammar.Keeps Stands parse) (opening : Word .lParen)
    (stands : Stands threshold left consumed (opening.val :: rest)) :
    ReadsOn threshold consumed (opening.val :: rest)
      (descentRule.read left opening.val rest parse) := by
  refine (stands.ensures_toField _).bind ?_
  rintro name ⟨field, rfl, rfl⟩
  refine (keeps 0 rest _).bind ?_
  rintro inner ⟨piece, split, standsInner, -⟩
  refine (standsInner.ensures_test _).bind ?_
  rintro test ⟨derivation, rfl, rfl⟩
  refine (ensures_expect .rParen inner.rest).bind ?_
  rintro closing ⟨split', kind⟩
  let descent := Derivation.descent field opening derivation ⟨closing.value, kind⟩
  exact ⟨opening.val :: (derivation.tokens ++ [closing.value]), by simp [split, split'],
    .unary (.ofPrimary descent)⟩

theorem ensures_disjunctionRule (keeps : grammar.Keeps Stands parse) (word : Word .or)
    (above : threshold < orPower) (stands : Stands threshold left consumed (word.val :: rest)) :
    ReadsOn threshold consumed (word.val :: rest)
      ((connective orPower .disjunction).read left word.val rest parse) := by
  have goesOn : ¬ Follows .test (word.val :: rest) := by
    rw [follows_cons]
    decide
  refine (stands.ensures_conjunction (.inr goesOn) _).bind ?_
  rintro first ⟨derivation, rfl, rfl⟩
  refine (keeps (orPower - 1) rest _).bind ?_
  rintro inner ⟨piece, split, standsInner, follows⟩
  refine (standsInner.ensures_test _).bind ?_
  rintro second ⟨right, rfl, rfl⟩
  exact ⟨word.val :: right.tokens, by simp [split],
    .test (.disjunction derivation word right) above follows⟩

theorem ensures_conjunctionRule (keeps : grammar.Keeps Stands parse) (word : Word .and)
    (above : threshold < andPower) (stands : Stands threshold left consumed (word.val :: rest)) :
    ReadsOn threshold consumed (word.val :: rest)
      ((connective andPower .conjunction).read left word.val rest parse) := by
  have goesOn : ¬ Follows .conjunction (word.val :: rest) := by
    rw [follows_cons]
    decide
  refine (stands.ensures_unary (.inr goesOn) _).bind ?_
  rintro first ⟨derivation, rfl, rfl⟩
  refine (keeps (andPower - 1) rest _).bind ?_
  rintro inner ⟨piece, split, standsInner, follows⟩
  refine (standsInner.ensures_conjunction (.inl (by decide)) _).bind ?_
  rintro second ⟨right, rfl, rfl⟩
  exact ⟨word.val :: right.tokens, by simp [split],
    .conjunction (.conjunction derivation word right) above follows⟩

end Rules

theorem ensures_leaf {threshold : Nat} {token : Token Kind} {rest : List (Token Kind)}
    {parse : Subparser Kind Node rest.length} {node : Token Kind → Except Error Node}
    (stands : Ensures (fun found => Stands threshold found [token] rest) (node token)) :
    Ensures (Grammar.Splits (Stands threshold) (token :: rest)) (leaf node token rest parse) :=
  stands.bind fun _ found => ⟨[token], rfl, found⟩

/-- Every rule of the grammar keeps what a node was read from. -/
theorem stands_inductive : grammar.Inductive Stands where
  leads := by
    intro threshold token rest rule found parse keeps
    cases kind : token.kind <;> rw [kind] at found
    case identifier =>
      cases found
      exact ensures_leaf (.field ⟨token, kind⟩)
    case str =>
      cases found
      exact ensures_leaf (.operand (.text ⟨token, kind⟩))
    case number =>
      cases found
      refine ensures_leaf ((Literal.ensures_number token.text).map ?_)
      intro value converts
      exact .operand (.number ⟨token, kind⟩ value converts)
    case yes =>
      cases found
      exact ensures_leaf (.operand (.yes ⟨token, kind⟩))
    case no =>
      cases found
      exact ensures_leaf (.operand (.no ⟨token, kind⟩))
    case parameter =>
      cases found
      exact ensures_leaf (.operand (.parameter ⟨token, kind⟩))
    case lParen =>
      cases found
      exact ensures_readGroup keeps ⟨token, kind⟩
    case not =>
      cases found
      exact ensures_readNegation keeps ⟨token, kind⟩
    all_goals cases found
  trails := by
    intro threshold left consumed token rest rule found above stands parse keeps
    cases kind : token.kind <;> rw [kind] at found
    case and =>
      cases found
      exact ensures_conjunctionRule keeps ⟨token, kind⟩ above stands
    case or =>
      cases found
      exact ensures_disjunctionRule keeps ⟨token, kind⟩ above stands
    case eq =>
      cases found
      exact ensures_comparisonRule keeps .equal ⟨token, kind⟩ stands
    case notEq =>
      cases found
      exact ensures_comparisonRule keeps .notEqual ⟨token, kind⟩ stands
    case gt =>
      cases found
      exact ensures_comparisonRule keeps .greater ⟨token, kind⟩ stands
    case lt =>
      cases found
      exact ensures_comparisonRule keeps .less ⟨token, kind⟩ stands
    case gte =>
      cases found
      exact ensures_comparisonRule keeps .atLeast ⟨token, kind⟩ stands
    case lte =>
      cases found
      exact ensures_comparisonRule keeps .atMost ⟨token, kind⟩ stands
    case isIn =>
      cases found
      exact ensures_membershipRule keeps ⟨token, kind⟩ stands
    case not =>
      cases found
      exact ensures_negatedMembershipRule keeps ⟨token, kind⟩ stands
    case is =>
      cases found
      exact ensures_examinationRule ⟨token, kind⟩ stands
    case contains =>
      cases found
      exact ensures_containmentRule keeps ⟨token, kind⟩ stands
    case lParen =>
      cases found
      exact ensures_descentRule keeps ⟨token, kind⟩ stands
    all_goals cases found

end Storefront.Predicate
