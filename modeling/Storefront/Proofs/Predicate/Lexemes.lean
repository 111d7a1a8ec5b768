import Storefront.Proofs.Predicate.Parsing
import Storefront.Proofs.Token.Closing

/-!
Tokens with the same kinds and texts are derived alike, wherever they stand in a text. So a text
compiles as soon as it is cut into the kinds and texts of the tokens of some derivation.
-/
namespace Storefront.Predicate

/-- The same kinds and texts, one by one. -/
def Alike (tokens tokens' : List (Token Kind)) : Prop :=
  tokens.map Token.lexeme = tokens'.map Token.lexeme

section Parts
variable {tokens front back more : List (Token Kind)}

theorem Alike.eq_nil (alike : Alike tokens []) : tokens = [] :=
  List.map_eq_nil_iff.mp alike

theorem Alike.append (alike : Alike tokens (front ++ back)) :
    ∃ front' back', tokens = front' ++ back' ∧ Alike front' front ∧ Alike back' back := by
  rw [Alike, List.map_append] at alike
  exact List.map_eq_append_iff.mp alike

theorem Alike.cons {token : Token Kind} (alike : Alike tokens (token :: more)) :
    ∃ token' rest, tokens = token' :: rest ∧ token'.lexeme = token.lexeme ∧ Alike rest more :=
  List.map_eq_cons_iff.mp alike

/-- A token of the kind and the text of a word is a word of that kind. -/
theorem Word.exists_of_lexeme {kind : Kind} (word : Word kind) {token : Token Kind}
    (same : token.lexeme = word.val.lexeme) :
    ∃ word' : Word kind, token = word'.val ∧ word'.val.text = word.val.text := by
  have kinds : token.kind = word.val.kind := congrArg Lexeme.kind same
  exact ⟨⟨token, kinds.trans word.property⟩, rfl, congrArg Lexeme.text same⟩

theorem Alike.word {kind : Kind} {word : Word kind} (alike : Alike tokens (word.val :: more)) :
    ∃ (word' : Word kind) (rest : List (Token Kind)), tokens = word'.val :: rest ∧
      word'.val.text = word.val.text ∧ Alike rest more := by
  obtain ⟨token, rest, rfl, same, behind⟩ := alike.cons
  obtain ⟨word', rfl, text⟩ := word.exists_of_lexeme same
  exact ⟨word', rest, rfl, text, behind⟩

/-- The operand that a term is read as depends on the kind and the text of its token. -/
theorem Term.exists_of_lexeme (term : Term) {token : Token Kind}
    (same : token.lexeme = term.token.lexeme) :
    ∃ term' : Term, token = term'.token ∧ term'.operand = term.operand := by
  cases term with
  | text word =>
    obtain ⟨word', rfl, text⟩ := word.exists_of_lexeme same
    exact ⟨.text word', rfl, by rw [Term.operand, Term.operand, text]⟩
  | number word value converts =>
    obtain ⟨word', rfl, text⟩ := word.exists_of_lexeme same
    exact ⟨.number word' value (text ▸ converts), rfl, rfl⟩
  | yes word =>
    obtain ⟨word', rfl, -⟩ := word.exists_of_lexeme same
    exact ⟨.yes word', rfl, rfl⟩
  | no word =>
    obtain ⟨word', rfl, -⟩ := word.exists_of_lexeme same
    exact ⟨.no word', rfl, rfl⟩
  | parameter word =>
    obtain ⟨word', rfl, text⟩ := word.exists_of_lexeme same
    exact ⟨.parameter word', rfl, by
      rw [Term.operand, Term.operand, parameterName, parameterName, text]⟩

theorem Alike.term {term : Term} (alike : Alike tokens (term.token :: more)) :
    ∃ term' rest, tokens = Term.token term' :: rest ∧ term'.operand = term.operand ∧
      Alike rest more := by
  obtain ⟨token, rest, rfl, same, behind⟩ := alike.cons
  obtain ⟨term', rfl, operand⟩ := term.exists_of_lexeme same
  exact ⟨term', rest, rfl, operand, behind⟩

end Parts

section Alike
variable {tokens : List (Token Kind)}

/-! ### Derivations of the same kinds and texts -/

theorem exists_further_of_alike {further : List (Word .comma × Term)}
    (alike : Alike tokens (furtherTokens further)) :
    ∃ further', tokens = furtherTokens further' ∧
      further'.map (·.2.operand) = further.map (·.2.operand) := by
  induction further generalizing tokens with
  | nil => exact ⟨[], alike.eq_nil, rfl⟩
  | cons item further ih =>
    have parts : Alike tokens (item.1.val :: item.2.token :: furtherTokens further) := alike
    obtain ⟨comma, behindComma, rfl, -, alikeTerm⟩ := parts.word
    obtain ⟨term, rest, rfl, operand, alikeRest⟩ := alikeTerm.term
    obtain ⟨further', rfl, operands⟩ := ih alikeRest
    refine ⟨(comma, term) :: further', rfl, ?_⟩
    rw [List.map_cons, List.map_cons, operands, operand]

theorem TermList.exists_of_alike {terms : TermList} (alike : Alike tokens terms.tokens) :
    ∃ terms' : TermList, tokens = terms'.tokens ∧ terms'.operands = terms.operands := by
  cases terms with
  | parameter word =>
    obtain ⟨word', rest, rfl, text, none⟩ := alike.word
    obtain rfl := none.eq_nil
    refine ⟨.parameter word', rfl, ?_⟩
    simp only [TermList.operands, TermList.terms, List.map_cons, List.map_nil, Term.operand,
      parameterName, text]
  | listed opening first further closing =>
    obtain ⟨opening', inside, rfl, -, alikeInside⟩ := alike.word
    obtain ⟨first', behind, rfl, operand, alikeBehind⟩ := alikeInside.term
    obtain ⟨front, back, rfl, alikeFurther, alikeClosing⟩ := alikeBehind.append
    obtain ⟨closing', rest, rfl, -, none⟩ := alikeClosing.word
    obtain rfl := none.eq_nil
    obtain ⟨further', rfl, operands⟩ := exists_further_of_alike alikeFurther
    refine ⟨.listed opening' first' further' closing', rfl, ?_⟩
    simp only [TermList.operands, TermList.terms, List.map_cons, List.map_map, operand]
    exact congrArg (_ :: ·) operands

theorem exists_negation_of_alike {negation : Option (Word .not)}
    (alike : Alike tokens (negationTokens negation)) :
    ∃ negation', tokens = negationTokens negation' ∧ negation'.isSome = negation.isSome := by
  cases negation with
  | none => exact ⟨none, alike.eq_nil, rfl⟩
  | some word =>
    have parts : Alike tokens [word.val] := alike
    obtain ⟨word', rest, rfl, -, none⟩ := parts.word
    obtain rfl := none.eq_nil
    exact ⟨some word', rfl, rfl⟩

theorem Condition.exists_of_alike {condition : Condition} (alike : Alike tokens condition.tokens) :
    ∃ condition' : Condition, tokens = condition'.tokens ∧
      ∀ field, condition'.test field = condition.test field := by
  cases condition with
  | comparison relation sign term =>
    obtain ⟨sign', behind, rfl, -, alikeTerm⟩ := alike.word
    obtain ⟨term', rest, rfl, operand, none⟩ := alikeTerm.term
    obtain rfl := none.eq_nil
    refine ⟨.comparison relation sign' term', rfl, fun field => ?_⟩
    rw [Condition.test, Condition.test, operand]
  | membership negation word terms =>
    obtain ⟨front, back, rfl, alikeNegation, alikeWord⟩ := alike.append
    obtain ⟨word', rest, rfl, -, alikeTerms⟩ := alikeWord.word
    obtain ⟨negation', rfl, negated⟩ := exists_negation_of_alike alikeNegation
    obtain ⟨terms', rfl, operands⟩ := TermList.exists_of_alike alikeTerms
    refine ⟨.membership negation' word' terms', rfl, fun field => ?_⟩
    rw [Condition.test, Condition.test, negated, operands]
  | examination word negation check checked =>
    obtain ⟨word', behind, rfl, -, alikeBehind⟩ := alike.word
    obtain ⟨front, back, rfl, alikeNegation, alikeChecked⟩ := alikeBehind.append
    obtain ⟨checked', rest, rfl, -, none⟩ := alikeChecked.word
    obtain rfl := none.eq_nil
    obtain ⟨negation', rfl, negated⟩ := exists_negation_of_alike alikeNegation
    refine ⟨.examination word' negation' check checked', rfl, fun field => ?_⟩
    rw [Condition.test, Condition.test, negated]
  | containment word quantifier quantified terms =>
    obtain ⟨word', behind, rfl, -, alikeBehind⟩ := alike.word
    obtain ⟨quantified', rest, rfl, -, alikeTerms⟩ := alikeBehind.word
    obtain ⟨terms', rfl, operands⟩ := TermList.exists_of_alike alikeTerms
    refine ⟨.containment word' quantifier quantified' terms', rfl, fun field => ?_⟩
    rw [Condition.test, Condition.test, operands]

/-- Tokens of the kinds and texts of a derivation's have a derivation that is read as the same
test. -/
theorem Derivation.exists_of_alike {phrase : Phrase} (derivation : Derivation phrase)
    (alike : Alike tokens derivation.tokens) :
    ∃ derivation' : Derivation phrase, tokens = derivation'.tokens ∧
      derivation'.test = derivation.test := by
  induction derivation generalizing tokens with
  | ofConjunction inner ih =>
    obtain ⟨inner', rfl, test⟩ := ih alike
    exact ⟨.ofConjunction inner', rfl, test⟩
  | ofUnary inner ih =>
    obtain ⟨inner', rfl, test⟩ := ih alike
    exact ⟨.ofUnary inner', rfl, test⟩
  | ofPrimary inner ih =>
    obtain ⟨inner', rfl, test⟩ := ih alike
    exact ⟨.ofPrimary inner', rfl, test⟩
  | disjunction left word right ihLeft ihRight =>
    obtain ⟨front, back, rfl, alikeLeft, alikeBack⟩ := alike.append
    obtain ⟨word', rest, rfl, -, alikeRight⟩ := alikeBack.word
    obtain ⟨left', rfl, leftTest⟩ := ihLeft alikeLeft
    obtain ⟨right', rfl, rightTest⟩ := ihRight alikeRight
    refine ⟨.disjunction left' word' right', rfl, ?_⟩
    rw [Derivation.test, Derivation.test, leftTest, rightTest]
  | conjunction left word right ihLeft ihRight =>
    obtain ⟨front, back, rfl, alikeLeft, alikeBack⟩ := alike.append
    obtain ⟨word', rest, rfl, -, alikeRight⟩ := alikeBack.word
    obtain ⟨left', rfl, leftTest⟩ := ihLeft alikeLeft
    obtain ⟨right', rfl, rightTest⟩ := ihRight alikeRight
    refine ⟨.conjunction left' word' right', rfl, ?_⟩
    rw [Derivation.test, Derivation.test, leftTest, rightTest]
  | negation word inner ih =>
    obtain ⟨word', rest, rfl, -, alikeInner⟩ := alike.word
    obtain ⟨inner', rfl, test⟩ := ih alikeInner
    exact ⟨.negation word' inner', rfl, congrArg Test.negation test⟩
  | group opening inner closing ih =>
    obtain ⟨opening', behind, rfl, -, alikeBehind⟩ := alike.word
    obtain ⟨front, back, rfl, alikeInner, alikeClosing⟩ := alikeBehind.append
    obtain ⟨closing', rest, rfl, -, none⟩ := alikeClosing.word
    obtain rfl := none.eq_nil
    obtain ⟨inner', rfl, test⟩ := ih alikeInner
    exact ⟨.group opening' inner' closing', rfl, test⟩
  | condition field behind =>
    obtain ⟨field', rest, rfl, text, alikeBehind⟩ := alike.word
    obtain ⟨behind', rfl, test⟩ := Condition.exists_of_alike alikeBehind
    refine ⟨.condition field' behind', rfl, ?_⟩
    rw [Derivation.test, Derivation.test, test, text]
  | descent field opening inner closing ih =>
    obtain ⟨field', front, rfl, text, alikeFront⟩ := alike.word
    obtain ⟨opening', behind, rfl, -, alikeBehind⟩ := alikeFront.word
    obtain ⟨inside, back, rfl, alikeInner, alikeClosing⟩ := alikeBehind.append
    obtain ⟨closing', rest, rfl, -, none⟩ := alikeClosing.word
    obtain rfl := none.eq_nil
    obtain ⟨inner', rfl, test⟩ := ih alikeInner
    refine ⟨.descent field' opening' inner' closing', rfl, ?_⟩
    rw [Derivation.test, Derivation.test, test, text]

end Alike

/-- The token of a kind and a text, wherever it stands. -/
def Word.of (kind : Kind) (text : String) : Word kind :=
  ⟨⟨kind, text, 0⟩, rfl⟩

/-- A text that is cut into the kinds and texts of a derivation's tokens compiles to its test. -/
theorem compile_of_lexes {source : String} (derivation : Derivation .test)
    (cut : Lexes lexicon source.toList (derivation.tokens.map Token.lexeme)) :
    compile source = .ok ⟨source, [derivation.test]⟩ := by
  obtain ⟨tokens, found, alike⟩ := cut 0
  obtain ⟨derivation', rfl, test⟩ := derivation.exists_of_alike alike
  rw [← test]
  exact compile_eq_ok_iff.mpr ⟨derivation', found, rfl⟩

end Storefront.Predicate
