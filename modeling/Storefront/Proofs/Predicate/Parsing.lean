import Storefront.Proofs.Predicate.Completeness
import Storefront.Proofs.Predicate.Soundness
import Storefront.Proofs.Token.Lexing

/-!
Parsing predicates is exact. Tokens are read as a test if and only if the grammar derives them,
it derives them in one way, and the predicate that is compiled means what the derivation means.
-/
namespace Storefront.Predicate

/-- Reads a whole list of tokens as a test, as compiling does once a text is cut into tokens. -/
def readTokens (fragment : String) (tokens : List (Token Kind)) : Except Error Test := do
  let node ← grammar.parseAll tokens
  node.toTest fragment

theorem readTest_eq (source : String) :
    readTest source =
      lexicon.tokenize source >>= readTokens (fragment source.toList) := by
  have same : grammar.lexicon = lexicon := rfl
  rw [readTest, Grammar.parseSource, same]
  cases lexicon.tokenize source <;> rfl

/-- The tokens of a derivation are read as its test. -/
theorem readTokens_tokens (fragment : String) (derivation : Derivation .test) :
    readTokens fragment derivation.tokens = .ok derivation.test := by
  have ends : Yields (grammar.extend 0 (.test derivation.test) []) (.test derivation.test) [] :=
    Grammar.yields_of_stops Grammar.stops_nil _
  have reads : Yields (grammar.parse 0 (derivation.tokens ++ [])) (.test derivation.test) [] :=
    yields_derivation derivation (Nat.zero_le _) Grammar.stops_nil ends
  rw [List.append_nil] at reads
  obtain ⟨_, reads⟩ := reads
  simp only [readTokens, Grammar.parseAll, reads]
  rfl

/-- Tokens that are read as a test are those of a derivation, and others are at fault. -/
theorem ensures_readTokens (fragment : String) (tokens : List (Token Kind)) :
    Ensures (Derived .test tokens) (readTokens fragment tokens) := by
  have parsed := stands_inductive.ensures_parse 0 tokens
  rw [readTokens, Grammar.parseAll]
  cases reads : grammar.parse 0 tokens with
  | error e =>
    rw [reads] at parsed
    exact parsed
  | ok parsed' =>
    rw [reads] at parsed
    obtain ⟨node, rest, shorter⟩ := parsed'
    obtain ⟨consumed, split, stands, -⟩ := parsed
    cases rest with
    | nil =>
      obtain rfl : tokens = consumed := by simpa using split
      exact stands.ensures_test fragment
    | cons token rest => exact ensures_badText

theorem readTokens_eq_ok_iff {fragment : String} {tokens : List (Token Kind)} {test : Test} :
    readTokens fragment tokens = .ok test ↔ Derived .test tokens test := by
  constructor
  · intro reads
    have derived := ensures_readTokens fragment tokens
    rw [reads] at derived
    exact derived
  · rintro ⟨derivation, rfl, rfl⟩
    exact readTokens_tokens fragment derivation

theorem matchesWith_single (source : String) (test : Test) (vars : Variables) (doc : Json) :
    (Predicate.mk source [test]).matchesWith vars doc = test.evaluate vars doc := by
  simp only [matchesWith, List.allM]
  cases test.evaluate vars doc with
  | error e => rfl
  | ok holds => cases holds <;> rfl

/-- A text compiles to the test of the derivation of its tokens, and to nothing else. -/
theorem compile_eq_ok_iff {source : String} {predicate : Predicate} :
    compile source = .ok predicate ↔
      ∃ derivation : Derivation .test, lexicon.tokenize source = .ok derivation.tokens ∧
        predicate = ⟨source, [derivation.test]⟩ := by
  rw [compile, readTest_eq]
  cases lexicon.tokenize source with
  | error e => exact ⟨nofun, fun ⟨_, found, _⟩ => nomatch found⟩
  | ok tokens =>
    change readTokens (fragment source.toList) tokens >>= _ = _ ↔ _
    constructor
    · intro compiled
      cases reads : readTokens (fragment source.toList) tokens with
      | error e =>
        rw [reads] at compiled
        exact nomatch compiled
      | ok test =>
        rw [reads] at compiled
        obtain ⟨derivation, rfl, rfl⟩ := readTokens_eq_ok_iff.1 reads
        exact ⟨derivation, rfl, (Except.ok.inj compiled).symm⟩
    · rintro ⟨derivation, found, rfl⟩
      rw [Except.ok.inj found, readTokens_tokens]
      rfl

theorem ensures_compile (source : String) : Ensures (fun _ => True) (compile source) := by
  rw [compile, readTest_eq]
  refine Ensures.bind (P := fun _ => True) (Ensures.bind (lexicon.ensures_tokensFrom 0 _) ?_) ?_
  · exact fun tokens _ => (ensures_readTokens _ tokens).mono fun _ _ => trivial
  · exact fun _ _ => trivial

/-- The parser accepts exactly what the grammar derives, in one way, every failure is a fault of the
text, and what is compiled means what was derived. -/
theorem parsing_exact :
    (∀ fragment tokens, (∃ test, readTokens fragment tokens = .ok test) ↔
      ∃ derivation : Derivation .test, derivation.tokens = tokens) ∧
    (∀ first second : Derivation .test, first.tokens = second.tokens → first = second) ∧
    (∀ fragment tokens e, readTokens fragment tokens = .error e →
      ∃ fault piece, e = .badText fault piece) ∧
    (∀ fragment (derivation : Derivation .test), ∃ test,
      readTokens fragment derivation.tokens = .ok test ∧
      ∀ vars doc, test.evaluate vars doc = derivation.evaluate vars doc) ∧
    (∀ source, (∃ predicate, compile source = .ok predicate) ↔
      ∃ derivation : Derivation .test, lexicon.tokenize source = .ok derivation.tokens) ∧
    (∀ source e, compile source = .error e → ∃ fault piece, e = .badText fault piece) ∧
    (∀ source predicate (derivation : Derivation .test), compile source = .ok predicate →
      lexicon.tokenize source = .ok derivation.tokens →
      ∀ vars doc, predicate.matchesWith vars doc = derivation.evaluate vars doc) := by
  refine ⟨?_, ?_, ?_, ?_, ?_, ?_, ?_⟩
  · intro fragment tokens
    constructor
    · rintro ⟨test, reads⟩
      obtain ⟨derivation, same, -⟩ := readTokens_eq_ok_iff.1 reads
      exact ⟨derivation, same⟩
    · rintro ⟨derivation, rfl⟩
      exact ⟨derivation.test, readTokens_tokens fragment derivation⟩
  · exact fun _ _ => Derivation.tokens_injective
  · intro fragment tokens e failed
    have derived := ensures_readTokens fragment tokens
    rw [failed] at derived
    exact derived
  · intro fragment derivation
    exact ⟨derivation.test, readTokens_tokens fragment derivation, fun vars doc =>
      derivation.evaluate_test vars doc⟩
  · intro source
    constructor
    · rintro ⟨predicate, compiled⟩
      obtain ⟨derivation, found, -⟩ := compile_eq_ok_iff.1 compiled
      exact ⟨derivation, found⟩
    · rintro ⟨derivation, found⟩
      exact ⟨_, compile_eq_ok_iff.2 ⟨derivation, found, rfl⟩⟩
  · intro source e failed
    have fault := ensures_compile source
    rw [failed] at fault
    exact fault
  · intro source predicate derivation compiled found vars doc
    obtain ⟨derivation', found', rfl⟩ := compile_eq_ok_iff.1 compiled
    have same : derivation' = derivation :=
      Derivation.tokens_injective (Except.ok.inj (found'.symm.trans found))
    rw [matchesWith_single, same, derivation.evaluate_test]

end Storefront.Predicate
