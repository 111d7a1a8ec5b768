import Storefront.Proofs.Predicate.Naming
import Storefront.Proofs.Predicate.Parsing
import Storefront.Proofs.Token.Quotation

/-!
String literals in predicates. A quoted string is one token whatever it holds, and comparing a field
with it compares the field with the string itself.
-/
namespace Storefront.Predicate

theorem firstMatch?_around (quote : Quote) (text : String) (rest : List Char) :
    lexicon.firstMatch? ((quote.around text).toList ++ rest) =
      some (⟨.str, Pattern.quoted quote.char, false⟩, (quote.around text).toList.length) :=
  quote.firstMatch?_around text rest

/-- A quoted string is one token, and what follows it is cut by itself. -/
theorem tokensFrom_around (quote : Quote) (text : String) (offset : Nat) (rest : List Char) :
    lexicon.tokensFrom offset ((quote.around text).toList ++ rest) =
      (lexicon.tokensFrom (offset + (quote.around text).utf8ByteSize) rest).map
        (⟨.str, quote.around text, offset⟩ :: ·) := by
  rw [Lexicon.tokensFrom_append (firstMatch?_around quote text rest), Lexicon.byteLength_toList]
  simp only [String.ofList_toList]
  rfl

/-- A single blank separates tokens and leaves none. -/
theorem tokensFrom_blank {c : Char} (notBlank : Text.isBlank c = false) (offset : Nat)
    (rest : List Char) :
    lexicon.tokensFrom offset (' ' :: c :: rest) = lexicon.tokensFrom (offset + 1) (c :: rest) := by
  have blanks : Pattern.blanks ([' '] ++ c :: rest) = some 1 := by
    have blank : Text.isBlank ' ' = true := by decide
    simp [Pattern.blanks, Pattern.many1, notBlank, blank]
  have found : lexicon.firstMatch? ([' '] ++ c :: rest) =
      some (⟨.whitespace, Pattern.blanks, true⟩, [' '].length) := Lexicon.firstMatch?_some blanks
  rw [← List.singleton_append, Lexicon.tokensFrom_append found]
  cases behind : lexicon.tokensFrom (offset + byteLength [' ']) (c :: rest) with
  | error e => exact behind.symm
  | ok tokens => exact behind.symm

theorem tokensFrom_equal (offset : Nat) (rest : List Char) :
    lexicon.tokensFrom offset ('=' :: rest) =
      (lexicon.tokensFrom (offset + 1) rest).map (⟨.eq, "=", offset⟩ :: ·) := by
  have found : lexicon.firstMatch? (['='] ++ rest) =
      some (⟨.eq, Pattern.exact "=", false⟩, ['='].length) := rfl
  rw [← List.singleton_append, Lexicon.tokensFrom_append found]
  rfl

theorem tokensFrom_fieldName {name : String} (named : IsFieldName name) (offset : Nat)
    {rest : List Char} (ends : Pattern.atWordEnd rest = true) :
    lexicon.tokensFrom offset (name.toList ++ rest) =
      (lexicon.tokensFrom (offset + name.utf8ByteSize) rest).map
        (⟨.identifier, name, offset⟩ :: ·) := by
  rw [Lexicon.tokensFrom_append (named.firstMatch? ends), Lexicon.byteLength_toList]
  simp only [String.ofList_toList]
  rfl

theorem tokenize_comparison {name : String} (named : IsFieldName name) (quote : Quote)
    (text : String) :
    lexicon.tokenize (name ++ " = " ++ quote.around text) =
      .ok [⟨.identifier, name, 0⟩, ⟨.eq, "=", name.utf8ByteSize + 1⟩,
        ⟨.str, quote.around text, name.utf8ByteSize + 3⟩] := by
  have source : (name ++ " = " ++ quote.around text).toList =
      name.toList ++ ' ' :: '=' :: ' ' :: ((quote.around text).toList ++ []) := by
    simp
  have notBlank : Text.isBlank quote.char = false := by
    cases quote <;> decide
  have front : (quote.around text).toList ++ [] =
      quote.char :: (quote.escape text.toList ++ [quote.char]) := by
    rw [List.append_nil, Quote.toList_around]
  have literal (offset : Nat) :
      lexicon.tokensFrom offset (' ' :: ((quote.around text).toList ++ [])) =
        .ok [⟨.str, quote.around text, offset + 1⟩] := by
    rw [front, tokensFrom_blank notBlank, ← front, tokensFrom_around, Lexicon.tokensFrom_nil]
    rfl
  rw [Lexicon.tokenize, source, tokensFrom_fieldName named 0 rfl, tokensFrom_blank (by decide),
    tokensFrom_equal, literal, Nat.zero_add]
  rfl

/-- Comparing a field with a quoted string compiles to the comparison with the string. -/
theorem compile_comparison {name : String} (named : IsFieldName name) (quote : Quote)
    (text : String) :
    compile (name ++ " = " ++ quote.around text) =
      .ok ⟨name ++ " = " ++ quote.around text,
        [.comparison name .equal (.value (.string text))]⟩ := by
  let field : Word .identifier := ⟨⟨.identifier, name, 0⟩, rfl⟩
  let sign : Word (.ofRelation .equal) := ⟨⟨.eq, "=", name.utf8ByteSize + 1⟩, rfl⟩
  let literal : Word .str := ⟨⟨.str, quote.around text, name.utf8ByteSize + 3⟩, rfl⟩
  let derivation : Derivation .test := .ofConjunction (.ofUnary (.ofPrimary
    (.condition field (.comparison .equal sign (.text literal)))))
  have test : derivation.test = .comparison name .equal (.value (.string text)) :=
    congrArg (fun text => Test.comparison name .equal (.value (.string text)))
      (quote.unquote_around text)
  exact compile_eq_ok_iff.2 ⟨derivation, tokenize_comparison named quote text, by rw [test]⟩

/-- A quoted string cannot break out of a predicate. It is one token in front of any text, the slice
between its first and its last byte cuts no character, what is read from it is the string, and a
field that is compared with it is compared with the string. -/
theorem quoted_string_contained (quote : Quote) (text : String) :
    (∀ offset rest, lexicon.tokensFrom offset ((quote.around text).toList ++ rest) =
      (lexicon.tokensFrom (offset + (quote.around text).utf8ByteSize) rest).map
        (⟨.str, quote.around text, offset⟩ :: ·)) ∧
    (String.Pos.Raw.IsValid (quote.around text) ⟨1⟩ ∧
      String.Pos.Raw.IsValid (quote.around text) ⟨(quote.around text).utf8ByteSize - 1⟩ ∧
      String.Pos.Raw.extract (quote.around text) ⟨1⟩ ⟨(quote.around text).utf8ByteSize - 1⟩ =
        String.ofList (quote.escape text.toList)) ∧
    Literal.unquote (quote.around text) = text ∧
    ∀ name, IsFieldName name → ∃ predicate,
      compile (name ++ " = " ++ quote.around text) = .ok predicate ∧
      ∀ vars doc value, doc.field? name = some (.string value) →
        predicate.matchesWith vars doc = .ok (decide (value = text)) := by
  refine ⟨?_, ?_, ?_, ?_⟩
  · exact tokensFrom_around quote text
  · exact ⟨(quote.isValid_inside text).1, (quote.isValid_inside text).2, quote.extract_around text⟩
  · exact quote.unquote_around text
  · intro name named
    refine ⟨_, compile_comparison named quote text, ?_⟩
    intro vars doc value held
    rw [matchesWith_single]
    simp only [Test.evaluate, Operand.resolve, held, Relation.holds, anyElement, Json.looseEq]

end Storefront.Predicate
