import Storefront.Proofs.Filter.Writing
import Storefront.Proofs.Json.Path
import Storefront.Proofs.Predicate.Lexemes
import Storefront.Proofs.Predicate.Naming

/-!
Writing memberships. A membership in a list of values, behind as many descents as there are names in
front of the last one, is written with the names, the word `in`, the values and parentheses. Whatever
white space is put between the tokens, the text compiles, and what it asks of a document is whether
descending along the names leads to one of the values.
-/
namespace Storefront.Predicate

open Storefront.Filter (Scalar)

def words : List (Kind × String) :=
  [(.isIn, "in"), (.yes, "true"), (.no, "false")]

def punctuation : List (Kind × String) :=
  [(.lParen, "("), (.rParen, ")"), (.comma, ",")]

/-- What memberships are written with. -/
inductive Regular : Lexeme Kind → Prop
  | quotation (quote : Quote) (text : String) : Regular ⟨.str, quote.around text⟩
  | integer (i : Int) : Regular ⟨.number, String.ofList (Numeral.decimal i)⟩
  | name {name : String} (named : IsFieldName name) : Regular ⟨.identifier, name⟩
  | word {kind : Kind} {text : String} (mem : (kind, text) ∈ words) : Regular ⟨kind, text⟩
  | mark {kind : Kind} {text : String} (mem : (kind, text) ∈ punctuation) : Regular ⟨kind, text⟩

section Taking
variable {kind : Kind} {text : String} {rest : List Char}

theorem takes_mark (mem : (kind, text) ∈ punctuation) : Takes lexicon ⟨kind, text⟩ rest := by
  simp only [punctuation, List.mem_cons, List.not_mem_nil, or_false, Prod.mk.injEq] at mem
  rcases mem with ⟨rfl, rfl⟩ | ⟨rfl, rfl⟩ | ⟨rfl, rfl⟩ <;> exact ⟨_, rfl, rfl, rfl⟩

theorem takes_word (mem : (kind, text) ∈ words) (ends : Pattern.atWordEnd rest = true) :
    Takes lexicon ⟨kind, text⟩ rest := by
  have isIn : Pattern.anyCaseKeyword "in" ("in".toList ++ rest) = some "in".toList.length := by
    simp [Pattern.anyCaseKeyword, Pattern.wordBy, Pattern.sameLetter, ends]
  have truth := Pattern.keyword_append ends
  simp only [words, List.mem_cons, List.not_mem_nil, or_false, Prod.mk.injEq] at mem
  rcases mem with ⟨rfl, rfl⟩ | ⟨rfl, rfl⟩ | ⟨rfl, rfl⟩
  · exact takes_of_drop 8 rfl rfl isIn (by decide)
  · exact takes_of_drop 15 rfl rfl (truth _) (by decide)
  · exact takes_of_drop 16 rfl rfl (truth _) (by decide)

theorem takes_regular {lexeme : Lexeme Kind} (regular : Regular lexeme)
    (apart : endsInWord lexeme.text.toList = true → Pattern.atWordEnd rest = true)
    (noPoint : rest.head? ≠ some '.') : Takes lexicon lexeme rest := by
  cases regular with
  | quotation quote text => exact ⟨_, quote.firstMatch?_around text rest, rfl, rfl⟩
  | integer i =>
    have ends := Numeral.endsInWord_decimal i
    rw [String.toList_ofList] at apart
    refine ⟨⟨.number, Pattern.floatingPoint, false⟩, ?_, rfl, rfl⟩
    rw [String.toList_ofList]
    exact Numeral.firstMatch?_decimal i (Pattern.floatingPoint_decimal i (apart ends) noPoint)
  | @name name named =>
    have ends : endsInWord name.toList = true := by
      obtain ⟨first, more, spelt, -⟩ := named.parts
      have nonempty : name.toList ≠ [] := by simp [spelt]
      have word := named.isWord _ (List.getLast_mem nonempty)
      rw [endsInWord, List.getLast?_eq_some_getLast nonempty]
      exact word
    exact ⟨_, named.firstMatch? (apart ends), rfl, rfl⟩
  | word mem =>
    have ends : words.all (fun word => endsInWord word.2.toList) = true := by decide
    exact takes_word mem (apart (List.all_eq_true.1 ends _ mem))
  | mark mem => exact takes_mark mem

end Taking

theorem Regular.starts {lexeme : Lexeme Kind} (regular : Regular lexeme) :
    ∃ c cs, lexeme.text.toList = c :: cs ∧ Text.isBlank c = false ∧ c ≠ '.' := by
  have fixed : ∀ spelling ∈ words ++ punctuation, ∃ c cs, spelling.2.toList = c :: cs ∧
      Text.isBlank c = false ∧ c ≠ '.' := by
    simp only [words, punctuation, List.cons_append, List.nil_append, List.forall_mem_cons]
    refine ⟨⟨_, _, rfl, ?_⟩, ⟨_, _, rfl, ?_⟩, ⟨_, _, rfl, ?_⟩, ⟨_, _, rfl, ?_⟩, ⟨_, _, rfl, ?_⟩,
      ⟨_, _, rfl, ?_⟩, fun _ none => absurd none List.not_mem_nil⟩ <;> decide
  cases regular with
  | quotation quote text =>
    refine ⟨quote.char, _, quote.toList_around text, ?_⟩
    cases quote <;> decide
  | integer i =>
    obtain ⟨c, cs, split, notBlank, -, -, noPoint⟩ := Numeral.decimal_starts i
    exact ⟨c, cs, String.toList_ofList.trans split, notBlank, noPoint⟩
  | name named =>
    obtain ⟨first, more, spelt, starts, -⟩ := named.parts
    exact ⟨first, more, spelt, Pattern.isBlank_name starts,
      Pattern.ne_of_isNameStart starts (by decide)⟩
  | word mem => exact fixed _ (List.mem_append_left _ mem)
  | mark mem => exact fixed _ (List.mem_append_right _ mem)

theorem lexes_of_laidOut {lexemes : List (Lexeme Kind)} {cs : List Char} (laid : LaidOut lexemes cs)
    (regular : ∀ lexeme ∈ lexemes, Regular lexeme) : Lexes lexicon cs lexemes := by
  intro offset
  exact (cut_of_laidOut Regular.starts takes_regular laid regular).tokensFrom offset

/-! ### The tokens of a membership -/

def valueLexeme : Scalar → Lexeme Kind
  | .literal (.text quote content) => ⟨.str, quote.around content⟩
  | .literal (.integer value _) => ⟨.number, String.ofList (Numeral.decimal value)⟩
  | .bool true => ⟨.yes, "true"⟩
  | .bool false => ⟨.no, "false"⟩

/-- The tokens of a list of values. -/
def valueList (items : List Scalar) : List (Lexeme Kind) :=
  ⟨.lParen, "("⟩ ::
    ([⟨.comma, ","⟩].intercalate (items.map fun item => [valueLexeme item]) ++ [⟨.rParen, ")"⟩])

/-- The tokens of a membership in a list of values, of the field at the end of some names. -/
def written (items : List Scalar) (name : String) : List String → List (Lexeme Kind)
  | [] => ⟨.identifier, name⟩ :: ⟨.isIn, "in"⟩ :: valueList items
  | next :: path =>
    ⟨.identifier, name⟩ :: ⟨.lParen, "("⟩ :: (written items next path ++ [⟨.rParen, ")"⟩])

theorem regular_valueLexeme (item : Scalar) : Regular (valueLexeme item) := by
  match item with
  | .literal (.text quote content) => exact .quotation quote content
  | .literal (.integer value fits) => exact .integer value
  | .bool true => exact .word (by decide)
  | .bool false => exact .word (by decide)

theorem intercalate_values (first : Scalar) (more : List Scalar) :
    [⟨Kind.comma, ","⟩].intercalate ((first :: more).map fun item => [valueLexeme item]) =
      valueLexeme first :: more.flatMap fun item => [⟨.comma, ","⟩, valueLexeme item] := by
  rw [List.map_cons, intercalate_cons, List.flatMap_map]
  rfl

theorem regular_valueList {items : List Scalar} (nonempty : items ≠ []) :
    ∀ lexeme ∈ valueList items, Regular lexeme := by
  have mark : ∀ spelling ∈ punctuation, Regular ⟨spelling.1, spelling.2⟩ :=
    fun _ mem => .mark mem
  simp only [punctuation, List.forall_mem_cons] at mark
  obtain ⟨opening, closing, comma, -⟩ := mark
  obtain ⟨first, more, rfl⟩ := List.exists_cons_of_ne_nil nonempty
  rw [valueList, intercalate_values]
  simp only [List.mem_cons, List.mem_append, List.mem_flatMap, List.not_mem_nil, or_false]
  rintro lexeme (rfl | (rfl | ⟨item, -, rfl | rfl⟩) | rfl)
  · exact opening
  · exact regular_valueLexeme first
  · exact comma
  · exact regular_valueLexeme item
  · exact closing

theorem regular_written {items : List Scalar} (nonempty : items ≠ []) {name : String}
    {path : List String} (named : ∀ each ∈ name :: path, IsFieldName each) :
    ∀ lexeme ∈ written items name path, Regular lexeme := by
  induction path generalizing name with
  | nil =>
    have isIn : Regular ⟨.isIn, "in"⟩ := .word (by decide)
    simp only [written, List.forall_mem_cons]
    exact ⟨.name (named name List.mem_cons_self), isIn, regular_valueList nonempty⟩
  | cons next path ih =>
    rw [List.forall_mem_cons] at named
    have opening : Regular ⟨.lParen, "("⟩ := .mark (by decide)
    have closing : Regular ⟨.rParen, ")"⟩ := .mark (by decide)
    simp only [written, List.forall_mem_cons, List.forall_mem_append]
    exact ⟨.name named.1, opening, ih named.2, closing, fun _ none => absurd none List.not_mem_nil⟩

/-! ### The derivation of a membership -/

def valueTerm : Scalar → Term
  | .literal (.text quote content) => .text (.of .str (quote.around content))
  | .literal (.integer value fits) =>
    .number (.of .number (String.ofList (Numeral.decimal value))) (.ofInt value)
      (Literal.number_decimal fits)
  | .bool true => .yes (.of .yes "true")
  | .bool false => .no (.of .no "false")

def valueTerms (first : Scalar) (more : List Scalar) : TermList :=
  .listed (.of .lParen "(") (valueTerm first)
    (more.map fun item => (.of .comma ",", valueTerm item)) (.of .rParen ")")

/-- A membership, behind a descent into each name in front of the last one. -/
def membershipOf (terms : TermList) (name : String) : List String → Derivation .test
  | [] =>
    .ofConjunction (.ofUnary (.ofPrimary
      (.condition (.of .identifier name) (.membership none (.of .isIn "in") terms))))
  | next :: path =>
    .ofConjunction (.ofUnary (.ofPrimary
      (.descent (.of .identifier name) (.of .lParen "(") (membershipOf terms next path)
        (.of .rParen ")"))))

theorem lexeme_valueTerm (item : Scalar) : (valueTerm item).token.lexeme = valueLexeme item := by
  match item with
  | .literal (.text quote content) => rfl
  | .literal (.integer value fits) => rfl
  | .bool true => rfl
  | .bool false => rfl

theorem operand_valueTerm (item : Scalar) : (valueTerm item).operand = .value item.value := by
  match item with
  | .literal (.text quote content) =>
    exact congrArg (Operand.value <| Json.string ·) (quote.unquote_around content)
  | .literal (.integer value fits) => rfl
  | .bool true => rfl
  | .bool false => rfl

theorem lexemes_valueTerms (first : Scalar) (more : List Scalar) :
    (valueTerms first more).tokens.map Token.lexeme = valueList (first :: more) := by
  rw [valueList, intercalate_values]
  simp only [valueTerms, TermList.tokens, furtherTokens, List.flatMap_map, List.map_cons,
    List.map_append, List.map_flatMap, List.map_nil, lexeme_valueTerm]
  rfl

theorem operands_valueTerms (first : Scalar) (more : List Scalar) :
    (valueTerms first more).operands = ((first :: more).map Scalar.value).map Operand.value := by
  simp only [valueTerms, TermList.operands, TermList.terms, List.map_cons, List.map_map,
    operand_valueTerm, Function.comp_def]

theorem lexemes_membershipOf {terms : TermList} {items : List Scalar}
    (spelt : terms.tokens.map Token.lexeme = valueList items) (name : String) (path : List String) :
    (membershipOf terms name path).tokens.map Token.lexeme = written items name path := by
  induction path generalizing name with
  | nil =>
    rw [written, ← spelt]
    rfl
  | cons next path ih =>
    rw [written, ← ih next]
    simp only [membershipOf, Derivation.tokens, List.map_cons, List.map_append, List.map_nil]
    rfl

/-! ### What a membership asks of a document -/

theorem resolveAll_values (vars : Variables) (values : List Json) :
    Operand.resolveAll vars (values.map .value) = .ok values := by
  induction values with
  | nil => rfl
  | cons value values ih =>
    have alone : Operand.splice vars (.value value) = .ok [value] := by
      cases value <;> rfl
    rw [List.map_cons, Operand.resolveAll, alone, ih]
    rfl

/-- No value that is written is null, so what is absent equals none of them. -/
theorem looseEq_none_value (item : Scalar) : Json.looseEq none item.value = false := by
  match item with
  | .literal (.text quote content) => rfl
  | .literal (.integer value fits) => rfl
  | .bool value => rfl

theorem anyElement_eq {member : Option Json} {condition : Option Json → Bool}
    (absent : condition none = false) :
    anyElement member condition = anyElement member (·.any fun found => condition (some found)) := by
  cases member with
  | none => exact absent
  | some found => cases found <;> rfl

/-- A descent into what is decided is decided: it asks for any element of an array. -/
theorem evaluate_descent {vars : Variables} {inner : Test} {truth : Json → Bool}
    (decides : ∀ doc, inner.evaluate vars doc = .ok (truth doc)) (field : String) (doc : Json) :
    (Test.descent field inner).evaluate vars doc = .ok (match doc.field? field with
      | none => false
      | some (.array items) => items.any truth
      | some child => Json.isTruthy (some child) && truth child) := by
  simp only [Test.evaluate, decides]
  cases doc.field? field with
  | none => rfl
  | some child =>
    have alone : (if Json.isTruthy (some child) = true then .ok (truth child) else .ok false :
        Except Error Bool) = .ok (Json.isTruthy (some child) && truth child) := by
      cases Json.isTruthy (some child) <;> rfl
    cases child with
    | array items => exact List.anyM_pure
    | _ => exact alone

/-- Whether a value that is found equals one of those allowed. -/
def equalsAny (allowed : List Json) (found : Json) : Bool :=
  allowed.any (Json.looseEq (some found))

theorem evaluate_membershipOf (vars : Variables) {terms : TermList} {allowed : List Json}
    (spelt : terms.operands = allowed.map .value)
    (present : ∀ value ∈ allowed, Json.looseEq none value = false) (name : String)
    (path : List String) (doc : Json) :
    (membershipOf terms name path).test.evaluate vars doc =
      .ok (Json.leadsTo (equalsAny allowed) name path doc) := by
  induction path generalizing name doc with
  | nil =>
    have absent : allowed.any (Json.looseEq none) = false := by
      simpa using present
    simp only [membershipOf, Derivation.test, Condition.test, Test.evaluate, spelt,
      resolveAll_values, Option.isSome_none, Bool.bne_false]
    exact congrArg Except.ok (anyElement_eq absent)
  | cons next path ih =>
    simp only [membershipOf, Derivation.test, Json.leadsTo]
    exact evaluate_descent (ih next) name doc

/-- A membership that is written, with any white space that keeps its words apart, compiles, and it
holds where descending along its names leads to one of its values. -/
theorem compile_written {items : List Scalar} (nonempty : items ≠ []) {name : String}
    {path : List String} (named : ∀ each ∈ name :: path, IsFieldName each) {text : String}
    (laid : LaidOut (written items name path) text.toList) :
    ∃ predicate, compile text = .ok predicate ∧ ∀ vars doc, predicate.matchesWith vars doc =
      .ok (Json.leadsTo (equalsAny (items.map Scalar.value)) name path doc) := by
  have cut := lexes_of_laidOut laid (regular_written nonempty named)
  obtain ⟨first, more, rfl⟩ := List.exists_cons_of_ne_nil nonempty
  have present : ∀ value ∈ (first :: more).map Scalar.value, Json.looseEq none value = false := by
    intro value mem
    obtain ⟨item, -, rfl⟩ := List.mem_map.mp mem
    exact looseEq_none_value item
  rw [← lexemes_membershipOf (lexemes_valueTerms first more)] at cut
  refine ⟨_, compile_of_lexes _ cut, fun vars doc => ?_⟩
  rw [matchesWith_single]
  exact evaluate_membershipOf vars (operands_valueTerms first more) present name path doc

end Storefront.Predicate
