import Storefront.Proofs.Predicate.Parameters
import Storefront.Proofs.Predicate.Lexemes
import Storefront.Proofs.Predicate.Naming

/-!
Operators on lists of operands. Membership, its negation and the two forms of containment compare the
value of a field with the values of a list, and each of them comes to equalities of the field with the
values one by one. A list has the values of its operands, and those of the elements in place of an array
that a parameter stands for.
-/
namespace Storefront

/-! ### Elements and values -/

/-- It does not matter whether an element is found first or the value that it equals. -/
theorem anyElement_any_iff {member : Option Json} {values : List Json} :
    (anyElement member fun found => values.any (Json.looseEq found)) = true ↔
      ∃ value ∈ values, Relation.equal.holds member value = true := by
  simp only [Relation.holds, anyElement]
  split
  · simp only [List.any_eq_true]
    constructor
    · rintro ⟨item, among, value, listed, same⟩
      exact ⟨value, listed, item, among, same⟩
    · rintro ⟨value, listed, item, among, same⟩
      exact ⟨item, among, value, listed, same⟩
  · simp only [List.any_eq_true]

/-- An array contains any of some values if one of its elements is among them. -/
theorem Quantifier.any_holds_array (items values : List Json) :
    Quantifier.any.holds (some (.array items)) values =
      anyElement (some (.array items)) fun found => values.any (Json.looseEq found) := by
  rw [Bool.eq_iff_iff, anyElement_any_iff]
  simp only [Quantifier.holds, Relation.holds, anyElement, List.any_eq_true]

/-- An array contains all of some values if it equals each of them, as any element of it may. -/
theorem Quantifier.all_holds_array {items values : List Json} :
    Quantifier.all.holds (some (.array items)) values = true ↔
      ∀ value ∈ values, Relation.equal.holds (some (.array items)) value = true := by
  simp only [Quantifier.holds, Relation.holds, anyElement, List.all_eq_true]

/-- What is no array contains nothing, and not even all of no values. -/
theorem Quantifier.holds_of_not_array {member : Option Json}
    (single : ∀ items, member ≠ some (.array items)) (quantifier : Quantifier) (values : List Json) :
    quantifier.holds member values = false := by
  unfold Quantifier.holds
  split
  · rename_i items
    exact absurd rfl (single items)
  · rfl

namespace Predicate

/-! ### Texts that name a field and a condition -/

/-- What a text asks of a document, if it compiles. -/
def ask (source : String) (vars : Variables) (doc : Json) : Except Error Bool := do
  let predicate ← compile source
  predicate.matchesWith vars doc

/-- A text that is cut into the name of a field and the tokens of a condition, by kind and text. -/
def Reads (source field : String) (condition : Condition) : Prop :=
  ∃ tokens, lexicon.tokenize source = .ok tokens ∧
    tokens.map Token.lexeme = ⟨.identifier, field⟩ :: condition.tokens.map Token.lexeme

theorem reads_of_lexes {source field : String} {condition : Condition}
    (cut : Lexes lexicon source.toList
      (⟨.identifier, field⟩ :: condition.tokens.map Token.lexeme)) : Reads source field condition :=
  cut 0

/-- Such a text compiles and asks the condition of the field. -/
theorem Reads.ask_eq {source field : String} {condition : Condition}
    (reads : Reads source field condition) (vars : Variables) (doc : Json) :
    ask source vars doc = condition.evaluate vars (doc.field? field) := by
  obtain ⟨tokens, found, same⟩ := reads
  let derivation : Derivation .test :=
    .ofConjunction (.ofUnary (.ofPrimary (.condition (.of .identifier field) condition)))
  have alike : Alike tokens derivation.tokens := same
  obtain ⟨derivation', rfl, test⟩ := derivation.exists_of_alike alike
  have compiled := compile_eq_ok_iff.mpr ⟨derivation', found, rfl⟩
  rw [test] at compiled
  rw [ask, compiled]
  exact (matchesWith_single source derivation.test vars doc).trans
    (condition.evaluate_test vars field doc)

section Asking
variable {source field : String} {vars : Variables}

/-- A comparison with a term that has a value asks for the relation of the field to that value. -/
theorem Reads.ask_comparison {relation : Relation} {sign : Word (.ofRelation relation)} {term : Term}
    {literal : Json} (reads : Reads source field (.comparison relation sign term))
    (value : term.value vars = .ok literal) (doc : Json) :
    ask source vars doc = .ok (relation.holds (doc.field? field) literal) := by
  rw [reads.ask_eq, Condition.evaluate, value]
  exact congrArg Except.ok (isRelated_eq_holds literal relation)

theorem Reads.ask_containment {word : Word .contains} {quantifier : Quantifier}
    {quantified : Word (.ofQuantifier quantifier)} {terms : TermList} {values : List Json}
    (reads : Reads source field (.containment word quantifier quantified terms))
    (listed : terms.values vars = .ok values) (doc : Json) :
    ask source vars doc = .ok (quantifier.holds (doc.field? field) values) := by
  rw [reads.ask_eq, Condition.evaluate, listed]
  exact congrArg Except.ok (hasValues_eq_holds values quantifier)

end Asking

/-! ### Values of lists -/

variable {field name : String} {terms : TermList} {vars : Variables}

/-- The names of the parameters in a list. -/
def TermList.parameters (terms : TermList) : List String :=
  terms.operands.filterMap Operand.parameter?

theorem TermList.values_eq (vars : Variables) (terms : TermList) :
    terms.values vars = Operand.resolveAll vars terms.operands := by
  rw [TermList.operands, Term.resolveAll_operands]
  rfl

/-- A list has values as soon as its parameters do. -/
theorem TermList.exists_values (bound : ∀ parameter ∈ terms.parameters, ¬ Unbound vars parameter) :
    ∃ values, terms.values vars = .ok values := by
  rw [terms.values_eq]
  cases resolved : Operand.resolveAll vars terms.operands with
  | ok values => exact ⟨values, rfl⟩
  | error error =>
    obtain ⟨parameter, -, comes, unbound⟩ := Operand.resolveAll_error_iff_meets.mp resolved
    have listed : parameter ∈ terms.parameters := List.mem_filterMap.mpr ⟨_, comes.mem, rfl⟩
    exact absurd unbound (bound parameter listed)

/-! ### The operators -/

/-- Texts of the operators on one field and one list of operands, and of an equality of the field with a
parameter. -/
structure SetOperators (field : String) (terms : TermList) (name : String) where
  isIn : String
  notIn : String
  containsAny : String
  containsAll : String
  equality : String
  isIn_reads : ∃ word, Reads isIn field (.membership none word terms)
  notIn_reads : ∃ negation word, Reads notIn field (.membership (some negation) word terms)
  containsAny_reads : ∃ word quantified,
    Reads containsAny field (.containment word .any quantified terms)
  containsAll_reads : ∃ word quantified,
    Reads containsAll field (.containment word .all quantified terms)
  equality_reads : ∃ sign parameter, parameterName parameter.val = name ∧
    Reads equality field (.comparison .equal sign (.parameter parameter))

/-! ### Writing the operators -/

section Writing
variable {list : String} {cs rest : List Char} {behind : List (Lexeme Kind)}

theorem lexes_blank (solid : StartsSolid cs) (further : Lexes lexicon cs behind) :
    Lexes lexicon (' ' :: cs) behind := by
  obtain ⟨c, rest, rfl, notBlank⟩ := solid
  have one : Pattern.blanks (' ' :: c :: rest) = some 1 := by
    rw [Pattern.blanks, Pattern.many1, List.takeWhile_cons_of_pos rfl,
      List.takeWhile_cons_of_neg (by simp [notBlank])]
    rfl
  have taken : lexicon.firstMatch? ([' '] ++ c :: rest) = some (⟨.whitespace, Pattern.blanks, true⟩, 1) := by
    rw [lexicon]
    exact Lexicon.firstMatch?_some one
  exact lexes_skipped further taken

/-- A word between two blanks, if the first rule that matches takes all of it. -/
theorem lexes_word {kind : Kind} {pattern : Pattern} {word : List Char} (solid : StartsSolid word)
    (further : Lexes lexicon (' ' :: rest) behind)
    (found : lexicon.firstMatch? (word ++ ' ' :: rest) =
      some (⟨kind, pattern, false⟩, word.length)) :
    Lexes lexicon (' ' :: (word ++ ' ' :: rest)) (⟨kind, String.ofList word⟩ :: behind) := by
  have here := lexes_token further found
  obtain ⟨c, more, rfl, notBlank⟩ := solid
  exact lexes_blank ⟨c, _, rfl, notBlank⟩ here

theorem reads_written {condition : Condition} (named : IsFieldName field) {text : String}
    (spaced : text.toList = ' ' :: rest)
    (further : Lexes lexicon text.toList (condition.tokens.map Token.lexeme)) :
    Reads (field ++ text) field condition := by
  have ends : Pattern.atWordEnd text.toList = true := by
    rw [spaced]
    rfl
  have whole := lexes_token further (named.firstMatch? ends)
  rw [← String.toList_append, String.ofList_toList] at whole
  exact reads_of_lexes whole

theorem reads_operator {condition : Condition} (named : IsFieldName field) {operator : String}
    (spaced : operator.toList ++ list.toList = ' ' :: rest)
    (further : Lexes lexicon (operator.toList ++ list.toList)
      (condition.tokens.map Token.lexeme)) :
    Reads (field ++ (operator ++ list)) field condition := by
  rw [← String.toList_append] at spaced further
  exact reads_written named spaced further

/-- The operators as they are written on a field of any name and any list. -/
def SetOperators.written (named : IsFieldName field) (solid : StartsSolid list.toList)
    (cut : Lexes lexicon list.toList (terms.tokens.map Token.lexeme)) :
    SetOperators field terms "value" where
  isIn := field ++ (" in " ++ list)
  notIn := field ++ (" not in " ++ list)
  containsAny := field ++ (" contains any " ++ list)
  containsAll := field ++ (" contains all " ++ list)
  equality := field ++ " = :value"
  isIn_reads := by
    have behind := lexes_blank solid cut
    have whole := lexes_word ⟨'i', ['n'], rfl, rfl⟩ behind rfl
    exact ⟨.of .isIn "in", reads_operator named rfl whole⟩
  notIn_reads := by
    have behind := lexes_word ⟨'i', ['n'], rfl, rfl⟩ (lexes_blank solid cut) rfl
    have whole := lexes_word ⟨'n', ['o', 't'], rfl, rfl⟩ behind rfl
    exact ⟨.of .not "not", .of .isIn "in", reads_operator named rfl whole⟩
  containsAny_reads := by
    have behind := lexes_word ⟨'a', ['n', 'y'], rfl, rfl⟩ (lexes_blank solid cut) rfl
    have whole := lexes_word ⟨'c', "ontains".toList, rfl, rfl⟩ behind rfl
    exact ⟨.of .contains "contains", .of .any "any", reads_operator named rfl whole⟩
  containsAll_reads := by
    have behind := lexes_word ⟨'a', ['l', 'l'], rfl, rfl⟩ (lexes_blank solid cut) rfl
    have whole := lexes_word ⟨'c', "ontains".toList, rfl, rfl⟩ behind rfl
    exact ⟨.of .contains "contains", .of .all "all", reads_operator named rfl whole⟩
  equality_reads := by
    have parameter : Lexes lexicon (":value".toList ++ []) [⟨.parameter, ":value"⟩] :=
      lexes_token (lexes_nil lexicon) rfl
    have whole := lexes_word ⟨'=', [], rfl, rfl⟩ (lexes_blank ⟨':', "value".toList, rfl, rfl⟩ parameter) rfl
    exact ⟨.of .eq "=", .of .parameter ":value", rfl, reads_written named rfl whole⟩

end Writing

namespace SetOperators
variable {values : List Json} {doc : Json}

theorem ask_isIn (texts : SetOperators field terms name) (listed : terms.values vars = .ok values)
    (doc : Json) : ask texts.isIn vars doc =
      .ok (anyElement (doc.field? field) fun found => values.any (Json.looseEq found)) := by
  obtain ⟨word, reads⟩ := texts.isIn_reads
  rw [reads.ask_eq, Condition.evaluate, listed]
  exact congrArg Except.ok (isAmong_eq_anyElement values)

theorem ask_notIn (texts : SetOperators field terms name) (listed : terms.values vars = .ok values)
    (doc : Json) : ask texts.notIn vars doc =
      .ok (!anyElement (doc.field? field) fun found => values.any (Json.looseEq found)) := by
  obtain ⟨negation, word, reads⟩ := texts.notIn_reads
  rw [reads.ask_eq, Condition.evaluate, listed, ← isAmong_eq_anyElement]
  rfl

theorem ask_containsAny (texts : SetOperators field terms name)
    (listed : terms.values vars = .ok values) (doc : Json) :
    ask texts.containsAny vars doc = .ok (Quantifier.any.holds (doc.field? field) values) := by
  obtain ⟨word, quantified, reads⟩ := texts.containsAny_reads
  exact reads.ask_containment listed doc

theorem ask_containsAll (texts : SetOperators field terms name)
    (listed : terms.values vars = .ok values) (doc : Json) :
    ask texts.containsAll vars doc = .ok (Quantifier.all.holds (doc.field? field) values) := by
  obtain ⟨word, quantified, reads⟩ := texts.containsAll_reads
  exact reads.ask_containment listed doc

/-- An equality with a parameter compares the field with the value that the parameter has. -/
theorem ask_equality (texts : SetOperators field terms name) {value : Json}
    (bound : Dictionary.get? vars name = some value) (doc : Json) :
    ask texts.equality vars doc = .ok (Relation.equal.holds (doc.field? field) value) := by
  obtain ⟨sign, parameter, rfl, reads⟩ := texts.equality_reads
  have known : (Term.parameter parameter).value vars = .ok value := by
    rw [Term.value, bound]
  exact reads.ask_comparison known doc

end SetOperators

/-- With all parameters bound, the operators answer on every document as equalities with the values of
the list do. Membership asks for one that holds, and its negation is the opposite. If the field is an
array, containing any is membership, and containing all asks that every equality holds. What is no array
contains nothing. -/
theorem set_operators_agree_with_equality (texts : SetOperators field terms name)
    {own : Json → Variables} (bound : ∀ parameter ∈ terms.parameters, ¬ Unbound vars parameter)
    (owned : ∀ value, Dictionary.get? (own value) name = some value) (doc : Json) :
    let equals (value : Json) := ask texts.equality (own value) doc = .ok true
    ∃ values among, terms.values vars = .ok values ∧
      (ask texts.isIn vars doc = .ok among ∧ (among = true ↔ ∃ value ∈ values, equals value)) ∧
      ask texts.notIn vars doc = .ok (!among) ∧
      (∀ items, doc.field? field = some (.array items) →
        ask texts.containsAny vars doc = .ok among ∧
        ∃ all, ask texts.containsAll vars doc = .ok all ∧
          (all = true ↔ ∀ value ∈ values, equals value)) ∧
      ((∀ items, doc.field? field ≠ some (.array items)) →
        ask texts.containsAny vars doc = .ok false ∧ ask texts.containsAll vars doc = .ok false) ∧
      ∀ value, ∃ equal, ask texts.equality (own value) doc = .ok equal := by
  intro equals
  obtain ⟨values, listed⟩ := TermList.exists_values bound
  have equals_iff (value : Json) :
      equals value ↔ Relation.equal.holds (doc.field? field) value = true := by
    simp only [equals, texts.ask_equality (owned value), Except.ok.injEq]
  refine ⟨values, _, listed, ⟨texts.ask_isIn listed doc, ?_⟩, texts.ask_notIn listed doc, ?_, ?_, ?_⟩
  · simp only [equals_iff, anyElement_any_iff]
  · intro items isArray
    refine ⟨?_, _, texts.ask_containsAll listed doc, ?_⟩
    · rw [texts.ask_containsAny listed, isArray, Quantifier.any_holds_array]
    · simp only [equals_iff, isArray, Quantifier.all_holds_array]
  · intro single
    rw [texts.ask_containsAny listed, texts.ask_containsAll listed]
    exact ⟨congrArg Except.ok (Quantifier.holds_of_not_array single _ values),
      congrArg Except.ok (Quantifier.holds_of_not_array single _ values)⟩
  · exact fun value => ⟨_, texts.ask_equality (owned value) doc⟩

/-- The elements of an array in the place of a parameter, beside a value that is written. One of the
three is a tag of the document, and not all of them are. -/
theorem set_operators_agree_on_spliced_list :
    let vars : Variables := [("ids", .array [.string "a", .string "b"])]
    let doc := Json.object [("tags", .array [.string "b", .string "d"])]
    let values := [Json.string "a", .string "b", .string "c"]
    let equals (value : Json) := ask "tags = :value" [("value", value)] doc = .ok true
    (ask "tags in (:ids, 'c')" vars doc = .ok true ∧ ∃ value ∈ values, equals value) ∧
      ask "tags not in (:ids, 'c')" vars doc = .ok false ∧
      ask "tags contains any (:ids, 'c')" vars doc = .ok true ∧
      ask "tags contains all (:ids, 'c')" vars doc = .ok false ∧ ¬ ∀ value ∈ values, equals value := by
  intro vars doc values equals
  have named : IsFieldName "tags" :=
    ⟨⟨'t', "ags".toList, rfl, by decide, by decide⟩, by decide, by decide⟩
  let terms : TermList := .listed (.of .lParen "(") (.parameter (.of .parameter ":ids"))
    [(.of .comma ",", .text (.of .str "'c'"))] (.of .rParen ")")
  have cut : Lexes lexicon "(:ids, 'c')".toList (terms.tokens.map Token.lexeme) := by
    have closing : Lexes lexicon ([')'] ++ []) _ := lexes_token (lexes_nil lexicon) rfl
    have text : Lexes lexicon ("'c'".toList ++ ")".toList) _ := lexes_token closing rfl
    have blank := lexes_blank ⟨'\'', "c')".toList, rfl, rfl⟩ text
    have comma : Lexes lexicon ([','] ++ " 'c')".toList) _ := lexes_token blank rfl
    have parameter : Lexes lexicon (":ids".toList ++ ", 'c')".toList) _ := lexes_token comma rfl
    have opening : Lexes lexicon (['('] ++ ":ids, 'c')".toList) _ := lexes_token parameter rfl
    exact opening
  let texts : SetOperators "tags" terms "value" := .written named ⟨'(', ":ids, 'c')".toList, rfl, rfl⟩ cut
  have parameters : terms.parameters = ["ids"] := by decide
  have bound : ∀ parameter ∈ terms.parameters, ¬ Unbound vars parameter := by
    rw [parameters, List.forall_mem_singleton]
    exact nofun
  let own : Json → Variables := fun value => [("value", value)]
  have owned : ∀ value, Dictionary.get? (own value) "value" = some value := fun _ => rfl
  obtain ⟨found, among, listed, ⟨isIn, isIn_iff⟩, notIn, isArray, -, -⟩ :=
    set_operators_agree_with_equality texts bound owned doc
  obtain ⟨containsAny, all, containsAll, all_iff⟩ := isArray _ rfl
  obtain rfl : values = found := Except.ok.inj listed
  have answers : (ask "tags in (:ids, 'c')" vars doc).toOption = some true ∧
      (ask "tags contains all (:ids, 'c')" vars doc).toOption = some false := by decide +kernel
  change ask "tags in (:ids, 'c')" vars doc = .ok among at isIn
  change ask "tags contains all (:ids, 'c')" vars doc = .ok all at containsAll
  rw [isIn, containsAll] at answers
  obtain ⟨rfl, rfl⟩ : among = true ∧ all = false :=
    ⟨Option.some.inj answers.1, Option.some.inj answers.2⟩
  exact ⟨⟨isIn, isIn_iff.mp rfl⟩, notIn, containsAny, containsAll,
    fun every => Bool.false_ne_true (all_iff.mpr every)⟩

end Predicate
end Storefront
