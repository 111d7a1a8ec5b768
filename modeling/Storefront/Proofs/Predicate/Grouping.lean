import Mathlib.Data.String.Basic
import Storefront.Proofs.Predicate.Lexemes
import Storefront.Proofs.Predicate.Naming
import Storefront.Proofs.Token.Quotation

/-!
Predicates in parentheses, joined by `and`. A closing parenthesis is part of no other token, so each
text is cut between its parentheses as it is by itself, and what it is read as stays together.
-/
namespace Storefront.Predicate

/-- The signs of relations, parentheses and the comma. -/
def marks : List String :=
  ["!=", "<>", ">=", "<=", "=", ">", "<", "(", ")", ","]

/-! ### Closing parentheses -/

theorem bounded_lexicon : ∀ rule ∈ lexicon, Pattern.Bounded rule.pattern := by
  simp only [lexicon, List.forall_mem_cons, Pattern.blanks, Pattern.bounded_many1,
    Pattern.bounded_quoted, Pattern.bounded_floatingPoint, Pattern.bounded_parameter,
    Pattern.bounded_anyCaseKeyword, Pattern.bounded_keyword, Pattern.bounded_name,
    Pattern.bounded_exact, List.not_mem_nil, false_implies, implies_true, and_self]

/-- A quote begins a quotation of its kind, or nothing that can be cut. -/
theorem quoted_of_firstMatch? (quote : Quote) {cs : List Char} {rule : TokenRule Kind} {n : Nat}
    (found : lexicon.firstMatch? (quote.char :: cs) = some (rule, n)) :
    ∃ length, Pattern.quoted quote.char (quote.char :: cs) = some length := by
  cases taken : Pattern.quoted quote.char (quote.char :: cs) with
  | some length => exact ⟨length, rfl⟩
  | none =>
    have blank : Pattern.blanks (quote.char :: cs) = some 0 := by cases quote <;> rfl
    have others : Lexicon.firstMatch? (lexicon.drop 3) (quote.char :: cs) = none := by
      cases quote <;> rfl
    have either (quote' : Quote) : Pattern.quoted quote'.char (quote.char :: cs) = none := by
      by_cases same : quote'.char = quote.char
      · rw [same, taken]
      · exact Pattern.quoted_of_ne (Ne.symm same) cs
    have double : Pattern.quoted '"' (quote.char :: cs) = none := either .double
    have single : Pattern.quoted '\'' (quote.char :: cs) = none := either .single
    have uncut : lexicon.firstMatch? (quote.char :: cs) = none := by
      rw [lexicon, Lexicon.firstMatch?_zero blank, Lexicon.firstMatch?_none double,
        Lexicon.firstMatch?_none single]
      exact others
    rw [uncut] at found
    contradiction

/-- Where a text can be cut, what is quoted at its front does not depend on what is behind it. -/
theorem quoted_of_found (quote : Quote) {c : Char} {cs : List Char} {rule : TokenRule Kind} {n : Nat}
    (found : lexicon.firstMatch? (c :: cs) = some (rule, n)) (rest : List Char) :
    Pattern.quoted quote.char (c :: (cs ++ rest)) = Pattern.quoted quote.char (c :: cs) := by
  by_cases opens : c = quote.char
  · subst opens
    obtain ⟨length, taken⟩ := quoted_of_firstMatch? quote found
    rw [taken]
    exact Pattern.quoted_append taken rest
  · rw [Pattern.quoted_of_ne opens, Pattern.quoted_of_ne opens]

/-- Quotations apart, no token goes on with a closing parenthesis. -/
theorem settledBy_unquoted : ∀ rule ∈ lexicon.drop 3, Pattern.SettledBy ')' rule.pattern := by
  have stops := Pattern.isStop_closing
  have word (word : String) (mem : word ∈ keywords) :
      Pattern.SettledBy ')' (Pattern.anyCaseKeyword word) := by
    have absent : ∀ word ∈ keywords,
        word.toList.all (fun letter => !Pattern.sameLetter letter ')') = true := by decide
    exact Pattern.settledBy_anyCaseKeyword stops (absent word mem)
  have truth (word : String) (mem : word ∈ ["true", "false"]) :
      Pattern.SettledBy ')' (Pattern.keyword word) := by
    have absent : ∀ word ∈ ["true", "false"],
        word.toList.all (fun letter => !decide (letter = ')')) = true := by decide
    exact Pattern.settledBy_keyword stops (absent word mem)
  have mark (text : String) (mem : text ∈ marks) : Pattern.SettledBy ')' (Pattern.exact text) := by
    have absent : ∀ text ∈ marks, ')' ∉ text.toList.drop 1 := by decide
    exact Pattern.settledBy_exact (absent text mem)
  simp only [lexicon, List.drop_succ_cons, List.drop_zero, List.forall_mem_cons,
    Pattern.settledBy_floatingPoint stops, Pattern.settledBy_parameter stops,
    Pattern.settledBy_name stops, true_and]
  refine ⟨word "and" (by decide), word "or" (by decide), word "not" (by decide),
    word "in" (by decide), word "is" (by decide), word "defined" (by decide),
    word "empty" (by decide), word "contains" (by decide), word "any" (by decide),
    word "all" (by decide), truth "true" (by decide), truth "false" (by decide),
    mark "!=" (by decide), mark "<>" (by decide), mark ">=" (by decide), mark "<=" (by decide),
    mark "=" (by decide), mark ">" (by decide), mark "<" (by decide), mark "(" (by decide),
    mark ")" (by decide), mark "," (by decide), ?_⟩
  exact fun _ none => absurd none List.not_mem_nil

/-- In front of a closing parenthesis a text is cut as it is by itself. -/
theorem settledBy_closing : lexicon.SettledBy ')' := by
  intro cs rest rule n nonempty found
  refine ⟨Lexicon.firstMatch?_le bounded_lexicon found, ?_⟩
  obtain ⟨c, cs, rfl⟩ := List.exists_cons_of_ne_nil nonempty
  rw [← found, List.cons_append]
  apply Lexicon.firstMatch?_congr
  have first : ∀ rule ∈ lexicon.take 3,
      rule.pattern (c :: (cs ++ ')' :: rest)) = rule.pattern (c :: cs) := by
    simp only [lexicon, List.take_succ_cons, List.take_zero, List.forall_mem_cons]
    exact ⟨Pattern.settledBy_many1 Pattern.isStop_closing.blank c cs rest,
      quoted_of_found .double found _, quoted_of_found .single found _,
      fun _ none => absurd none List.not_mem_nil⟩
  intro rule mem
  rw [← List.take_append_drop 3 lexicon, List.mem_append] at mem
  rcases mem with mem | mem
  · exact first rule mem
  · exact settledBy_unquoted rule mem c cs rest

/-! ### Groups -/

/-- A derivation in parentheses. -/
def Derivation.grouped (inner : Derivation .test) : Derivation .unary :=
  .ofPrimary (.group (.of .lParen "(") inner (.of .rParen ")"))

theorem Derivation.test_grouped (inner : Derivation .test) : inner.grouped.test = inner.test :=
  rfl

/-- Derivations in parentheses, with `and` between them. -/
def conjunctionOf (first : Derivation .test) : List (Derivation .test) → Derivation .conjunction
  | [] => .ofUnary first.grouped
  | next :: more => .conjunction first.grouped (.of .and "and") (conjunctionOf next more)

/-- A conjunction of groups is evaluated one after another, until one of them does not hold. -/
theorem evaluate_conjunctionOf (vars : Variables) (doc : Json) (first : Derivation .test)
    (more : List (Derivation .test)) :
    (conjunctionOf first more).test.evaluate vars doc =
      ((first :: more).map Derivation.test).allM (·.evaluate vars doc) := by
  induction more generalizing first with
  | nil => exact (matchesWith_single "" first.test vars doc).symm
  | cons next more ih =>
    rw [List.map_cons, List.allM_cons, ← ih next, conjunctionOf, Derivation.test, Test.evaluate,
      Derivation.test_grouped]
    cases first.test.evaluate vars doc with
    | error e => rfl
    | ok holds => cases holds <;> rfl

section Texts
variable {source : String} {derivation : Derivation .test} {rest : List Char}
  {behind : List (Lexeme Kind)}

/-- A text in parentheses is cut into its own tokens between two parentheses. -/
theorem lexes_grouped (cut : lexicon.tokenize source = .ok derivation.tokens)
    (further : Lexes lexicon rest behind) :
    Lexes lexicon ('(' :: (source.toList ++ ')' :: rest))
      (derivation.grouped.tokens.map Token.lexeme ++ behind) := by
  have closing : Lexes lexicon ([')'] ++ rest) (⟨.rParen, ")"⟩ :: behind) := lexes_token further rfl
  have inside := lexes_append_stop settledBy_closing cut closing
  have whole : Lexes lexicon (['('] ++ (source.toList ++ ')' :: rest))
      (⟨.lParen, "("⟩ :: (derivation.tokens.map Token.lexeme ++ ⟨.rParen, ")"⟩ :: behind)) :=
    lexes_token inside rfl
  simpa [Derivation.grouped, Derivation.tokens, Token.lexeme, Word.of] using whole

theorem lexes_and (further : Lexes lexicon ('(' :: rest) behind) :
    Lexes lexicon (" and ".toList ++ '(' :: rest) (⟨.and, "and"⟩ :: behind) := by
  have blank : Lexes lexicon ([' '] ++ '(' :: rest) behind := lexes_skipped further rfl
  have word : Lexes lexicon (['a', 'n', 'd'] ++ ' ' :: '(' :: rest) (⟨.and, "and"⟩ :: behind) :=
    lexes_token blank rfl
  have whole : Lexes lexicon ([' '] ++ 'a' :: 'n' :: 'd' :: ' ' :: '(' :: rest)
      (⟨.and, "and"⟩ :: behind) :=
    lexes_skipped word rfl
  exact whole

end Texts

/-! ### Lists of texts -/

/-- The texts in parentheses, with `and` between them. -/
def joined (sources : List String) : String :=
  " and ".intercalate (sources.map fun source => "(" ++ source ++ ")")

theorem toList_grouped (source : String) :
    ("(" ++ source ++ ")").toList = '(' :: (source.toList ++ [')']) := by
  rw [String.toList_append, String.toList_append]
  rfl

theorem toList_joined_single (source : String) :
    (joined [source]).toList = '(' :: (source.toList ++ [')']) := by
  rw [joined, String.toList_intercalate, ← toList_grouped]
  simp

theorem toList_joined_cons (source next : String) (sources : List String) :
    (joined (source :: next :: sources)).toList =
      '(' :: (source.toList ++ ')' :: (" and ".toList ++ (joined (next :: sources)).toList)) := by
  rw [joined, String.toList_intercalate, List.map_cons, List.map_cons, List.map_cons,
    List.map_cons, List.intercalate_cons_cons, toList_grouped, joined, String.toList_intercalate]
  simp

theorem joined_starts (source : String) (sources : List String) :
    ∃ rest, (joined (source :: sources)).toList = '(' :: rest := by
  cases sources with
  | nil => exact ⟨_, toList_joined_single source⟩
  | cons next sources => exact ⟨_, toList_joined_cons source next sources⟩

/-- Each derivation has the tokens of the text in its place. -/
abbrev Cuts (sources : List String) (derivations : List (Derivation .test)) : Prop :=
  List.Forall₂ (fun source derivation => lexicon.tokenize source = .ok derivation.tokens) sources
    derivations

theorem exists_cuts {sources : List String}
    (compiles : ∀ source ∈ sources, ∃ predicate, compile source = .ok predicate) :
    ∃ derivations, Cuts sources derivations := by
  induction sources with
  | nil => exact ⟨[], .nil⟩
  | cons source sources ih =>
    rw [List.forall_mem_cons] at compiles
    obtain ⟨predicate, compiled⟩ := compiles.1
    obtain ⟨derivation, cut, -⟩ := compile_eq_ok_iff.mp compiled
    obtain ⟨derivations, cuts⟩ := ih compiles.2
    exact ⟨derivation :: derivations, .cons cut cuts⟩

/-- Joined texts are cut into the tokens of the conjunction of what they are read as. -/
theorem lexes_joined {source : String} {sources : List String} {derivation : Derivation .test}
    {derivations : List (Derivation .test)}
    (cut : lexicon.tokenize source = .ok derivation.tokens) (cuts : Cuts sources derivations) :
    Lexes lexicon (joined (source :: sources)).toList
      ((conjunctionOf derivation derivations).tokens.map Token.lexeme) := by
  induction cuts generalizing source derivation with
  | nil =>
    have alone := lexes_grouped cut (lexes_nil lexicon)
    rw [List.append_nil] at alone
    rw [toList_joined_single]
    exact alone
  | @cons next inner sources derivations cutNext _ ih =>
    obtain ⟨rest, starts⟩ := joined_starts next sources
    have further := ih cutNext
    rw [starts] at further
    have whole := lexes_grouped cut (lexes_and further)
    rw [toList_joined_cons, starts, conjunctionOf, Derivation.tokens, List.map_append]
    exact whole

theorem readTest_of_cut {source : String} {derivation : Derivation .test}
    (cut : lexicon.tokenize source = .ok derivation.tokens) :
    readTest source = .ok derivation.test := by
  rw [readTest_eq, cut]
  exact readTokens_tokens _ derivation

/-- Texts that are cut one by one compile together, to a list of tests. -/
theorem compileAll_of_cuts {sources : List String} {derivations : List (Derivation .test)}
    (cuts : Cuts sources derivations) :
    compileAll sources = .ok ⟨joined sources, derivations.map Derivation.test⟩ := by
  have tests : sources.mapM readTest = .ok (derivations.map Derivation.test) := by
    induction cuts with
    | nil => rfl
    | cons cut _ ih =>
      rw [List.mapM_cons, readTest_of_cut cut, ih]
      rfl
  rw [compileAll, tests]
  rfl

/-- Texts that are cut one by one compile one by one, and ask the same of a document as their
tests. -/
theorem mapM_compile_of_cuts {sources : List String} {derivations : List (Derivation .test)}
    (cuts : Cuts sources derivations) :
    ∃ each, sources.mapM compile = .ok each ∧ ∀ vars doc,
      each.allM (·.matchesWith vars doc) =
        (derivations.map Derivation.test).allM (·.evaluate vars doc) := by
  induction cuts with
  | nil => exact ⟨[], rfl, fun _ _ => rfl⟩
  | @cons source derivation sources derivations cut _ ih =>
    obtain ⟨each, compiled, alike⟩ := ih
    have here := compile_eq_ok_iff.mpr ⟨derivation, cut, rfl⟩
    refine ⟨⟨source, [derivation.test]⟩ :: each, ?_, fun vars doc => ?_⟩
    · rw [List.mapM_cons, here, compiled]
      rfl
    · rw [List.map_cons, List.allM_cons, List.allM_cons, matchesWith_single, alike]

/-- Predicates that compile one by one compile together. The text of their conjunction compiles too,
and by itself it gives the same truth or error on every document. -/
theorem exists_compiled_conjunction {sources : List String} (nonempty : sources ≠ [])
    (compiles : ∀ source ∈ sources, ∃ predicate, compile source = .ok predicate) :
    ∃ all single each, compileAll sources = .ok all ∧ compile all.source = .ok single ∧
      sources.mapM compile = .ok each ∧ ∀ vars doc,
        single.matchesWith vars doc = all.matchesWith vars doc ∧
        each.allM (·.matchesWith vars doc) = all.matchesWith vars doc := by
  obtain ⟨derivations, cuts⟩ := exists_cuts compiles
  have together := compileAll_of_cuts cuts
  obtain ⟨each, compiled, alike⟩ := mapM_compile_of_cuts cuts
  cases cuts with
  | nil => contradiction
  | @cons source derivation sources derivations cut cuts =>
    have alone := compile_of_lexes (.ofConjunction (conjunctionOf derivation derivations))
      (lexes_joined cut cuts)
    refine ⟨_, _, each, together, alone, compiled, fun vars doc => ⟨?_, alike vars doc⟩⟩
    rw [matchesWith_single, Derivation.test, evaluate_conjunctionOf, matchesWith]

end Storefront.Predicate
