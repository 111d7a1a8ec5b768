import Storefront.Proofs.Filter.Completeness
import Storefront.Proofs.Filter.Soundness

/-!
How far parsing filters is exact. Tokens are read as a filter if and only if the grammar derives
them as that filter and the word `range` does not stand in them twice. The grammar puts several
lists of intervals next to each other as it puts several values, and the clause would join them, but
the first of them takes the comma behind it and refuses what follows.
-/
namespace Storefront.Filter

section Clause
variable {name mark : Token Kind} {pieces : List (Token Kind)} (path : name.kind = .path)
  (colon : mark.kind = .colon)

include path colon

/-- Behind a path and a colon, tokens are the filter that the clause reads from them. -/
theorem readTokens_of_yields {filter : Filter}
    (reads : Yields (clauseRule.read (.path name.text) mark pieces (subparser _)) (.clause filter) [])
    (fragment : String) : readTokens fragment (name :: mark :: pieces) = .ok filter := by
  have behind : Yields (grammar.extend 0 (.path name.text) (mark :: pieces)) (.clause filter) [] :=
    Grammar.yields_extend (colon.symm ▸ rfl) (by decide) reads
      (Grammar.yields_of_stops Grammar.stops_nil _)
  have parses : Yields (grammar.parse 0 (name :: mark :: pieces)) (.clause filter) [] :=
    Grammar.yields_parse (leading_eq path rfl) (yields_leaf rfl) behind
  obtain ⟨_, parses⟩ := parses
  simp only [readTokens, Grammar.parseAll, parses]
  rfl

theorem readTokens_of_error {e : Error}
    (fails : clauseRule.read (.path name.text) mark pieces (subparser _) = .error e)
    (fragment : String) : readTokens fragment (name :: mark :: pieces) = .error e := by
  have found : grammar.trailing mark.kind = some clauseRule := colon.symm ▸ rfl
  have behind : grammar.extend 0 (.path name.text) (mark :: pieces) = .error e := by
    rw [Grammar.extend_cons found (by decide), fails]
    rfl
  have parses : grammar.parse 0 (name :: mark :: pieces) = .error e := by
    rw [Grammar.parse_cons (leading_eq path rfl)]
    simp only [leaf, bind, Except.bind, behind]
    rfl
  rw [readTokens, Grammar.parseAll, parses]
  rfl

/-- The word `range` stands in a clause as often as its expressions are intervals. -/
theorem rangeWords_clause {expressions : List Expression}
    (spelt : Separated .comma Expression.Spelt expressions pieces) :
    rangeWords (name :: mark :: pieces) = expressions.countP Expression.isRanges := by
  rw [rangeWords_cons_of_ne (by simp [path]), rangeWords_cons_of_ne (by simp [colon])]
  exact rangeWords_separated (fun _ _ spelt => spelt.rangeWords_eq) spelt

end Clause

/-- Expressions of one category are intervals at most at the end, if they are so at most once. -/
theorem plain_of_lists {expressions : List Expression} {condition : Condition}
    (lists : Expression.Lists expressions condition)
    (once : expressions.countP Expression.isRanges ≤ 1) :
    ∀ expression ∈ expressions.dropLast, expression.isRanges = false := by
  intro expression mem
  cases lists with
  | values values =>
    obtain ⟨value, -, rfl⟩ := List.mem_map.1 (List.dropLast_subset _ mem)
    rfl
  | presence wanted =>
    obtain ⟨flag, -, rfl⟩ := List.mem_map.1 (List.dropLast_subset _ mem)
    rfl
  | ranges lists =>
    match lists, once with
    | [], _ => simp at mem
    | [_], _ => simp at mem
    | _ :: _ :: _, once => simp [List.countP_cons, Expression.isRanges] at once

/-- Expressions of one category that are intervals more than once are intervals at the front. -/
theorem ranges_of_lists {expressions : List Expression} {condition : Condition}
    (lists : Expression.Lists expressions condition)
    (twice : 1 < expressions.countP Expression.isRanges) :
    ∃ first second more, expressions = .ranges first :: .ranges second :: more := by
  cases lists with
  | values values => simp [List.countP_map, Function.comp_def, Expression.isRanges] at twice
  | presence wanted => simp [List.countP_map, Function.comp_def, Expression.isRanges] at twice
  | ranges lists =>
    rw [List.countP_map] at twice
    have long : 1 < lists.length := twice.trans_le List.countP_le_length
    obtain ⟨first, rest, rfl⟩ := List.exists_cons_of_length_pos (Nat.zero_lt_of_lt long)
    obtain ⟨second, more, rfl⟩ := List.exists_cons_of_length_pos (Nat.lt_of_succ_lt_succ long)
    exact ⟨first, second, _, rfl⟩

theorem front_of_ranges {intervals : List (Bound × Bound)} {more : List Expression}
    {pieces : List (Token Kind)}
    (separated : Separated .comma Expression.Spelt (.ranges intervals :: more) pieces) :
    ∃ word rest, pieces = word :: rest ∧ word.kind = .range := by
  cases separated with
  | one spelt =>
    cases spelt with
    | ranges kind _ => exact ⟨_, _, rfl, kind⟩
  | cons spelt =>
    cases spelt with
    | ranges kind _ => exact ⟨_, _, rfl, kind⟩

variable {tokens : List (Token Kind)} {filter : Filter}

theorem readTokens_of_derives (derives : Derives tokens filter) (once : ¬ RepeatsRange tokens)
    (fragment : String) : readTokens fragment tokens = .ok filter := by
  obtain ⟨path, colon, spelt, lists⟩ := derives
  rw [RepeatsRange, rangeWords_clause path colon spelt, Nat.not_lt] at once
  have items := yields_expressions spelt (plain_of_lists lists once) (Nat.le_refl _)
  refine readTokens_of_yields path colon (items.bind fun _ => ?_) fragment
  rw [conditionOf_lists lists (by cases spelt <;> simp)]
  exact ⟨_, rfl⟩

/-- A derivation that has `range` twice is refused at the second one. -/
theorem readTokens_of_repeated (derives : Derives tokens filter) (repeated : RepeatsRange tokens)
    (fragment : String) : ∃ word ∈ tokens, word.kind = .range ∧
      readTokens fragment tokens = .error (.badText .mixedItems word.text) := by
  obtain ⟨path, colon, spelt, lists⟩ := derives
  rw [RepeatsRange, rangeWords_clause path colon spelt] at repeated
  obtain ⟨first, second, more, rfl⟩ := ranges_of_lists lists repeated
  cases spelt with
  | @cons _ piece separator _ _ spelt comma separated =>
    obtain ⟨word, rest, rfl, kind⟩ := front_of_ranges separated
    have other : startsWith .lParen (word :: rest) = false := by simp [startsWith, kind]
    refine ⟨word, by simp, kind, readTokens_of_error path colon ?_ fragment⟩
    have refused : grammar.parse itemPower (piece ++ separator :: word :: rest) =
        .error (mixedAt (word :: rest)) := parse_ranges_refuses spelt comma other
    exact congrArg (· >>= _) (readList_error refused)

/-- What is read as a filter is derived as that filter, and what is not is at fault. -/
theorem ensures_readTokens (fragment : String) (tokens : List (Token Kind)) :
    Ensures (Derives tokens) (readTokens fragment tokens) := by
  have parsed := stands_inductive.ensures_parse 0 tokens
  rw [readTokens, Grammar.parseAll]
  cases reads : grammar.parse 0 tokens with
  | error e =>
    rw [reads] at parsed
    exact parsed
  | ok parsed' =>
    rw [reads] at parsed
    obtain ⟨node, rest, shorter⟩ := parsed'
    obtain ⟨consumed, split, stands, -⟩ := parsed
    cases rest with
    | nil =>
      obtain rfl : tokens = consumed := by simpa using split
      have stands : Stands node tokens := stands
      cases stands with
      | clause derives => exact derives
      | _ => exact ensures_badText
    | cons token rest => exact ensures_badText

theorem readTokens_eq_ok_iff {fragment : String} :
    readTokens fragment tokens = .ok filter ↔ Derives tokens filter ∧ ¬ RepeatsRange tokens := by
  constructor
  · intro reads
    have derives := ensures_readTokens fragment tokens
    rw [reads] at derives
    refine ⟨derives, fun repeated => ?_⟩
    obtain ⟨word, -, -, fails⟩ := readTokens_of_repeated derives repeated fragment
    rw [reads] at fails
    exact nomatch fails
  · rintro ⟨derives, once⟩
    exact readTokens_of_derives derives once fragment

theorem compile_eq_ok_iff {source : String} :
    compile source = .ok filter ↔
      ∃ tokens, lexicon.tokenize source = .ok tokens ∧ Derives tokens filter ∧
        ¬ RepeatsRange tokens := by
  rw [compile_eq]
  cases lexicon.tokenize source with
  | error e => exact ⟨nofun, fun ⟨_, found, _⟩ => nomatch found⟩
  | ok tokens =>
    change readTokens (fragment source.toList) tokens = .ok filter ↔ _
    rw [readTokens_eq_ok_iff]
    constructor
    · exact fun derives => ⟨tokens, rfl, derives⟩
    · rintro ⟨tokens', found, derives⟩
      cases found
      exact derives

theorem ensures_compile (source : String) : Ensures (fun _ => True) (compile source) := by
  rw [compile_eq]
  refine Ensures.bind (lexicon.ensures_tokensFrom 0 _) fun tokens _ => ?_
  exact (ensures_readTokens _ tokens).mono fun _ _ => trivial

/-- These tokens are read as the filters that the grammar derives them as, and not otherwise. -/
def ReadAsDerived (tokens : List (Token Kind)) : Prop :=
  ∀ fragment filter, readTokens fragment tokens = .ok filter ↔ Derives tokens filter

theorem readAsDerived_iff :
    ReadAsDerived tokens ↔ ¬ ((∃ filter, Derives tokens filter) ∧ RepeatsRange tokens) := by
  constructor
  · rintro accurate ⟨⟨filter, derives⟩, repeated⟩
    exact (readTokens_eq_ok_iff.1 ((accurate "" filter).2 derives)).2 repeated
  · intro once fragment filter
    rw [readTokens_eq_ok_iff]
    exact ⟨And.left, fun derives => ⟨derives, fun repeated => once ⟨⟨filter, derives⟩, repeated⟩⟩⟩

/-- The parser reads what the grammar derives, with the condition that lists what its expressions
say, except where the word `range` stands twice: there it refuses every derivation, at the second
one. Any tokens that it does not read are a fault of the text. -/
theorem derivation_read_unless_range_repeats (tokens : List (Token Kind))
    (fragment source : String) :
    (ReadAsDerived tokens ↔ ¬ ((∃ filter, Derives tokens filter) ∧ RepeatsRange tokens)) ∧
    (∀ filter, readTokens fragment tokens = .ok filter ↔
      Derives tokens filter ∧ ¬ RepeatsRange tokens) ∧
    (∀ filter, Derives tokens filter → RepeatsRange tokens →
      ∃ word ∈ tokens, word.kind = .range ∧
        readTokens fragment tokens = .error (.badText .mixedItems word.text)) ∧
    (∀ e, readTokens fragment tokens = .error e → ∃ fault piece, e = .badText fault piece) ∧
    (∀ filter, compile source = .ok filter ↔
      ∃ tokens, lexicon.tokenize source = .ok tokens ∧ Derives tokens filter ∧
        ¬ RepeatsRange tokens) ∧
    (∀ e, compile source = .error e → ∃ fault piece, e = .badText fault piece) := by
  refine ⟨readAsDerived_iff, ?_, ?_, ?_, ?_, ?_⟩
  · exact fun _ => readTokens_eq_ok_iff
  · exact fun _ derives repeated => readTokens_of_repeated derives repeated fragment
  · intro e failed
    have derives := ensures_readTokens fragment tokens
    rw [failed] at derives
    exact derives
  · exact fun _ => compile_eq_ok_iff
  · intro e failed
    have fault := ensures_compile source
    rw [failed] at fault
    exact fault

/-- Two lists of intervals that the grammar derives as one condition are refused. -/
theorem second_range_refused :
    let source := "n:range (0 TO 1), range (2 TO 3)"
    let tokens : List (Token Kind) :=
      [⟨.path, "n", 0⟩, ⟨.colon, ":", 1⟩,
       ⟨.range, "range", 2⟩, ⟨.lParen, "(", 8⟩, ⟨.number, "0", 9⟩, ⟨.to, "TO", 11⟩,
       ⟨.number, "1", 14⟩, ⟨.rParen, ")", 15⟩, ⟨.comma, ",", 16⟩,
       ⟨.range, "range", 18⟩, ⟨.lParen, "(", 24⟩, ⟨.number, "2", 25⟩, ⟨.to, "TO", 27⟩,
       ⟨.number, "3", 30⟩, ⟨.rParen, ")", 31⟩]
    let intervals : List (Bound × Bound) :=
      [(some (.ofInt 0), some (.ofInt 1)), (some (.ofInt 2), some (.ofInt 3))]
    lexicon.tokenize source = .ok tokens ∧
    Derives tokens ⟨"n", .ranges intervals⟩ ∧
    compile source = .error (.badText .mixedItems "range") := by
  intro source tokens intervals
  have range : ∀ (low high : String) (a b : Json) (h i j k l m : Nat),
      Literal.number low = .ok a → Literal.number high = .ok b →
      (Expression.ranges [(some a, some b)]).Spelt
        [⟨.range, "range", h⟩, ⟨.lParen, "(", i⟩, ⟨.number, low, j⟩, ⟨.to, "TO", k⟩,
         ⟨.number, high, l⟩, ⟨.rParen, ")", m⟩] :=
    fun _ _ _ _ _ _ _ _ _ _ low high =>
      .ranges rfl (.one (.between rfl (.number rfl low) rfl (.number rfl high) rfl))
  have first := range "0" "1" (.ofInt 0) (.ofInt 1) 2 8 9 11 14 15 rfl rfl
  have second := range "2" "3" (.ofInt 2) (.ofInt 3) 18 24 25 27 30 31 rfl rfl
  have comma : (Token.mk Kind.comma "," 16).kind = .comma := rfl
  refine ⟨?_, ?_, ?_⟩
  · change lexicon.tokenize "n:range (0 TO 1), range (2 TO 3)" = _
    with_unfolding_all rfl
  · exact .clause rfl rfl (.cons first comma (.one second)) (.ranges [[_], [_]])
  · change compile "n:range (0 TO 1), range (2 TO 3)" = _
    with_unfolding_all rfl

end Storefront.Filter
