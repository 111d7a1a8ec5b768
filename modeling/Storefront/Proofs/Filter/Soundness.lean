import Storefront.Proofs.Filter.Derivation
import Storefront.Proofs.Token.Numeral

/-!
What is read as a filter is what the grammar derives. At every point of the parser's loop the node
at hand was read from a path, from an expression or from a whole clause; every rule keeps this, and
each failure on the way is a fault of the text.
-/
namespace Storefront.Filter

/-! ### Intervals -/

theorem ensures_readBound (tokens : List (Token Kind)) :
    Ensures (fun bound => ∃ token, tokens = token :: bound.rest ∧ SpellsBound bound.value token)
      (readBound tokens) := by
  cases tokens with
  | nil => exact ensures_badText
  | cons token rest =>
    simp only [readBound]
    split
    · next kind => exact ⟨token, rfl, .unbounded kind⟩
    · next kind =>
      have bound : Ensures (SpellsBound · token) ((Literal.number token.text).map some) :=
        (Literal.ensures_number token.text).map fun _ converts => .number kind converts
      exact bound.bind fun _ spelt => ⟨token, rfl, spelt⟩
    · next kind => exact ⟨token, rfl, .text kind⟩
    · exact ensures_badText

theorem ensures_readInterval (tokens : List (Token Kind)) :
    Ensures (fun interval => ∃ piece, tokens = piece ++ interval.rest ∧
        SpellsInterval interval.value piece)
      (readInterval tokens) := by
  refine (ensures_expect .lParen tokens).bind ?_
  rintro opening ⟨fromOpening, opens⟩
  refine (ensures_readBound opening.rest).bind ?_
  rintro low ⟨first, fromLow, lower⟩
  refine (ensures_expect .to low.rest).bind ?_
  rintro word ⟨fromWord, goesOn⟩
  refine (ensures_readBound word.rest).bind ?_
  rintro high ⟨last, fromHigh, upper⟩
  refine (ensures_expect .rParen high.rest).bind ?_
  rintro closing ⟨fromClosing, closes⟩
  exact ⟨_, by simp [fromOpening, fromLow, fromWord, fromHigh, fromClosing],
    .between opens lower goesOn upper closes⟩

theorem ensures_readIntervals (tokens : List (Token Kind)) :
    Ensures (fun intervals => ∃ pieces, tokens = pieces ++ intervals.rest ∧
        Separated .comma SpellsInterval intervals.value pieces)
      (readIntervals tokens) := by
  have first := ensures_readInterval tokens
  rw [readIntervals]
  cases read : readInterval tokens with
  | error e =>
    rw [read] at first
    exact first
  | ok parsed =>
    rw [read] at first
    obtain ⟨interval, rest, shorter⟩ := parsed
    obtain ⟨piece, split, spelt⟩ := first
    dsimp only at split spelt ⊢
    cases rest with
    | nil => exact ⟨piece, split, .one spelt⟩
    | cons next rest =>
      dsimp only
      split
      · next comma =>
        split
        · have within : rest.length + 1 < tokens.length := shorter
          have further := ensures_readIntervals rest
          cases readMore : readIntervals rest with
          | error e =>
            rw [readMore] at further
            exact further
          | ok more =>
            rw [readMore] at further
            obtain ⟨pieces, split', separated⟩ := further
            exact ⟨piece ++ next :: pieces, by simp [split, split'], .cons spelt comma separated⟩
        · exact ensures_badText
      · exact ⟨piece, split, .one spelt⟩
termination_by tokens.length

/-! ### Nodes -/

/-- What a node was read from. -/
inductive Stands : Node → List (Token Kind) → Prop
  | path {token : Token Kind} (kind : token.kind = .path) : Stands (.path token.text) [token]
  | value {found : Json} {piece : List (Token Kind)} (spelt : (Expression.value found).Spelt piece) :
      Stands (.value found) piece
  | presence {wanted : Bool} {piece : List (Token Kind)}
      (spelt : (Expression.presence wanted).Spelt piece) : Stands (.presence wanted) piece
  | ranges {intervals : List (Bound × Bound)} {piece : List (Token Kind)}
      (spelt : (Expression.ranges intervals).Spelt piece) : Stands (.ranges intervals) piece
  | clause {filter : Filter} {tokens : List (Token Kind)} (derives : Derives tokens filter) :
      Stands (.clause filter) tokens

/-- The node that was read, whatever the threshold and whatever follows. -/
def StandsAt (_threshold : Nat) (node : Node) (consumed _rest : List (Token Kind)) : Prop :=
  Stands node consumed

section Conditions
variable {α : Type}

theorem ensures_collect (path : String) (pick : Node → Option α) (wrap : α → Node)
    (picks : ∀ node found, pick node = some found → node = wrap found) (items : List Node) :
    Ensures (fun found => items = found.map wrap) (collect path pick items) := by
  have wrapped : ∀ (items : List Node) (found : List α), items.mapM pick = some found →
      items = found.map wrap := by
    intro items
    induction items with
    | nil =>
      intro found picked
      cases picked
      rfl
    | cons node items ih =>
      intro found picked
      rw [List.mapM_cons] at picked
      obtain ⟨first, isFirst, picked⟩ := Option.bind_eq_some_iff.1 picked
      obtain ⟨more, isMore, picked⟩ := Option.bind_eq_some_iff.1 picked
      cases picked
      rw [picks node first isFirst, ih more isMore, List.map_cons]
  rw [collect]
  split
  · next found picked => exact wrapped items found picked
  · exact ensures_badText

/-- Pieces that are read as nodes of one category are expressions of that category. -/
theorem separated_expressions {wrap : α → Node} {expression : α → Expression}
    (spells : ∀ found piece, Stands (wrap found) piece → (expression found).Spelt piece)
    {items : List Node} {pieces : List (Token Kind)} (separated : Separated .comma Stands items pieces)
    {found : List α} (wrapped : items = found.map wrap) :
    Separated .comma Expression.Spelt (found.map expression) pieces := by
  induction separated generalizing found with
  | one stands =>
    obtain ⟨first, rfl, rfl⟩ := List.map_eq_singleton_iff.1 wrapped.symm
    exact .one (spells first _ stands)
  | cons stands same _ ih =>
    obtain ⟨first, more, rfl, rfl, rfl⟩ := List.map_eq_cons_iff.1 wrapped.symm
    exact .cons (spells first _ stands) same (ih rfl)

/-- Items that are all of one category are expressions of it, which the condition lists. -/
theorem ensures_category (path : String) (pick : Node → Option α) (wrap : α → Node)
    (expression : α → Expression) (condition : List α → Condition)
    (picks : ∀ node found, pick node = some found → node = wrap found)
    (spells : ∀ found piece, Stands (wrap found) piece → (expression found).Spelt piece)
    (lists : ∀ found, Expression.Lists (found.map expression) (condition found))
    {items : List Node} {pieces : List (Token Kind)}
    (separated : Separated .comma Stands items pieces) :
    Ensures (fun condition => ∃ expressions,
        Separated .comma Expression.Spelt expressions pieces ∧
        Expression.Lists expressions condition)
      ((collect path pick items).map condition) := by
  refine (ensures_collect path pick wrap picks items).map ?_
  intro found wrapped
  exact ⟨_, separated_expressions spells separated wrapped, lists found⟩

theorem ensures_conditionOf (path : String) {items : List Node} {pieces : List (Token Kind)}
    (separated : Separated .comma Stands items pieces) :
    Ensures (fun condition => ∃ expressions,
        Separated .comma Expression.Spelt expressions pieces ∧
        Expression.Lists expressions condition)
      (conditionOf path items) := by
  rw [conditionOf.eq_def]
  split
  · refine ensures_category path Node.value? .value .value .values ?_ ?_ .values separated
    · intro node found picked
      cases node <;> simp_all [Node.value?]
    · rintro found piece ⟨⟩
      assumption
  · refine ensures_category path Node.presence? .presence .presence .presence ?_ ?_ .presence
      separated
    · intro node found picked
      cases node <;> simp_all [Node.presence?]
    · rintro found piece ⟨⟩
      assumption
  · refine ensures_category path Node.ranges? .ranges .ranges (fun lists => .ranges lists.flatten)
      ?_ ?_ .ranges separated
    · intro node found picked
      cases node <;> simp_all [Node.ranges?]
    · rintro found piece ⟨⟩
      assumption
  · exact ensures_badText

end Conditions

section Rules
variable {threshold : Nat} {token : Token Kind} {rest : List (Token Kind)}

theorem ensures_leaf {parse : Subparser Kind Node rest.length}
    {node : Token Kind → Except Error Node}
    (stands : Ensures (fun found => Stands found [token]) (node token)) :
    Ensures (Grammar.Splits (StandsAt threshold) (token :: rest)) (leaf node token rest parse) :=
  stands.bind fun _ found => ⟨[token], rfl, found⟩

theorem ensures_readRanges (parse : Subparser Kind Node rest.length) (kind : token.kind = .range) :
    Ensures (Grammar.Splits (StandsAt threshold) (token :: rest)) (readRanges token rest parse) := by
  refine (ensures_readIntervals rest).bind ?_
  rintro intervals ⟨pieces, split, separated⟩
  exact ⟨token :: pieces, congrArg (token :: ·) split, .ranges (.ranges kind separated)⟩

theorem ensures_clauseRule {parse : Subparser Kind Node rest.length}
    (keeps : grammar.Keeps StandsAt parse) (kind : token.kind = .colon) {left : Node}
    {consumed : List (Token Kind)} (stands : Stands left consumed) :
    Ensures (Grammar.Splits (fun node more => StandsAt threshold node (consumed ++ more))
      (token :: rest)) (clauseRule.read left token rest parse) := by
  cases stands with
  | path isPath =>
    have item : ∀ tokens le, Ensures
        (fun parsed => ∃ piece, tokens = piece ++ parsed.rest ∧
          Ensures (fun node => Stands node piece) (.ok parsed.value))
        (parse itemPower tokens le) := by
      intro tokens le
      refine (keeps itemPower tokens le).mono ?_
      rintro parsed ⟨piece, split, stands, -⟩
      exact ⟨piece, split, stands⟩
    refine (ensures_readList item rest (Nat.le_refl _)).bind ?_
    rintro items ⟨pieces, split, separated⟩
    refine (ensures_conditionOf _ separated).bind ?_
    rintro condition ⟨expressions, spelt, lists⟩
    exact ⟨token :: pieces, congrArg (token :: ·) split,
      .clause (.clause isPath kind spelt lists)⟩
  | _ => exact ensures_badText

end Rules

/-- Every rule of the grammar keeps what a node was read from. -/
theorem stands_inductive : grammar.Inductive StandsAt where
  leads := by
    intro threshold token rest rule found parse _
    cases kind : token.kind <;> rw [kind] at found
    case path =>
      cases found
      exact ensures_leaf (.path kind)
    case str =>
      cases found
      exact ensures_leaf (.value (.text kind))
    case number =>
      cases found
      exact ensures_leaf ((Literal.ensures_number token.text).map fun _ converts =>
        .value (.number kind converts))
    case yes =>
      cases found
      exact ensures_leaf (.value (.yes kind))
    case no =>
      cases found
      exact ensures_leaf (.value (.no kind))
    case exist =>
      cases found
      exact ensures_leaf (.presence (.exist kind))
    case missing =>
      cases found
      exact ensures_leaf (.presence (.missing kind))
    case range =>
      cases found
      exact ensures_readRanges parse kind
    all_goals cases found
  trails := by
    intro threshold left consumed token rest rule found _ stands parse keeps
    cases kind : token.kind <;> rw [kind] at found
    case colon =>
      cases found
      exact ensures_clauseRule keeps kind stands
    all_goals cases found

end Storefront.Filter
