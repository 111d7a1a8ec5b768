import Storefront.Proofs.Predicate.Unambiguity

/-!
What the grammar derives is parsed. The tokens of a derivation are read as its test, whatever stands
behind them, as long as that does not go on with it: a phrase is read up to its own threshold and
the loop around it goes on behind it with what it was to do anyway.
-/
namespace Storefront.Predicate

/-- The parser as its rules call it. -/
abbrev subparser (bound : Nat) : Subparser Kind Node bound :=
  fun threshold tokens _ => grammar.parse threshold tokens

section Words
variable {kind : Kind} {threshold : Nat} {behind middle rest : List (Token Kind)}
  {first left next node : Node}

theorem yields_parse_word (word : Word kind) {rule : LeadingRule Kind Node}
    (found : leading kind = some rule)
    (leads : Yields (rule word.val behind (subparser _)) first middle)
    (goesOn : Yields (grammar.extend threshold first middle) node rest) :
    Yields (grammar.parse threshold (word.val :: behind)) node rest := by
  have found' : grammar.leading word.val.kind = some rule := word.property.symm ▸ found
  exact Grammar.yields_parse found' leads goesOn

theorem yields_extend_word (word : Word kind) {rule : TrailingRule Kind Node}
    (found : trailing kind = some rule) (above : threshold < rule.power)
    (trails : Yields (rule.read left word.val behind (subparser _)) next middle)
    (goesOn : Yields (grammar.extend threshold next middle) node rest) :
    Yields (grammar.extend threshold left (word.val :: behind)) node rest := by
  have found' : grammar.trailing word.val.kind = some rule := word.property.symm ▸ found
  exact Grammar.yields_extend found' above trails goesOn

end Words

section Terms
variable {threshold : Nat} {rest : List (Token Kind)}

theorem yields_term (term : Term) (stops : grammar.Stops threshold rest) :
    Yields (grammar.parse threshold (term.token :: rest)) (.operand term.operand) rest := by
  have ends : Yields (grammar.extend threshold (.operand term.operand) rest)
      (.operand term.operand) rest := Grammar.yields_of_stops stops _
  cases term with
  | text word => exact yields_parse_word word rfl ⟨Nat.lt_succ_self _, rfl⟩ ends
  | number word value converts =>
    refine yields_parse_word word rfl ⟨Nat.lt_succ_self _, ?_⟩ ends
    simp [leaf, converts, Except.map, bind, Except.bind, literal, Term.operand]
  | yes word => exact yields_parse_word word rfl ⟨Nat.lt_succ_self _, rfl⟩ ends
  | no word => exact yields_parse_word word rfl ⟨Nat.lt_succ_self _, rfl⟩ ends
  | parameter word => exact yields_parse_word word rfl ⟨Nat.lt_succ_self _, rfl⟩ ends

theorem power_le_operandPower (kind : Kind) : grammar.power kind ≤ operandPower := by
  cases kind <;> decide

theorem stops_operandPower (tokens : List (Token Kind)) : grammar.Stops operandPower tokens :=
  fun token _ => power_le_operandPower token.kind

theorem yields_terms (fragment : String) (first : Term) (more : List (Word .comma × Term))
    (closing : Word .rParen) (rest : List (Token Kind)) {bound : Nat}
    (le : (first.token :: (furtherTokens more ++ closing.val :: rest)).length ≤ bound) :
    Yields (readList .comma operandPower (Node.toOperand fragment) bound (subparser bound)
      (first.token :: (furtherTokens more ++ closing.val :: rest)) le)
      (first.operand :: more.map (·.2.operand)) (closing.val :: rest) := by
  induction more generalizing first with
  | nil =>
    refine yields_readList_one (yields_term first (stops_operandPower _)) rfl ?_
    simp [startsWith, closing.property]
  | cons item more ih =>
    exact yields_readList_cons (yields_term first (stops_operandPower _)) rfl item.1.property
      fun within => ih item.2 within

theorem yields_readOperandList (terms : TermList) (rest : List (Token Kind)) :
    Yields (readOperandList (terms.tokens ++ rest) (subparser _)) terms.operands rest := by
  cases terms with
  | parameter word =>
    refine ⟨Nat.lt_succ_self _, ?_⟩
    simp [readOperandList, TermList.tokens, word.property, TermList.operands, TermList.terms,
      Term.operand]
  | listed opening first more closing =>
    have tokens : (TermList.listed opening first more closing).tokens ++ rest =
        opening.val :: first.token :: (furtherTokens more ++ closing.val :: rest) := by
      simp [TermList.tokens]
    have operands : (TermList.listed opening first more closing).operands =
        first.operand :: more.map (·.2.operand) := by
      simp [TermList.operands, TermList.terms]
    have other : opening.val.kind ≠ .parameter := by simp [opening.property]
    rw [tokens, operands]
    simp only [readOperandList, other, if_false]
    exact (yields_expect opening.property _).bind fun _ =>
      (yields_terms opening.val.text first more closing rest _).bind fun _ =>
        (yields_expect closing.property rest).bind fun _ => ⟨_, rfl⟩

end Terms

section Conditions
variable {threshold : Nat} {rest : List (Token Kind)} {node : Node} {last : List (Token Kind)}

theorem trailing_ofRelation (relation : Relation) :
    trailing (.ofRelation relation) = some (comparisonRule relation) := by
  cases relation <;> rfl

theorem yields_readCheck (field fragment : String) (negated : Bool) (check : Check)
    (checked : Word (.ofCheck check)) (rest : List (Token Kind)) :
    Yields (readCheck field fragment negated (checked.val :: rest))
      (.test (.examination field negated check)) rest := by
  refine ⟨Nat.lt_succ_self _, ?_⟩
  cases check <;> simp [readCheck, checked.property, Kind.ofCheck]

theorem yields_readExamination (field fragment : String) (negation : Option (Word .not))
    (check : Check) (checked : Word (.ofCheck check)) (rest : List (Token Kind)) :
    Yields (readExamination field fragment (negationTokens negation ++ checked.val :: rest))
      (.test (.examination field negation.isSome check)) rest := by
  obtain ⟨shorter, reads⟩ := yields_readCheck field fragment negation.isSome check checked rest
  cases negation with
  | none =>
    have other : checked.val.kind ≠ .not := by
      rw [checked.property]
      cases check <;> decide
    exact ⟨shorter, (if_neg other).trans reads⟩
  | some negation =>
    exact ⟨Nat.lt_succ_of_lt shorter,
      (if_pos negation.property).trans (congrArg (Except.map _) reads)⟩

/-- A field is extended by the condition behind it. -/
theorem yields_condition (field : String) (condition : Condition)
    (below : threshold < comparisonPower) (follows : Follows .unary rest)
    (goesOn : Yields (grammar.extend threshold (.test (condition.test field)) rest) node last) :
    Yields (grammar.extend threshold (.field field) (condition.tokens ++ rest)) node last := by
  cases condition with
  | comparison relation sign term =>
    have operand : Yields (grammar.parse comparisonPower (term.token :: rest))
        (.operand term.operand) rest := yields_term term (follows.mono (by decide))
    exact yields_extend_word sign (trailing_ofRelation relation) below
      (operand.bind fun _ => ⟨_, rfl⟩) goesOn
  | membership negation word terms =>
    have operands := yields_readOperandList terms rest
    cases negation with
    | none => exact yields_extend_word word rfl below (operands.bind fun _ => ⟨_, rfl⟩) goesOn
    | some negation =>
      exact yields_extend_word negation rfl below
        ((yields_expect word.property _).bind fun _ => operands.bind fun _ => ⟨_, rfl⟩) goesOn
  | examination word negation check checked =>
    have reads := yields_readExamination field word.val.text negation check checked rest
    have tokens : (Condition.examination word negation check checked).tokens ++ rest =
        word.val :: (negationTokens negation ++ checked.val :: rest) := by
      simp [Condition.tokens]
    rw [tokens]
    exact yields_extend_word word rfl below (reads.bind fun _ => ⟨_, rfl⟩) goesOn
  | containment word quantifier quantified terms =>
    have operands := yields_readOperandList terms rest
    have quantifies : Yields
        (readQuantifier word.val.text (quantified.val :: (terms.tokens ++ rest)))
        quantifier (terms.tokens ++ rest) := by
      refine ⟨Nat.lt_succ_self _, ?_⟩
      cases quantifier <;> simp [readQuantifier, quantified.property, Kind.ofQuantifier]
    exact yields_extend_word word rfl below
      (quantifies.bind fun _ => operands.bind fun _ => ⟨_, rfl⟩) goesOn

end Conditions

theorem stops_closing (closing : Word .rParen) (rest : List (Token Kind)) :
    grammar.Stops 0 (closing.val :: rest) := by
  rw [Grammar.stops_cons, closing.property]
  decide

/-- A test is extended by a connective and the test behind it. -/
theorem yields_connective {kind : Kind} {power threshold : Nat} {join : Test → Test → Test}
    {left right : Test} {behind rest last : List (Token Kind)} {node : Node} (word : Word kind)
    (found : trailing kind = some (connective power join)) (above : threshold < power)
    (reads : Yields (grammar.parse (power - 1) behind) (.test right) rest)
    (goesOn : Yields (grammar.extend threshold (.test (join left right)) rest) node last) :
    Yields (grammar.extend threshold (.test left) (word.val :: behind)) node last :=
  yields_extend_word word found above (reads.bind fun _ => ⟨_, rfl⟩) goesOn

/-- The tokens of a derivation are read as its test, and reading goes on behind them. -/
theorem yields_derivation {phrase : Phrase} (derivation : Derivation phrase) {threshold : Nat}
    {rest last : List (Token Kind)} {node : Node} (below : threshold ≤ phrase.threshold)
    (follows : Follows phrase rest)
    (goesOn : Yields (grammar.extend threshold (.test derivation.test) rest) node last) :
    Yields (grammar.parse threshold (derivation.tokens ++ rest)) node last := by
  -- Each operand is read at its own threshold, where what follows it stops it; the loop at the
  -- threshold of the whole phrase then takes the connective.
  induction derivation generalizing threshold rest node last with
  | ofConjunction inner ih =>
    exact ih (Nat.le_trans below (by decide)) (follows.mono (by decide)) goesOn
  | ofUnary inner ih =>
    exact ih (Nat.le_trans below (by decide)) (follows.mono (by decide)) goesOn
  | ofPrimary inner ih => exact ih below follows goesOn
  | disjunction left word right ihLeft ihRight =>
    have tokens : (Derivation.disjunction left word right).tokens ++ rest =
        left.tokens ++ word.val :: (right.tokens ++ rest) := by
      simp [Derivation.tokens]
    have reads : Yields (grammar.parse (orPower - 1) (right.tokens ++ rest)) (.test right.test)
        rest := ihRight (Nat.le_refl _) follows (Grammar.yields_of_stops follows _)
    have joins : Yields (grammar.extend threshold (.test left.test)
        (word.val :: (right.tokens ++ rest))) node last :=
      yields_connective word rfl (Nat.lt_of_le_of_lt below (by decide)) reads goesOn
    rw [tokens]
    exact ihLeft (Nat.le_trans below (by decide)) ((follows_cons word _).2 (by decide)) joins
  | conjunction left word right ihLeft ihRight =>
    have tokens : (Derivation.conjunction left word right).tokens ++ rest =
        left.tokens ++ word.val :: (right.tokens ++ rest) := by
      simp [Derivation.tokens]
    have reads : Yields (grammar.parse (andPower - 1) (right.tokens ++ rest)) (.test right.test)
        rest := ihRight (Nat.le_refl _) follows (Grammar.yields_of_stops follows _)
    have joins : Yields (grammar.extend threshold (.test left.test)
        (word.val :: (right.tokens ++ rest))) node last :=
      yields_connective word rfl (Nat.lt_of_le_of_lt below (by decide)) reads goesOn
    rw [tokens]
    exact ihLeft (Nat.le_trans below (by decide)) ((follows_cons word _).2 (by decide)) joins
  | negation word inner ih =>
    have reads : Yields (grammar.parse notPower (inner.tokens ++ rest)) (.test inner.test) rest :=
      ih (Nat.le_refl _) follows (Grammar.yields_of_stops follows _)
    exact yields_parse_word word rfl (reads.bind fun _ => ⟨_, rfl⟩) goesOn
  | group opening inner closing ih =>
    have tokens : (Derivation.group opening inner closing).tokens ++ rest =
        opening.val :: (inner.tokens ++ closing.val :: rest) := by
      simp [Derivation.tokens]
    have inside : Yields (grammar.parse 0 (inner.tokens ++ closing.val :: rest))
        (.test inner.test) (closing.val :: rest) :=
      ih (Nat.zero_le _) ((follows_cons closing rest).2 (by decide))
        (Grammar.yields_of_stops (stops_closing closing rest) _)
    rw [tokens]
    exact yields_parse_word opening rfl
      (inside.bind fun _ => (yields_expect closing.property rest).bind fun _ => ⟨_, rfl⟩) goesOn
  | condition field behind =>
    exact yields_parse_word field rfl ⟨Nat.lt_succ_self _, rfl⟩
      (yields_condition field.val.text behind (Nat.lt_of_le_of_lt below (by decide)) follows goesOn)
  | descent field opening inner closing ih =>
    have tokens : (Derivation.descent field opening inner closing).tokens ++ rest =
        field.val :: opening.val :: (inner.tokens ++ closing.val :: rest) := by
      simp [Derivation.tokens]
    have inside : Yields (grammar.parse 0 (inner.tokens ++ closing.val :: rest))
        (.test inner.test) (closing.val :: rest) :=
      ih (Nat.zero_le _) ((follows_cons closing rest).2 (by decide))
        (Grammar.yields_of_stops (stops_closing closing rest) _)
    have descends : Yields (grammar.extend threshold (.field field.val.text)
        (opening.val :: (inner.tokens ++ closing.val :: rest))) node last :=
      yields_extend_word opening rfl (Nat.lt_of_le_of_lt below (by decide))
        (inside.bind fun _ => (yields_expect closing.property rest).bind fun _ => ⟨_, rfl⟩) goesOn
    rw [tokens]
    exact yields_parse_word field rfl ⟨Nat.lt_succ_self _, rfl⟩ descends

end Storefront.Predicate
