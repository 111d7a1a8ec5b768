import Storefront.Grammar

/-!
Reading expressions, as two rules of proof. What leading and trailing rules keep true of the node
that was read and of the tokens on both sides of it is true of every whole expression, and whatever
is not read is a fault of the text. In the other direction, an expression is read by finding what
its first token leads and then what each token behind it adds.
-/
namespace Storefront

/-- The property holds of the result, and there is none only if the text is at fault. -/
def Ensures {α : Type} (property : α → Prop) : Except Error α → Prop
  | .ok value => property value
  | .error e => ∃ fault fragment, e = .badText fault fragment

section Ensures
variable {α β : Type} {P : α → Prop} {Q : β → Prop}

theorem ensures_badText {fault : TextFault} {fragment : String} :
    Ensures P (.error (.badText fault fragment)) :=
  ⟨fault, fragment, rfl⟩

theorem Ensures.bind {first : Except Error α} {next : α → Except Error β} (before : Ensures P first)
    (after : ∀ value, P value → Ensures Q (next value)) : Ensures Q (first >>= next) := by
  cases first with
  | error e => exact before
  | ok value => exact after value before

theorem Ensures.map {first : Except Error α} {f : α → β} (before : Ensures P first)
    (after : ∀ value, P value → Q (f value)) : Ensures Q (first.map f) := by
  cases first with
  | error e => exact before
  | ok value => exact after value before

theorem Ensures.mono {P' : α → Prop} {result : Except Error α} (holds : Ensures P result)
    (implies : ∀ value, P value → P' value) : Ensures P' result := by
  cases result with
  | error e => exact holds
  | ok value => exact implies value holds

end Ensures

/-- A reading ends with a value in front of a rest. -/
def Yields {κ α : Type} {bound : Nat} (reading : Except Error (Parsed κ α bound)) (value : α)
    (rest : List (Token κ)) : Prop :=
  ∃ shorter, reading = .ok ⟨value, rest, shorter⟩

/-- A reading goes on behind what it began with. -/
theorem Yields.bind {κ α β : Type} {bound bound' : Nat}
    {reading : Except Error (Parsed κ α bound)}
    {goOn : Parsed κ α bound → Except Error (Parsed κ β bound')} {first : α} {value : β}
    {middle rest : List (Token κ)} (begins : Yields reading first middle)
    (goesOn : ∀ shorter, Yields (goOn ⟨first, middle, shorter⟩) value rest) :
    Yields (reading >>= goOn) value rest := by
  obtain ⟨shorter, begins⟩ := begins
  rw [begins]
  exact goesOn shorter

theorem ensures_expect {κ : Type} [DecidableEq κ] [TokenKind κ] (kind : κ)
    (tokens : List (Token κ)) :
    Ensures (fun found => tokens = found.value :: found.rest ∧ found.value.kind = kind)
      (expect kind tokens) := by
  cases tokens with
  | nil => exact ensures_badText
  | cons token rest =>
    simp only [expect]
    split
    · next same => exact ⟨rfl, same⟩
    · exact ensures_badText

theorem yields_expect {κ : Type} [DecidableEq κ] [TokenKind κ] {kind : κ} {token : Token κ}
    (same : token.kind = kind) (rest : List (Token κ)) :
    Yields (expect kind (token :: rest)) token rest :=
  ⟨Nat.lt_succ_self _, if_pos same⟩

section Lists
variable {κ α β : Type} [DecidableEq κ] {comma : κ} {threshold : Nat} {convert : α → Except Error β}
  {bound : Nat} {parse : Subparser κ α bound}

/-- Tokens that spell values one after another, with a comma between two of them. -/
inductive Separated (comma : κ) (spells : β → List (Token κ) → Prop) :
    List β → List (Token κ) → Prop
  | one {value : β} {piece : List (Token κ)} (spelt : spells value piece) :
      Separated comma spells [value] piece
  | cons {value : β} {piece : List (Token κ)} {separator : Token κ} {values : List β}
      {pieces : List (Token κ)} (spelt : spells value piece) (same : separator.kind = comma)
      (more : Separated comma spells values pieces) :
      Separated comma spells (value :: values) (piece ++ separator :: pieces)

omit [DecidableEq κ] in
/-- What is spelt has a property, if all that can be spelt has it. -/
theorem Separated.forall_mem {spells : β → List (Token κ) → Prop} {P : β → Prop}
    (holds : ∀ value piece, spells value piece → P value) {values : List β}
    {pieces : List (Token κ)} (separated : Separated comma spells values pieces) :
    ∀ value ∈ values, P value := by
  induction separated with
  | one spelt => exact List.forall_mem_singleton.2 (holds _ _ spelt)
  | cons spelt _ _ ih => exact List.forall_mem_cons.2 ⟨holds _ _ spelt, ih⟩

theorem yields_readList_one {tokens rest : List (Token κ)} {le : tokens.length ≤ bound} {node : α}
    {value : β} (first : Yields (parse threshold tokens le) node rest)
    (converts : convert node = .ok value) (ends : startsWith comma rest = false) :
    Yields (readList comma threshold convert bound parse tokens le) [value] rest := by
  obtain ⟨shorter, first⟩ := first
  refine ⟨shorter, ?_⟩
  rw [readList]
  simp only [first, converts]
  cases rest with
  | nil => rfl
  | cons next rest =>
    have other : next.kind ≠ comma := of_decide_eq_false ends
    simp only [other, if_false]

theorem yields_readList_cons {tokens rest last : List (Token κ)} {le : tokens.length ≤ bound}
    {node : α} {value : β} {values : List β} {separator : Token κ}
    (first : Yields (parse threshold tokens le) node (separator :: rest))
    (converts : convert node = .ok value) (same : separator.kind = comma)
    (more : ∀ le, Yields (readList comma threshold convert bound parse rest le) values last) :
    Yields (readList comma threshold convert bound parse tokens le) (value :: values) last := by
  obtain ⟨shorter, first⟩ := first
  rw [List.length_cons] at shorter
  obtain ⟨shorter', more⟩ := more (by omega)
  refine ⟨by omega, ?_⟩
  rw [readList]
  simp only [first, converts, same, if_true, more]

/-- A list has no result where its first item has none. -/
theorem readList_error {tokens : List (Token κ)} {le : tokens.length ≤ bound} {e : Error}
    (fails : parse threshold tokens le = .error e) :
    readList comma threshold convert bound parse tokens le = .error e := by
  rw [readList]
  simp only [fails]

/-- A list is read from tokens that spell its values, if its items are. -/
theorem ensures_readList {spells : β → List (Token κ) → Prop}
    (item : ∀ tokens le, Ensures
      (fun parsed => ∃ piece, tokens = piece ++ parsed.rest ∧
        Ensures (fun value => spells value piece) (convert parsed.value))
      (parse threshold tokens le))
    (tokens : List (Token κ)) (le : tokens.length ≤ bound) :
    Ensures (fun parsed => ∃ pieces, tokens = pieces ++ parsed.rest ∧
        Separated comma spells parsed.value pieces)
      (readList comma threshold convert bound parse tokens le) := by
  have first := item tokens le
  rw [readList]
  cases read : parse threshold tokens le with
  | error e =>
    rw [read] at first
    exact first
  | ok parsed =>
    rw [read] at first
    obtain ⟨node, rest, shorter⟩ := parsed
    obtain ⟨piece, split, converted⟩ := first
    dsimp only at split converted ⊢
    cases spelt : convert node with
    | error e =>
      rw [spelt] at converted
      exact converted
    | ok value =>
      rw [spelt] at converted
      cases rest with
      | nil => exact ⟨piece, split, .one converted⟩
      | cons next rest =>
        dsimp only
        split
        · next same =>
          have within : rest.length + 1 < tokens.length := shorter
          have further := ensures_readList item rest (by omega)
          cases readMore : readList comma threshold convert bound parse rest (by omega) with
          | error e =>
            rw [readMore] at further
            exact further
          | ok more =>
            rw [readMore] at further
            obtain ⟨pieces, split', separated⟩ := further
            exact ⟨piece ++ next :: pieces, by simp [split, split'],
              .cons converted same separated⟩
        · exact ⟨piece, split, .one converted⟩
termination_by tokens.length

end Lists

namespace Grammar
variable {κ α : Type} {grammar : Grammar κ α}

/-- An expression that is read at a threshold may end before these tokens. -/
def Stops (grammar : Grammar κ α) (threshold : Nat) (tokens : List (Token κ)) : Prop :=
  ∀ token ∈ tokens.head?, grammar.power token.kind ≤ threshold

@[simp]
theorem stops_nil {threshold : Nat} : grammar.Stops threshold [] :=
  nofun

@[simp]
theorem stops_cons {threshold : Nat} {token : Token κ} {rest : List (Token κ)} :
    grammar.Stops threshold (token :: rest) ↔ grammar.power token.kind ≤ threshold := by
  simp [Stops]

theorem Stops.mono {low high : Nat} {tokens : List (Token κ)} (stops : grammar.Stops low tokens)
    (le : low ≤ high) : grammar.Stops high tokens :=
  fun token mem => Nat.le_trans (stops token mem) le

theorem power_eq {kind : κ} {rule : TrailingRule κ α} (found : grammar.trailing kind = some rule) :
    grammar.power kind = rule.power := by
  simp only [power, found]

/-- Reading goes on with what the first token leads. -/
theorem parse_cons {threshold : Nat} {token : Token κ} {rest : List (Token κ)}
    {rule : LeadingRule κ α} (found : grammar.leading token.kind = some rule) :
    grammar.parse threshold (token :: rest) =
      (rule token rest fun inner tokens _ => grammar.parse inner tokens) >>= fun first =>
        (grammar.extend threshold first.value first.rest).map (·.weaken first.shorter) := by
  rw [parse]
  simp only [found]
  cases rule token rest fun inner tokens _ => grammar.parse inner tokens with
  | error e => rfl
  | ok first =>
    change _ = Except.map _ (grammar.extend threshold first.value first.rest)
    dsimp only
    cases grammar.extend threshold first.value first.rest <;> rfl

/-- Reading goes on with what a token above the threshold adds. -/
theorem extend_cons {threshold : Nat} {left : α} {token : Token κ} {rest : List (Token κ)}
    {rule : TrailingRule κ α} (found : grammar.trailing token.kind = some rule)
    (above : threshold < rule.power) :
    grammar.extend threshold left (token :: rest) =
      (rule.read left token rest fun inner tokens _ => grammar.parse inner tokens) >>= fun next =>
        (grammar.extend threshold next.value next.rest).map
          (·.weaken (Nat.le_succ_of_le next.shorter)) := by
  rw [extend]
  simp only [found, Nat.not_le.2 above, if_false]
  cases rule.read left token rest fun inner tokens _ => grammar.parse inner tokens with
  | error e => rfl
  | ok next =>
    change _ = Except.map _ (grammar.extend threshold next.value next.rest)
    dsimp only
    cases grammar.extend threshold next.value next.rest <;> rfl

theorem extend_of_stops {threshold : Nat} {tokens : List (Token κ)}
    (stops : grammar.Stops threshold tokens) (left : α) :
    grammar.extend threshold left tokens = .ok ⟨left, tokens, Nat.lt_succ_self _⟩ := by
  cases tokens with
  | nil => rw [extend]
  | cons token rest =>
    rw [extend]
    cases found : grammar.trailing token.kind with
    | none => rfl
    | some rule =>
      have below : rule.power ≤ threshold := power_eq found ▸ stops_cons.1 stops
      simp only [below, if_true]

theorem stops_or_extends (grammar : Grammar κ α) (threshold : Nat) (tokens : List (Token κ)) :
    grammar.Stops threshold tokens ∨
      ∃ token rest rule, tokens = token :: rest ∧ grammar.trailing token.kind = some rule ∧
        threshold < rule.power := by
  cases tokens with
  | nil => exact .inl stops_nil
  | cons token rest =>
    rw [stops_cons]
    rcases Nat.lt_or_ge threshold (grammar.power token.kind) with above | below
    · cases found : grammar.trailing token.kind with
      | none => simp [power, found] at above
      | some rule => exact .inr ⟨token, rest, rule, rfl, found, power_eq found ▸ above⟩
    · exact .inl below

/-- The tokens split into what was read and what is left, and the node fits between them. -/
def Splits (fits : α → List (Token κ) → List (Token κ) → Prop) (tokens : List (Token κ))
    {bound : Nat} (parsed : Parsed κ α bound) : Prop :=
  ∃ consumed, tokens = consumed ++ parsed.rest ∧ fits parsed.value consumed parsed.rest

section Soundness
variable (invariant : Nat → α → List (Token κ) → List (Token κ) → Prop)

/-- The property of an expression that was read in full at a threshold. -/
def Complete (grammar : Grammar κ α) (threshold : Nat) (node : α) (consumed rest : List (Token κ)) :
    Prop :=
  invariant threshold node consumed rest ∧ grammar.Stops threshold rest

/-- A subparser keeps an invariant at each threshold and stops where it should. -/
def Keeps (grammar : Grammar κ α) {bound : Nat} (parse : Subparser κ α bound) : Prop :=
  ∀ threshold tokens le,
    Ensures (Splits (grammar.Complete invariant threshold) tokens) (parse threshold tokens le)

/-- What the rules of a grammar keep true of a node and of the tokens on both sides of it, if the
expressions they read by themselves keep it. -/
structure Inductive (grammar : Grammar κ α) : Prop where
  leads : ∀ threshold token rest rule, grammar.leading token.kind = some rule →
    ∀ parse : Subparser κ α rest.length, grammar.Keeps invariant parse →
      Ensures (Splits (invariant threshold) (token :: rest)) (rule token rest parse)
  trails : ∀ threshold left consumed token rest rule, grammar.trailing token.kind = some rule →
    threshold < rule.power → invariant threshold left consumed (token :: rest) →
    ∀ parse : Subparser κ α rest.length, grammar.Keeps invariant parse →
      Ensures (Splits (fun node more => invariant threshold node (consumed ++ more))
        (token :: rest)) (rule.read left token rest parse)

variable {invariant}

/-- The loop of an expression, given the expressions that are shorter. -/
theorem Inductive.ensures_extend (kept : grammar.Inductive invariant) {bound : Nat}
    (below : ∀ threshold tokens, tokens.length < bound →
      Ensures (Splits (grammar.Complete invariant threshold) tokens)
        (grammar.parse threshold tokens))
    {threshold : Nat} {tokens : List (Token κ)} (le : tokens.length ≤ bound) {left : α}
    {consumed : List (Token κ)} (before : invariant threshold left consumed tokens) :
    Ensures (Splits (fun node more => grammar.Complete invariant threshold node (consumed ++ more))
      tokens) (grammar.extend threshold left tokens) := by
  -- Each rule leaves fewer tokens to the loop, and reads expressions of fewer tokens still.
  rcases grammar.stops_or_extends threshold tokens with stops | further
  · rw [extend_of_stops stops]
    exact ⟨[], rfl, by simpa using before, stops⟩
  · obtain ⟨token, rest, rule, rfl, found, above⟩ := further
    rw [List.length_cons] at le
    rw [extend_cons found above]
    refine (kept.trails threshold left consumed token rest rule found above before _ ?_).bind ?_
    · exact fun inner tokens shorter => below inner tokens (by omega)
    · rintro next ⟨more, split, after⟩
      have shorter := next.shorter
      refine (kept.ensures_extend below (by omega) after).map ?_
      rintro parsed ⟨further, split', complete⟩
      exact ⟨more ++ further, by simp [split, split', Parsed.weaken], by
        simpa [Parsed.weaken] using complete⟩
termination_by tokens.length

/-- What the rules of a grammar keep true is true of every expression that is read. -/
theorem Inductive.ensures_parse (kept : grammar.Inductive invariant) (threshold : Nat)
    (tokens : List (Token κ)) :
    Ensures (Splits (grammar.Complete invariant threshold) tokens)
      (grammar.parse threshold tokens) := by
  cases tokens with
  | nil =>
    rw [parse]
    exact ensures_badText
  | cons token rest =>
    cases found : grammar.leading token.kind with
    | none =>
      rw [parse]
      simp only [found]
      exact ensures_badText
    | some rule =>
      have below : ∀ inner tokens, tokens.length < rest.length + 1 →
          Ensures (Splits (grammar.Complete invariant inner) tokens)
            (grammar.parse inner tokens) :=
        fun inner tokens shorter => kept.ensures_parse inner tokens
      rw [parse_cons found]
      refine (kept.leads threshold token rest rule found _ ?_).bind ?_
      · exact fun inner tokens le => below inner tokens (Nat.lt_succ_of_le le)
      · rintro first ⟨consumed, split, before⟩
        refine (kept.ensures_extend below (Nat.le_of_lt first.shorter) before).map ?_
        rintro parsed ⟨more, split', complete⟩
        exact ⟨consumed ++ more, by simp [split, split', Parsed.weaken], complete⟩
termination_by tokens.length

end Soundness

section Completeness

/-- An expression is read by finding what its first token leads, and then what follows adds. -/
theorem yields_parse {threshold : Nat} {token : Token κ} {rest middle last : List (Token κ)}
    {rule : LeadingRule κ α} {first node : α} (found : grammar.leading token.kind = some rule)
    (leads : Yields (rule token rest fun inner tokens _ => grammar.parse inner tokens) first middle)
    (goesOn : Yields (grammar.extend threshold first middle) node last) :
    Yields (grammar.parse threshold (token :: rest)) node last := by
  obtain ⟨_, leads⟩ := leads
  obtain ⟨_, goesOn⟩ := goesOn
  rw [parse_cons found, leads]
  exact ⟨_, congrArg (Except.map _) goesOn⟩

theorem yields_extend {threshold : Nat} {token : Token κ} {rest middle last : List (Token κ)}
    {rule : TrailingRule κ α} {left next node : α}
    (found : grammar.trailing token.kind = some rule) (above : threshold < rule.power)
    (trails : Yields (rule.read left token rest fun inner tokens _ => grammar.parse inner tokens)
      next middle)
    (goesOn : Yields (grammar.extend threshold next middle) node last) :
    Yields (grammar.extend threshold left (token :: rest)) node last := by
  obtain ⟨_, trails⟩ := trails
  obtain ⟨_, goesOn⟩ := goesOn
  rw [extend_cons found above, trails]
  exact ⟨_, congrArg (Except.map _) goesOn⟩

theorem yields_of_stops {threshold : Nat} {tokens : List (Token κ)}
    (stops : grammar.Stops threshold tokens) (left : α) :
    Yields (grammar.extend threshold left tokens) left tokens :=
  ⟨_, extend_of_stops stops left⟩

end Completeness

/-! ### Texts -/

theorem parseSource_eq_ok_iff {α : Type} {grammar : Grammar κ α} {source : String} {value : α} :
    grammar.parseSource source = .ok value ↔
      ∃ tokens, grammar.lexicon.tokenize source = .ok tokens ∧ grammar.parseAll tokens = .ok value := by
  unfold parseSource
  cases grammar.lexicon.tokenize source <;> simp

end Grammar
end Storefront
