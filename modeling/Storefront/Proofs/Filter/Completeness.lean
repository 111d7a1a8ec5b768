import Storefront.Proofs.Filter.Derivation
import Storefront.Proofs.Token.Lexing

/-!
What the grammar of filters derives is read, unless `range` stands behind a comma. The list of
intervals behind a `range` looks one token past each comma: it goes on at a parenthesis, and at
anything else it gives up, although the comma could belong to the list of expressions around it. So
no expression can follow a list of intervals, another such list included.
-/
namespace Storefront.Filter

/-- Reads a whole list of tokens as a filter, as compiling does once a text is cut into tokens. -/
def readTokens (fragment : String) (tokens : List (Token Kind)) : Except Error Filter := do
  match ← grammar.parseAll tokens with
  | .clause filter => .ok filter
  | _ => .error (.badText .expectedClause fragment)

theorem compile_eq (source : String) :
    compile source = lexicon.tokenize source >>= readTokens (fragment source.toList) := by
  have same : grammar.lexicon = lexicon := rfl
  rw [compile, Grammar.parseSource, same]
  cases lexicon.tokenize source with
  | error e => rfl
  | ok tokens =>
    change _ = readTokens (fragment source.toList) tokens
    rfl

/-! ### Intervals -/

section Intervals
variable {rest last : List (Token Kind)} {interval : Bound × Bound}
  {intervals : List (Bound × Bound)} {piece pieces tokens : List (Token Kind)}
  {separator : Token Kind}

theorem yields_readBound {bound : Bound} {token : Token Kind} (spelt : SpellsBound bound token) :
    Yields (readBound (token :: rest)) bound rest := by
  refine ⟨Nat.lt_succ_self _, ?_⟩
  cases spelt with
  | unbounded kind => simp only [readBound, kind]; rfl
  | number kind converts => simp only [readBound, kind, converts]; rfl
  | text kind => simp only [readBound, kind]; rfl

theorem yields_readInterval (spelt : SpellsInterval interval piece) :
    Yields (readInterval (piece ++ rest)) interval rest := by
  obtain ⟨opens, lower, goesOn, upper, closes⟩ := spelt
  exact (yields_expect opens _).bind fun _ =>
    (yields_readBound lower).bind fun _ =>
      (yields_expect goesOn _).bind fun _ =>
        (yields_readBound upper).bind fun _ =>
          (yields_expect closes rest).bind fun _ => ⟨_, rfl⟩

/-- An interval begins with a parenthesis, and so does a list of them. -/
theorem startsWith_intervals (separated : Separated .comma SpellsInterval intervals pieces) :
    startsWith .lParen (pieces ++ rest) = true := by
  cases separated with
  | one spelt =>
    obtain ⟨opens, -⟩ := spelt
    exact decide_eq_true opens
  | cons spelt =>
    obtain ⟨opens, -⟩ := spelt
    exact decide_eq_true opens

theorem yields_readIntervals_one (first : Yields (readInterval tokens) interval rest)
    (ends : startsWith .comma rest = false) : Yields (readIntervals tokens) [interval] rest := by
  obtain ⟨shorter, first⟩ := first
  refine ⟨shorter, ?_⟩
  rw [readIntervals]
  simp only [first]
  cases rest with
  | nil => rfl
  | cons next rest =>
    have other : next.kind ≠ .comma := of_decide_eq_false ends
    simp only [other, if_false]

theorem yields_readIntervals_cons
    (first : Yields (readInterval tokens) interval (separator :: rest))
    (comma : separator.kind = .comma) (opens : startsWith .lParen rest = true)
    (more : Yields (readIntervals rest) intervals last) :
    Yields (readIntervals tokens) (interval :: intervals) last := by
  obtain ⟨shorter, first⟩ := first
  obtain ⟨shorter', more⟩ := more
  rw [List.length_cons] at shorter
  refine ⟨by omega, ?_⟩
  rw [readIntervals]
  simp only [first, comma, opens, if_true, more]

/-- The fault of a list of intervals that a comma and no parenthesis follow. -/
def mixedAt (tokens : List (Token Kind)) : Error :=
  .badText .mixedItems ((tokens.head?.map (·.text)).getD "")

theorem readIntervals_mixed (first : Yields (readInterval tokens) interval (separator :: rest))
    (comma : separator.kind = .comma) (other : startsWith .lParen rest = false) :
    readIntervals tokens = .error (mixedAt rest) := by
  obtain ⟨shorter, first⟩ := first
  rw [readIntervals]
  simp only [first, comma, other, if_true]
  rfl

theorem readIntervals_error {e : Error}
    (first : Yields (readInterval tokens) interval (separator :: rest))
    (comma : separator.kind = .comma) (opens : startsWith .lParen rest = true)
    (fails : readIntervals rest = .error e) : readIntervals tokens = .error e := by
  obtain ⟨shorter, first⟩ := first
  rw [readIntervals]
  simp only [first, comma, opens, if_true, fails]

/-- Intervals are read up to where no comma follows. -/
theorem yields_readIntervals (separated : Separated .comma SpellsInterval intervals pieces)
    (ends : startsWith .comma rest = false) :
    Yields (readIntervals (pieces ++ rest)) intervals rest := by
  induction separated with
  | one spelt => exact yields_readIntervals_one (yields_readInterval spelt) ends
  | cons spelt same more ih =>
    rw [List.append_assoc]
    exact yields_readIntervals_cons (yields_readInterval spelt) same (startsWith_intervals more) ih

/-- Where a comma follows that no interval is behind, the whole list is refused. -/
theorem readIntervals_refuses (separated : Separated .comma SpellsInterval intervals pieces)
    (comma : separator.kind = .comma) (other : startsWith .lParen rest = false) :
    readIntervals (pieces ++ separator :: rest) = .error (mixedAt rest) := by
  induction separated with
  | one spelt => exact readIntervals_mixed (yields_readInterval spelt) comma other
  | cons spelt same more ih =>
    rw [List.append_assoc]
    exact readIntervals_error (yields_readInterval spelt) same (startsWith_intervals more) ih

end Intervals

/-! ### Expressions -/

/-- The parser as its rules call it. -/
abbrev subparser (bound : Nat) : Subparser Kind Node bound :=
  fun threshold tokens _ => grammar.parse threshold tokens

/-- What an expression is read as. -/
def Expression.node : Expression → Node
  | value found => .value found
  | presence wanted => .presence wanted
  | ranges intervals => .ranges intervals

theorem power_le_itemPower (kind : Kind) : grammar.power kind ≤ itemPower := by
  cases kind <;> decide

section Expressions
variable {threshold : Nat} {token separator : Token Kind} {rest piece pieces : List (Token Kind)}
  {expression : Expression} {expressions : List Expression} {intervals : List (Bound × Bound)}

theorem leading_eq {kind : Kind} {rule : LeadingRule Kind Node} (same : token.kind = kind)
    (found : leading kind = some rule) : grammar.leading token.kind = some rule :=
  same.symm ▸ found

theorem yields_leaf {node : Token Kind → Except Error Node} {found : Node}
    {parse : Subparser Kind Node rest.length} (reads : node token = .ok found) :
    Yields (leaf node token rest parse) found rest :=
  ⟨Nat.lt_succ_self _, by rw [leaf, reads]; rfl⟩

/-- An expression is read whatever follows it, except that a comma may not follow intervals. -/
theorem yields_expression (spelt : expression.Spelt piece)
    (ends : expression.isRanges = true → startsWith .comma rest = false) :
    Yields (grammar.parse itemPower (piece ++ rest)) expression.node rest := by
  have stops : Yields (grammar.extend itemPower expression.node rest) expression.node rest :=
    Grammar.yields_of_stops (fun token _ => power_le_itemPower token.kind) _
  cases spelt with
  | text kind => exact Grammar.yields_parse (leading_eq kind rfl) (yields_leaf rfl) stops
  | number kind converts =>
    exact Grammar.yields_parse (leading_eq kind rfl) (yields_leaf (by rw [converts]; rfl)) stops
  | yes kind => exact Grammar.yields_parse (leading_eq kind rfl) (yields_leaf rfl) stops
  | no kind => exact Grammar.yields_parse (leading_eq kind rfl) (yields_leaf rfl) stops
  | exist kind => exact Grammar.yields_parse (leading_eq kind rfl) (yields_leaf rfl) stops
  | missing kind => exact Grammar.yields_parse (leading_eq kind rfl) (yields_leaf rfl) stops
  | ranges kind separated =>
    exact Grammar.yields_parse (leading_eq kind rfl)
      ((yields_readIntervals separated (ends rfl)).bind fun _ => ⟨_, rfl⟩) stops

/-- Intervals in front of a comma are refused, if no interval is behind it. -/
theorem parse_ranges_refuses (spelt : (Expression.ranges intervals).Spelt piece)
    (comma : separator.kind = .comma) (other : startsWith .lParen rest = false) :
    grammar.parse threshold (piece ++ separator :: rest) = .error (mixedAt rest) := by
  cases spelt with
  | ranges kind separated =>
    rw [List.cons_append, Grammar.parse_cons (leading_eq kind rfl)]
    simp only [readRanges, readIntervals_refuses separated comma other]
    rfl

/-- A list of expressions is read, if its last one alone may be intervals. -/
theorem yields_expressions (separated : Separated .comma Expression.Spelt expressions pieces)
    (plain : ∀ expression ∈ expressions.dropLast, expression.isRanges = false) {bound : Nat}
    (le : pieces.length ≤ bound) :
    Yields (readList .comma itemPower (fun node => .ok node) bound (subparser bound) pieces le)
      (expressions.map Expression.node) [] := by
  induction separated with
  | one spelt =>
    refine yields_readList_one ?_ rfl rfl
    have reads : Yields (grammar.parse itemPower (_ ++ [])) _ [] := yields_expression spelt fun _ => rfl
    rwa [List.append_nil] at reads
  | @cons expression piece separator expressions pieces spelt same more ih =>
    have nonempty : expressions ≠ [] := by
      cases more <;> simp
    rw [List.dropLast_cons_of_ne_nil nonempty] at plain
    have ends : expression.isRanges = true → startsWith .comma (separator :: pieces) = false :=
      fun ranges => absurd ranges (by simp [plain expression])
    exact yields_readList_cons (yields_expression spelt ends) rfl same
      fun le => ih (fun other mem => plain other (List.mem_cons_of_mem _ mem)) le

end Expressions

/-! ### Conditions -/

section Conditions
variable {α : Type}

theorem collect_map (path : String) (pick : Node → Option α) (wrap : α → Node)
    (picks : ∀ found, pick (wrap found) = some found) (found : List α) :
    collect path pick (found.map wrap) = .ok found := by
  have all : (found.map wrap).mapM pick = some found := by
    induction found with
    | nil => rfl
    | cons first found ih => simp [picks, ih]
  rw [collect, all]

theorem conditionOf_lists {expressions : List Expression} {condition : Condition}
    (lists : Expression.Lists expressions condition) (nonempty : expressions ≠ []) (path : String) :
    conditionOf path (expressions.map Expression.node) = .ok condition := by
  cases lists with
  | values values =>
    cases values with
    | nil => exact absurd rfl nonempty
    | cons first values =>
      have collected := collect_map path Node.value? .value (fun _ => rfl) (first :: values)
      rw [List.map_map]
      exact congrArg (Except.map Condition.values) collected
  | presence wanted =>
    cases wanted with
    | nil => exact absurd rfl nonempty
    | cons first wanted =>
      have collected := collect_map path Node.presence? .presence (fun _ => rfl) (first :: wanted)
      rw [List.map_map]
      exact congrArg (Except.map Condition.presence) collected
  | ranges lists =>
    cases lists with
    | nil => exact absurd rfl nonempty
    | cons first lists =>
      have collected := collect_map path Node.ranges? .ranges (fun _ => rfl) (first :: lists)
      rw [List.map_map]
      exact congrArg (Except.map fun lists => Condition.ranges lists.flatten) collected

end Conditions

end Storefront.Filter
