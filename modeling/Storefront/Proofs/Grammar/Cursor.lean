import Storefront.Proofs.Grammar.Reading

/-!
Reading with a cursor. Here the rules of a grammar are programs that take tokens from a cursor, read
further expressions and repeat, and nothing about them says that they come to an end. What keeps them
from running forever is fuel, one unit of which goes with every call and with every repetition; a
program that runs out of it gives nothing, not even an error. Main statement: if programs do rule by
rule what the rules of a grammar do, fuel for one call more than there are tokens is enough, whatever
the tokens are, and what is read is what the grammar reads.
-/
namespace Storefront

/-- A program over the tokens that are left. It gives nothing if it runs out of fuel. -/
abbrev Cursor (κ : Type) := StateT (List (Token κ)) (ExceptT Error Option)

namespace Cursor
variable {κ α β : Type}

def ranOut : Cursor κ α :=
  fun _ => none

def fail (e : Error) : Cursor κ α :=
  fun _ => some (.error e)

/-- A step that does not look at the tokens. -/
def settle : Except Error α → Cursor κ α
  | .ok value => pure value
  | .error e => fail e

/-- The next token, which is not taken. -/
def peek : Cursor κ (Option (Token κ)) :=
  fun tokens => some (.ok (tokens.head?, tokens))

/-- Takes the next token. -/
def advance : Cursor κ (Option (Token κ)) :=
  fun tokens => some (.ok (tokens.head?, tokens.tail))

section Kinds
variable [DecidableEq κ]

/-- Takes the next token if it is of a kind. -/
def advanceIf (kind : κ) : Cursor κ (Option (Token κ)) := do
  match ← peek with
  | some token => if token.kind = kind then advance else pure none
  | none => pure none

/-- Takes the next token, which has to be of a kind. -/
def demand [TokenKind κ] (kind : κ) : Cursor κ (Token κ) := do
  match ← advance with
  | some token =>
    if token.kind = kind then pure token
    else fail (.badText (.expected (TokenKind.name kind)) token.text)
  | none => fail (.badText (.expectedAtEnd (TokenKind.name kind)) "")

/-- Items with tokens of the kind `comma` between them. -/
def separated (comma : κ) (item : Cursor κ β) : Nat → Cursor κ (List β)
  | 0 => ranOut
  | fuel + 1 => do
    let value ← item
    match ← advanceIf comma with
    | some _ => do
      let values ← separated comma item fuel
      pure (value :: values)
    | none => pure [value]

end Kinds

/-! ### Runs -/

/-- A program does with some tokens what a reading of them does: it ends, with the same value in front
of the same rest or with the same error. -/
def Runs {bound : Nat} (program : Cursor κ α) (tokens : List (Token κ))
    (reading : Except Error (Parsed κ α bound)) : Prop :=
  program tokens = some (reading.map fun parsed => (parsed.value, parsed.rest))

variable {bound bound' : Nat} {tokens : List (Token κ)}

theorem runs_ok {value : α} {shorter : tokens.length < bound} :
    Runs (pure value) tokens (.ok ⟨value, tokens, shorter⟩) := rfl

theorem bind_apply (first : Cursor κ α) (next : α → Cursor κ β) (tokens : List (Token κ)) :
    (first >>= next) tokens =
      match first tokens with
      | some (.ok (value, rest)) => next value rest
      | some (.error e) => some (.error e)
      | none => none := by
  change StateT.bind first next tokens = _
  rw [StateT.bind]
  rcases first tokens with _ | _ | _ <;> rfl

theorem Runs.bind {first : Cursor κ α} {next : α → Cursor κ β}
    {reading : Except Error (Parsed κ α bound)}
    {goOn : Parsed κ α bound → Except Error (Parsed κ β bound')} (begins : Runs first tokens reading)
    (goesOn : ∀ parsed, Runs (next parsed.value) parsed.rest (goOn parsed)) :
    Runs (first >>= next) tokens (reading >>= goOn) := by
  rw [Runs, bind_apply, begins]
  cases reading with
  | error e => rfl
  | ok parsed => exact goesOn parsed

/-- A step that does not look at the tokens is the same in a program and in a reading. -/
theorem Runs.step {given : Except Error α} {next : α → Cursor κ β}
    {goOn : α → Except Error (Parsed κ β bound)}
    (goesOn : ∀ value, Runs (next value) tokens (goOn value)) :
    Runs (settle given >>= next) tokens (given >>= goOn) := by
  cases given with
  | error e => rfl
  | ok value => exact goesOn value

theorem Runs.weaken {program : Cursor κ α} {reading : Except Error (Parsed κ α bound)}
    (runs : Runs program tokens reading) (le : bound ≤ bound') :
    Runs program tokens (reading.map (·.weaken le)) := by
  rw [Runs, runs]
  cases reading <;> rfl

section Kinds
variable [DecidableEq κ] {kind : κ}

@[simp] theorem advanceIf_nil : advanceIf kind ([] : List (Token κ)) = some (.ok (none, [])) := rfl

theorem advanceIf_cons (token : Token κ) (rest : List (Token κ)) :
    advanceIf kind (token :: rest) =
      some (.ok (if token.kind = kind then (some token, rest) else (none, token :: rest))) := by
  change (if token.kind = kind then advance else pure none : Cursor κ _) (token :: rest) = _
  split <;> rfl

theorem runs_demand [TokenKind κ] (kind : κ) (tokens : List (Token κ)) :
    Runs (demand kind) tokens (expect kind tokens) := by
  cases tokens with
  | nil => rfl
  | cons token rest =>
    change (if token.kind = kind then pure token else fail _ : Cursor κ _) rest = _
    rw [expect]
    split <;> rfl

/-- A list of items is read to its end if there is more fuel than there are tokens. -/
theorem runs_separated {comma : κ} {threshold : Nat} {convert : α → Except Error β} {bound : Nat}
    {parse : Subparser κ α bound} {item : Cursor κ α}
    (agrees : ∀ tokens le, Runs item tokens (parse threshold tokens le)) (fuel : Nat) :
    ∀ (tokens : List (Token κ)) (le : tokens.length ≤ bound), tokens.length < fuel →
      Runs (separated comma (item >>= fun node => settle (convert node)) fuel) tokens
        (readList comma threshold convert bound parse tokens le) := by
  induction fuel with
  | zero => exact fun _ _ enough => absurd enough (Nat.not_lt_zero _)
  | succ fuel ih =>
    intro tokens le enough
    have first := agrees tokens le
    rw [Runs, separated, bind_apply, bind_apply, first, readList]
    rcases parse threshold tokens le with e | ⟨node, rest, shorter⟩
    · rfl
    · dsimp only [Except.map]
      cases convert node with
      | error e => rfl
      | ok value =>
        cases rest with
        | nil => rfl
        | cons next rest =>
          have within : rest.length < fuel ∧ rest.length ≤ bound := by
            rw [List.length_cons] at shorter
            omega
          have more := ih rest within.2 within.1
          change (advanceIf comma >>= _) (next :: rest) = _
          rw [bind_apply, advanceIf_cons]
          by_cases same : next.kind = comma
          · simp only [same, if_true]
            rw [bind_apply, more]
            rcases readList comma threshold convert bound parse rest within.2 with e | _ <;> rfl
          · simp only [same, if_false]
            rfl

end Kinds
end Cursor

/-! ### Grammars -/

/-- Reads an expression at a threshold. -/
abbrev ExpressionProgram (κ α : Type) := Nat → Cursor κ α

/-- Reads what a token begins, given fuel for its own repetitions and the way to read expressions. -/
abbrev LeadingProgram (κ α : Type) := Nat → ExpressionProgram κ α → Token κ → Cursor κ α

/-- Reads on from a complete expression and a token, given what a leading program is. -/
structure TrailingProgram (κ α : Type) where
  power : Nat
  read : Nat → ExpressionProgram κ α → α → Token κ → Cursor κ α

/-- The rules of a grammar as programs. -/
structure Programs (κ α : Type) where
  leading : κ → Option (LeadingProgram κ α)
  trailing : κ → Option (TrailingProgram κ α)

/-- Expressions are read as a subparser reads them, wherever that may be used. -/
def ReadsAs {κ α : Type} {bound : Nat} (parse : ExpressionProgram κ α)
    (subparser : Subparser κ α bound) : Prop :=
  ∀ threshold tokens le, (parse threshold).Runs tokens (subparser threshold tokens le)

theorem ReadsAs.weaken {κ α : Type} {bound smaller : Nat} {parse : ExpressionProgram κ α}
    {subparser : Subparser κ α bound} (agrees : ReadsAs parse subparser) (le : smaller ≤ bound) :
    ReadsAs parse fun threshold tokens shorter =>
      subparser threshold tokens (Nat.le_trans shorter le) :=
  fun threshold tokens shorter => agrees threshold tokens (Nat.le_trans shorter le)

namespace Programs
open Cursor
variable {κ α : Type}

mutual
/-- Reads one expression whose trailing rules exceed a threshold. -/
def parse (programs : Programs κ α) : Nat → Nat → Cursor κ α
  | 0, _ => ranOut
  | fuel + 1, threshold => do
    match ← advance with
    | none => fail (.badText .unexpectedEnd "")
    | some token =>
      match programs.leading token.kind with
      | none => fail (.badText .unexpectedToken token.text)
      | some rule => do
        let left ← rule fuel (programs.parse fuel) token
        programs.extend fuel threshold left

/-- Extends a complete expression by the trailing rules that exceed a threshold. -/
def extend (programs : Programs κ α) : Nat → Nat → α → Cursor κ α
  | 0, _, _ => ranOut
  | fuel + 1, threshold, left => do
    match ← peek with
    | none => pure left
    | some token =>
      match programs.trailing token.kind with
      | none => pure left
      | some rule =>
        if rule.power ≤ threshold then pure left
        else do
          let _ ← advance
          let left ← rule.read fuel (programs.parse fuel) left token
          programs.extend fuel threshold left
end

/-- Programs do rule by rule what the rules of a grammar do, given fuel for one repetition more than there
are tokens and expressions that are read as the grammar reads them. -/
structure Agree (programs : Programs κ α) (grammar : Grammar κ α) : Prop where
  leads : ∀ kind, Option.Rel
    (fun program rule => ∀ fuel parse token rest subparser, rest.length < fuel →
      ReadsAs parse subparser → Runs (program fuel parse token) rest (rule token rest subparser))
    (programs.leading kind) (grammar.leading kind)
  trails : ∀ kind, Option.Rel
    (fun program rule => program.power = rule.power ∧
      ∀ fuel parse left token rest subparser, rest.length < fuel → ReadsAs parse subparser →
        Runs (program.read fuel parse left token) rest (rule.read left token rest subparser))
    (programs.trailing kind) (grammar.trailing kind)

variable {programs : Programs κ α} {grammar : Grammar κ α}

mutual
/-- Fuel for one call more than there are tokens is enough to read an expression. -/
theorem Agree.runs_parse (agree : programs.Agree grammar) : ∀ (fuel threshold : Nat)
    (tokens : List (Token κ)), tokens.length < fuel →
    Runs (programs.parse fuel threshold) tokens (grammar.parse threshold tokens)
  | 0, _, _, enough => absurd enough (Nat.not_lt_zero _)
  | fuel + 1, threshold, [], _ => by
    rw [parse, Grammar.parse]
    rfl
  | fuel + 1, threshold, token :: rest, enough => by
    have below : rest.length < fuel := Nat.lt_of_succ_lt_succ enough
    have agrees := agree.leads token.kind
    rw [parse]
    change (match programs.leading token.kind with
      | none => fail _
      | some rule => rule fuel (programs.parse fuel) token >>= programs.extend fuel threshold) rest = _
    cases found : grammar.leading token.kind with
    | none =>
      rw [found] at agrees
      generalize programs.leading token.kind = program? at agrees
      cases agrees
      rw [Grammar.parse]
      simp only [found]
      rfl
    | some rule =>
      rw [found] at agrees
      generalize programs.leading token.kind = program? at agrees
      cases agrees with
      | some runs =>
        rw [Grammar.parse_cons found]
        refine (runs fuel _ token rest _ below ?_).bind ?_
        · exact fun inner tokens le => agree.runs_parse fuel inner tokens (by omega)
        · intro first
          have shorter := first.shorter
          exact (agree.runs_extend fuel threshold first.value first.rest (by omega)).weaken _

theorem Agree.runs_extend (agree : programs.Agree grammar) : ∀ (fuel threshold : Nat) (left : α)
    (tokens : List (Token κ)), tokens.length < fuel →
    Runs (programs.extend fuel threshold left) tokens (grammar.extend threshold left tokens)
  | 0, _, _, _, enough => absurd enough (Nat.not_lt_zero _)
  | fuel + 1, threshold, left, [], _ => by
    rw [extend, Grammar.extend]
    rfl
  | fuel + 1, threshold, left, token :: rest, enough => by
    have below : rest.length < fuel := Nat.lt_of_succ_lt_succ enough
    have agrees := agree.trails token.kind
    rw [extend]
    change (match programs.trailing token.kind with
      | none => pure left
      | some rule =>
        if rule.power ≤ threshold then pure left
        else advance >>= fun _ => rule.read fuel (programs.parse fuel) left token >>=
          programs.extend fuel threshold : Cursor κ α) (token :: rest) = _
    cases found : grammar.trailing token.kind with
    | none =>
      rw [found] at agrees
      generalize programs.trailing token.kind = program? at agrees
      cases agrees
      rw [Grammar.extend]
      simp only [found]
      rfl
    | some rule =>
      rw [found] at agrees
      generalize programs.trailing token.kind = program? at agrees
      cases agrees with
      | some both =>
        obtain ⟨powers, runs⟩ := both
        dsimp only
        rw [powers]
        rcases Nat.lt_or_ge threshold rule.power with above | stops
        · rw [if_neg (Nat.not_le.2 above), Grammar.extend_cons found above]
          have reads := runs fuel _ left token rest _ below fun inner tokens le =>
            agree.runs_parse fuel inner tokens (by omega)
          refine reads.bind fun next => ?_
          have shorter := next.shorter
          exact (agree.runs_extend fuel threshold next.value next.rest (by omega)).weaken _
        · rw [if_pos stops, Grammar.extend]
          simp only [found, stops, if_true]
          rfl
end

/-! ### Sources -/

/-- Reads one expression, behind which there must be no token. -/
def parseAll (programs : Programs κ α) (fuel : Nat) : Cursor κ α := do
  let parsed ← programs.parse fuel 0
  match ← advance with
  | none => pure parsed
  | some token => fail (.badText .unexpectedToken token.text)

theorem Agree.parseAll_eq (agree : programs.Agree grammar) {fuel : Nat} {tokens : List (Token κ)}
    (enough : tokens.length < fuel) :
    ((programs.parseAll fuel).run' tokens).run = some (grammar.parseAll tokens) := by
  have runs := agree.runs_parse fuel 0 tokens enough
  have all : programs.parseAll fuel tokens = some ((grammar.parseAll tokens).map (·, [])) := by
    rw [parseAll, bind_apply, runs, Grammar.parseAll]
    rcases grammar.parse 0 tokens with e | ⟨value, _ | ⟨token, rest⟩, shorter⟩ <;> rfl
  rw [StateT.run', all]
  cases grammar.parseAll tokens <;> rfl

end Programs

/-! ### Texts -/

namespace Lexicon
variable {κ : Type}

/-- Cuts a text into tokens, with fuel for each piece. -/
def tokensWithin (lexicon : Lexicon κ) : Nat → Nat → List Char → Option (Except Error (List (Token κ)))
  | 0, _, _ => none
  | fuel + 1, offset, cs =>
    if cs = [] then some (.ok [])
    else
      match lexicon.firstMatch? cs with
      | none => some (.error (.badText .unrecognised (fragment cs)))
      | some (rule, n) =>
        let piece := cs.take n
        match lexicon.tokensWithin fuel (offset + byteLength piece) (cs.drop n) with
        | none => none
        | some (.error e) => some (.error e)
        | some (.ok tokens) =>
          some (.ok (if rule.skipped then tokens
            else ⟨rule.kind, String.ofList piece, offset⟩ :: tokens))

theorem length_drop_lt {fuel n : Nat} {cs : List Char} (nonempty : cs ≠ []) (positive : 0 < n)
    (enough : cs.length < fuel + 1) : (cs.drop n).length < fuel := by
  have := List.length_pos_iff.2 nonempty
  rw [List.length_drop]
  omega

/-- Each piece is a character at least, so there is fuel enough for a text if it exceeds its length. -/
theorem tokensWithin_eq (lexicon : Lexicon κ) {fuel : Nat} (offset : Nat) {cs : List Char}
    (enough : cs.length < fuel) :
    lexicon.tokensWithin fuel offset cs = some (lexicon.tokensFrom offset cs) := by
  fun_induction lexicon.tokensFrom offset cs generalizing fuel with
    obtain ⟨fuel, rfl⟩ := Nat.exists_eq_add_one_of_ne_zero (Nat.ne_zero_of_lt enough)
  | case1 => rfl
  | case2 offset cs nonempty found => simp only [tokensWithin, nonempty, if_false, found]
  | case3 offset cs nonempty rule n found piece e failed =>
    rename_i ih
    have behind : lexicon.tokensWithin fuel (offset + byteLength piece) (cs.drop n) = some (.error e) :=
      (ih (length_drop_lt nonempty (firstMatch?_pos found) enough)).trans (congrArg some failed)
    simp only [tokensWithin, nonempty, if_false, found]
    rw [behind]
  | case4 offset cs nonempty rule n found piece tokens cut =>
    rename_i ih
    have behind : lexicon.tokensWithin fuel (offset + byteLength piece) (cs.drop n) = some (.ok tokens) :=
      (ih (length_drop_lt nonempty (firstMatch?_pos found) enough)).trans (congrArg some cut)
    simp only [tokensWithin, nonempty, if_false, found]
    rw [behind]

theorem length_le_of_tokensFrom (lexicon : Lexicon κ) {offset : Nat} {cs : List Char}
    {tokens : List (Token κ)} (read : lexicon.tokensFrom offset cs = .ok tokens) :
    tokens.length ≤ cs.length := by
  fun_induction lexicon.tokensFrom offset cs generalizing tokens with
  | case1 =>
    cases read
    exact Nat.le_refl 0
  | case2 => contradiction
  | case3 => contradiction
  | case4 offset cs nonempty rule n found piece later readLater =>
    rename_i ih
    have positive := firstMatch?_pos found
    have fewer := ih readLater
    have pos := List.length_pos_iff.2 nonempty
    rw [List.length_drop] at fewer
    cases read
    split
    · omega
    · rw [List.length_cons]
      omega

end Lexicon

namespace Programs
variable {κ α : Type} {programs : Programs κ α} {grammar : Grammar κ α}

/-- Reads a whole text with fuel for every loop of cutting it and of reading its tokens. -/
def parseSource (programs : Programs κ α) (lexicon : Lexicon κ) (fuel : Nat) (source : String) :
    Option (Except Error α) :=
  match lexicon.tokensWithin fuel 0 source.toList with
  | none => none
  | some (.error e) => some (.error e)
  | some (.ok tokens) => ((programs.parseAll fuel).run' tokens).run

theorem Agree.parseSource_eq (agree : programs.Agree grammar) {fuel : Nat} {source : String}
    (enough : source.length < fuel) :
    programs.parseSource grammar.lexicon fuel source = some (grammar.parseSource source) := by
  have cut := grammar.lexicon.tokensWithin_eq 0 (String.length_toList ▸ enough)
  rw [parseSource, cut, Grammar.parseSource, Lexicon.tokenize]
  cases read : grammar.lexicon.tokensFrom 0 source.toList with
  | error e => rfl
  | ok tokens =>
    have fewer := grammar.lexicon.length_le_of_tokensFrom read
    rw [String.length_toList] at fewer
    exact agree.parseAll_eq (Nat.lt_of_le_of_lt fewer enough)

end Programs
end Storefront
