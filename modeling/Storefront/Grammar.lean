import Storefront.Token.Basic

/-!
Grammars of prefix and infix rules with binding powers.

A leading rule says what a token means at the front of an expression, a trailing rule what it means
behind a complete one. An expression is extended as long as the next token has a trailing rule whose
power exceeds the threshold: equal powers therefore associate to the left, and a rule that reads its
right side at its own power less one associates to the right. Each step leaves fewer tokens than it
found, so reading ends on every input.
-/
namespace Storefront

/-- What was read from some tokens, and the tokens after it: fewer than `bound`. -/
structure Parsed (κ α : Type) (bound : Nat) where
  value : α
  rest : List (Token κ)
  shorter : rest.length < bound

/-- Reads an expression at a threshold from any tokens of which there are at most `bound`. -/
abbrev Subparser (κ α : Type) (bound : Nat) :=
  (threshold : Nat) → (tokens : List (Token κ)) → tokens.length ≤ bound →
    Except Error (Parsed κ α tokens.length)

/-- Reads what a token begins, given the tokens behind it. -/
abbrev LeadingRule (κ α : Type) :=
  Token κ → (rest : List (Token κ)) → Subparser κ α rest.length →
    Except Error (Parsed κ α (rest.length + 1))

/-- Reads on from a complete expression and a token, given the tokens behind both. -/
structure TrailingRule (κ α : Type) where
  power : Nat
  read : α → Token κ → (rest : List (Token κ)) → Subparser κ α rest.length →
    Except Error (Parsed κ α (rest.length + 1))

structure Grammar (κ α : Type) where
  lexicon : Lexicon κ
  leading : κ → Option (LeadingRule κ α)
  trailing : κ → Option (TrailingRule κ α)

namespace Parsed
variable {κ α : Type}

/-- The same reading seen from more tokens. -/
def weaken {small big : Nat} (parsed : Parsed κ α small) (le : small ≤ big) : Parsed κ α big :=
  ⟨parsed.value, parsed.rest, Nat.lt_of_lt_of_le parsed.shorter le⟩

end Parsed

section Tokens
variable {κ : Type} [DecidableEq κ]

/-- The next token, which has to be of `kind`. -/
def expect [TokenKind κ] (kind : κ) :
    (tokens : List (Token κ)) → Except Error (Parsed κ (Token κ) tokens.length)
  | [] => .error (.badText (.expectedAtEnd (TokenKind.name kind)) "")
  | token :: rest =>
    if token.kind = kind then .ok ⟨token, rest, Nat.lt_succ_self _⟩
    else .error (.badText (.expected (TokenKind.name kind)) token.text)

def startsWith (kind : κ) : List (Token κ) → Bool
  | [] => false
  | token :: _ => token.kind = kind

/-- Expressions separated by tokens of the kind `comma`, one or more, each of which `convert`
accepts before anything behind it is looked at. -/
def readList {α β : Type} (comma : κ) (threshold : Nat) (convert : α → Except Error β) (bound : Nat)
    (parse : Subparser κ α bound) (tokens : List (Token κ)) (le : tokens.length ≤ bound) :
    Except Error (Parsed κ (List β) tokens.length) :=
  match parse threshold tokens le with
  | .error e => .error e
  | .ok first =>
    match convert first.value with
    | .error e => .error e
    | .ok value =>
      match _step : first.rest with
      | [] => .ok ⟨[value], [], by have := first.shorter; simp_all⟩
      | next :: rest =>
        have shorter : rest.length + 1 < tokens.length := by
          have := first.shorter; simp_all
        if next.kind = comma then
          match readList comma threshold convert bound parse rest (by omega) with
          | .error e => .error e
          | .ok more => .ok ⟨value :: more.value, more.rest, by have := more.shorter; omega⟩
        else .ok ⟨[value], next :: rest, by simpa using shorter⟩
termination_by tokens.length

end Tokens

namespace Grammar
variable {κ α : Type}

/-- The power of the trailing rule of a kind, zero if it has none. -/
def power (grammar : Grammar κ α) (kind : κ) : Nat :=
  match grammar.trailing kind with
  | some rule => rule.power
  | none => 0

mutual
/-- Reads one expression whose trailing rules exceed `threshold`. -/
def parse (grammar : Grammar κ α) (threshold : Nat) (tokens : List (Token κ)) :
    Except Error (Parsed κ α tokens.length) :=
  match tokens with
  | [] => .error (.badText .unexpectedEnd "")
  | token :: rest =>
    match grammar.leading token.kind with
    | none => .error (.badText .unexpectedToken token.text)
    | some rule =>
      match rule token rest (fun inner tokens _ => parse grammar inner tokens) with
      | .error e => .error e
      | .ok first =>
        match extend grammar threshold first.value first.rest with
        | .error e => .error e
        | .ok parsed => .ok (parsed.weaken first.shorter)
termination_by tokens.length
decreasing_by
  · simp only [List.length_cons]; omega
  · have := first.shorter; simpa only [List.length_cons] using this

/-- Extends a complete expression by the trailing rules that exceed `threshold`. -/
def extend (grammar : Grammar κ α) (threshold : Nat) (left : α) (tokens : List (Token κ)) :
    Except Error (Parsed κ α (tokens.length + 1)) :=
  match tokens with
  | [] => .ok ⟨left, [], Nat.succ_pos _⟩
  | token :: rest =>
    match grammar.trailing token.kind with
    | none => .ok ⟨left, token :: rest, Nat.lt_succ_self _⟩
    | some rule =>
      if rule.power ≤ threshold then .ok ⟨left, token :: rest, Nat.lt_succ_self _⟩
      else
        match rule.read left token rest (fun inner tokens _ => parse grammar inner tokens) with
        | .error e => .error e
        | .ok next =>
          match extend grammar threshold next.value next.rest with
          | .error e => .error e
          | .ok parsed => .ok (parsed.weaken (Nat.le_succ_of_le next.shorter))
termination_by tokens.length
decreasing_by
  · simp only [List.length_cons]; omega
  · have := next.shorter; simpa only [List.length_cons] using this
end

def parseAll (grammar : Grammar κ α) (tokens : List (Token κ)) : Except Error α :=
  match grammar.parse 0 tokens with
  | .error e => .error e
  | .ok parsed =>
    match parsed.rest with
    | [] => .ok parsed.value
    | token :: _ => .error (.badText .unexpectedToken token.text)

def parseSource (grammar : Grammar κ α) (source : String) : Except Error α :=
  match grammar.lexicon.tokenize source with
  | .error e => .error e
  | .ok tokens => grammar.parseAll tokens

end Grammar
end Storefront
