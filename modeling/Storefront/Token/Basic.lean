import Storefront.Error

/-!
Tokens, and how a text is cut into them: at each place the first rule that matches something there
takes what it matches, so keywords stand before the rule for names in a table of rules.
-/
namespace Storefront

/-- A class of tokens whose members have names, as error messages give them. -/
class TokenKind (κ : Type) where
  name : κ → String

/-- A piece of text with its class and the byte at which it begins. -/
structure Token (κ : Type) where
  kind : κ
  text : String
  offset : Nat
deriving Repr

/-- How many characters at the front of a text belong together; matching none and not matching are
the same to a `Lexicon`. -/
abbrev Pattern := List Char → Option Nat

/-- One line of a table of tokens. The tokens of a `skipped` rule are left out. -/
structure TokenRule (κ : Type) where
  kind : κ
  pattern : Pattern
  skipped : Bool := false

/-- A table of tokens, in order of priority. -/
abbrev Lexicon (κ : Type) := List (TokenRule κ)

/-- How many characters of a text an error message quotes. -/
def fragmentLength : Nat := 24

/-- The front of a text, for an error message. -/
def fragment (cs : List Char) : String :=
  String.ofList (cs.take fragmentLength)

def byteLength : List Char → Nat
  | [] => 0
  | c :: cs => c.utf8Size + byteLength cs

namespace Lexicon
variable {κ : Type}

/-- The first rule that matches at the front of a text, with the number of characters it takes. -/
def firstMatch? : Lexicon κ → List Char → Option (TokenRule κ × Nat)
  | [], _ => none
  | rule :: rules, cs =>
    match rule.pattern cs with
    | some (n + 1) => some (rule, n + 1)
    | _ => firstMatch? rules cs

theorem firstMatch?_pos {lexicon : Lexicon κ} {cs : List Char} {rule : TokenRule κ} {n : Nat}
    (found : firstMatch? lexicon cs = some (rule, n)) : 0 < n := by
  induction lexicon with
  | nil => simp [firstMatch?] at found
  | cons first rules ih =>
    simp only [firstMatch?] at found
    split at found
    · cases found
      exact Nat.succ_pos _
    · exact ih found

def tokensFrom (lexicon : Lexicon κ) (offset : Nat) (cs : List Char) :
    Except Error (List (Token κ)) :=
  if _nonempty : cs = [] then .ok []
  else
    match _found : firstMatch? lexicon cs with
    | none => .error (.badText .unrecognised (fragment cs))
    | some (rule, n) =>
      let piece := cs.take n
      match tokensFrom lexicon (offset + byteLength piece) (cs.drop n) with
      | .error e => .error e
      | .ok tokens =>
        .ok (if rule.skipped then tokens else ⟨rule.kind, String.ofList piece, offset⟩ :: tokens)
termination_by cs.length
decreasing_by
  have := firstMatch?_pos _found
  have := List.length_pos_iff.2 _nonempty
  simp only [List.length_drop]
  omega

/-- The tokens of a text, without the skipped ones. -/
def tokenize (lexicon : Lexicon κ) (source : String) : Except Error (List (Token κ)) :=
  tokensFrom lexicon 0 source.toList

end Lexicon
end Storefront
