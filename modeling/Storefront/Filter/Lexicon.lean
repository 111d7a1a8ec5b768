import Storefront.Token.Pattern

/-!
The tokens of filters. Keywords have one spelling.
-/
namespace Storefront.Filter

inductive Kind where
  | whitespace
  | str
  | number
  | exist
  | missing
  | range
  | to
  | star
  | yes
  | no
  | path
  | colon
  | comma
  | lParen
  | rParen
deriving DecidableEq, Repr

instance : TokenKind Kind where
  name
    | .whitespace => "Whitespace"
    | .str => "Str"
    | .number => "Number"
    | .exist => "Exists"
    | .missing => "Missing"
    | .range => "Range"
    | .to => "To"
    | .star => "Star"
    | .yes => "True"
    | .no => "False"
    | .path => "Path"
    | .colon => "Colon"
    | .comma => "Comma"
    | .lParen => "LParen"
    | .rParen => "RParen"

def lexicon : Lexicon Kind :=
  [⟨.whitespace, Pattern.blanks, true⟩,
   ⟨.str, Pattern.quoted '"', false⟩,
   ⟨.str, Pattern.quoted '\'', false⟩,
   ⟨.number, Pattern.fixedPoint, false⟩,
   ⟨.exist, Pattern.keyword "exists", false⟩,
   ⟨.missing, Pattern.keyword "missing", false⟩,
   ⟨.range, Pattern.keyword "range", false⟩,
   ⟨.to, Pattern.keyword "TO", false⟩,
   ⟨.yes, Pattern.keyword "true", false⟩,
   ⟨.no, Pattern.keyword "false", false⟩,
   ⟨.path, Pattern.path, false⟩,
   ⟨.star, Pattern.exact "*", false⟩,
   ⟨.colon, Pattern.exact ":", false⟩,
   ⟨.comma, Pattern.exact ",", false⟩,
   ⟨.lParen, Pattern.exact "(", false⟩,
   ⟨.rParen, Pattern.exact ")", false⟩]

end Storefront.Filter
