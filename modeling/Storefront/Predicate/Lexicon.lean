import Storefront.Token.Pattern

/-!
The tokens of predicates. Keywords may be written in capitals, `true` and `false` may not.
-/
namespace Storefront.Predicate

inductive Kind where
  | whitespace
  | str
  | number
  | parameter
  | and
  | or
  | not
  | isIn
  | is
  | defined
  | empty
  | contains
  | any
  | all
  | yes
  | no
  | identifier
  | notEq
  | gte
  | lte
  | eq
  | gt
  | lt
  | lParen
  | rParen
  | comma
deriving DecidableEq, Repr

instance : TokenKind Kind where
  name
    | .whitespace => "Whitespace"
    | .str => "Str"
    | .number => "Number"
    | .parameter => "Variable"
    | .and => "And"
    | .or => "Or"
    | .not => "Not"
    | .isIn => "In"
    | .is => "Is"
    | .defined => "Defined"
    | .empty => "Empty"
    | .contains => "Contains"
    | .any => "Any"
    | .all => "All"
    | .yes => "True"
    | .no => "False"
    | .identifier => "Identifier"
    | .notEq => "NotEq"
    | .gte => "Gte"
    | .lte => "Lte"
    | .eq => "Eq"
    | .gt => "Gt"
    | .lt => "Lt"
    | .lParen => "LParen"
    | .rParen => "RParen"
    | .comma => "Comma"

def lexicon : Lexicon Kind :=
  [⟨.whitespace, Pattern.blanks, true⟩,
   ⟨.str, Pattern.quoted '"', false⟩,
   ⟨.str, Pattern.quoted '\'', false⟩,
   ⟨.number, Pattern.floatingPoint, false⟩,
   ⟨.parameter, Pattern.parameter, false⟩,
   ⟨.and, Pattern.anyCaseKeyword "and", false⟩,
   ⟨.or, Pattern.anyCaseKeyword "or", false⟩,
   ⟨.not, Pattern.anyCaseKeyword "not", false⟩,
   ⟨.isIn, Pattern.anyCaseKeyword "in", false⟩,
   ⟨.is, Pattern.anyCaseKeyword "is", false⟩,
   ⟨.defined, Pattern.anyCaseKeyword "defined", false⟩,
   ⟨.empty, Pattern.anyCaseKeyword "empty", false⟩,
   ⟨.contains, Pattern.anyCaseKeyword "contains", false⟩,
   ⟨.any, Pattern.anyCaseKeyword "any", false⟩,
   ⟨.all, Pattern.anyCaseKeyword "all", false⟩,
   ⟨.yes, Pattern.keyword "true", false⟩,
   ⟨.no, Pattern.keyword "false", false⟩,
   ⟨.identifier, Pattern.name, false⟩,
   ⟨.notEq, Pattern.exact "!=", false⟩,
   ⟨.notEq, Pattern.exact "<>", false⟩,
   ⟨.gte, Pattern.exact ">=", false⟩,
   ⟨.lte, Pattern.exact "<=", false⟩,
   ⟨.eq, Pattern.exact "=", false⟩,
   ⟨.gt, Pattern.exact ">", false⟩,
   ⟨.lt, Pattern.exact "<", false⟩,
   ⟨.lParen, Pattern.exact "(", false⟩,
   ⟨.rParen, Pattern.exact ")", false⟩,
   ⟨.comma, Pattern.exact ",", false⟩]

end Storefront.Predicate
