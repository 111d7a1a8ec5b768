/-!
Everything that can go wrong, by cause. The wording of each cause is given in one place.
-/
namespace Storefront

/-- What is wrong with the text of a predicate or a filter. -/
inductive TextFault where
  | unrecognised
  | unexpectedToken
  | unexpectedEnd
  /-- A token of the kind named should stand here. -/
  | expected (kind : String)
  /-- The text ends where a token of the kind named should stand. -/
  | expectedAtEnd (kind : String)
  | invalidNumber
  | expectedField
  | expectedOperand
  | expectedTest
  | expectedCheck
  | expectedQuantifier
  | expectedPath
  | expectedItem
  | mixedItems
  | expectedBound
  | expectedClause
deriving DecidableEq, Repr

inductive InputFault where
  | unbound (name : String)
  | expandClause (clause : String)
  | malformedQuery
  | noBounds (field : String)
  | noOperands (field : String)
  | draftNotObject
  | idTaken (typeId id : String)
  /-- An edit of a document was refused by whoever supplied it. -/
  | refused (reason : String)
deriving DecidableEq, Repr

inductive DocumentFault where
  | notObject
  | missingId
  | invalidVersion (id : String)
  | lastVersion (version : Nat)
  | noVersion (typeId id : String)
deriving DecidableEq, Repr

/-- What keeps a condition from having a truth value. The types are those of the values compared. -/
inductive EvaluationFault where
  | filterBound (valueType boundType : String)
  | queryBound (valueType field boundType : String)
deriving DecidableEq, Repr

/-- A failure of an operation. The fragment is the piece of text at which a fault was noticed. -/
inductive Error where
  | badText (fault : TextFault) (fragment : String)
  | badInput (fault : InputFault)
  | badDocument (fault : DocumentFault)
  | notFound (typeId id : String)
  | conflict (expected actual : Nat)
  | danglingReference (typeId identifier : String)
  | evaluation (fault : EvaluationFault)
deriving DecidableEq, Repr

def TextFault.message : TextFault → String
  | unrecognised => "unrecognised input"
  | unexpectedToken => "unexpected token"
  | unexpectedEnd => "unexpected end of input"
  | expected kind => s!"expected {kind}"
  | expectedAtEnd kind => s!"expected {kind}, found end of input"
  | invalidNumber => "invalid number"
  | expectedField => "expected a field name"
  | expectedOperand => "expected a literal or parameter"
  | expectedTest => "expected a predicate"
  | expectedCheck => "expected 'defined' or 'empty'"
  | expectedQuantifier => "expected 'any' or 'all'"
  | expectedPath => "expected a field path"
  | expectedItem => "expected a filter value"
  | mixedItems => "cannot mix value, exists/missing and range expressions"
  | expectedBound => "expected a range bound"
  | expectedClause => "expected 'field:expression'"

def InputFault.message : InputFault → String
  | unbound name => s!"missing value for parameter :{name}"
  | expandClause clause => s!"invalid expand clause '{clause}'"
  | malformedQuery => "malformed search query"
  | noBounds field => s!"range on '{field}' has no bounds"
  | noOperands field => s!"exact on '{field}' needs 'value' or 'values'"
  | draftNotObject => "draft must be a JSON object"
  | idTaken typeId id => s!"a {typeId} with id '{id}' already exists"
  | refused reason => reason

def DocumentFault.message : DocumentFault → String
  | notObject => "document must be an object"
  | missingId => "missing id"
  | invalidVersion id => s!"missing or invalid version on {id}"
  | lastVersion version => s!"version {version} cannot be incremented"
  | noVersion typeId id => s!"stored {typeId} {id} has no version"

def EvaluationFault.message : EvaluationFault → String
  | filterBound valueType boundType =>
    s!"cannot compare {valueType} with range bound of type {boundType}"
  | queryBound valueType field boundType =>
    s!"cannot compare {valueType} field '{field}' with {boundType} bound"

namespace Error

def message : Error → String
  | badText fault fragment =>
    let text := fault.message
    s!"syntax error: {text} at '{fragment}'"
  | badInput fault => "invalid input: " ++ fault.message
  | badDocument fault => "invalid document: " ++ fault.message
  | notFound typeId id => s!"object {id} of type {typeId} not found"
  | conflict expected actual => s!"version mismatch: expected {expected}, got {actual}"
  | danglingReference typeId identifier => s!"referenced {typeId} '{identifier}' not found"
  | evaluation fault => "evaluation error: " ++ fault.message

/-- Whether the request itself is at fault, whatever is stored. -/
def isInvalidInput : Error → Bool
  | badText _ _ => true
  | badInput _ => true
  | _ => false

end Error
end Storefront
