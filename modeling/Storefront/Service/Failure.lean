import Storefront.Error
import Storefront.Json.Basic

/-!
Failures of requests: their causes, their status and the body of the answer.
-/
namespace Storefront

inductive BodyFault where
  | contentType
  | tooLong
  | unreadable
  | mismatched
deriving DecidableEq, Repr

inductive Failure where
  | operation (error : Error)
  | body (fault : BodyFault)
  | invalidValue (value parameter : String)
  | missingParameter (parameter : String)
  | unsupported (resource : String)
  | noDocument (typeId idOrKey : String)
deriving DecidableEq, Repr

def BodyFault.message : BodyFault → String
  | contentType => "Expected request with `Content-Type: application/json`"
  | tooLong => "Failed to buffer the request body"
  | unreadable => "Failed to parse the request body as JSON"
  | mismatched => "Failed to deserialize the JSON body into the target type"

namespace Failure

def message : Failure → String
  | operation error => error.message
  | body fault => fault.message
  | invalidValue value parameter => s!"'{value}' is not a valid value for '{parameter}'"
  | missingParameter parameter => s!"Missing required parameter '{parameter}'"
  | unsupported resource => s!"resource type '{resource}' is not supported"
  | noDocument typeId idOrKey => s!"The Resource with ID '{idOrKey}' of type '{typeId}' was not found."

def status : Failure → Nat
  | operation (.badText _ _) => 400
  | operation (.badInput _) => 400
  | operation (.badDocument _) => 400
  | operation (.conflict _ _) => 409
  | operation (.notFound _ _) => 404
  | operation (.danglingReference _ _) => 400
  | operation (.evaluation _) => 500
  | body _ => 400
  | invalidValue _ _ => 400
  | missingParameter _ => 400
  | unsupported _ => 404
  | noDocument _ _ => 404

def code : Failure → String
  | operation (.conflict _ _) => "ConcurrentModification"
  | operation (.notFound _ _) => "ResourceNotFound"
  | operation (.danglingReference _ _) => "ReferencedResourceNotFound"
  | operation (.evaluation _) => "General"
  | unsupported _ => "ResourceNotFound"
  | noDocument _ _ => "ResourceNotFound"
  | _ => "InvalidInput"

/-- The version stored, which the answer to a conflict gives. -/
def currentVersion? : Failure → Option Nat
  | operation (.conflict _ actual) => some actual
  | _ => none

def toJson (failure : Failure) : Json :=
  let message := Json.string failure.message
  let version := failure.currentVersion?.toList.map fun version =>
    ("currentVersion", Json.ofNat version)
  .ofMembers [("statusCode", .ofNat failure.status), ("message", message),
    ("errors", .array
      [.ofMembers ([("code", .string failure.code), ("message", message)] ++ version)])]

end Failure
end Storefront
