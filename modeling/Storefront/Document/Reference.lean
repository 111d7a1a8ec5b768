import Storefront.Json.Basic

/-!
References to documents: a type and an id or a key. An object of a document that has the form of a
reference may carry the document it refers to as its member `obj`; what is stored never does.
-/
namespace Storefront

/-- Names a document by its type and its id, or its key if there is no id. -/
structure Reference where
  typeId : String
  id : Option String
  key : Option String
deriving DecidableEq, Repr

namespace Reference

/-- The member in which a reference carries its target. -/
def targetField : String := "obj"

/-- The reference that a value is: it needs a type and an id or a key, all of them strings. -/
def ofValue? (value : Json) : Option Reference :=
  match (value.field? "typeId").bind (·.string?) with
  | none => none
  | some typeId =>
    match (value.field? "id").bind (·.string?), (value.field? "key").bind (·.string?) with
    | none, none => none
    | id, key => some ⟨typeId, id, key⟩

def optional? (value : Json) (name : String) : Option (Option String) :=
  match value.field? name with
  | none => some none
  | some .null => some none
  | some (.string text) => some (some text)
  | some _ => none

/-- The reference that a request names. Neither id nor key has to be there, but what is there has
to be a string. -/
def ofJson? (value : Json) : Option Reference := do
  let typeId ← (value.field? "typeId").bind (·.string?)
  let id ← optional? value "id"
  let key ← optional? value "key"
  some ⟨typeId, id, key⟩

/-- The id or the key, as messages name the document. -/
def identifier (reference : Reference) : String :=
  (reference.id.or reference.key).getD ""

def toJson (reference : Reference) : Json :=
  .ofMembers (("typeId", .string reference.typeId) ::
    (reference.id.toList.map fun id => ("id", Json.string id)) ++
    (reference.key.toList.map fun key => ("key", Json.string key)))

end Reference

namespace Json

/-- Whether these members have a type as references do. -/
def hasTypeId (members : Dictionary Json) : Bool :=
  ((Dictionary.get? members "typeId").map isString).getD false

mutual
/-- The value without the targets that its references carry, at any depth. -/
def stripTargets : Json → Json
  | array items => array (stripItems items)
  | object members =>
    if hasTypeId members then
      object (Dictionary.erase (stripMembers members) Reference.targetField)
    else object (stripMembers members)
  | value => value

def stripItems : List Json → List Json
  | [] => []
  | item :: items => stripTargets item :: stripItems items

def stripMembers : List (String × Json) → List (String × Json)
  | [] => []
  | (name, value) :: members => (name, stripTargets value) :: stripMembers members
end

end Json
end Storefront
