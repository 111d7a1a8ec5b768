import Storefront.Document.Basic

/-!
Collections: documents by id, remembered in the order in which their ids first came.
-/
namespace Storefront

structure Collection where
  documents : Dictionary Json
  order : List String
deriving Repr

namespace Collection

def empty : Collection := ⟨[], []⟩

def get? (collection : Collection) (id : String) : Option Json :=
  Dictionary.get? collection.documents id

/-- Puts a document under an id, in the place of one already there or else at the end. -/
def insert (collection : Collection) (id : String) (doc : Json) : Collection where
  documents := Dictionary.insert collection.documents id doc
  order := if (collection.get? id).isSome then collection.order else collection.order ++ [id]

def erase (collection : Collection) (id : String) : Collection :=
  match collection.get? id with
  | none => collection
  | some _ => ⟨Dictionary.erase collection.documents id, collection.order.filter (· ≠ id)⟩

/-- Takes out the document under an id and gives it, if there is one. -/
def remove (collection : Collection) (id : String) : Option Json × Collection :=
  (collection.get? id, collection.erase id)

def toList (collection : Collection) : List Json :=
  collection.order.filterMap collection.get?

/-- The first document in order that has a key. -/
def getByKey? (collection : Collection) (key : String) : Option Json :=
  collection.toList.find? fun doc => Document.key? doc = some key

def size (collection : Collection) : Nat :=
  collection.documents.length

def isEmpty (collection : Collection) : Bool :=
  collection.documents.isEmpty

end Collection
end Storefront
