import Storefront.Document.Reference
import Storefront.Document.Timestamp
import Storefront.Decimal.Numeral
import Storefront.Error

/-!
Documents: JSON objects with a nonempty id and a version above zero. A draft becomes a document by
getting these and two times; each change raises the version by one.
-/
namespace Storefront.Document

def id? (doc : Json) : Option String :=
  (doc.field? "id").bind (·.string?)

def key? (doc : Json) : Option String :=
  (doc.field? "key").bind (·.string?)

def version? (doc : Json) : Option Nat :=
  (doc.field? "version").bind (·.natural?)

/-- The id and the version of a value that can be stored. -/
def validate (doc : Json) : Except Error (String × Nat) :=
  if doc.isObject then
    match (id? doc).filter (· ≠ "") with
    | none => .error (.badDocument .missingId)
    | some id =>
      match (version? doc).filter (0 < ·) with
      | none => .error (.badDocument (.invalidVersion id))
      | some version => .ok (id, version)
  else .error (.badDocument .notObject)

/-- The id that a draft brings along: a string that is not empty. -/
def draftId? (draft : Json) : Option String :=
  (id? draft).filter (· ≠ "")

/-- Whether a draft has to be given an id. -/
def needsId (draft : Json) : Bool :=
  draft.isObject && (draftId? draft).isNone

/-- The document made of a draft. Version and times are set whatever the draft says; the fresh id
serves a draft without an id. -/
def ofDraft (draft : Json) (now : Instant) (freshId : String) : Except Error Json :=
  if draft.isObject then
    let stamp := Json.string now.render
    let stamped := (((draft.setField "id" (.string ((draftId? draft).getD freshId))).setField
      "version" (.ofNat 1)).setField "createdAt" stamp).setField "lastModifiedAt" stamp
    .ok stamped.stripTargets
  else .error (.badInput .draftNotObject)

/-- The document with its version raised by one and its time of modification set. -/
def touch (doc : Json) (now : Instant) : Except Error Json :=
  let version := (version? doc).getD 0
  if version < Numeral.maxNatural then
    .ok ((doc.setField "version" (.ofNat (version + 1))).setField "lastModifiedAt"
      (.string now.render))
  else .error (.badDocument (.lastVersion version))

end Storefront.Document
