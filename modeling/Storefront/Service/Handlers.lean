import Storefront.Service.Parameters

/-!
What the service does for each kind of request: generic operations on the documents of a resource,
and the two searches. Documents are addressed by id or, with `key=` in front, by key.
-/
namespace Storefront

/-- The body of an update: the version last seen, and the members to set or, for null, to drop. -/
structure UpdateRequest where
  version : Nat
  fields : Dictionary Json
deriving Repr

/-- What a request finds around it: the time, and fresh ids by number. -/
structure Circumstances where
  now : Instant
  freshId : Nat → String

/-- The store behind the service, and how many fresh ids were used. -/
structure Service where
  store : Store
  drawn : Nat
deriving Repr

namespace Service

def empty (settings : Settings) : Service := ⟨Store.empty settings, 0⟩

/-- The resources and the types under which their documents are stored. -/
def resources : List (String × String) :=
  [("carts", "cart"), ("cart-discounts", "cart-discount"), ("categories", "category"),
   ("channels", "channel"), ("custom-objects", "key-value-document"),
   ("customer-groups", "customer-group"), ("customers", "customer"),
   ("discount-codes", "discount-code"), ("inventory", "inventory-entry"), ("orders", "order"),
   ("payments", "payment"), ("product-discounts", "product-discount"),
   ("product-types", "product-type"), ("products", "product"),
   ("shipping-methods", "shipping-method"), ("shopping-lists", "shopping-list"),
   ("states", "state"), ("stores", "store"), ("subscriptions", "subscription"),
   ("tax-categories", "tax-category"), ("types", "type"), ("zones", "zone")]

def typeIdFor (resource : String) : Except Failure String :=
  match resources.lookup resource with
  | some typeId => .ok typeId
  | none => .error (.unsupported resource)

/-- The members that an update leaves alone. -/
def protectedFields : List String := ["id", "version", "createdAt", "lastModifiedAt"]

/-- Runs an operation of the store as part of a request. -/
def lift {α : Type} : Except Error α → Except Failure α
  | .ok value => .ok value
  | .error e => .error (.operation e)

/-- A document by id or key, expanded. -/
def find (store : Store) (project typeId idOrKey : String) (expand : List String) :
    Except Failure Json :=
  let found := match Text.after? "key=" idOrKey.toList with
    | some key => store.getByKey project typeId (String.ofList key) expand
    | none => store.get project typeId idOrKey expand
  match found with
  | .error e => .error (.operation e)
  | .ok none => .error (.noDocument typeId idOrKey)
  | .ok (some doc) => .ok doc

def resolveId (store : Store) (project typeId idOrKey : String) : Except Failure String :=
  match find store project typeId idOrKey [] with
  | .error e => .error e
  | .ok doc =>
    match Document.id? doc with
    | some id => .ok id
    | none => .error (.noDocument typeId idOrKey)

def query (service : Service) (project resource : String) (parameters : Parameters) :
    Except Failure Page × Service :=
  match typeIdFor resource, parameters.queryParams with
  | .error e, _ => (.error e, service)
  | .ok _, .error e => (.error e, service)
  | .ok typeId, .ok params =>
    match service.store.query project typeId params with
    | (answer, store) => (lift answer, { service with store })

def get (service : Service) (project resource idOrKey : String) (parameters : Parameters) :
    Except Failure Json := do
  let typeId ← typeIdFor resource
  find service.store project typeId idOrKey (parameters.values "expand")

def create (around : Circumstances) (service : Service) (project resource : String) (draft : Json) :
    Except Failure Json × Service :=
  match typeIdFor resource with
  | .error e => (.error e, service)
  | .ok typeId =>
    match service.store.create project typeId draft around.now (around.freshId service.drawn) with
    | (answer, store) =>
      (lift answer, ⟨store, if Document.needsId draft then service.drawn + 1 else service.drawn⟩)

def applyField (doc : Json) (field : String × Json) : Json :=
  if field.1 ∈ protectedFields then doc
  else if field.2.isNull then doc.dropField field.1
  else doc.setField field.1 field.2

def applyFields (fields : Dictionary Json) (doc : Json) : Json :=
  fields.foldl applyField doc

def update (around : Circumstances) (service : Service) (project resource idOrKey : String)
    (request : UpdateRequest) : Except Failure Json × Service :=
  match (do let typeId ← typeIdFor resource
            let id ← resolveId service.store project typeId idOrKey
            .ok (typeId, id)) with
  | .error e => (.error e, service)
  | .ok (typeId, id) =>
    match service.store.update project typeId id request.version around.now
        (fun doc => .ok (applyFields request.fields doc)) with
    | (answer, store) => (lift answer, { service with store })

/-- The version that a deletion has to name. -/
def expectedVersion (parameters : Parameters) : Except Failure Nat :=
  match parameters.last? "version" with
  | none => .error (.missingParameter "version")
  | some value => Parameters.natural "version" value

/-- Deletes a document and gives its last state, expanded. The document is gone even if its
expansion fails. -/
def delete (service : Service) (project resource idOrKey : String) (parameters : Parameters) :
    Except Failure Json × Service :=
  match (do let typeId ← typeIdFor resource
            let version ← expectedVersion parameters
            let id ← resolveId service.store project typeId idOrKey
            .ok (typeId, version, id)) with
  | .error e => (.error e, service)
  | .ok (typeId, version, id) =>
    match service.store.deleteVersioned project typeId id version with
    | (.error e, store) => (.error (.operation e), { service with store })
    | (.ok doc, store) =>
      (lift (store.expand project (parameters.values "expand") doc), { service with store })

def searchProjections (service : Service) (project : String) (parameters : Parameters) :
    Except Failure Page := do
  let params ← parameters.projectionSearch
  lift (Catalog.searchProjections service.store project params)

def searchProducts (service : Service) (project : String) (request : ProductSearchRequest) :
    Except Failure Page :=
  lift (Catalog.search service.store project request)

end Service
end Storefront
