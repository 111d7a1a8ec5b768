import Storefront.Expansion
import Storefront.Predicate.Grammar
import Storefront.Store.Collection
import Storefront.Store.Page
import Storefront.Store.Settings

/-!
The store: documents by tenant and type, with versions that guard every change.

An operation that may change the store gives its answer together with the store afterwards, also
when it fails. The time of a change and the id for a draft without one are given by the caller.
-/
namespace Storefront

structure QueryParams where
  predicates : List String := []
  expand : List String := []
  offset : Option Nat := none
  limit : Option Nat := none
  bindings : Variables := []
deriving Repr

structure Store where
  settings : Settings
  tenants : Dictionary (Dictionary Collection)
  /-- Compiled predicates by their text. -/
  predicates : Dictionary Predicate
deriving Repr

namespace Store

def empty (settings : Settings) : Store := ⟨settings, [], []⟩

/-! ### Reading -/

def collection? (store : Store) (tenant typeId : String) : Option Collection :=
  (Dictionary.get? store.tenants tenant).bind (Dictionary.get? · typeId)

/-- The document stored under an id, as it is. -/
def stored? (store : Store) (tenant typeId id : String) : Option Json :=
  (store.collection? tenant typeId).bind (·.get? id)

/-- The first document stored that has a key, as it is. -/
def storedByKey? (store : Store) (tenant typeId key : String) : Option Json :=
  (store.collection? tenant typeId).bind (·.getByKey? key)

/-- The document that a reference refers to: by id if it has one, else by key. -/
def target? (store : Store) (tenant : String) (reference : Reference) : Option Json :=
  match reference.id, reference.key with
  | some id, _ => store.stored? tenant reference.typeId id
  | none, some key => store.storedByKey? tenant reference.typeId key
  | none, none => none

def surroundings (store : Store) (tenant : String) : Expansion.Surroundings :=
  ⟨store.target? tenant, store.settings.strictReferences⟩

/-- A value with its references expanded along some clauses. -/
def expand (store : Store) (tenant : String) (clauses : List String) (doc : Json) :
    Except Error Json :=
  Expansion.expand (store.surroundings tenant) clauses doc

/-- The expanded form of a document, if there is one. -/
def expandFound (store : Store) (tenant : String) (clauses : List String) :
    Option Json → Except Error (Option Json)
  | none => .ok none
  | some doc => (store.expand tenant clauses doc).map some

def get (store : Store) (tenant typeId id : String) (clauses : List String) :
    Except Error (Option Json) :=
  store.expandFound tenant clauses (store.stored? tenant typeId id)

def getByKey (store : Store) (tenant typeId key : String) (clauses : List String) :
    Except Error (Option Json) :=
  store.expandFound tenant clauses (store.storedByKey? tenant typeId key)

def all (store : Store) (tenant typeId : String) : List Json :=
  ((store.collection? tenant typeId).map (·.toList)).getD []

def count (store : Store) (tenant typeId : String) : Nat :=
  ((store.collection? tenant typeId).map (·.size)).getD 0

/-- The tenants for which anything was ever stored. -/
def tenantNames (store : Store) : List String :=
  Dictionary.names store.tenants

def currentVersion (store : Store) (tenant typeId id : String) : Except Error Nat :=
  match store.stored? tenant typeId id with
  | none => .error (.notFound typeId id)
  | some doc =>
    match Document.version? doc with
    | none => .error (.badDocument (.noVersion typeId id))
    | some version => .ok version

/-! ### Writing -/

/-- The store with a collection changed, which is made if it is not there. -/
def modify (store : Store) (tenant typeId : String) (change : Collection → Collection) : Store :=
  let types := (Dictionary.get? store.tenants tenant).getD []
  let collection := (Dictionary.get? types typeId).getD Collection.empty
  { store with
    tenants := Dictionary.insert store.tenants tenant
      (Dictionary.insert types typeId (change collection)) }

/-- Stores a document under its id without looking at the version stored. What its references carry
is not stored. -/
def add (store : Store) (tenant typeId : String) (doc : Json) : Except Error Json × Store :=
  match Document.validate doc with
  | .error e => (.error e, store)
  | .ok (id, _) =>
    let stripped := doc.stripTargets
    (.ok stripped, store.modify tenant typeId (·.insert id stripped))

/-- Stores the document made of a draft, whose id must not be in use. -/
def create (store : Store) (tenant typeId : String) (draft : Json) (now : Instant)
    (freshId : String) : Except Error Json × Store :=
  match Document.ofDraft draft now freshId with
  | .error e => (.error e, store)
  | .ok doc =>
    match Document.id? doc with
    | none => store.add tenant typeId doc
    | some id =>
      if (store.stored? tenant typeId id).isSome then
        (.error (.badInput (.idTaken typeId id)), store)
      else store.add tenant typeId doc

/-- Takes a document out and gives it in expanded form. It is out even if its expansion fails, and a
reference to it is without a target by then. -/
def delete (store : Store) (tenant typeId id : String) (clauses : List String) :
    Except Error (Option Json) × Store :=
  match store.stored? tenant typeId id with
  | none => (.ok none, store)
  | some doc =>
    let after := store.modify tenant typeId (·.erase id)
    ((after.expand tenant clauses doc).map some, after)

/-- Takes a document out if its version is the one expected. -/
def deleteVersioned (store : Store) (tenant typeId id : String) (expected : Nat) :
    Except Error Json × Store :=
  match store.currentVersion tenant typeId id with
  | .error e => (.error e, store)
  | .ok current =>
    if current ≠ expected then (.error (.conflict expected current), store)
    else
      match store.delete tenant typeId id [] with
      | (.error e, after) => (.error e, after)
      | (.ok none, after) => (.error (.notFound typeId id), after)
      | (.ok (some doc), after) => (.ok doc, after)

/-- Stores an edited document if the version stored is the one expected. Whatever the edit does, the
id stays and the version goes up by one. -/
def update (store : Store) (tenant typeId id : String) (expected : Nat) (now : Instant)
    (edit : Json → Except Error Json) : Except Error Json × Store :=
  match store.currentVersion tenant typeId id with
  | .error e => (.error e, store)
  | .ok current =>
    if current ≠ expected then (.error (.conflict expected current), store)
    else
      match store.stored? tenant typeId id with
      | none => (.error (.notFound typeId id), store)
      | some doc =>
        match edit doc with
        | .error e => (.error e, store)
        | .ok edited =>
          let kept := (edited.setField "id" (.string id)).setField "version" (.ofNat current)
          match Document.touch kept now with
          | .error e => (.error e, store)
          | .ok touched => store.add tenant typeId touched

/-! ### Querying -/

/-- The predicates kept once one more is compiled: a full cache is emptied first. -/
def remember (store : Store) (source : String) (predicate : Predicate) : Store :=
  let size := store.settings.predicateCacheSize
  if size = 0 then store
  else
    let kept := if size ≤ store.predicates.length then [] else store.predicates
    { store with predicates := Dictionary.insert kept source predicate }

/-- The predicate of a text, compiled once as long as it is kept. -/
def predicate (store : Store) (source : String) : Except Error Predicate × Store :=
  match Dictionary.get? store.predicates source with
  | some kept => (.ok kept, store)
  | none =>
    match Predicate.compile source with
    | .error e => (.error e, store)
    | .ok compiled => (.ok compiled, store.remember source compiled)

/-- The predicates of some texts, up to the first that does not compile. -/
def compileAll (store : Store) : List String → Except Error (List Predicate) × Store
  | [] => (.ok [], store)
  | source :: sources =>
    match store.predicate source with
    | (.error e, after) => (.error e, after)
    | (.ok predicate, after) =>
      match compileAll after sources with
      | (.error e, after) => (.error e, after)
      | (.ok predicates, after) => (.ok (predicate :: predicates), after)

def filterDocs (condition : Json → Except Error Bool) : List Json → Except Error (List Json)
  | [] => .ok []
  | doc :: docs =>
    match condition doc with
    | .error e => .error e
    | .ok keep =>
      match filterDocs condition docs with
      | .error e => .error e
      | .ok kept => .ok (if keep then doc :: kept else kept)

/-- The page of the documents that satisfy all predicates; only what is on the page is expanded. -/
def select (store : Store) (tenant typeId : String) (params : QueryParams)
    (predicates : List Predicate) : Except Error Page :=
  match filterDocs (fun doc => predicates.allM (·.matchesWith params.bindings doc))
      (store.all tenant typeId) with
  | .error e => .error e
  | .ok matching =>
    let offset := params.offset.getD 0
    let limit := store.settings.effectiveLimit params.limit
    match (Page.slice offset limit matching).mapM (store.expand tenant params.expand) with
    | .error e => .error e
    | .ok results => .ok ⟨results.length, matching.length, offset, limit, results⟩

def query (store : Store) (tenant typeId : String) (params : QueryParams) :
    Except Error Page × Store :=
  match store.compileAll params.predicates with
  | (.error e, after) => (.error e, after)
  | (.ok predicates, after) => (after.select tenant typeId params predicates, after)

end Store
end Storefront
