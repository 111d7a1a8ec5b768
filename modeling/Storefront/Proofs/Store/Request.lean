import Storefront.Catalog
import Storefront.Proofs.Store.Operation

/-! Requests: all that a store can be asked on behalf of one tenant, calls and searches included. Only
calls change a store, each in the one collection that it names; apart from that a store only comes to
keep predicates, and those it keeps are what their texts compile to. -/
namespace Storefront.Store

/-- A request with all of its arguments. Each names one tenant. -/
inductive Request where
  | call (operation : Operation)
  | getByKey (tenant typeId key : String) (clauses : List String)
  | resolve (tenant : String) (reference : Reference)
  | expand (tenant : String) (clauses : List String) (doc : Json)
  | all (tenant typeId : String)
  | count (tenant typeId : String)
  | searchProjections (tenant : String) (params : ProjectionSearchParams)
  | search (tenant : String) (request : ProductSearchRequest)

namespace Request

def tenant : Request → String
  | call operation => operation.tenant
  | getByKey tenant _ _ _ | resolve tenant _ | expand tenant _ _ | all tenant _ | count tenant _
  | searchProjections tenant _ | search tenant _ => tenant

/-- The type that a request names; an expansion names none, a search only looks at products. -/
def typeId? : Request → Option String
  | call operation => some operation.typeId
  | getByKey _ typeId _ _ | all _ typeId | count _ typeId => some typeId
  | resolve _ reference => some reference.typeId
  | expand _ _ _ => none
  | searchProjections _ _ | search _ _ => some Catalog.productType

end Request

inductive Reply where
  | answer (outcome : Except Error Answer)
  | documents (docs : List Json)
  | number (count : Nat)

def serve (store : Store) : Request → Reply × Store
  | .call operation => (.answer (store.perform operation).1, (store.perform operation).2)
  | .getByKey tenant typeId key clauses =>
    (.answer ((store.getByKey tenant typeId key clauses).map .lookup), store)
  | .resolve tenant reference => (.answer (.ok (.lookup (store.target? tenant reference))), store)
  | .expand tenant clauses doc => (.answer ((store.expand tenant clauses doc).map .document), store)
  | .all tenant typeId => (.documents (store.all tenant typeId), store)
  | .count tenant typeId => (.number (store.count tenant typeId), store)
  | .searchProjections tenant params =>
    (.answer ((Catalog.searchProjections store tenant params).map .page), store)
  | .search tenant request => (.answer ((Catalog.search store tenant request).map .page), store)

/-- The store after some requests, one after the other. -/
def serveAll (store : Store) (requests : List Request) : Store :=
  requests.foldl (fun store request => (store.serve request).2) store

@[simp] theorem serveAll_nil (store : Store) : store.serveAll [] = store := rfl

@[simp] theorem serveAll_cons (store : Store) (request : Request) (requests : List Request) :
    store.serveAll (request :: requests) = (store.serve request).2.serveAll requests := rfl

theorem serveAll_invariant {P : Store → Prop}
    (preserves : ∀ store request, P store → P (store.serve request).2)
    (requests : List Request) (initial : P store) : P (store.serveAll requests) := by
  induction requests generalizing store with
  | nil => exact initial
  | cons request requests ih => exact ih (preserves store request initial)

/-! ### What stays -/

theorem collection?_of_effect {store after : Store} (effect : Effect store tenant typeId after)
    (elsewhere : tenant ≠ otherTenant ∨ typeId ≠ otherType) :
    after.collection? otherTenant otherType = store.collection? otherTenant otherType := by
  have apart : ¬ (tenant = otherTenant ∧ typeId = otherType) := by
    rintro ⟨sameTenant, sameType⟩
    exact elsewhere.elim (· sameTenant) (· sameType)
  cases effect with
  | kept same => simp only [collection?, same]
  | stored id doc _ => rw [collection?_modify, if_neg apart]
  | removed id doc _ => rw [collection?_modify, if_neg apart]

/-- A request changes no collection but the one that it names. -/
theorem collection?_serve (store : Store) (request : Request)
    (elsewhere : request.tenant ≠ tenant ∨ request.typeId? ≠ some typeId) :
    (store.serve request).2.collection? tenant typeId = store.collection? tenant typeId := by
  cases request with
  | call operation =>
    apply collection?_of_effect (perform_effect store operation)
    exact elsewhere.imp_right fun different same => different (congrArg some same)
  | getByKey | resolve | expand | all | count | searchProjections | search => rfl

/-- What requests of other tenants leave is all that a tenant has. -/
theorem collection?_serveAll (store : Store) {requests : List Request}
    (others : ∀ request ∈ requests, request.tenant ≠ tenant) (typeId : String) :
    (store.serveAll requests).collection? tenant typeId = store.collection? tenant typeId := by
  induction requests generalizing store with
  | nil => rfl
  | cons request requests ih =>
    have rest := ih (store.serve request).2 fun later member =>
      others later (List.mem_cons_of_mem _ member)
    exact rest.trans (collection?_serve store request (.inl (others request List.mem_cons_self)))

/-! ### Settings and predicates kept -/

/-- Every predicate kept is what its text compiles to. -/
def Faithful (store : Store) : Prop :=
  ∀ source kept, Dictionary.get? store.predicates source = some kept →
    Predicate.compile source = .ok kept

/-- The later store has the same settings, and its predicates are faithful if the earlier ones are. -/
structure Succeeds (before after : Store) : Prop where
  settings : after.settings = before.settings
  faithful : before.Faithful → after.Faithful

variable {before middle after store : Store}

theorem Succeeds.refl (store : Store) : Succeeds store store :=
  ⟨rfl, id⟩

theorem Succeeds.trans (first : Succeeds before middle) (second : Succeeds middle after) :
    Succeeds before after :=
  ⟨second.settings.trans first.settings, second.faithful ∘ first.faithful⟩

theorem succeeds_modify (store : Store) (tenant typeId : String)
    (change : Collection → Collection) : Succeeds store (store.modify tenant typeId change) :=
  ⟨rfl, id⟩

theorem succeeds_remember {compiled : Predicate} (sound : Predicate.compile source = .ok compiled) :
    Succeeds store (store.remember source compiled) := by
  unfold remember
  dsimp only
  split
  · exact .refl store
  · refine ⟨rfl, fun faithful other kept found => ?_⟩
    rw [Dictionary.get?_insert] at found
    split at found
    · rename_i same
      cases found
      exact same ▸ sound
    · split at found
      · contradiction
      · exact faithful other kept found

theorem succeeds_predicate (store : Store) (source : String) :
    Succeeds store (store.predicate source).2 := by
  unfold predicate
  split
  · exact .refl store
  · split
    · exact .refl store
    · rename_i compiled
      exact succeeds_remember compiled

/-- Keeping predicates cannot be noticed: the answer is that of the compiler. -/
theorem Faithful.predicate (faithful : store.Faithful) (source : String) :
    (store.predicate source).1 = Predicate.compile source := by
  unfold Store.predicate
  split
  · rename_i kept found
    exact (faithful source kept found).symm
  · split <;> rename_i compiled <;> exact compiled.symm

theorem succeeds_compileAll (store : Store) (sources : List String) :
    Succeeds store (store.compileAll sources).2 := by
  induction sources generalizing store with
  | nil => exact .refl store
  | cons source sources ih =>
    have first := succeeds_predicate store source
    unfold compileAll
    split
    · rename_i answer
      rwa [answer] at first
    · rename_i middle answer
      rw [answer] at first
      have rest := ih middle
      split <;> rename_i others <;> rw [others] at rest <;> exact first.trans rest

theorem Faithful.compileAll (faithful : store.Faithful) (sources : List String) :
    (store.compileAll sources).1 = sources.mapM Predicate.compile := by
  induction sources generalizing store with
  | nil => rfl
  | cons source sources ih =>
    have answer := faithful.predicate source
    have kept := (succeeds_predicate store source).faithful faithful
    rw [List.mapM_cons, ← answer]
    rcases first : store.predicate source with ⟨error | predicate, middle⟩
    · simp only [Store.compileAll, first]
      rfl
    · rw [first] at kept
      have rest := ih kept
      rcases others : middle.compileAll sources with ⟨error | predicates, after⟩
      · rw [others] at rest
        simp only [Store.compileAll, first, others, ← rest]
        rfl
      · rw [others] at rest
        simp only [Store.compileAll, first, others, ← rest]
        rfl

theorem succeeds_query (store : Store) (tenant typeId : String) (params : QueryParams) :
    Succeeds store (store.query tenant typeId params).2 := by
  have compiled := succeeds_compileAll store params.predicates
  unfold query
  split <;> rename_i answer <;> rwa [answer] at compiled

theorem succeeds_perform (store : Store) (operation : Operation) :
    Succeeds store (store.perform operation).2 := by
  cases operation with
  | add tenant typeId doc =>
    change Succeeds store (store.add tenant typeId doc).2
    rcases answer : store.add tenant typeId doc with ⟨_ | stored, after⟩
    · exact add_failed answer ▸ .refl store
    · obtain ⟨id, _, _, _, rfl⟩ := add_succeeded answer
      exact succeeds_modify store tenant typeId (·.insert id stored)
  | create tenant typeId draft now freshId =>
    change Succeeds store (store.create tenant typeId draft now freshId).2
    rcases answer : store.create tenant typeId draft now freshId with ⟨_ | stored, after⟩
    · exact create_failed answer ▸ .refl store
    · obtain ⟨id, _, _, _, rfl⟩ := create_succeeded answer
      exact succeeds_modify store tenant typeId (·.insert id stored)
  | get place clauses => exact .refl store
  | query tenant typeId params => exact succeeds_query store tenant typeId params
  | update place expected now edit =>
    obtain ⟨tenant, typeId, id⟩ := place
    change Succeeds store (store.update tenant typeId id expected now edit).2
    rcases answer : store.update tenant typeId id expected now edit with ⟨_ | stored, after⟩
    · exact update_failed answer ▸ .refl store
    · obtain ⟨_, _, _, _, _, _, _, _, _, _, rfl⟩ := update_succeeded answer
      exact succeeds_modify store tenant typeId (·.insert id stored)
  | delete place clauses =>
    obtain ⟨tenant, typeId, id⟩ := place
    change Succeeds store (store.delete tenant typeId id clauses).2
    cases present : store.stored? tenant typeId id with
    | none => exact delete_of_absent present clauses ▸ .refl store
    | some doc => exact delete_of_stored present clauses ▸ succeeds_modify store tenant typeId (·.erase id)
  | deleteVersioned place expected =>
    obtain ⟨tenant, typeId, id⟩ := place
    change Succeeds store (store.deleteVersioned tenant typeId id expected).2
    rcases answer : store.deleteVersioned tenant typeId id expected with ⟨_ | doc, after⟩
    · exact deleteVersioned_failed answer ▸ .refl store
    · obtain ⟨_, _, rfl⟩ := deleteVersioned_succeeded answer
      exact succeeds_modify store tenant typeId (·.erase id)

theorem succeeds_run (store : Store) (operations : List Operation) :
    Succeeds store (store.run operations) :=
  run_invariant (fun middle operation so => so.trans (succeeds_perform middle operation)) operations
    (.refl store)

theorem succeeds_serve (store : Store) (request : Request) :
    Succeeds store (store.serve request).2 := by
  cases request with
  | call operation => exact succeeds_perform store operation
  | getByKey | resolve | expand | all | count | searchProjections | search => exact .refl store

theorem succeeds_serveAll (store : Store) (requests : List Request) :
    Succeeds store (store.serveAll requests) :=
  serveAll_invariant (fun middle request so => so.trans (succeeds_serve middle request)) requests
    (.refl store)

theorem faithful_empty (settings : Settings) : (empty settings).Faithful :=
  fun _ _ found => nomatch found

end Storefront.Store
