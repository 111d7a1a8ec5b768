import Storefront.Proofs.Store.Outcome

/-! Calls of a store as data, and runs of them. A run goes on whatever the calls answer. -/
namespace Storefront

/-- Where a document is stored. -/
structure Address where
  tenant : String
  typeId : String
  id : String
deriving DecidableEq, Repr

/-- A call with all of its arguments, the time and the fresh id included. -/
inductive Operation where
  | add (tenant typeId : String) (doc : Json)
  | create (tenant typeId : String) (draft : Json) (now : Instant) (freshId : String)
  | get (place : Address) (clauses : List String)
  | query (tenant typeId : String) (params : QueryParams)
  | update (place : Address) (expected : Nat) (now : Instant) (edit : Json → Except Error Json)
  | delete (place : Address) (clauses : List String)
  | deleteVersioned (place : Address) (expected : Nat)

namespace Operation

def tenant : Operation → String
  | add tenant _ _ | create tenant _ _ _ _ | query tenant _ _ => tenant
  | get place _ | update place _ _ _ | delete place _ | deleteVersioned place _ => place.tenant

def typeId : Operation → String
  | add _ typeId _ | create _ typeId _ _ _ | query _ typeId _ => typeId
  | get place _ | update place _ _ _ | delete place _ | deleteVersioned place _ => place.typeId

end Operation

inductive Answer where
  | document (doc : Json)
  | lookup (found : Option Json)
  | page (page : Page)
deriving Repr

theorem exists_of_isOk {outcome : Except Error α} (succeeds : outcome.isOk = true) :
    ∃ value, outcome = .ok value := by
  cases outcome with
  | error error => contradiction
  | ok value => exact ⟨value, rfl⟩

namespace Store

/-- An outcome as the answer to a call. -/
def answered (wrap : α → Answer) (outcome : Except Error α × Store) : Except Error Answer × Store :=
  (outcome.1.map wrap, outcome.2)

def perform (store : Store) : Operation → Except Error Answer × Store
  | .add tenant typeId doc => answered .document (store.add tenant typeId doc)
  | .create tenant typeId draft now freshId =>
    answered .document (store.create tenant typeId draft now freshId)
  | .get place clauses =>
    answered .lookup (store.get place.tenant place.typeId place.id clauses, store)
  | .query tenant typeId params => answered .page (store.query tenant typeId params)
  | .update place expected now edit =>
    answered .document (store.update place.tenant place.typeId place.id expected now edit)
  | .delete place clauses =>
    answered .lookup (store.delete place.tenant place.typeId place.id clauses)
  | .deleteVersioned place expected =>
    answered .document (store.deleteVersioned place.tenant place.typeId place.id expected)

theorem ok_of_answered {outcome : Except Error α × Store}
    (succeeded : (answered wrap outcome).1.isOk = true) :
    ∃ value after, outcome = (.ok value, after) := by
  rcases outcome with ⟨_ | value, after⟩
  · contradiction
  · exact ⟨value, after, rfl⟩

/-- The store after some calls, one after the other. -/
def run (store : Store) (operations : List Operation) : Store :=
  operations.foldl (fun store operation => (store.perform operation).2) store

@[simp] theorem run_nil (store : Store) : store.run [] = store := rfl

@[simp] theorem run_cons (store : Store) (operation : Operation) (operations : List Operation) :
    store.run (operation :: operations) = (store.perform operation).2.run operations := rfl

theorem run_append (store : Store) (first second : List Operation) :
    store.run (first ++ second) = (store.run first).run second :=
  List.foldl_append

theorem run_invariant {P : Store → Prop}
    (preserves : ∀ store operation, P store → P (store.perform operation).2)
    (operations : List Operation) (initial : P store) : P (store.run operations) := by
  induction operations generalizing store with
  | nil => exact initial
  | cons operation operations ih => exact ih (preserves store operation initial)

/-! ### Documents by place -/

def document? (store : Store) (place : Address) : Option Json :=
  store.stored? place.tenant place.typeId place.id

theorem document?_insert (store : Store) (there place : Address) (doc : Json) :
    (store.modify there.tenant there.typeId (·.insert there.id doc)).document? place =
      if there = place then some doc else store.document? place := by
  obtain ⟨tenant, typeId, id⟩ := there
  obtain ⟨otherTenant, otherType, other⟩ := place
  simp only [document?, stored?_insert, Address.mk.injEq]

theorem document?_erase (store : Store) (there place : Address) :
    (store.modify there.tenant there.typeId (·.erase there.id)).document? place =
      if there = place then none else store.document? place := by
  obtain ⟨tenant, typeId, id⟩ := there
  obtain ⟨otherTenant, otherType, other⟩ := place
  simp only [document?, stored?_erase, Address.mk.injEq]

theorem document?_of_tenants {store after : Store} (same : after.tenants = store.tenants) :
    after.document? place = store.document? place := by
  simp only [document?, stored?, collection?, same]

/-! ### Effects -/

theorem remember_tenants (store : Store) (source : String) (predicate : Predicate) :
    (store.remember source predicate).tenants = store.tenants := by
  simp only [remember]
  split <;> rfl

theorem predicate_tenants (store : Store) (source : String) :
    (store.predicate source).2.tenants = store.tenants := by
  unfold predicate
  split
  · rfl
  · split
    · rfl
    · exact remember_tenants store source _

theorem compileAll_tenants (store : Store) (sources : List String) :
    (store.compileAll sources).2.tenants = store.tenants := by
  induction sources generalizing store with
  | nil => rfl
  | cons source sources ih =>
    have first := predicate_tenants store source
    unfold compileAll
    split
    · rename_i after compiled
      rwa [compiled] at first
    · rename_i predicate middle compiled
      rw [compiled] at first
      have rest := ih middle
      split
      · rename_i after others
        rw [others] at rest
        exact rest.trans first
      · rename_i predicates after others
        rw [others] at rest
        exact rest.trans first

/-- A query may change the predicates kept and nothing else. -/
theorem query_tenants (store : Store) (tenant typeId : String) (params : QueryParams) :
    (store.query tenant typeId params).2.tenants = store.tenants := by
  have compiled := compileAll_tenants store params.predicates
  unfold query
  split
  · rename_i after answer
    rwa [answer] at compiled
  · rename_i predicates after answer
    rwa [answer] at compiled

/-- All that a call can do: nothing to the documents, or store one or take one out in the collection
that it names. -/
inductive Effect (store : Store) (tenant typeId : String) : Store → Prop where
  | kept : after.tenants = store.tenants → Effect store tenant typeId after
  | stored (id : String) (doc : Json) : Document.Stored id doc →
      Effect store tenant typeId (store.modify tenant typeId (·.insert id doc))
  | removed (id : String) (doc : Json) : store.stored? tenant typeId id = some doc →
      Effect store tenant typeId (store.modify tenant typeId (·.erase id))

theorem perform_effect (store : Store) (operation : Operation) :
    Effect store operation.tenant operation.typeId (store.perform operation).2 := by
  cases operation with
  | add tenant typeId doc =>
    change Effect store tenant typeId (store.add tenant typeId doc).2
    rcases answer : store.add tenant typeId doc with ⟨_ | stored, after⟩
    · exact .kept (congrArg tenants (add_failed answer))
    · obtain ⟨id, _, valid, _, rfl⟩ := add_succeeded answer
      exact .stored id stored valid
  | create tenant typeId draft now freshId =>
    change Effect store tenant typeId (store.create tenant typeId draft now freshId).2
    rcases answer : store.create tenant typeId draft now freshId with ⟨_ | stored, after⟩
    · exact .kept (congrArg tenants (create_failed answer))
    · obtain ⟨id, _, valid, _, rfl⟩ := create_succeeded answer
      exact .stored id stored valid
  | get place clauses => exact .kept rfl
  | query tenant typeId params => exact .kept (query_tenants store tenant typeId params)
  | update place expected now edit =>
    obtain ⟨tenant, typeId, id⟩ := place
    change Effect store tenant typeId (store.update tenant typeId id expected now edit).2
    rcases answer : store.update tenant typeId id expected now edit with ⟨_ | stored, after⟩
    · exact .kept (congrArg tenants (update_failed answer))
    · obtain ⟨_, _, _, _, _, _, _, _, valid, _, rfl⟩ := update_succeeded answer
      exact .stored id stored valid
  | delete place clauses =>
    obtain ⟨tenant, typeId, id⟩ := place
    change Effect store tenant typeId (store.delete tenant typeId id clauses).2
    cases present : store.stored? tenant typeId id with
    | none =>
      rw [delete_of_absent present]
      exact .kept rfl
    | some doc =>
      rw [delete_of_stored present]
      exact .removed id doc present
  | deleteVersioned place expected =>
    obtain ⟨tenant, typeId, id⟩ := place
    change Effect store tenant typeId (store.deleteVersioned tenant typeId id expected).2
    rcases answer : store.deleteVersioned tenant typeId id expected with ⟨_ | doc, after⟩
    · exact .kept (congrArg tenants (deleteVersioned_failed answer))
    · obtain ⟨present, _, rfl⟩ := deleteVersioned_succeeded answer
      exact .removed id doc present

end Store
end Storefront
