import Storefront.Proofs.Store.Atomicity
import Storefront.Service.Handlers

/-! Requests to delete a document. One that is refused changes nothing. One that is let through takes
the document out first, so an expansion that fails loses it. -/
namespace Storefront.Service

variable {service : Service} {project resource idOrKey typeId id : String} {parameters : Parameters}
  {doc : Json}

/-- A request is let through: it names a document stored, and its version. -/
structure Removes (service : Service) (project resource idOrKey : String) (parameters : Parameters)
    (typeId id : String) (doc : Json) : Prop where
  typed : typeIdFor resource = .ok typeId
  resolved : resolveId service.store project typeId idOrKey = .ok id
  present : service.store.stored? project typeId id = some doc
  versioned : ∃ version, expectedVersion parameters = .ok version ∧
    Document.version? doc = some version

/-- The service without a document. -/
def without (service : Service) (project typeId id : String) : Service :=
  { service with store := service.store.modify project typeId (·.erase id) }

theorem delete_of_removes (removes : Removes service project resource idOrKey parameters typeId id doc) :
    service.delete project resource idOrKey parameters =
      (lift ((service.without project typeId id).store.expand project
        (parameters.values "expand") doc), service.without project typeId id) := by
  obtain ⟨version, expected, versioned⟩ := removes.versioned
  simp only [delete, removes.typed, expected, removes.resolved, bind, Except.bind,
    Store.deleteVersioned_of_version removes.present versioned, ne_eq, not_true_eq_false, if_false,
    without]

/-- A request either deletes a document or fails and leaves the service as it is. -/
theorem delete_refused
    (refused : ∀ typeId id doc, ¬ Removes service project resource idOrKey parameters typeId id doc) :
    ∃ failure, service.delete project resource idOrKey parameters = (.error failure, service) := by
  cases typed : typeIdFor resource with
  | error failure => exact ⟨failure, by simp only [delete, typed, bind, Except.bind]⟩
  | ok typeId =>
    cases expected : expectedVersion parameters with
    | error failure => exact ⟨failure, by simp only [delete, typed, expected, bind, Except.bind]⟩
    | ok version =>
      cases resolved : resolveId service.store project typeId idOrKey with
      | error failure =>
        exact ⟨failure, by simp only [delete, typed, expected, resolved, bind, Except.bind]⟩
      | ok id =>
        rcases answer : service.store.deleteVersioned project typeId id version with ⟨error | doc, store⟩
        · cases Store.deleteVersioned_failed answer
          exact ⟨.operation error,
            by simp only [delete, typed, expected, resolved, bind, Except.bind, answer]⟩
        · obtain ⟨present, versioned, _⟩ := Store.deleteVersioned_succeeded answer
          exact absurd ⟨typed, resolved, present, version, expected, versioned⟩
            (refused typeId id doc)

theorem lift_eq_error_iff {outcome : Except Error α} {failure : Failure} :
    lift outcome = .error failure ↔ ∃ error, outcome = .error error ∧ .operation error = failure := by
  cases outcome <;> simp [lift]

/-- A request that is let through fails exactly if something stops the expansion of the document in
the store without it. -/
theorem delete_fails_iff (removes : Removes service project resource idOrKey parameters typeId id doc) :
    (∃ failure, (service.delete project resource idOrKey parameters).1 = .error failure) ↔
      Expansion.Obstructed ((service.without project typeId id).store.surroundings project)
        (parameters.values "expand") doc := by
  rw [delete_of_removes removes, ← Expansion.expand_fails_iff]
  simp only [lift_eq_error_iff]
  constructor
  · rintro ⟨_, error, failed, _⟩
    exact ⟨error, failed⟩
  · rintro ⟨error, failed⟩
    exact ⟨_, error, failed, rfl⟩

theorem document?_without (service : Service) (place : Address) :
    (service.without place.tenant place.typeId place.id).store.document? place = none :=
  (Store.document?_erase service.store place place).trans (if_pos rfl)

/-- A failing request loses no document, exactly if nothing stops the expansion of the document that
it is let through to delete. -/
theorem delete_atomic_iff (service : Service) (project resource idOrKey : String)
    (parameters : Parameters) :
    (∀ failure after, service.delete project resource idOrKey parameters = (.error failure, after) →
      ∀ place, after.store.document? place = service.store.document? place) ↔
    ∀ typeId id doc, Removes service project resource idOrKey parameters typeId id doc →
      ¬ Expansion.Obstructed ((service.without project typeId id).store.surroundings project)
        (parameters.values "expand") doc := by
  constructor
  · intro atomic typeId id doc removes obstructed
    obtain ⟨failure, failed⟩ := (delete_fails_iff removes).mpr obstructed
    have outcome := delete_of_removes removes
    have gone := document?_without service ⟨project, typeId, id⟩
    rw [outcome] at failed
    rw [atomic failure _ (outcome.trans (Prod.ext failed rfl)) ⟨project, typeId, id⟩] at gone
    exact nomatch gone.symm.trans removes.present
  · intro clear failure after failed place
    by_cases through : ∃ typeId id doc,
        Removes service project resource idOrKey parameters typeId id doc
    · obtain ⟨typeId, id, doc, removes⟩ := through
      exact absurd ((delete_fails_iff removes).mp ⟨failure, congrArg Prod.fst failed⟩)
        (clear typeId id doc removes)
    · obtain ⟨other, unchanged⟩ := delete_refused fun typeId id doc removes =>
        through ⟨typeId, id, doc, removes⟩
      cases failed.symm.trans unchanged
      rfl

/-- The exact extent to which deletion is all or nothing, in a store and behind a request. -/
theorem deletion_atomic_exactly (store : Store) (tenant typeId id : String) (clauses : List String)
    (service : Service) (project resource idOrKey : String) (parameters : Parameters) :
    ((∀ error after, store.delete tenant typeId id clauses = (.error error, after) →
        after = store) ↔
      ∀ doc, store.stored? tenant typeId id = some doc →
        ¬ Expansion.Obstructed ((store.modify tenant typeId (·.erase id)).surroundings tenant)
          clauses doc) ∧
    ((∀ failure after,
        service.delete project resource idOrKey parameters = (.error failure, after) →
        ∀ place, after.store.document? place = service.store.document? place) ↔
      ∀ typeId id doc, Removes service project resource idOrKey parameters typeId id doc →
        ¬ Expansion.Obstructed ((service.without project typeId id).store.surroundings project)
          (parameters.values "expand") doc) :=
  ⟨store.delete_atomic_iff tenant typeId id clauses,
    service.delete_atomic_iff project resource idOrKey parameters⟩

/-- A category is lost by a deletion whose clause cannot be read, and so it is by the request. -/
theorem malformed_clause_loses_category :
    let category := Json.object [("id", .string "a"), ("version", .ofNat 1)]
    let store := ((Store.empty {}).add "shop" "category" category).2
    let service : Service := ⟨store, 0⟩
    let request : Parameters := [("version", "1"), ("expand", "a[")]
    let place : Address := ⟨"shop", "category", "a"⟩
    store.document? place = some category ∧
    (store.delete "shop" "category" "a" ["a["]).1 = .error (.badInput (.expandClause "a[")) ∧
    (store.delete "shop" "category" "a" ["a["]).2.document? place = none ∧
    (service.delete "shop" "categories" "a" request).1 =
      .error (.operation (.badInput (.expandClause "a["))) ∧
    (service.delete "shop" "categories" "a" request).2.store.document? place = none := by
  intro category store service request place
  exact ⟨rfl, rfl, rfl, rfl, rfl⟩

end Storefront.Service
