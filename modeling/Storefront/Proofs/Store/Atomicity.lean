import Storefront.Proofs.Expansion.Obstruction
import Storefront.Proofs.Store.Operation

/-! Writes that fail. All but one leave the store as it is, so they may be left out of a run. A
deletion with clauses to expand is the exception: by the time it fails the document is gone. -/
namespace Storefront

/-- The writes that look before they change anything. -/
def Operation.prudent : Operation → Bool
  | add _ _ _ | create _ _ _ _ _ | update _ _ _ _ | deleteVersioned _ _ => true
  | get _ _ | query _ _ _ | delete _ _ => false

namespace Store

variable {store : Store} {tenant typeId id : String} {clauses : List String} {doc : Json}

/-- A write that fails, at whatever stage, leaves the store as it is. -/
theorem failed_write_leaves_store (store : Store) (tenant typeId : String) :
    (∀ doc error after, store.add tenant typeId doc = (.error error, after) → after = store) ∧
    (∀ draft now freshId error after,
      store.create tenant typeId draft now freshId = (.error error, after) → after = store) ∧
    (∀ id expected now edit error after,
      store.update tenant typeId id expected now edit = (.error error, after) → after = store) ∧
    (∀ id expected error after,
      store.deleteVersioned tenant typeId id expected = (.error error, after) → after = store) :=
  ⟨fun _ _ _ => add_failed, fun _ _ _ _ _ => create_failed, fun _ _ _ _ _ _ => update_failed,
    fun _ _ _ _ => deleteVersioned_failed⟩

/-! ### Runs without what fails -/

theorem answered_failed {outcome : Except Error α × Store}
    (law : ∀ error after, outcome = (.error error, after) → after = store)
    (failed : (answered wrap outcome).1.isOk = false) : (answered wrap outcome).2 = store := by
  rcases outcome with ⟨error | value, after⟩
  · exact law error after rfl
  · contradiction

theorem perform_failed (prudent : call.prudent = true)
    (failed : (store.perform call).1.isOk = false) : (store.perform call).2 = store := by
  cases call with
  | get | query | delete => contradiction
  | add tenant typeId doc => exact answered_failed (fun _ _ => add_failed) failed
  | create tenant typeId draft now freshId => exact answered_failed (fun _ _ => create_failed) failed
  | update place expected now edit => exact answered_failed (fun _ _ => update_failed) failed
  | deleteVersioned place expected =>
    exact answered_failed (fun _ _ => deleteVersioned_failed) failed

/-- Those of some calls that succeed where they stand in the run of all of them. -/
def succeeding (store : Store) : List Operation → List Operation
  | [] => []
  | call :: calls =>
    let later := succeeding (store.perform call).2 calls
    if (store.perform call).1.isOk then call :: later else later

theorem run_succeeding (prudent : ∀ call ∈ calls, call.prudent = true) :
    store.run (store.succeeding calls) = store.run calls := by
  induction calls generalizing store with
  | nil => rfl
  | cons call calls ih =>
    have rest : ∀ store : Store, store.run (store.succeeding calls) = store.run calls :=
      fun _ => ih fun later member => prudent later (List.mem_cons_of_mem _ member)
    cases outcome : (store.perform call).1.isOk with
    | true => simp only [succeeding, outcome, if_true, run_cons, rest]
    | false =>
      have same := perform_failed (prudent call List.mem_cons_self) outcome
      simp only [succeeding, outcome, Bool.false_eq_true, if_false, run_cons, rest, same]

/-! ### Deletion -/

/-- What an unversioned deletion of a document leads to when its clauses cannot be followed. -/
theorem delete_of_obstructed (present : store.stored? tenant typeId id = some doc)
    (obstructed : Expansion.Obstructed
      ((store.modify tenant typeId (·.erase id)).surroundings tenant) clauses doc) :
    ∃ error, store.delete tenant typeId id clauses =
      (.error error, store.modify tenant typeId (·.erase id)) := by
  obtain ⟨error, failed⟩ := Expansion.expand_fails_iff.mpr obstructed
  refine ⟨error, ?_⟩
  rw [delete_of_stored present, expand, failed]
  rfl

theorem modify_erase_ne (present : store.stored? tenant typeId id = some doc) :
    store.modify tenant typeId (·.erase id) ≠ store := by
  intro same
  have gone := stored?_erase store tenant typeId id tenant typeId id
  rw [same, present] at gone
  simp at gone

/-- A deletion is all or nothing exactly if nothing stops the expansion of the document in the store
without it. -/
theorem delete_atomic_iff (store : Store) (tenant typeId id : String) (clauses : List String) :
    (∀ error after, store.delete tenant typeId id clauses = (.error error, after) → after = store) ↔
      ∀ doc, store.stored? tenant typeId id = some doc →
        ¬ Expansion.Obstructed ((store.modify tenant typeId (·.erase id)).surroundings tenant)
          clauses doc := by
  constructor
  · intro atomic doc present obstructed
    obtain ⟨error, failed⟩ := delete_of_obstructed present obstructed
    exact modify_erase_ne present (atomic error _ failed)
  · intro clear error after failed
    cases present : store.stored? tenant typeId id with
    | none =>
      rw [delete_of_absent present] at failed
      cases failed
    | some doc =>
      rw [delete_of_stored present, Prod.mk.injEq] at failed
      exact absurd (Expansion.expand_fails_iff.mp ⟨error, Expansion.map_eq_error_iff.mp failed.1⟩)
        (clear doc present)

/-- Without strict references a deletion is all or nothing exactly if every clause can be read. -/
theorem delete_atomic_iff_of_lenient (lenient : store.settings.strictReferences = false)
    (present : store.stored? tenant typeId id = some doc) :
    (∀ error after, store.delete tenant typeId id clauses = (.error error, after) → after = store) ↔
      ∀ source ∈ clauses, ∃ clause, Expansion.readClause source = .ok clause := by
  rw [delete_atomic_iff]
  simp only [present, Option.some.injEq, forall_eq']
  rw [Expansion.obstructed_lenient_iff (by exact lenient)]
  constructor
  · intro clear source member
    cases read : Expansion.readClause source with
    | ok clause => exact ⟨clause, rfl⟩
    | error error => exact absurd ⟨source, member, error, read⟩ clear
  · rintro readable ⟨source, member, error, malformed⟩
    obtain ⟨clause, read⟩ := readable source member
    exact nomatch read.symm.trans malformed

end Store
end Storefront
