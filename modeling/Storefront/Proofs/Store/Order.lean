import Storefront.Proofs.Expansion.Decoration
import Storefront.Proofs.Store.LastState

/-! Stores in order: tenants, types and the members of every document stored stand in the order of
their names. Calls that are given values in order keep a store so. -/
namespace Storefront

namespace Document

variable {doc draft edited : Json}

theorem ordered_ofDraft (ordered : draft.Ordered) (made : ofDraft draft now freshId = .ok doc) :
    doc.Ordered := by
  obtain ⟨-, rfl⟩ := ofDraft_eq_ok_iff.mp made
  have named := ordered.setField "id" (Json.ordered_string ((draftId? draft).getD freshId))
  have versioned := named.setField "version" (Json.ordered_ofNat 1)
  have created := versioned.setField "createdAt" (Json.ordered_string now.render)
  exact (created.setField "lastModifiedAt" (Json.ordered_string now.render)).stripTargets

theorem ordered_pinned (ordered : edited.Ordered) (id : String) (version : Nat) :
    (pinned edited id version).Ordered :=
  (ordered.setField "id" (Json.ordered_string id)).setField "version" (Json.ordered_ofNat version)

theorem ordered_touch (ordered : edited.Ordered) (touched : touch edited now = .ok doc) :
    doc.Ordered := by
  obtain ⟨-, rfl⟩ := touch_eq_ok_iff.mp touched
  have raised := ordered.setField "version" (Json.ordered_ofNat ((version? edited).getD 0 + 1))
  exact raised.setField "lastModifiedAt" (Json.ordered_string now.render)

end Document

/-- The values that a call hands in are in order, and an edit keeps a value in order. -/
def Operation.Orderly : Operation → Prop
  | add _ _ doc => doc.Ordered
  | create _ _ draft _ _ => draft.Ordered
  | update _ _ _ edit => ∀ doc edited, doc.Ordered → edit doc = .ok edited → edited.Ordered
  | get _ _ | query _ _ _ | delete _ _ | deleteVersioned _ _ => True

namespace Store

structure Orderly (store : Store) : Prop where
  tenants : Dictionary.Ordered store.tenants
  types : ∀ tenant types, Dictionary.get? store.tenants tenant = some types → Dictionary.Ordered types
  documents : ∀ tenant typeId id doc, store.stored? tenant typeId id = some doc → doc.Ordered

variable {store after : Store} {tenant typeId id : String} {doc target : Json}

theorem orderly_empty (settings : Settings) : (empty settings).Orderly :=
  ⟨Dictionary.ordered_nil, fun _ _ => nofun, fun _ _ _ _ => nofun⟩

/-- A changed collection leaves tenants and types in order. -/
theorem Orderly.modify (orderly : store.Orderly) (tenant typeId : String)
    (change : Collection → Collection)
    (documents : ∀ otherTenant otherType other doc,
      (store.modify tenant typeId change).stored? otherTenant otherType other = some doc → doc.Ordered) :
    (store.modify tenant typeId change).Orderly := by
  have before : Dictionary.Ordered ((Dictionary.get? store.tenants tenant).getD []) := by
    cases found : Dictionary.get? store.tenants tenant with
    | none => exact Dictionary.ordered_nil
    | some types => exact orderly.types tenant types found
  refine ⟨orderly.tenants.insert tenant _, ?_, documents⟩
  intro other types found
  simp only [Store.modify, Dictionary.get?_insert] at found
  split at found
  · cases found
    exact before.insert typeId _
  · exact orderly.types other types found

theorem Orderly.insert (orderly : store.Orderly) (ordered : doc.Ordered) (tenant typeId id : String) :
    (store.modify tenant typeId (·.insert id doc)).Orderly := by
  apply orderly.modify
  intro otherTenant otherType other found there
  rw [stored?_insert] at there
  split at there
  · cases there
    exact ordered
  · exact orderly.documents otherTenant otherType other found there

theorem Orderly.erase (orderly : store.Orderly) (tenant typeId id : String) :
    (store.modify tenant typeId (·.erase id)).Orderly := by
  apply orderly.modify
  intro otherTenant otherType other found there
  rw [stored?_erase] at there
  split at there
  · contradiction
  · exact orderly.documents otherTenant otherType other found there

theorem Orderly.of_tenants (orderly : store.Orderly) (same : after.tenants = store.tenants) :
    after.Orderly := by
  refine ⟨same ▸ orderly.tenants, same ▸ orderly.types, ?_⟩
  intro tenant typeId id doc found
  rw [stored?, collection?, same] at found
  exact orderly.documents tenant typeId id doc found

/-! ### Calls -/

theorem Orderly.perform (orderly : store.Orderly) (call : Operation) (given : call.Orderly) :
    (store.perform call).2.Orderly := by
  cases call with
  | add tenant typeId doc =>
    change (store.add tenant typeId doc).2.Orderly
    rcases answer : store.add tenant typeId doc with ⟨_ | stored, after⟩
    · exact add_failed answer ▸ orderly
    · obtain ⟨id, _, _, rfl, rfl⟩ := add_succeeded answer
      exact orderly.insert (Json.Ordered.stripTargets given) tenant typeId id
  | create tenant typeId draft now freshId =>
    change (store.create tenant typeId draft now freshId).2.Orderly
    rcases answer : store.create tenant typeId draft now freshId with ⟨_ | stored, after⟩
    · exact create_failed answer ▸ orderly
    · obtain ⟨made, draftMade, stripped⟩ := create_stored answer
      obtain ⟨id, _, _, _, rfl⟩ := create_succeeded answer
      have ordered := (Document.ordered_ofDraft given draftMade).stripTargets
      exact orderly.insert (stripped ▸ ordered) tenant typeId id
  | get place clauses => exact orderly
  | query tenant typeId params => exact orderly.of_tenants (query_tenants store tenant typeId params)
  | update place expected now edit =>
    obtain ⟨tenant, typeId, id⟩ := place
    change (store.update tenant typeId id expected now edit).2.Orderly
    rcases answer : store.update tenant typeId id expected now edit with ⟨_ | stored, after⟩
    · exact update_failed answer ▸ orderly
    · obtain ⟨before, edited, touched, present, _, editedTo, touchedTo, rfl, _, _, rfl⟩ :=
        update_succeeded answer
      have ordered := given before edited (orderly.documents tenant typeId id before present) editedTo
      have pinned := Document.ordered_pinned ordered id expected
      exact orderly.insert (Document.ordered_touch pinned touchedTo).stripTargets tenant typeId id
  | delete place clauses =>
    obtain ⟨tenant, typeId, id⟩ := place
    change (store.delete tenant typeId id clauses).2.Orderly
    cases present : store.stored? tenant typeId id with
    | none => exact delete_of_absent present clauses ▸ orderly
    | some doc => exact delete_of_stored present clauses ▸ orderly.erase tenant typeId id
  | deleteVersioned place expected =>
    obtain ⟨tenant, typeId, id⟩ := place
    change (store.deleteVersioned tenant typeId id expected).2.Orderly
    rcases answer : store.deleteVersioned tenant typeId id expected with ⟨_ | doc, after⟩
    · exact deleteVersioned_failed answer ▸ orderly
    · obtain ⟨_, _, rfl⟩ := deleteVersioned_succeeded answer
      exact orderly.erase tenant typeId id

/-- From the empty store on, calls that hand in values in order keep it in order. -/
theorem orderly_run (settings : Settings) {operations : List Operation}
    (given : ∀ operation ∈ operations, operation.Orderly) :
    ((empty settings).run operations).Orderly := by
  have initial := orderly_empty settings
  generalize empty settings = store at initial ⊢
  induction operations generalizing store with
  | nil => exact initial
  | cons operation operations ih =>
    have first := initial.perform operation (given operation List.mem_cons_self)
    exact ih (fun later member => given later (List.mem_cons_of_mem _ member)) _ first

/-! ### What references refer to -/

/-- A reference refers to nothing but documents stored under its type. -/
theorem exists_stored?_of_target? (refers : store.target? tenant reference = some target) :
    ∃ id, store.stored? tenant reference.typeId id = some target := by
  obtain ⟨typeId, referredId, referredKey⟩ := reference
  cases referredId with
  | some id => exact ⟨id, refers⟩
  | none =>
    cases referredKey with
    | none => contradiction
    | some key =>
      obtain ⟨collection, there, found⟩ := Option.bind_eq_some_iff.mp refers
      obtain ⟨id, present⟩ := Collection.get?_of_getByKey? found
      exact ⟨id, Option.bind_eq_some_iff.mpr ⟨collection, there, present⟩⟩

theorem Orderly.surroundings (orderly : store.Orderly) (tenant : String) :
    (store.surroundings tenant).Ordered := by
  intro reference target refers
  obtain ⟨id, present⟩ := exists_stored?_of_target? refers
  exact orderly.documents tenant reference.typeId id target present

end Store
end Storefront
