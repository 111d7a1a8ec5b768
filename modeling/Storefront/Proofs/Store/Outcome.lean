import Storefront.Store.Basic
import Storefront.Proofs.Document.Validity
import Storefront.Proofs.Store.Collection

/-! What each operation gives and does. One law states what a changed store holds, and one pair of
laws for each operation what a failure and what a success of it mean; nothing else unfolds them. -/
namespace Storefront.Store

variable {store after : Store} {tenant typeId id freshId : String} {clauses : List String}
  {doc draft stored : Json} {now : Instant} {expected : Nat} {edit : Json → Except Error Json}
  {error : Error}

theorem collection?_modify (store : Store) (tenant typeId otherTenant otherType : String)
    (change : Collection → Collection) :
    (store.modify tenant typeId change).collection? otherTenant otherType =
      if tenant = otherTenant ∧ typeId = otherType then
        some (change ((store.collection? tenant typeId).getD Collection.empty))
      else store.collection? otherTenant otherType := by
  simp only [modify, collection?, Dictionary.get?_insert]
  by_cases here : tenant = otherTenant
  · subst here
    by_cases same : typeId = otherType
    · subst same
      cases Dictionary.get? store.tenants tenant <;> simp
    · cases Dictionary.get? store.tenants tenant <;> simp [Dictionary.get?_insert, same]
  · simp [here]

theorem stored?_eq_get? (store : Store) (tenant typeId id : String) :
    store.stored? tenant typeId id =
      ((store.collection? tenant typeId).getD Collection.empty).get? id := by
  unfold stored?
  cases store.collection? tenant typeId <;> rfl

theorem stored?_modify (store : Store) (tenant typeId otherTenant otherType other : String)
    (change : Collection → Collection) :
    (store.modify tenant typeId change).stored? otherTenant otherType other =
      if tenant = otherTenant ∧ typeId = otherType then
        (change ((store.collection? tenant typeId).getD Collection.empty)).get? other
      else store.stored? otherTenant otherType other := by
  rw [stored?_eq_get?, collection?_modify, stored?_eq_get?]
  by_cases here : tenant = otherTenant ∧ typeId = otherType
  · simp only [if_pos here, Option.getD_some]
  · simp only [if_neg here]

theorem stored?_insert (store : Store) (tenant typeId id otherTenant otherType other : String)
    (doc : Json) :
    (store.modify tenant typeId (·.insert id doc)).stored? otherTenant otherType other =
      if tenant = otherTenant ∧ typeId = otherType ∧ id = other then some doc
      else store.stored? otherTenant otherType other := by
  rw [stored?_modify, Collection.get?_insert, ← stored?_eq_get?]
  by_cases here : tenant = otherTenant ∧ typeId = otherType
  · obtain ⟨rfl, rfl⟩ := here
    simp only [and_self, true_and, if_true]
  · simp only [← and_assoc, here, false_and, if_false]

theorem stored?_erase (store : Store) (tenant typeId id otherTenant otherType other : String) :
    (store.modify tenant typeId (·.erase id)).stored? otherTenant otherType other =
      if tenant = otherTenant ∧ typeId = otherType ∧ id = other then none
      else store.stored? otherTenant otherType other := by
  rw [stored?_modify, Collection.get?_erase, ← stored?_eq_get?]
  by_cases here : tenant = otherTenant ∧ typeId = otherType
  · obtain ⟨rfl, rfl⟩ := here
    simp only [and_self, true_and, if_true]
  · simp only [← and_assoc, here, false_and, if_false]

/-! ### Adding and creating -/

theorem add_failed (failed : store.add tenant typeId doc = (.error error, after)) :
    after = store := by
  unfold add at failed
  split at failed <;> cases failed
  rfl

/-- What is added is a valid document, stored under its id without targets. -/
theorem add_succeeded (added : store.add tenant typeId doc = (.ok stored, after)) :
    ∃ id, Document.id? doc = some id ∧ Document.Stored id stored ∧ stored = doc.stripTargets ∧
      after = store.modify tenant typeId (·.insert id stored) := by
  unfold add at added
  split at added
  · cases added
  · rename_i id version valid
    cases added
    exact ⟨id, (Document.validate_eq_ok_iff.mp valid).2.1, Document.stored_stripTargets valid, rfl, rfl⟩

theorem create_failed (failed : store.create tenant typeId draft now freshId = (.error error, after)) :
    after = store := by
  unfold create at failed
  split at failed
  · cases failed
    rfl
  · split at failed
    · exact add_failed failed
    · split at failed
      · cases failed
        rfl
      · exact add_failed failed

/-- What is created has the first version and an id that was not in use. -/
theorem create_succeeded
    (created : store.create tenant typeId draft now freshId = (.ok stored, after)) :
    ∃ id, store.stored? tenant typeId id = none ∧ Document.Stored id stored ∧
      Document.version? stored = some 1 ∧
      after = store.modify tenant typeId (·.insert id stored) := by
  unfold create at created
  split at created
  · cases created
  · rename_i made draftMade
    obtain ⟨named, versioned⟩ := Document.ofDraft_spec draftMade
    rw [named] at created
    simp only at created
    split at created
    · cases created
    · rename_i free
      obtain ⟨id, same, stored, rfl, rfl⟩ := add_succeeded created
      cases named.symm.trans same
      exact ⟨_, by simpa using free, stored, by simpa using versioned, rfl⟩

/-- What is created is made of the draft and stripped. -/
theorem create_stored
    (created : store.create tenant typeId draft now freshId = (.ok doc, after)) :
    ∃ made, Document.ofDraft draft now freshId = .ok made ∧ doc = made.stripTargets := by
  unfold create at created
  split at created
  · cases created
  · rename_i made draftMade
    refine ⟨made, draftMade, ?_⟩
    split at created
    · obtain ⟨_, _, _, stripped, _⟩ := add_succeeded created
      exact stripped
    · split at created
      · cases created
      · obtain ⟨_, _, _, stripped, _⟩ := add_succeeded created
        exact stripped

/-! ### Versions -/

theorem currentVersion_eq_ok_iff {version : Nat} :
    store.currentVersion tenant typeId id = .ok version ↔
      ∃ doc, store.stored? tenant typeId id = some doc ∧ Document.version? doc = some version := by
  unfold currentVersion
  split
  · rename_i absent
    simp [absent]
  · rename_i doc present
    split
    · rename_i unversioned
      simp [present, unversioned]
    · rename_i current versioned
      simp [present, versioned]

theorem currentVersion_of_stored {version : Nat} (present : store.stored? tenant typeId id = some doc)
    (versioned : Document.version? doc = some version) :
    store.currentVersion tenant typeId id = .ok version :=
  currentVersion_eq_ok_iff.mpr ⟨doc, present, versioned⟩

/-! ### Deleting -/

@[simp] theorem expand_nil (store : Store) (tenant : String) (doc : Json) :
    store.expand tenant [] doc = .ok doc := rfl

theorem delete_of_absent (absent : store.stored? tenant typeId id = none)
    (clauses : List String) : store.delete tenant typeId id clauses = (.ok none, store) := by
  simp only [delete, absent]

theorem delete_of_stored (present : store.stored? tenant typeId id = some doc)
    (clauses : List String) :
    store.delete tenant typeId id clauses =
      (((store.modify tenant typeId (·.erase id)).expand tenant clauses doc).map some,
        store.modify tenant typeId (·.erase id)) := by
  simp only [delete, present]

theorem deleteVersioned_of_version {version : Nat}
    (present : store.stored? tenant typeId id = some doc)
    (versioned : Document.version? doc = some version) (expected : Nat) :
    store.deleteVersioned tenant typeId id expected =
      if version ≠ expected then (.error (.conflict expected version), store)
      else (.ok doc, store.modify tenant typeId (·.erase id)) := by
  simp only [deleteVersioned, currentVersion_of_stored present versioned,
    delete_of_stored present, expand_nil, Except.map]

theorem deleteVersioned_failed
    (failed : store.deleteVersioned tenant typeId id expected = (.error error, after)) :
    after = store := by
  cases current : store.currentVersion tenant typeId id with
  | error e =>
    simp only [deleteVersioned, current, Prod.mk.injEq] at failed
    exact failed.2.symm
  | ok version =>
    obtain ⟨doc, present, versioned⟩ := currentVersion_eq_ok_iff.mp current
    rw [deleteVersioned_of_version present versioned] at failed
    split at failed <;> cases failed
    rfl

theorem deleteVersioned_succeeded
    (deleted : store.deleteVersioned tenant typeId id expected = (.ok doc, after)) :
    store.stored? tenant typeId id = some doc ∧ Document.version? doc = some expected ∧
      after = store.modify tenant typeId (·.erase id) := by
  cases current : store.currentVersion tenant typeId id with
  | error e => simp only [deleteVersioned, current, Prod.mk.injEq, reduceCtorEq, false_and] at deleted
  | ok version =>
    obtain ⟨found, present, versioned⟩ := currentVersion_eq_ok_iff.mp current
    rw [deleteVersioned_of_version present versioned] at deleted
    split at deleted
    · cases deleted
    · rename_i same
      cases deleted
      exact ⟨present, versioned.trans (congrArg some (Decidable.not_not.mp same)), rfl⟩

/-! ### Updating -/

theorem update_stale {version : Nat} (present : store.stored? tenant typeId id = some doc)
    (versioned : Document.version? doc = some version) (stale : version ≠ expected) :
    store.update tenant typeId id expected now edit = (.error (.conflict expected version), store) := by
  simp only [update, currentVersion_of_stored present versioned, if_pos stale]

/-- An update that names the version of a document, and leaves an object, is let through. -/
theorem update_of_version {version : Nat} {edited : Json} (now : Instant)
    (edit : Json → Except Error Json)
    (present : store.stored? tenant typeId id = some doc) (named : id ≠ "")
    (versioned : Document.version? doc = some version) (below : version < Numeral.maxNatural)
    (editedTo : edit doc = .ok edited) (object : edited.isObject = true) :
    ∃ touched, Document.touch (Document.pinned edited id version) now = .ok touched ∧
      store.update tenant typeId id version now edit =
        (.ok touched.stripTargets, store.modify tenant typeId (·.insert id touched.stripTargets)) := by
  have range := Document.version_le versioned
  obtain ⟨touched, touchedTo⟩ := Document.exists_touch_pinned id now object below
  obtain ⟨same, raised⟩ := Document.touch_pinned_spec range object touchedTo
  have shape : touched.isObject = true := by
    rw [Document.isObject_touch touchedTo, Document.isObject_pinned, object]
  have valid : Document.validate touched = .ok (id, version + 1) :=
    Document.validate_eq_ok_iff.mpr ⟨shape, same, named, raised, Nat.succ_pos version⟩
  have added : store.add tenant typeId touched =
      (.ok touched.stripTargets, store.modify tenant typeId (·.insert id touched.stripTargets)) := by
    simp only [add, valid]
  refine ⟨touched, touchedTo, ?_⟩
  unfold Document.pinned at touchedTo
  simp only [update, currentVersion_of_stored present versioned, ne_eq, not_true_eq_false, if_false,
    present, editedTo, touchedTo, added]

theorem update_failed
    (failed : store.update tenant typeId id expected now edit = (.error error, after)) :
    after = store := by
  simp only [update] at failed
  split at failed
  · cases failed
    rfl
  · split at failed
    · cases failed
      rfl
    · split at failed
      · cases failed
        rfl
      · split at failed
        · cases failed
          rfl
        · split at failed
          · cases failed
            rfl
          · exact add_failed failed

/-- An update names the version stored. What it stores is its edit of the document stored, with the
id of before and the next version. -/
theorem update_succeeded
    (updated : store.update tenant typeId id expected now edit = (.ok stored, after)) :
    ∃ doc edited touched, store.stored? tenant typeId id = some doc ∧
      Document.version? doc = some expected ∧ edit doc = .ok edited ∧
      Document.touch (Document.pinned edited id expected) now = .ok touched ∧
      stored = touched.stripTargets ∧ Document.Stored id stored ∧
      Document.version? stored = some (expected + 1) ∧
      after = store.modify tenant typeId (·.insert id stored) := by
  simp only [update] at updated
  split at updated
  · cases updated
  · rename_i version current
    obtain ⟨doc, present, versioned⟩ := currentVersion_eq_ok_iff.mp current
    split at updated
    · cases updated
    · rename_i same
      cases Decidable.not_not.mp same
      rw [present] at updated
      simp only at updated
      split at updated
      · cases updated
      · rename_i edited editedTo
        split at updated
        · cases updated
        · rename_i touched touchedTo
          obtain ⟨key, named, stored, rfl, rfl⟩ := add_succeeded updated
          have object : edited.isObject = true := by
            simpa [Document.isObject_touch touchedTo] using stored.object
          obtain ⟨keyed, raised⟩ :=
            Document.touch_pinned_spec (Document.version_le versioned) object touchedTo
          cases named.symm.trans keyed
          exact ⟨doc, edited, touched, present, versioned, editedTo, touchedTo, rfl, stored,
            by simpa using raised, rfl⟩

end Storefront.Store
