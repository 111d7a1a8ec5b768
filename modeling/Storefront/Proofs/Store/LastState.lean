import Storefront.Proofs.Expansion.Divergence
import Storefront.Proofs.Store.Request
import Storefront.Proofs.Store.Soundness

/-! What a deletion gives, beside what a reading just before it would have given. The document taken
out is expanded in the store without it, so the two differ where its expansion comes back to it. -/
namespace Storefront

namespace Collection

variable {collection : Collection} {id key : String} {doc : Json}

theorem toList_erase (present : collection.get? id = some doc) :
    (collection.erase id).toList =
      collection.order.filterMap fun other => if id = other then none else collection.get? other := by
  have found (other : String) : (collection.erase id).get? other =
      if id = other then none else collection.get? other := get?_erase collection id other
  have order : (collection.erase id).order = collection.order.filter (· ≠ id) := by
    simp only [erase, present]
  rw [toList, order, List.filterMap_filter]
  congr 1
  funext other
  by_cases same : id = other
  · simp [same]
  · simp [found, same, Ne.symm same]

/-- The first document that has a key stays the first if another one is taken out. -/
theorem getByKey?_erase (present : collection.get? id = some doc)
    (different : collection.getByKey? key ≠ some doc) :
    (collection.erase id).getByKey? key = collection.getByKey? key := by
  unfold getByKey? at different ⊢
  rw [toList_erase present]
  unfold toList at different ⊢
  generalize collection.order = order at different ⊢
  induction order with
  | nil => rfl
  | cons other order ih =>
    by_cases same : id = other
    · subst same
      have skipped : ¬ Document.key? doc = some key := by
        intro keyed
        simp [present, keyed] at different
      simp only [List.filterMap_cons, present, if_true, List.find?_cons, skipped, decide_false] at different ⊢
      exact ih different
    · cases found : collection.get? other with
      | none =>
        simp only [List.filterMap_cons, found, same, if_false] at different ⊢
        exact ih different
      | some head =>
        simp only [List.filterMap_cons, found, same, if_false, List.find?_cons] at different ⊢
        split
        · rfl
        · rename_i skipped
          simp only [skipped] at different
          exact ih different

theorem get?_of_getByKey? (found : collection.getByKey? key = some doc) :
    ∃ id, collection.get? id = some doc := by
  obtain ⟨id, _, present⟩ := List.mem_filterMap.mp (List.mem_of_find?_eq_some found)
  exact ⟨id, present⟩

end Collection

namespace Store
open Expansion (RefersTo Consults Lacks)

variable {store : Store} {tenant typeId id : String} {doc : Json} {clauses : List String}

theorem Sound.of_stored? (sound : store.Sound) (found : store.stored? tenant typeId id = some doc) :
    Document.Stored id doc := by
  obtain ⟨collection, there, present⟩ := Option.bind_eq_some_iff.mp found
  exact (sound tenant typeId collection there).of_get? present

theorem storedByKey?_of_collection? (there : store.collection? tenant typeId = some collection)
    (key : String) : store.storedByKey? tenant typeId key = collection.getByKey? key := by
  simp only [storedByKey?, there, Option.bind_some]

theorem collection?_erase (there : store.collection? tenant typeId = some collection) :
    (store.modify tenant typeId (·.erase id)).collection? tenant typeId =
      some (collection.erase id) := by
  rw [collection?_modify, if_pos ⟨rfl, rfl⟩, there, Option.getD_some]

/-- A reference to another document than the one taken out refers to it still. -/
theorem target?_erase (sound : store.Sound) (present : store.stored? tenant typeId id = some doc)
    {reference : Reference}
    (other : ¬ RefersTo (store.surroundings tenant) typeId id reference) :
    (store.modify tenant typeId (·.erase id)).target? tenant reference =
      store.target? tenant reference := by
  have named := (sound.of_stored? present).named
  have different : reference.typeId = typeId → store.target? tenant reference ≠ some doc :=
    fun sameType refers => other ⟨sameType, doc, refers, named⟩
  obtain ⟨referredType, referredId, referredKey⟩ := reference
  cases referredId with
  | some referred =>
    refine (stored?_erase store tenant typeId id tenant referredType referred).trans (if_neg ?_)
    rintro ⟨_, rfl, rfl⟩
    exact different rfl present
  | none =>
    cases referredKey with
    | none => rfl
    | some key =>
      change storedByKey? _ tenant referredType key = store.storedByKey? tenant referredType key
      by_cases sameType : typeId = referredType
      · subst sameType
        obtain ⟨collection, there, held⟩ := Option.bind_eq_some_iff.mp present
        rw [storedByKey?_of_collection? (collection?_erase there),
          storedByKey?_of_collection? there]
        apply Collection.getByKey?_erase held
        rw [← storedByKey?_of_collection? there]
        exact different rfl
      · simp only [storedByKey?, collection?_modify, sameType, and_false, if_false]

/-- What references to the type of the document taken out refer to has another id. -/
theorem id?_of_target?_erase (sound : store.Sound)
    (present : store.stored? tenant typeId id = some doc) {reference : Reference}
    (sameType : reference.typeId = typeId)
    (refers : (store.modify tenant typeId (·.erase id)).target? tenant reference = some target) :
    ∃ other, other ≠ id ∧ Document.id? target = some other := by
  obtain ⟨collection, there, held⟩ := Option.bind_eq_some_iff.mp present
  suffices ∃ other, (collection.erase id).get? other = some target by
    obtain ⟨other, found⟩ := this
    rw [Collection.get?_erase] at found
    split at found
    · contradiction
    · rename_i different
      exact ⟨other, Ne.symm different, ((sound tenant typeId collection there).of_get? found).named⟩
  obtain ⟨referredType, referredId, referredKey⟩ := reference
  cases (sameType : referredType = typeId)
  cases referredId with
  | some referred =>
    refine ⟨referred, ?_⟩
    have found : stored? _ tenant _ referred = some target := refers
    rwa [stored?, collection?_erase there, Option.bind_some] at found
  | none =>
    cases referredKey with
    | none => contradiction
    | some key =>
      have found : storedByKey? _ tenant _ key = some target := refers
      rw [storedByKey?_of_collection? (collection?_erase there)] at found
      exact Collection.get?_of_getByKey? found

/-- The store without a document lacks this document and no other. -/
theorem lacks_erase (sound : store.Sound) (present : store.stored? tenant typeId id = some doc) :
    Lacks typeId id (store.surroundings tenant)
      ((store.modify tenant typeId (·.erase id)).surroundings tenant) :=
  ⟨rfl, fun _ other => (target?_erase sound present other).symm,
    fun _ _ => id?_of_target?_erase sound present⟩

/-! ### Answers -/

/-- The expansion of the document at a place looks up a reference to this same document. -/
def ComesBack (store : Store) (tenant typeId id : String) (clauses : List String) : Prop :=
  ∃ doc reference, store.stored? tenant typeId id = some doc ∧
    Consults (store.surroundings tenant) clauses doc reference ∧
    RefersTo (store.surroundings tenant) typeId id reference

theorem get_of_stored (present : store.stored? tenant typeId id = some doc) (clauses : List String) :
    store.get tenant typeId id clauses = (store.expand tenant clauses doc).map some := by
  simp only [get, present, expandFound]

theorem delete_eq_get (sound : store.Sound) (straight : ¬ store.ComesBack tenant typeId id clauses) :
    (store.delete tenant typeId id clauses).1 = store.get tenant typeId id clauses := by
  cases present : store.stored? tenant typeId id with
  | none => simp only [delete_of_absent present, get, present, expandFound]
  | some doc =>
    have lacks := lacks_erase sound present
    have same := Expansion.expand_congr lacks.strict fun reference consults =>
      lacks.others reference fun refers => straight ⟨doc, reference, present, consults, refers⟩
    rw [delete_of_stored present, get_of_stored present, expand, expand, same]

/-- Where the reading succeeds, the deletion gives the same exactly if the expansion does not come
back to the document. -/
theorem delete_eq_get_iff (sound : store.Sound)
    (read : store.get tenant typeId id clauses = .ok answer) :
    (store.delete tenant typeId id clauses).1 = .ok answer ↔
      ¬ store.ComesBack tenant typeId id clauses := by
  constructor
  · rintro same ⟨doc, reference, present, consults, refers⟩
    rw [get_of_stored present] at read
    rw [delete_of_stored present] at same
    obtain ⟨expanded, here, rfl⟩ := Expansion.map_eq_ok_iff.mp read
    obtain ⟨other, there, equal⟩ := Expansion.map_eq_ok_iff.mp same
    cases equal
    exact (Expansion.expand_eq_iff (lacks_erase sound present) here).mp there reference consults refers
  · exact fun straight => read ▸ delete_eq_get sound straight

/-- Without strict references the two differ exactly if every clause can be read and the expansion
comes back to the document. -/
theorem delete_eq_get_iff_of_lenient (sound : store.Sound)
    (lenient : store.settings.strictReferences = false) :
    (store.delete tenant typeId id clauses).1 = store.get tenant typeId id clauses ↔
      (∃ source ∈ clauses, ∃ error, Expansion.readClause source = .error error) ∨
        ¬ store.ComesBack tenant typeId id clauses := by
  cases present : store.stored? tenant typeId id with
  | none =>
    have straight : ¬ store.ComesBack tenant typeId id clauses := by
      rintro ⟨doc, _, found, _⟩
      cases present.symm.trans found
    exact ⟨fun _ => .inr straight, fun _ => delete_eq_get sound straight⟩
  | some doc =>
    let after := store.modify tenant typeId (·.erase id)
    have before : (store.surroundings tenant).strict = false := lenient
    have later : (after.surroundings tenant).strict = false := lenient
    have malformed : (∃ error, store.expand tenant clauses doc = .error error) ↔
        ∃ source ∈ clauses, ∃ error, Expansion.readClause source = .error error :=
      Expansion.expand_fails_iff.trans (Expansion.obstructed_lenient_iff before)
    cases here : store.expand tenant clauses doc with
    | ok expanded =>
      have read : store.get tenant typeId id clauses = .ok (some expanded) := by
        rw [get_of_stored present, here]
        rfl
      have readable : ¬ ∃ source ∈ clauses, ∃ error, Expansion.readClause source = .error error := by
        rw [← malformed, here]
        rintro ⟨_, ⟨⟩⟩
      rw [read, delete_eq_get_iff sound read, or_iff_right readable]
    | error error =>
      have unread := (Expansion.expand_error_iff_of_lenient before).mp here
      have there : after.expand tenant clauses doc = .error error :=
        (Expansion.expand_error_iff_of_lenient later).mpr unread
      refine ⟨fun _ => .inl (malformed.mp ⟨error, here⟩), fun _ => ?_⟩
      rw [delete_of_stored present, get_of_stored present, here, there]

/-- The exact extent to which a deletion gives what a reading just before it would have given. -/
theorem deletion_gives_last_state_exactly (settings : Settings) (operations : List Operation)
    (tenant typeId id : String) (clauses : List String) :
    let store := (empty settings).run operations
    (¬ store.ComesBack tenant typeId id clauses →
      (store.delete tenant typeId id clauses).1 = store.get tenant typeId id clauses) ∧
    (∀ answer, store.get tenant typeId id clauses = .ok answer →
      ((store.delete tenant typeId id clauses).1 = .ok answer ↔
        ¬ store.ComesBack tenant typeId id clauses)) ∧
    (settings.strictReferences = false →
      ((store.delete tenant typeId id clauses).1 = store.get tenant typeId id clauses ↔
        (∃ source ∈ clauses, ∃ error, Expansion.readClause source = .error error) ∨
          ¬ store.ComesBack tenant typeId id clauses)) := by
  intro store
  have sound : store.Sound := run_empty_sound settings operations
  have kept : store.settings = settings := (succeeds_run (empty settings) operations).settings
  exact ⟨delete_eq_get sound, fun _ => delete_eq_get_iff sound,
    fun lenient => delete_eq_get_iff_of_lenient sound (kept ▸ lenient)⟩

/-- A category that is its own parent is read with its parent and deleted without. -/
theorem own_parent_lost_in_deletion :
    let bare := Json.object [("id", .string "a"), ("typeId", .string "category")]
    let category := Json.object [("id", .string "a"), ("parent", bare), ("version", .ofNat 1)]
    let store := ((empty {}).add "shop" "category" category).2
    store.get "shop" "category" "a" ["parent"] =
      .ok (some (category.setField "parent" (bare.setField "obj" category))) ∧
    (store.delete "shop" "category" "a" ["parent"]).1 = .ok (some category) ∧
    (store.delete "shop" "category" "a" ["parent"]).1 ≠ store.get "shop" "category" "a" ["parent"] := by
  intro bare category store
  refine ⟨rfl, rfl, fun same => ?_⟩
  let parentOf (answer : Except Error (Option Json)) : Option Json :=
    answer.toOption.join.bind fun doc => (doc.field? "parent").bind (·.field? "obj")
  have targets : none = some category := congrArg parentOf same
  contradiction

end Store
end Storefront
