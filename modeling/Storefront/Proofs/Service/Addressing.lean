import Storefront.Proofs.Service.Deletion

/-!
Whether a document that was created is found under its id. A segment of a path is an id unless it
begins with `key=`; then what follows is a key, and a document with such an id is found only if that
key leads to it.
-/
namespace Storefront

/-- A text has a beginning exactly if it is that beginning and what is left. -/
theorem Text.after?_eq_some_iff {beginning : String} {text rest : List Char} :
    after? beginning text = some rest ↔ text = beginning.toList ++ rest := by
  unfold after?
  split
  · rename_i isPrefix
    obtain ⟨behind, rfl⟩ := List.isPrefixOf_iff_prefix.mp isPrefix
    rw [← String.length_toList, List.drop_left, Option.some.injEq, List.append_cancel_left_eq]
  · rename_i other
    constructor
    · nofun
    · rintro rfl
      exact absurd (List.isPrefixOf_iff_prefix.mpr (List.prefix_append _ _)) other

namespace Service

variable {service after : Service} {project resource typeId segment id : String} {draft doc : Json}
  {around : Circumstances}

theorem isObject_applyFields (fields : Dictionary Json) (doc : Json) :
    (applyFields fields doc).isObject = doc.isObject := by
  induction fields generalizing doc with
  | nil => rfl
  | cons field fields ih =>
    have here : (applyField doc field).isObject = doc.isObject := by
      unfold applyField
      split
      · rfl
      · split
        · cases doc <;> rfl
        · exact Json.isObject_setField ..
    exact (ih (applyField doc field)).trans here

/-- A segment of a path leads to a document in its first version: reading gives it as it is, an update
stores its edit in its place, with the same id and the next version, and a deletion takes it out. -/
structure LeadsTo (service : Service) (project resource typeId segment id : String) (doc : Json) :
    Prop where
  get : service.get project resource segment [] = .ok doc
  update : ∀ around fields, ∃ touched,
    Document.touch (Document.pinned (applyFields fields doc) id 1) around.now = .ok touched ∧
    Document.id? touched = some id ∧ Document.version? touched = some 2 ∧
    service.update around project resource segment ⟨1, fields⟩ =
      (.ok touched.stripTargets,
        { service with
          store := service.store.modify project typeId (·.insert id touched.stripTargets) })
  delete : service.delete project resource segment [("version", "1")] =
    (.ok doc, service.without project typeId id)

/-- A document stored is what a segment leads to if it is what the segment finds. -/
theorem leadsTo_of_find (typed : typeIdFor resource = .ok typeId)
    (present : service.store.stored? project typeId id = some doc)
    (stored : Document.Stored id doc) (versioned : Document.version? doc = some 1)
    (found : find service.store project typeId segment [] = .ok doc) :
    LeadsTo service project resource typeId segment id doc := by
  have resolved : resolveId service.store project typeId segment = .ok id := by
    simp only [resolveId, found, stored.named]
  refine ⟨?_, ?_, ?_⟩
  · simp only [get, typed, bind, Except.bind]
    exact found
  · intro around fields
    have object : (applyFields fields doc).isObject = true :=
      (isObject_applyFields fields doc).trans stored.object
    obtain ⟨touched, touchedTo, updated⟩ := Store.update_of_version around.now
      (fun doc => .ok (applyFields fields doc)) present stored.nonempty versioned (by decide) rfl object
    obtain ⟨named, raised⟩ :=
      Document.touch_pinned_spec (Document.version_le versioned) object touchedTo
    refine ⟨touched, touchedTo, named, raised, ?_⟩
    simp only [update, typed, resolved, bind, Except.bind, updated, lift]
  · have removes : Removes service project resource segment [("version", "1")] typeId id doc :=
      ⟨typed, resolved, present, 1, by decide, versioned⟩
    exact delete_of_removes removes

theorem find_id (present : service.store.stored? project typeId id = some doc)
    (plain : ∀ key, id ≠ "key=" ++ key) : find service.store project typeId id [] = .ok doc := by
  have isId : Text.after? "key=" id.toList = none := by
    rw [Option.eq_none_iff_forall_ne_some]
    intro rest split
    have behind : (String.ofList rest).toList = rest := String.toList_ofList
    apply plain (String.ofList rest)
    rw [← String.toList_inj, String.toList_append, behind]
    exact Text.after?_eq_some_iff.mp split
  simp only [find, isId, Store.get, present, Store.expandFound, Store.expand_nil, Except.map]

theorem find_key_iff {key : String} :
    find service.store project typeId ("key=" ++ key) [] = .ok doc ↔
      service.store.storedByKey? project typeId key = some doc := by
  have isKey : Text.after? "key=" ("key=" ++ key).toList = some key.toList :=
    Text.after?_eq_some_iff.mpr String.toList_append
  simp only [find, isKey, Store.getByKey, String.ofList_toList]
  cases service.store.storedByKey? project typeId key with
  | none => exact ⟨nofun, nofun⟩
  | some found => simp only [Store.expandFound, Store.expand_nil, Except.map, Except.ok.injEq,
      Option.some.injEq]

theorem create_succeeded (created : service.create around project resource draft = (.ok doc, after)) :
    ∃ typeId id, typeIdFor resource = .ok typeId ∧ Document.Stored id doc ∧
      Document.version? doc = some 1 ∧ after.store.stored? project typeId id = some doc := by
  unfold create at created
  split at created
  · cases created
  · rename_i typeId typed
    rcases made : service.store.create project typeId draft around.now
      (around.freshId service.drawn) with ⟨error | stored, store⟩
    · rw [made] at created
      cases created
    · rw [made] at created
      cases created
      obtain ⟨id, -, isStored, versioned, rfl⟩ := Store.create_succeeded made
      refine ⟨typeId, id, typed, isStored, versioned, ?_⟩
      rw [Store.stored?_insert, if_pos ⟨rfl, rfl, rfl⟩]

/-- What was created is found under its id, unless the id begins as a key does. Then it is found
exactly if the rest of the id is a key that leads to it. -/
theorem created_document_addressed
    (created : service.create around project resource draft = (.ok doc, after)) :
    ∃ typeId id, typeIdFor resource = .ok typeId ∧ Document.id? doc = some id ∧
      ((∀ key, id ≠ "key=" ++ key) → LeadsTo after project resource typeId id id doc) ∧
      ∀ key, id = "key=" ++ key →
        (LeadsTo after project resource typeId id id doc ↔
          after.store.storedByKey? project typeId key = some doc) := by
  obtain ⟨typeId, id, typed, stored, versioned, present⟩ := create_succeeded created
  refine ⟨typeId, id, typed, stored.named, ?_, ?_⟩
  · intro plain
    exact leadsTo_of_find typed present stored versioned (find_id present plain)
  · rintro key rfl
    rw [← find_key_iff]
    constructor
    · intro leads
      have found := leads.get
      simp only [get, typed, bind, Except.bind] at found
      exact found
    · exact leadsTo_of_find typed present stored versioned

/-- A sign of keys further in does not matter; at the beginning it leads elsewhere. -/
theorem created_zones_addressed :
    let around : Circumstances := ⟨⟨0, 0⟩, fun _ => "fresh"⟩
    let create (id : String) := (empty {}).create around "shop" "zones" (.object [("id", .string id)])
    (∃ doc after, create "a/key=b" = (.ok doc, after) ∧
      LeadsTo after "shop" "zones" "zone" "a/key=b" "a/key=b" doc) ∧
    ∃ doc after, create "key=a" = (.ok doc, after) ∧
      ¬ LeadsTo after "shop" "zones" "zone" "key=a" "key=a" doc := by
  intro around create
  have typedZone : typeIdFor "zones" = .ok "zone" := rfl
  have plainId : (create "a/key=b").1.map Document.id? = .ok (some "a/key=b") := rfl
  have keyLikeId : (create "key=a").1.map Document.id? = .ok (some "key=a") := rfl
  have noKey : ((create "key=a").2.store.storedByKey? "shop" "zone" "a").isNone = true := rfl
  refine ⟨?_, ?_⟩
  · rcases created : create "a/key=b" with ⟨error | doc, after⟩
    · rw [created] at plainId
      contradiction
    · rw [created] at plainId
      refine ⟨doc, after, rfl, ?_⟩
      obtain ⟨typeId, id, typed, named, leads, -⟩ := created_document_addressed created
      cases typedZone.symm.trans typed
      cases named.symm.trans (Except.ok.inj plainId)
      apply leads
      intro key same
      have letters : "a/key=b".toList = "key=".toList ++ key.toList := by
        rw [← String.toList_append, ← same]
      have first : 'a' = 'k' := Option.some.inj (congrArg List.head? letters)
      contradiction
  · rcases created : create "key=a" with ⟨error | doc, after⟩
    · rw [created] at keyLikeId
      contradiction
    · rw [created] at keyLikeId noKey
      refine ⟨doc, after, rfl, ?_⟩
      obtain ⟨typeId, id, typed, named, -, leads⟩ := created_document_addressed created
      cases typedZone.symm.trans typed
      cases named.symm.trans (Except.ok.inj keyLikeId)
      rw [leads "a" rfl]
      intro found
      rw [found] at noKey
      contradiction

/-- A zone whose id begins as a key does is found under its id by no request, and where another zone
has the rest of the id as its key, this one is updated or deleted instead. -/
theorem created_zone_not_addressed :
    let around : Circumstances := ⟨⟨0, 0⟩, fun _ => "fresh"⟩
    let other := Json.object [("id", .string "b"), ("key", .string "a")]
    let draft := Json.object [("id", .string "key=a")]
    let alone := (empty {}).create around "shop" "zones" draft
    let beside := ((empty {}).create around "shop" "zones" other).2.create around "shop" "zones" draft
    let version : Parameters := [("version", "1")]
    (alone.1.map Document.id?) = .ok (some "key=a") ∧
    alone.2.get "shop" "zones" "key=a" [] = .error (.noDocument "zone" "key=a") ∧
    (alone.2.update around "shop" "zones" "key=a" ⟨1, []⟩).1 =
      .error (.noDocument "zone" "key=a") ∧
    (alone.2.delete "shop" "zones" "key=a" version).1 = .error (.noDocument "zone" "key=a") ∧
    (beside.1.map Document.id?) = .ok (some "key=a") ∧
    (beside.2.get "shop" "zones" "key=a" []).map Document.id? = .ok (some "b") ∧
    (beside.2.update around "shop" "zones" "key=a" ⟨1, []⟩).1.map Document.id? = .ok (some "b") ∧
    (beside.2.delete "shop" "zones" "key=a" version).1.map Document.id? = .ok (some "b") :=
  ⟨rfl, rfl, rfl, rfl, rfl, rfl, rfl, rfl⟩

end Service
end Storefront
