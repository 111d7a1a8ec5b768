import Storefront.Proofs.Service.Addressing
import Storefront.Proofs.Service.Calls
import Storefront.Proofs.Store.Isolation
import Storefront.Proofs.Store.Order

/-!
Updates. The members that an update names are set or dropped, those that it may not touch apart; the
document gets the next version and the time of the update, and takes the place of the one before in a
store that is otherwise as it was.
-/
namespace Storefront

namespace Json
variable {value : Json}

theorem field?_setField (shape : value.isObject = true) (name other : String) (member : Json) :
    (value.setField name member).field? other =
      if name = other then some member else value.field? other := by
  split
  · rename_i same
    rw [← same, field?_setField_self shape]
  · rename_i different
    exact field?_setField_of_ne value member different

theorem field?_dropField (value : Json) (name other : String) :
    (value.dropField name).field? other = if name = other then none else value.field? other := by
  cases value with
  | object members => exact Dictionary.get?_erase members name other
  | _ => exact (ite_self _).symm

theorem Ordered.dropField (ordered : value.Ordered) (name : String) : (value.dropField name).Ordered := by
  cases value with
  | object members =>
    obtain ⟨here, inside⟩ := ordered_object_iff.mp ordered
    apply ordered_object_iff.mpr
    refine ⟨here.erase name, ?_⟩
    intro entry kept
    exact inside entry (List.mem_filter.mp kept).1
  | _ => exact ordered

end Json

/-! ### Editing -/

namespace Service

variable {doc : Json} {fields : Dictionary Json} {name : String}

theorem isObject_applyField (doc : Json) (field : String × Json) :
    (applyField doc field).isObject = doc.isObject :=
  isObject_applyFields [field] doc

theorem field?_applyField (object : doc.isObject = true) (unprotected : name ∉ protectedFields)
    (field : String × Json) :
    (applyField doc field).field? name =
      if field.1 = name then (if field.2.isNull then none else some field.2) else doc.field? name := by
  unfold applyField
  split
  · rename_i listed
    have different : field.1 ≠ name := fun same => unprotected (same ▸ listed)
    rw [if_neg different]
  · split
    · rw [Json.field?_dropField]
    · rw [Json.field?_setField object]

theorem field?_applyField_of_protected (listed : name ∈ protectedFields) (field : String × Json) :
    (applyField doc field).field? name = doc.field? name := by
  unfold applyField
  split
  · rfl
  · rename_i unlisted
    have different : field.1 ≠ name := fun same => unlisted (same ▸ listed)
    split
    · rw [Json.field?_dropField, if_neg different]
    · rw [Json.field?_setField_of_ne _ _ different]

/-- A member that is named has the value given for it, none if that is null. -/
theorem field?_applyFields (object : doc.isObject = true) (unprotected : name ∉ protectedFields)
    (ordered : Dictionary.Ordered fields) :
    (applyFields fields doc).field? name =
      match Dictionary.get? fields name with
      | none => doc.field? name
      | some value => if value.isNull then none else some value := by
  induction fields generalizing doc with
  | nil => rfl
  | cons field fields ih =>
    obtain ⟨later, rest⟩ := List.pairwise_cons.mp ordered
    have shape := (isObject_applyField doc field).trans object
    have step : applyFields (field :: fields) doc = applyFields fields (applyField doc field) := rfl
    rw [step, ih shape rest, field?_applyField object unprotected, Dictionary.get?]
    by_cases named : field.1 = name
    · have once : Dictionary.get? fields name = none := by
        cases again : Dictionary.get? fields name with
        | none => rfl
        | some value =>
          have before := later _ (Dictionary.mem_of_get? again)
          exact absurd (named ▸ before) (String.lt_irrefl _)
      simp only [once, named, if_true]
    · simp only [if_neg named]

theorem field?_applyFields_of_protected (listed : name ∈ protectedFields) :
    (applyFields fields doc).field? name = doc.field? name := by
  induction fields generalizing doc with
  | nil => rfl
  | cons field fields ih =>
    have step : applyFields (field :: fields) doc = applyFields fields (applyField doc field) := rfl
    rw [step, ih, field?_applyField_of_protected listed]

theorem ordered_applyFields (ordered : doc.Ordered) (given : ∀ field ∈ fields, field.2.Ordered) :
    (applyFields fields doc).Ordered := by
  induction fields generalizing doc with
  | nil => exact ordered
  | cons field fields ih =>
    obtain ⟨here, rest⟩ := List.forall_mem_cons.mp given
    have step : (applyField doc field).Ordered := by
      unfold applyField
      split
      · exact ordered
      · split
        · exact ordered.dropField field.1
        · exact ordered.setField field.1 here
    exact ih step rest

end Service

/-! ### Merged documents -/

namespace Document

variable {doc edited touched result : Json} {fields : Dictionary Json} {id : String} {version : Nat}
  {now : Instant}

/-- What a document has under a name once some fields were merged into it: a new version and a new time,
the id and the time of creation that it had, and any other member as it is named or else as it was. -/
def merged? (doc : Json) (fields : Dictionary Json) (version : Nat) (now : Instant) (name : String) :
    Option Json :=
  if name = "version" then some (.ofNat version)
  else if name = "lastModifiedAt" then some (.string now.render)
  else if name = "id" ∨ name = "createdAt" then doc.field? name
  else
    match Dictionary.get? fields name with
    | none => doc.field? name
    | some value => if value.isNull then none else some value

/-- A document with fields merged into it, stripped of targets as a whole. Its members stand in order if
those of all values that went into it do. -/
def Merges (doc : Json) (fields : Dictionary Json) (version : Nat) (now : Instant) (result : Json) :
    Prop :=
  ∃ whole : Json, whole.isObject = true ∧
    (∀ name, whole.field? name = merged? doc fields version now name) ∧
    (doc.Ordered → (∀ field ∈ fields, field.2.Ordered) → whole.Ordered) ∧
    result = whole.stripTargets

/-- An id that is read is a string member. -/
theorem field?_of_id? (named : id? doc = some id) : doc.field? "id" = some (.string id) := by
  obtain ⟨member, found, text⟩ := Option.bind_eq_some_iff.mp named
  cases member with
  | string value =>
    cases text
    exact found
  | _ => contradiction

theorem merges_of_touch (object : doc.isObject = true) (named : id? doc = some id)
    (range : version ≤ Numeral.maxNatural) (ordered : Dictionary.Ordered fields)
    (touchedTo : touch (pinned (Service.applyFields fields doc) id version) now = .ok touched) :
    Merges doc fields (version + 1) now touched.stripTargets := by
  have shape : (Service.applyFields fields doc).isObject = true :=
    (Service.isObject_applyFields fields doc).trans object
  obtain ⟨-, written⟩ := (touch_pinned_eq_ok_iff range shape).mp touchedTo
  refine ⟨touched, ?_, ?_, ?_, rfl⟩
  · rw [isObject_touch touchedTo, isObject_pinned, shape]
  · intro name
    have look : touched.field? name =
        if "lastModifiedAt" = name then some (.string now.render)
        else if "version" = name then some (.ofNat (version + 1))
        else if "id" = name then some (.string id)
        else (Service.applyFields fields doc).field? name := by
      rw [written, Json.field?_setField (by simpa using shape),
        Json.field?_setField (by simpa using shape), pinned,
        Json.field?_setField (by simpa using shape), Json.field?_setField shape]
      by_cases versioned : "version" = name <;> simp [versioned]
    rw [look, merged?]
    by_cases listed : name ∈ Service.protectedFields
    · rw [Service.field?_applyFields_of_protected listed]
      simp only [Service.protectedFields, List.mem_cons, List.not_mem_nil, or_false] at listed
      rcases listed with rfl | rfl | rfl | rfl
      · simp [field?_of_id? named]
      · simp
      · simp
      · simp
    · rw [Service.field?_applyFields object listed ordered]
      simp only [Service.protectedFields, List.mem_cons, List.not_mem_nil, or_false, not_or] at listed
      obtain ⟨notId, notVersion, notCreated, notModified⟩ := listed
      simp only [notId, notVersion, notCreated, notModified, Ne.symm notId, Ne.symm notVersion,
        Ne.symm notModified, or_self, if_false]
  · intro docOrdered given
    exact ordered_touch (ordered_pinned (Service.ordered_applyFields docOrdered given) id version) touchedTo

/-- What is merged is stored with the members of the whole, each of them stripped. -/
theorem Merges.field? (merges : Merges doc fields version now result) {name : String}
    (other : name ≠ Reference.targetField) :
    result.field? name = (merged? doc fields version now name).map Json.stripTargets := by
  obtain ⟨whole, -, members, -, rfl⟩ := merges
  rw [Json.field?_stripTargets whole other, members]

/-- The members that no field sets, of a document without targets. -/
theorem Merges.stamps (merges : Merges doc fields version now result) (bare : doc.Bare) :
    result.field? "id" = doc.field? "id" ∧ result.field? "createdAt" = doc.field? "createdAt" ∧
      result.field? "version" = some (.ofNat version) ∧
      result.field? "lastModifiedAt" = some (.string now.render) := by
  have kept (name : String) (other : name ≠ Reference.targetField) :
      (doc.field? name).map Json.stripTargets = doc.field? name := by
    rw [← Json.field?_stripTargets doc other, bare.stripTargets_eq]
  refine ⟨?_, ?_, ?_, ?_⟩
  · exact (merges.field? (by decide)).trans (kept "id" (by decide))
  · exact (merges.field? (by decide)).trans (kept "createdAt" (by decide))
  · exact merges.field? (by decide)
  · exact merges.field? (by decide)

end Document

/-! ### Stores -/

namespace Store

variable {store : Store} {tenant typeId id key : String} {doc : Json}

/-- A document has another one in its place, and everything else is as it was. -/
structure Replaced (store after : Store) (tenant typeId id : String) (doc : Json) : Prop where
  stored : after.stored? tenant typeId id = some doc
  others : ∀ other, other ≠ id → after.stored? tenant typeId other = store.stored? tenant typeId other
  order : (after.collection? tenant typeId).map (·.order) =
    (store.collection? tenant typeId).map (·.order)
  elsewhere : ∀ otherTenant otherType, ¬ (otherTenant = tenant ∧ otherType = typeId) →
    after.collection? otherTenant otherType = store.collection? otherTenant otherType

theorem replaced_insert {before : Json} (present : store.stored? tenant typeId id = some before)
    (doc : Json) :
    Replaced store (store.modify tenant typeId (·.insert id doc)) tenant typeId id doc := by
  refine ⟨?_, ?_, ?_, ?_⟩
  · rw [stored?_insert, if_pos ⟨rfl, rfl, rfl⟩]
  · intro other different
    rw [stored?_insert, if_neg fun same => different same.2.2.symm]
  · obtain ⟨collection, there, held⟩ := Option.bind_eq_some_iff.mp present
    rw [collection?_modify, if_pos ⟨rfl, rfl⟩, there]
    simp only [Option.getD_some, Option.map_some, Collection.insert, held, Option.isSome_some, if_true]
  · intro otherTenant otherType different
    rw [collection?_modify, if_neg fun same => different ⟨same.1.symm, same.2.symm⟩]

/-- The document found under a key is the first one that carries it. -/
theorem storedByKey?_eq_some_iff :
    store.storedByKey? tenant typeId key = some doc ↔
      Document.key? doc = some key ∧ ∃ before after, store.all tenant typeId = before ++ doc :: after ∧
        ∀ earlier ∈ before, Document.key? earlier ≠ some key := by
  rw [storedByKey?_eq_getByKey?, all_eq_toList, Collection.getByKey?,
    List.find?_eq_some_iff_append]
  simp only [decide_eq_true_eq, Bool.not_eq_eq_eq_not, Bool.not_true, decide_eq_false_iff_not]

end Store

/-! ### Requests -/

namespace Service

variable {service : Service} {project resource typeId segment id : String} {doc : Json}

/-- A segment is the id of a document, which does not begin as keys do, or a key that no document before
it carries. -/
def Addresses (store : Store) (project typeId segment id : String) (doc : Json) : Prop :=
  (segment = id ∧ ∀ key, id ≠ "key=" ++ key) ∨
    ∃ key before after, segment = "key=" ++ key ∧ Document.key? doc = some key ∧
      store.all project typeId = before ++ doc :: after ∧
      ∀ earlier ∈ before, Document.key? earlier ≠ some key

theorem resolveId_of_addresses (sound : service.store.Sound)
    (present : service.store.stored? project typeId id = some doc)
    (addressed : Addresses service.store project typeId segment id doc) :
    resolveId service.store project typeId segment = .ok id := by
  have found : find service.store project typeId segment [] = .ok doc := by
    rcases addressed with ⟨rfl, plain⟩ | ⟨key, before, after, rfl, carries, listed, first⟩
    · exact find_id present plain
    · exact find_key_iff.mpr (Store.storedByKey?_eq_some_iff.mpr ⟨carries, before, after, listed, first⟩)
  simp only [resolveId, found, (sound.of_stored? present).named]

theorem update_of_addresses (around : Circumstances) {request : UpdateRequest}
    (sound : service.store.Sound) (typed : typeIdFor resource = .ok typeId)
    (present : service.store.stored? project typeId id = some doc)
    (addressed : Addresses service.store project typeId segment id doc)
    (ordered : Dictionary.Ordered request.fields)
    (versioned : Document.version? doc = some request.version)
    (below : request.version < Numeral.maxNatural) :
    ∃ result, Document.Merges doc request.fields (request.version + 1) around.now result ∧
      service.update around project resource segment request =
        (.ok result,
          { service with store := service.store.modify project typeId (·.insert id result) }) := by
  have stored := sound.of_stored? present
  have resolved := resolveId_of_addresses sound present addressed
  have object : (applyFields request.fields doc).isObject = true :=
    (isObject_applyFields request.fields doc).trans stored.object
  obtain ⟨touched, touchedTo, updated⟩ := Store.update_of_version around.now
    (fun doc => .ok (applyFields request.fields doc)) present stored.nonempty versioned below rfl object
  refine ⟨touched.stripTargets, ?_, ?_⟩
  · exact Document.merges_of_touch stored.object stored.named (Document.version_le versioned) ordered
      touchedTo
  · simp only [update, typed, resolved, bind, Except.bind, updated, lift]

/-- After any calls to a service that was started afresh, an update that names the version of the
document its path leads to succeeds, below the last version there is. It merges the fields named into
the document, which keeps its id and its time of creation, and changes nothing else in the store. -/
theorem update_merges_named_fields (settings : Settings) (calls : List Call) (around : Circumstances)
    (request : UpdateRequest) (ordered : Dictionary.Ordered request.fields)
    (typed : typeIdFor resource = .ok typeId)
    (present : ((empty settings).performAll calls).store.stored? project typeId id = some doc)
    (addressed : Addresses ((empty settings).performAll calls).store project typeId segment id doc)
    (versioned : Document.version? doc = some request.version)
    (below : request.version < Numeral.maxNatural) :
    let service := (empty settings).performAll calls
    ∃ result after, service.update around project resource segment request = (.ok result, after) ∧
      Document.Merges doc request.fields (request.version + 1) around.now result ∧
      (result.field? "id" = doc.field? "id" ∧ result.field? "createdAt" = doc.field? "createdAt" ∧
        result.field? "version" = some (.ofNat (request.version + 1)) ∧
        result.field? "lastModifiedAt" = some (.string around.now.render)) ∧
      Store.Replaced service.store after.store project typeId id result := by
  intro service
  have sound : service.store.Sound := sound_performAll (sound_empty settings) calls
  obtain ⟨result, merges, updated⟩ :=
    update_of_addresses around sound typed present addressed ordered versioned below
  exact ⟨result, _, updated, merges, merges.stamps (sound.of_stored? present).bare,
    Store.replaced_insert present result⟩

/-- One member is set, one is dropped, and an id cannot be taken away from a category found by its
key. -/
theorem update_merges_fields_of_category :
    let around : Circumstances := ⟨⟨0, 0⟩, fun _ => "fresh"⟩
    let draft := Json.ofMembers
      [("id", .string "c"), ("key", .string "shirts"), ("name", .string "Shirts"), ("rank", .ofNat 1)]
    let service := (empty {}).performAll [.create around "shop" "categories" draft]
    let request : UpdateRequest :=
      ⟨1, [("id", .string "hijack"), ("rank", .null), ("slug", .string "shirts")]⟩
    ∃ result after, service.update around "shop" "categories" "key=shirts" request = (.ok result, after) ∧
      after.store.stored? "shop" "category" "c" = some result ∧
      result.field? "id" = some (.string "c") ∧ result.field? "version" = some (.ofNat 2) ∧
      result.field? "name" = some (.string "Shirts") ∧ result.field? "rank" = none ∧
      result.field? "slug" = some (.string "shirts") := by
  intro around draft service request
  have ordered : Dictionary.Ordered request.fields := by
    unfold Dictionary.Ordered
    decide
  have typed : typeIdFor "categories" = .ok "category" := rfl
  have addressed : Addresses service.store "shop" "category" "key=shirts" "c" _ :=
    .inr ⟨"shirts", [], [], rfl, rfl, rfl, nofun⟩
  obtain ⟨result, after, updated, merges, ⟨named, -, versioned, -⟩, replaced⟩ :=
    update_merges_named_fields {} [.create around "shop" "categories" draft] around request ordered typed
      rfl addressed rfl (by decide)
  refine ⟨result, after, updated, replaced.stored, named, versioned, ?_, ?_, ?_⟩
  · exact merges.field? (by decide)
  · exact merges.field? (by decide)
  · exact merges.field? (by decide)

end Service
end Storefront
