import Storefront.Proofs.Expansion.Attachment
import Storefront.Proofs.Store.Order

/-! What the expansion of a value in a store is: the value with targets added, the right ones and all
of them, whatever the order in which the clauses are given. What was read in expanded form can be
added back without a change of the store. Values and stores are taken to be in order, as all are that
are read or built. -/
namespace Storefront

variable {tenant typeId id : String} {doc read : Json} {clauses : List String}

theorem Collection.Consistent.insert_of_get? {collection : Collection}
    (consistent : collection.Consistent) (found : collection.get? id = some doc) :
    collection.insert id doc = collection := by
  have documents : Dictionary.insert collection.documents id doc = collection.documents :=
    consistent.ordered.insert_of_get? found
  simp only [Collection.insert, documents, found, Option.isSome_some, if_true]

/-- A value that is a stored document with targets added is as valid as the document. -/
theorem Document.validate_of_stripTargets (stored : Document.Stored id doc)
    (same : read.stripTargets = doc) : ∃ version, Document.validate read = .ok (id, version) := by
  subst same
  obtain ⟨version, versioned, positive⟩ := stored.versioned
  refine ⟨version, Document.validate_eq_ok_iff.mpr ⟨?_, ?_, stored.nonempty, ?_, positive⟩⟩
  · simpa using stored.object
  · simpa using stored.named
  · simpa using versioned

namespace Store
open Expansion (Readable Reaches)

variable {store : Store}

/-- In a lenient store clauses that can be read never fail. -/
theorem expand_of_lenient (lenient : store.settings.strictReferences = false) (tenant : String)
    (readable : Readable clauses) (value : Json) : store.expand tenant clauses value =
      .ok (Expansion.fillAll (store.surroundings tenant) (Expansion.clausesOf clauses) value) :=
  Expansion.expand_of_lenient lenient readable value

/-- A category that is its own parent, so that its expansion can go on for ever. -/
def ownParent : Json :=
  .ofMembers [("id", .string "a"), ("version", .ofNat 1),
    ("parent", .ofMembers [("typeId", .string "category"), ("id", .string "a")])]

def addOwnParent : Operation := .add "shop" "category" ownParent

theorem ordered_ownParent : ownParent.Ordered := by
  have reference :
      (Json.ofMembers [("typeId", .string "category"), ("id", .string "a")]).Ordered := by
    apply Json.ordered_ofMembers
    simp [Json.ordered_string]
  apply Json.ordered_ofMembers
  simp [reference, Json.ordered_string, Json.ordered_ofNat]

theorem orderly_addOwnParent : ∀ operation ∈ [addOwnParent], operation.Orderly := by
  intro operation member
  cases List.mem_singleton.mp member
  exact ordered_ownParent

theorem readable_parents : Readable ["parent", "parent.parent"] := by
  intro source member
  rcases List.mem_cons.mp member with rfl | later
  · exact ⟨_, rfl⟩
  · cases List.mem_singleton.mp later
    exact ⟨_, rfl⟩

/-! ### Adding back -/

theorem modify_insert_of_stored (sound : store.Sound) (orderly : store.Orderly)
    (present : store.stored? tenant typeId id = some doc) :
    store.modify tenant typeId (·.insert id doc) = store := by
  obtain ⟨collection, there, found⟩ := Option.bind_eq_some_iff.mp present
  obtain ⟨types, ofTenant, ofType⟩ := Option.bind_eq_some_iff.mp there
  have same : collection.insert id doc = collection :=
    (sound tenant typeId collection there).consistent.insert_of_get? found
  have sameTypes : Dictionary.insert types typeId collection = types :=
    (orderly.types tenant types ofTenant).insert_of_get? ofType
  have sameTenants : Dictionary.insert store.tenants tenant types = store.tenants :=
    orderly.tenants.insert_of_get? ofTenant
  simp only [modify, ofTenant, ofType, Option.getD_some, same, sameTypes, sameTenants]

theorem add_of_stripTargets (sound : store.Sound) (orderly : store.Orderly)
    (present : store.stored? tenant typeId id = some doc) (same : read.stripTargets = doc) :
    store.add tenant typeId read = (.ok doc, store) := by
  obtain ⟨version, valid⟩ := Document.validate_of_stripTargets (sound.of_stored? present) same
  simp only [add, valid, same, modify_insert_of_stored sound orderly present]

theorem stripTargets_of_get (sound : store.Sound) (orderly : store.Orderly)
    (answer : store.get tenant typeId id clauses = .ok (some read)) :
    ∃ doc, store.stored? tenant typeId id = some doc ∧ read.stripTargets = doc := by
  cases present : store.stored? tenant typeId id with
  | none => simp [get, present, expandFound] at answer
  | some doc =>
    rw [get_of_stored present] at answer
    obtain ⟨expanded, here, same⟩ := Expansion.map_eq_ok_iff.mp answer
    cases same
    have ordered := orderly.documents tenant typeId id doc present
    have stripped := Expansion.stripTargets_expand (orderly.surroundings tenant) ordered here
    exact ⟨doc, rfl, stripped.trans (sound.of_stored? present).bare.stripTargets_eq⟩

/-- Expansion adds targets and nothing else. So a document that is read from a store, expanded along
any clauses, and added again under its tenant and type leaves the store exactly as it was. -/
theorem expansion_only_decorates :
    (∀ (store : Store) (tenant : String) (clauses : List String) (doc result : Json),
      store.Orderly → doc.Ordered → store.expand tenant clauses doc = .ok result →
      result.stripTargets = doc.stripTargets) ∧
    (∀ (settings : Settings) (operations : List Operation),
      (∀ operation ∈ operations, operation.Orderly) →
      let store := (empty settings).run operations
      ∀ tenant typeId id clauses read, store.get tenant typeId id clauses = .ok (some read) →
        ∃ doc, store.stored? tenant typeId id = some doc ∧
          store.add tenant typeId read = (.ok doc, store)) := by
  constructor
  · intro store tenant clauses doc result orderly ordered expanded
    exact Expansion.stripTargets_expand (orderly.surroundings tenant) ordered expanded
  · intro settings operations given store tenant typeId id clauses read answer
    have sound : store.Sound := run_empty_sound settings operations
    have orderly : store.Orderly := orderly_run settings given
    obtain ⟨doc, present, same⟩ := stripTargets_of_get sound orderly answer
    exact ⟨doc, present, add_of_stripTargets sound orderly present same⟩

/-- A category that is its own parent is read with its parent attached, and can be added back. -/
theorem expansion_only_decorates_own_parent :
    let store := (empty {}).run [addOwnParent]
    ∃ read, store.get "shop" "category" "a" ["parent"] = .ok (some read) ∧
      read.stripTargets = ownParent ∧
      ((read.field? "parent").bind (·.field? Reference.targetField)).isSome = true ∧
      store.add "shop" "category" read = (.ok ownParent, store) := by
  intro store
  obtain ⟨read, answer, expands, attached⟩ : ∃ read,
      store.get "shop" "category" "a" ["parent"] = .ok (some read) ∧
      store.expand "shop" ["parent"] ownParent = .ok read ∧
      ((read.field? "parent").bind (·.field? Reference.targetField)).isSome = true :=
    ⟨_, rfl, rfl, rfl⟩
  obtain ⟨decorates, addsBack⟩ := expansion_only_decorates
  have orderly : store.Orderly := orderly_run {} orderly_addOwnParent
  have stripped := decorates store "shop" ["parent"] ownParent read orderly ordered_ownParent expands
  obtain ⟨doc, present, added⟩ := addsBack {} [addOwnParent] orderly_addOwnParent "shop" "category" "a"
    ["parent"] read answer
  obtain rfl : ownParent = doc := Option.some.inj present
  exact ⟨read, answer, stripped.trans rfl, attached, added⟩

/-! ### Targets -/

theorem Sound.surroundings (sound : store.Sound) (tenant : String) :
    (store.surroundings tenant).Bare := by
  intro reference target refers
  obtain ⟨id, present⟩ := exists_stored?_of_target? refers
  exact (sound.of_stored? present).bare

/-- In a lenient store the expansion of a value without targets along any clauses carries the right
targets only: what carries a target, at whatever depth, is a reference to that target stripped. And
it carries all of them: what the way of a clause comes to in the expanded value and is a reference
carries a target, unless there is none that it refers to. -/
theorem expansion_attaches_exactly (settings : Settings) (lenient : settings.strictReferences = false)
    (operations : List Operation) (given : ∀ operation ∈ operations, operation.Orderly)
    (tenant : String) (doc : Json) (ordered : doc.Ordered) (bare : doc.stripTargets = doc)
    (clauses : List String) (readable : Readable clauses) :
    let store := (empty settings).run operations
    ∃ result, store.expand tenant clauses doc = .ok result ∧
      (∀ inner, Json.Part inner result → inner.CarriesTarget →
        ∃ reference target, Reference.ofValue? inner = some reference ∧
          inner.field? Reference.targetField = some target ∧
          store.target? tenant reference = some target.stripTargets) ∧
      (∀ source ∈ clauses, ∀ clause, Expansion.readClause source = .ok clause →
        ∀ reached reference, Reaches (store.surroundings tenant) clause result reached →
          Reference.ofValue? reached = some reference →
          (∃ target, reached.field? Reference.targetField = some target) ∨
            store.target? tenant reference = none) := by
  intro store
  have sound : store.Sound := run_empty_sound settings operations
  have orderly : store.Orderly := orderly_run settings given
  have passesOver : store.settings.strictReferences = false :=
    (congrArg Settings.strictReferences (succeeds_run (empty settings) operations).settings).trans lenient
  have targets := orderly.surroundings tenant
  have attested := Expansion.attested_fillAll targets (sound.surroundings tenant)
    (Expansion.clausesOf clauses) ordered (Expansion.attested_of_bare (bare ▸ doc.bare_stripTargets))
  refine ⟨_, expand_of_lenient passesOver tenant readable doc, attested, ?_⟩
  intro source member clause readAs reached reference reaches shape
  have among := Expansion.mem_clausesOf.mpr ⟨source, member, readAs⟩
  rw [← Expansion.fill_fillAll_of_mem targets among ordered] at reaches
  exact Expansion.settled_of_reaches reaches shape

/-- Of a category that is its own parent the parent and the parent's parent are attached, and what
carries the latter is a reference to the category stripped. -/
theorem expansion_attaches_own_parent :
    let store := (empty {}).run [addOwnParent]
    let reference := Json.ofMembers [("typeId", .string "category"), ("id", .string "a")]
    let once := reference.setField "obj" ownParent
    let twice := reference.setField "obj" (ownParent.setField "parent" once)
    let expanded := ownParent.setField "parent" twice
    Settings.strictReferences {} = false ∧ (∀ operation ∈ [addOwnParent], operation.Orderly) ∧
    ownParent.Ordered ∧ ownParent.stripTargets = ownParent ∧ Readable ["parent", "parent.parent"] ∧
    store.expand "shop" ["parent", "parent.parent"] ownParent = .ok expanded ∧
    ∃ refers target, Reference.ofValue? twice = some refers ∧
      twice.field? Reference.targetField = some target ∧
      store.target? "shop" refers = some target.stripTargets := by
  intro store reference once twice expanded
  have bare : ownParent.stripTargets = ownParent := rfl
  have answer : store.expand "shop" ["parent", "parent.parent"] ownParent = .ok expanded := rfl
  obtain ⟨result, expands, right, _⟩ := expansion_attaches_exactly {} rfl [addOwnParent]
    orderly_addOwnParent "shop" ownParent ordered_ownParent bare _ readable_parents
  obtain rfl : expanded = result := Except.ok.inj (answer.symm.trans expands)
  have inside : Json.Part twice expanded :=
    .member (List.mem_cons_of_mem _ List.mem_cons_self) (.self twice)
  have carries : twice.CarriesTarget := ⟨⟨"category", rfl⟩, ⟨_, rfl⟩⟩
  exact ⟨rfl, orderly_addOwnParent, ordered_ownParent, bare, readable_parents, answer,
    right twice inside carries⟩

/-! ### Independence -/

/-- In a lenient store the expansion of a value depends on which clauses there are and not on their
order or their number, and expanding the result once more gives the result. -/
theorem expansion_independent (store : Store) (lenient : store.settings.strictReferences = false)
    (orderly : store.Orderly) (tenant : String) (doc : Json) (ordered : doc.Ordered)
    (clauses : List String) (readable : Readable clauses) :
    ∃ result, store.expand tenant clauses doc = .ok result ∧
      (∀ others, (∀ source, source ∈ others ↔ source ∈ clauses) →
        store.expand tenant others doc = .ok result) ∧
      store.expand tenant clauses result = .ok result := by
  have targets := orderly.surroundings tenant
  refine ⟨_, expand_of_lenient lenient tenant readable doc, ?_, ?_⟩
  · intro others same
    have readableOthers : Readable others := fun source member =>
      readable source ((same source).mp member)
    have equal := Expansion.fillAll_eq_of_mem_iff targets (Expansion.clausesOf_mem_iff same) ordered
    exact (expand_of_lenient lenient tenant readableOthers doc).trans (congrArg Except.ok equal)
  · have again := Expansion.fillAll_fillAll_of_subset targets
      (fun clause (member : clause ∈ Expansion.clausesOf clauses) => member) ordered
    exact (expand_of_lenient lenient tenant readable _).trans (congrArg Except.ok again)

/-- The parent and the parent's parent can be asked for in either order, and one of them twice: the same
two parents are attached, and asking again attaches nothing new. -/
theorem expansion_independent_own_parent :
    let store := (empty {}).run [addOwnParent]
    let reference := Json.ofMembers [("typeId", .string "category"), ("id", .string "a")]
    let once := reference.setField "obj" ownParent
    let twice := reference.setField "obj" (ownParent.setField "parent" once)
    let expanded := ownParent.setField "parent" twice
    store.settings.strictReferences = false ∧ store.Orderly ∧ ownParent.Ordered ∧
    Readable ["parent", "parent.parent"] ∧
    store.expand "shop" ["parent", "parent.parent"] ownParent = .ok expanded ∧
    store.expand "shop" ["parent.parent", "parent", "parent"] ownParent = .ok expanded ∧
    store.expand "shop" ["parent", "parent.parent"] expanded = .ok expanded := by
  intro store reference once twice expanded
  have orderly : store.Orderly := orderly_run {} orderly_addOwnParent
  have answer : store.expand "shop" ["parent", "parent.parent"] ownParent = .ok expanded := rfl
  obtain ⟨result, expands, permuted, again⟩ := expansion_independent store rfl orderly "shop"
    ownParent ordered_ownParent ["parent", "parent.parent"] readable_parents
  obtain rfl : expanded = result := Except.ok.inj (answer.symm.trans expands)
  have same := permuted ["parent.parent", "parent", "parent"] (by simp [or_comm])
  exact ⟨rfl, orderly, ordered_ownParent, readable_parents, answer, same, again⟩

end Store
end Storefront
