import Storefront.Filter.Basic
import Storefront.Proofs.Document.Chronology
import Storefront.Proofs.Expansion.Growth
import Storefront.Proofs.Store.Operation

/-!
Time stamps along the life of a document. Its creation writes one time into both stamps, and each update
keeps the first and writes its own time into the other. If time does not run backwards, neither do the
texts, in the order that range filters have.
-/
namespace Storefront

/-! ### Stamps -/

namespace Document

variable {doc draft edited touched : Json} {created modified now : Instant} {id : String} {version : Nat}

/-- The times of creation and of the last change that a document tells. -/
structure Stamped (created modified : Instant) (doc : Json) : Prop where
  created : doc.field? "createdAt" = some (.string created.render)
  modified : doc.field? "lastModifiedAt" = some (.string modified.render)

theorem Stamped.stripTargets (stamped : Stamped created modified doc) :
    Stamped created modified doc.stripTargets := by
  constructor
  · rw [Json.field?_stripTargets doc (by decide), stamped.created]
    rfl
  · rw [Json.field?_stripTargets doc (by decide), stamped.modified]
    rfl

theorem stamped_ofDraft (made : ofDraft draft now freshId = .ok doc) : Stamped now now doc := by
  obtain ⟨shape, rfl⟩ := ofDraft_eq_ok_iff.mp made
  apply Stamped.stripTargets
  constructor
  · rw [Json.field?_setField_of_ne _ _ (by decide)]
    exact Json.field?_setField_self (by simpa using shape) _ _
  · exact Json.field?_setField_self (by simpa using shape) _ _

theorem stamped_touch_pinned (shape : edited.isObject = true)
    (kept : edited.field? "createdAt" = some (.string created.render))
    (touchedTo : touch (pinned edited id version) now = .ok touched) : Stamped created now touched := by
  obtain ⟨-, rfl⟩ := touch_eq_ok_iff.mp touchedTo
  constructor
  · rw [Json.field?_setField_of_ne _ _ (by decide), Json.field?_setField_of_ne _ _ (by decide), pinned,
      Json.field?_setField_of_ne _ _ (by decide), Json.field?_setField_of_ne _ _ (by decide), kept]
  · exact Json.field?_setField_self (by simpa using shape) _ _

/-- One member is not behind another, in the order that range filters have. -/
def NotBehind (first second : Option Json) : Prop :=
  ∃ a b order, first = some a ∧ second = some b ∧ Condition.orderWith a b = .ok order ∧ order ≠ .gt

/-- Versions of a document, the first one in front, in the order of their stamps. -/
structure Chronological (versions : List Json) : Prop where
  created : ∀ version ∈ versions,
    NotBehind (version.field? "createdAt") (version.field? "lastModifiedAt")
  modified : versions.Pairwise fun earlier later =>
    NotBehind (earlier.field? "lastModifiedAt") (later.field? "lastModifiedAt")

theorem notBehind_of_le {earlier later : Instant} (first : earlier.Ordinary) (second : later.Ordinary)
    (ordered : earlier ≤ later) :
    NotBehind (some (.string earlier.render)) (some (.string later.render)) :=
  ⟨_, _, _, rfl, rfl, rfl, first.compare_render second ordered⟩

theorem chronological_of_stamped {times : List Instant} {versions : List Json}
    (stamped : List.Forall₂ (Stamped created) times versions) (ordinary : ∀ time ∈ times, time.Ordinary)
    (begun : created.Ordinary) (since : ∀ time ∈ times, created ≤ time)
    (ordered : times.Pairwise (· ≤ ·)) : Chronological versions := by
  induction stamped with
  | nil => exact ⟨nofun, .nil⟩
  | @cons time version times versions here stamped ih =>
    obtain ⟨ahead, ordered⟩ := List.pairwise_cons.mp ordered
    obtain ⟨sound, soundLater⟩ := List.forall_mem_cons.mp ordinary
    obtain ⟨after, afterLater⟩ := List.forall_mem_cons.mp since
    have rest := ih soundLater afterLater ordered
    constructor
    · refine List.forall_mem_cons.mpr ⟨?_, rest.created⟩
      rw [here.created, here.modified]
      exact notBehind_of_le begun sound after
    · refine List.pairwise_cons.mpr ⟨?_, rest.modified⟩
      intro later member
      obtain ⟨next, among, there⟩ := Expansion.exists_of_mem_forall₂ stamped.flip later member
      rw [here.modified, there.modified]
      exact notBehind_of_le sound (soundLater next among) (ahead next among)

end Document

/-! ### Revisions -/

/-- An update of a document: the version that it names, its time and its edit. -/
structure Revision where
  expected : Nat
  now : Instant
  edit : Json → Except Error Json

/-- The edit of an object neither writes nor removes the time of creation. -/
def Revision.KeepsCreation (revision : Revision) : Prop :=
  ∀ doc edited, doc.isObject = true → revision.edit doc = .ok edited →
    edited.field? "createdAt" = doc.field? "createdAt"

namespace Store

/-- What revisions of a document store, one after the other, if all of them succeed. -/
def revise (store : Store) (place : Address) : List Revision → Except Error (List Json)
  | [] => .ok []
  | revision :: revisions =>
    match store.update place.tenant place.typeId place.id revision.expected revision.now
        revision.edit with
    | (.error e, _) => .error e
    | (.ok doc, after) => (after.revise place revisions).map (doc :: ·)

variable {store start after : Store} {place : Address} {doc before draft : Json} {created last now : Instant}
  {revision : Revision} {revisions : List Revision} {versions : List Json}

theorem create_stamped (made : store.create place.tenant place.typeId draft now freshId = (.ok doc, start))
    (named : Document.id? doc = some place.id) :
    start.document? place = some doc ∧ Document.Stamped now now doc := by
  obtain ⟨id, _, stored, _, rfl⟩ := create_succeeded made
  obtain ⟨drafted, fromDraft, rfl⟩ := create_stored made
  cases named.symm.trans stored.named
  exact ⟨by rw [document?_insert, if_pos rfl], (Document.stamped_ofDraft fromDraft).stripTargets⟩

/-- A revision keeps the time of creation and writes its own time. -/
theorem update_stamped (present : store.document? place = some before)
    (stamped : Document.Stamped created last before) (keeps : revision.KeepsCreation)
    (updated : store.update place.tenant place.typeId place.id revision.expected revision.now
      revision.edit = (.ok doc, after)) :
    after.document? place = some doc ∧ Document.Stamped created revision.now doc := by
  obtain ⟨found, edited, touched, stored, _, editedTo, touchedTo, rfl, valid, _, rfl⟩ :=
    update_succeeded updated
  cases present.symm.trans stored
  have shape : edited.isObject = true := by
    simpa [Document.isObject_touch touchedTo] using valid.object
  have kept : edited.field? "createdAt" = some (.string created.render) := by
    rw [keeps before edited (Json.isObject_of_field? stamped.created) editedTo, stamped.created]
  exact ⟨by rw [document?_insert, if_pos rfl],
    (Document.stamped_touch_pinned shape kept touchedTo).stripTargets⟩

/-- Along revisions the time of creation stays, and each of them leaves its own time. -/
theorem revise_stamped (present : store.document? place = some before)
    (stamped : Document.Stamped created last before)
    (keeps : ∀ revision ∈ revisions, revision.KeepsCreation)
    (revised : store.revise place revisions = .ok versions) :
    List.Forall₂ (Document.Stamped created) (revisions.map (·.now)) versions := by
  induction revisions generalizing store before last versions with
  | nil =>
    cases revised
    exact .nil
  | cons revision revisions ih =>
    obtain ⟨here, later⟩ := List.forall_mem_cons.mp keeps
    unfold revise at revised
    split at revised
    · contradiction
    · rename_i doc after updated
      obtain ⟨stored, next⟩ := update_stamped present stamped here updated
      obtain ⟨rest, others, rfl⟩ := Expansion.map_eq_ok_iff.mp revised
      exact .cons next (ih stored next later others)

/-- The time stamps of a document sort by time: if the times of its creation and of its updates never
decrease, no version was created after its last change in the order of its texts, and none was changed
before one that it follows. -/
theorem stamps_chronological
    (made : store.create place.tenant place.typeId draft now freshId = (.ok doc, start))
    (named : Document.id? doc = some place.id)
    (revised : start.revise place revisions = .ok versions)
    (keeps : ∀ revision ∈ revisions, revision.KeepsCreation)
    (ordered : (now :: revisions.map (·.now)).Pairwise (· ≤ ·))
    (ordinary : ∀ time ∈ now :: revisions.map (·.now), time.Ordinary) :
    Document.Chronological (doc :: versions) := by
  obtain ⟨present, first⟩ := create_stamped made named
  have stamped := List.Forall₂.cons first (revise_stamped present first keeps revised)
  have begun : now.Ordinary := ordinary now List.mem_cons_self
  have since : ∀ time ∈ now :: revisions.map (·.now), now ≤ time :=
    List.forall_mem_cons.mpr ⟨Instant.le_refl now, (List.pairwise_cons.mp ordered).1⟩
  exact Document.chronological_of_stamped stamped ordinary begun since ordered

/-- A cart made in the last second of 2016 is filled in the leap second behind it, and again when the new
year begins. -/
theorem stamps_chronological_across_leap_second :
    let place : Address := ⟨"shop", "cart", "c"⟩
    let created : Instant := ⟨1483228799, 500000000⟩
    let fill (expected : Nat) (now : Instant) (total : Nat) : Revision :=
      ⟨expected, now, fun doc => .ok (doc.setField "total" (.ofNat total))⟩
    let revisions := [fill 1 ⟨1483228799, 1200000000⟩ 5, fill 2 ⟨1483228800, 0⟩ 6]
    ∃ doc start versions,
      (empty {}).create "shop" "cart" (.object [("id", .string "c")]) created "" = (.ok doc, start) ∧
      Document.id? doc = some place.id ∧ start.revise place revisions = .ok versions ∧
      (∀ revision ∈ revisions, revision.KeepsCreation) ∧
      (created :: revisions.map (·.now)).Pairwise (· ≤ ·) ∧
      (∀ time ∈ created :: revisions.map (·.now), time.Ordinary) ∧
      Document.Chronological (doc :: versions) := by
  intro place created fill revisions
  obtain ⟨doc, start, made, named, succeeds⟩ : ∃ doc start,
      (empty {}).create "shop" "cart" (.object [("id", .string "c")]) created "" = (.ok doc, start) ∧
      Document.id? doc = some place.id ∧ (start.revise place revisions).isOk = true :=
    ⟨_, ((empty {}).create "shop" "cart" (.object [("id", .string "c")]) created "").2, rfl, rfl,
      by decide +kernel⟩
  obtain ⟨versions, revised⟩ := exists_of_isOk succeeds
  have keepsEach (expected : Nat) (now : Instant) (total : Nat) : (fill expected now total).KeepsCreation := by
    rintro doc _ - ⟨⟩
    exact Json.field?_setField_of_ne doc _ (by decide)
  have keeps : ∀ revision ∈ revisions, revision.KeepsCreation := by
    simp only [revisions, List.forall_mem_cons, keepsEach, List.not_mem_nil, false_implies, implies_true,
      and_self]
  have ordered : (created :: revisions.map (·.now)).Pairwise (· ≤ ·) := by
    decide
  have ordinary : ∀ time ∈ created :: revisions.map (·.now), time.Ordinary := by
    have year : ∀ time ∈ created :: revisions.map (·.now), 0 ≤ time.year ∧ time.year ≤ 9999 := by decide
    have leap : ∀ time ∈ created :: revisions.map (·.now), time.nanoseconds < 1000000000 ∨
        time.seconds % 60 = 59 ∧ time.nanoseconds < 2000000000 := by decide
    exact fun time member => ⟨year time member, leap time member⟩
  exact ⟨doc, start, versions, made, named, revised, keeps, ordered, ordinary,
    stamps_chronological made named revised keeps ordered ordinary⟩

end Store
end Storefront
