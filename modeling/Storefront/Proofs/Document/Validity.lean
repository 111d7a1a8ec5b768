import Storefront.Document.Basic
import Storefront.Proofs.Document.Stripping

/-! What validation accepts, and the id and the version of documents made of drafts, of edited
values and of touched documents. -/
namespace Storefront.Document
open Json

variable {id freshId : String} {version : Nat} {doc draft edited value : Json} {now : Instant}

/-- Validation accepts exactly the objects with a nonempty id and a version above zero. -/
theorem validate_eq_ok_iff : validate doc = .ok (id, version) ↔
    doc.isObject = true ∧ id? doc = some id ∧ id ≠ "" ∧ version? doc = some version ∧
      0 < version := by
  unfold validate
  split
  · rename_i shape
    split
    · rename_i missing
      simp only [Option.filter_eq_none_iff, decide_eq_true_eq, Decidable.not_not] at missing
      constructor
      · exact fun accepted => nomatch accepted
      · rintro ⟨_, named, nonempty, _⟩
        exact absurd (missing id named) nonempty
    · rename_i found named
      obtain ⟨named, nonempty⟩ := Option.filter_eq_some_iff.mp named
      split
      · rename_i missing
        simp only [Option.filter_eq_none_iff, decide_eq_true_eq] at missing
        constructor
        · exact fun accepted => nomatch accepted
        · rintro ⟨_, _, _, versioned, positive⟩
          exact absurd positive (missing version versioned)
      · rename_i stored versioned
        obtain ⟨versioned, positive⟩ := Option.filter_eq_some_iff.mp versioned
        simp only [decide_eq_true_eq] at nonempty positive
        constructor
        · rintro ⟨⟩
          exact ⟨shape, named, nonempty, versioned, positive⟩
        · rintro ⟨_, same, _, equal, _⟩
          cases named.symm.trans same
          cases versioned.symm.trans equal
          rfl
  · rename_i shape
    constructor
    · exact fun accepted => nomatch accepted
    · exact fun accepted => absurd accepted.1 shape

/-- What every document of a collection is. -/
structure Stored (id : String) (doc : Json) : Prop where
  object : doc.isObject = true
  named : id? doc = some id
  nonempty : id ≠ ""
  versioned : ∃ version, version? doc = some version ∧ 1 ≤ version
  bare : doc.Bare

/-! ### Id and version under each change -/

@[simp] theorem id?_stripTargets (doc : Json) : id? doc.stripTargets = id? doc := by
  rw [id?, field?_stripTargets doc (by decide), id?]
  cases doc.field? "id" <;> simp

@[simp] theorem version?_stripTargets (doc : Json) : version? doc.stripTargets = version? doc := by
  rw [version?, field?_stripTargets doc (by decide), version?]
  cases doc.field? "version" <;> simp

/-- Stripping a valid document keeps it valid, since it keeps the id and the version. -/
theorem stored_stripTargets (valid : validate doc = .ok (id, version)) :
    Stored id doc.stripTargets := by
  obtain ⟨shape, named, nonempty, versioned, positive⟩ := validate_eq_ok_iff.mp valid
  exact ⟨by simpa using shape, by simpa using named, nonempty,
    ⟨version, by simpa using versioned, positive⟩, bare_stripTargets doc⟩

theorem id?_setField_self (shape : doc.isObject = true) (id : String) :
    id? (doc.setField "id" (.string id)) = some id := by
  rw [id?, field?_setField_self shape]
  rfl

theorem id?_setField_of_ne (doc member : Json) (other : name ≠ "id") :
    id? (doc.setField name member) = id? doc := by
  rw [id?, field?_setField_of_ne doc member other, id?]

theorem version?_setField_self (shape : doc.isObject = true)
    (range : version ≤ Numeral.maxNatural) :
    version? (doc.setField "version" (.ofNat version)) = some version := by
  rw [version?, field?_setField_self shape, Option.bind_some, natural?_ofNat range]

theorem version?_setField_of_ne (doc member : Json) (other : name ≠ "version") :
    version? (doc.setField name member) = version? doc := by
  rw [version?, field?_setField_of_ne doc member other, version?]

/-- A version is a count of 64 bits. -/
theorem version_le (versioned : version? doc = some version) : version ≤ Numeral.maxNatural := by
  obtain ⟨member, _, counted⟩ := Option.bind_eq_some_iff.mp versioned
  cases member with
  | number value =>
    cases value with
    | integer value =>
      simp only [natural?, Number.toNatural?] at counted
      split at counted
      · cases counted
        rw [Numeral.maxNatural]
        omega
      · contradiction
    | float value => contradiction
  | _ => contradiction

/-- A draft becomes a document exactly if it is an object, and that is all that it becomes. -/
theorem ofDraft_eq_ok_iff : ofDraft draft now freshId = .ok doc ↔
    draft.isObject = true ∧
      doc = ((((draft.setField "id" (.string ((draftId? draft).getD freshId))).setField "version"
        (.ofNat 1)).setField "createdAt" (.string now.render)).setField "lastModifiedAt"
        (.string now.render)).stripTargets := by
  unfold ofDraft
  split
  · rename_i shape
    rw [Except.ok.injEq, eq_comm, and_iff_right shape]
  · rename_i shape
    exact iff_of_false nofun fun made => shape made.1

/-- A draft that is an object gets its own id or the fresh one, and version one. -/
theorem ofDraft_spec (made : ofDraft draft now freshId = .ok doc) :
    id? doc = some ((draftId? draft).getD freshId) ∧ version? doc = some 1 := by
  obtain ⟨shape, rfl⟩ := ofDraft_eq_ok_iff.mp made
  constructor
  · rw [id?_stripTargets, id?_setField_of_ne _ _ (by decide), id?_setField_of_ne _ _ (by decide),
      id?_setField_of_ne _ _ (by decide), id?_setField_self shape]
  · rw [version?_stripTargets, version?_setField_of_ne _ _ (by decide),
      version?_setField_of_ne _ _ (by decide)]
    exact version?_setField_self (by simpa using shape) (by decide)

/-! ### Touching -/

/-- Touching raises the version and writes the time, if there is a next version. -/
theorem touch_eq_ok_iff : touch value now = .ok doc ↔
    (version? value).getD 0 < Numeral.maxNatural ∧
      doc = (value.setField "version" (.ofNat ((version? value).getD 0 + 1))).setField "lastModifiedAt"
        (.string now.render) := by
  simp only [touch]
  split
  · rename_i below
    rw [Except.ok.injEq, eq_comm, and_iff_right below]
  · rename_i last
    exact iff_of_false nofun fun touched => last touched.1

/-- Touching turns no other value into an object. -/
theorem isObject_touch (touched : touch value now = .ok doc) : doc.isObject = value.isObject := by
  obtain ⟨-, rfl⟩ := touch_eq_ok_iff.mp touched
  rw [isObject_setField, isObject_setField]

/-- An edited value with the id and the version that its document had before. -/
def pinned (edited : Json) (id : String) (version : Nat) : Json :=
  (edited.setField "id" (.string id)).setField "version" (.ofNat version)

@[simp] theorem isObject_pinned (edited : Json) (id : String) (version : Nat) :
    (pinned edited id version).isObject = edited.isObject := by
  rw [pinned, isObject_setField, isObject_setField]

theorem touch_pinned_eq_ok_iff (range : version ≤ Numeral.maxNatural) (shape : edited.isObject = true) :
    touch (pinned edited id version) now = .ok doc ↔ version < Numeral.maxNatural ∧
      doc = ((pinned edited id version).setField "version" (.ofNat (version + 1))).setField
        "lastModifiedAt" (.string now.render) := by
  have shaped : (edited.setField "id" (.string id)).isObject = true := by simpa using shape
  have before : version? (pinned edited id version) = some version :=
    version?_setField_self shaped range
  rw [touch_eq_ok_iff, before, Option.getD_some]

/-- A document touched after an edit has the id of before and the next version. -/
theorem touch_pinned_spec (range : version ≤ Numeral.maxNatural) (shape : edited.isObject = true)
    (touched : touch (pinned edited id version) now = .ok doc) :
    id? doc = some id ∧ version? doc = some (version + 1) := by
  obtain ⟨below, rfl⟩ := (touch_pinned_eq_ok_iff range shape).mp touched
  constructor
  · rw [id?_setField_of_ne _ _ (by decide), id?_setField_of_ne _ _ (by decide), pinned,
      id?_setField_of_ne _ _ (by decide), id?_setField_self shape]
  · rw [version?_setField_of_ne _ _ (by decide)]
    exact version?_setField_self (by simpa using shape) below

/-- Below the last version there is a next one. -/
theorem exists_touch_pinned (id : String) (now : Instant) (shape : edited.isObject = true)
    (below : version < Numeral.maxNatural) :
    ∃ touched, touch (pinned edited id version) now = .ok touched :=
  ⟨_, (touch_pinned_eq_ok_iff (Nat.le_of_lt below) shape).mpr ⟨below, rfl⟩⟩

end Storefront.Document
