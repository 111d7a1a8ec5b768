import Storefront.Document.Reference
import Storefront.Proofs.Json.Structure

/-! Values without targets. Stripping leaves no target at any depth and touches nothing else: every
other member is there as before, stripped in turn. -/
namespace Storefront.Json

/-- An object with a type as references have one and a target beside it. -/
def CarriesTarget (value : Json) : Prop :=
  (∃ typeId, value.field? "typeId" = some (string typeId)) ∧
    ∃ target, value.field? Reference.targetField = some target

/-- No object at any depth carries a target. -/
def Bare (value : Json) : Prop :=
  ∀ inner, Part inner value → ¬ CarriesTarget inner

theorem bare_of_scalar {value : Json} (shape : value.isObject = false)
    (whole : ∀ inner, Part inner value → inner = value) : Bare value := by
  rintro inner part ⟨⟨_, found⟩, _⟩
  cases whole inner part
  rw [isObject_of_field? found] at shape
  contradiction

theorem bare_array {items : List Json} (bare : ∀ item ∈ items, Bare item) : Bare (array items) := by
  rintro inner part carries
  rcases part_array_iff.mp part with rfl | ⟨item, member, part⟩
  · obtain ⟨⟨_, found⟩, _⟩ := carries
    contradiction
  · exact bare item member inner part carries

theorem bare_object {members : List (String × Json)}
    (here : ¬ CarriesTarget (object members)) (bare : ∀ member ∈ members, Bare member.2) :
    Bare (object members) := by
  rintro inner part carries
  rcases part_object_iff.mp part with rfl | ⟨member, found, part⟩
  · exact here carries
  · exact bare member found inner part carries

theorem stripItems_eq_map (items : List Json) : stripItems items = items.map stripTargets := by
  induction items with
  | nil => rfl
  | cons item items ih => exact congrArg (item.stripTargets :: ·) ih

theorem stripMembers_eq_map (members : List (String × Json)) :
    stripMembers members = members.map fun member => (member.1, stripTargets member.2) := by
  induction members with
  | nil => rfl
  | cons member members ih => exact congrArg ((member.1, member.2.stripTargets) :: ·) ih

-- What follows is proved from these two, and nothing else unfolds the stripping of a value.
theorem stripTargets_array (items : List Json) :
    (array items).stripTargets = array (items.map stripTargets) :=
  congrArg array (stripItems_eq_map items)

theorem stripTargets_object (members : List (String × Json)) :
    (object members).stripTargets = if hasTypeId members then
        object (Dictionary.erase (stripMembers members) Reference.targetField)
      else object (stripMembers members) :=
  rfl

theorem get?_stripMembers (members : Dictionary Json) (name : String) :
    Dictionary.get? (stripMembers members) name =
      (Dictionary.get? members name).map stripTargets := by
  rw [stripMembers_eq_map]
  exact Dictionary.get?_map stripTargets members name

theorem hasTypeId_iff {members : Dictionary Json} :
    hasTypeId members = true ↔
      ∃ typeId, Dictionary.get? members "typeId" = some (string typeId) := by
  cases found : Dictionary.get? members "typeId" with
  | none => simp [hasTypeId, found]
  | some value => cases value <;> simp [hasTypeId, found, isString]

theorem eq_string_of_stripTargets {value : Json} (stripped : value.stripTargets = string text) :
    value = string text := by
  cases value with
  | object members =>
    rw [stripTargets_object] at stripped
    split at stripped <;> contradiction
  | array items =>
    rw [stripTargets_array] at stripped
    contradiction
  | _ => exact stripped

/-- Whether the members have a type is the same after they are stripped. -/
theorem hasTypeId_stripMembers (members : Dictionary Json) :
    hasTypeId (stripMembers members) = hasTypeId members := by
  rw [Bool.eq_iff_iff, hasTypeId_iff, hasTypeId_iff]
  simp only [get?_stripMembers, Option.map_eq_some_iff]
  constructor
  · rintro ⟨typeId, value, found, stripped⟩
    exact ⟨typeId, found.trans (congrArg some (eq_string_of_stripTargets stripped))⟩
  · rintro ⟨typeId, found⟩
    exact ⟨typeId, string typeId, found, rfl⟩

/-- Stripping leaves no target at any depth. -/
theorem bare_stripTargets (value : Json) : Bare value.stripTargets := by
  induction value using induct with
  | null | bool | number | string =>
    exact bare_of_scalar rfl fun inner part => by cases part; rfl
  | array items ih =>
    rw [stripTargets_array]
    apply bare_array
    intro item member
    obtain ⟨original, found, rfl⟩ := List.mem_map.mp member
    exact ih original found
  | object members ih =>
    have inside : ∀ member ∈ stripMembers members, Bare member.2 := by
      intro member found
      rw [stripMembers_eq_map] at found
      obtain ⟨original, there, rfl⟩ := List.mem_map.mp found
      exact ih original there
    rw [stripTargets_object]
    split
    · apply bare_object
      · rintro ⟨_, target, carried⟩
        simp [field?] at carried
      · exact fun member kept => inside member (List.mem_filter.mp kept).1
    · rename_i untyped
      apply bare_object
      · rintro ⟨typed, _⟩
        exact untyped (hasTypeId_stripMembers members ▸ hasTypeId_iff.mpr typed)
      · exact inside

/-- A value without targets is not changed by stripping. -/
theorem Bare.stripTargets_eq {value : Json} (bare : value.Bare) : value.stripTargets = value := by
  induction value using induct with
  | null | bool | number | string => rfl
  | array items ih =>
    have each : ∀ item ∈ items, item.stripTargets = item := fun item member =>
      ih item member fun inner part => bare inner (.item member part)
    rw [stripTargets_array, List.map_congr_left each, List.map_id']
  | object members ih =>
    have each : ∀ member ∈ members, (member.1, member.2.stripTargets) = member := fun member found =>
      congrArg (member.1, ·) (ih member found fun inner part => bare inner (.member found part))
    have same : stripMembers members = members := by
      rw [stripMembers_eq_map, List.map_congr_left each, List.map_id']
    rw [stripTargets_object, same]
    split
    · rename_i typed
      have absent : Dictionary.get? members Reference.targetField = none := by
        cases carried : Dictionary.get? members Reference.targetField with
        | none => rfl
        | some target =>
          exact absurd ⟨hasTypeId_iff.mp typed, target, carried⟩ (bare _ (.self _))
      rw [Dictionary.erase_of_get?_none absent]
    · rfl

/-- What an object with a type carries as its target does not count. -/
theorem stripTargets_setField_target {value : Json}
    (typed : ∃ typeId, value.field? "typeId" = some (string typeId)) (target : Json) :
    (value.setField Reference.targetField target).stripTargets = value.stripTargets := by
  obtain ⟨typeId, found⟩ := typed
  obtain ⟨members, rfl⟩ := isObject_iff.mp (isObject_of_field? found)
  have before : hasTypeId members = true := hasTypeId_iff.mpr ⟨typeId, found⟩
  have after : hasTypeId (Dictionary.insert members Reference.targetField target) = true := by
    apply hasTypeId_iff.mpr
    exact ⟨typeId, (Dictionary.get?_insert_of_ne members target (by decide)).trans found⟩
  have inside : stripMembers (Dictionary.insert members Reference.targetField target) =
      Dictionary.insert (stripMembers members) Reference.targetField target.stripTargets := by
    rw [stripMembers_eq_map, stripMembers_eq_map]
    exact Dictionary.map_insert stripTargets members Reference.targetField target
  rw [setField, stripTargets_object, stripTargets_object, if_pos before, if_pos after, inside,
    Dictionary.erase_insert_self]

/-! ### What stripping keeps -/

@[simp] theorem isObject_stripTargets (value : Json) :
    value.stripTargets.isObject = value.isObject := by
  cases value with
  | object members =>
    rw [stripTargets_object]
    split <;> rfl
  | _ => rfl

theorem field?_stripTargets (value : Json) (other : name ≠ Reference.targetField) :
    value.stripTargets.field? name = (value.field? name).map stripTargets := by
  cases value with
  | object members =>
    rw [stripTargets_object]
    split
    · exact (Dictionary.get?_erase_of_ne _ other.symm).trans (get?_stripMembers members name)
    · exact get?_stripMembers members name
  | _ => rfl

@[simp] theorem string?_stripTargets (value : Json) :
    value.stripTargets.string? = value.string? := by
  cases value with
  | object members =>
    rw [stripTargets_object]
    split <;> rfl
  | _ => rfl

@[simp] theorem natural?_stripTargets (value : Json) :
    value.stripTargets.natural? = value.natural? := by
  cases value with
  | object members =>
    rw [stripTargets_object]
    split <;> rfl
  | _ => rfl

end Storefront.Json
