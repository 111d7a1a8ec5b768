import Storefront.Json.Reading
import Storefront.Proofs.Document.Stripping

/-! Values in order. The members of every object inside of a value stand in the order of their names,
as they do in all that is read or built; then a value is known by its members, and changes of
different members do not disturb each other. -/
namespace Storefront
namespace Json

/-- Every object at any depth has its members in order. -/
def Ordered (value : Json) : Prop :=
  ∀ members, Part (object members) value → Dictionary.Ordered members

theorem ordered_string (text : String) : (string text).Ordered := by
  intro members part
  cases part

theorem ordered_ofNat (n : Nat) : (ofNat n).Ordered := by
  intro members part
  cases part

theorem ordered_array_iff : (array items).Ordered ↔ ∀ item ∈ items, item.Ordered := by
  constructor
  · intro ordered item member members part
    exact ordered members (.item member part)
  · intro ordered members part
    cases part with
    | item member part => exact ordered _ member members part

theorem ordered_object_iff : (object members).Ordered ↔
    Dictionary.Ordered members ∧ ∀ member ∈ members, member.2.Ordered := by
  constructor
  · intro ordered
    refine ⟨ordered members (.self _), ?_⟩
    intro member found inner part
    exact ordered inner (.member found part)
  · rintro ⟨here, inside⟩ inner part
    rcases part_object_iff.mp part with same | ⟨member, found, part⟩
    · cases same
      exact here
    · exact inside member found inner part

/-- Built from members, in whatever order they are given. -/
theorem ordered_ofMembers {members : List (String × Json)}
    (each : ∀ member ∈ members, member.2.Ordered) : (ofMembers members).Ordered := by
  apply ordered_object_iff.mpr
  refine ⟨Dictionary.ordered_ofList members, ?_⟩
  intro member found
  exact each member (Dictionary.mem_of_mem_ofList found)

end Json

/-! ### What is read -/

namespace Reading

mutual
theorem ordered_toJson? : ∀ (reading : Reading) {value : Json},
    reading.toJson? = some value → value.Ordered
  | .null, _, read | .bool _, _, read | .number _, _, read | .string _, _, read => by
    cases read
    exact nofun
  | .array items closed, value, read => by
    rw [toJson?] at read
    split at read
    · obtain ⟨values, each, rfl⟩ := Option.map_eq_some_iff.mp read
      exact Json.ordered_array_iff.mpr (ordered_itemsToJson? items each)
    · contradiction
  | .object members closed, value, read => by
    rw [toJson?] at read
    split at read
    · obtain ⟨values, each, rfl⟩ := Option.map_eq_some_iff.mp read
      exact Json.ordered_ofMembers (ordered_membersToJson? members each)
    · contradiction
  | .unusable, _, read | .tooDeep _ _, _, read | .broken, _, read => by contradiction

theorem ordered_itemsToJson? : ∀ (items : List Reading) {values : List Json},
    itemsToJson? items = some values → ∀ value ∈ values, value.Ordered
  | [], _, read => by
    cases read
    exact nofun
  | item :: items, _, read => by
    obtain ⟨first, here, read⟩ := Option.bind_eq_some_iff.mp read
    obtain ⟨rest, there, same⟩ := Option.bind_eq_some_iff.mp read
    cases same
    exact List.forall_mem_cons.mpr ⟨ordered_toJson? item here, ordered_itemsToJson? items there⟩

theorem ordered_membersToJson? : ∀ (members : List (Option String × Reading))
    {values : List (String × Json)},
    membersToJson? members = some values → ∀ member ∈ values, member.2.Ordered
  | [], _, read => by
    cases read
    exact nofun
  | (name, item) :: members, _, read => by
    obtain ⟨name, _, read⟩ := Option.bind_eq_some_iff.mp read
    obtain ⟨first, here, read⟩ := Option.bind_eq_some_iff.mp read
    obtain ⟨rest, there, same⟩ := Option.bind_eq_some_iff.mp read
    cases same
    exact List.forall_mem_cons.mpr ⟨ordered_toJson? item here, ordered_membersToJson? members there⟩
end

end Reading

namespace Json

variable {value left right : Json} {name other : String} {change next : Json → Json}

/-- What is read from a text is in order, in whatever order the text gives the members. -/
theorem ordered_ofText? (read : ofText? text = some value) : value.Ordered := by
  unfold ofText? at read
  split at read
  · rename_i reading _ _
    split at read
    · exact reading.ordered_toJson? read
    · contradiction
  · contradiction

/-! ### Members of values in order -/

theorem Ordered.field? (ordered : value.Ordered) (found : value.field? name = some member) :
    member.Ordered := by
  obtain ⟨members, rfl⟩ := isObject_iff.mp (isObject_of_field? found)
  exact (ordered_object_iff.mp ordered).2 (name, member) (Dictionary.mem_of_get? found)

theorem Ordered.setField (ordered : value.Ordered) (name : String) (memberOrdered : member.Ordered) :
    (value.setField name member).Ordered := by
  cases value with
  | object members =>
    obtain ⟨here, inside⟩ := ordered_object_iff.mp ordered
    apply ordered_object_iff.mpr
    refine ⟨here.insert name member, ?_⟩
    intro entry found
    rcases Dictionary.mem_of_mem_insert found with rfl | old
    · exact memberOrdered
    · exact inside entry old
  | _ => exact ordered

theorem ordered_stripMembers (ordered : Dictionary.Ordered members) :
    Dictionary.Ordered (stripMembers members) := by
  rw [stripMembers_eq_map]
  exact List.pairwise_map.mpr ordered

theorem Ordered.stripTargets (ordered : value.Ordered) : value.stripTargets.Ordered := by
  induction value using induct with
  | null | bool | number | string => exact ordered
  | array items ih =>
    have each := ordered_array_iff.mp ordered
    rw [stripTargets_array]
    apply ordered_array_iff.mpr
    intro item member
    obtain ⟨original, found, rfl⟩ := List.mem_map.mp member
    exact ih original found (each original found)
  | object members ih =>
    obtain ⟨here, each⟩ := ordered_object_iff.mp ordered
    have inside : ∀ member ∈ stripMembers members, member.2.Ordered := by
      intro member found
      rw [stripMembers_eq_map] at found
      obtain ⟨original, there, rfl⟩ := List.mem_map.mp found
      exact ih original there (each original there)
    have still := ordered_stripMembers here
    rw [stripTargets_object]
    split
    · apply ordered_object_iff.mpr
      exact ⟨still.erase _, fun member kept => inside member (List.mem_filter.mp kept).1⟩
    · exact ordered_object_iff.mpr ⟨still, inside⟩

/-- Objects in order are equal if their members are. -/
theorem Ordered.ext (leftOrdered : left.Ordered) (rightOrdered : right.Ordered)
    (leftShape : left.isObject = true) (rightShape : right.isObject = true)
    (same : ∀ name, left.field? name = right.field? name) : left = right := by
  obtain ⟨members, rfl⟩ := isObject_iff.mp leftShape
  obtain ⟨others, rfl⟩ := isObject_iff.mp rightShape
  have here := (ordered_object_iff.mp leftOrdered).1
  have there := (ordered_object_iff.mp rightOrdered).1
  exact congrArg object (here.ext there same)

theorem setField_setField_self (value : Json) (name : String) (first second : Json) :
    (value.setField name first).setField name second = value.setField name second := by
  cases value with
  | object members => exact congrArg object (Dictionary.insert_insert_self members name first second)
  | _ => rfl

/-- A member put in the place of one that is the same when stripped does not change the stripped
value. -/
theorem Ordered.stripTargets_setField (ordered : value.Ordered) (found : value.field? name = some member)
    (same : Json.stripTargets changed = member.stripTargets) :
    (value.setField name changed).stripTargets = value.stripTargets := by
  obtain ⟨members, rfl⟩ := isObject_iff.mp (isObject_of_field? found)
  have stripped : Dictionary.get? (stripMembers members) name = some changed.stripTargets := by
    rw [get?_stripMembers, same]
    exact congrArg (Option.map Json.stripTargets) found
  have still := ordered_stripMembers (ordered_object_iff.mp ordered).1
  have inside : stripMembers (Dictionary.insert members name changed) = stripMembers members := by
    rw [stripMembers_eq_map, Dictionary.map_insert, ← stripMembers_eq_map]
    exact still.insert_of_get? stripped
  have typed : hasTypeId (Dictionary.insert members name changed) = hasTypeId members := by
    rw [← hasTypeId_stripMembers, inside, hasTypeId_stripMembers]
  rw [Json.setField, stripTargets_object, stripTargets_object, inside, typed]

/-! ### Changing one member -/

/-- The value with one member changed, if it is there. -/
def mapField (value : Json) (name : String) (change : Json → Json) : Json :=
  match value.field? name with
  | none => value
  | some member => value.setField name (change member)

theorem mapField_of_none (missing : value.field? name = none) (change : Json → Json) :
    value.mapField name change = value := by
  simp only [mapField, missing]

theorem mapField_of_some (found : value.field? name = some member) (change : Json → Json) :
    value.mapField name change = value.setField name (change member) := by
  simp only [mapField, found]

@[simp] theorem isObject_mapField (value : Json) (name : String) (change : Json → Json) :
    (value.mapField name change).isObject = value.isObject := by
  unfold mapField
  split
  · rfl
  · exact isObject_setField ..

theorem field?_mapField (value : Json) (name other : String) (change : Json → Json) :
    (value.mapField name change).field? other =
      if name = other then (value.field? other).map change else value.field? other := by
  cases found : value.field? name with
  | none =>
    rw [mapField_of_none found]
    split
    · rename_i same
      rw [← same, found, Option.map_none]
    · rfl
  | some member =>
    rw [mapField_of_some found]
    split
    · rename_i same
      rw [← same, found, field?_setField_self (isObject_of_field? found), Option.map_some]
    · rename_i different
      exact field?_setField_of_ne value (change member) different

theorem Ordered.mapField (ordered : value.Ordered) (name : String)
    (keeps : ∀ member, member.Ordered → (change member).Ordered) :
    (value.mapField name change).Ordered := by
  cases found : value.field? name with
  | none => rwa [mapField_of_none found]
  | some member =>
    rw [mapField_of_some found]
    exact ordered.setField name (keeps member (ordered.field? found))

theorem mapField_congr (same : ∀ member, value.field? name = some member → change member = next member) :
    value.mapField name change = value.mapField name next := by
  cases found : value.field? name with
  | none => rw [mapField_of_none found, mapField_of_none found]
  | some member => rw [mapField_of_some found, mapField_of_some found, same member found]

theorem mapField_mapField_self (value : Json) (name : String) (change next : Json → Json) :
    (value.mapField name change).mapField name next =
      value.mapField name fun member => next (change member) := by
  cases found : value.field? name with
  | none => rw [mapField_of_none found, mapField_of_none found, mapField_of_none found]
  | some member =>
    have changed : (value.mapField name change).field? name = some (change member) := by
      rw [field?_mapField, if_pos rfl, found, Option.map_some]
    rw [mapField_of_some changed, mapField_of_some found, mapField_of_some found,
      setField_setField_self]

theorem Ordered.stripTargets_mapField (ordered : value.Ordered) (name : String)
    (same : ∀ member, member.Ordered → (change member).stripTargets = member.stripTargets) :
    (value.mapField name change).stripTargets = value.stripTargets := by
  cases found : value.field? name with
  | none => rw [mapField_of_none found]
  | some member =>
    rw [mapField_of_some found]
    exact ordered.stripTargets_setField found (same member (ordered.field? found))

/-- Changes of different members can be made in any order. -/
theorem Ordered.mapField_comm (ordered : value.Ordered) (different : name ≠ other)
    (keeps : ∀ member, member.Ordered → (change member).Ordered)
    (keepsNext : ∀ member, member.Ordered → (next member).Ordered) :
    (value.mapField name change).mapField other next =
      (value.mapField other next).mapField name change := by
  cases shape : value.isObject with
  | false =>
    simp only [mapField_of_none (field?_of_not_object shape _)]
  | true =>
    have first := (ordered.mapField name keeps).mapField other keepsNext
    have second := (ordered.mapField other keepsNext).mapField name keeps
    apply first.ext second (by simpa using shape) (by simpa using shape)
    intro asked
    simp only [field?_mapField]
    by_cases here : name = asked
    · have elsewhere : other ≠ asked := fun same => different (here.trans same.symm)
      simp only [here, elsewhere, if_true, if_false]
    · simp only [here, if_false]

end Json
end Storefront
