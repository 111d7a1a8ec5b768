import Storefront.Decimal.Numeral
import Storefront.Json.Basic
import Storefront.Proofs.Dictionary

/-! Induction over values, the values inside of a value, and what its members are after one of them
is set or dropped. -/
namespace Storefront.Json

/-- What holds of the elements holds of the array, and of the members of the object. -/
@[elab_as_elim]
theorem induct {motive : Json → Prop} (null : motive null) (bool : ∀ value, motive (bool value))
    (number : ∀ value, motive (number value)) (string : ∀ value, motive (string value))
    (array : ∀ items, (∀ item ∈ items, motive item) → motive (array items))
    (object : ∀ members, (∀ member ∈ members, motive member.2) → motive (object members))
    (value : Json) : motive value := by
  refine Json.rec (motive_1 := motive) (motive_2 := fun items => ∀ item ∈ items, motive item)
    (motive_3 := fun members => ∀ member ∈ members, motive member.2)
    (motive_4 := fun member => motive member.2)
    null bool number string array object ?_ ?_ ?_ ?_ ?_ value
  · exact fun _ absent => nomatch absent
  · intro first rest here there item member
    rcases List.mem_cons.mp member with rfl | later
    · exact here
    · exact there item later
  · exact fun _ absent => nomatch absent
  · intro first rest here there entry member
    rcases List.mem_cons.mp member with rfl | later
    · exact here
    · exact there entry later
  · exact fun _ _ holds => holds

/-- A value at any depth of another, itself included. -/
inductive Part : Json → Json → Prop where
  | self (value : Json) : Part value value
  | item {inner : Json} : item ∈ items → Part inner item → Part inner (array items)
  | member {inner : Json} : (name, value) ∈ members → Part inner value → Part inner (object members)

variable {inner : Json}

theorem part_array_iff : Part inner (array items) ↔
    inner = array items ∨ ∃ item ∈ items, Part inner item := by
  constructor
  · intro part
    cases part with
    | self => exact .inl rfl
    | item member part => exact .inr ⟨_, member, part⟩
  · rintro (rfl | ⟨item, member, part⟩)
    · exact .self _
    · exact .item member part

theorem part_object_iff : Part inner (object members) ↔
    inner = object members ∨ ∃ member ∈ members, Part inner member.2 := by
  constructor
  · intro part
    cases part with
    | self => exact .inl rfl
    | member found part => exact .inr ⟨_, found, part⟩
  · rintro (rfl | ⟨⟨name, value⟩, found, part⟩)
    · exact .self _
    · exact .member found part

/-! ### Members -/

theorem isObject_iff {value : Json} : value.isObject = true ↔ ∃ members, value = object members := by
  cases value <;> simp [isObject]

theorem isObject_of_field? {value : Json} (found : value.field? name = some member) :
    value.isObject = true := by
  cases value with
  | object members => rfl
  | _ => contradiction

theorem field?_of_not_object {value : Json} (shape : value.isObject = false) (name : String) :
    value.field? name = none := by
  cases value with
  | object members => contradiction
  | _ => rfl

@[simp] theorem isObject_setField (value : Json) (name : String) (member : Json) :
    (value.setField name member).isObject = value.isObject := by
  cases value <;> rfl

theorem field?_setField_self {value : Json} (shape : value.isObject = true) (name : String)
    (member : Json) : (value.setField name member).field? name = some member := by
  obtain ⟨members, rfl⟩ := isObject_iff.mp shape
  exact Dictionary.get?_insert_self members name member

theorem field?_setField_of_ne (value member : Json) (different : name ≠ other) :
    (value.setField name member).field? other = value.field? other := by
  cases value with
  | object members => exact Dictionary.get?_insert_of_ne members member different
  | _ => rfl

/-- A count in the range of versions is read back as it was written. -/
theorem natural?_ofNat (range : n ≤ Numeral.maxNatural) : (ofNat n).natural? = some n := by
  have bound : (0 : Int) ≤ n ∧ (n : Int) < 0x10000000000000000 := by
    simp only [Numeral.maxNatural] at range
    omega
  simp only [ofNat, natural?, Number.toNatural?, bound, and_self, if_true, Int.toNat_natCast]

end Storefront.Json
