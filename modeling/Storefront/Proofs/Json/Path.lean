import Mathlib.Data.String.Basic
import Storefront.Json.Path
import Storefront.Predicate.Basic
import Storefront.Proofs.Json.Structure

/-!
Where paths lead. Following a path collects what it finds in the arrays on its way; descending along the
same names asks, at each name, for any element of an array. Both find the same unless an array is
directly inside of another one, which a path enters and a descent does not.
-/
namespace Storefront.Json

variable {value item member : Json} {items : List Json} {name : String}

/-! ### Paths -/

theorem resolve?_nil (value : Json) : value.resolve? [] = some value := by
  cases value <;> rw [resolve?]

theorem resolve?_of_object (shape : value.isObject = true) (name : String) (path : List String) :
    value.resolve? (name :: path) = (value.field? name).bind (·.resolve? path) := by
  obtain ⟨members, rfl⟩ := isObject_iff.mp shape
  rw [resolve?]
  induction members with
  | nil => rfl
  | cons member members ih =>
    obtain ⟨other, value⟩ := member
    rw [resolveMember?]
    by_cases same : other = name
    · simp [field?, Dictionary.get?, same]
    · simp only [same, if_false, ih rfl]
      simp [field?, Dictionary.get?, same]

/-- What is no array has the members it has, which are none unless it is an object. -/
theorem resolve?_of_not_array (single : ∀ items, value ≠ array items) (name : String)
    (path : List String) :
    value.resolve? (name :: path) = (value.field? name).bind (·.resolve? path) := by
  cases value with
  | array items => exact absurd rfl (single items)
  | object members => exact resolve?_of_object rfl name path
  | _ => rfl

/-! ### Names between points -/

theorem split_eq_splitOn (separator : Char) (cs : List Char) :
    Text.split separator cs = cs.splitOn separator := by
  induction cs with
  | nil => rfl
  | cons c cs ih =>
    rw [Text.split, ih, List.splitOn, List.splitOn, List.splitOnP_cons_eq_if_modifyHead]
    by_cases same : c = separator
    · simp [same]
    · rw [if_neg same, if_neg (by simp [same])]
      cases split : List.splitOnP (· == separator) cs with
      | nil => exact absurd split (List.splitOnP_ne_nil _ cs)
      | cons piece pieces => rfl

theorem pathNames_ne_nil (path : List Char) : pathNames path ≠ [] := by
  rw [pathNames, split_eq_splitOn, Ne, List.map_eq_nil_iff]
  exact List.splitOn_ne_nil '.' path

/-- A path that joins names without points is read as these names. -/
theorem pathNames_intercalate {names : List String} (nonempty : names ≠ [])
    (pointless : ∀ name ∈ names, '.' ∉ name.toList) :
    pathNames (".".intercalate names).toList = names := by
  have separate : ∀ piece ∈ names.map String.toList, '.' ∉ piece := by
    simpa using pointless
  have joined : (".".intercalate names).toList = ['.'].intercalate (names.map String.toList) :=
    String.toList_intercalate
  rw [pathNames, split_eq_splitOn, joined,
    List.splitOn_intercalate '.' separate (by simpa using nonempty)]
  simp [Function.comp_def]

/-! ### Values without arrays of arrays -/

/-- No array is directly inside of an array. -/
def Flat (value : Json) : Prop :=
  ∀ items, Part (array items) value → ∀ item ∈ items, ∀ inner, item ≠ array inner

theorem flat_of_string (text : String) : (string text).Flat :=
  fun _ part => nomatch part

theorem flat_ofInt (i : Int) : (ofInt i).Flat :=
  fun _ part => nomatch part

theorem flat_array_iff :
    (array items).Flat ↔ ∀ item ∈ items, item.Flat ∧ ∀ inner, item ≠ array inner := by
  constructor
  · intro flat item among
    exact ⟨fun inner part => flat inner (.item among part), flat items (.self _) item among⟩
  · intro each inner part
    rcases part_array_iff.mp part with same | ⟨item, among, part⟩
    · cases same
      exact fun item among => (each item among).2
    · exact (each item among).1 inner part

theorem flat_object_iff {members : List (String × Json)} :
    (object members).Flat ↔ ∀ member ∈ members, member.2.Flat := by
  constructor
  · intro flat member among inner part
    exact flat inner (.member among part)
  · intro each inner part
    rcases part_object_iff.mp part with same | ⟨member, among, part⟩
    · cases same
    · exact each member among inner part

theorem Flat.field (flat : value.Flat) (found : value.field? name = some member) : member.Flat := by
  cases value with
  | object members => exact flat_object_iff.mp flat _ (Dictionary.mem_of_get? found)
  | _ => contradiction

/-! ### Descending -/

/-- Whether descending along some names leads to a value that satisfies a condition. -/
def leadsTo (condition : Json → Bool) (name : String) : List String → Json → Bool
  | [], value => anyElement (value.field? name) (·.any condition)
  | next :: path, value =>
    match value.field? name with
    | none => false
    | some (array items) => items.any (leadsTo condition next path)
    | some child => isTruthy (some child) && leadsTo condition next path child

/-- What was found at the end of a path, one by one. -/
def finds (found : Option Json) : List Json :=
  found.elim [] candidates

variable {condition : Json → Bool}

theorem resolveItems_eq_flatMap (items : List Json) (path : List String) :
    resolveItems items path = items.flatMap fun item => finds (item.resolve? path) := by
  induction items with
  | nil => rfl
  | cons item items ih =>
    rw [resolveItems, List.flatMap_cons, ih]
    cases item.resolve? path with
    | none => rfl
    | some found => cases found <;> rfl

theorem any_resolveItems (items : List Json) (path : List String) :
    (resolveItems items path).any condition =
      items.any fun item => (finds (item.resolve? path)).any condition := by
  rw [resolveItems_eq_flatMap, List.any_flatMap]

theorem finds_resolve?_array (items : List Json) (name : String) (path : List String) :
    finds ((array items).resolve? (name :: path)) = resolveItems items (name :: path) := by
  rw [resolve?]
  split
  · rename_i nothing
    rw [nothing]
    rfl
  · rfl

/-- A value that is not truthy has no members. -/
theorem resolve?_of_not_truthy (falsy : isTruthy (some value) = false) (name : String)
    (path : List String) : value.resolve? (name :: path) = none := by
  cases value with
  | array items => contradiction
  | object members => contradiction
  | _ => rfl

/-- From an array, a path finds what it finds from its elements. -/
theorem any_finds_array {holds : Json → Bool} {name : String} {path : List String}
    (each : ∀ item ∈ items, (finds (item.resolve? (name :: path))).any condition = holds item) :
    (finds ((array items).resolve? (name :: path))).any condition = items.any holds := by
  rw [finds_resolve?_array, any_resolveItems, Bool.eq_iff_iff, List.any_eq_true, List.any_eq_true]
  constructor
  · rintro ⟨item, among, found⟩
    exact ⟨item, among, (each item among).symm.trans found⟩
  · rintro ⟨item, among, held⟩
    exact ⟨item, among, (each item among).trans held⟩

/-- A path finds a value that satisfies a condition exactly if descending along its names leads to
one. -/
theorem any_finds_resolve? (flat : value.Flat) (single : ∀ items, value ≠ array items)
    (name : String) (path : List String) :
    (finds (value.resolve? (name :: path))).any condition = leadsTo condition name path value := by
  induction path generalizing name value with
  | nil =>
    rw [resolve?_of_not_array single, leadsTo]
    cases value.field? name with
    | none => rfl
    | some child =>
      rw [Option.bind_some, resolve?_nil]
      cases child with
      | array items => rfl
      | _ => simp [finds, candidates, anyElement]
  | cons next path ih =>
    rw [resolve?_of_not_array single, leadsTo]
    cases there : value.field? name with
    | none => rfl
    | some child =>
      have flatChild := flat.field there
      -- a path goes through what is not truthy as well, and finds no member there
      have descends (single : ∀ items, child ≠ array items) :
          (finds (child.resolve? (next :: path))).any condition =
            (isTruthy (some child) && leadsTo condition next path child) := by
        cases truthy : isTruthy (some child) with
        | false =>
          rw [resolve?_of_not_truthy truthy]
          rfl
        | true => exact ih flatChild single next
      rw [Option.bind_some]
      cases child with
      | array items =>
        apply any_finds_array
        intro item among
        have inside := flat_array_iff.mp flatChild item among
        exact ih inside.1 inside.2 next
      | _ => exact descends nofun

end Storefront.Json
