import Storefront.Proofs.Expansion.Growth
import Storefront.Proofs.Json.Order

/-! Expansion without failure. Filling in a clause goes on in every target that a reference on its way
carries or refers to, and leaves a reference without one as it is. A walk that succeeds gives what
filling in gives, and without strict references every walk succeeds. -/
namespace Storefront.Expansion

variable {around : Surroundings} {value result member target : Json} {reference : Reference}
  {clause : Clause} {go : Json → Json}

/-- The target that a reference carries, or else the one that it refers to. -/
def targetOf? (around : Surroundings) (value : Json) (reference : Reference) : Option Json :=
  (value.field? Reference.targetField).or (around.target? reference)

def settle (around : Surroundings) (go : Json → Json) (value : Json) : Json :=
  match Reference.ofValue? value with
  | none => go value
  | some reference =>
    match targetOf? around value reference with
    | none => value
    | some target => value.setField Reference.targetField (go target)

def Index.names : Index → Nat → Bool
  | .all, _ => true
  | .at position, other => position = other

/-- A change of the items that an index names, or of the member itself. -/
def changeAt (index : Option Index) (change : Json → Json) (member : Json) : Json :=
  match index, member with
  | none, member => change member
  | some index, .array items =>
    .array (items.mapIdx fun position item => if index.names position then change item else item)
  | some _, member => member

def fill (around : Surroundings) : Clause → Json → Json
  | [], value => value
  | step :: steps, value =>
    value.mapField step.element (changeAt step.index (settle around (fill around steps)))

def fillAll (around : Surroundings) (clauses : List Clause) (value : Json) : Json :=
  clauses.foldl (fun value clause => fill around clause value) value

/-! ### Walks and filling in -/

theorem settle_plain (shape : Reference.ofValue? value = none) (go : Json → Json) :
    settle around go value = go value := by
  simp only [settle, shape]

theorem settle_reference (shape : Reference.ofValue? value = some reference)
    (found : targetOf? around value reference = some target) (go : Json → Json) :
    settle around go value = value.setField Reference.targetField (go target) := by
  simp only [settle, shape, found]

theorem settle_dangling (shape : Reference.ofValue? value = some reference)
    (missing : targetOf? around value reference = none) (go : Json → Json) :
    settle around go value = value := by
  simp only [settle, shape, missing]

theorem settle_of_arrive {step : Json → Except Error Json}
    (onward : ∀ value result, step value = .ok result → go value = result)
    (arrived : arrive around step value = .ok result) : settle around go value = result := by
  cases shape : Reference.ofValue? value with
  | none =>
    rw [arrive_plain shape] at arrived
    rw [settle_plain shape, onward value result arrived]
  | some reference =>
    cases carried : value.field? Reference.targetField with
    | some target =>
      have found : targetOf? around value reference = some target := by
        rw [targetOf?, carried, Option.some_or]
      rw [arrive_carried shape carried] at arrived
      obtain ⟨filled, went, rfl⟩ := map_eq_ok_iff.mp arrived
      rw [settle_reference shape found, onward target filled went]
    | none =>
      have refers : targetOf? around value reference = around.target? reference := by
        rw [targetOf?, carried, Option.none_or]
      cases found : around.target? reference with
      | some target =>
        rw [arrive_fetched shape carried found] at arrived
        obtain ⟨filled, went, rfl⟩ := map_eq_ok_iff.mp arrived
        rw [settle_reference shape (refers.trans found), onward target filled went,
          Json.setField_setField_self]
      | none =>
        rw [arrive_dangling ⟨shape, carried, found⟩] at arrived
        split at arrived <;> cases arrived
        exact settle_dangling shape (refers.trans found) go

theorem changeAt_of_enter {step : Json → Except Error Json} {index : Option Index}
    (onward : ∀ value result, step value = .ok result → go value = result)
    (entered : enter step index value = .ok result) : changeAt index go value = result := by
  match index, value with
  | none, value => exact onward value result entered
  | some (.at position), .array items =>
    simp only [changeAt, Index.names]
    cases found : items[position]? with
    | none =>
      simp only [enter, found, Except.ok.injEq] at entered
      subst entered
      apply congrArg Json.array
      apply List.ext_getElem?
      intro other
      rw [List.getElem?_mapIdx]
      by_cases same : position = other
      · rw [← same, found, Option.map_none]
      · simp [same]
    | some item =>
      simp only [enter, found] at entered
      obtain ⟨changed, stepped, rfl⟩ := map_eq_ok_iff.mp entered
      have bound := (List.getElem?_eq_some_iff.mp found).1
      apply congrArg Json.array
      apply List.ext_getElem?
      intro other
      rw [List.getElem?_mapIdx]
      by_cases same : position = other
      · rw [← same, found, List.getElem?_set_self bound, Option.map_some]
        simp [onward item changed stepped]
      · simp [same, List.getElem?_set_ne]
  | some .all, .array items =>
    obtain ⟨results, mapped, rfl⟩ := map_eq_ok_iff.mp entered
    simp only [changeAt, Index.names, if_true]
    apply congrArg Json.array
    apply List.ext_getElem?
    intro position
    rw [List.getElem?_mapIdx]
    rcases getElem?_of_mapM_ok mapped position with ⟨none, absent⟩ | ⟨item, changed, found, stepped, made⟩
    · rw [none, absent, Option.map_none]
    · rw [found, made, Option.map_some, onward item changed stepped]
  | some index, .null | some index, .bool _ | some index, .number _ | some index, .string _
  | some index, .object _ =>
    cases index <;> exact Except.ok.inj entered

/-- A walk that succeeds, with strict references or without, gives what filling in gives. -/
theorem fill_of_walk (walked : walk around clause value = .ok result) :
    fill around clause value = result := by
  induction clause generalizing value result with
  | nil =>
    cases walked
    rfl
  | cons step steps ih =>
    simp only [walk] at walked
    split at walked
    · rename_i missing
      cases walked
      exact Json.mapField_of_none missing _
    · rename_i member found
      obtain ⟨changed, entered, rfl⟩ := map_eq_ok_iff.mp walked
      have filled := changeAt_of_enter (fun _ _ => settle_of_arrive fun _ _ => ih) entered
      rw [fill, Json.mapField_of_some found, filled]

theorem walk_of_lenient (lenient : around.strict = false) (clause : Clause) (value : Json) :
    walk around clause value = .ok (fill around clause value) := by
  obtain ⟨result, walked⟩ := walk_lenient lenient clause value
  rw [fill_of_walk walked, walked]

/-- The clauses among some texts. -/
def clausesOf (sources : List String) : List Clause :=
  sources.filterMap fun source => (readClause source).toOption

theorem clausesOf_cons (read : readClause source = .ok clause) (later : List String) :
    clausesOf (source :: later) = clause :: clausesOf later := by
  simp only [clausesOf, List.filterMap_cons, read, Except.toOption]

theorem mem_clausesOf {sources : List String} :
    clause ∈ clausesOf sources ↔ ∃ source ∈ sources, readClause source = .ok clause := by
  rw [clausesOf, List.mem_filterMap]
  have same (source : String) :
      (readClause source).toOption = some clause ↔ readClause source = .ok clause := by
    cases readClause source <;> simp [Except.toOption]
  simp only [same]

theorem fillAll_of_expand {sources : List String}
    (expanded : expand around sources value = .ok result) :
    fillAll around (clausesOf sources) value = result := by
  induction sources generalizing value with
  | nil =>
    cases expanded
    rfl
  | cons source later ih =>
    obtain ⟨clause, next, read, walked, rest⟩ := expand_cons_eq_ok_iff.mp expanded
    rw [clausesOf_cons read, fillAll, List.foldl_cons, fill_of_walk walked]
    exact ih rest

/-- Some texts are clauses, all of them. -/
def Readable (sources : List String) : Prop :=
  ∀ source ∈ sources, ∃ clause, readClause source = .ok clause

theorem expand_of_lenient (lenient : around.strict = false) {sources : List String}
    (readable : Readable sources) (value : Json) :
    expand around sources value = .ok (fillAll around (clausesOf sources) value) := by
  induction sources generalizing value with
  | nil => rfl
  | cons source later ih =>
    obtain ⟨clause, read⟩ := readable source List.mem_cons_self
    have rest := ih fun other member => readable other (List.mem_cons_of_mem _ member)
    apply expand_cons_eq_ok_iff.mpr
    refine ⟨clause, fill around clause value, read, walk_of_lenient lenient clause value, ?_⟩
    rw [clausesOf_cons read, fillAll, List.foldl_cons]
    exact rest _

/-! ### What filling in keeps -/

/-- A change that leaves every other value than an object as it is and an object an object. -/
structure ObjectsOnly (change : Json → Json) : Prop where
  others : ∀ value, value.isObject = false → change value = value
  isObject : ∀ value, (change value).isObject = value.isObject

theorem ObjectsOnly.string? (only : ObjectsOnly go) (value : Json) :
    (go value).string? = value.string? := by
  have textless (object : Json) (shape : object.isObject = true) : object.string? = none := by
    obtain ⟨members, rfl⟩ := Json.isObject_iff.mp shape
    rfl
  cases shape : value.isObject with
  | false => rw [only.others value shape]
  | true => rw [textless value shape, textless _ ((only.isObject value).trans shape)]

theorem objectsOnly_settle (only : ObjectsOnly go) : ObjectsOnly (settle around go) := by
  constructor
  · intro value shape
    cases reference : Reference.ofValue? value with
    | none => rw [settle_plain reference, only.others value shape]
    | some found => rw [isObject_of_reference reference] at shape; contradiction
  · intro value
    unfold settle
    split
    · exact only.isObject value
    · split
      · rfl
      · exact Json.isObject_setField ..

theorem objectsOnly_fill (around : Surroundings) (clause : Clause) :
    ObjectsOnly (fill around clause) := by
  cases clause with
  | nil => exact ⟨fun _ _ => rfl, fun _ => rfl⟩
  | cons step steps =>
    refine ⟨fun value shape => ?_, fun value => Json.isObject_mapField ..⟩
    exact Json.mapField_of_none (Json.field?_of_not_object shape _) _

theorem string?_changeAt (only : ObjectsOnly go) (index : Option Index) (member : Json) :
    (changeAt index go member).string? = member.string? := by
  unfold changeAt
  split
  · exact only.string? member
  · rfl
  · rfl

/-- Texts of members stay, and no member becomes a text. -/
theorem text?_fill (around : Surroundings) (clause : Clause) (value : Json) (name : String) :
    ((fill around clause value).field? name).bind (·.string?) =
      (value.field? name).bind (·.string?) := by
  cases clause with
  | nil => rfl
  | cons step steps =>
    rw [fill, Json.field?_mapField]
    split
    · cases value.field? name with
      | none => rfl
      | some member =>
        exact string?_changeAt (objectsOnly_settle (objectsOnly_fill around steps)) step.index member
    · rfl

@[simp] theorem ofValue?_fill (around : Surroundings) (clause : Clause) (value : Json) :
    Reference.ofValue? (fill around clause value) = Reference.ofValue? value := by
  simp only [Reference.ofValue?, text?_fill]

@[simp] theorem ofValue?_setField_target (value target : Json) :
    Reference.ofValue? (value.setField Reference.targetField target) = Reference.ofValue? value := by
  have other (name : String) (different : Reference.targetField ≠ name) :
      (value.setField Reference.targetField target).field? name = value.field? name :=
    Json.field?_setField_of_ne value target different
  simp only [Reference.ofValue?, other "typeId" (by decide), other "id" (by decide),
    other "key" (by decide)]

/-! ### Order -/

/-- Everything that references refer to is in order. -/
def Surroundings.Ordered (around : Surroundings) : Prop :=
  ∀ reference target, around.target? reference = some target → target.Ordered

theorem ordered_targetOf? (targets : around.Ordered) (ordered : value.Ordered)
    (found : targetOf? around value reference = some target) : target.Ordered := by
  rcases Option.or_eq_some_iff.mp found with carried | ⟨_, refers⟩
  · exact ordered.field? carried
  · exact targets reference target refers

theorem ordered_changeAt (keeps : ∀ value, value.Ordered → (go value).Ordered)
    (index : Option Index) (ordered : member.Ordered) : (changeAt index go member).Ordered := by
  unfold changeAt
  split
  · exact keeps _ ordered
  · rename_i index items
    have each := Json.ordered_array_iff.mp ordered
    apply Json.ordered_array_iff.mpr
    intro item among
    obtain ⟨position, bound, rfl⟩ := List.mem_mapIdx.mp among
    have original := each _ (List.getElem_mem bound)
    split
    · exact keeps _ original
    · exact original
  · exact ordered

theorem ordered_settle (targets : around.Ordered) (keeps : ∀ value, value.Ordered → (go value).Ordered)
    (ordered : value.Ordered) : (settle around go value).Ordered := by
  cases shape : Reference.ofValue? value with
  | none => exact settle_plain shape go ▸ keeps value ordered
  | some reference =>
    cases found : targetOf? around value reference with
    | none => rwa [settle_dangling shape found]
    | some target =>
      rw [settle_reference shape found]
      exact ordered.setField _ (keeps target (ordered_targetOf? targets ordered found))

theorem ordered_fill (targets : around.Ordered) (clause : Clause) (ordered : value.Ordered) :
    (fill around clause value).Ordered := by
  induction clause generalizing value with
  | nil => exact ordered
  | cons step steps ih =>
    apply ordered.mapField
    intro member memberOrdered
    apply ordered_changeAt ?_ step.index memberOrdered
    exact fun inner innerOrdered => ordered_settle targets (fun _ => ih) innerOrdered

end Storefront.Expansion
