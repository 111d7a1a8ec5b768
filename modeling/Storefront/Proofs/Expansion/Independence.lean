import Storefront.Proofs.Expansion.Filling

/-! Clauses do not disturb each other. No value is both gone into as a target and expanded as a
reference, so two clauses can be filled in either way round, and one that was filled in before finds
nothing left to do. What some clauses make of a value is hence decided by which clauses there are. -/
namespace Storefront.Expansion

variable {around : Surroundings} {value member target : Json} {reference : Reference}
  {clause : Clause} {clauses others : List Clause} {first second : Json → Json}

/-! ### One change after another -/

theorem targetOf?_setField (around : Surroundings) (shape : value.isObject = true) (target : Json)
    (reference : Reference) :
    targetOf? around (value.setField Reference.targetField target) reference = some target := by
  rw [targetOf?, Json.field?_setField_self shape, Option.some_or]

theorem settle_settle (keeps : ∀ value, Reference.ofValue? (first value) = Reference.ofValue? value)
    (value : Json) : settle around second (settle around first value) =
      settle around (fun inner => second (first inner)) value := by
  cases shape : Reference.ofValue? value with
  | none => rw [settle_plain shape, settle_plain ((keeps value).trans shape), settle_plain shape]
  | some reference =>
    cases found : targetOf? around value reference with
    | none => rw [settle_dangling shape found, settle_dangling shape found, settle_dangling shape found]
    | some target =>
      have still : Reference.ofValue? (value.setField Reference.targetField (first target)) =
          some reference := (ofValue?_setField_target value (first target)).trans shape
      have carried := targetOf?_setField around (isObject_of_reference shape) (first target) reference
      rw [settle_reference shape found, settle_reference still carried,
        settle_reference shape found, Json.setField_setField_self]

theorem settle_congr_of_ordered (targets : around.Ordered) (ordered : value.Ordered)
    (same : ∀ inner, inner.Ordered → first inner = second inner) :
    settle around first value = settle around second value := by
  cases shape : Reference.ofValue? value with
  | none => rw [settle_plain shape, settle_plain shape, same value ordered]
  | some reference =>
    cases found : targetOf? around value reference with
    | none => rw [settle_dangling shape found, settle_dangling shape found]
    | some target =>
      rw [settle_reference shape found, settle_reference shape found,
        same target (ordered_targetOf? targets ordered found)]

theorem changeAt_of_not_array (shape : member.array? = none) (index : Index) (change : Json → Json) :
    changeAt (some index) change member = member := by
  cases member with
  | array items => contradiction
  | _ => rfl

theorem ObjectsOnly.array? (only : ObjectsOnly first) (shape : value.array? = none) :
    (first value).array? = none := by
  cases object : value.isObject with
  | false => rwa [only.others value object]
  | true =>
    obtain ⟨members, same⟩ := Json.isObject_iff.mp ((only.isObject value).trans object)
    rw [same]
    rfl

theorem changeAt_changeAt_self (index : Option Index) (first second : Json → Json) (member : Json) :
    changeAt index second (changeAt index first member) =
      changeAt index (fun inner => second (first inner)) member := by
  cases index with
  | none => rfl
  | some index =>
    cases member with
    | array items =>
      simp only [changeAt, List.mapIdx_mapIdx]
      apply congrArg Json.array
      apply List.mapIdx_eq_mapIdx_iff.mpr
      intro position bound
      cases index.names position <;> simp
    | _ => rfl

/-- Changes that can be made in any order to every value can be made so to the items or the member
that two indices name. -/
theorem changeAt_comm (firstOnly : ObjectsOnly first) (secondOnly : ObjectsOnly second)
    (comm : ∀ value, value.Ordered → first (second value) = second (first value))
    (index other : Option Index) (ordered : member.Ordered) :
    changeAt index first (changeAt other second member) =
      changeAt other second (changeAt index first member) := by
  cases shape : member.array? with
  | none =>
    have firstShape := firstOnly.array? shape
    have secondShape := secondOnly.array? shape
    cases index with
    | none =>
      cases other with
      | none => exact comm member ordered
      | some other =>
        rw [changeAt_of_not_array shape]
        exact (changeAt_of_not_array firstShape other second).symm
    | some index =>
      rw [changeAt_of_not_array shape]
      cases other with
      | none => exact changeAt_of_not_array secondShape index first
      | some other => rw [changeAt_of_not_array shape, changeAt_of_not_array shape]
  | some items =>
    obtain rfl : member = .array items := by
      cases member with
      | array found => exact congrArg Json.array (Option.some.inj shape)
      | _ => contradiction
    have each := Json.ordered_array_iff.mp ordered
    have fixedFirst (items : List Json) : first (.array items) = .array items :=
      firstOnly.others _ rfl
    have fixedSecond (items : List Json) : second (.array items) = .array items :=
      secondOnly.others _ rfl
    cases index with
    | none => cases other <;> simp only [changeAt, fixedFirst, fixedSecond]
    | some index =>
      cases other with
      | none => simp only [changeAt, fixedSecond]
      | some other =>
        simp only [changeAt, List.mapIdx_mapIdx]
        apply congrArg Json.array
        apply List.mapIdx_eq_mapIdx_iff.mpr
        intro position bound
        have here := comm _ (each _ (List.getElem_mem bound))
        cases index.names position <;> cases other.names position <;> simp [here]

/-! ### Clauses -/

/-- Two clauses can be filled in either way round. -/
theorem fill_comm (targets : around.Ordered) (clause other : Clause) (ordered : value.Ordered) :
    fill around clause (fill around other value) = fill around other (fill around clause value) := by
  induction clause generalizing other value with
  | nil => rfl
  | cons step steps ih =>
    cases other with
    | nil => rfl
    | cons otherStep otherSteps =>
      -- Clauses only meet in a member that both name; there the settled values are gone into by both.
      by_cases same : step.element = otherStep.element
      · simp only [fill, same, Json.mapField_mapField_self]
        apply Json.mapField_congr
        intro member found
        refine changeAt_comm (objectsOnly_settle (objectsOnly_fill around steps))
          (objectsOnly_settle (objectsOnly_fill around otherSteps)) ?_ step.index otherStep.index
          (ordered.field? found)
        intro inner innerOrdered
        rw [settle_settle (ofValue?_fill around otherSteps), settle_settle (ofValue?_fill around steps)]
        exact settle_congr_of_ordered targets innerOrdered fun _ => ih otherSteps
      · apply ordered.mapField_comm (Ne.symm same)
        · intro member memberOrdered
          exact ordered_changeAt (fun _ => ordered_settle targets fun _ => ordered_fill targets otherSteps)
            otherStep.index memberOrdered
        · intro member memberOrdered
          exact ordered_changeAt (fun _ => ordered_settle targets fun _ => ordered_fill targets steps)
            step.index memberOrdered

/-- A clause that is filled in again changes nothing. -/
theorem fill_fill_self (around : Surroundings) (clause : Clause) (value : Json) :
    fill around clause (fill around clause value) = fill around clause value := by
  induction clause generalizing value with
  | nil => rfl
  | cons step steps ih =>
    have again (inner : Json) : settle around (fill around steps)
        (settle around (fill around steps) inner) = settle around (fill around steps) inner := by
      rw [settle_settle (ofValue?_fill around steps)]
      exact congrArg (settle around · inner) (funext ih)
    simp only [fill, Json.mapField_mapField_self, changeAt_changeAt_self, again]

/-! ### Lists of clauses -/

theorem fill_fillAll (targets : around.Ordered) (clause : Clause) (clauses : List Clause)
    (ordered : value.Ordered) : fill around clause (fillAll around clauses value) =
      fillAll around clauses (fill around clause value) := by
  induction clauses generalizing value with
  | nil => rfl
  | cons other clauses ih =>
    have rest := ih (ordered_fill targets other ordered)
    have here := fill_comm targets clause other ordered
    calc fill around clause (fillAll around clauses (fill around other value))
        = fillAll around clauses (fill around clause (fill around other value)) := rest
      _ = fillAll around clauses (fill around other (fill around clause value)) := by rw [here]

/-- A clause among some others has nothing to do after or before them. -/
theorem fillAll_fill_of_mem (targets : around.Ordered) (member : clause ∈ clauses)
    (ordered : value.Ordered) :
    fillAll around clauses (fill around clause value) = fillAll around clauses value := by
  induction clauses generalizing value with
  | nil => contradiction
  | cons other clauses ih =>
    change fillAll around clauses (fill around other (fill around clause value)) =
      fillAll around clauses (fill around other value)
    rcases List.mem_cons.mp member with rfl | later
    · rw [fill_fill_self]
    · rw [fill_comm targets other clause ordered, ih later (ordered_fill targets other ordered)]

theorem fill_fillAll_of_mem (targets : around.Ordered) (member : clause ∈ clauses)
    (ordered : value.Ordered) :
    fill around clause (fillAll around clauses value) = fillAll around clauses value := by
  rw [fill_fillAll targets clause clauses ordered, fillAll_fill_of_mem targets member ordered]

theorem fillAll_fillAll_of_subset (targets : around.Ordered) (subset : ∀ clause ∈ others, clause ∈ clauses)
    (ordered : value.Ordered) :
    fillAll around others (fillAll around clauses value) = fillAll around clauses value := by
  induction others with
  | nil => rfl
  | cons other others ih =>
    have here := fill_fillAll_of_mem targets (subset other List.mem_cons_self) ordered
    have rest := ih fun later member => subset later (List.mem_cons_of_mem _ member)
    change fillAll around others (fill around other (fillAll around clauses value)) = _
    rw [here, rest]

theorem fillAll_comm (targets : around.Ordered) (clauses others : List Clause)
    (ordered : value.Ordered) : fillAll around clauses (fillAll around others value) =
      fillAll around others (fillAll around clauses value) := by
  induction clauses generalizing value with
  | nil => rfl
  | cons clause clauses ih =>
    have rest := ih (ordered_fill targets clause ordered)
    have here := fill_fillAll targets clause others ordered
    calc fillAll around clauses (fill around clause (fillAll around others value))
        = fillAll around clauses (fillAll around others (fill around clause value)) := by rw [here]
      _ = fillAll around others (fillAll around clauses (fill around clause value)) := rest

/-- Which clauses there are decides what they make of a value, not their order or their number. -/
theorem fillAll_eq_of_mem_iff (targets : around.Ordered)
    (same : ∀ clause, clause ∈ clauses ↔ clause ∈ others) (ordered : value.Ordered) :
    fillAll around clauses value = fillAll around others value := by
  have absorbed := fillAll_fillAll_of_subset targets (fun clause => (same clause).mpr) ordered
  have absorbs := fillAll_fillAll_of_subset targets (fun clause => (same clause).mp) ordered
  calc fillAll around clauses value
      = fillAll around others (fillAll around clauses value) := absorbed.symm
    _ = fillAll around clauses (fillAll around others value) :=
        (fillAll_comm targets clauses others ordered).symm
    _ = fillAll around others value := absorbs

theorem clausesOf_mem_iff {sources texts : List String}
    (same : ∀ source, source ∈ sources ↔ source ∈ texts) (clause : Clause) :
    clause ∈ clausesOf sources ↔ clause ∈ clausesOf texts := by
  simp only [mem_clausesOf, same]

end Storefront.Expansion
