import Storefront.Proofs.Expansion.Decoration

/-! What an expansion attaches, and where. At whatever depth an expanded value carries a target, it is
the one that the reference there refers to; and no reference on the way of a clause is left without
its target, unless it has none. -/
namespace Storefront.Expansion

variable {around : Surroundings} {value reached next target member : Json} {reference : Reference}
  {clause steps : Clause} {go : Json → Json}

/-! ### Right targets -/

/-- If a value carries a target, then it is a reference, and what it refers to is that target
stripped. -/
def AttestedHere (around : Surroundings) (value : Json) : Prop :=
  value.CarriesTarget → ∃ reference target, Reference.ofValue? value = some reference ∧
    value.field? Reference.targetField = some target ∧
    around.target? reference = some target.stripTargets

/-- All targets that are carried at any depth, also inside of other targets, are the right ones. -/
def Attested (around : Surroundings) (value : Json) : Prop :=
  ∀ inner, Json.Part inner value → AttestedHere around inner

/-- No document that references refer to carries targets. -/
def Surroundings.Bare (around : Surroundings) : Prop :=
  ∀ reference target, around.target? reference = some target → target.Bare

theorem attested_of_bare (bare : value.Bare) : Attested around value := by
  intro inner part carries
  exact absurd carries (bare inner part)

theorem Attested.field? (attested : Attested around value) (found : value.field? name = some member) :
    Attested around member := by
  obtain ⟨members, rfl⟩ := Json.isObject_iff.mp (Json.isObject_of_field? found)
  intro inner part
  exact attested inner (.member (Dictionary.mem_of_get? found) part)

theorem attested_array_iff :
    Attested around (.array items) ↔ ∀ item ∈ items, Attested around item := by
  constructor
  · intro attested item among inner part
    exact attested inner (.item among part)
  · intro each inner part
    rcases Json.part_array_iff.mp part with rfl | ⟨item, among, part⟩
    · rintro ⟨⟨_, found⟩, _⟩
      contradiction
    · exact each item among inner part

theorem Attested.setField (attested : Attested around value) (name : String)
    (inside : Attested around member) (here : AttestedHere around (value.setField name member)) :
    Attested around (value.setField name member) := by
  cases value with
  | object members =>
    intro inner part
    rcases Json.part_object_iff.mp part with rfl | ⟨entry, found, part⟩
    · exact here
    · rcases Dictionary.mem_of_mem_insert found with rfl | old
      · exact inside inner part
      · exact attested inner (.member old part)
  | _ => exact attested

theorem attested_settle (targets : around.Ordered) (bare : around.Bare)
    (keeps : ∀ inner, inner.Ordered → Attested around inner → Attested around (go inner))
    (same : ∀ inner, inner.Ordered → (go inner).stripTargets = inner.stripTargets)
    (ordered : value.Ordered) (attested : Attested around value) :
    Attested around (settle around go value) := by
  cases shape : Reference.ofValue? value with
  | none => exact settle_plain shape go ▸ keeps value ordered attested
  | some reference =>
    cases found : targetOf? around value reference with
    | none => rwa [settle_dangling shape found]
    | some target =>
      have targetOrdered := ordered_targetOf? targets ordered found
      have object := isObject_of_reference shape
      -- The target is right before it is changed, be it carried or fetched.
      have right : Attested around target ∧ around.target? reference = some target.stripTargets := by
        rcases Option.or_eq_some_iff.mp found with carried | ⟨_, refers⟩
        · refine ⟨attested.field? carried, ?_⟩
          obtain ⟨_, _, read, held, refers⟩ :=
            attested value (.self value) ⟨⟨_, typeId_of_ofValue? shape⟩, target, carried⟩
          cases shape.symm.trans read
          cases carried.symm.trans held
          exact refers
        · have plain := bare reference target refers
          exact ⟨attested_of_bare plain, plain.stripTargets_eq.symm ▸ refers⟩
      rw [settle_reference shape found]
      apply attested.setField _ (keeps target targetOrdered right.1)
      intro _
      refine ⟨reference, go target, (ofValue?_setField_target ..).trans shape,
        Json.field?_setField_self object .., ?_⟩
      rw [same target targetOrdered, right.2]

theorem attested_changeAt
    (keeps : ∀ inner, inner.Ordered → Attested around inner → Attested around (go inner))
    (index : Option Index) (ordered : member.Ordered) (attested : Attested around member) :
    Attested around (changeAt index go member) := by
  unfold changeAt
  split
  · exact keeps _ ordered attested
  · rename_i index items
    have each := attested_array_iff.mp attested
    have eachOrdered := Json.ordered_array_iff.mp ordered
    apply attested_array_iff.mpr
    intro item among
    obtain ⟨position, bound, rfl⟩ := List.mem_mapIdx.mp among
    have original := List.getElem_mem bound
    split
    · exact keeps _ (eachOrdered _ original) (each _ original)
    · exact each _ original
  · exact attested

theorem attestedHere_fill (around : Surroundings) (clause : Clause) (ordered : value.Ordered)
    (attested : AttestedHere around value) : AttestedHere around (fill around clause value) := by
  rintro ⟨⟨typeId, typed⟩, target, carried⟩
  have typedBefore : (value.field? "typeId").bind (·.string?) = some typeId := by
    rw [← text?_fill around clause, typed]
    rfl
  obtain ⟨type, there, text⟩ := Option.bind_eq_some_iff.mp typedBefore
  have same := stripTargets_field?_fill around clause ordered Reference.targetField
  rw [carried] at same
  obtain ⟨before, carriedBefore, stripped⟩ := Option.map_eq_some_iff.mp same.symm
  obtain rfl : type = .string typeId := by
    cases type with
    | string found => exact congrArg Json.string (Option.some.inj text)
    | _ => contradiction
  obtain ⟨reference, held, read, holds, refers⟩ := attested ⟨⟨typeId, there⟩, before, carriedBefore⟩
  cases carriedBefore.symm.trans holds
  exact ⟨reference, target, (ofValue?_fill ..).trans read, carried, stripped ▸ refers⟩

theorem attested_fill (targets : around.Ordered) (bare : around.Bare) (clause : Clause)
    (ordered : value.Ordered) (attested : Attested around value) :
    Attested around (fill around clause value) := by
  induction clause generalizing value with
  | nil => exact attested
  | cons step steps ih =>
    have here := attestedHere_fill around (step :: steps) ordered (attested value (.self value))
    rw [fill] at here ⊢
    cases found : value.field? step.element with
    | none => rwa [Json.mapField_of_none found]
    | some member =>
      rw [Json.mapField_of_some found] at here ⊢
      apply attested.setField _ ?_ here
      refine attested_changeAt (fun _ => ?_) step.index (ordered.field? found) (attested.field? found)
      exact attested_settle targets bare (fun _ => ih) fun _ => stripTargets_fill around steps

theorem attested_fillAll (targets : around.Ordered) (bare : around.Bare) (clauses : List Clause)
    (ordered : value.Ordered) (attested : Attested around value) :
    Attested around (fillAll around clauses value) := by
  induction clauses generalizing value with
  | nil => exact attested
  | cons clause clauses ih =>
    exact ih (ordered_fill targets clause ordered) (attested_fill targets bare clause ordered attested)

/-! ### All targets -/

theorem destinations_changeAt (index : Option Index) (change : Json → Json) (member : Json) :
    destinations index (changeAt index change member) = (destinations index member).map change := by
  match index, member with
  | none, member => rfl
  | some (.at position), .array items =>
    simp only [changeAt, destinations, List.getElem?_mapIdx, Index.names]
    cases items[position]? <;> simp
  | some .all, .array items =>
    simp only [changeAt, destinations, Index.names, if_true]
    apply List.ext_getElem?
    intro position
    rw [List.getElem?_mapIdx, List.getElem?_map]
  | some index, .null | some index, .bool _ | some index, .number _ | some index, .string _
  | some index, .object _ => cases index <;> rfl

theorem ofValue?_settle (around : Surroundings)
    (keeps : ∀ inner, Reference.ofValue? (go inner) = Reference.ofValue? inner) (value : Json) :
    Reference.ofValue? (settle around go value) = Reference.ofValue? value := by
  cases shape : Reference.ofValue? value with
  | none => rw [settle_plain shape, keeps, shape]
  | some reference =>
    cases found : targetOf? around value reference with
    | none => rw [settle_dangling shape found, shape]
    | some target => rw [settle_reference shape found, ofValue?_setField_target, shape]

/-- A reference that was arrived at carries a target or refers to none. -/
theorem settled (around : Surroundings) (steps : Clause) (value : Json)
    (shape : Reference.ofValue? (settle around (fill around steps) value) = some reference) :
    (∃ target, (settle around (fill around steps) value).field? Reference.targetField = some target) ∨
      around.target? reference = none := by
  rw [ofValue?_settle around (ofValue?_fill around steps)] at shape
  cases found : targetOf? around value reference with
  | none => exact .inr (Option.or_eq_none_iff.mp found).2
  | some target =>
    rw [settle_reference shape found]
    exact .inl ⟨_, Json.field?_setField_self (isObject_of_reference shape) _ _⟩

/-- Where a walk goes on after it arrived, the rest of the clause is filled in already. -/
theorem exists_fill_of_leads
    (leads : Leads around (settle around (fill around steps) value) next) :
    ∃ before, next = fill around steps before := by
  have kept := ofValue?_settle around (ofValue?_fill around steps) value
  cases leads with
  | plain shape => exact ⟨value, settle_plain (kept.symm.trans shape) _⟩
  | carried shape carried =>
    rename_i reference
    have before := kept.symm.trans shape
    cases found : targetOf? around value reference with
    | none =>
      rw [settle_dangling before found] at carried
      cases carried.symm.trans (Option.or_eq_none_iff.mp found).1
    | some target =>
      rw [settle_reference before found, Json.field?_setField_self (isObject_of_reference before)]
        at carried
      exact ⟨target, (Option.some.inj carried).symm⟩
  | fetched shape uncarried refers =>
    rcases settled around steps value shape with ⟨target, carried⟩ | missing
    · cases uncarried.symm.trans carried
    · cases missing.symm.trans refers

/-- Every reference on the way of a clause that was filled in carries a target or refers to none. -/
theorem settled_of_reaches (reaches : Reaches around clause (fill around clause value) reached)
    (shape : Reference.ofValue? reached = some reference) :
    (∃ target, reached.field? Reference.targetField = some target) ∨
      around.target? reference = none := by
  induction clause generalizing value with
  | nil => cases reaches
  | cons step steps ih =>
    -- Each destination of the step was arrived at.
    have arrivedAt {member between : Json}
        (found : (fill around (step :: steps) value).field? step.element = some member)
        (among : between ∈ destinations step.index member) :
        ∃ before, between = settle around (fill around steps) before := by
      rw [fill, Json.field?_mapField, if_pos rfl] at found
      obtain ⟨original, _, rfl⟩ := Option.map_eq_some_iff.mp found
      rw [destinations_changeAt] at among
      obtain ⟨before, _, rfl⟩ := List.mem_map.mp among
      exact ⟨before, rfl⟩
    cases reaches with
    | here found among =>
      obtain ⟨before, rfl⟩ := arrivedAt found among
      exact settled around steps before shape
    | beyond found among leads further =>
      obtain ⟨before, rfl⟩ := arrivedAt found among
      obtain ⟨inner, rfl⟩ := exists_fill_of_leads leads
      exact ih further

end Storefront.Expansion
