import Storefront.Proofs.Expansion.Independence

/-! Expansion only adds targets: without its targets an expanded value is what it was before. A type
is enough to have a target stripped, but only references get one, so stripping takes out all that
expansion puts in. -/
namespace Storefront.Expansion

variable {around : Surroundings} {value result member : Json} {clause : Clause} {go : Json → Json}

theorem stripTargets_settle
    (same : ∀ inner, inner.Ordered → (go inner).stripTargets = inner.stripTargets)
    (ordered : value.Ordered) : (settle around go value).stripTargets = value.stripTargets := by
  cases shape : Reference.ofValue? value with
  | none => rw [settle_plain shape, same value ordered]
  | some reference =>
    cases found : targetOf? around value reference with
    | none => rw [settle_dangling shape found]
    | some target =>
      rw [settle_reference shape found]
      exact Json.stripTargets_setField_target ⟨_, typeId_of_ofValue? shape⟩ (go target)

theorem stripTargets_changeAt
    (same : ∀ inner, inner.Ordered → (go inner).stripTargets = inner.stripTargets)
    (index : Option Index) (ordered : member.Ordered) :
    (changeAt index go member).stripTargets = member.stripTargets := by
  unfold changeAt
  split
  · exact same _ ordered
  · rename_i index items
    have each := Json.ordered_array_iff.mp ordered
    rw [Json.stripTargets_array, Json.stripTargets_array]
    apply congrArg Json.array
    apply List.ext_getElem?
    intro position
    rw [List.getElem?_map, List.getElem?_map, List.getElem?_mapIdx]
    cases found : items[position]? with
    | none => rfl
    | some item =>
      have here := same item (each item (List.mem_of_getElem? found))
      cases index.names position <;> simp [here]
  · rfl

theorem stripTargets_fill (around : Surroundings) (clause : Clause) (ordered : value.Ordered) :
    (fill around clause value).stripTargets = value.stripTargets := by
  induction clause generalizing value with
  | nil => rfl
  | cons step steps ih =>
    apply ordered.stripTargets_mapField
    intro member memberOrdered
    exact stripTargets_changeAt (fun _ => stripTargets_settle fun _ => ih) step.index memberOrdered

theorem stripTargets_fillAll (targets : around.Ordered) (clauses : List Clause)
    (ordered : value.Ordered) : (fillAll around clauses value).stripTargets = value.stripTargets := by
  induction clauses generalizing value with
  | nil => rfl
  | cons clause clauses ih =>
    have rest := ih (ordered_fill targets clause ordered)
    exact rest.trans (stripTargets_fill around clause ordered)

/-- Whatever a successful expansion attaches, with strict references or without, stripping takes
out again. -/
theorem stripTargets_expand (targets : around.Ordered) {sources : List String}
    (ordered : value.Ordered) (expanded : expand around sources value = .ok result) :
    result.stripTargets = value.stripTargets := by
  rw [← fillAll_of_expand expanded]
  exact stripTargets_fillAll targets (clausesOf sources) ordered

/-- Filling in changes a member only in what it carries. -/
theorem stripTargets_field?_fill (around : Surroundings) (clause : Clause) (ordered : value.Ordered)
    (name : String) : ((fill around clause value).field? name).map Json.stripTargets =
      (value.field? name).map Json.stripTargets := by
  cases clause with
  | nil => rfl
  | cons step steps =>
    rw [fill, Json.field?_mapField]
    split
    · cases found : value.field? name with
      | none => rfl
      | some member =>
        apply congrArg some
        exact stripTargets_changeAt
          (fun _ => stripTargets_settle fun _ => stripTargets_fill around steps) step.index
          (ordered.field? found)
    · rfl

end Storefront.Expansion
