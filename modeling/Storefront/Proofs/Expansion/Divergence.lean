import Storefront.Document.Basic
import Storefront.Proofs.Expansion.Growth

/-! Expansions of one value in surroundings of which one lacks a document. They part at the first
reference that refers to this document: one attaches it and the other does not. Since texts stay where
they are, the results never come together again. -/
namespace Storefront.Expansion
open Json (Selector Position)

variable {full lacking : Surroundings} {value reached left right leftGrown rightGrown other : Json}
  {typeId id : String} {clause : Clause}

def idSelector : Selector := .member "id"

theorem at?_id_iff : value.at? [idSelector] = some (.string id) ↔ Document.id? value = some id := by
  rw [Json.at?_cons_eq_some_iff]
  simp only [Json.at?_nil, Option.some.injEq, Document.id?, Option.bind_eq_some_iff]
  constructor
  · rintro ⟨member, found, rfl⟩
    exact ⟨_, found, rfl⟩
  · rintro ⟨member, found, text⟩
    cases member with
    | string value =>
      cases text
      exact ⟨_, found, rfl⟩
    | _ => contradiction

/-- A reference refers to the document of a type and an id. -/
def RefersTo (around : Surroundings) (typeId id : String) (reference : Reference) : Prop :=
  reference.typeId = typeId ∧
    ∃ target, around.target? reference = some target ∧ Document.id? target = some id

/-- Surroundings that differ in one document only, which the second ones lack. -/
structure Lacks (typeId id : String) (full lacking : Surroundings) : Prop where
  strict : full.strict = lacking.strict
  others : ∀ reference, ¬ RefersTo full typeId id reference →
    full.target? reference = lacking.target? reference
  missing : ∀ reference target, reference.typeId = typeId →
    lacking.target? reference = some target → ∃ other, other ≠ id ∧ Document.id? target = some other

/-- At a position the first value carries a document that the second one, there of the same type, does
not carry. -/
structure Apart (typeId id : String) (position : Position) (left right : Json) : Prop where
  marked : left.at? (position ++ [targetSelector, idSelector]) = some (.string id)
  typed : right.at? (position ++ [.member "typeId"]) = some (.string typeId)
  unmarked : right.at? (position ++ [targetSelector]) = none ∨
    ∃ other, other ≠ id ∧
      right.at? (position ++ [targetSelector, idSelector]) = some (.string other)

theorem Apart.ne (apart : Apart typeId id position left right) : left ≠ right := by
  rintro rfl
  have marked := apart.marked
  rcases apart.unmarked with missing | ⟨other, different, there⟩
  · rw [List.append_cons, Json.at?_append, missing] at marked
    contradiction
  · cases marked.symm.trans there
    exact different rfl

/-- What is apart inside of two values makes them apart. -/
theorem Apart.inside {inner : Json} (apart : Apart typeId id position inner other)
    (here : left.at? outer = some inner) (there : right.at? outer = some other) :
    Apart typeId id (outer ++ position) left right := by
  have fromLeft (further : Position) : left.at? (outer ++ position ++ further) =
      inner.at? (position ++ further) := by
    rw [List.append_assoc, Json.at?_append, here, Option.bind_some]
  have fromRight (further : Position) : right.at? (outer ++ position ++ further) =
      other.at? (position ++ further) := by
    rw [List.append_assoc, Json.at?_append, there, Option.bind_some]
  refine ⟨?_, ?_, ?_⟩
  · rw [fromLeft, apart.marked]
  · rw [fromRight, apart.typed]
  · rw [fromRight, fromRight]
    exact apart.unmarked

/-- Values that are apart stay apart, however each of them grows in its surroundings. -/
theorem Apart.grown (lacks : Lacks typeId id full lacking)
    (apart : Apart typeId id position left right) (grownLeft : Grown full left leftGrown)
    (grownRight : Grown lacking right rightGrown) : Apart typeId id position leftGrown rightGrown := by
  refine ⟨grownLeft.texts _ _ apart.marked, grownRight.texts _ _ apart.typed, ?_⟩
  rcases apart.unmarked with missing | ⟨differing, different, there⟩
  · refine (grownRight.attached _ _ apart.typed missing).imp_right ?_
    rintro ⟨reference, target, sameType, refers, holds⟩
    obtain ⟨differing, different, named⟩ := lacks.missing reference target sameType refers
    refine ⟨differing, different, ?_⟩
    have text := holds [idSelector] differing (at?_id_iff.mpr named)
    rwa [List.append_assoc] at text
  · exact .inr ⟨differing, different, grownRight.texts _ _ there⟩

/-! ### Where the expansions part -/

theorem arrive_apart (lacks : Lacks typeId id full lacking) (bare : Unresolved reached reference)
    (refers : RefersTo full typeId id reference) {first second : Json → Except Error Json}
    (onward : ∀ value result, first value = .ok result → Grown full value result)
    (otherwise : ∀ value result, second value = .ok result → Grown lacking value result)
    (here : arrive full first reached = .ok left) (there : arrive lacking second reached = .ok right) :
    Apart typeId id [] left right := by
  obtain ⟨shape, uncarried⟩ := bare
  obtain ⟨sameType, target, fetched, named⟩ := refers
  have object := isObject_of_reference shape
  have typed : reached.at? [.member "typeId"] = some (.string typeId) :=
    Json.at?_cons_of_some (sameType ▸ typeId_of_ofValue? shape) []
  rw [arrive_fetched shape uncarried fetched] at here
  obtain ⟨attached, went, rfl⟩ := map_eq_ok_iff.mp here
  have selected : ((reached.setField Reference.targetField target).setField Reference.targetField
      attached).select? targetSelector = some attached :=
    Json.select?_setField_self ((Json.isObject_setField ..).trans object) _ _
  have marked := (onward _ _ went).texts _ _ (at?_id_iff.mpr named)
  have grown := grown_arrive otherwise there
  have unselected : reached.select? targetSelector = none := uncarried
  have missing : reached.at? [targetSelector] = none := Json.at?_cons_of_none unselected []
  refine ⟨(Json.at?_cons_of_some selected _).trans marked, grown.texts _ _ typed,
    (grown.attached [] typeId typed missing).imp_right ?_⟩
  rintro ⟨reference, target, sameType, refers, holds⟩
  obtain ⟨differing, different, named⟩ := lacks.missing reference target sameType refers
  exact ⟨differing, different, holds [idSelector] differing (at?_id_iff.mpr named)⟩

/-- What a step makes of a value that it goes to stands at one position, whatever it makes of it. -/
theorem exists_position_of_destination {index : Option Index} (among : reached ∈ destinations index value) :
    ∃ outer : Position, ∀ (arrive : Json → Except Error Json) result,
      enter arrive index value = .ok result →
        ∃ inner, arrive reached = .ok inner ∧ result.at? outer = some inner := by
  unfold destinations at among
  split at among
  · cases List.mem_singleton.mp among
    exact ⟨[], fun arrive result entered => ⟨result, entered, rfl⟩⟩
  · rename_i position items
    have found := Option.mem_toList.mp among
    refine ⟨[.item position], fun arrive result entered => ?_⟩
    simp only [enter, Option.mem_def.mp found] at entered
    obtain ⟨inner, arrived, rfl⟩ := map_eq_ok_iff.mp entered
    have stands : (Json.array (items.set position inner)).select? (.item position) = some inner :=
      List.getElem?_set_self (List.getElem?_eq_some_iff.mp found).1
    exact ⟨inner, arrived, Json.at?_cons_of_some stands []⟩
  · rename_i items
    obtain ⟨position, found⟩ := List.mem_iff_getElem?.mp among
    refine ⟨[.item position], fun arrive result entered => ?_⟩
    obtain ⟨results, mapped, rfl⟩ := map_eq_ok_iff.mp entered
    rcases getElem?_of_mapM_ok mapped position with ⟨none, _⟩ | ⟨item, inner, there, arrived, made⟩
    · cases none.symm.trans found
    · cases there.symm.trans found
      have stands : (Json.array results).select? (.item position) = some inner := made
      exact ⟨inner, arrived, Json.at?_cons_of_some stands []⟩
  · contradiction

theorem at?_setField_self (found : value.field? name = some reached) (member : Json) :
    (value.setField name member).at? [.member name] = some member :=
  Json.at?_cons_of_some
    (Json.select?_setField_self (Json.isObject_of_field? found) name member) []

/-- Two walks part if the way of the first comes to a reference to the document that the second
lacks. The first such reference on the way is where they part. -/
theorem walk_apart (lacks : Lacks typeId id full lacking)
    (reaches : Reaches full clause value reached) (bare : Unresolved reached reference)
    (refers : RefersTo full typeId id reference) (here : walk full clause value = .ok left)
    (there : walk lacking clause value = .ok right) :
    ∃ position, Apart typeId id position left right := by
  induction reaches generalizing left right with
  | here found among =>
    obtain ⟨outer, placed⟩ := exists_position_of_destination among
    simp only [walk, found] at here there
    obtain ⟨leftMember, enteredLeft, rfl⟩ := map_eq_ok_iff.mp here
    obtain ⟨rightMember, enteredRight, rfl⟩ := map_eq_ok_iff.mp there
    obtain ⟨leftInner, arrivedLeft, leftThere⟩ := placed _ _ enteredLeft
    obtain ⟨rightInner, arrivedRight, rightThere⟩ := placed _ _ enteredRight
    have apart := arrive_apart lacks bare refers (fun _ _ => grown_walk) (fun _ _ => grown_walk)
      arrivedLeft arrivedRight
    exact ⟨_, (apart.inside leftThere rightThere).inside (at?_setField_self found leftMember)
      (at?_setField_self found rightMember)⟩
  | beyond found among leads further ih =>
    obtain ⟨outer, placed⟩ := exists_position_of_destination among
    simp only [walk, found] at here there
    obtain ⟨leftMember, enteredLeft, rfl⟩ := map_eq_ok_iff.mp here
    obtain ⟨rightMember, enteredRight, rfl⟩ := map_eq_ok_iff.mp there
    obtain ⟨leftInner, arrivedLeft, leftThere⟩ := placed _ _ enteredLeft
    obtain ⟨rightInner, arrivedRight, rightThere⟩ := placed _ _ enteredRight
    suffices ∃ position, Apart typeId id position leftInner rightInner by
      obtain ⟨position, apart⟩ := this
      exact ⟨_, (apart.inside leftThere rightThere).inside (at?_setField_self found leftMember)
        (at?_setField_self found rightMember)⟩
    cases leads with
    | plain shape =>
      rw [arrive_plain shape] at arrivedLeft arrivedRight
      exact ih bare arrivedLeft arrivedRight
    | carried shape carried =>
      rw [arrive_carried shape carried] at arrivedLeft arrivedRight
      obtain ⟨leftTarget, wentLeft, rfl⟩ := map_eq_ok_iff.mp arrivedLeft
      obtain ⟨rightTarget, wentRight, rfl⟩ := map_eq_ok_iff.mp arrivedRight
      obtain ⟨position, apart⟩ := ih bare wentLeft wentRight
      exact ⟨_, apart.inside (at?_setField_self carried leftTarget)
        (at?_setField_self carried rightTarget)⟩
    | fetched shape uncarried fetched =>
      rename_i earlier
      have object := isObject_of_reference shape
      by_cases first : RefersTo full typeId id earlier
      · exact ⟨[], arrive_apart lacks ⟨shape, uncarried⟩ first (fun _ _ => grown_walk)
          (fun _ _ => grown_walk) arrivedLeft arrivedRight⟩
      · have same := lacks.others earlier first
        rw [arrive_fetched shape uncarried fetched] at arrivedLeft
        rw [arrive_fetched shape uncarried (same ▸ fetched)] at arrivedRight
        obtain ⟨leftTarget, wentLeft, rfl⟩ := map_eq_ok_iff.mp arrivedLeft
        obtain ⟨rightTarget, wentRight, rfl⟩ := map_eq_ok_iff.mp arrivedRight
        obtain ⟨position, apart⟩ := ih bare wentLeft wentRight
        exact ⟨_, apart.inside
          (at?_setField_self (Json.field?_setField_self object Reference.targetField _) leftTarget)
          (at?_setField_self (Json.field?_setField_self object Reference.targetField _) rightTarget)⟩

/-- Two expansions part if the first one looks up a reference to the document that the second lacks. -/
theorem expand_apart (lacks : Lacks typeId id full lacking) {clauses : List String}
    (consults : Consults full clauses value reference) (refers : RefersTo full typeId id reference)
    (here : expand full clauses value = .ok left) (there : expand lacking clauses value = .ok right) :
    ∃ position, Apart typeId id position left right := by
  induction consults generalizing left right with
  | here read reaches bare =>
    obtain ⟨clause, leftNext, readLeft, walkedLeft, leftRest⟩ := expand_cons_eq_ok_iff.mp here
    obtain ⟨_, rightNext, readRight, walkedRight, rightRest⟩ := expand_cons_eq_ok_iff.mp there
    cases read.symm.trans readLeft
    cases read.symm.trans readRight
    obtain ⟨position, apart⟩ := walk_apart lacks reaches bare refers walkedLeft walkedRight
    exact ⟨position, apart.grown lacks (grown_expand leftRest) (grown_expand rightRest)⟩
  | @later source clause value next later reference read walked _ ih =>
    obtain ⟨clause, leftNext, readLeft, walkedLeft, leftRest⟩ := expand_cons_eq_ok_iff.mp here
    obtain ⟨_, rightNext, readRight, walkedRight, rightRest⟩ := expand_cons_eq_ok_iff.mp there
    cases read.symm.trans readLeft
    cases read.symm.trans readRight
    cases walked.symm.trans walkedLeft
    by_cases earlier : ∃ reached other, Reaches full clause value reached ∧
        Unresolved reached other ∧ RefersTo full typeId id other
    · obtain ⟨reached, other, reaches, bare, first⟩ := earlier
      obtain ⟨position, apart⟩ := walk_apart lacks reaches bare first walkedLeft walkedRight
      exact ⟨position, apart.grown lacks (grown_expand leftRest) (grown_expand rightRest)⟩
    · have same : walk full clause value = walk lacking clause value :=
        walk_congr lacks.strict fun reached other reaches bare =>
          lacks.others other fun first => earlier ⟨reached, other, reaches, bare, first⟩
      cases walkedLeft.symm.trans (same.trans walkedRight)
      exact ih refers leftRest rightRest

/-- Where the expansion in the full surroundings succeeds, the other gives the same exactly if no
reference to the document that it lacks is looked up. -/
theorem expand_eq_iff (lacks : Lacks typeId id full lacking) {clauses : List String}
    (expanded : expand full clauses value = .ok left) :
    expand lacking clauses value = .ok left ↔
      ∀ reference, Consults full clauses value reference → ¬ RefersTo full typeId id reference := by
  constructor
  · intro same reference consults refers
    obtain ⟨position, apart⟩ := expand_apart lacks consults refers expanded same
    exact apart.ne rfl
  · intro clear
    have same := expand_congr lacks.strict fun reference consults =>
      lacks.others reference (clear reference consults)
    exact same ▸ expanded

end Storefront.Expansion
