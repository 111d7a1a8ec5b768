import Storefront.Proofs.Expansion.Agreement
import Storefront.Proofs.Json.Position

/-! What an expansion makes of a value. Every text stays at its position, and a reference without a
target gets the one that it refers to or none. -/
namespace Storefront.Expansion
open Json (Selector Position)

variable {around : Surroundings} {before middle after value result : Json}

def targetSelector : Selector := .member Reference.targetField

/-- A value has, from a position on, all the texts of another. -/
def Holds (value : Json) (position : Position) (inner : Json) : Prop :=
  ∀ within text, inner.at? within = some (.string text) →
    value.at? (position ++ within) = some (.string text)

/-- What expansion in some surroundings can make of a value. -/
structure Grown (around : Surroundings) (before after : Json) : Prop where
  texts : Holds after [] before
  attached : ∀ position typeId, before.at? (position ++ [.member "typeId"]) = some (.string typeId) →
    before.at? (position ++ [targetSelector]) = none →
    after.at? (position ++ [targetSelector]) = none ∨
      ∃ reference target, reference.typeId = typeId ∧ around.target? reference = some target ∧
        Holds after (position ++ [targetSelector]) target

theorem Grown.refl (around : Surroundings) (value : Json) : Grown around value value :=
  ⟨fun _ _ found => found, fun _ _ _ bare => .inl bare⟩

theorem Grown.trans (first : Grown around before middle) (second : Grown around middle after) :
    Grown around before after := by
  refine ⟨fun within text found => second.texts _ _ (first.texts _ _ found), ?_⟩
  intro position typeId typed bare
  rcases first.attached position typeId typed bare with
    still | ⟨reference, target, sameType, refers, holds⟩
  · exact second.attached position typeId (first.texts _ _ typed) still
  · exact .inr ⟨reference, target, sameType, refers,
      fun within text found => second.texts _ _ (holds within text found)⟩

/-- Growth of all that is inside of a value, to which nothing is added, is growth of the value. -/
theorem grown_of_inside (shape : ∀ text, before ≠ .string text)
    (inside : ∀ selector inner, before.select? selector = some inner →
      ∃ grown, after.select? selector = some grown ∧ Grown around inner grown)
    (absent : ∀ selector, before.select? selector = none → after.select? selector = none) :
    Grown around before after := by
  constructor
  · intro within text found
    cases within with
    | nil => exact absurd (Option.some.inj found) (shape text)
    | cons selector within =>
      obtain ⟨inner, selected, there⟩ := Json.at?_cons_eq_some_iff.mp found
      obtain ⟨grown, still, growth⟩ := inside selector inner selected
      exact Json.at?_cons_eq_some_iff.mpr ⟨grown, still, growth.texts _ _ there⟩
  · intro position typeId typed bare
    cases position with
    | nil =>
      left
      apply Json.at?_cons_of_none
      apply absent
      cases selected : before.select? targetSelector with
      | none => rfl
      | some target => simp [Json.at?_cons_of_some selected] at bare
    | cons selector position =>
      obtain ⟨inner, selected, typed⟩ := Json.at?_cons_eq_some_iff.mp typed
      obtain ⟨grown, still, growth⟩ := inside selector inner selected
      rw [List.cons_append, Json.at?_cons_of_some selected] at bare
      rw [List.cons_append, Json.at?_cons_of_some still]
      refine (growth.attached position typeId typed bare).imp_right ?_
      rintro ⟨reference, target, sameType, refers, holds⟩
      refine ⟨reference, target, sameType, refers, fun within text found => ?_⟩
      exact Json.at?_cons_eq_some_iff.mpr ⟨grown, still, holds within text found⟩

theorem ne_string_of_object (shape : value.isObject = true) (text : String) :
    value ≠ .string text := by
  rintro rfl
  contradiction

theorem grown_setField (found : value.field? name = some before) (grown : Grown around before after) :
    Grown around value (value.setField name after) := by
  have shape := Json.isObject_of_field? found
  apply grown_of_inside (ne_string_of_object shape)
  · intro selector inner selected
    by_cases same : selector = .member name
    · subst same
      cases selected.symm.trans found
      exact ⟨after, Json.select?_setField_self shape name after, grown⟩
    · exact ⟨inner, (Json.select?_setField_of_ne value after same).trans selected, .refl ..⟩
  · intro selector missing
    have different : selector ≠ .member name := by
      rintro rfl
      cases missing.symm.trans found
    exact (Json.select?_setField_of_ne value after different).trans missing

theorem typeId_of_ofValue? (shape : Reference.ofValue? value = some reference) :
    value.field? "typeId" = some (.string reference.typeId) := by
  unfold Reference.ofValue? at shape
  split at shape
  · contradiction
  · rename_i typeId typed
    obtain ⟨member, found, text⟩ := Option.bind_eq_some_iff.mp typed
    cases member with
    | string value =>
      cases text
      split at shape <;> cases shape
      exact found
    | _ => contradiction

/-- Attaching what a reference refers to, grown or not, is growth. -/
theorem grown_attach (bare : Unresolved value reference)
    (refers : around.target? reference = some before) (grown : Grown around before after)
    (selected : result.select? targetSelector = some after)
    (others : ∀ selector, selector ≠ targetSelector →
      result.select? selector = value.select? selector) :
    Grown around value result := by
  have missing : value.select? targetSelector = none := bare.2
  constructor
  · intro within text found
    cases within with
    | nil =>
      exact absurd (Option.some.inj found) (ne_string_of_object (isObject_of_reference bare.1) text)
    | cons selector within =>
      obtain ⟨inner, among, there⟩ := Json.at?_cons_eq_some_iff.mp found
      have different : selector ≠ targetSelector := by
        rintro rfl
        cases missing.symm.trans among
      exact Json.at?_cons_eq_some_iff.mpr ⟨inner, (others selector different).trans among, there⟩
  · intro position typeId typed unattached
    cases position with
    | nil =>
      right
      refine ⟨reference, before, ?_, refers, fun within text found => ?_⟩
      · obtain ⟨member, among, there⟩ := Json.at?_cons_eq_some_iff.mp typed
        cases Option.some.inj there
        cases (typeId_of_ofValue? bare.1).symm.trans among
        rfl
      · exact Json.at?_cons_eq_some_iff.mpr ⟨after, selected, grown.texts _ _ found⟩
    | cons selector position =>
      left
      obtain ⟨inner, among, typed⟩ := Json.at?_cons_eq_some_iff.mp typed
      have different : selector ≠ targetSelector := by
        rintro rfl
        cases missing.symm.trans among
      rw [List.cons_append, Json.at?_cons_of_some among] at unattached
      rw [List.cons_append, Json.at?_cons_of_some ((others selector different).trans among)]
      exact unattached

/-! ### Growth at each step -/

theorem map_eq_ok_iff {outcome : Except Error α} {change : α → β} {result : β} :
    outcome.map change = .ok result ↔ ∃ value, outcome = .ok value ∧ change value = result := by
  cases outcome <;> simp [Except.map]

theorem exists_of_mem_forall₂ {related : α → β → Prop} {as : List α} {bs : List β}
    (lists : List.Forall₂ related as bs) : ∀ a ∈ as, ∃ b ∈ bs, related a b := by
  induction lists with
  | nil => exact nofun
  | cons here _ ih =>
    refine List.forall_mem_cons.mpr ⟨⟨_, List.mem_cons_self, here⟩, fun a member => ?_⟩
    obtain ⟨b, among, there⟩ := ih a member
    exact ⟨b, List.mem_cons_of_mem _ among, there⟩

theorem forall₂_getElem? {related : α → β → Prop} {as : List α} {bs : List β}
    (lists : List.Forall₂ related as bs) (position : Nat) :
    (as[position]? = none ∧ bs[position]? = none) ∨
      ∃ a b, as[position]? = some a ∧ bs[position]? = some b ∧ related a b := by
  induction lists generalizing position with
  | nil => exact .inl ⟨rfl, rfl⟩
  | cons here _ ih =>
    cases position with
    | zero => exact .inr ⟨_, _, rfl, rfl, here⟩
    | succ position => exact ih position

/-- What is made of the items of an array stands where they stood. -/
theorem getElem?_of_mapM_ok {step : Json → Except Error Json} {items results : List Json}
    (mapped : items.mapM step = .ok results) (position : Nat) :
    (items[position]? = none ∧ results[position]? = none) ∨
      ∃ item result, items[position]? = some item ∧ step item = .ok result ∧
        results[position]? = some result := by
  rcases forall₂_getElem? (forall₂_of_mapM_ok mapped) position with
    absent | ⟨item, result, found, made, stepped⟩
  · exact .inl absent
  · exact .inr ⟨item, result, found, stepped, made⟩

theorem select?_array (items : List Json) (selector : Selector) :
    (Json.array items).select? selector =
      match selector with
      | .member _ => none
      | .item position => items[position]? := by
  cases selector <;> rfl

theorem grown_enter {arrive : Json → Except Error Json} {index : Option Index}
    (arrives : ∀ value result, arrive value = .ok result → Grown around value result)
    (entered : enter arrive index before = .ok after) : Grown around before after := by
  unfold enter at entered
  split at entered
  · exact arrives _ _ entered
  · rename_i position items
    split at entered
    · cases entered
      exact .refl ..
    · rename_i item found
      obtain ⟨result, arrived, rfl⟩ := map_eq_ok_iff.mp entered
      refine grown_of_inside (fun _ => nofun) (fun selector inner selected => ?_)
        (fun selector missing => ?_)
      · rw [select?_array] at selected ⊢
        cases selector with
        | member name => contradiction
        | item other =>
          by_cases same : position = other
          · subst same
            cases selected.symm.trans found
            refine ⟨result, ?_, arrives _ _ arrived⟩
            exact List.getElem?_set_self (List.getElem?_eq_some_iff.mp found).1
          · exact ⟨inner, (List.getElem?_set_ne same).trans selected, .refl ..⟩
      · rw [select?_array] at missing ⊢
        cases selector with
        | member name => rfl
        | item other => simpa using missing
  · rename_i items
    obtain ⟨results, mapped, rfl⟩ := map_eq_ok_iff.mp entered
    refine grown_of_inside (fun _ => nofun) (fun selector inner selected => ?_)
      (fun selector missing => ?_)
    · rw [select?_array] at selected ⊢
      cases selector with
      | member name => contradiction
      | item position =>
        rcases getElem?_of_mapM_ok mapped position with
          ⟨none, _⟩ | ⟨item, result, found, arrived, made⟩
        · cases none.symm.trans selected
        · cases found.symm.trans selected
          exact ⟨result, made, arrives _ _ arrived⟩
    · rw [select?_array] at missing ⊢
      cases selector with
      | member name => rfl
      | item position =>
        rcases getElem?_of_mapM_ok mapped position with ⟨_, none⟩ | ⟨item, _, found, _⟩
        · exact none
        · cases missing.symm.trans found
  · cases entered
    exact .refl ..

theorem grown_arrive {go : Json → Except Error Json}
    (onward : ∀ value result, go value = .ok result → Grown around value result)
    (arrived : arrive around go before = .ok after) : Grown around before after := by
  cases shape : Reference.ofValue? before with
  | none => exact onward _ _ (arrive_plain shape go ▸ arrived)
  | some reference =>
    have object := isObject_of_reference shape
    cases carried : before.field? Reference.targetField with
    | some target =>
      rw [arrive_carried shape carried] at arrived
      obtain ⟨grown, went, rfl⟩ := map_eq_ok_iff.mp arrived
      exact grown_setField carried (onward _ _ went)
    | none =>
      cases refers : around.target? reference with
      | some target =>
        rw [arrive_fetched shape carried refers] at arrived
        obtain ⟨grown, went, rfl⟩ := map_eq_ok_iff.mp arrived
        refine grown_attach ⟨shape, carried⟩ refers (onward _ _ went) ?_ fun selector different => ?_
        · exact Json.select?_setField_self ((Json.isObject_setField ..).trans object) _ _
        · rw [Json.select?_setField_of_ne _ _ different, Json.select?_setField_of_ne _ _ different]
      | none =>
        rw [arrive_dangling ⟨shape, carried, refers⟩] at arrived
        split at arrived <;> cases arrived
        exact .refl ..

theorem grown_walk (walked : walk around clause before = .ok after) : Grown around before after := by
  induction clause generalizing before after with
  | nil =>
    cases walked
    exact .refl ..
  | cons step steps ih =>
    simp only [walk] at walked
    split at walked
    · cases walked
      exact .refl ..
    · rename_i member found
      obtain ⟨grown, entered, rfl⟩ := map_eq_ok_iff.mp walked
      exact grown_setField found (grown_enter (fun _ _ => grown_arrive fun _ _ => ih) entered)

theorem expand_cons_eq_ok_iff {source : String} {later : List String} :
    expand around (source :: later) value = .ok result ↔
      ∃ clause next, readClause source = .ok clause ∧ walk around clause value = .ok next ∧
        expand around later next = .ok result := by
  rw [expand_cons]
  cases readClause source with
  | error error => simp [bind, Except.bind]
  | ok clause => cases walked : walk around clause value <;> simp [bind, Except.bind, walked]

/-- A successful expansion keeps every text and attaches only what references refer to. -/
theorem grown_expand {clauses : List String} (expanded : expand around clauses before = .ok after) :
    Grown around before after := by
  induction clauses generalizing before with
  | nil =>
    cases expanded
    exact .refl ..
  | cons source later ih =>
    obtain ⟨clause, next, _, walked, rest⟩ := expand_cons_eq_ok_iff.mp expanded
    exact (grown_walk walked).trans (ih rest)

end Storefront.Expansion
