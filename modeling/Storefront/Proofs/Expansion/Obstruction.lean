import Mathlib.Data.List.Forall2
import Storefront.Expansion
import Storefront.Proofs.Json.Structure

/-! When expansion fails. The only obstructions are a malformed clause and, where references are
strict, a reference on the way of a clause that neither carries a target nor refers to one. -/
namespace Storefront.Expansion

variable {around : Surroundings}

theorem mem_of_mapM_error {step : α → Except Error β} {items : List α}
    (failed : items.mapM step = .error error) : ∃ item ∈ items, step item = .error error := by
  induction items with
  | nil => contradiction
  | cons first rest ih =>
    rw [List.mapM_cons] at failed
    cases here : step first with
    | error e =>
      rw [here] at failed
      cases failed
      exact ⟨first, List.mem_cons_self, here⟩
    | ok done =>
      cases there : rest.mapM step with
      | error e =>
        rw [here, there] at failed
        cases failed
        obtain ⟨item, member, fails⟩ := ih there
        exact ⟨item, List.mem_cons_of_mem _ member, fails⟩
      | ok others =>
        rw [here, there] at failed
        contradiction

/-- Each result is what is made of the item at its place. -/
theorem forall₂_of_mapM_ok {step : α → Except Error β} {items : List α}
    (mapped : items.mapM step = .ok results) :
    List.Forall₂ (fun item result => step item = .ok result) items results := by
  induction items generalizing results with
  | nil =>
    cases mapped
    exact .nil
  | cons first rest ih =>
    rw [List.mapM_cons] at mapped
    cases here : step first with
    | error e => simp [here, bind, Except.bind] at mapped
    | ok done =>
      cases there : rest.mapM step with
      | error e => simp [here, there, bind, Except.bind] at mapped
      | ok others =>
        simp only [here, there, bind, Except.bind, pure, Except.pure, Except.ok.injEq] at mapped
        subst mapped
        exact .cons here (ih there)

theorem mapM_error_of_mem {step : Json → Except Error Json} {items : List Json}
    (member : item ∈ items) (failed : step item = .error error) :
    ∃ other, items.mapM step = .error other := by
  induction items with
  | nil => contradiction
  | cons first rest ih =>
    rw [List.mapM_cons]
    cases here : step first with
    | error e => exact ⟨e, rfl⟩
    | ok done =>
      rcases List.mem_cons.mp member with rfl | later
      · cases here.symm.trans failed
      · obtain ⟨other, fails⟩ := ih later
        exact ⟨other, by rw [fails]; rfl⟩

theorem map_eq_error_iff {outcome : Except Error α} {change : α → β} :
    outcome.map change = .error error ↔ outcome = .error error := by
  cases outcome <;> simp [Except.map]

/-! ### Steps -/

/-- Where a step goes from the member that it names. -/
def destinations : Option Index → Json → List Json
  | none, member => [member]
  | some (.at position), .array items => items[position]?.toList
  | some .all, .array items => items
  | some _, _ => []

theorem enter_error {arrive : Json → Except Error Json} {index : Option Index}
    (failed : enter arrive index value = .error error) :
    ∃ reached ∈ destinations index value, arrive reached = .error error := by
  unfold enter at failed
  split at failed
  · exact ⟨_, List.mem_singleton_self _, failed⟩
  · rename_i position items
    split at failed
    · contradiction
    · rename_i item found
      exact ⟨item, by simp [destinations, found], map_eq_error_iff.mp failed⟩
  · exact mem_of_mapM_error (map_eq_error_iff.mp failed)
  · contradiction

theorem enter_error_of_mem {arrive : Json → Except Error Json} {index : Option Index}
    (member : reached ∈ destinations index value) (failed : arrive reached = .error error) :
    ∃ other, enter arrive index value = .error other := by
  unfold destinations at member
  split at member
  · cases List.mem_singleton.mp member
    exact ⟨error, failed⟩
  · rename_i position items
    have found := Option.mem_toList.mp member
    refine ⟨error, ?_⟩
    simp only [enter, Option.mem_def.mp found]
    exact map_eq_error_iff.mpr failed
  · obtain ⟨other, fails⟩ := mapM_error_of_mem member failed
    exact ⟨other, map_eq_error_iff.mpr fails⟩
  · contradiction

/-- A value that expansion goes on in from a value it arrives at: the value itself if it is no
reference, else the target that it carries or refers to. -/
inductive Leads (around : Surroundings) : Json → Json → Prop where
  | plain : Reference.ofValue? reached = none → Leads around reached reached
  | carried : Reference.ofValue? reached = some reference →
      reached.field? Reference.targetField = some target → Leads around reached target
  | fetched : Reference.ofValue? reached = some reference →
      reached.field? Reference.targetField = none → around.target? reference = some target →
      Leads around reached target

/-- A value is a reference that neither carries a target nor refers to one. -/
def Dangling (around : Surroundings) (reached : Json) (reference : Reference) : Prop :=
  Reference.ofValue? reached = some reference ∧
    reached.field? Reference.targetField = none ∧ around.target? reference = none

theorem isObject_of_reference (shape : Reference.ofValue? value = some reference) :
    value.isObject = true := by
  unfold Reference.ofValue? at shape
  split at shape
  · contradiction
  · rename_i typeId typed
    obtain ⟨member, found, _⟩ := Option.bind_eq_some_iff.mp typed
    exact Json.isObject_of_field? found

theorem arrive_plain (shape : Reference.ofValue? value = none) (go : Json → Except Error Json) :
    arrive around go value = go value := by
  simp only [arrive, shape]

theorem arrive_carried (shape : Reference.ofValue? value = some reference)
    (carried : value.field? Reference.targetField = some target) (go : Json → Except Error Json) :
    arrive around go value = (go target).map (value.setField Reference.targetField) := by
  simp only [arrive, shape, attach, carried]

theorem arrive_fetched (shape : Reference.ofValue? value = some reference)
    (bare : value.field? Reference.targetField = none)
    (refers : around.target? reference = some target) (go : Json → Except Error Json) :
    arrive around go value =
      (go target).map ((value.setField Reference.targetField target).setField Reference.targetField) := by
  simp only [arrive, shape, attach, bare, refers,
    Json.field?_setField_self (isObject_of_reference shape)]

theorem arrive_dangling (dangling : Dangling around value reference)
    (go : Json → Except Error Json) : arrive around go value =
      if around.strict then .error (.danglingReference reference.typeId reference.identifier)
      else .ok value := by
  obtain ⟨shape, bare, missing⟩ := dangling
  cases strict : around.strict <;> simp [arrive, shape, attach, bare, missing, strict]

/-- Arriving at a value fails where going on fails, or at a dangling strict reference. -/
theorem arrive_error_iff (go : Json → Except Error Json) :
    arrive around go value = .error error ↔
      (∃ next, Leads around value next ∧ go next = .error error) ∨
      (around.strict = true ∧ ∃ reference, Dangling around value reference ∧
        error = .danglingReference reference.typeId reference.identifier) := by
  constructor
  · intro failed
    cases shape : Reference.ofValue? value with
    | none => exact .inl ⟨value, .plain shape, arrive_plain shape go ▸ failed⟩
    | some reference =>
      cases carried : value.field? Reference.targetField with
      | some target =>
        rw [arrive_carried shape carried, map_eq_error_iff] at failed
        exact .inl ⟨target, .carried shape carried, failed⟩
      | none =>
        cases refers : around.target? reference with
        | some target =>
          rw [arrive_fetched shape carried refers, map_eq_error_iff] at failed
          exact .inl ⟨target, .fetched shape carried refers, failed⟩
        | none =>
          have dangling : Dangling around value reference := ⟨shape, carried, refers⟩
          rw [arrive_dangling dangling] at failed
          split at failed
          · rename_i strict
            cases failed
            exact .inr ⟨strict, reference, dangling, rfl⟩
          · contradiction
  · rintro (⟨next, leads, failed⟩ | ⟨strict, reference, dangling, rfl⟩)
    · cases leads with
      | plain shape => rw [arrive_plain shape, failed]
      | carried shape carried =>
        rw [arrive_carried shape carried, map_eq_error_iff]
        exact failed
      | fetched shape bare refers =>
        rw [arrive_fetched shape bare refers, map_eq_error_iff]
        exact failed
    · rw [arrive_dangling dangling, if_pos strict]

/-! ### Ways -/

/-- A value that the way of a clause comes to, by a step to a member and, while steps are left, on
from there. -/
inductive Reaches (around : Surroundings) : Clause → Json → Json → Prop where
  | here {value : Json} : value.field? step.element = some member →
      reached ∈ destinations step.index member → Reaches around (step :: steps) value reached
  | beyond {value : Json} : value.field? step.element = some member →
      between ∈ destinations step.index member → Leads around between next →
      Reaches around steps next reached →
      Reaches around (step :: steps) value reached

/-- The only failure of a walk is a dangling reference on its way, where these are errors. -/
theorem walk_error (failed : walk around clause value = .error error) :
    around.strict = true ∧ ∃ reached reference, Reaches around clause value reached ∧
      Dangling around reached reference ∧
      error = .danglingReference reference.typeId reference.identifier := by
  induction clause generalizing value with
  | nil => contradiction
  | cons step steps ih =>
    simp only [walk] at failed
    split at failed
    · contradiction
    · rename_i member found
      obtain ⟨reached, among, fails⟩ := enter_error (map_eq_error_iff.mp failed)
      rcases (arrive_error_iff _).mp fails with
        ⟨next, leads, further⟩ | ⟨strict, reference, dangling, rfl⟩
      · obtain ⟨strict, last, reference, reaches, dangling, rfl⟩ := ih further
        exact ⟨strict, last, reference, .beyond found among leads reaches, dangling, rfl⟩
      · exact ⟨strict, reached, reference, .here found among, dangling, rfl⟩

theorem walk_fails (strict : around.strict = true) (reaches : Reaches around clause value reached)
    (dangling : Dangling around reached reference) : ∃ error, walk around clause value = .error error := by
  induction reaches with
  | @here _ _ _ steps _ found among =>
    have fails := (arrive_error_iff (walk around steps)).mpr
      (.inr ⟨strict, reference, dangling, rfl⟩)
    obtain ⟨error, failed⟩ := enter_error_of_mem among fails
    refine ⟨error, ?_⟩
    simp only [walk, found]
    exact map_eq_error_iff.mpr failed
  | beyond found among leads _ ih =>
    obtain ⟨further, fails⟩ := ih dangling
    obtain ⟨error, failed⟩ := enter_error_of_mem among
      ((arrive_error_iff _).mpr (.inl ⟨_, leads, fails⟩))
    refine ⟨error, ?_⟩
    simp only [walk, found]
    exact map_eq_error_iff.mpr failed

/-- Without strict references a walk always arrives. -/
theorem walk_lenient (lenient : around.strict = false) (clause : Clause) (value : Json) :
    ∃ result, walk around clause value = .ok result := by
  cases outcome : walk around clause value with
  | ok result => exact ⟨result, rfl⟩
  | error error => exact absurd (walk_error outcome).1 (by simp [lenient])

/-! ### Clauses -/

/-- What stops the expansion of a value along some clauses. -/
inductive Obstructed (around : Surroundings) : List String → Json → Prop where
  | malformed : readClause source = .error error → Obstructed around (source :: later) value
  | dangling : readClause source = .ok clause → around.strict = true →
      Reaches around clause value reached → Dangling around reached reference →
      Obstructed around (source :: later) value
  | later : readClause source = .ok clause → walk around clause value = .ok next →
      Obstructed around later next → Obstructed around (source :: later) value

theorem expand_cons (around : Surroundings) (source : String) (later : List String) (value : Json) :
    expand around (source :: later) value =
      (do expand around later (← walk around (← readClause source) value)) := by
  simp only [expand, List.foldlM_cons, bind_assoc]

/-- Expansion fails exactly if something stops it. -/
theorem expand_fails_iff {clauses : List String} :
    (∃ error, expand around clauses value = .error error) ↔ Obstructed around clauses value := by
  constructor
  · rintro ⟨error, failed⟩
    induction clauses generalizing value with
    | nil => contradiction
    | cons source later ih =>
      rw [expand_cons] at failed
      cases read : readClause source with
      | error e => exact .malformed read
      | ok clause =>
        cases walked : walk around clause value with
        | error e =>
          obtain ⟨strict, reached, reference, reaches, dangling, _⟩ := walk_error walked
          exact .dangling read strict reaches dangling
        | ok next =>
          simp only [read, walked, bind, Except.bind] at failed
          exact .later read walked (ih failed)
  · intro obstructed
    induction obstructed with
    | malformed read => exact ⟨_, by rw [expand_cons, read]; rfl⟩
    | dangling read strict reaches dangling =>
      obtain ⟨error, failed⟩ := walk_fails strict reaches dangling
      exact ⟨error, by rw [expand_cons, read]; simp only [bind, Except.bind, failed]⟩
    | later read walked _ ih =>
      obtain ⟨error, failed⟩ := ih
      exact ⟨error, by rw [expand_cons, read]; simp only [bind, Except.bind, walked, failed]⟩

/-- Without strict references only a malformed clause stops an expansion. -/
theorem obstructed_lenient_iff (lenient : around.strict = false) {clauses : List String} :
    Obstructed around clauses value ↔
      ∃ source ∈ clauses, ∃ error, readClause source = .error error := by
  constructor
  · intro obstructed
    induction obstructed with
    | malformed read => exact ⟨_, List.mem_cons_self, _, read⟩
    | dangling _ strict => exact absurd strict (by simp [lenient])
    | later _ _ _ ih =>
      obtain ⟨source, member, malformed⟩ := ih
      exact ⟨source, List.mem_cons_of_mem _ member, malformed⟩
  · rintro ⟨source, member, error, malformed⟩
    induction clauses generalizing value with
    | nil => contradiction
    | cons first later ih =>
      cases read : readClause first with
      | error e => exact .malformed read
      | ok clause =>
        obtain ⟨next, walked⟩ := walk_lenient lenient clause value
        rcases List.mem_cons.mp member with rfl | member
        · cases read.symm.trans malformed
        · exact .later read walked (ih member)

end Storefront.Expansion
