import Storefront.Proofs.Expansion.Obstruction

/-! What an expansion depends on: apart from the rule for missing targets only the targets of the
references that it looks up, which are those on its way that carry none. -/
namespace Storefront.Expansion

variable {around other : Surroundings}

/-- A value is a reference that carries no target, so that the one it refers to is looked up. -/
def Unresolved (reached : Json) (reference : Reference) : Prop :=
  Reference.ofValue? reached = some reference ∧ reached.field? Reference.targetField = none

/-- A reference that the expansion of a value along some clauses looks up. -/
inductive Consults (around : Surroundings) : List String → Json → Reference → Prop where
  | here : readClause source = .ok clause → Reaches around clause value reached →
      Unresolved reached reference → Consults around (source :: later) value reference
  | later : readClause source = .ok clause → walk around clause value = .ok next →
      Consults around later next reference → Consults around (source :: later) value reference

theorem mapM_congr {first second : Json → Except Error Json} {items : List Json}
    (agree : ∀ item ∈ items, first item = second item) : items.mapM first = items.mapM second := by
  induction items with
  | nil => rfl
  | cons item items ih =>
    have rest := ih fun later member => agree later (List.mem_cons_of_mem _ member)
    rw [List.mapM_cons, List.mapM_cons, agree item List.mem_cons_self, rest]

theorem enter_congr {first second : Json → Except Error Json} {index : Option Index}
    (agree : ∀ reached ∈ destinations index member, first reached = second reached) :
    enter first index member = enter second index member := by
  match index, member with
  | none, member => exact agree member (List.mem_singleton_self member)
  | some (.at position), .array items =>
    cases found : items[position]? with
    | none => simp only [enter, found]
    | some item =>
      have same := agree item (by simp [destinations, found])
      simp only [enter, found, same]
  | some .all, .array items =>
    have same : items.mapM first = items.mapM second := mapM_congr agree
    simp only [enter, same]
  | some index, .null | some index, .bool _ | some index, .number _ | some index, .string _
  | some index, .object _ => cases index <;> rfl

/-- Two surroundings treat a value alike if they go on alike and agree on what it refers to. -/
theorem arrive_congr (strict : around.strict = other.strict)
    {first second : Json → Except Error Json}
    (onward : ∀ next, Leads around value next → first next = second next)
    (agree : ∀ reference, Unresolved value reference →
      around.target? reference = other.target? reference) :
    arrive around first value = arrive other second value := by
  cases shape : Reference.ofValue? value with
  | none => rw [arrive_plain shape, arrive_plain shape, onward value (.plain shape)]
  | some reference =>
    cases carried : value.field? Reference.targetField with
    | some target =>
      rw [arrive_carried shape carried, arrive_carried shape carried,
        onward target (.carried shape carried)]
    | none =>
      have same := agree reference ⟨shape, carried⟩
      cases refers : around.target? reference with
      | some target =>
        rw [arrive_fetched shape carried refers, arrive_fetched shape carried (same ▸ refers),
          onward target (.fetched shape carried refers)]
      | none =>
        rw [arrive_dangling ⟨shape, carried, refers⟩,
          arrive_dangling ⟨shape, carried, same ▸ refers⟩, strict]

theorem walk_congr (strict : around.strict = other.strict)
    (agree : ∀ reached reference, Reaches around clause value reached →
      Unresolved reached reference → around.target? reference = other.target? reference) :
    walk around clause value = walk other clause value := by
  induction clause generalizing value with
  | nil => rfl
  | cons step steps ih =>
    cases found : value.field? step.element with
    | none => simp only [walk, found]
    | some member =>
      have same : enter (arrive around (walk around steps)) step.index member =
          enter (arrive other (walk other steps)) step.index member := by
        apply enter_congr
        intro between among
        apply arrive_congr strict
        · intro next leads
          exact ih fun reached reference reaches =>
            agree reached reference (.beyond found among leads reaches)
        · exact fun reference => agree between reference (.here found among)
      simp only [walk, found, same]

/-- An expansion depends on nothing but the references that it looks up. -/
theorem expand_congr (strict : around.strict = other.strict) {clauses : List String}
    (agree : ∀ reference, Consults around clauses value reference →
      around.target? reference = other.target? reference) :
    expand around clauses value = expand other clauses value := by
  induction clauses generalizing value with
  | nil => rfl
  | cons source later ih =>
    rw [expand_cons, expand_cons]
    cases read : readClause source with
    | error error => rfl
    | ok clause =>
      have same : walk around clause value = walk other clause value :=
        walk_congr strict fun _ _ reaches bare => agree _ (.here read reaches bare)
      cases walked : walk around clause value with
      | error error => simp only [bind, Except.bind, walked, ← same]
      | ok next =>
        have rest := ih fun reference consults => agree reference (.later read walked consults)
        simp only [bind, Except.bind, walked, ← same, rest]

/-- Without strict references an expansion fails as the reading of its clauses does, whatever the
value and the targets are. -/
theorem expand_error_iff_of_lenient (lenient : around.strict = false) {clauses : List String} :
    expand around clauses value = .error error ↔ clauses.mapM readClause = .error error := by
  induction clauses generalizing value with
  | nil => exact ⟨nofun, nofun⟩
  | cons source later ih =>
    rw [expand_cons, List.mapM_cons]
    cases read : readClause source with
    | error fault => simp [bind, Except.bind]
    | ok clause =>
      obtain ⟨next, walked⟩ := walk_lenient lenient clause value
      simp only [walked, bind, Except.bind]
      rw [ih]
      cases later.mapM readClause <;> simp [pure, Except.pure]

end Storefront.Expansion
