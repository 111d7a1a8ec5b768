import Storefront.Proofs.Expansion.Agreement
import Storefront.Proofs.Expansion.Filling
import Storefront.Proofs.Expansion.Syntax

/-! Strict references against lenient ones. Where an expansion with strict references succeeds, the
one without them gives the same; where it fails, it fails as the lenient one does, on a clause that
cannot be read, or on a reference it looks up in vain. -/
namespace Storefront.Expansion

variable {around lenient strict : Surroundings} {clause : Clause} {value result : Json}
  {error : Error} {source : String} {clauses : List String} {reference : Reference}

/-- Filling in does not depend on whether references are strict. -/
theorem fill_congr (same : lenient.target? = strict.target?) (clause : Clause) :
    fill lenient clause = fill strict clause := by
  induction clause with
  | nil => rfl
  | cons step steps ih =>
    have settled : settle lenient (fill lenient steps) = settle strict (fill strict steps) := by
      funext value
      simp only [settle, targetOf?, same, ih]
    funext value
    simp only [fill, settled]

theorem walk_of_strict (same : lenient.target? = strict.target?) (passesOver : lenient.strict = false)
    (walked : walk strict clause value = .ok result) : walk lenient clause value = .ok result := by
  rw [walk_of_lenient passesOver, fill_congr same, fill_of_walk walked]

theorem expand_of_strict (same : lenient.target? = strict.target?)
    (passesOver : lenient.strict = false) (expanded : expand strict clauses value = .ok result) :
    expand lenient clauses value = .ok result := by
  induction clauses generalizing value with
  | nil => exact expanded
  | cons source later ih =>
    obtain ⟨clause, next, read, walked, rest⟩ := expand_cons_eq_ok_iff.mp expanded
    exact expand_cons_eq_ok_iff.mpr
      ⟨clause, next, read, walk_of_strict same passesOver walked, ih rest⟩

/-! ### Failures -/

/-- A clause that cannot be read is a fault of the input. -/
theorem readClause_error (failed : readClause source = .error error) :
    ∃ quoted, error = .badInput (.expandClause quoted) := by
  rw [readClause_eq, readSteps_eq_error_iff] at failed
  obtain ⟨before, bad, behind, -, -, -, refused⟩ := failed
  exact ⟨_, refused⟩

/-- A reference is named by its id, or by its key if it has none. -/
theorem identifier_of_ofValue? (shape : Reference.ofValue? value = some reference) :
    ∃ identifier, reference.id.or reference.key = some identifier ∧
      reference.identifier = identifier := by
  have named : (reference.id.or reference.key).isSome = true := by
    unfold Reference.ofValue? at shape
    split at shape
    · contradiction
    · generalize (value.field? "id").bind (·.string?) = id at shape
      generalize (value.field? "key").bind (·.string?) = key at shape
      cases id <;> cases key <;> cases shape <;> rfl
  obtain ⟨identifier, found⟩ := Option.isSome_iff_exists.mp named
  exact ⟨identifier, found, by rw [Reference.identifier, found, Option.getD_some]⟩

/-- An expansion fails as the reading of its clauses does, or on a reference it looks up in vain. -/
theorem expand_error (failed : expand around clauses value = .error error) :
    clauses.mapM readClause = .error error ∨
      ∃ reference identifier, Consults around clauses value reference ∧
        around.target? reference = none ∧ reference.id.or reference.key = some identifier ∧
        error = .danglingReference reference.typeId identifier := by
  induction clauses generalizing value with
  | nil => contradiction
  | cons source later ih =>
    rw [expand_cons] at failed
    cases read : readClause source with
    | error fault =>
      rw [read] at failed
      left
      rw [List.mapM_cons, read]
      cases failed
      rfl
    | ok clause =>
      rw [read] at failed
      cases walked : walk around clause value with
      | error fault =>
        obtain ⟨_, reached, reference, reaches, dangling, rfl⟩ := walk_error walked
        simp only [bind, Except.bind, walked] at failed
        cases failed
        obtain ⟨shape, bare, missing⟩ := dangling
        obtain ⟨identifier, named, same⟩ := identifier_of_ofValue? shape
        exact .inr ⟨reference, identifier, .here read reaches ⟨shape, bare⟩, missing, named,
          same ▸ rfl⟩
      | ok next =>
        simp only [bind, Except.bind, walked] at failed
        rcases ih failed with unreadable | ⟨reference, identifier, consults, missing, named, same⟩
        · left
          rw [List.mapM_cons, read, unreadable]
          rfl
        · exact .inr ⟨reference, identifier, .later read walked consults, missing, named, same⟩

end Storefront.Expansion
