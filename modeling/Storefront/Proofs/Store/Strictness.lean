import Storefront.Proofs.Expansion.Strictness
import Storefront.Proofs.Store.Isolation

/-! Stores with strict references against lenient ones that hold the same documents: what strictness
adds are failures, and each names a reference that refers to nothing. -/
namespace Storefront.Store
open Expansion (Consults readClause)

/-- Two stores hold the same documents: under each id the same one, and for each key the same first
one. -/
structure SameDocuments (left right : Store) : Prop where
  byId : ∀ tenant typeId id, left.stored? tenant typeId id = right.stored? tenant typeId id
  byKey : ∀ tenant typeId key,
    left.storedByKey? tenant typeId key = right.storedByKey? tenant typeId key

variable {left right lenient strict : Store}

theorem sameDocuments_of_contents
    (same : ∀ tenant typeId, left.contents tenant typeId = right.contents tenant typeId) :
    SameDocuments left right := by
  constructor
  · intro tenant typeId id
    rw [stored?_eq_get?, stored?_eq_get?]
    exact congrArg (Collection.get? · id) (same tenant typeId)
  · intro tenant typeId key
    rw [storedByKey?_eq_getByKey?, storedByKey?_eq_getByKey?, same]

theorem SameDocuments.target? (same : SameDocuments left right) (tenant : String) :
    left.target? tenant = right.target? tenant := by
  funext reference
  simp only [Store.target?, same.byId, same.byKey]

/-- Strict references only add failures. What a strict store expands, a lenient one with the same
documents expands to the same. The lenient one fails exactly if a clause cannot be read, and then the
input is at fault. Where the strict one fails and the lenient one does not fail likewise, the failure
names a reference that the expansion looks up and that refers to no document of the tenant. -/
theorem strictness_only_adds_failures (same : SameDocuments lenient strict)
    (passesOver : lenient.settings.strictReferences = false)
    (tenant : String) (doc : Json) (clauses : List String) :
    (∀ result, strict.expand tenant clauses doc = .ok result →
      lenient.expand tenant clauses doc = .ok result) ∧
    ((∃ error, lenient.expand tenant clauses doc = .error error) ↔
      ∃ source ∈ clauses, ∃ error, readClause source = .error error) ∧
    (∀ error, lenient.expand tenant clauses doc = .error error →
      ∃ quoted, error = .badInput (.expandClause quoted)) ∧
    (∀ error, strict.expand tenant clauses doc = .error error →
      lenient.expand tenant clauses doc = .error error ∨
      ∃ reference identifier, Consults (strict.surroundings tenant) clauses doc reference ∧
        strict.target? tenant reference = none ∧
        reference.id.or reference.key = some identifier ∧
        error = .danglingReference reference.typeId identifier) := by
  have targets : (lenient.surroundings tenant).target? = (strict.surroundings tenant).target? :=
    same.target? tenant
  have unread {error : Error} : lenient.expand tenant clauses doc = .error error ↔
      clauses.mapM readClause = .error error :=
    Expansion.expand_error_iff_of_lenient passesOver
  refine ⟨?_, ?_, ?_, ?_⟩
  · intro result expanded
    exact Expansion.expand_of_strict targets passesOver expanded
  · exact Expansion.expand_fails_iff.trans (Expansion.obstructed_lenient_iff passesOver)
  · intro error failed
    obtain ⟨source, _, unreadable⟩ := Expansion.mem_of_mapM_error (unread.mp failed)
    exact Expansion.readClause_error unreadable
  · intro error failed
    exact (Expansion.expand_error failed).imp_left unread.mpr

/-- Of a category whose parent is stored and whose parent's parent is not, the parent can be expanded
with strict references as without. Going on from there fails with them only, and the failure names
the category that is missing. -/
theorem strictness_adds_failure_of_missing_root :
    let root := Json.object [("key", .string "root"), ("typeId", .string "category")]
    let category := Json.object [("id", .string "a"), ("parent", root), ("version", .ofNat 1)]
    let parent := Json.object [("id", .string "a"), ("typeId", .string "category")]
    let child := Json.object [("id", .string "b"), ("parent", parent), ("version", .ofNat 1)]
    let lenient := (empty {}).run [.add "shop" "category" category]
    let strict := { lenient with settings := { strictReferences := true } }
    SameDocuments lenient strict ∧ lenient.settings.strictReferences = false ∧
    (∃ result, strict.expand "shop" ["parent"] child = .ok result ∧
      lenient.expand "shop" ["parent"] child = .ok result) ∧
    (∃ result, lenient.expand "shop" ["parent.parent"] child = .ok result) ∧
    ∃ reference identifier,
      Consults (strict.surroundings "shop") ["parent.parent"] child reference ∧
      strict.target? "shop" reference = none ∧
      reference.id.or reference.key = some identifier ∧
      strict.expand "shop" ["parent.parent"] child =
        .error (.danglingReference reference.typeId identifier) := by
  intro root category parent child lenient strict
  have same : SameDocuments lenient strict := sameDocuments_of_contents fun _ _ => rfl
  obtain ⟨result, expanded⟩ : ∃ result, strict.expand "shop" ["parent"] child = .ok result :=
    ⟨_, rfl⟩
  obtain ⟨onward, passed⟩ : ∃ result, lenient.expand "shop" ["parent.parent"] child = .ok result :=
    ⟨_, rfl⟩
  obtain ⟨error, failed⟩ : ∃ error, strict.expand "shop" ["parent.parent"] child = .error error :=
    ⟨_, rfl⟩
  obtain ⟨alike, _, _, _⟩ := strictness_only_adds_failures same rfl "shop" child ["parent"]
  obtain ⟨_, _, _, named⟩ := strictness_only_adds_failures same rfl "shop" child ["parent.parent"]
  rcases named error failed with likewise | ⟨reference, identifier, consults, missing, names, rfl⟩
  · cases passed.symm.trans likewise
  · exact ⟨same, rfl, ⟨result, expanded, alike result expanded⟩, ⟨onward, passed⟩, reference,
      identifier, consults, missing, names, failed⟩

end Storefront.Store
