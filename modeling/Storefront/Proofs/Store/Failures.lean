import Storefront.Proofs.Store.Rejection

/-!
How the operations of the store fail. A predicate is true or false of every document, or lacks the value
of a parameter, so no operation comes to a condition without a truth value. A conflict of versions is met
by updates and deletions alone, and only where the version they name is not the one stored.
-/
namespace Storefront

/-- Neither a conflict of versions nor a condition without a truth value. -/
def Error.isOrdinary : Error → Bool
  | conflict _ _ => false
  | evaluation _ => false
  | _ => true

theorem Error.isOrdinary_of_isInvalidInput {error : Error} (invalid : error.isInvalidInput = true) :
    error.isOrdinary = true := by
  cases error with
  | badText | badInput => rfl
  | _ => contradiction

/-- If there is no result, an ordinary error says why. -/
def Ordinary {α : Type} (outcome : Except Error α) : Prop :=
  ∀ error, outcome = .error error → error.isOrdinary = true

section Outcomes
variable {α β : Type} {error : Error} {outcome : Except Error α}

theorem ordinary_ok (value : α) : Ordinary (.ok value : Except Error α) :=
  nofun

theorem ordinary_error (isOrdinary : error.isOrdinary = true) :
    Ordinary (.error error : Except Error α) := by
  rintro _ ⟨⟩
  exact isOrdinary

theorem Ordinary.of_error (ordinary : Ordinary outcome) (failed : outcome = .error error) :
    Ordinary (.error error : Except Error β) :=
  ordinary_error (ordinary error failed)

theorem Ordinary.map (ordinary : Ordinary outcome) (change : α → β) :
    Ordinary (outcome.map change) :=
  fun error failed => ordinary error (Expansion.map_eq_error_iff.mp failed)

end Outcomes

namespace Store

variable {store : Store} {tenant typeId id : String}

/-! ### Reading -/

/-- An expansion fails for a clause that cannot be read or for a reference without a target. -/
theorem ordinary_expand (store : Store) (tenant : String) (clauses : List String) (doc : Json) :
    Ordinary (store.expand tenant clauses doc) := by
  intro error failed
  rcases Expansion.expand_error failed with unreadable | ⟨reference, identifier, -, -, -, rfl⟩
  · obtain ⟨clause, -, failed⟩ := Expansion.mem_of_mapM_error unreadable
    obtain ⟨quoted, rfl⟩ := Expansion.readClause_error failed
    rfl
  · rfl

theorem ordinary_expandFound (store : Store) (tenant : String) (clauses : List String)
    (found : Option Json) : Ordinary (store.expandFound tenant clauses found) := by
  cases found with
  | none => exact ordinary_ok none
  | some doc => exact (store.ordinary_expand tenant clauses doc).map some

theorem ordinary_currentVersion (store : Store) (tenant typeId id : String) :
    Ordinary (store.currentVersion tenant typeId id) := by
  unfold currentVersion
  split
  · exact ordinary_error rfl
  · split
    · exact ordinary_error rfl
    · exact ordinary_ok _

/-! ### Querying -/

theorem ordinary_predicate (store : Store) (source : String) : Ordinary (store.predicate source).1 := by
  unfold predicate
  split
  · exact ordinary_ok _
  · split
    · rename_i error failed
      have fault := Predicate.ensures_compile source
      rw [failed] at fault
      obtain ⟨_, _, rfl⟩ := fault
      exact ordinary_error rfl
    · exact ordinary_ok _

theorem ordinary_compileAll (store : Store) (sources : List String) :
    Ordinary (store.compileAll sources).1 := by
  induction sources generalizing store with
  | nil => exact ordinary_ok []
  | cons source sources ih =>
    unfold compileAll
    split
    · rename_i error after failed
      exact (store.ordinary_predicate source).of_error (congrArg Prod.fst failed)
    · rename_i predicate middle compiled
      split
      · rename_i error after failed
        exact (ih middle).of_error (congrArg Prod.fst failed)
      · exact ordinary_ok _

/-- Looking through the documents fails for a parameter without a value, and the page for an expansion. -/
theorem ordinary_select (store : Store) (tenant typeId : String) (params : QueryParams)
    (predicates : List Predicate) : Ordinary (store.select tenant typeId params predicates) := by
  unfold select
  split
  · rename_i error failed
    obtain ⟨doc, -, fails⟩ := filterDocs_error_iff.mp failed
    have invalid := QueryParams.verdict_error_isInvalidInput fails
    exact ordinary_error (Error.isOrdinary_of_isInvalidInput invalid)
  · dsimp only
    split
    · rename_i error failed
      obtain ⟨doc, -, fails⟩ := Expansion.mem_of_mapM_error failed
      exact (store.ordinary_expand tenant params.expand doc).of_error fails
    · exact ordinary_ok _

theorem ordinary_query (store : Store) (tenant typeId : String) (params : QueryParams) :
    Ordinary (store.query tenant typeId params).1 := by
  unfold query
  split
  · rename_i error after failed
    exact (store.ordinary_compileAll params.predicates).of_error (congrArg Prod.fst failed)
  · exact ordinary_select _ tenant typeId params _

/-! ### Writing -/

theorem ordinary_validate (doc : Json) : Ordinary (Document.validate doc) := by
  unfold Document.validate
  split
  · split
    · exact ordinary_error rfl
    · split
      · exact ordinary_error rfl
      · exact ordinary_ok _
  · exact ordinary_error rfl

theorem ordinary_add (store : Store) (tenant typeId : String) (doc : Json) :
    Ordinary (store.add tenant typeId doc).1 := by
  unfold add
  split
  · rename_i error failed
    exact (ordinary_validate doc).of_error failed
  · exact ordinary_ok _

theorem ordinary_create (store : Store) (tenant typeId : String) (draft : Json) (now : Instant)
    (freshId : String) : Ordinary (store.create tenant typeId draft now freshId).1 := by
  unfold create
  split
  · rename_i error failed
    unfold Document.ofDraft at failed
    split at failed
    · contradiction
    · cases failed
      exact ordinary_error rfl
  · split
    · exact store.ordinary_add tenant typeId _
    · split
      · exact ordinary_error rfl
      · exact store.ordinary_add tenant typeId _

/-- An update that does not name another version than the one stored meets no conflict. -/
theorem ordinary_update {expected : Nat} {now : Instant} {edit : Json → Except Error Json}
    (edits : ∀ doc, Ordinary (edit doc))
    (agrees : ∀ version, store.currentVersion tenant typeId id = .ok version → version = expected) :
    Ordinary (store.update tenant typeId id expected now edit).1 := by
  unfold update
  split
  · rename_i error failed
    exact (store.ordinary_currentVersion tenant typeId id).of_error failed
  · rename_i version current
    rw [if_neg (not_not_intro (agrees version current))]
    split
    · exact ordinary_error rfl
    · rename_i doc _
      split
      · rename_i error failed
        exact (edits doc).of_error failed
      · dsimp only
        split
        · rename_i error failed
          unfold Document.touch at failed
          dsimp only at failed
          split at failed
          · contradiction
          · cases failed
            exact ordinary_error rfl
        · exact store.ordinary_add tenant typeId _

theorem ordinary_deleteVersioned {expected : Nat}
    (agrees : ∀ version, store.currentVersion tenant typeId id = .ok version → version = expected) :
    Ordinary (store.deleteVersioned tenant typeId id expected).1 := by
  cases current : store.currentVersion tenant typeId id with
  | error error =>
    simp only [deleteVersioned, current]
    exact (store.ordinary_currentVersion tenant typeId id).of_error current
  | ok version =>
    obtain ⟨doc, present, versioned⟩ := currentVersion_eq_ok_iff.mp current
    rw [deleteVersioned_of_version present versioned, if_neg (not_not_intro (agrees version current))]
    exact ordinary_ok doc

end Store
end Storefront
