import Storefront.Proofs.Store.Isolation

/-!
Predicates that a store keeps. They are never more than the settings allow and are what their texts
compile to, so that no call can tell a store that keeps some from one that keeps none.
-/
namespace Storefront

theorem Dictionary.length_insert_le (entries : Dictionary α) (name : String) (value : α) :
    (insert entries name value).length ≤ entries.length + 1 := by
  induction entries with
  | nil => exact Nat.le_refl _
  | cons entry rest ih =>
    rw [insert]
    split
    · exact Nat.le_succ _
    · split
      · exact Nat.le_refl _
      · exact Nat.succ_le_succ ih

namespace Store

/-- A call that compiles predicates or finds them among those that are kept. -/
inductive Lookup where
  | predicate (source : String)
  | query (tenant typeId : String) (params : QueryParams)

inductive Finding where
  | predicate (predicate : Predicate)
  | page (page : Page)

def lookUp (store : Store) : Lookup → Except Error Finding × Store
  | .predicate source =>
    ((store.predicate source).1.map .predicate, (store.predicate source).2)
  | .query tenant typeId params =>
    ((store.query tenant typeId params).1.map .page, (store.query tenant typeId params).2)

/-- The findings of some calls, one after the other, and the store after them. -/
def lookUpAll (store : Store) : List Lookup → List (Except Error Finding) × Store
  | [] => ([], store)
  | call :: calls =>
    let (found, after) := store.lookUp call
    let (more, last) := after.lookUpAll calls
    (found :: more, last)

/-- The store that keeps no predicates. -/
def forget (store : Store) : Store :=
  { store with predicates := [] }

/-- The predicates kept are few enough, and each is what its text compiles to. -/
structure KeepsWell (store : Store) : Prop where
  bounded : store.predicates.length ≤ store.settings.predicateCacheSize
  compiled : ∀ source kept, (source, kept) ∈ store.predicates → Predicate.compile source = .ok kept

variable {store : Store} {source : String}

theorem keepsWell_forget (store : Store) : store.forget.KeepsWell :=
  ⟨Nat.zero_le _, fun _ _ member => absurd member List.not_mem_nil⟩

theorem KeepsWell.faithful (keeps : store.KeepsWell) : store.Faithful :=
  fun source kept found => keeps.compiled source kept (Dictionary.mem_of_get? found)

/-! ### One text -/

theorem KeepsWell.remember (keeps : store.KeepsWell) {predicate : Predicate}
    (compiles : Predicate.compile source = .ok predicate) :
    (store.remember source predicate).KeepsWell := by
  unfold Store.remember
  dsimp only
  split
  · exact keeps
  · rename_i nonzero
    generalize kept : (if store.settings.predicateCacheSize ≤ store.predicates.length then []
      else store.predicates) = entries
    have room : entries.length + 1 ≤ store.settings.predicateCacheSize := by
      subst kept
      split
      · exact Nat.one_le_iff_ne_zero.2 nonzero
      · omega
    have earlier : ∀ entry ∈ entries, entry ∈ store.predicates := by
      subst kept
      split
      · exact fun _ member => absurd member List.not_mem_nil
      · exact fun _ member => member
    refine ⟨Nat.le_trans (Dictionary.length_insert_le entries source predicate) room, ?_⟩
    intro other kept member
    rcases Dictionary.mem_of_mem_insert member with same | old
    · cases same
      exact compiles
    · exact keeps.compiled other kept (earlier _ old)

theorem KeepsWell.predicate (keeps : store.KeepsWell) (source : String) :
    (store.predicate source).2.KeepsWell := by
  unfold Store.predicate
  split
  · exact keeps
  · split
    · exact keeps
    · rename_i compiles
      exact keeps.remember compiles

/-- A text that does not compile leaves the store as it is. -/
theorem predicate_of_uncompiled (store : Store) (fails : Predicate.compile source = .error e) :
    (store.predicate source).2 = store := by
  unfold predicate
  split
  · rfl
  · rw [fails]

theorem forget_predicate (store : Store) (source : String) :
    (store.predicate source).2.forget = store.forget := by
  unfold predicate
  split
  · rfl
  · split
    · rfl
    · unfold remember
      dsimp only
      split <;> rfl

/-! ### Several texts -/

theorem compileAll_cons_store (store : Store) (source : String) (sources : List String) :
    (store.compileAll (source :: sources)).2 =
      match (store.predicate source).1 with
      | .error _ => (store.predicate source).2
      | .ok _ => ((store.predicate source).2.compileAll sources).2 := by
  rw [compileAll]
  rcases store.predicate source with ⟨_ | predicate, middle⟩
  · rfl
  · dsimp only
    rcases middle.compileAll sources with ⟨_ | predicates, after⟩ <;> rfl

theorem query_store (store : Store) (tenant typeId : String) (params : QueryParams) :
    (store.query tenant typeId params).2 = (store.compileAll params.predicates).2 := by
  unfold query
  split <;> rename_i answer <;> rw [answer]

section Invariant
variable {P : Store → Prop}
  (preserves : ∀ store source, P store → P (store.predicate source).2)
include preserves

theorem compileAll_invariant (sources : List String) (initial : P store) :
    P (store.compileAll sources).2 := by
  induction sources generalizing store with
  | nil => exact initial
  | cons source sources ih =>
    have first := preserves store source initial
    rw [compileAll_cons_store]
    split
    · exact first
    · exact ih first

theorem lookUp_invariant (call : Lookup) (initial : P store) : P (store.lookUp call).2 := by
  cases call with
  | predicate source => exact preserves store source initial
  | query tenant typeId params =>
    change P (store.query tenant typeId params).2
    rw [query_store]
    exact compileAll_invariant preserves params.predicates initial

theorem lookUpAll_invariant (calls : List Lookup) (initial : P store) :
    P (store.lookUpAll calls).2 := by
  induction calls generalizing store with
  | nil => exact initial
  | cons call calls ih => exact ih (lookUp_invariant preserves call initial)

end Invariant

/-- Compiling several texts keeps the same as compiling those before one that does not compile. -/
theorem KeepsWell.compileAll_of_uncompiled (keeps : store.KeepsWell)
    (fails : Predicate.compile source = .error e) (before behind : List String) :
    (store.compileAll (before ++ source :: behind)).2 = (store.compileAll before).2 := by
  induction before generalizing store with
  | nil =>
    rw [List.nil_append, compileAll_cons_store, keeps.faithful.predicate, fails]
    exact predicate_of_uncompiled store fails
  | cons first before ih =>
    rw [List.cons_append, compileAll_cons_store, compileAll_cons_store]
    split
    · rfl
    · exact ih (keeps.predicate first)

/-! ### Answers -/

theorem lookUp_forget (store : Store) (call : Lookup) :
    (store.lookUp call).2.forget = store.forget :=
  lookUp_invariant (fun middle source same => (middle.forget_predicate source).trans same) call rfl

/-- A call finds what it would find if no predicates were kept. -/
theorem KeepsWell.lookUp_eq (keeps : store.KeepsWell) (call : Lookup) :
    (store.lookUp call).1 = (store.forget.lookUp call).1 := by
  have kept := keeps.faithful
  have forgotten := store.keepsWell_forget.faithful
  cases call with
  | predicate source =>
    change (store.predicate source).1.map _ = (store.forget.predicate source).1.map _
    rw [kept.predicate, forgotten.predicate]
  | query tenant typeId params =>
    have alike : Alike tenant store store.forget := ⟨rfl, fun _ => rfl⟩
    exact congrArg (Except.map Finding.page) (same_query alike kept forgotten typeId params).1

theorem KeepsWell.lookUpAll_eq (keeps : store.KeepsWell) (calls : List Lookup) :
    (store.lookUpAll calls).1 = calls.map fun call => (store.forget.lookUp call).1 := by
  induction calls generalizing store with
  | nil => rfl
  | cons call calls ih =>
    have rest := ih (lookUp_invariant (fun _ source keeps => keeps.predicate source) call keeps)
    rw [lookUp_forget] at rest
    exact List.cons_eq_cons.2 ⟨keeps.lookUp_eq call, rest⟩

/-- After any calls, a store that kept no predicates at first keeps no more than it may, each is what
its text compiles to, a text that does not compile changes nothing, and every call found what it finds
where no predicates are kept. -/
theorem predicates_kept_unseen (store : Store) (calls : List Lookup) :
    let after := (store.forget.lookUpAll calls).2
    after.predicates.length ≤ store.settings.predicateCacheSize ∧
    (∀ source kept, (source, kept) ∈ after.predicates →
      ∃ fresh, Predicate.compile source = .ok fresh ∧
        ∀ vars doc, kept.matchesWith vars doc = fresh.matchesWith vars doc) ∧
    (∀ source e, Predicate.compile source = .error e →
      (after.predicate source).2 = after ∧
      ∀ tenant typeId (params : QueryParams) more,
        (after.query tenant typeId
            { params with predicates := params.predicates ++ source :: more }).2 =
          (after.query tenant typeId params).2) ∧
    (store.forget.lookUpAll calls).1 = calls.map (fun call => (store.forget.lookUp call).1) ∧
    after.forget = store.forget := by
  intro after
  have keeps : after.KeepsWell := lookUpAll_invariant (fun _ source keeps => keeps.predicate source)
    calls store.keepsWell_forget
  have same : after.forget = store.forget := lookUpAll_invariant
    (fun middle source same => (middle.forget_predicate source).trans same) calls rfl
  have settings : after.forget.settings = store.forget.settings := by rw [same]
  have size : after.settings.predicateCacheSize = store.settings.predicateCacheSize :=
    congrArg Settings.predicateCacheSize settings
  refine ⟨size ▸ keeps.bounded, ?_, ?_, store.keepsWell_forget.lookUpAll_eq calls, same⟩
  · intro source kept member
    exact ⟨kept, keeps.compiled source kept member, fun _ _ => rfl⟩
  · intro source e fails
    refine ⟨after.predicate_of_uncompiled fails, fun tenant typeId params more => ?_⟩
    rw [query_store, query_store]
    exact keeps.compileAll_of_uncompiled fails params.predicates more

end Store
end Storefront
