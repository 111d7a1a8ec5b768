import Storefront.Proofs.Store.Request

/-! Isolation of tenants. Whatever is asked for one tenant is answered from the settings and the
collections of that tenant alone. Expansion and search look at other collections than the one named,
but at none of another tenant; the predicates kept are shared by all, but only save work. -/
namespace Storefront.Store

/-- The documents of a tenant and a type; a collection that was never made is as good as an empty
one. -/
def contents (store : Store) (tenant typeId : String) : Collection :=
  (store.collection? tenant typeId).getD Collection.empty

theorem storedByKey?_eq_getByKey? (store : Store) (tenant typeId key : String) :
    store.storedByKey? tenant typeId key = (store.contents tenant typeId).getByKey? key := by
  unfold storedByKey? contents
  cases store.collection? tenant typeId <;> rfl

theorem all_eq_toList (store : Store) (tenant typeId : String) :
    store.all tenant typeId = (store.contents tenant typeId).toList := by
  unfold all contents
  cases store.collection? tenant typeId <;> rfl

theorem count_eq_size (store : Store) (tenant typeId : String) :
    store.count tenant typeId = (store.contents tenant typeId).size := by
  unfold count contents
  cases store.collection? tenant typeId <;> rfl

theorem contents_modify (store : Store) (tenant typeId otherTenant otherType : String)
    (change : Collection → Collection) :
    (store.modify tenant typeId change).contents otherTenant otherType =
      if tenant = otherTenant ∧ typeId = otherType then change (store.contents tenant typeId)
      else store.contents otherTenant otherType := by
  unfold contents
  rw [collection?_modify]
  split <;> rfl

/-- Two stores have the same settings and hold the same for a tenant, whatever they hold for others. -/
structure Alike (tenant : String) (left right : Store) : Prop where
  settings : left.settings = right.settings
  contents : ∀ typeId, left.contents tenant typeId = right.contents tenant typeId

variable {left right store : Store} {tenant : String}

namespace Alike

/-! ### Reading -/

theorem stored? (alike : Alike tenant left right) (typeId id : String) :
    left.stored? tenant typeId id = right.stored? tenant typeId id := by
  have same := alike.contents typeId
  rw [stored?_eq_get?, stored?_eq_get?]
  exact congrArg (Collection.get? · id) same

theorem storedByKey? (alike : Alike tenant left right) (typeId key : String) :
    left.storedByKey? tenant typeId key = right.storedByKey? tenant typeId key := by
  rw [storedByKey?_eq_getByKey?, storedByKey?_eq_getByKey?, alike.contents]

theorem target? (alike : Alike tenant left right) (reference : Reference) :
    left.target? tenant reference = right.target? tenant reference := by
  simp only [Store.target?, alike.stored?, alike.storedByKey?]

theorem surroundings (alike : Alike tenant left right) :
    left.surroundings tenant = right.surroundings tenant := by
  have targets : left.target? tenant = right.target? tenant := funext alike.target?
  simp only [Store.surroundings, targets, alike.settings]

theorem expand (alike : Alike tenant left right) (clauses : List String) :
    left.expand tenant clauses = right.expand tenant clauses := by
  funext doc
  simp only [Store.expand, alike.surroundings]

theorem expandFound (alike : Alike tenant left right) (clauses : List String) (found : Option Json) :
    left.expandFound tenant clauses found = right.expandFound tenant clauses found := by
  cases found with
  | none => rfl
  | some doc => simp only [Store.expandFound, alike.expand]

theorem get (alike : Alike tenant left right) (typeId id : String) (clauses : List String) :
    left.get tenant typeId id clauses = right.get tenant typeId id clauses := by
  simp only [Store.get, alike.stored?, alike.expandFound]

theorem getByKey (alike : Alike tenant left right) (typeId key : String) (clauses : List String) :
    left.getByKey tenant typeId key clauses = right.getByKey tenant typeId key clauses := by
  simp only [Store.getByKey, alike.storedByKey?, alike.expandFound]

theorem all (alike : Alike tenant left right) (typeId : String) :
    left.all tenant typeId = right.all tenant typeId := by
  rw [all_eq_toList, all_eq_toList, alike.contents]

theorem count (alike : Alike tenant left right) (typeId : String) :
    left.count tenant typeId = right.count tenant typeId := by
  rw [count_eq_size, count_eq_size, alike.contents]

theorem currentVersion (alike : Alike tenant left right) (typeId id : String) :
    left.currentVersion tenant typeId id = right.currentVersion tenant typeId id := by
  simp only [Store.currentVersion, alike.stored?]

theorem select (alike : Alike tenant left right) (typeId : String) (params : QueryParams)
    (predicates : List Predicate) :
    left.select tenant typeId params predicates = right.select tenant typeId params predicates := by
  simp only [Store.select, alike.all, alike.settings, alike.expand]

theorem projections (alike : Alike tenant left right) (staged : Bool) :
    Catalog.projections left tenant staged = Catalog.projections right tenant staged := by
  simp only [Catalog.projections, alike.all]

theorem page (alike : Alike tenant left right) (offset limit : Option Nat) (clauses : List String)
    (found : List Json) :
    Catalog.page left tenant offset limit clauses found =
      Catalog.page right tenant offset limit clauses found := by
  simp only [Catalog.page, alike.settings, alike.expand]

/-! ### Writing -/

theorem modify (alike : Alike tenant left right) (typeId : String)
    (change : Collection → Collection) :
    Alike tenant (left.modify tenant typeId change) (right.modify tenant typeId change) :=
  ⟨alike.settings, fun other => by simp only [contents_modify, alike.contents]⟩

/-- What others change does not matter. -/
theorem of_elsewhere (alike : Alike tenant left right)
    (settings : store.settings = left.settings)
    (same : ∀ typeId, store.collection? tenant typeId = left.collection? tenant typeId) :
    Alike tenant store right := by
  refine ⟨settings.trans alike.settings, fun typeId => ?_⟩
  rw [← alike.contents, Store.contents, same typeId]
  rfl

end Alike

/-! ### The same answers -/

/-- Two outcomes give the same answer and leave stores alike for a tenant. -/
def SameOutcome (tenant : String) (left right : α × Store) : Prop :=
  left.1 = right.1 ∧ Alike tenant left.2 right.2

theorem SameOutcome.answered {left right : Except Error α × Store}
    (same : SameOutcome tenant left right) (wrap : α → Answer) :
    SameOutcome tenant (answered wrap left) (answered wrap right) :=
  ⟨congrArg (Except.map wrap) same.1, same.2⟩

theorem same_add (alike : Alike tenant left right) (typeId : String) (doc : Json) :
    SameOutcome tenant (left.add tenant typeId doc) (right.add tenant typeId doc) := by
  unfold add
  split
  · exact ⟨rfl, alike⟩
  · rename_i id _ _
    exact ⟨rfl, alike.modify typeId (·.insert id doc.stripTargets)⟩

theorem same_create (alike : Alike tenant left right) (typeId : String) (draft : Json)
    (now : Instant) (freshId : String) :
    SameOutcome tenant (left.create tenant typeId draft now freshId)
      (right.create tenant typeId draft now freshId) := by
  unfold create
  split
  · exact ⟨rfl, alike⟩
  · split
    · exact same_add alike typeId _
    · rw [alike.stored?]
      split
      · exact ⟨rfl, alike⟩
      · exact same_add alike typeId _

theorem same_delete (alike : Alike tenant left right) (typeId id : String) (clauses : List String) :
    SameOutcome tenant (left.delete tenant typeId id clauses)
      (right.delete tenant typeId id clauses) := by
  have after := alike.modify typeId (·.erase id)
  unfold delete
  rw [alike.stored?]
  split
  · exact ⟨rfl, alike⟩
  · exact ⟨by simp only [after.expand], after⟩

theorem same_deleteVersioned (alike : Alike tenant left right) (typeId id : String)
    (expected : Nat) :
    SameOutcome tenant (left.deleteVersioned tenant typeId id expected)
      (right.deleteVersioned tenant typeId id expected) := by
  obtain ⟨answer, after⟩ := same_delete alike typeId id []
  unfold deleteVersioned
  rw [alike.currentVersion]
  split
  · exact ⟨rfl, alike⟩
  · split
    · exact ⟨rfl, alike⟩
    · rcases fromLeft : left.delete tenant typeId id [] with ⟨here, leftAfter⟩
      rcases fromRight : right.delete tenant typeId id [] with ⟨there, rightAfter⟩
      rw [fromLeft, fromRight] at answer after
      cases (answer : here = there)
      rcases here with _ | _ | doc <;> exact ⟨rfl, after⟩

theorem same_update (alike : Alike tenant left right) (typeId id : String) (expected : Nat)
    (now : Instant) (edit : Json → Except Error Json) :
    SameOutcome tenant (left.update tenant typeId id expected now edit)
      (right.update tenant typeId id expected now edit) := by
  unfold update
  rw [alike.currentVersion, alike.stored?]
  split
  · exact ⟨rfl, alike⟩
  · split
    · exact ⟨rfl, alike⟩
    · split
      · exact ⟨rfl, alike⟩
      · split
        · exact ⟨rfl, alike⟩
        · dsimp only
          split
          · exact ⟨rfl, alike⟩
          · exact same_add alike typeId _

/-- The predicates that two stores keep may differ; a query is answered by what they compile to. -/
theorem same_query (alike : Alike tenant left right) (leftFaithful : left.Faithful)
    (rightFaithful : right.Faithful) (typeId : String) (params : QueryParams) :
    SameOutcome tenant (left.query tenant typeId params) (right.query tenant typeId params) := by
  have answer := (leftFaithful.compileAll params.predicates).trans
    (rightFaithful.compileAll params.predicates).symm
  have kept : Alike tenant (left.compileAll params.predicates).2
      (right.compileAll params.predicates).2 := by
    refine ⟨?_, fun other => ?_⟩
    · rw [(succeeds_compileAll left _).settings, (succeeds_compileAll right _).settings,
        alike.settings]
    · simp only [contents, collection?, compileAll_tenants]
      exact alike.contents other
  unfold query
  rcases fromLeft : left.compileAll params.predicates with ⟨here, leftAfter⟩
  rcases fromRight : right.compileAll params.predicates with ⟨there, rightAfter⟩
  rw [fromLeft, fromRight] at answer kept
  cases (answer : here = there)
  cases here with
  | error error => exact ⟨rfl, kept⟩
  | ok predicates => exact ⟨kept.select typeId params predicates, kept⟩

theorem same_perform (alike : Alike tenant left right) (leftFaithful : left.Faithful)
    (rightFaithful : right.Faithful) (operation : Operation) (names : operation.tenant = tenant) :
    SameOutcome tenant (left.perform operation) (right.perform operation) := by
  subst names
  cases operation with
  | add tenant typeId doc => exact (same_add alike typeId doc).answered _
  | create tenant typeId draft now freshId =>
    exact (same_create alike typeId draft now freshId).answered _
  | get place clauses =>
    exact SameOutcome.answered ⟨alike.get place.typeId place.id clauses, alike⟩ _
  | query tenant typeId params =>
    exact (same_query alike leftFaithful rightFaithful typeId params).answered _
  | update place expected now edit =>
    exact (same_update alike place.typeId place.id expected now edit).answered _
  | delete place clauses => exact (same_delete alike place.typeId place.id clauses).answered _
  | deleteVersioned place expected =>
    exact (same_deleteVersioned alike place.typeId place.id expected).answered _

/-- A request is answered alike by stores that are alike for its tenant. -/
theorem same_serve (alike : Alike tenant left right) (leftFaithful : left.Faithful)
    (rightFaithful : right.Faithful) (request : Request) (names : request.tenant = tenant) :
    SameOutcome tenant (left.serve request) (right.serve request) := by
  cases request with
  | call operation =>
    have same := same_perform alike leftFaithful rightFaithful operation names
    exact ⟨congrArg Reply.answer same.1, same.2⟩
  | getByKey owner typeId key clauses =>
    obtain rfl : owner = tenant := names
    exact ⟨by simp only [serve, alike.getByKey], alike⟩
  | resolve owner reference =>
    obtain rfl : owner = tenant := names
    exact ⟨by simp only [serve, alike.target?], alike⟩
  | expand owner clauses doc =>
    obtain rfl : owner = tenant := names
    exact ⟨by simp only [serve, alike.expand], alike⟩
  | all owner typeId =>
    obtain rfl : owner = tenant := names
    exact ⟨by simp only [serve, alike.all], alike⟩
  | count owner typeId =>
    obtain rfl : owner = tenant := names
    exact ⟨by simp only [serve, alike.count], alike⟩
  | searchProjections owner params =>
    obtain rfl : owner = tenant := names
    exact ⟨by simp only [serve, Catalog.searchProjections, alike.projections, alike.page], alike⟩
  | search owner request =>
    obtain rfl : owner = tenant := names
    exact ⟨by simp only [serve, Catalog.search, alike.projections, alike.page], alike⟩

/-! ### Runs -/

/-- A store that some requests lead to. -/
def Reachable (store : Store) : Prop :=
  ∃ settings requests, store = (empty settings).serveAll requests

theorem Reachable.faithful (reachable : Reachable store) : store.Faithful := by
  obtain ⟨settings, requests, rfl⟩ := reachable
  exact (succeeds_serveAll _ requests).faithful (faithful_empty settings)

/-- The replies that a tenant gets in the course of some requests. -/
def repliesTo (tenant : String) (store : Store) : List Request → List Reply
  | [] => []
  | request :: requests =>
    let later := repliesTo tenant (store.serve request).2 requests
    if request.tenant = tenant then (store.serve request).1 :: later else later

theorem repliesTo_filter_of_alike (alike : Alike tenant left right) (leftFaithful : left.Faithful)
    (rightFaithful : right.Faithful) (requests : List Request) :
    left.repliesTo tenant requests =
      right.repliesTo tenant (requests.filter (·.tenant = tenant)) := by
  induction requests generalizing left right with
  | nil => rfl
  | cons request requests ih =>
    have leftNext := succeeds_serve left request
    have rightNext := succeeds_serve right request
    by_cases own : request.tenant = tenant
    · obtain ⟨reply, after⟩ := same_serve alike leftFaithful rightFaithful request own
      have later := ih after (leftNext.faithful leftFaithful) (rightNext.faithful rightFaithful)
      rw [List.filter_cons_of_pos (by simpa using own)]
      simp only [repliesTo, if_pos own, reply, later]
    · have after : Alike tenant (left.serve request).2 right :=
        alike.of_elsewhere leftNext.settings fun _ => collection?_serve left request (.inl own)
      have later := ih after (leftNext.faithful leftFaithful) rightFaithful
      rw [List.filter_cons_of_neg (by simpa using own)]
      simp only [repliesTo, if_neg own, later]

/-- A tenant gets the same replies whether the others ask anything in between or not. -/
theorem repliesTo_filter (reachable : Reachable store) (tenant : String)
    (requests : List Request) :
    store.repliesTo tenant requests =
      store.repliesTo tenant (requests.filter (·.tenant = tenant)) :=
  repliesTo_filter_of_alike ⟨rfl, fun _ => rfl⟩ reachable.faithful reachable.faithful requests

/-- A request changes at most the collection of the tenant and the type that it names. Two reachable
stores that agree on the settings and on a tenant give each request of that tenant the same reply, and
agree on it afterwards. -/
theorem tenants_isolated (tenant : String) :
    (∀ (store : Store) (request : Request) (typeId : String),
      request.tenant ≠ tenant ∨ request.typeId? ≠ some typeId →
      (store.serve request).2.collection? tenant typeId = store.collection? tenant typeId) ∧
    ∀ left right : Store, Reachable left → Reachable right → Alike tenant left right →
      ∀ request : Request, request.tenant = tenant →
        (left.serve request).1 = (right.serve request).1 ∧
          Alike tenant (left.serve request).2 (right.serve request).2 :=
  ⟨fun store request _ => collection?_serve store request,
    fun _ _ fromLeft fromRight alike request =>
      same_serve alike fromLeft.faithful fromRight.faithful request⟩

end Storefront.Store
