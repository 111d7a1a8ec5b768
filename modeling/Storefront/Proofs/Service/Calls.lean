import Storefront.Proofs.Service.Deletion
import Storefront.Proofs.Service.Run
import Storefront.Proofs.Store.Failures
import Storefront.Proofs.Store.LastState

/-!
Generic requests as data, runs of them, and how they fail. The client is at fault for every failure, and
a conflict is reported exactly where an update or a deletion names another version than that of the
document its path leads to.
-/
namespace Storefront

/-- A generic request with all of its arguments. -/
inductive Call where
  | query (project resource : String) (parameters : Parameters)
  | get (project resource segment : String) (parameters : Parameters)
  | create (around : Circumstances) (project resource : String) (draft : Json)
  | update (around : Circumstances) (project resource segment : String) (request : UpdateRequest)
  | delete (project resource segment : String) (parameters : Parameters)

inductive Reply where
  | page (page : Page)
  | document (doc : Json)

/-! ### Ordinary failures -/

namespace Failure

/-- Neither a conflict of versions nor a condition without a truth value. -/
def isOrdinary : Failure → Bool
  | operation error => error.isOrdinary
  | _ => true

theorem status_of_isOrdinary {failure : Failure} (ordinary : failure.isOrdinary = true) :
    (failure.status = 400 ∨ failure.status = 404) ∧ failure.code ≠ "General" ∧
      failure.code ≠ "ConcurrentModification" := by
  cases failure with
  | operation error =>
    cases error with
    | conflict | evaluation => contradiction
    | notFound => exact ⟨.inr rfl, by simp [code]⟩
    | _ => exact ⟨.inl rfl, by simp [code]⟩
  | unsupported | noDocument => exact ⟨.inr rfl, by simp [code]⟩
  | _ => exact ⟨.inl rfl, by simp [code]⟩

end Failure

namespace Service

/-- If there is no result, an ordinary failure says why. -/
def FailsOrdinarily {α : Type} (outcome : Except Failure α) : Prop :=
  ∀ failure, outcome = .error failure → failure.isOrdinary = true

section Outcomes
variable {α β : Type} {failure : Failure}

theorem failsOrdinarily_ok (value : α) : FailsOrdinarily (.ok value : Except Failure α) :=
  nofun

theorem failsOrdinarily_error (ordinary : failure.isOrdinary = true) :
    FailsOrdinarily (.error failure : Except Failure α) := by
  rintro _ ⟨⟩
  exact ordinary

theorem failsOrdinarily_lift {outcome : Except Error α} (ordinary : Ordinary outcome) :
    FailsOrdinarily (lift outcome) := by
  intro failure failed
  obtain ⟨error, fails, rfl⟩ := lift_eq_error_iff.mp failed
  exact ordinary error fails

theorem FailsOrdinarily.bind {first : Except Failure α} {next : α → Except Failure β}
    (before : FailsOrdinarily first) (after : ∀ value, FailsOrdinarily (next value)) :
    FailsOrdinarily (first >>= next) := by
  cases first with
  | error failure => exact failsOrdinarily_error (before failure rfl)
  | ok value => exact after value

theorem FailsOrdinarily.map {outcome : Except Failure α} (ordinary : FailsOrdinarily outcome)
    (change : α → β) : FailsOrdinarily (outcome.map change) := by
  cases outcome with
  | error failure => exact failsOrdinarily_error (ordinary failure rfl)
  | ok value => exact failsOrdinarily_ok (change value)

end Outcomes

/-! ### Parts of requests -/

section Parts
variable {store : Store} {project resource typeId segment id : String} {parameters : Parameters}

theorem typeIdFor_fails (resource : String) : FailsOrdinarily (typeIdFor resource) := by
  unfold typeIdFor
  split
  · exact failsOrdinarily_ok _
  · exact failsOrdinarily_error rfl

theorem natural_fails (name value : String) : FailsOrdinarily (Parameters.natural name value) := by
  unfold Parameters.natural
  split
  · exact failsOrdinarily_ok _
  · exact failsOrdinarily_error rfl

theorem natural?_fails (parameters : Parameters) (name : String) :
    FailsOrdinarily (parameters.natural? name) := by
  unfold Parameters.natural?
  split
  · exact failsOrdinarily_ok _
  · exact (natural_fails name _).map some

theorem queryParams_fails (parameters : Parameters) : FailsOrdinarily parameters.queryParams :=
  (natural?_fails parameters "offset").bind fun _ =>
    (natural?_fails parameters "limit").bind fun _ => failsOrdinarily_ok _

theorem expectedVersion_fails (parameters : Parameters) :
    FailsOrdinarily (expectedVersion parameters) := by
  unfold expectedVersion
  split
  · exact failsOrdinarily_error rfl
  · exact natural_fails _ _

theorem find_fails (store : Store) (project typeId segment : String) (clauses : List String) :
    FailsOrdinarily (find store project typeId segment clauses) := by
  unfold find
  dsimp only
  split
  · rename_i error failed
    split at failed
    · exact failsOrdinarily_error (store.ordinary_expandFound project clauses _ error failed)
    · exact failsOrdinarily_error (store.ordinary_expandFound project clauses _ error failed)
  · exact failsOrdinarily_error rfl
  · exact failsOrdinarily_ok _

theorem resolveId_fails (store : Store) (project typeId segment : String) :
    FailsOrdinarily (resolveId store project typeId segment) := by
  unfold resolveId
  split
  · rename_i failure failed
    exact failsOrdinarily_error (find_fails store project typeId segment [] failure failed)
  · split
    · exact failsOrdinarily_ok _
    · exact failsOrdinarily_error rfl

/-- What a segment finds, as it is stored. -/
theorem find_eq_ok_iff {doc : Json} :
    find store project typeId segment [] = .ok doc ↔
      (match Text.after? "key=" segment.toList with
        | some key => store.storedByKey? project typeId (String.ofList key)
        | none => store.stored? project typeId segment) = some doc := by
  have unchanged (found : Option Json) : store.expandFound project [] found = .ok found := by
    cases found <;> rfl
  cases beginning : Text.after? "key=" segment.toList with
  | some key =>
    simp only [find, beginning, Store.getByKey, unchanged]
    cases store.storedByKey? project typeId (String.ofList key) <;> simp
  | none =>
    simp only [find, beginning, Store.get, unchanged]
    cases store.stored? project typeId segment <;> simp

/-- What a segment finds is stored, and in a sound store under the id that the segment stands for. -/
theorem resolve_of_find (sound : store.Sound) {doc : Json}
    (found : find store project typeId segment [] = .ok doc) :
    ∃ id, resolveId store project typeId segment = .ok id ∧
      store.stored? project typeId id = some doc := by
  have present : ∃ id, store.stored? project typeId id = some doc := by
    have read := find_eq_ok_iff.mp found
    split at read
    · obtain ⟨collection, there, held⟩ := Option.bind_eq_some_iff.mp read
      obtain ⟨id, present⟩ := Collection.get?_of_getByKey? held
      exact ⟨id, Option.bind_eq_some_iff.mpr ⟨collection, there, present⟩⟩
    · exact ⟨segment, read⟩
  obtain ⟨id, present⟩ := present
  exact ⟨id, by simp only [resolveId, found, (sound.of_stored? present).named], present⟩

theorem find_of_resolve (resolved : resolveId store project typeId segment = .ok id) :
    ∃ doc, find store project typeId segment [] = .ok doc := by
  unfold resolveId at resolved
  split at resolved
  · contradiction
  · exact ⟨_, by assumption⟩

end Parts

/-! ### Conflicts -/

/-- The document that a path leads to is stored in another version than the one named. -/
def Stale (service : Service) (project resource segment : String) (named stored : Nat) : Prop :=
  ∃ typeId id doc, typeIdFor resource = .ok typeId ∧
    service.get project resource segment [] = .ok doc ∧
    service.store.stored? project typeId id = some doc ∧
    Document.version? doc = some stored ∧ stored ≠ named

section Conflicts
variable {service : Service} {project resource typeId segment id : String} {named stored : Nat}

theorem stale_iff (sound : service.store.Sound) :
    Stale service project resource segment named stored ↔
      ∃ typeId id, typeIdFor resource = .ok typeId ∧
        resolveId service.store project typeId segment = .ok id ∧
        service.store.currentVersion project typeId id = .ok stored ∧ stored ≠ named := by
  constructor
  · rintro ⟨typeId, _, doc, typed, found, -, versioned, differs⟩
    simp only [get, typed, bind, Except.bind] at found
    obtain ⟨id, resolved, present⟩ := resolve_of_find sound found
    exact ⟨typeId, id, typed, resolved, Store.currentVersion_of_stored present versioned, differs⟩
  · rintro ⟨typeId, id, typed, resolved, current, differs⟩
    obtain ⟨doc, found⟩ := find_of_resolve resolved
    obtain ⟨_, resolvedToo, present⟩ := resolve_of_find sound found
    cases resolved.symm.trans resolvedToo
    obtain ⟨_, presentToo, versioned⟩ := Store.currentVersion_eq_ok_iff.mp current
    cases present.symm.trans presentToo
    refine ⟨typeId, id, doc, typed, ?_, present, versioned, differs⟩
    simp only [get, typed, bind, Except.bind]
    exact found

/-- Where nothing is stale, the version stored is the one named. -/
theorem agrees_of_not_stale (sound : service.store.Sound)
    (fresh : ∀ stored, ¬ Stale service project resource segment named stored)
    (typed : typeIdFor resource = .ok typeId)
    (resolved : resolveId service.store project typeId segment = .ok id) (version : Nat)
    (current : service.store.currentVersion project typeId id = .ok version) : version = named := by
  by_contra differs
  exact fresh version ((stale_iff sound).mpr ⟨typeId, id, typed, resolved, current, differs⟩)

theorem update_of_stale {around : Circumstances} {request : UpdateRequest}
    (sound : service.store.Sound)
    (stale : Stale service project resource segment request.version stored) :
    service.update around project resource segment request =
      (.error (.operation (.conflict request.version stored)), service) := by
  obtain ⟨typeId, id, typed, resolved, current, differs⟩ := (stale_iff sound).mp stale
  obtain ⟨doc, present, versioned⟩ := Store.currentVersion_eq_ok_iff.mp current
  simp only [update, typed, resolved, bind, Except.bind, Store.update_stale present versioned differs,
    lift]

theorem delete_of_stale {parameters : Parameters} (sound : service.store.Sound)
    (expected : expectedVersion parameters = .ok named)
    (stale : Stale service project resource segment named stored) :
    service.delete project resource segment parameters =
      (.error (.operation (.conflict named stored)), service) := by
  obtain ⟨typeId, id, typed, resolved, current, differs⟩ := (stale_iff sound).mp stale
  obtain ⟨doc, present, versioned⟩ := Store.currentVersion_eq_ok_iff.mp current
  simp only [delete, typed, expected, resolved, bind, Except.bind,
    Store.deleteVersioned_of_version present versioned, if_pos differs]

end Conflicts

/-! ### Handlers -/

section Handlers
variable {service : Service} {project resource segment : String} {parameters : Parameters}

theorem query_fails (service : Service) (project resource : String) (parameters : Parameters) :
    FailsOrdinarily (service.query project resource parameters).1 := by
  unfold query
  split
  · rename_i failure failed
    exact failsOrdinarily_error (typeIdFor_fails resource failure failed)
  · rename_i failure _ failed
    exact failsOrdinarily_error (queryParams_fails parameters failure failed)
  · exact failsOrdinarily_lift (service.store.ordinary_query project _ _)

theorem get_fails (service : Service) (project resource segment : String) (parameters : Parameters) :
    FailsOrdinarily (service.get project resource segment parameters) :=
  (typeIdFor_fails resource).bind fun typeId =>
    find_fails service.store project typeId segment (parameters.values "expand")

theorem create_fails (around : Circumstances) (service : Service) (project resource : String)
    (draft : Json) : FailsOrdinarily (service.create around project resource draft).1 := by
  unfold create
  split
  · rename_i failure failed
    exact failsOrdinarily_error (typeIdFor_fails resource failure failed)
  · exact failsOrdinarily_lift (service.store.ordinary_create project _ draft _ _)

theorem update_fails {request : UpdateRequest} (around : Circumstances) (sound : service.store.Sound)
    (fresh : ∀ stored, ¬ Stale service project resource segment request.version stored) :
    FailsOrdinarily (service.update around project resource segment request).1 := by
  cases typed : typeIdFor resource with
  | error failure =>
    simp only [update, typed, bind, Except.bind]
    exact failsOrdinarily_error (typeIdFor_fails resource failure typed)
  | ok typeId =>
    cases resolved : resolveId service.store project typeId segment with
    | error failure =>
      simp only [update, typed, resolved, bind, Except.bind]
      exact failsOrdinarily_error (resolveId_fails _ project typeId segment failure resolved)
    | ok id =>
      simp only [update, typed, resolved, bind, Except.bind]
      exact failsOrdinarily_lift (Store.ordinary_update (fun _ => ordinary_ok _)
        (agrees_of_not_stale sound fresh typed resolved))

theorem delete_fails (sound : service.store.Sound)
    (fresh : ∀ named, expectedVersion parameters = .ok named →
      ∀ stored, ¬ Stale service project resource segment named stored) :
    FailsOrdinarily (service.delete project resource segment parameters).1 := by
  cases typed : typeIdFor resource with
  | error failure =>
    simp only [delete, typed, bind, Except.bind]
    exact failsOrdinarily_error (typeIdFor_fails resource failure typed)
  | ok typeId =>
    cases expected : expectedVersion parameters with
    | error failure =>
      simp only [delete, typed, expected, bind, Except.bind]
      exact failsOrdinarily_error (expectedVersion_fails parameters failure expected)
    | ok named =>
      cases resolved : resolveId service.store project typeId segment with
      | error failure =>
        simp only [delete, typed, expected, resolved, bind, Except.bind]
        exact failsOrdinarily_error (resolveId_fails _ project typeId segment failure resolved)
      | ok id =>
        have deletes : Ordinary (service.store.deleteVersioned project typeId id named).1 :=
          Store.ordinary_deleteVersioned
            (agrees_of_not_stale sound (fresh named expected) typed resolved)
        simp only [delete, typed, expected, resolved, bind, Except.bind]
        rcases answer : service.store.deleteVersioned project typeId id named with ⟨error | doc, store⟩
        · exact failsOrdinarily_error (deletes error (congrArg Prod.fst answer))
        · exact failsOrdinarily_lift (store.ordinary_expand project _ doc)

end Handlers

/-! ### Runs -/

/-- An outcome as the reply to a call. -/
def replied {α : Type} (wrap : α → Reply) (outcome : Except Failure α × Service) :
    Except Failure Reply × Service :=
  (outcome.1.map wrap, outcome.2)

def perform (service : Service) : Call → Except Failure Reply × Service
  | .query project resource parameters => replied .page (service.query project resource parameters)
  | .get project resource segment parameters =>
    replied .document (service.get project resource segment parameters, service)
  | .create around project resource draft =>
    replied .document (service.create around project resource draft)
  | .update around project resource segment request =>
    replied .document (service.update around project resource segment request)
  | .delete project resource segment parameters =>
    replied .document (service.delete project resource segment parameters)

/-- The service after some calls, one after the other and whatever they reply. -/
def performAll (service : Service) (calls : List Call) : Service :=
  calls.foldl (fun service call => (service.perform call).2) service

theorem sound_empty (settings : Settings) : (empty settings).store.Sound :=
  fun _ _ _ found => absurd found nofun

theorem perform_effect (service : Service) (call : Call) :
    HasEffect service (service.perform call).2 := by
  cases call with
  | query project resource parameters => exact query_effect service project resource parameters
  | get => exact .refl service
  | create around project resource draft => exact create_effect around service project resource draft
  | update around project resource segment request =>
    exact update_effect around service project resource segment request
  | delete project resource segment parameters =>
    exact delete_effect service project resource segment parameters

theorem sound_performAll {service : Service} (sound : service.store.Sound) (calls : List Call) :
    (service.performAll calls).store.Sound := by
  induction calls generalizing service with
  | nil => exact sound
  | cons call calls ih =>
    obtain ⟨_, _, effect⟩ := perform_effect service call
    exact ih (sound.effect effect)

end Service

/-- A call names another version than that of the document it is to change. -/
def Call.Conflicts (service : Service) (named stored : Nat) : Call → Prop
  | update _ project resource segment request =>
    request.version = named ∧ service.Stale project resource segment named stored
  | delete project resource segment parameters =>
    Service.expectedVersion parameters = .ok named ∧
      service.Stale project resource segment named stored
  | _ => False

namespace Service

theorem perform_of_conflicts {service : Service} {call : Call} {named stored : Nat}
    (sound : service.store.Sound) (conflicts : call.Conflicts service named stored) :
    service.perform call = (.error (.operation (.conflict named stored)), service) := by
  cases call with
  | update around project resource segment request =>
    obtain ⟨rfl, stale⟩ := conflicts
    simp only [perform, replied, update_of_stale sound stale, Except.map]
  | delete project resource segment parameters =>
    obtain ⟨expected, stale⟩ := conflicts
    simp only [perform, replied, delete_of_stale sound expected stale, Except.map]
  | query | get | create => exact absurd conflicts id

/-- A call in a sound store that conflicts with no version there fails ordinarily, if it fails. -/
theorem perform_fails {service : Service} {call : Call} (sound : service.store.Sound)
    (fits : ∀ named stored, ¬ call.Conflicts service named stored) :
    FailsOrdinarily (service.perform call).1 := by
  cases call with
  | query project resource parameters =>
    exact (query_fails service project resource parameters).map Reply.page
  | get project resource segment parameters =>
    exact (get_fails service project resource segment parameters).map Reply.document
  | create around project resource draft =>
    exact (create_fails around service project resource draft).map Reply.document
  | update around project resource segment request =>
    exact (update_fails around sound fun stored stale => fits request.version stored ⟨rfl, stale⟩).map
      Reply.document
  | delete project resource segment parameters =>
    exact (delete_fails sound fun named expected stored stale =>
      fits named stored ⟨expected, stale⟩).map Reply.document

/-- After any calls to a service that was started afresh, no generic request fails for a reason within
the service: the failure says that the request is wrong, that something is not there, or that another
version is stored. It says the last exactly if an update or a deletion names another version than that
of the document its path leads to; the version stored is reported then, and nothing changes. -/
theorem generic_requests_fail_for_the_client (settings : Settings) (calls : List Call) (call : Call) :
    let service := (empty settings).performAll calls
    (∀ failure, (service.perform call).1 = .error failure →
      failure.status ∈ [400, 404, 409] ∧ failure.code ≠ "General" ∧
      (failure.status = 409 ↔ failure.code = "ConcurrentModification") ∧
      (failure.status = 409 → ∃ named stored, call.Conflicts service named stored ∧
        failure.currentVersion? = some stored)) ∧
    ∀ named stored, call.Conflicts service named stored ↔
      service.perform call = (.error (.operation (.conflict named stored)), service) := by
  intro service
  have sound : service.store.Sound := sound_performAll (sound_empty settings) calls
  by_cases conflict : ∃ named stored, call.Conflicts service named stored
  · obtain ⟨named, stored, conflicts⟩ := conflict
    have outcome := perform_of_conflicts sound conflicts
    constructor
    · intro failure failed
      cases failed.symm.trans (congrArg Prod.fst outcome)
      exact ⟨by simp [Failure.status], by simp [Failure.code], by simp [Failure.status, Failure.code],
        fun _ => ⟨named, stored, conflicts, rfl⟩⟩
    · intro other otherStored
      constructor
      · exact perform_of_conflicts sound
      · intro same
        cases same.symm.trans outcome
        exact conflicts
  · have fails := perform_fails sound fun named stored conflicts => conflict ⟨named, stored, conflicts⟩
    constructor
    · intro failure failed
      obtain ⟨status, general, modified⟩ := Failure.status_of_isOrdinary (fails failure failed)
      have quiet : failure.status ≠ 409 := by omega
      refine ⟨?_, general, iff_of_false quiet modified, fun loud => absurd loud quiet⟩
      rcases status with status | status <;> simp [status]
    · intro named stored
      constructor
      · exact perform_of_conflicts sound
      · intro failed
        have ordinary := fails _ (congrArg Prod.fst failed)
        simp [Failure.isOrdinary, Error.isOrdinary] at ordinary

/-- An update names the seventh version of a zone just created, and is told of the first one. -/
theorem update_of_zone_told_of_first_version :
    let around : Circumstances := ⟨⟨0, 0⟩, fun _ => "fresh"⟩
    let draft := Json.object [("id", .string "z"), ("key", .string "k")]
    let service := (empty {}).performAll [.create around "shop" "zones" draft]
    let call := Call.update around "shop" "zones" "key=k" ⟨7, []⟩
    ∃ failure, (service.perform call).1 = .error failure ∧ failure.status = 409 ∧
      ∃ named stored, call.Conflicts service named stored ∧ named = 7 ∧ stored = 1 ∧
        failure.currentVersion? = some stored := by
  intro around draft service call
  have failed : service.perform call = (.error (.operation (.conflict 7 1)), service) := rfl
  have failures := generic_requests_fail_for_the_client {} [.create around "shop" "zones" draft] call
  obtain ⟨-, -, -, loud⟩ := failures.1 _ (congrArg Prod.fst failed)
  obtain ⟨named, stored, conflicts, reported⟩ := loud rfl
  cases ((failures.2 named stored).mp conflicts).symm.trans failed
  exact ⟨_, congrArg Prod.fst failed, rfl, 7, 1, conflicts, rfl, rfl, reported⟩

end Service
end Storefront
