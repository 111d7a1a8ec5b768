import Storefront.Proofs.Store.Operation
import Storefront.Service.Http

/-!
Runs of the service, one request after another whatever they are answered. A request has an effect on
the store only through the one call that it comes to.
-/
namespace Storefront

/-- A request with what it finds around it. -/
structure Exchange where
  around : Circumstances
  request : Request

namespace Service

/-- What a request can do to a service: what a call can do to its store. -/
def HasEffect (service after : Service) : Prop :=
  ∃ tenant typeId, Store.Effect service.store tenant typeId after.store

variable {service : Service}

theorem HasEffect.refl (service : Service) : HasEffect service service :=
  ⟨"", "", .kept rfl⟩

/-! ### Handlers -/

theorem query_effect (service : Service) (project resource : String) (parameters : Parameters) :
    HasEffect service (service.query project resource parameters).2 := by
  unfold query
  split
  · exact .refl service
  · exact .refl service
  · rename_i typeId params _ _
    have effect := Store.perform_effect service.store (.query project typeId params)
    exact ⟨project, typeId, effect⟩

theorem create_effect (around : Circumstances) (service : Service) (project resource : String)
    (draft : Json) : HasEffect service (service.create around project resource draft).2 := by
  unfold create
  split
  · exact .refl service
  · rename_i typeId _
    have effect := Store.perform_effect service.store
      (.create project typeId draft around.now (around.freshId service.drawn))
    exact ⟨project, typeId, effect⟩

theorem update_effect (around : Circumstances) (service : Service) (project resource idOrKey : String)
    (request : UpdateRequest) :
    HasEffect service (service.update around project resource idOrKey request).2 := by
  unfold update
  split
  · exact .refl service
  · rename_i typeId id _
    have effect := Store.perform_effect service.store
      (.update ⟨project, typeId, id⟩ request.version around.now
        fun doc => .ok (applyFields request.fields doc))
    exact ⟨project, typeId, effect⟩

theorem delete_effect (service : Service) (project resource idOrKey : String)
    (parameters : Parameters) :
    HasEffect service (service.delete project resource idOrKey parameters).2 := by
  unfold delete
  split
  · exact .refl service
  · rename_i typeId version id _
    have effect := Store.perform_effect service.store (.deleteVersioned ⟨project, typeId, id⟩ version)
    change Store.Effect _ _ _ (service.store.deleteVersioned project typeId id version).2 at effect
    split
    · rename_i refused
      rw [refused] at effect
      exact ⟨project, typeId, effect⟩
    · rename_i deleted
      rw [deleted] at effect
      exact ⟨project, typeId, effect⟩

/-! ### Requests -/

theorem dispatch_effect (around : Circumstances) (service : Service) (request : Request)
    (parameters : Parameters) (route : Route) (values : List String) :
    HasEffect service (service.dispatch around request parameters route values).2 := by
  unfold dispatch
  split
  -- The routes that come to a call: creation, query, update and deletion.
  case h_5 =>
    split
    · exact .refl service
    · exact create_effect ..
  case h_6 => exact query_effect ..
  case h_7 =>
    split
    · exact .refl service
    · exact update_effect ..
  case h_8 => exact delete_effect ..
  all_goals exact .refl service

theorem answer_effect (around : Circumstances) (service : Service) (request : Request) :
    HasEffect service (service.answer around request).2 := by
  unfold answer
  dsimp only
  split
  · exact .refl service
  · split
    · split
      · exact .refl service
      · exact dispatch_effect ..
    · exact .refl service

theorem respond_effect (around : Circumstances) (service : Service) (request : Request) :
    HasEffect service (service.respond around request).2 := by
  unfold respond
  split
  · exact .refl service
  · exact answer_effect ..
  · exact answer_effect ..

/-! ### Runs -/

/-- The service after some requests, one after the other. -/
def respondAll (service : Service) (exchanges : List Exchange) : Service :=
  exchanges.foldl (fun service exchange => (service.respond exchange.around exchange.request).2) service

@[simp] theorem respondAll_cons (service : Service) (exchange : Exchange)
    (exchanges : List Exchange) :
    service.respondAll (exchange :: exchanges) =
      (service.respond exchange.around exchange.request).2.respondAll exchanges := rfl

/-- What the effects of calls preserve, a run preserves. -/
theorem respondAll_invariant {P : Store → Prop}
    (preserves : ∀ store tenant typeId after, Store.Effect store tenant typeId after → P store → P after)
    (exchanges : List Exchange) (initial : P service.store) :
    P (service.respondAll exchanges).store := by
  induction exchanges generalizing service with
  | nil => exact initial
  | cons exchange exchanges ih =>
    obtain ⟨tenant, typeId, effect⟩ := respond_effect exchange.around service exchange.request
    exact ih (preserves _ tenant typeId _ effect initial)

end Service
end Storefront
