import Mathlib.Data.Set.Card
import Storefront.Proofs.Store.Order
import Storefront.Proofs.Service.Run

/-!
The number of projects in the report of health. The store remembers every project that ever held a
document, also when the last one is gone, so the report counts these and not the ones that hold
documents now.
-/
namespace Storefront

namespace Store

/-- A tenant has a document. -/
def Live (store : Store) (tenant : String) : Prop :=
  ∃ typeId id doc, store.stored? tenant typeId id = some doc

variable {store after : Store} {tenant other typeId : String}

theorem Live.mem_tenantNames (live : store.Live tenant) : tenant ∈ store.tenantNames := by
  obtain ⟨typeId, id, doc, present⟩ := live
  obtain ⟨collection, there, -⟩ := Option.bind_eq_some_iff.mp present
  obtain ⟨types, found, -⟩ := Option.bind_eq_some_iff.mp there
  rw [tenantNames, Dictionary.mem_names_iff, found]
  rfl

theorem mem_tenantNames_modify {change : Collection → Collection} :
    other ∈ (store.modify tenant typeId change).tenantNames ↔
      other = tenant ∨ other ∈ store.tenantNames := by
  simp only [tenantNames, Dictionary.mem_names_iff, modify, Dictionary.get?_insert]
  by_cases same : tenant = other
  · simp only [same, if_true, Option.isSome_some, true_or]
  · simp only [same, Ne.symm same, if_false, false_or]

/-- A call makes the store remember those tenants that have a document behind it. -/
theorem Effect.mem_tenantNames_iff (effect : Effect store tenant typeId after) :
    other ∈ after.tenantNames ↔ other ∈ store.tenantNames ∨ after.Live other := by
  have live (there : after.Live other) : other ∈ after.tenantNames := there.mem_tenantNames
  cases effect with
  | kept same =>
    have names : after.tenantNames = store.tenantNames := congrArg Dictionary.names same
    rw [names] at live ⊢
    exact ⟨.inl, fun either => either.elim id live⟩
  | stored id doc _ =>
    rw [mem_tenantNames_modify] at live ⊢
    constructor
    · rintro (rfl | before)
      · have present := stored?_insert store other typeId id other typeId id doc
        exact .inr ⟨typeId, id, doc, present.trans (if_pos ⟨rfl, rfl, rfl⟩)⟩
      · exact .inl before
    · exact fun either => either.elim .inr live
  | removed id doc present =>
    -- The tenant whose document is taken out was remembered for it, and stays so.
    have remembered : tenant ∈ store.tenantNames := Live.mem_tenantNames ⟨typeId, id, doc, present⟩
    rw [mem_tenantNames_modify] at live ⊢
    constructor
    · rintro (rfl | before)
      · exact .inl remembered
      · exact .inl before
    · exact fun either => either.elim .inr live

/-- A store has no document if all its collections are empty. -/
theorem not_live_of_isEmpty
    (empties : store.tenants.all (fun types => types.2.all (·.2.isEmpty)) = true) :
    ¬ store.Live tenant := by
  rintro ⟨typeId, id, doc, present⟩
  obtain ⟨collection, there, found⟩ := Option.bind_eq_some_iff.mp present
  obtain ⟨types, ofTenant, ofType⟩ := Option.bind_eq_some_iff.mp there
  have each := List.all_eq_true.mp empties _ (Dictionary.mem_of_get? ofTenant)
  have nothing := List.all_eq_true.mp each _ (Dictionary.mem_of_get? ofType)
  have none : collection.documents = [] := List.isEmpty_iff.mp nothing
  rw [Collection.get?, none] at found
  contradiction

theorem Effect.ordered_tenants (effect : Effect store tenant typeId after)
    (ordered : Dictionary.Ordered store.tenants) : Dictionary.Ordered after.tenants := by
  cases effect with
  | kept same => exact same ▸ ordered
  | stored id doc _ => exact ordered.insert tenant _
  | removed id doc _ => exact ordered.insert tenant _

end Store

namespace Service

variable {service : Service} {project : String}

/-- A project had a document at some time of a run. -/
def EverLive (service : Service) (exchanges : List Exchange) (project : String) : Prop :=
  ∃ front, front <+: exchanges ∧ (service.respondAll front).store.Live project

theorem everLive_cons (exchange : Exchange) (exchanges : List Exchange) :
    EverLive service (exchange :: exchanges) project ↔
      service.store.Live project ∨
        EverLive (service.respond exchange.around exchange.request).2 exchanges project := by
  constructor
  · rintro ⟨front, isPrefix, live⟩
    rcases List.prefix_cons_iff.mp isPrefix with rfl | ⟨later, rfl, within⟩
    · exact .inl live
    · exact .inr ⟨later, within, live⟩
  · rintro (live | ⟨front, isPrefix, live⟩)
    · exact ⟨[], List.nil_prefix, live⟩
    · exact ⟨exchange :: front, List.prefix_cons_iff.mpr (.inr ⟨front, rfl, isPrefix⟩), live⟩

/-- The projects remembered are those from the start and those that ever had a document. -/
theorem mem_tenantNames_respondAll (exchanges : List Exchange) :
    project ∈ (service.respondAll exchanges).store.tenantNames ↔
      project ∈ service.store.tenantNames ∨ EverLive service exchanges project := by
  induction exchanges generalizing service with
  | nil =>
    constructor
    · exact .inl
    · rintro (there | ⟨front, isPrefix, live⟩)
      · exact there
      · cases List.prefix_nil.mp isPrefix
        exact live.mem_tenantNames
  | cons exchange exchanges ih =>
    obtain ⟨tenant, typeId, effect⟩ := respond_effect exchange.around service exchange.request
    have before (live : service.store.Live project) : project ∈ service.store.tenantNames :=
      live.mem_tenantNames
    have behind (live : (service.respond exchange.around exchange.request).2.store.Live project) :
        EverLive (service.respond exchange.around exchange.request).2 exchanges project :=
      ⟨[], List.nil_prefix, live⟩
    rw [respondAll_cons, ih, effect.mem_tenantNames_iff, everLive_cons]
    tauto

theorem everLive_of_live {exchanges : List Exchange}
    (live : (service.respondAll exchanges).store.Live project) : EverLive service exchanges project :=
  ⟨exchanges, List.prefix_rfl, live⟩

theorem projects_health (service : Service) :
    service.health.field? "projects" = some (.ofNat service.store.tenantNames.length) := by
  simp only [health, Json.ofMembers, Json.field?, Dictionary.get?_ofList]
  rfl

theorem respond_health (around : Circumstances) (service : Service) (contentType : Option String)
    (body : String) :
    service.respond around ⟨"GET", "/health", contentType, body⟩ =
      (.json 200 service.health, service) := by
  have path : Uri.parts "/health".toList = ("/health".toList, []) := by decide
  have route : Route.ofSegments? (Uri.segments "/health".toList) = some .health := by decide
  have method : "GET" ∈ Route.health.methods := by decide
  simp only [respond, answer, path, route, method, if_true, Route.decode, Route.parameters, dispatch]
  rfl

section Fresh
variable (settings : Settings) (exchanges : List Exchange)

theorem everLive_eq_tenantNames :
    {project | EverLive (empty settings) exchanges project} =
      ((empty settings).respondAll exchanges).store.tenantNames.toFinset := by
  ext project
  have noneBefore : project ∉ (empty settings).store.tenantNames := nofun
  rw [List.coe_toFinset, Set.mem_ofPred_eq, Set.mem_ofPred_eq, mem_tenantNames_respondAll]
  simp only [noneBefore, false_or]

theorem ncard_everLive :
    {project | EverLive (empty settings) exchanges project}.ncard =
      ((empty settings).respondAll exchanges).store.tenantNames.length := by
  have ordered : Dictionary.Ordered ((empty settings).respondAll exchanges).store.tenants :=
    respondAll_invariant (fun _ _ _ _ effect => effect.ordered_tenants) exchanges
      Dictionary.ordered_nil
  have nodup : ((empty settings).respondAll exchanges).store.tenantNames.Nodup :=
    Dictionary.Ordered.nodup_names ordered
  rw [everLive_eq_tenantNames, Set.ncard_coe_finset, List.toFinset_card_of_nodup nodup]

/-- As many projects have a document as ever had one, exactly if none has lost its last one for good. -/
theorem ncard_everLive_eq_iff :
    {project | EverLive (empty settings) exchanges project}.ncard =
        {project | ((empty settings).respondAll exchanges).store.Live project}.ncard ↔
      ∀ project, EverLive (empty settings) exchanges project →
        ((empty settings).respondAll exchanges).store.Live project := by
  have within : {project | ((empty settings).respondAll exchanges).store.Live project} ⊆
      {project | EverLive (empty settings) exchanges project} := fun project => everLive_of_live
  have finite : {project | EverLive (empty settings) exchanges project}.Finite := by
    rw [everLive_eq_tenantNames]
    exact Finset.finite_toSet _
  constructor
  · intro counts project held
    have all := Set.eq_of_subset_of_ncard_le within counts.le finite
    exact (Set.ext_iff.mp all project).mpr held
  · intro still
    rw [Set.Subset.antisymm within still]

/-- The report of health of an application that was started afresh. Its number of projects is the
number of those that had a document at some time, whatever was asked and however it was answered. It is
the number of those that have one now exactly if each of them still has one. -/
theorem health_counts_projects_ever_live (around : Circumstances) (contentType : Option String)
    (body : String) :
    let fresh := empty settings
    let service := fresh.respondAll exchanges
    service.respond around ⟨"GET", "/health", contentType, body⟩ =
      (.json 200 service.health, service) ∧
    service.health.field? "projects" =
      some (.ofNat {project | EverLive fresh exchanges project}.ncard) ∧
    (service.health.field? "projects" = some (.ofNat {project | service.store.Live project}.ncard) ↔
      ∀ project, EverLive fresh exchanges project → service.store.Live project) := by
  intro fresh service
  have reported : service.health.field? "projects" =
      some (.ofNat {project | EverLive fresh exchanges project}.ncard) := by
    rw [projects_health, ncard_everLive]
  refine ⟨respond_health around service contentType body, reported, ?_⟩
  rw [reported, ← ncard_everLive_eq_iff]
  simp only [Json.ofNat, Option.some.injEq, Json.number.injEq, Number.integer.injEq, Int.natCast_inj]
  rfl

end Fresh

/-- A zone is created and deleted. No project has a document, but one is reported. -/
theorem health_counts_emptied_project :
    let around : Circumstances := ⟨⟨0, 0⟩, fun _ => "fresh"⟩
    let exchanges := [Exchange.mk around
        ⟨"POST", "/shop/zones", some "application/json", "\x7b\"id\":\"z\"\x7d"⟩,
      ⟨around, ⟨"DELETE", "/shop/zones/z?version=1", none, ""⟩⟩]
    let service := (empty {}).respondAll exchanges
    (∀ project, ¬ service.store.Live project) ∧
    service.health.field? "projects" = some (.ofNat 1) := by
  intro around exchanges service
  have emptied : service.store.tenants.all (fun types => types.2.all (·.2.isEmpty)) = true := by
    decide +kernel
  have remembered : service.store.tenantNames = ["shop"] := by decide +kernel
  refine ⟨fun project => Store.not_live_of_isEmpty emptied, ?_⟩
  rw [projects_health, remembered]
  rfl

end Service
end Storefront
