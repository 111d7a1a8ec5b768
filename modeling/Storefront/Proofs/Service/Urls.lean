import Storefront.Proofs.Service.Body
import Storefront.Proofs.Service.Merging
import Storefront.Proofs.Service.Uri

/-!
URLs of documents. A document can be read and updated under its project, its resource and its id, however
these are spelled as segments. One URL is taken: the path of the product search is that of the product with
the id `search`, too. It leads to the search, which cannot be read and takes an update for a query.
-/
namespace Storefront

namespace Route
variable (project : List Char) {resource last : List Char}

/-- The path of a product search. -/
def IsProductSearch (resource last : List Char) : Prop :=
  resource = "products".toList ∧ last = "search".toList

theorem ofSegments?_resource (nonempty : resource ≠ []) :
    ofSegments? [project, resource] = some (.resource project resource) := by
  rw [ofSegments?, if_neg nonempty]

theorem ofSegments?_document (nonempty : last ≠ []) (projections : resource ≠ "product-projections".toList)
    (free : ¬ IsProductSearch resource last) :
    ofSegments? [project, resource, last] = some (.document project resource last) := by
  unfold IsProductSearch at free
  rw [ofSegments?, if_neg nonempty, if_neg fun taken => projections taken.1, if_neg free]

theorem ofSegments?_productSearch (taken : IsProductSearch resource last) :
    ofSegments? [project, resource, last] = some (.productSearch project) := by
  obtain ⟨rfl, rfl⟩ := taken
  rw [ofSegments?, if_neg (by decide), if_neg (by decide), if_pos ⟨rfl, rfl⟩]

theorem decode_of_spells {parameters : List (String × List Char)} {values : List String}
    (spelt : List.Forall₂ Uri.Spells (parameters.map Prod.snd) values) :
    decode parameters = .ok values := by
  induction parameters generalizing values with
  | nil =>
    cases spelt
    rfl
  | cons parameter parameters ih =>
    obtain ⟨⟩ | ⟨here, behind⟩ := spelt
    rw [decode, here.decodes, ih behind]
    rfl

theorem ordinary_of_mem_methods {route : Route} {method : String} (allowed : method ∈ route.methods) :
    method ≠ "OPTIONS" ∧ method ≠ "HEAD" := by
  constructor <;> rintro rfl <;> cases route <;> simp [methods] at allowed

end Route

namespace Service
variable {service after : Service} {around : Circumstances} {request : Request} {response : Response}
  {parts : List (List Char)} {route : Route} {values : List String}

/-! ### Requests for a path -/

theorem respond_ordinary (options : request.method ≠ "OPTIONS") (head : request.method ≠ "HEAD") :
    service.respond around request = service.answer around request := by
  unfold respond
  split
  · contradiction
  · contradiction
  · rfl

section Paths
variable (spelt : List.Forall₂ Uri.Spells parts values) (nonempty : parts ≠ [])
  (there : request.address.toList = Uri.path parts) (leads : Route.ofSegments? parts = some route)
include spelt nonempty there leads

theorem respond_of_leads (allowed : request.method ∈ route.methods)
    (named : route.parameters.map Prod.snd = parts) :
    service.respond around request = service.dispatch around request [] route values := by
  have separate : ∀ segment ∈ parts, Uri.IsSegment segment := Uri.isSegment_of_spells spelt
  have decoded : Route.decode route.parameters = .ok values := Route.decode_of_spells (named ▸ spelt)
  have query : Uri.decodeQuery [] = [] := rfl
  obtain ⟨options, head⟩ := Route.ordinary_of_mem_methods allowed
  rw [respond_ordinary options head]
  simp only [answer, there, Uri.parts_path nonempty separate, Uri.segments_path separate, leads, allowed,
    decoded, query, if_true]

theorem respond_of_not_allowed (forbidden : request.method ∉ route.methods)
    (options : request.method ≠ "OPTIONS") (head : request.method ≠ "HEAD") :
    service.respond around request = (.empty 405, service) := by
  have separate : ∀ segment ∈ parts, Uri.IsSegment segment := Uri.isSegment_of_spells spelt
  rw [respond_ordinary options head]
  simp only [answer, there, Uri.parts_path nonempty separate, Uri.segments_path separate, leads, forbidden,
    if_false]

end Paths

/-! ### Creation -/

variable {projectSegment resourceSegment idSegment : List Char} {project resource typeId id : String}
  {draft doc : Json}

theorem id?_of_create (created : service.create around project resource draft = (.ok doc, after)) :
    Document.id? doc = some ((Document.draftId? draft).getD (around.freshId service.drawn)) := by
  unfold create at created
  split at created
  · cases created
  · rename_i typeId typed
    rcases made : service.store.create project typeId draft around.now
      (around.freshId service.drawn) with ⟨error | stored, store⟩
    · rw [made] at created
      cases created
    · rw [made] at created
      cases created
      obtain ⟨whole, drafted, rfl⟩ := Store.create_stored made
      rw [Document.id?_stripTargets]
      exact (Document.ofDraft_spec drafted).1

theorem status_ofFailure_ne (failure : Failure) : (Response.ofFailure failure).status ≠ 201 := by
  change failure.status ≠ 201
  cases failure with
  | operation error => cases error <;> simp [Failure.status]
  | _ => simp [Failure.status]

/-- A creation that is answered as one. -/
theorem create_of_respond (projectSpelt : Uri.Spells projectSegment project)
    (resourceSpelt : Uri.Spells resourceSegment resource) (nonempty : resource ≠ "")
    (posted : request.method = "POST")
    (there : request.address.toList = Uri.path [projectSegment, resourceSegment])
    (answered : service.respond around request = (response, after)) (succeeded : response.status = 201) :
    ∃ draft doc, readBody request Body.json = .ok draft ∧
      service.create around project resource draft = (.ok doc, after) ∧ response = .json 201 doc := by
  have leads := Route.ofSegments?_resource projectSegment (resourceSpelt.ne_nil nonempty)
  have spelt := List.Forall₂.cons projectSpelt (.cons resourceSpelt .nil)
  rw [respond_of_leads spelt (by simp) there leads (by simp [posted, Route.methods]) rfl] at answered
  simp only [dispatch, posted] at answered
  split at answered
  · cases answered
    exact absurd succeeded (status_ofFailure_ne _)
  · rename_i draft read
    rcases made : service.create around project resource draft with ⟨failure | doc, changed⟩
    · rw [made] at answered
      cases answered
      exact absurd succeeded (status_ofFailure_ne failure)
    · rw [made] at answered
      cases answered
      exact ⟨draft, doc, read, made, rfl⟩

/-! ### Documents -/

/-- A path serves a document: reading answers with it, and an update that names its version answers with
the fields merged into it and stores that in its place. -/
structure Serves (service : Service) (path : List Char) (project typeId id : String) (doc : Json) :
    Prop where
  read : ∀ around request, request.method = "GET" → request.address.toList = path →
    service.respond around request = (.json 200 doc, service)
  update : ∀ around request version fields, request.method = "POST" → request.address.toList = path →
    readBody request Body.updateRequest = .ok ⟨version, fields⟩ → Document.version? doc = some version →
    ∃ updated, Document.Merges doc fields (version + 1) around.now updated ∧
      service.respond around request = (.json 200 updated,
        { service with store := service.store.modify project typeId (·.insert id updated) })

theorem ne_of_typeIdFor (typed : typeIdFor resource = .ok typeId) :
    resource ≠ "" ∧ resource ≠ "product-projections" := by
  constructor <;> rintro rfl <;> cases typed

section Documents
variable (projectSpelt : Uri.Spells projectSegment project)
  (resourceSpelt : Uri.Spells resourceSegment resource) (idSpelt : Uri.Spells idSegment id)
include projectSpelt resourceSpelt idSpelt

theorem respond_document (typed : typeIdFor resource = .ok typeId) (nonempty : id ≠ "")
    (free : ¬ Route.IsProductSearch resourceSegment idSegment)
    (there : request.address.toList = Uri.path [projectSegment, resourceSegment, idSegment])
    (allowed : request.method ∈ (Route.document projectSegment resourceSegment idSegment).methods) :
    service.respond around request =
      service.dispatch around request [] (.document projectSegment resourceSegment idSegment)
        [project, resource, id] := by
  have projections : resourceSegment ≠ "product-projections".toList := by
    rintro rfl
    have spelt : Uri.decodeSegment? "product-projections".toList = some "product-projections" := by
      decide +kernel
    exact (ne_of_typeIdFor typed).2 (Option.some.inj (resourceSpelt.decodes.symm.trans spelt))
  have leads :=
    Route.ofSegments?_document projectSegment (idSpelt.ne_nil nonempty) projections free
  have spelt := List.Forall₂.cons projectSpelt (.cons resourceSpelt (.cons idSpelt .nil))
  exact respond_of_leads spelt (by simp) there leads allowed rfl

theorem serves_of_leadsTo (typed : typeIdFor resource = .ok typeId) (stored : Document.Stored id doc)
    (versioned : Document.version? doc = some 1)
    (leads : LeadsTo service project resource typeId id id doc)
    (free : ¬ Route.IsProductSearch resourceSegment idSegment) :
    Serves service (Uri.path [projectSegment, resourceSegment, idSegment]) project typeId id doc := by
  constructor
  · intro around request got there
    rw [respond_document projectSpelt resourceSpelt idSpelt typed stored.nonempty free there
      (by simp [got, Route.methods])]
    simp [dispatch, got, leads.get, Response.ofResult]
  · intro around request version fields posted there read same
    cases versioned.symm.trans same
    obtain ⟨touched, touchedTo, -, -, updated⟩ := leads.update around fields
    have merges : Document.Merges doc fields 2 around.now touched.stripTargets :=
      Document.merges_of_touch stored.object stored.named (by decide) (ordered_of_readBody read) touchedTo
    refine ⟨touched.stripTargets, merges, ?_⟩
    rw [respond_document projectSpelt resourceSpelt idSpelt typed stored.nonempty free there
      (by simp [posted, Route.methods])]
    simp only [dispatch, posted, read, updated]
    rfl

/-- The product search is not read from. -/
theorem get_productSearch (taken : Route.IsProductSearch resourceSegment idSegment)
    (got : request.method = "GET")
    (there : request.address.toList = Uri.path [projectSegment, resourceSegment, idSegment]) :
    service.respond around request = (.empty 405, service) := by
  have leads := Route.ofSegments?_productSearch projectSegment taken
  have spelt := List.Forall₂.cons projectSpelt (.cons resourceSpelt (.cons idSpelt .nil))
  exact respond_of_not_allowed spelt (by simp) there leads (by simp [got, Route.methods]) (by simp [got])
    (by simp [got])

theorem serves_iff (typed : typeIdFor resource = .ok typeId) (stored : Document.Stored id doc)
    (versioned : Document.version? doc = some 1)
    (leads : LeadsTo service project resource typeId id id doc) :
    Serves service (Uri.path [projectSegment, resourceSegment, idSegment]) project typeId id doc ↔
      ¬ Route.IsProductSearch resourceSegment idSegment := by
  constructor
  · intro serves taken
    let request : Request :=
      ⟨"GET", String.ofList (Uri.path [projectSegment, resourceSegment, idSegment]), none, ""⟩
    have there : request.address.toList = Uri.path [projectSegment, resourceSegment, idSegment] :=
      String.toList_ofList
    have read := serves.read ⟨⟨0, 0⟩, fun _ => ""⟩ request rfl there
    have refused : service.respond ⟨⟨0, 0⟩, fun _ => ""⟩ request = (.empty 405, service) :=
      get_productSearch projectSpelt resourceSpelt idSpelt taken rfl there
    cases refused.symm.trans read
  · exact serves_of_leadsTo projectSpelt resourceSpelt idSpelt typed stored versioned leads

end Documents

/-- A document that was created is read and updated under its project, its resource and its id, however
each of them is spelled, unless that is how the product search is spelled. Every id has a spelling. -/
theorem created_document_served_unless_search (projectSpelt : Uri.Spells projectSegment project)
    (resourceSpelt : Uri.Spells resourceSegment resource) (typed : typeIdFor resource = .ok typeId)
    (posted : request.method = "POST")
    (there : request.address.toList = Uri.path [projectSegment, resourceSegment])
    (answered : service.respond around request = (response, after)) (succeeded : response.status = 201) :
    ∃ draft id doc, readBody request Body.json = .ok draft ∧
      id = (Document.draftId? draft).getD (around.freshId service.drawn) ∧
      Document.id? doc = some id ∧ response = .json 201 doc ∧
      Uri.Spells (Uri.encodeSegment id) id ∧
      ((∀ key, id ≠ "key=" ++ key) → ∀ idSegment, Uri.Spells idSegment id →
        (Serves after (Uri.path [projectSegment, resourceSegment, idSegment]) project typeId id doc ↔
          ¬ (resourceSegment = "products".toList ∧ idSegment = "search".toList))) := by
  obtain ⟨draft, doc, read, created, shown⟩ := create_of_respond projectSpelt resourceSpelt
    (ne_of_typeIdFor typed).1 posted there answered succeeded
  obtain ⟨createdType, id, createdTyped, stored, versioned, present⟩ := create_succeeded created
  cases typed.symm.trans createdTyped
  have named := id?_of_create created
  cases stored.named.symm.trans named
  refine ⟨draft, _, doc, read, rfl, named, shown, Uri.spells_encodeSegment _, ?_⟩
  intro plain idSegment idSpelt
  have leads := leadsTo_of_find typed present stored versioned (find_id present plain)
  exact serves_iff projectSpelt resourceSpelt idSpelt typed stored versioned leads

/-- A zone whose id holds a slash is served under the segment that spells the slash by its byte. -/
theorem created_zone_served_under_slash :
    let around : Circumstances := ⟨⟨0, 0⟩, fun _ => "fresh"⟩
    let creation : Request :=
      ⟨"POST", "/shop/zones", some "application/json", "\x7b\"id\":\"a/b\"\x7d"⟩
    let answer := (empty {}).respond around creation
    ∃ doc, answer.1 = .json 201 doc ∧ Document.id? doc = some "a/b" ∧
      Serves answer.2 "/shop/zones/a%2Fb".toList "shop" "zone" "a/b" doc := by
  intro around creation answer
  have shop : Uri.Spells "shop".toList "shop" := Uri.spells_encodeSegment "shop"
  have zones : Uri.Spells "zones".toList "zones" := Uri.spells_encodeSegment "zones"
  have slash : Uri.Spells "a%2Fb".toList "a/b" := Uri.spells_encodeSegment "a/b"
  have drafted : (readBody creation Body.json).toOption.bind Document.draftId? = some "a/b" := by
    decide +kernel
  have answered : (empty {}).respond around creation = (answer.1, answer.2) := rfl
  have succeeded : answer.1.status = 201 := by decide +kernel
  obtain ⟨draft, id, doc, read, identified, named, shown, -, served⟩ :=
    created_document_served_unless_search shop zones rfl rfl (by decide +kernel) answered succeeded
  have draftId : Document.draftId? draft = some "a/b" :=
    (congrArg (·.toOption.bind Document.draftId?) read).symm.trans drafted
  obtain rfl : id = "a/b" := by rw [identified, draftId, Option.getD_some]
  refine ⟨doc, shown, named, (served ?_ _ slash).mpr (by decide)⟩
  intro key same
  have letters : "a/b".toList = "key=".toList ++ key.toList := by rw [← String.toList_append, ← same]
  have first : 'a' = 'k' := Option.some.inj (congrArg List.head? letters)
  contradiction

/-- A product with the id `search` is created, and its URL neither reads it nor updates it. -/
theorem created_product_not_served :
    let around : Circumstances := ⟨⟨0, 0⟩, fun _ => "fresh"⟩
    let creation : Request :=
      ⟨"POST", "/shop/products", some "application/json", "\x7b\"id\":\"search\"\x7d"⟩
    let reading : Request := ⟨"GET", "/shop/products/search", none, ""⟩
    let update : Request := ⟨"POST", "/shop/products/search", some "application/json",
      "\x7b\"version\":1,\"fields\":\x7b\"key\":\"k\"\x7d\x7d"⟩
    let answer := (empty {}).respond around creation
    answer.1.status = 201 ∧
    ((answer.2.store.stored? "shop" "product" "search").bind Document.version?) = some 1 ∧
    (answer.2.respond around reading).1 = .empty 405 ∧
    (readBody update Body.updateRequest).toOption.map (·.version) = some 1 ∧
    (((answer.2.respond around update).2.store.stored? "shop" "product" "search").bind
      Document.version?) = some 1 := by
  intro around creation reading update answer
  refine ⟨?_, ?_, ?_, ?_, ?_⟩ <;> decide +kernel

end Service
end Storefront
