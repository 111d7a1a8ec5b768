import Storefront.Proofs.Store.Paging

/-! Pages of a catalog search. A projection has the id of its product, and without marks a condition
leaves it as it is, so that the pages of a search are those of the projections that satisfy it. -/
namespace Storefront

variable {source target product projection : Json} {id : String}

namespace Catalog

/-! ### Projections -/

theorem isObject_copyField (source target : Json) (name : String) :
    (copyField source target name).isObject = target.isObject := by
  unfold copyField
  split
  · exact Json.isObject_setField ..
  · rfl

theorem field?_copyField_self (shape : target.isObject = true)
    (found : source.field? name = some value) :
    (copyField source target name).field? name = some value := by
  simp only [copyField, found]
  exact Json.field?_setField_self shape name value

theorem field?_copyField_of_ne (source target : Json) (different : name ≠ other) :
    (copyField source target name).field? other = target.field? other := by
  unfold copyField
  split
  · exact Json.field?_setField_of_ne _ _ different
  · rfl

/-- A member that is copied at one time or another is there in the end. -/
theorem field?_copyFields {names : List String} (member : name ∈ names)
    (shape : target.isObject = true) (found : source.field? name = some value) :
    (names.foldl (copyField source) target).field? name = some value := by
  -- Names copied later than the last mention of this one leave it.
  have kept : ∀ (others : List String) (before : Json), before.field? name = some value →
      (others.foldl (copyField source) before).field? name = some value := by
    intro others
    induction others with
    | nil => exact fun _ there => there
    | cons other others ih =>
      intro before there
      apply ih
      by_cases same : other = name
      · subst same
        exact field?_copyField_self (Json.isObject_of_field? there) found
      · exact (field?_copyField_of_ne source before same).trans there
  induction names generalizing target with
  | nil => contradiction
  | cons first names ih =>
    rcases List.mem_cons.mp member with rfl | later
    · exact kept names _ (field?_copyField_self shape found)
    · exact ih later ((isObject_copyField source target first).trans shape)

/-- Among the base fields of a product that its projections have is its id. -/
theorem id?_of_project? (named : Document.id? product = some id)
    (projected : project? product staged = some projection) :
    Document.id? projection = some id := by
  obtain ⟨text, found, isText⟩ := Option.bind_eq_some_iff.mp named
  unfold project? at projected
  split at projected
  · cases projected
    exact named
  · rename_i masterData _
    dsimp only at projected
    split at projected
    · contradiction
    · split at projected
      · contradiction
      · rename_i data _
        cases projected
        have shape : (if data.isObject then data else Json.object []).isObject = true := by
          split
          · assumption
          · rfl
        have based := field?_copyFields (by decide : "id" ∈ baseFields) shape found
        have kept := (Json.field?_setField_of_ne _ (.bool (isPublished masterData))
          (by decide : "published" ≠ "id")).trans based
        have there := (field?_copyField_of_ne masterData _
          (by decide : "hasStagedChanges" ≠ "id")).trans kept
        rw [Document.id?, there]
        exact isText

/-- The projections of different products are different. -/
theorem sublist_projections (staged : Bool) {products : List Json}
    (named : ∀ product ∈ products, ∃ id, Document.id? product = some id) :
    List.Sublist ((products.filterMap (project? · staged)).map Document.id?)
      (products.map Document.id?) := by
  induction products with
  | nil => exact .slnil
  | cons product products ih =>
    have rest := ih fun later member => named later (List.mem_cons_of_mem _ member)
    obtain ⟨id, here⟩ := named product List.mem_cons_self
    rw [List.filterMap_cons]
    cases projected : project? product staged with
    | none => exact rest.cons _
    | some projection =>
      rw [List.map_cons, List.map_cons, here, id?_of_project? here projected]
      exact rest.cons_cons _

theorem nodup_projections {store : Store} (sound : store.Sound) (tenant : String) (staged : Bool) :
    ((projections store tenant staged).map Document.id?).Nodup :=
  (sound.nodup_all tenant productType).sublist (sublist_projections staged fun _ => sound.all_named)

end Catalog

/-! ### Conditions without marks -/

theorem Filter.evaluate_unmarked (filter : Filter) (projection : Json) :
    filter.evaluate false projection =
      (filter.holds projection).map fun truth => (truth, projection) := by
  unfold Filter.evaluate Filter.holds
  cases filter.variantPath? with
  | none => rfl
  | some path =>
    dsimp only
    cases Variant.firstMatching projection (filter.test path) <;> rfl

/-- Whether the filter that a text is compiled to holds of a projection. -/
def Filter.evaluateText (projection : Json) (source : String) : Except Error Bool :=
  Filter.compile source >>= fun filter => filter.holds projection

theorem Query.evaluate_unmarked (query : Query) (projection : Json) :
    query.evaluate false projection =
      (query.holds projection).map fun truth => (truth, projection) := by
  unfold Query.evaluate Query.holds
  cases query.run projection <;> rfl

namespace ProjectionSearchParams

/-- Whether every filter of a search is true on a projection. -/
def accepts (params : ProjectionSearchParams) (projection : Json) : Bool :=
  (Catalog.ProjectionSearch.filters params).all fun source =>
    comesOutTrue (Filter.evaluateText projection source)

/-- All filters and clauses of a search can be read, and its evaluation fails on none of some
projections. -/
structure Answerable (params : ProjectionSearchParams) (projections : List Json) : Prop where
  filters : ∀ source ∈ Catalog.ProjectionSearch.filters params, ∃ filter, Filter.compile source = .ok filter
  clauses : Expansion.Readable params.expand
  decided : ∀ projection ∈ projections, ∃ truth,
    (Catalog.ProjectionSearch.filters params).allM (Filter.evaluateText projection) = .ok truth

end ProjectionSearchParams

namespace ProductSearchRequest

/-- Whether the query of a request is true on a projection; without one everything is found. -/
def evaluate (request : ProductSearchRequest) (projection : Json) : Except Error Bool :=
  match request.query with
  | none => .ok true
  | some query => query.holds projection

def accepts (request : ProductSearchRequest) (projection : Json) : Bool :=
  comesOutTrue (request.evaluate projection)

end ProductSearchRequest

namespace Catalog

theorem matching_eq_filter {condition : Json → Except Error (Bool × Json)} {keep : Json → Bool}
    {projections : List Json}
    (decided : ∀ projection ∈ projections,
      condition projection = .ok (keep projection, projection)) :
    matching condition projections = .ok (projections.filter keep) := by
  induction projections with
  | nil => rfl
  | cons projection projections ih =>
    have here := decided projection List.mem_cons_self
    have rest := ih fun later member => decided later (List.mem_cons_of_mem _ member)
    simp only [matching, here, rest, List.filter_cons]

theorem applyFilters_unmarked (filters : List Filter) (projection : Json) :
    applyFilters false filters projection =
      (filters.allM fun filter => Filter.holds filter projection).map fun truth =>
        (truth, projection) := by
  induction filters with
  | nil => rfl
  | cons filter filters ih =>
    rw [applyFilters, Filter.evaluate_unmarked, allM_cons]
    cases filter.holds projection with
    | error error => rfl
    | ok truth =>
      cases truth with
      | false => rfl
      | true => exact ih

theorem applyQuery_unmarked {request : ProductSearchRequest}
    (unmarked : request.markMatchingVariants = false) (projection : Json) :
    applyQuery request projection =
      (request.evaluate projection).map fun truth => (truth, projection) := by
  unfold applyQuery ProductSearchRequest.evaluate
  cases request.query with
  | none => rfl
  | some query =>
    simp only [unmarked]
    exact query.evaluate_unmarked projection

/-! ### Searches -/

variable {store : Store} {tenant : String}

theorem page_eq_slice {clauses : List String} {expanded : Json → Json}
    (expands : ∀ doc, store.expand tenant clauses doc = .ok (expanded doc))
    (offset limit : Option Nat) (found : List Json) :
    page store tenant offset limit clauses found =
      .ok (.ofList (offset.getD 0) (store.settings.effectiveLimit limit) (found.map expanded)) := by
  have results (docs : List Json) : docs.mapM (store.expand tenant clauses) =
      .ok (docs.map expanded) := mapM_eq_ok_map fun doc _ => expands doc
  unfold page
  dsimp only
  split
  · rename_i none
    subst none
    have unchanged : expanded = id := funext fun doc => (Except.ok.inj (expands doc)).symm
    rw [unchanged, List.map_id]
  · simp only [Page.ofList, results, Except.map, Page.slice_map, List.length_map]

/-- The pages of a search by filters in a lenient store. -/
theorem paged_searchProjections {params : ProjectionSearchParams} (sound : store.Sound)
    (lenient : store.settings.strictReferences = false)
    (unmarked : params.markMatchingVariants = false)
    (answerable : params.Answerable (projections store tenant params.staged)) :
    Paged store.settings (store.expand tenant params.expand)
      ((projections store tenant params.staged).filter params.accepts)
      (fun offset limit => searchProjections store tenant { params with offset, limit }) := by
  obtain ⟨filters, compiles⟩ := exists_mapM answerable.filters
  have decided : ∀ projection ∈ projections store tenant params.staged,
      applyFilters params.markMatchingVariants filters projection =
        .ok (params.accepts projection, projection) := by
    intro projection member
    obtain ⟨truth, evaluated⟩ := answerable.decided projection member
    have accepted : params.accepts projection = truth := (eq_all_of_allM evaluated).symm
    have compiled := (allM_of_mapM compiles).trans evaluated
    rw [unmarked, applyFilters_unmarked, compiled, accepted]
    rfl
  have expands := store.expand_of_lenient lenient tenant answerable.clauses
  have distinct := nodup_filter (nodup_projections sound tenant params.staged) params.accepts
  apply paged_of_slices distinct expands
  intro offset limit
  have found := matching_eq_filter decided
  have page := page_eq_slice expands offset limit
    ((projections store tenant params.staged).filter params.accepts)
  rw [searchProjections]
  simp only [ProjectionSearch.filters] at compiles ⊢
  simp only [compiles, found, page]

/-- The pages of a search by a query; nothing is expanded. -/
theorem paged_search {request : ProductSearchRequest} (sound : store.Sound)
    (unmarked : request.markMatchingVariants = false)
    (answerable : ∀ projection ∈ projections store tenant request.staged,
      ∃ truth, request.evaluate projection = .ok truth) :
    Paged store.settings (store.expand tenant [])
      ((projections store tenant request.staged).filter request.accepts)
      (fun offset limit => search store tenant { request with offset, limit }) := by
  have decided : ∀ projection ∈ projections store tenant request.staged,
      applyQuery request projection = .ok (request.accepts projection, projection) := by
    intro projection member
    obtain ⟨truth, evaluated⟩ := answerable projection member
    rw [applyQuery_unmarked unmarked, ProductSearchRequest.accepts, evaluated]
    rfl
  have expands : ∀ doc, store.expand tenant [] doc = .ok (id doc) := fun _ => rfl
  have distinct := nodup_filter (nodup_projections sound tenant request.staged) request.accepts
  apply paged_of_slices distinct expands
  intro offset limit
  have found := matching_eq_filter decided
  have page := page_eq_slice expands offset limit
    ((projections store tenant request.staged).filter request.accepts)
  have same : applyQuery { request with offset, limit } = applyQuery request := rfl
  simp only [search, same, found, page]

end Catalog

namespace Store

/-- Pages neither lose results nor repeat any. In a lenient store, whatever led to it, the pages of a
query, of a search by filters and of a search by a query are those of the documents of the collection,
or of the projections of the products, on which every condition is true, in the order of the
collection. -/
theorem pages_partition_matches (settings : Settings) (lenient : settings.strictReferences = false)
    (operations : List Operation) (tenant : String) :
    let store := (empty settings).run operations
    (∀ (typeId : String) (params : QueryParams), params.Answerable (store.all tenant typeId) →
      Paged settings (store.expand tenant params.expand)
        ((store.all tenant typeId).filter params.accepts)
        (fun offset limit => (store.query tenant typeId { params with offset, limit }).1)) ∧
    (∀ params : ProjectionSearchParams, params.markMatchingVariants = false →
      params.Answerable (Catalog.projections store tenant params.staged) →
      Paged settings (store.expand tenant params.expand)
        ((Catalog.projections store tenant params.staged).filter params.accepts)
        (fun offset limit => Catalog.searchProjections store tenant { params with offset, limit })) ∧
    (∀ request : ProductSearchRequest, request.markMatchingVariants = false →
      (∀ projection ∈ Catalog.projections store tenant request.staged,
        ∃ truth, request.evaluate projection = .ok truth) →
      Paged settings (store.expand tenant [])
        ((Catalog.projections store tenant request.staged).filter request.accepts)
        (fun offset limit => Catalog.search store tenant { request with offset, limit })) := by
  intro store
  have sound : store.Sound := run_empty_sound settings operations
  have succeeds := succeeds_run (empty settings) operations
  have faithful : store.Faithful := succeeds.faithful (faithful_empty settings)
  have same : store.settings = settings := succeeds.settings
  have passesOver : store.settings.strictReferences = false := same ▸ lenient
  refine ⟨?_, ?_, ?_⟩
  · intro typeId params answerable
    exact same ▸ paged_query sound faithful passesOver answerable
  · intro params unmarked answerable
    exact same ▸ Catalog.paged_searchProjections sound passesOver unmarked answerable
  · intro request unmarked answerable
    exact same ▸ Catalog.paged_search sound unmarked answerable

/-- Of three products of different sizes a query and a search by a filter find the last two, and page
through them. -/
theorem pages_partition_two_of_three :
    let settings : Settings := { maxLimit := 2 }
    let product (id : String) (size : Nat) := Json.object
      [("id", .string id), ("size", .ofNat size), ("version", .ofNat 1)]
    let operations := [Operation.add "shop" "product" (product "a" 1),
      .add "shop" "product" (product "b" 2), .add "shop" "product" (product "c" 3)]
    let store := (empty settings).run operations
    let params : QueryParams := { predicates := ["size > 1"] }
    let search : ProjectionSearchParams := { filter := ["size:range (2 TO *)"] }
    settings.strictReferences = false ∧
    ((store.all "shop" "product").filter params.accepts).map Document.id? = [some "b", some "c"] ∧
    ((Catalog.projections store "shop" false).filter search.accepts).map Document.id? =
      [some "b", some "c"] ∧
    Paged settings (store.expand "shop" []) ((store.all "shop" "product").filter params.accepts)
      (fun offset limit => (store.query "shop" "product" { params with offset, limit }).1) ∧
    Paged settings (store.expand "shop" [])
      ((Catalog.projections store "shop" false).filter search.accepts)
      (fun offset limit => Catalog.searchProjections store "shop" { search with offset, limit }) := by
  intro settings product operations store params search
  have pages := pages_partition_matches settings rfl operations "shop"
  have queried : params.Answerable (store.all "shop" "product") := by
    refine ⟨?_, nofun, ?_⟩
    · have compiles : ∀ source ∈ params.predicates, (Predicate.compile source).isOk = true := by
        decide +kernel
      exact fun source member => exists_of_isOk (compiles source member)
    · have decided : ∀ doc ∈ store.all "shop" "product",
          (params.predicates.allM (Predicate.evaluateText params.bindings doc)).isOk = true := by
        decide +kernel
      exact fun doc member => exists_of_isOk (decided doc member)
  have searched : search.Answerable (Catalog.projections store "shop" false) := by
    refine ⟨?_, nofun, ?_⟩
    · have compiles : ∀ source ∈ Catalog.ProjectionSearch.filters search,
          (Filter.compile source).isOk = true := by
        decide +kernel
      exact fun source member => exists_of_isOk (compiles source member)
    · have decided : ∀ projection ∈ Catalog.projections store "shop" false,
          ((Catalog.ProjectionSearch.filters search).allM (Filter.evaluateText projection)).isOk =
            true := by
        decide +kernel
      exact fun projection member => exists_of_isOk (decided projection member)
  refine ⟨rfl, ?_, ?_, ?_, ?_⟩
  · decide +kernel
  · decide +kernel
  · exact pages.1 "product" params queried
  · exact pages.2.1 search rfl searched

end Store
end Storefront
