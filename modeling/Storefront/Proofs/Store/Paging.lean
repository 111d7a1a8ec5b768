import Storefront.Proofs.Store.Expansion
import Storefront.Proofs.Store.Isolation

/-! Pages of a query. The documents that are selected do not depend on the page asked for, a page is a
stretch of them in expanded form, and pages of one size laid one after another are all of them. -/
namespace Storefront

theorem mapM_eq_ok_map {step : α → Except Error β} {change : α → β} {items : List α}
    (steps : ∀ item ∈ items, step item = .ok (change item)) :
    items.mapM step = .ok (items.map change) := by
  induction items with
  | nil => rfl
  | cons item items ih =>
    have here := steps item List.mem_cons_self
    have rest := ih fun later member => steps later (List.mem_cons_of_mem _ member)
    rw [List.mapM_cons, here, rest]
    rfl

/-! ### Conditions -/

/-- Whether an evaluation succeeds and its answer is true. -/
def comesOutTrue : Except Error Bool → Bool
  | .ok truth => truth
  | .error _ => false

theorem allM_cons (test : α → Except Error Bool) (item : α) (items : List α) :
    (item :: items).allM test =
      match test item with
      | .error error => .error error
      | .ok true => items.allM test
      | .ok false => .ok false := by
  simp only [List.allM]
  cases test item with
  | error error => rfl
  | ok truth => cases truth <;> rfl

/-- Tests that do not fail together are true together exactly if each of them is. -/
theorem eq_all_of_allM {test : α → Except Error Bool} {items : List α}
    (decided : items.allM test = .ok truth) : truth = items.all fun item => comesOutTrue (test item) := by
  induction items with
  | nil =>
    cases decided
    rfl
  | cons item items ih =>
    rw [allM_cons] at decided
    cases here : test item with
    | error error => simp [here] at decided
    | ok holds =>
      cases holds with
      | false =>
        simp only [here, Except.ok.injEq] at decided
        simp [← decided, here, comesOutTrue]
      | true =>
        simp only [here] at decided
        simp [ih decided, here, comesOutTrue]

/-- Reading all texts and then testing is reading and testing one text after the other. -/
theorem allM_of_mapM {read : α → Except Error β} {test : β → Except Error Bool} {items : List α}
    (readAll : items.mapM read = .ok results) :
    results.allM test = items.allM fun item => read item >>= test := by
  have each := Expansion.forall₂_of_mapM_ok readAll
  clear readAll
  induction each with
  | nil => rfl
  | cons here _ ih =>
    rw [allM_cons, allM_cons, here, ih]
    rfl

theorem exists_mapM {read : α → Except Error β} {items : List α}
    (readable : ∀ item ∈ items, ∃ result, read item = .ok result) :
    ∃ results, items.mapM read = .ok results := by
  induction items with
  | nil => exact ⟨[], rfl⟩
  | cons item items ih =>
    obtain ⟨result, here⟩ := readable item List.mem_cons_self
    obtain ⟨results, rest⟩ := ih fun later member => readable later (List.mem_cons_of_mem _ member)
    refine ⟨result :: results, ?_⟩
    rw [List.mapM_cons, here, rest]
    rfl

/-! ### Pages -/

namespace Page

theorem slice_map (change : α → β) (offset limit : Nat) (all : List α) :
    slice offset limit (all.map change) = (slice offset limit all).map change := by
  rw [slice, slice, ← List.map_drop, ← List.map_take]

theorem length_slice (offset limit : Nat) (all : List α) :
    (slice offset limit all).length = min limit (all.length - offset) := by
  rw [slice, List.length_take, List.length_drop]

/-- Stretches of one size, one after another, are the list up to the end of the last of them. -/
theorem flatMap_slice (size number : Nat) (all : List α) :
    (List.range number).flatMap (fun index => slice (index * size) size all) =
      all.take (number * size) := by
  induction number with
  | zero => simp
  | succ number ih =>
    rw [List.range_succ, List.flatMap_append, ih, Nat.succ_mul, List.take_add]
    simp [slice]

end Page

/-- The answers for the pages of some results, as `offset` and `limit` ask for them: the documents
that match are different ones; a page tells how many there are and has those of its stretch in
expanded form; and pages of one size that reach to the end are together all of them, in order. -/
structure Paged (settings : Settings) (expand : Json → Except Error Json) (matching : List Json)
    (answer : Option Nat → Option Nat → Except Error Page) : Prop where
  distinct : (matching.map Document.id?).Nodup
  each : ∀ offset limit, ∃ page, answer offset limit = .ok page ∧
    page.total = matching.length ∧ page.offset = offset.getD 0 ∧
    page.limit = min (limit.getD settings.defaultLimit) settings.maxLimit ∧
    page.count = page.results.length ∧
    page.results.length = min page.limit (page.total - page.offset) ∧
    (Page.slice page.offset page.limit matching).mapM expand = .ok page.results
  together : ∀ size number, size ≤ settings.maxLimit → matching.length ≤ number * size →
    ∃ pages, (List.range number).mapM (fun index => answer (some (index * size)) (some size)) =
      .ok pages ∧ matching.mapM expand = .ok (pages.flatMap (·.results))

/-- Answers that are stretches of the expanded documents are pages of them. -/
theorem paged_of_slices {settings : Settings} {expand : Json → Except Error Json}
    {expanded : Json → Json} {matching : List Json} {answer : Option Nat → Option Nat → Except Error Page}
    (distinct : (matching.map Document.id?).Nodup)
    (expands : ∀ doc, expand doc = .ok (expanded doc))
    (answers : ∀ offset limit, answer offset limit =
      .ok (.ofList (offset.getD 0) (settings.effectiveLimit limit) (matching.map expanded))) :
    Paged settings expand matching answer := by
  have expandsAll (docs : List Json) : docs.mapM expand = .ok (docs.map expanded) :=
    mapM_eq_ok_map fun doc _ => expands doc
  refine ⟨distinct, ?_, ?_⟩
  · intro offset limit
    refine ⟨_, answers offset limit, ?_, rfl, rfl, rfl, ?_, ?_⟩
    · exact List.length_map expanded
    · exact Page.length_slice ..
    · rw [expandsAll, ← Page.slice_map]
      rfl
  · intro size number fits enough
    let page (index : Nat) := Page.ofList (index * size) size (matching.map expanded)
    have limit : settings.effectiveLimit (some size) = size := Nat.min_eq_left fits
    have pages : (List.range number).mapM (fun index => answer (some (index * size)) (some size)) =
        .ok ((List.range number).map page) := by
      apply mapM_eq_ok_map
      intro index _
      rw [answers, limit]
      rfl
    have all : ((List.range number).map page).flatMap (·.results) = matching.map expanded := by
      rw [List.flatMap_map]
      apply (Page.flatMap_slice size number (matching.map expanded)).trans
      apply List.take_of_length_le
      rwa [List.length_map]
    exact ⟨_, pages, all ▸ expandsAll matching⟩

/-! ### Different documents -/

/-- Documents are listed by their ids. -/
theorem Collection.Sound.map_id?_toList {collection : Collection} (sound : collection.Sound) :
    collection.toList.map Document.id? = collection.order.map some := by
  have listed : ∀ id ∈ collection.order, ∃ doc, collection.get? id = some doc := fun id member =>
    Option.isSome_iff_exists.mp (sound.consistent.mem_order_iff_isSome.mp member)
  have named : ∀ {id doc}, collection.get? id = some doc → Document.id? doc = some id :=
    fun found => (sound.of_get? found).named
  unfold Collection.toList
  generalize collection.order = ids at listed ⊢
  induction ids with
  | nil => rfl
  | cons id ids ih =>
    obtain ⟨doc, found⟩ := listed id List.mem_cons_self
    have rest := ih fun later member => listed later (List.mem_cons_of_mem _ member)
    rw [List.filterMap_cons_some found, List.map_cons, List.map_cons, named found, rest]

namespace Store

variable {store : Store} {tenant typeId : String} {params : QueryParams}

theorem Sound.all_named (sound : store.Sound) {doc : Json} (member : doc ∈ store.all tenant typeId) :
    ∃ id, Document.id? doc = some id := by
  rw [all_eq_toList] at member
  obtain ⟨id, _, present⟩ := List.mem_filterMap.mp member
  rw [contents, ← stored?_eq_get?] at present
  exact ⟨id, (sound.of_stored? present).named⟩

theorem Sound.nodup_all (sound : store.Sound) (tenant typeId : String) :
    ((store.all tenant typeId).map Document.id?).Nodup := by
  rw [all_eq_toList, contents]
  cases there : store.collection? tenant typeId with
  | none => exact List.nodup_nil
  | some collection =>
    have soundHere := sound tenant typeId collection there
    rw [Option.getD_some, soundHere.map_id?_toList]
    apply List.pairwise_map.mpr
    exact soundHere.consistent.nodup.imp fun different same => different (Option.some.inj same)

end Store

theorem nodup_filter {docs : List Json} (distinct : (docs.map Document.id?).Nodup)
    (keep : Json → Bool) : ((docs.filter keep).map Document.id?).Nodup :=
  distinct.sublist (List.filter_sublist.map Document.id?)

/-! ### Queries -/

/-- Whether the predicate that a text is compiled to holds of a document. -/
def Predicate.evaluateText (vars : Variables) (doc : Json) (source : String) : Except Error Bool :=
  Predicate.compile source >>= fun predicate => predicate.matchesWith vars doc

namespace QueryParams

/-- Whether every predicate of a query is true on a document. -/
def accepts (params : QueryParams) (doc : Json) : Bool :=
  params.predicates.all fun source => comesOutTrue (Predicate.evaluateText params.bindings doc source)

/-- All predicates and clauses of a query can be read, and its evaluation fails on none of some
documents. -/
structure Answerable (params : QueryParams) (docs : List Json) : Prop where
  predicates : ∀ source ∈ params.predicates, ∃ predicate, Predicate.compile source = .ok predicate
  clauses : Expansion.Readable params.expand
  decided : ∀ doc ∈ docs, ∃ truth,
    params.predicates.allM (Predicate.evaluateText params.bindings doc) = .ok truth

end QueryParams

namespace Store

variable {store : Store} {tenant typeId : String} {params : QueryParams}

theorem filterDocs_eq_filter {condition : Json → Except Error Bool} {keep : Json → Bool}
    {docs : List Json} (decided : ∀ doc ∈ docs, condition doc = .ok (keep doc)) :
    filterDocs condition docs = .ok (docs.filter keep) := by
  induction docs with
  | nil => rfl
  | cons doc docs ih =>
    have here := decided doc List.mem_cons_self
    have rest := ih fun later member => decided later (List.mem_cons_of_mem _ member)
    simp only [filterDocs, here, rest, List.filter_cons]

/-- A query is answered by the store as it is; what it compiles and keeps does not matter. -/
theorem Faithful.query {compiled : List Predicate} (faithful : store.Faithful)
    (tenant typeId : String) (params : QueryParams)
    (compiles : params.predicates.mapM Predicate.compile = .ok compiled) :
    (store.query tenant typeId params).1 = store.select tenant typeId params compiled := by
  have answer := faithful.compileAll params.predicates
  have settings := (succeeds_compileAll store params.predicates).settings
  have tenants := compileAll_tenants store params.predicates
  rw [compiles] at answer
  unfold Store.query
  rcases outcome : store.compileAll params.predicates with ⟨found, after⟩
  rw [outcome] at answer settings tenants
  obtain rfl : found = .ok compiled := answer
  have alike : Alike tenant after store := by
    refine ⟨settings, fun other => ?_⟩
    change after.tenants = store.tenants at tenants
    simp only [contents, collection?, tenants]
  exact alike.select typeId params compiled

theorem select_eq_slice {compiled : List Predicate} {expanded : Json → Json} {keep : Json → Bool}
    (expands : ∀ doc, store.expand tenant params.expand doc = .ok (expanded doc))
    (decided : ∀ doc ∈ store.all tenant typeId,
      compiled.allM (·.matchesWith params.bindings doc) = .ok (keep doc)) :
    store.select tenant typeId params compiled =
      .ok (.ofList (params.offset.getD 0) (store.settings.effectiveLimit params.limit)
        (((store.all tenant typeId).filter keep).map expanded)) := by
  have matching := filterDocs_eq_filter decided
  have results (docs : List Json) : docs.mapM (store.expand tenant params.expand) =
      .ok (docs.map expanded) := mapM_eq_ok_map fun doc _ => expands doc
  simp only [select, matching, results, Page.ofList, Page.slice_map, List.length_map]

/-- The pages of a query over a lenient store. -/
theorem paged_query (sound : store.Sound) (faithful : store.Faithful)
    (lenient : store.settings.strictReferences = false)
    (answerable : params.Answerable (store.all tenant typeId)) :
    Paged store.settings (store.expand tenant params.expand)
      ((store.all tenant typeId).filter params.accepts)
      (fun offset limit => (store.query tenant typeId { params with offset, limit }).1) := by
  obtain ⟨compiled, compiles⟩ := exists_mapM answerable.predicates
  have decided : ∀ doc ∈ store.all tenant typeId,
      compiled.allM (·.matchesWith params.bindings doc) = .ok (params.accepts doc) := by
    intro doc member
    obtain ⟨truth, evaluated⟩ := answerable.decided doc member
    rw [QueryParams.accepts, ← eq_all_of_allM evaluated, ← evaluated]
    exact allM_of_mapM compiles
  have expands := expand_of_lenient lenient tenant answerable.clauses
  apply paged_of_slices (nodup_filter (sound.nodup_all tenant typeId) params.accepts) expands
  intro offset limit
  let asked : QueryParams := { params with offset, limit }
  have answer := faithful.query tenant typeId asked compiles
  exact answer.trans (select_eq_slice expands decided)

end Store
end Storefront
