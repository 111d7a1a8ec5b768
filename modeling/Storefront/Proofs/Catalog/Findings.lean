import Storefront.Proofs.Catalog.MarkedExpansion
import Storefront.Proofs.Catalog.Paging
import Storefront.Proofs.Expansion.Divergence

/-! What a search finds with marks and without. Marks do not change a page to the eye of a client that
looks at the total, the count and the ids, if neither a later filter nor an expansion reads them. Where
expansion cannot fail, they change no page exactly if they change no verdict of the filters. -/
namespace Storefront

/-- What a page says about what was found: the total, the count and the ids in order. -/
def Page.found (page : Page) : Nat × Nat × List (Option String) :=
  (page.total, page.count, page.results.map Document.id?)

/-- Lists that have the same stretches of one element are the same. -/
theorem Page.eq_of_slices {α : Type} {one other : List α}
    (same : ∀ offset, Page.slice offset 1 one = Page.slice offset 1 other) : one = other := by
  refine List.ext_getElem? fun position => ?_
  have here := congrArg List.head? (same position)
  simpa only [Page.slice, List.head?_take, List.head?_drop, one_ne_zero, if_false] using here

namespace Expansion

/-- An expansion keeps the id of a document. -/
theorem id?_of_expand {around : Surroundings} {clauses : List String} {doc result : Json} {id : String}
    (named : Document.id? doc = some id) (expanded : expand around clauses doc = .ok result) :
    Document.id? result = some id :=
  at?_id_iff.mp ((grown_expand expanded).texts _ _ (at?_id_iff.mpr named))

end Expansion

/-! ### Marks keep products -/

open Variant (SameProduct AvoidMarks)

theorem Filter.sameProduct_of_evaluate {filter : Filter} {marking verdict : Bool}
    {first second marked : Json} (same : SameProduct first second)
    (judged : filter.evaluate marking second = .ok (verdict, marked)) : SameProduct first marked := by
  unfold Filter.evaluate at judged
  split at judged
  · obtain ⟨truth, -, same'⟩ := Expansion.map_eq_ok_iff.mp judged
    cases same'
    exact same
  · split at judged
    · contradiction
    · cases judged
      split
      · exact same.markMatching _
      · exact same

namespace Catalog

/-- The filters of a search leave a product the same but for the marks, whatever their verdict. -/
theorem sameProduct_of_applyFilters {filters : List Filter} {marking verdict : Bool}
    {first second marked : Json} (same : SameProduct first second)
    (judged : applyFilters marking filters second = .ok (verdict, marked)) :
    SameProduct first marked := by
  induction filters generalizing second with
  | nil =>
    cases judged
    exact same
  | cons filter filters ih =>
    rw [applyFilters] at judged
    split at judged
    · contradiction
    · rename_i here
      cases judged
      exact filter.sameProduct_of_evaluate same here
    · rename_i here
      exact ih (filter.sameProduct_of_evaluate same here) judged

/-! ### Pages alike -/

variable {store : Store} {tenant : String} {params : ProjectionSearchParams}

theorem named_projections (sound : store.Sound) {staged : Bool} {projection : Json}
    (member : projection ∈ projections store tenant staged) :
    ∃ id, Document.id? projection = some id := by
  obtain ⟨product, stored, projected⟩ := List.mem_filterMap.mp member
  obtain ⟨id, named⟩ := sound.all_named stored
  exact ⟨id, id?_of_project? named projected⟩

/-- The same product twice, as a projection that has an id and as one with marks. -/
def Twins (first second : Json) : Prop :=
  SameProduct first second ∧ ∃ id, Document.id? first = some id

theorem alike_matching {one other : Json → Except Error (Bool × Json)} {projections : List Json}
    (named : ∀ projection ∈ projections, ∃ id, Document.id? projection = some id)
    (judge : ∀ projection, (∃ error, one projection = .error error ∧ other projection = .error error) ∨
      ∃ verdict marked, one projection = .ok (verdict, projection) ∧
        other projection = .ok (verdict, marked) ∧ SameProduct projection marked) :
    Alike (List.Forall₂ Twins) (matching one projections) (matching other projections) := by
  induction projections with
  | nil => exact .nil
  | cons projection projections ih =>
    obtain ⟨namedHere, namedLater⟩ := List.forall_mem_cons.mp named
    have rest := ih namedLater
    simp only [matching]
    rcases judge projection with ⟨error, failed, failed'⟩ | ⟨verdict, marked, judged, judged', same⟩
    · rw [failed, failed']
      exact rfl
    · rw [judged, judged']
      dsimp only
      rcases rest.cases with ⟨error, failed, failed'⟩ | ⟨found, found', kept, kept', twins⟩
      · rw [failed, failed']
        exact rfl
      · rw [kept, kept']
        cases verdict with
        | true => exact .cons ⟨same, namedHere⟩ twins
        | false => exact twins

/-- The expansions of twins fail alike, or their ids are the same. -/
theorem alike_expand_twins {around : Expansion.Surroundings} {clauses : List String}
    (unmarked : around.strict = false ∨ AvoidMarks clauses) {first second : Json}
    (twins : Twins first second) :
    Alike (fun one other => Document.id? one = Document.id? other)
      (Expansion.expand around clauses first) (Expansion.expand around clauses second) := by
  obtain ⟨same, id, named⟩ := twins
  rcases unmarked with lenient | avoid
  · have alike : Alike _ (Expansion.expand around clauses first)
        (Expansion.expand around clauses second) := Variant.alike_expand_of_lenient lenient clauses
    rcases alike.cases with ⟨error, failed, failed'⟩ | ⟨one, other, expanded, expanded', -⟩
    · rw [failed, failed']
      exact rfl
    · rw [expanded, expanded']
      exact (Expansion.id?_of_expand named expanded).trans
        (Expansion.id?_of_expand (same.id?.symm.trans named) expanded').symm
  · exact (Variant.alike_expand avoid same).mono fun _ _ => SameProduct.id?

/-- What a page says is read off the expansions of its stretch. -/
theorem found_page (offset limit : Option Nat) (clauses : List String) (found : List Json) :
    let stretch := Page.slice (offset.getD 0) (store.settings.effectiveLimit limit) found
    (page store tenant offset limit clauses found).map Page.found =
      (stretch.mapM (store.expand tenant clauses)).map fun results =>
        (found.length, stretch.length, results.map Document.id?) := by
  intro stretch
  unfold page
  split
  · rename_i none
    have unchanged : stretch.mapM (store.expand tenant clauses) = .ok (stretch.map id) :=
      mapM_eq_ok_map fun doc _ => none ▸ rfl
    rw [unchanged, List.map_id]
    rfl
  · dsimp only [Page.ofList]
    cases stretch.mapM (store.expand tenant clauses) <;> rfl

theorem found_page_of_twins {clauses : List String} {firsts seconds : List Json}
    (unmarked : store.settings.strictReferences = false ∨ AvoidMarks clauses)
    (twins : List.Forall₂ Twins firsts seconds) (offset limit : Option Nat) :
    (page store tenant offset limit clauses firsts).map Page.found =
      (page store tenant offset limit clauses seconds).map Page.found := by
  have stretch := List.forall₂_take (store.settings.effectiveLimit limit)
    (List.forall₂_drop (offset.getD 0) twins)
  have expands := alike_mapM stretch fun _ _ twins =>
    @alike_expand_twins (store.surroundings tenant) clauses unmarked _ _ twins
  rw [found_page, found_page]
  refine alike_iff_map_eq.mp (expands.mono fun one other same => ?_)
  rw [← List.forall₂_map_right_iff, ← List.forall₂_map_left_iff, List.forall₂_eq_eq_eq] at same
  rw [twins.length_eq, Page.slice, Page.slice, stretch.length_eq, same]

/-! ### Verdicts -/

/-- The items at whose places the verdict is true. -/
def kept {α : Type} : List Bool → List α → List α
  | verdict :: verdicts, item :: items =>
    if verdict then item :: kept verdicts items else kept verdicts items
  | _, _ => []

theorem mem_of_mem_kept {α : Type} {verdicts : List Bool} {items : List α} {item : α}
    (member : item ∈ kept verdicts items) : item ∈ items := by
  fun_induction kept verdicts items with
  | case1 verdicts first items ih =>
    rcases List.mem_cons.mp member with rfl | later
    · exact List.mem_cons_self
    · exact List.mem_cons_of_mem _ (ih later)
  | case2 verdict verdicts first items _ ih => exact List.mem_cons_of_mem _ (ih member)
  | case3 => contradiction

/-- Which of some different items are kept tells the verdicts. -/
theorem kept_injective {α : Type} {items : List α} (distinct : items.Nodup) {one other : List Bool}
    (length : one.length = items.length) (length' : other.length = items.length)
    (same : kept one items = kept other items) : one = other := by
  induction items generalizing one other with
  | nil => rw [List.length_eq_zero_iff.mp length, List.length_eq_zero_iff.mp length']
  | cons item items ih =>
    obtain ⟨new, distinct⟩ := List.nodup_cons.mp distinct
    obtain ⟨verdict, one, rfl⟩ := List.exists_cons_of_length_eq_add_one length
    obtain ⟨verdict', other, rfl⟩ := List.exists_cons_of_length_eq_add_one length'
    have rest := ih distinct (Nat.succ.inj length) (Nat.succ.inj length')
    cases verdict <;> cases verdict'
    · rw [rest same]
    · have member : item ∈ kept one items := (same : kept one items = _) ▸ List.mem_cons_self
      exact absurd (mem_of_mem_kept member) new
    · have member : item ∈ kept other items := (same : _ = kept other items) ▸ List.mem_cons_self
      exact absurd (mem_of_mem_kept member) new
    · rw [rest (List.cons.inj same).2]

theorem plain_of_mapM {sources : List String} {filters : List Filter}
    (compiled : sources.mapM Filter.compile = .ok filters) :
    ∀ filter ∈ filters, filter.condition.Plain := by
  have pairs := (Expansion.forall₂_of_mapM_ok compiled).flip.imp fun filter source compiled =>
    (⟨Filter.plain_of_compile compiled, trivial⟩ : filter.condition.Plain ∧ True)
  exact ((List.forall₂_and_left _ _).mp pairs).1

/-- The verdicts of filters on some projections, up to the first failure. -/
def verdicts (marking : Bool) (filters : List Filter) (projections : List Json) :
    Except Error (List Bool) :=
  projections.mapM fun projection => (applyFilters marking filters projection).map Prod.fst

theorem verdicts_cons (marking : Bool) (filters : List Filter) (projection : Json)
    (projections : List Json) :
    verdicts marking filters (projection :: projections) =
      match applyFilters marking filters projection with
      | .error error => .error error
      | .ok (verdict, _) => (verdicts marking filters projections).map (verdict :: ·) := by
  rw [verdicts, List.mapM_cons]
  cases applyFilters marking filters projection with
  | error error => rfl
  | ok judgement =>
    change verdicts marking filters projections >>= _ = _
    cases verdicts marking filters projections <;> rfl

/-- Which ids are found depends on the verdicts only. -/
theorem ids_matching (marking : Bool) (filters : List Filter) (projections : List Json) :
    (matching (applyFilters marking filters) projections).map (List.map Document.id?) =
      (verdicts marking filters projections).map (kept · (projections.map Document.id?)) := by
  induction projections with
  | nil => rfl
  | cons projection projections ih =>
    rw [verdicts_cons, matching]
    cases judged : applyFilters marking filters projection with
    | error error => rfl
    | ok judgement =>
      obtain ⟨verdict, marked⟩ := judgement
      have same : Document.id? marked = Document.id? projection :=
        (sameProduct_of_applyFilters (.refl projection) judged).id?.symm
      dsimp only
      rcases (alike_iff_map_eq.mpr ih).cases with
        ⟨error, failed, failed'⟩ | ⟨found, given, finds, judges, rest⟩
      · rw [failed, failed']
        rfl
      · rw [finds, judges]
        cases verdict with
        | true => exact congrArg Except.ok (congrArg₂ List.cons same rest)
        | false => exact congrArg Except.ok rest

/-! ### Searches -/

/-- What the pages of a search with marks or without say. -/
def observed (store : Store) (tenant : String) (params : ProjectionSearchParams) (marking : Bool)
    (offset limit : Option Nat) : Except Error (Nat × Nat × List (Option String)) :=
  (searchProjections store tenant { params with markMatchingVariants := marking, offset, limit }).map
    Page.found

theorem observed_eq (compiled : (ProjectionSearch.filters params).mapM Filter.compile = .ok filters)
    (marking : Bool) (offset limit : Option Nat) :
    observed store tenant params marking offset limit =
      (matching (applyFilters marking filters) (projections store tenant params.staged)).bind
        fun found => (page store tenant offset limit params.expand found).map Page.found := by
  rw [observed, searchProjections]
  simp only [ProjectionSearch.filters] at compiled ⊢
  simp only [compiled]
  cases matching (applyFilters marking filters) (projections store tenant params.staged) <;> rfl

theorem observed_of_uncompiled
    (failed : (ProjectionSearch.filters params).mapM Filter.compile = .error error) (marking : Bool)
    (offset limit : Option Nat) :
    observed store tenant params marking offset limit = .error error := by
  rw [observed, searchProjections]
  simp only [ProjectionSearch.filters] at failed ⊢
  rw [failed]
  rfl

/-- Without strict references what pages say depends on the verdicts only. -/
theorem observed_of_lenient (sound : store.Sound) (lenient : store.settings.strictReferences = false)
    (readable : Expansion.Readable params.expand)
    (compiled : (ProjectionSearch.filters params).mapM Filter.compile = .ok filters)
    (marking : Bool) (offset limit : Option Nat) :
    let projections := projections store tenant params.staged
    observed store tenant params marking offset limit =
      (verdicts marking filters projections).map fun verdicts =>
        let ids := kept verdicts (projections.map Document.id?)
        let stretch := Page.slice (offset.getD 0) (store.settings.effectiveLimit limit) ids
        (ids.length, stretch.length, stretch) := by
  intro projections
  have alike := alike_iff_map_eq.mpr (ids_matching marking filters projections)
  rw [observed_eq compiled]
  rcases alike.cases with ⟨error, failed, failed'⟩ | ⟨found, verdicts, finds, judges, ids⟩
  · rw [failed, failed']
    rfl
  · rw [finds, judges]
    have named : ∀ doc ∈ found, ∃ id, Document.id? doc = some id := by
      intro doc member
      have among := mem_of_mem_kept (ids ▸ List.mem_map_of_mem member)
      obtain ⟨projection, member, same⟩ := List.mem_map.mp among
      exact same ▸ named_projections sound member
    have expands (doc : Json) := store.expand_of_lenient lenient tenant readable doc
    have keeps : ∀ doc ∈ found, Document.id? (Expansion.fillAll (store.surroundings tenant)
        (Expansion.clausesOf params.expand) doc) = Document.id? doc := by
      intro doc member
      obtain ⟨id, named⟩ := named doc member
      exact (Expansion.id?_of_expand named (expands doc)).trans named.symm
    change (page store tenant offset limit params.expand found).map Page.found = _
    rw [found_page, mapM_eq_ok_map fun doc _ => expands doc]
    simp only [Except.map, ← ids, List.length_map, Page.slice_map, List.map_map]
    have kept : ∀ doc ∈ Page.slice (offset.getD 0) (store.settings.effectiveLimit limit) found,
        (Document.id? ∘ Expansion.fillAll (store.surroundings tenant)
          (Expansion.clausesOf params.expand)) doc = Document.id? doc :=
      fun doc member => keeps doc (List.mem_of_mem_drop (List.mem_of_mem_take member))
    rw [List.map_congr_left kept]

/-- If no mark is read, pages say the same with marks and without. -/
theorem observed_of_unread (sound : store.Sound)
    (unread : ∀ filters, (ProjectionSearch.filters params).mapM Filter.compile = .ok filters →
      MarksUnread filters)
    (unmarked : store.settings.strictReferences = false ∨ AvoidMarks params.expand)
    (offset limit : Option Nat) :
    observed store tenant params true offset limit =
      observed store tenant params false offset limit := by
  cases compiles : (ProjectionSearch.filters params).mapM Filter.compile with
  | error error => rw [observed_of_uncompiled compiles, observed_of_uncompiled compiles]
  | ok filters =>
    have named : ∀ projection ∈ projections store tenant params.staged,
        ∃ id, Document.id? projection = some id := fun _ => named_projections sound
    have alike := alike_matching named fun _ =>
      applyFilters_congr (plain_of_mapM compiles) (unread filters compiles)
    rw [observed_eq compiles, observed_eq compiles]
    refine (alike_eq_iff.mp (alike.bind fun found found' twins => alike_eq_iff.mpr ?_)).symm
    exact found_page_of_twins unmarked twins offset limit

/-- The pages of one result each tell the verdicts, as projections have different ids. -/
theorem verdicts_of_observed (sound : store.Sound) (positive : 0 < store.settings.maxLimit)
    (lenient : store.settings.strictReferences = false)
    (readable : Expansion.Readable params.expand)
    (compiled : (ProjectionSearch.filters params).mapM Filter.compile = .ok filters)
    (alike : ∀ offset limit, observed store tenant params true offset limit =
      observed store tenant params false offset limit) :
    verdicts true filters (projections store tenant params.staged) =
      verdicts false filters (projections store tenant params.staged) := by
  have distinct := nodup_projections sound tenant params.staged
  simp only [observed_of_lenient sound lenient readable compiled] at alike
  generalize projections store tenant params.staged = projections at alike distinct ⊢
  cases marked : verdicts true filters projections <;>
    cases unmarked : verdicts false filters projections <;> simp only [marked, unmarked] at alike
  · exact congrArg Except.error (Except.error.inj (alike none none))
  · cases alike none none
  · cases alike none none
  · rename_i one other
    have single : store.settings.effectiveLimit (some 1) = 1 := by
      rw [Settings.effectiveLimit, Option.getD_some]
      omega
    have ids : kept one (projections.map Document.id?) =
        kept other (projections.map Document.id?) := by
      refine Page.eq_of_slices fun offset => ?_
      have here := Except.ok.inj (alike (some offset) (some 1))
      simp only [single, Option.getD_some, Prod.mk.injEq] at here
      exact here.2.2
    have length {marking given} (judged : verdicts marking filters projections = .ok given) :
        given.length = (projections.map Document.id?).length := by
      rw [List.length_map, (Expansion.forall₂_of_mapM_ok judged).length_eq]
    rw [kept_injective distinct (length marked) (length unmarked) ids]

end Catalog

namespace Store
open Catalog (observed verdicts MarksUnread)

/-- Marking changes nothing that the pages of a search say, if no filter that reads the mark stands
behind one that leaves it and no expansion that could fail steps onto the mark. Without strict
references it changes nothing exactly if it changes no verdict of the filters. -/
theorem marking_unseen_unless_read (settings : Settings) (operations : List Operation)
    (tenant : String) (params : ProjectionSearchParams) :
    let store := (empty settings).run operations
    let projections := Catalog.projections store tenant params.staged
    let compiled := (Catalog.ProjectionSearch.filters params).mapM Filter.compile
    ((∀ filters, compiled = .ok filters → MarksUnread filters) →
      (settings.strictReferences = false ∨ AvoidMarks params.expand) →
      ∀ offset limit, observed store tenant params true offset limit =
        observed store tenant params false offset limit) ∧
    (0 < settings.maxLimit → settings.strictReferences = false → Expansion.Readable params.expand →
      ((∀ offset limit, observed store tenant params true offset limit =
          observed store tenant params false offset limit) ↔
        ∀ filters, compiled = .ok filters →
          verdicts true filters projections = verdicts false filters projections)) := by
  intro store projections compiled
  have sound : store.Sound := run_empty_sound settings operations
  have same : store.settings = settings := (succeeds_run (empty settings) operations).settings
  refine ⟨?_, fun positive lenient readable => ⟨?_, ?_⟩⟩
  · intro unread unmarked
    exact Catalog.observed_of_unread sound unread (same ▸ unmarked)
  · intro alike filters compiles
    exact Catalog.verdicts_of_observed sound (same ▸ positive) (same ▸ lenient) readable compiles
      alike
  · intro agree offset limit
    cases compiles : compiled with
    | error error =>
      rw [Catalog.observed_of_uncompiled compiles, Catalog.observed_of_uncompiled compiles]
    | ok filters =>
      rw [Catalog.observed_of_lenient sound (same ▸ lenient) readable compiles,
        Catalog.observed_of_lenient sound (same ▸ lenient) readable compiles, agree filters compiles]

/-- A product whose second variant alone has a stock number. -/
def stockedProduct : Json :=
  .object [("id", .string "p"), ("masterVariant", .object []),
    ("variants", .array [.object [("sku", .string "a")]]), ("version", .ofNat 1)]

/-- A filter that asks for a stock number finds a product with marks as without, on whatever page. -/
theorem marking_unseen_by_stock_number :
    let settings : Settings := {}
    let store := (empty settings).run [.add "shop" "product" stockedProduct]
    let params : ProjectionSearchParams := { filter := ["variants.sku:exists"] }
    let compiled := (Catalog.ProjectionSearch.filters params).mapM Filter.compile
    (∃ filters, compiled = .ok filters) ∧
    (∀ filters, compiled = .ok filters → MarksUnread filters) ∧
    0 < settings.maxLimit ∧ settings.strictReferences = false ∧ Expansion.Readable params.expand ∧
    observed store "shop" params true none none = .ok (1, 1, [some "p"]) ∧
    (∀ offset limit, observed store "shop" params true offset limit =
      observed store "shop" params false offset limit) ∧
    ∀ filters, compiled = .ok filters →
      verdicts true filters (Catalog.projections store "shop" params.staged) =
        verdicts false filters (Catalog.projections store "shop" params.staged) := by
  intro settings store params compiled
  have unread : ∀ filters, compiled = .ok filters → MarksUnread filters := by
    intro filters compiles
    have single : filters.length = 1 := (Expansion.forall₂_of_mapM_ok compiles).length_eq.symm
    obtain ⟨filter, rfl⟩ := List.length_eq_one_iff.mp single
    exact List.pairwise_singleton _ _
  have compiles : compiled.isOk = true := by decide +kernel
  have readable : Expansion.Readable params.expand := nofun
  have unseen := marking_unseen_unless_read settings [.add "shop" "product" stockedProduct] "shop"
    params
  have alike := unseen.1 unread (.inl rfl)
  refine ⟨exists_of_isOk compiles, unread, by decide, rfl, readable, ?_, alike, ?_⟩
  · decide +kernel
  · exact (unseen.2 (by decide) rfl readable).mp alike

/-- A later filter sees the mark that an earlier one has left: what is not found without marks is found
with them. -/
theorem marking_seen_by_later_filter :
    let store := (empty {}).run [.add "shop" "product" stockedProduct]
    let params : ProjectionSearchParams :=
      { filter := ["variants.sku:exists", "variants.isMatchingVariant:true"] }
    observed store "shop" params false none none = .ok (0, 0, []) ∧
    observed store "shop" params true none none = .ok (1, 1, [some "p"]) := by
  decide +kernel

-- A mark in the place of a reference that refers to nothing lets a strict expansion pass it over.
example :
    let reference := Json.object [("id", .string "x"), ("typeId", .string "category")]
    let master := Json.object [("isMatchingVariant", reference), ("sku", .string "a")]
    let product := Json.object [("id", .string "p"), ("masterVariant", master), ("version", .ofNat 1)]
    let store := (empty { strictReferences := true }).run [.add "shop" "product" product]
    let params : ProjectionSearchParams :=
      { filter := ["variants.sku:exists"], expand := ["masterVariant.isMatchingVariant"] }
    observed store "shop" params false none none = .error (.danglingReference "category" "x") ∧
    observed store "shop" params true none none = .ok (1, 1, [some "p"]) := by
  decide +kernel

end Store
end Storefront
