import Mathlib.Data.List.Forall2
import Storefront.Catalog
import Storefront.Proofs.Expansion.Growth
import Storefront.Proofs.Json.Structure
import Storefront.Proofs.Store.Operation

/-!
What a search of current data sees of a product. The staged copy is nothing that a current projection
is made of, so it plays no part in what is found, nor in what is refused; and a product that is not
published has no current projection, so no result comes from it.
-/
namespace Storefront.Catalog

/-- The same product but for the staged copy of its data. -/
def SameButStaged (first second : Json) : Prop :=
  first = second ∨
    ∃ one other, first.field? "masterData" = some one ∧ second.field? "masterData" = some other ∧
      one.isObject = true ∧ other.isObject = true ∧
      (∀ name, name ≠ "staged" → one.field? name = other.field? name) ∧
      ∀ name, name ≠ "masterData" → first.field? name = second.field? name

/-- Two stores have the same settings and the same products of a tenant in the same order but for
staged copies, whatever else they hold. -/
structure AlikeButStaged (tenant : String) (left right : Store) : Prop where
  settings : left.settings = right.settings
  products : List.Forall₂ SameButStaged (left.all tenant productType) (right.all tenant productType)

/-- A product whose data say that they are not published. -/
def Unpublished (product : Json) : Prop :=
  ∃ masterData, product.field? "masterData" = some masterData ∧
    masterData.field? "published" = some (.bool false)

variable {first second source other target : Json} {condition : Json → Except Error (Bool × Json)}
  {products results : List Json} {shows : Json → Json → Prop}

/-! ### Projections -/

theorem copyField_congr {name : String} (same : source.field? name = other.field? name) :
    copyField source target name = copyField other target name := by
  simp only [copyField, same]

theorem copyFields_congr {names : List String}
    (same : ∀ name ∈ names, source.field? name = other.field? name) (target : Json) :
    names.foldl (copyField source) target = names.foldl (copyField other) target := by
  induction names generalizing target with
  | nil => rfl
  | cons name names ih =>
    have here := same name List.mem_cons_self
    have rest := ih fun later member => same later (List.mem_cons_of_mem name member)
    rw [List.foldl_cons, List.foldl_cons, copyField_congr here, rest]

/-- The staged copy is no part of a current projection. -/
theorem SameButStaged.current (same : SameButStaged first second) :
    project? first false = project? second false := by
  rcases same with rfl | ⟨one, other, inFirst, inSecond, -, -, apart, beside⟩
  · rfl
  · have published : isPublished one = isPublished other := by
      simp only [isPublished, apart "published" (by decide)]
    have current : one.field? "current" = other.field? "current" := apart "current" (by decide)
    have base : ∀ name ∈ baseFields, first.field? name = second.field? name := by
      intro name member
      apply beside
      rintro rfl
      exact absurd member (by decide)
    have changes (target : Json) : copyField one target "hasStagedChanges" =
        copyField other target "hasStagedChanges" :=
      copyField_congr (apart "hasStagedChanges" (by decide))
    simp only [project?, inFirst, inSecond, published, current, copyFields_congr base, changes,
      Bool.false_eq_true, if_false]

theorem filterMap_current {firsts seconds : List Json}
    (lists : List.Forall₂ SameButStaged firsts seconds) :
    firsts.filterMap (project? · false) = seconds.filterMap (project? · false) := by
  induction lists with
  | nil => rfl
  | cons here _ ih => rw [List.filterMap_cons, List.filterMap_cons, here.current, ih]

theorem Unpublished.not_projected (unpublished : Unpublished source) :
    project? source false = none := by
  obtain ⟨masterData, found, flag⟩ := unpublished
  have hidden : isPublished masterData = false := by
    simp only [isPublished, flag]
    rfl
  simp only [project?, found, hidden, Bool.not_false, Bool.and_self, if_true]

namespace AlikeButStaged

variable {tenant : String} {left right : Store}

theorem projections (alike : AlikeButStaged tenant left right) :
    Catalog.projections left tenant false = Catalog.projections right tenant false := by
  simp only [Catalog.projections, filterMap_current alike.products]

/-- Where nothing is expanded, a page is made of what was found and of the settings. -/
theorem page (alike : AlikeButStaged tenant left right) (offset limit : Option Nat)
    (found : List Json) :
    Catalog.page left tenant offset limit [] found =
      Catalog.page right tenant offset limit [] found := by
  simp only [Catalog.page, alike.settings, if_true]

end AlikeButStaged

/-! ### Origins of results -/

/-- A result is the current projection of a product as a condition that accepts it leaves it. -/
def Shows (condition : Json → Except Error (Bool × Json)) (product result : Json) : Prop :=
  ∃ projection, project? product false = some projection ∧ condition projection = .ok (true, result)

/-- Results come from products one by one and in order, and none from a product that is not
published. -/
def ComeFromPublished (shows : Json → Json → Prop) (products results : List Json) : Prop :=
  ∃ sources, sources.Sublist products ∧ (∀ source ∈ sources, ¬ Unpublished source) ∧
    List.Forall₂ shows sources results

namespace ComeFromPublished

theorem skip (come : ComeFromPublished shows products results) (product : Json) :
    ComeFromPublished shows (product :: products) results := by
  obtain ⟨sources, among, published, each⟩ := come
  exact ⟨sources, among.cons product, published, each⟩

theorem slice (come : ComeFromPublished shows products results) (offset limit : Nat) :
    ComeFromPublished shows products (Page.slice offset limit results) := by
  obtain ⟨sources, among, published, each⟩ := come
  have within : (Page.slice offset limit sources).Sublist sources :=
    (List.take_sublist _ _).trans (List.drop_sublist _ _)
  refine ⟨Page.slice offset limit sources, within.trans among, ?_, ?_⟩
  · exact fun source member => published source (within.subset member)
  · exact List.forall₂_take limit (List.forall₂_drop offset each)

/-- What is made of the results, one by one, has the same origins. -/
theorem comp {next : Json → Json → Prop} {finals : List Json}
    (come : ComeFromPublished shows products results) (made : List.Forall₂ next results finals) :
    ComeFromPublished (fun product final => ∃ result, shows product result ∧ next result final)
      products finals := by
  obtain ⟨sources, among, published, each⟩ := come
  refine ⟨sources, among, published, ?_⟩
  clear among published
  induction each generalizing finals with
  | nil =>
    cases made
    exact .nil
  | cons here _ ih =>
    cases made with
    | cons onwards rest => exact .cons ⟨_, here, onwards⟩ (ih rest)

end ComeFromPublished

/-- What a condition keeps of the current projections comes from published products. -/
theorem comeFromPublished_matching
    (found : matching condition (products.filterMap (project? · false)) = .ok results) :
    ComeFromPublished (Shows condition) products results := by
  induction products generalizing results with
  | nil =>
    cases found
    exact ⟨[], .slnil, nofun, .nil⟩
  | cons product products ih =>
    rw [List.filterMap_cons] at found
    cases projected : project? product false with
    | none =>
      rw [projected] at found
      exact (ih found).skip product
    | some projection =>
      rw [projected, matching] at found
      split at found
      · contradiction
      · rename_i keep marked judged
        split at found
        · contradiction
        · rename_i kept rest
          cases found
          cases keep with
          | false => exact (ih rest).skip product
          | true =>
            obtain ⟨sources, among, published, each⟩ := ih rest
            have shown : ¬ Unpublished product := fun unpublished =>
              absurd (projected.symm.trans unpublished.not_projected) nofun
            exact ⟨product :: sources, among.cons_cons product,
              List.forall_mem_cons.mpr ⟨shown, published⟩, .cons ⟨projection, projected, judged⟩ each⟩

/-- The results of a page are the expanded ones of a stretch of what was found. -/
theorem forall₂_of_page {store : Store} {tenant : String} {offset limit : Option Nat}
    {clauses : List String} {found : List Json} {made : Page}
    (paged : page store tenant offset limit clauses found = .ok made) :
    List.Forall₂ (fun doc result => store.expand tenant clauses doc = .ok result)
      (Page.slice (offset.getD 0) (store.settings.effectiveLimit limit) found) made.results := by
  unfold page at paged
  dsimp only at paged
  split at paged
  · rename_i none
    subst none
    cases paged
    exact List.forall₂_same.mpr fun doc _ => rfl
  · obtain ⟨results, mapped, rfl⟩ := Expansion.map_eq_ok_iff.mp paged
    exact Expansion.forall₂_of_mapM_ok mapped

variable {left right store : Store} {tenant : String} {made : Page}

theorem comeFromPublished_search {request : ProductSearchRequest} (current : request.staged = false)
    (found : search store tenant request = .ok made) :
    ComeFromPublished (Shows (applyQuery request)) (store.all tenant productType) made.results := by
  unfold search at found
  rw [current] at found
  split at found
  · contradiction
  · rename_i kept matched
    have come := comeFromPublished_matching matched
    cases found
    exact come.slice _ _

theorem comeFromPublished_searchProjections {params : ProjectionSearchParams}
    (current : params.staged = false) (found : searchProjections store tenant params = .ok made) :
    ∃ filters, (ProjectionSearch.filters params).mapM Filter.compile = .ok filters ∧
      ComeFromPublished
        (fun product result => ∃ marked,
          Shows (applyFilters params.markMatchingVariants filters) product marked ∧
            store.expand tenant params.expand marked = .ok result)
        (store.all tenant productType) made.results := by
  unfold searchProjections at found
  rw [current] at found
  split at found
  · contradiction
  · rename_i filters compiled
    split at found
    · contradiction
    · rename_i kept matched
      have come := comeFromPublished_matching matched
      exact ⟨filters, compiled, (come.slice _ _).comp (forall₂_of_page found)⟩

/-- Stores whose products are the same but for staged copies answer a search of current data alike, be
it with a page or with an error. The results of a page come from published products: each is the
current projection of its product with the marks of the search, expanded where that is asked for. -/
theorem current_search_sees_nothing_staged (tenant : String) :
    (∀ left right, AlikeButStaged tenant left right →
      (∀ request : ProductSearchRequest, request.staged = false →
        search left tenant request = search right tenant request) ∧
      ∀ params : ProjectionSearchParams, params.staged = false → params.expand = [] →
        searchProjections left tenant params = searchProjections right tenant params) ∧
    ∀ store made,
      (∀ request : ProductSearchRequest, request.staged = false →
        search store tenant request = .ok made →
        ComeFromPublished (Shows (applyQuery request)) (store.all tenant productType) made.results) ∧
      ∀ params : ProjectionSearchParams, params.staged = false →
        searchProjections store tenant params = .ok made →
        ∃ filters, (ProjectionSearch.filters params).mapM Filter.compile = .ok filters ∧
          ComeFromPublished
            (fun product result => ∃ marked,
              Shows (applyFilters params.markMatchingVariants filters) product marked ∧
                store.expand tenant params.expand marked = .ok result)
            (store.all tenant productType) made.results := by
  refine ⟨?_, ?_⟩
  · intro left right alike
    refine ⟨?_, ?_⟩
    · intro request current
      simp only [search, current, alike.projections, alike.page]
    · intro params current unexpanded
      simp only [searchProjections, current, unexpanded, alike.projections, alike.page]
  · intro store made
    exact ⟨fun request => comeFromPublished_search, fun params => comeFromPublished_searchProjections⟩

/-- One product has a staged copy in one store only, another one is not published. A search of current
data answers the same and finds the first. -/
theorem current_search_of_restaged_product :
    let data (name : String) := Json.object [("name", .string name)]
    let product (id : String) (masterData : List (String × Json)) := Json.object
      [("id", .string id), ("masterData", .object masterData), ("version", .ofNat 1)]
    let hidden := product "b" [("current", data "B"), ("published", .bool false)]
    let store (masterData : List (String × Json)) := (Store.empty {}).run
      [.add "shop" productType (product "a" masterData), .add "shop" productType hidden]
    let restaged := [("current", data "A"), ("published", .bool true), ("staged", data "C")]
    let plain := [("current", data "A"), ("published", .bool true)]
    let left := store restaged
    let right := store plain
    let params : ProjectionSearchParams := { filter := ["name:\"A\",\"B\""] }
    AlikeButStaged "shop" left right ∧ Unpublished hidden ∧
    search left "shop" {} = search right "shop" {} ∧
    searchProjections left "shop" params = searchProjections right "shop" params ∧
    ∃ made filters, searchProjections left "shop" params = .ok made ∧
      (ProjectionSearch.filters params).mapM Filter.compile = .ok filters ∧
      made.results.map Document.id? = [some "a"] ∧
      ComeFromPublished
        (fun product result => ∃ marked,
          Shows (applyFilters false filters) product marked ∧
            left.expand "shop" [] marked = .ok result)
        (left.all "shop" productType) made.results := by
  intro data product hidden store restaged plain left right params
  have sameProduct : SameButStaged (product "a" restaged) (product "a" plain) := by
    refine .inr ⟨.object restaged, .object plain, rfl, rfl, rfl, rfl, ?_, ?_⟩
    · intro name other
      simp only [restaged, plain, Json.field?, Dictionary.get?, Ne.symm other, if_false]
    · intro name other
      simp only [product, Json.field?, Dictionary.get?, Ne.symm other, if_false]
  have settings (masterData : List (String × Json)) : (store masterData).settings = {} := rfl
  have lefts : left.all "shop" productType = [product "a" restaged, hidden] := rfl
  have rights : right.all "shop" productType = [product "a" plain, hidden] := rfl
  have alike : AlikeButStaged "shop" left right := by
    refine ⟨(settings restaged).trans (settings plain).symm, ?_⟩
    rw [lefts, rights]
    exact .cons sameProduct (.cons (.inl rfl) .nil)
  obtain ⟨same, origins⟩ := current_search_sees_nothing_staged "shop"
  have succeeds : (searchProjections left "shop" params).isOk = true := by decide +kernel
  have finds : (searchProjections left "shop" params).toOption.map
      (fun made => made.results.map Document.id?) = some [some "a"] := by decide +kernel
  refine ⟨alike, ⟨_, rfl, rfl⟩, (same left right alike).1 {} rfl,
    (same left right alike).2 params rfl rfl, ?_⟩
  cases found : searchProjections left "shop" params with
  | error error =>
    rw [found] at succeeds
    contradiction
  | ok made =>
    obtain ⟨filters, compiled, come⟩ := (origins left made).2 params rfl found
    rw [found] at finds
    exact ⟨made, filters, rfl, compiled, Option.some.inj finds, come⟩

end Storefront.Catalog
