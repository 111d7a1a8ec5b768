import Mathlib.Data.List.Forall2
import Mathlib.Data.Option.Basic
import Storefront.Catalog
import Storefront.Proofs.Document.Validity
import Storefront.Proofs.Filter.Parsing
import Storefront.Proofs.Json.Path

/-! What the marks of variants change. A marked product is the same but for the marks of its variants,
and a filter that does not read the mark judges both alike. So the filters of a search judge a product
alike with marks and without, unless one that reads the mark stands behind one that leaves it. -/
namespace Storefront

/-- Two finds are both missing, or both there and related. -/
def Paired {α : Type} (related : α → α → Prop) (first second : Option α) : Prop :=
  (first = none ∧ second = none) ∨
    ∃ one other, first = some one ∧ second = some other ∧ related one other

theorem paired_refl {α : Type} {related : α → α → Prop} (reflexive : ∀ value, related value value)
    (found : Option α) : Paired related found found := by
  cases found with
  | none => exact .inl ⟨rfl, rfl⟩
  | some value => exact .inr ⟨value, value, rfl, rfl, reflexive value⟩

/-! ### Products with and without marks -/

namespace Variant

/-- The same value but for the mark that an object may carry. -/
def SameButMark (first second : Json) : Prop :=
  first = second ∨
    (first.isObject = true ∧ second.isObject = true ∧
      ∀ name, name ≠ matchingFlag → first.field? name = second.field? name)

/-- The same variant or list of variants but for the marks. -/
def SameVariants (first second : Json) : Prop :=
  SameButMark first second ∨
    ∃ firsts seconds, first = .array firsts ∧ second = .array seconds ∧
      List.Forall₂ SameButMark firsts seconds

/-- The members of a product that hold its variants. -/
def carriers : List String := ["masterVariant", "variants"]

/-- The same product but for the marks of its variants. -/
def SameProduct (first second : Json) : Prop :=
  first = second ∨
    (first.isObject = true ∧ second.isObject = true ∧
      (∀ name, name ∉ carriers → first.field? name = second.field? name) ∧
      ∀ name ∈ carriers, Paired SameVariants (first.field? name) (second.field? name))

variable {first second third : Json}

theorem SameButMark.refl (value : Json) : SameButMark value value :=
  .inl rfl

theorem SameButMark.trans (before : SameButMark first second) (after : SameButMark second third) :
    SameButMark first third := by
  rcases before with rfl | ⟨isFirst, isSecond, before⟩
  · exact after
  · rcases after with rfl | ⟨-, isThird, after⟩
    · exact .inr ⟨isFirst, isSecond, before⟩
    · exact .inr ⟨isFirst, isThird, fun name other => (before name other).trans (after name other)⟩

theorem SameButMark.field? (same : SameButMark first second) {name : String}
    (other : name ≠ matchingFlag) : first.field? name = second.field? name := by
  rcases same with rfl | ⟨-, -, same⟩
  · rfl
  · exact same name other

/-- Only objects carry marks. -/
theorem SameButMark.eq_of_not_object (same : SameButMark first second)
    (shape : second.isObject = false) : first = second := by
  rcases same with rfl | ⟨-, isSecond, -⟩
  · rfl
  · cases isSecond.symm.trans shape

theorem SameButMark.isObject (same : SameButMark first second) : first.isObject = second.isObject := by
  rcases same with rfl | ⟨isFirst, isSecond, -⟩
  · rfl
  · exact isFirst.trans isSecond.symm

theorem sameButMark_mark (matching : Option Nat) (index : Nat) (variant : Json) :
    SameButMark variant (mark matching index variant) := by
  cases shape : variant.isObject with
  | true =>
    refine .inr ⟨shape, (Json.isObject_setField ..).trans shape, fun name other => ?_⟩
    exact (Json.field?_setField_of_ne _ _ other.symm).symm
  | false =>
    left
    cases variant with
    | object members => contradiction
    | _ => rfl

theorem SameVariants.refl (value : Json) : SameVariants value value :=
  .inl (.refl value)

theorem SameProduct.refl (product : Json) : SameProduct product product :=
  .inl rfl

theorem SameProduct.field? (same : SameProduct first second) {name : String}
    (other : name ∉ carriers) : first.field? name = second.field? name := by
  rcases same with rfl | ⟨-, -, same, -⟩
  · rfl
  · exact same name other

theorem SameProduct.variants (same : SameProduct first second) {name : String}
    (carrier : name ∈ carriers) : Paired SameVariants (first.field? name) (second.field? name) := by
  rcases same with rfl | ⟨-, -, -, same⟩
  · exact paired_refl .refl _
  · exact same name carrier

theorem SameProduct.id? (same : SameProduct first second) :
    Document.id? first = Document.id? second := by
  rw [Document.id?, Document.id?, same.field? (by decide)]

theorem SameVariants.trans (before : SameVariants first second) (after : SameVariants second third) :
    SameVariants first third := by
  rcases before with before | ⟨firsts, seconds, rfl, rfl, before⟩
  · rcases after with after | ⟨seconds, thirds, rfl, rfl, after⟩
    · exact .inl (before.trans after)
    · obtain rfl := before.eq_of_not_object rfl
      exact .inr ⟨seconds, thirds, rfl, rfl, after⟩
  · rcases after with after | ⟨seconds', thirds, split, rfl, after⟩
    · obtain rfl := after.eq_of_not_object (after.isObject.symm.trans rfl)
      exact .inr ⟨firsts, seconds, rfl, rfl, before⟩
    · cases split
      refine .inr ⟨firsts, thirds, rfl, rfl, ?_⟩
      induction before generalizing thirds with
      | nil => exact after
      | cons here _ ih =>
        cases after with
        | cons there after => exact .cons (here.trans there) (ih _ after)

/-- A product stays the same if variants in it do. -/
theorem SameProduct.setField (same : SameProduct first second) {name : String}
    (carrier : name ∈ carriers) {before after : Json} (found : second.field? name = some before)
    (variants : SameVariants before after) : SameProduct first (second.setField name after) := by
  have shape := Json.isObject_of_field? found
  have firstShape : first.isObject = true := by
    rcases same with rfl | ⟨isFirst, -, -, -⟩
    · exact shape
    · exact isFirst
  refine .inr ⟨firstShape, (Json.isObject_setField ..).trans shape, ?_, ?_⟩
  · intro other notCarrier
    have different : name ≠ other := fun same => notCarrier (same ▸ carrier)
    rw [Json.field?_setField_of_ne _ _ different, same.field? notCarrier]
  · intro other isCarrier
    by_cases equal : name = other
    · subst equal
      rcases same.variants isCarrier with ⟨-, missing⟩ | ⟨one, other, there, found', related⟩
      · cases missing.symm.trans found
      · cases found'.symm.trans found
        exact .inr ⟨one, after, there, Json.field?_setField_self shape .., related.trans variants⟩
    · rw [Json.field?_setField_of_ne _ _ equal]
      exact same.variants isCarrier

/-- Marking leaves a product the same but for the marks. -/
theorem SameProduct.markMatching (same : SameProduct first second) (matching : Option Nat) :
    SameProduct first (markMatching second matching) := by
  unfold Variant.markMatching
  extract_lets _ withMaster
  have marked : SameProduct first withMaster := by
    simp only [withMaster]
    split
    · rename_i master there
      have found := (Option.filter_eq_some_iff.mp there).1
      exact same.setField (by decide) found (.inl (sameButMark_mark matching 0 master))
    · exact same
  split
  · rename_i variants found
    refine marked.setField (by decide) found (.inr ⟨_, _, rfl, rfl, ?_⟩)
    rw [List.forall₂_iff_get]
    refine ⟨(List.length_mapIdx ..).symm, fun index _ _ => ?_⟩
    simpa using sameButMark_mark matching _ variants[index]
  · exact marked

/-! ### The variants of a product -/

theorem sameButMark_master (same : SameProduct first second) :
    Paired SameButMark (master? first) (master? second) := by
  unfold master?
  rcases same.variants (by decide : "masterVariant" ∈ carriers) with
    ⟨missing, missing'⟩ | ⟨one, other, found, found', related | ⟨_, _, rfl, rfl, -⟩⟩
  · rw [missing, missing']
    exact .inl ⟨rfl, rfl⟩
  · rw [found, found', Option.filter_some, Option.filter_some, related.isObject]
    split
    · exact .inr ⟨one, other, rfl, rfl, related⟩
    · exact .inl ⟨rfl, rfl⟩
  · rw [found, found']
    exact .inl ⟨rfl, rfl⟩

theorem SameButMark.array? (same : SameButMark first second) : first.array? = second.array? := by
  rcases same with rfl | ⟨isFirst, isSecond, -⟩
  · rfl
  · obtain ⟨_, rfl⟩ := Json.isObject_iff.mp isFirst
    obtain ⟨_, rfl⟩ := Json.isObject_iff.mp isSecond
    rfl

theorem sameButMark_others (same : SameProduct first second) :
    List.Forall₂ SameButMark (others first) (others second) := by
  unfold others
  rcases same.variants (by decide : "variants" ∈ carriers) with
    ⟨missing, missing'⟩ | ⟨one, other, found, found', related | ⟨_, _, rfl, rfl, related⟩⟩
  · rw [missing, missing']
    exact .nil
  · rw [found, found', Option.bind_some, Option.bind_some, related.array?]
    exact List.forall₂_same.mpr fun variant _ => .refl variant
  · rw [found, found']
    exact related

theorem sameButMark_all (same : SameProduct first second) :
    List.Forall₂ SameButMark (all first) (all second) := by
  have masters : List.Forall₂ SameButMark (master? first).toList (master? second).toList := by
    rcases sameButMark_master same with ⟨none, none'⟩ | ⟨_, _, some, some', related⟩
    · rw [none, none']
      exact .nil
    · rw [some, some']
      exact .cons related .nil
  exact List.rel_append masters (sameButMark_others same)

/-- The first variant that satisfies a test which the mark does not matter to. -/
theorem firstMatching_congr (same : SameProduct first second) {test : Json → Except Error Bool}
    (blind : ∀ one other, SameButMark one other → test one = test other) :
    firstMatching first test = firstMatching second test := by
  have search : ∀ firsts seconds, List.Forall₂ SameButMark firsts seconds →
      ∀ index, firstFrom test index firsts = firstFrom test index seconds := by
    intro firsts seconds related
    induction related with
    | nil => exact fun _ => rfl
    | cons here _ ih =>
      intro index
      rw [firstFrom, firstFrom, blind _ _ here, ih]
  exact search _ _ (sameButMark_all same) 0

end Variant

/-! ### What paths lead to -/

namespace Variant
variable {first second : Json} {name : String} {path : List String}

theorem SameButMark.resolve? (same : SameButMark first second) (unread : name ≠ matchingFlag)
    (path : List String) : first.resolve? (name :: path) = second.resolve? (name :: path) := by
  rcases same with rfl | ⟨isFirst, isSecond, same⟩
  · rfl
  · rw [Json.resolve?_of_object isFirst, Json.resolve?_of_object isSecond, same name unread]

theorem SameVariants.resolve? (same : SameVariants first second) (unread : name ≠ matchingFlag)
    (path : List String) : first.resolve? (name :: path) = second.resolve? (name :: path) := by
  rcases same with same | ⟨firsts, seconds, rfl, rfl, same⟩
  · exact same.resolve? unread path
  · have items : Json.resolveItems firsts (name :: path) =
        Json.resolveItems seconds (name :: path) := by
      induction same with
      | nil => rfl
      | cons here _ ih => rw [Json.resolveItems, Json.resolveItems, here.resolve? unread path, ih]
    rw [Json.resolve?, Json.resolve?, items]

/-- A path leads to the same, marks apart, unless it leads to a mark. -/
theorem SameProduct.resolve? (same : SameProduct first second)
    (unread : ∀ carrier ∈ carriers, path.take 2 ≠ [carrier, matchingFlag]) (nonempty : path ≠ []) :
    Paired SameVariants (first.resolve? path) (second.resolve? path) := by
  rcases same with rfl | ⟨isFirst, isSecond, outside, inside⟩
  · exact paired_refl .refl _
  · obtain ⟨name, path, rfl⟩ := List.exists_cons_of_ne_nil nonempty
    rw [Json.resolve?_of_object isFirst, Json.resolve?_of_object isSecond]
    by_cases carrier : name ∈ carriers
    · rcases inside name carrier with ⟨missing, missing'⟩ | ⟨one, other, found, found', related⟩
      · rw [missing, missing']
        exact .inl ⟨rfl, rfl⟩
      · rw [found, found', Option.bind_some, Option.bind_some]
        cases path with
        | nil =>
          exact .inr ⟨one, other, one.resolve?_nil, other.resolve?_nil, related⟩
        | cons member path =>
          have different : member ≠ matchingFlag := fun same => unread name carrier (by simp [same])
          rw [related.resolve? different path]
          exact paired_refl .refl _
    · rw [outside name carrier]
      exact paired_refl .refl _

/-- A field is found alike in two values that agree on attributes and prices, if the path of its
names leads to the like. -/
theorem resolveField?_paired {related : Json → Json → Prop} (reflexive : ∀ value, related value value)
    (agree : ∀ name ∈ ["attributes", "prices", "scopedPrice"], first.field? name = second.field? name)
    (path : List Char) (resolved : Paired related (first.resolve? (Json.pathNames path))
      (second.resolve? (Json.pathNames path))) :
    Paired related (resolveField? first path) (resolveField? second path) := by
  have attributes : ∀ name, attribute? first name = attribute? second name := by
    intro name
    simp only [attribute?, agree "attributes" (by simp)]
  have price : firstPriceAmount? first = firstPriceAmount? second := by
    simp only [firstPriceAmount?, agree "prices" (by simp)]
  unfold resolveField?
  split
  · split
    · exact paired_refl reflexive _
    · rw [attributes]
      exact paired_refl reflexive _
  · rw [price, agree "scopedPrice" (by simp)]
    split
    · exact paired_refl reflexive _
    · exact resolved

theorem SameButMark.resolveField? (same : SameButMark first second) {path : List Char}
    (unread : (Json.pathNames path).head? ≠ some matchingFlag) :
    Variant.resolveField? first path = Variant.resolveField? second path := by
  have agree : ∀ name ∈ ["attributes", "prices", "scopedPrice"],
      first.field? name = second.field? name := by
    intro name mem
    refine same.field? ?_
    rintro rfl
    exact absurd mem (by decide)
  have resolved : first.resolve? (Json.pathNames path) = second.resolve? (Json.pathNames path) := by
    obtain ⟨name, names, split⟩ := List.exists_cons_of_ne_nil (Json.pathNames_ne_nil path)
    rw [split] at unread ⊢
    exact same.resolve? (fun same => unread (congrArg some same)) names
  rcases resolveField?_paired (fun _ => rfl) agree path (resolved ▸ paired_refl (fun _ => rfl) _) with
    ⟨missing, missing'⟩ | ⟨_, _, found, found', rfl⟩
  · rw [missing, missing']
  · rw [found, found']

theorem SameProduct.resolveField? (same : SameProduct first second) {path : List Char}
    (unread : ∀ carrier ∈ carriers, (Json.pathNames path).take 2 ≠ [carrier, matchingFlag]) :
    Paired SameVariants (Variant.resolveField? first path) (Variant.resolveField? second path) := by
  refine resolveField?_paired .refl (fun name mem => same.field? ?_) path
    (same.resolve? unread (Json.pathNames_ne_nil path))
  simp only [List.mem_cons, List.not_mem_nil, or_false] at mem
  rcases mem with rfl | rfl | rfl <;> decide

end Variant

/-! ### What conditions say -/

/-- A condition that allows no objects and no arrays, as those that are written do. -/
def Condition.Plain : Condition → Prop
  | .values allowed => ∀ value ∈ allowed, value.isObject = false ∧ value.array? = none
  | _ => True

namespace Condition
open Variant (SameButMark SameVariants)
variable {first second : Json}

theorem candidates_sameButMark (same : SameVariants first second) :
    List.Forall₂ SameButMark first.candidates second.candidates := by
  rcases same with (rfl | ⟨isFirst, isSecond, same⟩) | ⟨firsts, seconds, rfl, rfl, same⟩
  · exact List.forall₂_same.mpr fun variant _ => .refl variant
  · obtain ⟨_, rfl⟩ := Json.isObject_iff.mp isFirst
    obtain ⟨_, rfl⟩ := Json.isObject_iff.mp isSecond
    exact .cons (.inr ⟨rfl, rfl, same⟩) .nil
  · exact same

theorem isTruthy_sameVariants (same : SameVariants first second) :
    Json.isTruthy (some first) = Json.isTruthy (some second) := by
  rcases same with (rfl | ⟨isFirst, isSecond, -⟩) | ⟨firsts, seconds, rfl, rfl, -⟩
  · rfl
  · obtain ⟨_, rfl⟩ := Json.isObject_iff.mp isFirst
    obtain ⟨_, rfl⟩ := Json.isObject_iff.mp isSecond
    rfl
  · rfl

/-- No object equals what a filter allows, and every object is out of order with every bound. -/
theorem looseEq_object {value : Json} (plain : value.isObject = false ∧ value.array? = none)
    (members : List (String × Json)) : Json.looseEq (some (.object members)) value = false := by
  cases value with
  | object members => cases plain.1
  | array items => cases plain.2
  | _ => rfl

theorem inInterval_object (firsts seconds : List (String × Json)) (interval : Bound × Bound) :
    inInterval (.object firsts) interval = inInterval (.object seconds) interval := by
  obtain ⟨low, high⟩ := interval
  cases low <;> cases high <;> rfl

theorem anyM_congr {α β : Type} {related : α → β → Prop} {one : α → Except Error Bool}
    {other : β → Except Error Bool} (agree : ∀ a b, related a b → one a = other b) {as : List α}
    {bs : List β} (lists : List.Forall₂ related as bs) : as.anyM one = bs.anyM other := by
  induction lists with
  | nil => rfl
  | cons here _ ih => simp only [List.anyM, agree _ _ here, ih]

theorem any_congr {α β : Type} {related : α → β → Prop} {one : α → Bool} {other : β → Bool}
    (agree : ∀ a b, related a b → one a = other b) {as : List α} {bs : List β}
    (lists : List.Forall₂ related as bs) : as.any one = bs.any other := by
  induction lists with
  | nil => rfl
  | cons here _ ih => rw [List.any_cons, List.any_cons, agree _ _ here, ih]

theorem holds_congr {condition : Condition} (plain : condition.Plain) {one other : Option Json}
    (paired : Paired SameVariants one other) : condition.holds one = condition.holds other := by
  rcases paired with ⟨rfl, rfl⟩ | ⟨first, second, rfl, rfl, same⟩
  · rfl
  · have candidates := candidates_sameButMark same
    cases condition with
    | presence wanted => rw [holds, holds, isTruthy_sameVariants same]
    | values allowed =>
      refine congrArg Except.ok (any_congr ?_ candidates)
      rintro a b (rfl | ⟨isFirst, isSecond, -⟩)
      · rfl
      · obtain ⟨_, rfl⟩ := Json.isObject_iff.mp isFirst
        obtain ⟨_, rfl⟩ := Json.isObject_iff.mp isSecond
        rw [Bool.eq_iff_iff, List.any_eq_true, List.any_eq_true]
        refine exists_congr fun value => and_congr_right fun mem => ?_
        rw [looseEq_object (plain value mem), looseEq_object (plain value mem)]
    | ranges intervals =>
      refine anyM_congr ?_ candidates
      rintro a b (rfl | ⟨isFirst, isSecond, -⟩)
      · rfl
      · obtain ⟨firsts, rfl⟩ := Json.isObject_iff.mp isFirst
        obtain ⟨seconds, rfl⟩ := Json.isObject_iff.mp isSecond
        exact congrArg (intervals.anyM ·) (funext (inInterval_object firsts seconds))

end Condition

namespace Filter

/-- A value that is neither an object nor an array, where an expression is a value at all. -/
def Expression.Scalar : Expression → Prop
  | .value found => found.isObject = false ∧ found.array? = none
  | _ => True

theorem Expression.scalar_of_spelt {expression : Expression} {piece : List (Token Kind)}
    (spelt : expression.Spelt piece) : expression.Scalar := by
  cases spelt with
  | number kind converts =>
    simp only [Literal.number] at converts
    split at converts
    · cases converts
      exact ⟨rfl, rfl⟩
    · split at converts
      · cases converts
        exact ⟨rfl, rfl⟩
      · contradiction
  | text | yes | no => exact ⟨rfl, rfl⟩
  | exist | missing | ranges => trivial

/-- What is compiled allows strings, numbers and booleans only. -/
theorem plain_of_compile {source : String} {filter : Filter} (compiled : compile source = .ok filter) :
    filter.condition.Plain := by
  obtain ⟨tokens, -, derives, -⟩ := compile_eq_ok_iff.mp compiled
  obtain ⟨path, colon, spelt, lists⟩ := derives
  have scalars := spelt.forall_mem fun _ _ piece => Expression.scalar_of_spelt piece
  cases lists with
  | values values => exact fun value mem => scalars _ (List.mem_map_of_mem mem)
  | _ => trivial

/-! ### What filters find -/

open Variant (SameProduct SameButMark carriers matchingFlag)

/-- The path of a filter leads to the mark of a variant, or past it. -/
def ReadsMark (filter : Filter) : Prop :=
  match filter.variantPath? with
  | some path => (Json.pathNames path).head? = some matchingFlag
  | none => ∃ carrier ∈ carriers, (Json.pathNames filter.path.toList).take 2 = [carrier, matchingFlag]

variable {first second : Json} {filter : Filter}

/-- A filter that does not read the mark judges a product alike with marks and without, and leaves it
the same but for the marks. -/
theorem evaluate_congr (plain : filter.condition.Plain) (same : SameProduct first second)
    (unread : first = second ∨ ¬ filter.ReadsMark) :
    (∃ error, filter.evaluate false first = .error error ∧
        filter.evaluate true second = .error error) ∨
      ∃ verdict marked, filter.evaluate false first = .ok (verdict, first) ∧
        filter.evaluate true second = .ok (verdict, marked) ∧ SameProduct first marked ∧
        (filter.isVariantFilter = false → marked = second) := by
  unfold evaluate ReadsMark isVariantFilter at *
  cases shape : filter.variantPath? with
  | none =>
    simp only [shape] at unread ⊢
    have agree : filter.test filter.path.toList first = filter.test filter.path.toList second := by
      rcases unread with rfl | unread
      · rfl
      · refine Condition.holds_congr plain (same.resolveField? fun carrier isCarrier reads => ?_)
        exact unread ⟨carrier, isCarrier, reads⟩
    rw [agree]
    cases filter.test filter.path.toList second with
    | error error => exact .inl ⟨error, rfl, rfl⟩
    | ok verdict => exact .inr ⟨verdict, second, rfl, rfl, same, fun _ => rfl⟩
  | some path =>
    simp only [shape] at unread ⊢
    have agree : Variant.firstMatching first (filter.test path) =
        Variant.firstMatching second (filter.test path) := by
      rcases unread with rfl | unread
      · rfl
      · refine Variant.firstMatching_congr same fun one other alike => ?_
        exact congrArg filter.condition.holds (alike.resolveField? unread)
    rw [agree]
    cases Variant.firstMatching second (filter.test path) with
    | error error => exact .inl ⟨error, rfl, rfl⟩
    | ok found =>
      exact .inr ⟨found.isSome, _, rfl, rfl, same.markMatching found, fun none => nomatch none⟩

end Filter

/-! ### What searches find -/

namespace Catalog
open Variant (SameProduct)

/-- No filter that reads the mark stands behind one that leaves it. -/
def MarksUnread (filters : List Filter) : Prop :=
  filters.Pairwise fun earlier later => earlier.isVariantFilter = true → ¬ later.ReadsMark

/-- Filters that do not read the marks of earlier ones judge alike with marks and without. -/
theorem applyFilters_congr {filters : List Filter}
    (plain : ∀ filter ∈ filters, filter.condition.Plain) (unread : MarksUnread filters)
    {projection : Json} :
    (∃ error, applyFilters false filters projection = .error error ∧
        applyFilters true filters projection = .error error) ∨
      ∃ verdict marked, applyFilters false filters projection = .ok (verdict, projection) ∧
        applyFilters true filters projection = .ok (verdict, marked) ∧
        SameProduct projection marked := by
  -- Either there is no mark yet, or none of the filters that are left reads one.
  have run : ∀ filters : List Filter, (∀ filter ∈ filters, filter.condition.Plain) →
      MarksUnread filters → ∀ second, SameProduct projection second →
      (projection = second ∨ ∀ filter ∈ filters, ¬ filter.ReadsMark) →
      (∃ error, applyFilters false filters projection = .error error ∧
          applyFilters true filters second = .error error) ∨
        ∃ verdict marked, applyFilters false filters projection = .ok (verdict, projection) ∧
          applyFilters true filters second = .ok (verdict, marked) ∧
          SameProduct projection marked := by
    intro filters
    induction filters with
    | nil => exact fun _ _ second same _ => .inr ⟨true, second, rfl, rfl, same⟩
    | cons filter filters ih =>
      intro plain unread second same state
      obtain ⟨plainHere, plainLater⟩ := List.forall_mem_cons.mp plain
      obtain ⟨unreadHere, unreadLater⟩ := List.pairwise_cons.mp unread
      have here : projection = second ∨ ¬ filter.ReadsMark :=
        state.imp_right fun unread => unread filter List.mem_cons_self
      simp only [applyFilters]
      rcases filter.evaluate_congr plainHere same here with
        ⟨error, failed, failed'⟩ | ⟨verdict, marked, judged, judged', alike, kept⟩
      · rw [failed, failed']
        exact .inl ⟨error, rfl, rfl⟩
      · rw [judged, judged']
        cases verdict with
        | false => exact .inr ⟨false, marked, rfl, rfl, alike⟩
        | true =>
          refine ih plainLater unreadLater marked alike ?_
          cases variants : filter.isVariantFilter with
          | true => exact .inr fun later member => unreadHere later member variants
          | false =>
            rw [kept variants]
            exact state.imp_right fun unread later member =>
              unread later (List.mem_cons_of_mem _ member)
  exact run filters plain unread projection (.refl projection) (.inl rfl)

end Catalog
end Storefront
