import Storefront.Proofs.Json.Position
import Storefront.Variant

/-! What marking changes in a product. Variants are read and marked in the same places, whatever the
shape of the product; every variant that is an object has its mark afterwards, and at every other
position of the product there stands what stood there before. -/
namespace Storefront.Variant
open Json (Position Selector)

variable {product variant : Json} {test : Json → Except Error Bool} {matching first : Option Nat}

/-! ### The first variant for which a test is true -/

/-- The number of the first of some variants for which a test is true. -/
def FirstTrue (test : Json → Except Error Bool) (variants : List Json) (number : Nat) : Prop :=
  (∃ variant, variants[number]? = some variant ∧ test variant = .ok true) ∧
    ∀ earlier < number, ∀ variant, variants[earlier]? = some variant → test variant ≠ .ok true

theorem firstTrue_zero_iff : FirstTrue test (variant :: variants) 0 ↔ test variant = .ok true := by
  constructor
  · rintro ⟨⟨_, found, holds⟩, -⟩
    cases found
    exact holds
  · intro holds
    exact ⟨⟨variant, rfl, holds⟩, fun earlier before => absurd before (Nat.not_lt_zero earlier)⟩

theorem firstTrue_succ_iff : FirstTrue test (variant :: variants) (number + 1) ↔
    test variant ≠ .ok true ∧ FirstTrue test variants number := by
  constructor
  · rintro ⟨found, before⟩
    refine ⟨before 0 (Nat.succ_pos number) variant rfl, found, ?_⟩
    intro earlier less other there
    exact before (earlier + 1) (Nat.succ_lt_succ less) other there
  · rintro ⟨here, found, before⟩
    refine ⟨found, ?_⟩
    intro earlier less other there
    cases earlier with
    | zero =>
      cases there
      exact here
    | succ earlier => exact before earlier (Nat.lt_of_succ_lt_succ less) other there

theorem firstFrom_spec {index : Nat} {variants : List Json}
    (searched : firstFrom test index variants = .ok first) :
    ∃ found : Option Nat, first = found.map (index + ·) ∧
      ∀ number, found = some number ↔ FirstTrue test variants number := by
  induction variants generalizing index with
  | nil =>
    cases searched
    refine ⟨none, rfl, ?_⟩
    intro number
    constructor
    · nofun
    · rintro ⟨⟨_, found, -⟩, -⟩
      cases found
  | cons variant variants ih =>
    rw [firstFrom] at searched
    cases judged : test variant with
    | error error =>
      rw [judged] at searched
      contradiction
    | ok holds =>
      rw [judged] at searched
      cases holds with
      | true =>
        cases searched
        refine ⟨some 0, rfl, ?_⟩
        intro number
        cases number with
        | zero => simp only [firstTrue_zero_iff, judged]
        | succ number => simp [firstTrue_succ_iff, judged]
      | false =>
        obtain ⟨found, rfl, exact⟩ := ih searched
        refine ⟨found.map (· + 1), ?_, ?_⟩
        · cases found with
          | none => rfl
          | some number => exact congrArg some (by dsimp only; omega)
        · intro number
          cases number with
          | zero => simp [firstTrue_zero_iff, judged]
          | succ number => simp [firstTrue_succ_iff, judged, ← exact]

/-- The number that a search gives is the first one, and it gives none only if there is none. -/
theorem firstMatching_spec (searched : firstMatching product test = .ok first) (number : Nat) :
    first = some number ↔ FirstTrue test (all product) number := by
  obtain ⟨found, rfl, exact⟩ := firstFrom_spec searched
  rw [← exact]
  cases found <;> simp

/-! ### Where the variants stand -/

/-- The positions of the variants of a product, in the order of their numbers. -/
def places (product : Json) : List Position :=
  (master? product).toList.map (fun _ => [.member "masterVariant"]) ++
    (others product).mapIdx fun index _ => [.member "variants", .item index]

/-- The mark of a variant is the member of that name, if the variant is an object. -/
def IsMark (product : Json) (number : Nat) (position : Position) : Prop :=
  ∃ variant place, (all product)[number]? = some variant ∧ (places product)[number]? = some place ∧
    variant.isObject = true ∧ position = place ++ [.member matchingFlag]

theorem master?_eq_some_iff : master? product = some variant ↔
    product.field? "masterVariant" = some variant ∧ variant.isObject = true :=
  Option.filter_eq_some_iff

theorem others_of_array (found : product.field? "variants" = some (.array variants)) :
    others product = variants := by
  rw [others, found]
  rfl

theorem others_of_not_array (shape : ∀ variants, product.field? "variants" ≠ some (.array variants)) :
    others product = [] := by
  unfold others
  cases found : product.field? "variants" with
  | none => rfl
  | some value =>
    cases value with
    | array variants => exact absurd found (shape variants)
    | _ => rfl

/-- At the places of the variants stand the variants. -/
theorem map_at?_places (product : Json) : (places product).map product.at? = (all product).map some := by
  have master : ((master? product).toList.map fun _ => [Selector.member "masterVariant"]).map product.at? =
      (master? product).toList.map some := by
    cases found : master? product with
    | none => rfl
    | some variant =>
      have there := (master?_eq_some_iff.mp found).1
      simp [Json.at?, Json.select?, there]
  have rest : ((others product).mapIdx fun index _ =>
      [Selector.member "variants", .item index]).map product.at? = (others product).map some := by
    by_cases listed : ∃ variants, product.field? "variants" = some (.array variants)
    · obtain ⟨variants, found⟩ := listed
      rw [others_of_array found]
      apply List.ext_getElem?
      intro index
      simp only [List.getElem?_map, List.getElem?_mapIdx]
      cases there : variants[index]? <;> simp [Json.at?, Json.select?, Json.item?, found, there]
    · rw [others_of_not_array fun variants found => listed ⟨variants, found⟩]
      rfl
  rw [places, all, List.map_append, List.map_append, master, rest]

theorem at?_place {number : Nat} {place : Position} (placed : (places product)[number]? = some place) :
    product.at? place = (all product)[number]? := by
  have same := congrArg (·[number]?) (map_at?_places product)
  simp only [List.getElem?_map, placed, Option.map_some] at same
  cases found : (all product)[number]? with
  | none => simp [found] at same
  | some variant =>
    rw [found] at same
    exact Option.some.inj same

/-! ### What marking sets -/

/-- The list of variants with their marks, counted from a number on. -/
def markItems (matching : Option Nat) (number : Nat) : Json → Json
  | .array variants => .array (variants.mapIdx fun index => mark matching (number + index))
  | other => other

theorem mark_of_not_object (matching : Option Nat) (number : Nat) (shape : variant.isObject = false) :
    mark matching number variant = variant := by
  cases variant with
  | object members => contradiction
  | _ => rfl

@[simp] theorem isObject_mark (matching : Option Nat) (number : Nat) (variant : Json) :
    (mark matching number variant).isObject = variant.isObject :=
  Json.isObject_setField ..

/-- The first step of marking, which marks the master variant. -/
def markMaster (product : Json) (matching : Option Nat) : Json :=
  match master? product with
  | some master => product.setField "masterVariant" (mark matching 0 master)
  | none => product

/-- The second step, which marks the variants of the list, counted from a number on. -/
def markOthers (product : Json) (matching : Option Nat) (number : Nat) : Json :=
  match product.field? "variants" with
  | some (.array variants) =>
    product.setField "variants" (markItems matching number (.array variants))
  | _ => product

theorem markMatching_eq (product : Json) (matching : Option Nat) :
    markMatching product matching =
      markOthers (markMaster product matching) matching (master? product).toList.length :=
  rfl

theorem isObject_markMaster (product : Json) (matching : Option Nat) :
    (markMaster product matching).isObject = product.isObject := by
  unfold markMaster
  split
  · exact Json.isObject_setField ..
  · rfl

theorem select?_markMaster_of_ne (product : Json) (matching : Option Nat) {selector : Selector}
    (different : selector ≠ .member "masterVariant") :
    (markMaster product matching).select? selector = product.select? selector := by
  unfold markMaster
  split
  · exact Json.select?_setField_of_ne _ _ different
  · rfl

theorem field?_markMaster (product : Json) (matching : Option Nat) :
    (markMaster product matching).field? "masterVariant" =
      (product.field? "masterVariant").map (mark matching 0) := by
  unfold markMaster
  split
  · rename_i master there
    have found := (master?_eq_some_iff.mp there).1
    rw [Json.field?_setField_self (Json.isObject_of_field? found), found, Option.map_some]
  · rename_i missing
    cases found : product.field? "masterVariant" with
    | none => rfl
    | some value =>
      have shape : value.isObject = false := by
        apply Bool.eq_false_iff.mpr
        intro object
        cases missing.symm.trans (master?_eq_some_iff.mpr ⟨found, object⟩)
      rw [Option.map_some, mark_of_not_object matching 0 shape]

theorem isObject_markOthers (product : Json) (matching : Option Nat) (number : Nat) :
    (markOthers product matching number).isObject = product.isObject := by
  unfold markOthers
  split
  · exact Json.isObject_setField ..
  · rfl

theorem select?_markOthers_of_ne (product : Json) (matching : Option Nat) (number : Nat)
    {selector : Selector} (different : selector ≠ .member "variants") :
    (markOthers product matching number).select? selector = product.select? selector := by
  unfold markOthers
  split
  · exact Json.select?_setField_of_ne _ _ different
  · rfl

theorem field?_markOthers (product : Json) (matching : Option Nat) (number : Nat) :
    (markOthers product matching number).field? "variants" =
      (product.field? "variants").map (markItems matching number) := by
  unfold markOthers
  split
  · rename_i variants found
    rw [Json.field?_setField_self (Json.isObject_of_field? found), found, Option.map_some]
  · rename_i shape
    cases found : product.field? "variants" with
    | none => rfl
    | some value =>
      cases value with
      | array variants => exact absurd found (shape variants)
      | _ => rfl

@[simp] theorem isObject_markMatching (product : Json) (matching : Option Nat) :
    (markMatching product matching).isObject = product.isObject := by
  rw [markMatching_eq, isObject_markOthers, isObject_markMaster]

theorem markMatching_of_not_object (matching : Option Nat) (shape : product.isObject = false) :
    markMatching product matching = product := by
  cases product with
  | object members => contradiction
  | _ => rfl

theorem field?_markMatching_master (product : Json) (matching : Option Nat) :
    (markMatching product matching).field? "masterVariant" =
      (product.field? "masterVariant").map (mark matching 0) := by
  have kept := select?_markOthers_of_ne (markMaster product matching) matching
    (master? product).toList.length (by decide : Selector.member "masterVariant" ≠ _)
  exact kept.trans (field?_markMaster product matching)

theorem field?_markMatching_variants (product : Json) (matching : Option Nat) :
    (markMatching product matching).field? "variants" =
      (product.field? "variants").map (markItems matching (master? product).toList.length) := by
  have kept : (markMaster product matching).field? "variants" = product.field? "variants" :=
    select?_markMaster_of_ne product matching (by decide : Selector.member "variants" ≠ _)
  rw [markMatching_eq, field?_markOthers, kept]

theorem select?_markMatching_of_ne (product : Json) (matching : Option Nat) {selector : Selector}
    (notMaster : selector ≠ .member "masterVariant") (notList : selector ≠ .member "variants") :
    (markMatching product matching).select? selector = product.select? selector := by
  rw [markMatching_eq, select?_markOthers_of_ne _ _ _ notList, select?_markMaster_of_ne _ _ notMaster]

/-! ### The variants of a marked product -/

theorem master?_markMatching (product : Json) (matching : Option Nat) :
    master? (markMatching product matching) = (master? product).map (mark matching 0) := by
  rw [master?, master?, field?_markMatching_master]
  cases product.field? "masterVariant" with
  | none => rfl
  | some value =>
    rw [Option.map_some, Option.filter_some, Option.filter_some, isObject_mark]
    split <;> rfl

theorem others_markMatching (product : Json) (matching : Option Nat) :
    others (markMatching product matching) = (others product).mapIdx fun index =>
      mark matching ((master? product).toList.length + index) := by
  rw [others, others, field?_markMatching_variants]
  cases product.field? "variants" with
  | none => rfl
  | some value => cases value <;> rfl

/-- Variants keep their numbers when they are marked. -/
theorem all_markMatching (product : Json) (matching : Option Nat) :
    all (markMatching product matching) = (all product).mapIdx (mark matching) := by
  have rest : (fun index => mark matching ((master? product).toList.length + index)) =
      fun index => mark matching (index + (master? product).toList.length) := by
    funext index
    rw [Nat.add_comm]
  rw [all, all, master?_markMatching, others_markMatching, List.mapIdx_append, rest]
  cases master? product <;> rfl

theorem places_markMatching (product : Json) (matching : Option Nat) :
    places (markMatching product matching) = places product := by
  rw [places, places, master?_markMatching, others_markMatching, List.mapIdx_mapIdx]
  cases master? product <;> rfl

/-! ### What marking keeps -/

/-- A marked variant differs at its mark only. -/
theorem hull_at?_mark (matching : Option Nat) (number : Nat) {position : Position}
    (apart : variant.isObject = true → ¬ [.member matchingFlag] <+: position) :
    ((mark matching number variant).at? position).map Json.hull =
      (variant.at? position).map Json.hull := by
  cases shape : variant.isObject with
  | false => rw [mark_of_not_object matching number shape]
  | true =>
    cases position with
    | nil =>
      have marked := (isObject_mark matching number variant).trans shape
      simp only [Json.at?_nil, Option.map_some, Json.hull_of_isObject shape,
        Json.hull_of_isObject marked]
    | cons selector position =>
      have different : selector ≠ .member matchingFlag := by
        rintro rfl
        exact apart shape (List.prefix_append [Selector.member matchingFlag] position)
      rw [Json.at?_cons, Json.at?_cons, mark, Json.select?_setField_of_ne _ _ different]

/-- In the list of variants, too, only marks differ. -/
theorem hull_at?_markItems (found : product.field? "variants" = some value) (matching : Option Nat)
    {position : Position} (apart : ∀ number mark, IsMark product number mark →
      ¬ mark <+: .member "variants" :: position) :
    ((markItems matching (master? product).toList.length value).at? position).map Json.hull =
      (value.at? position).map Json.hull := by
  cases value with
  | array variants =>
    cases position with
    | nil => rfl
    | cons selector position =>
      cases selector with
      | member name => rfl
      | item index =>
        rw [Json.at?_cons, Json.at?_cons, markItems, Json.select?, Json.select?, Json.item?, Json.item?,
          List.getElem?_mapIdx]
        cases there : variants[index]? with
        | none => rfl
        | some variant =>
          refine hull_at?_mark matching _ ?_
          intro shape within
          have listed : (others product)[index]? = some variant := by rw [others_of_array found, there]
          refine apart ((master? product).toList.length + index) _
            ⟨variant, [.member "variants", .item index], ?_, ?_, shape, rfl⟩ ?_
          · rw [all, List.getElem?_append_right (Nat.le_add_right ..), Nat.add_sub_cancel_left, listed]
          · rw [places, List.getElem?_append_right (by simp), List.length_map, Nat.add_sub_cancel_left,
              List.getElem?_mapIdx, listed, Option.map_some]
          · exact List.cons_prefix_cons.mpr ⟨rfl, List.cons_prefix_cons.mpr ⟨rfl, within⟩⟩
  | _ => rfl

/-- A marked product differs at the marks of its variants only. -/
theorem hull_at?_markMatching (product : Json) (matching : Option Nat) {position : Position}
    (apart : ∀ number mark, IsMark product number mark → ¬ mark <+: position) :
    ((markMatching product matching).at? position).map Json.hull =
      (product.at? position).map Json.hull := by
  cases position with
  | nil =>
    cases shape : product.isObject with
    | false => rw [markMatching_of_not_object matching shape]
    | true =>
      have marked := (isObject_markMatching product matching).trans shape
      simp only [Json.at?_nil, Option.map_some, Json.hull_of_isObject shape,
        Json.hull_of_isObject marked]
  | cons selector position =>
    by_cases isMaster : selector = .member "masterVariant"
    · subst isMaster
      rw [Json.at?_cons, Json.at?_cons, Json.select?, Json.select?, field?_markMatching_master]
      cases found : product.field? "masterVariant" with
      | none => rfl
      | some variant =>
        refine hull_at?_mark matching 0 ?_
        intro shape within
        have there := master?_eq_some_iff.mpr ⟨found, shape⟩
        refine apart 0 _ ⟨variant, [.member "masterVariant"], ?_, ?_, shape, rfl⟩ ?_
        · simp [all, there]
        · simp [places, there]
        · exact List.cons_prefix_cons.mpr ⟨rfl, within⟩
    · by_cases isList : selector = .member "variants"
      · subst isList
        rw [Json.at?_cons, Json.at?_cons, Json.select?, Json.select?, field?_markMatching_variants]
        cases found : product.field? "variants" with
        | none => rfl
        | some value => exact hull_at?_markItems found matching apart
      · rw [Json.at?_cons, Json.at?_cons, select?_markMatching_of_ne product matching isMaster isList]

/-! ### What marking does -/

/-- The mark of every variant says whether the variant is chosen, and everything else stands where it
stood before. -/
structure MarkedWhere (chosen : Nat → Prop) (before after : Json) : Prop where
  marks : ∀ number position, IsMark before number position →
    ∃ flag, after.at? position = some (.bool flag) ∧ (flag = true ↔ chosen number)
  elsewhere : ∀ position, (∀ number mark, IsMark before number mark → ¬ mark <+: position) →
    (after.at? position).map Json.hull = (before.at? position).map Json.hull

theorem markedWhere_markMatching (product : Json) (matching : Option Nat) :
    MarkedWhere (matching = some ·) product (markMatching product matching) := by
  constructor
  · rintro number position ⟨variant, place, listed, placed, shape, rfl⟩
    have there : (markMatching product matching).at? place = some (mark matching number variant) := by
      rw [← places_markMatching product matching] at placed
      rw [at?_place placed, all_markMatching, List.getElem?_mapIdx, listed, Option.map_some]
    refine ⟨decide (some number = matching), ?_, ?_⟩
    · rw [Json.at?_append, there, Option.bind_some]
      exact Json.at?_cons_of_some (Json.select?_setField_self shape ..) []
    · rw [decide_eq_true_iff]
      exact eq_comm
  · intro position apart
    exact hull_at?_markMatching product matching apart

/-- Two variants never both carry a mark that is true. -/
def AtMostOneMarked (product : Json) : Prop :=
  ∀ (one other : Nat) (first second : Json),
    (all product)[one]? = some first → (all product)[other]? = some second →
    first.field? matchingFlag = some (.bool true) → second.field? matchingFlag = some (.bool true) →
    one = other

theorem atMostOneMarked_markMatching (product : Json) (matching : Option Nat) :
    AtMostOneMarked (markMatching product matching) := by
  have chosen : ∀ number variant, (all (markMatching product matching))[number]? = some variant →
      variant.field? matchingFlag = some (.bool true) → some number = matching := by
    intro number variant listed marked
    rw [all_markMatching, List.getElem?_mapIdx] at listed
    obtain ⟨original, -, rfl⟩ := Option.map_eq_some_iff.mp listed
    have shape := (isObject_mark matching number original).symm.trans (Json.isObject_of_field? marked)
    rw [mark, Json.field?_setField_self shape] at marked
    simpa using marked
  intro one other first second listed listed' marked marked'
  have same := (chosen one first listed marked).trans (chosen other second listed' marked').symm
  exact Option.some.inj same

end Storefront.Variant
