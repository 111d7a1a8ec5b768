import Storefront.Proofs.Catalog.Marks
import Storefront.Proofs.Expansion.Growth

/-! Expansion of marked products. A clause that does not step onto the mark of a variant does the same
with a product and with the product marked: both fail alike, or both come out the same but for the
marks. -/
namespace Storefront

/-- Two outcomes are the same failure, or results that are related. -/
def Alike {α β : Type} (related : α → β → Prop) : Except Error α → Except Error β → Prop
  | .error first, .error second => first = second
  | .ok first, .ok second => related first second
  | _, _ => False

section Alike
variable {α β γ δ : Type} {related : α → β → Prop} {next : γ → δ → Prop}

theorem alike_refl {related : α → α → Prop} (reflexive : ∀ value, related value value)
    (outcome : Except Error α) : Alike related outcome outcome := by
  cases outcome with
  | error error => exact rfl
  | ok value => exact reflexive value

theorem Alike.cases {first : Except Error α} {second : Except Error β}
    (alike : Alike related first second) :
    (∃ error, first = .error error ∧ second = .error error) ∨
      ∃ a b, first = .ok a ∧ second = .ok b ∧ related a b := by
  cases first with
  | error error =>
    cases second with
    | error other => exact .inl ⟨error, rfl, congrArg Except.error (Eq.symm alike)⟩
    | ok b => exact alike.elim
  | ok a =>
    cases second with
    | error other => exact alike.elim
    | ok b => exact .inr ⟨a, b, rfl, rfl, alike⟩

theorem Alike.bind {first : Except Error α} {second : Except Error β}
    (alike : Alike related first second) {one : α → Except Error γ} {other : β → Except Error δ}
    (further : ∀ a b, related a b → Alike next (one a) (other b)) :
    Alike next (first >>= one) (second >>= other) := by
  rcases alike.cases with ⟨error, rfl, rfl⟩ | ⟨a, b, rfl, rfl, same⟩
  · exact rfl
  · exact further a b same

theorem Alike.map {first : Except Error α} {second : Except Error β}
    (alike : Alike related first second) {one : α → γ} {other : β → δ}
    (further : ∀ a b, related a b → next (one a) (other b)) :
    Alike next (first.map one) (second.map other) := by
  rcases alike.cases with ⟨error, rfl, rfl⟩ | ⟨a, b, rfl, rfl, same⟩
  · exact rfl
  · exact further a b same

theorem Alike.mono {stronger : α → β → Prop} {first : Except Error α} {second : Except Error β}
    (alike : Alike stronger first second) (weaker : ∀ a b, stronger a b → related a b) :
    Alike related first second := by
  rcases alike.cases with ⟨error, rfl, rfl⟩ | ⟨a, b, rfl, rfl, same⟩
  · exact rfl
  · exact weaker a b same

theorem alike_eq_iff {first second : Except Error α} : Alike Eq first second ↔ first = second := by
  cases first <;> cases second <;> simp [Alike]

/-- Outcomes are alike to one who sees only what is read off the results, if the same is read off. -/
theorem alike_iff_map_eq {first : Except Error α} {second : Except Error β} {one : α → γ}
    {other : β → γ} :
    Alike (fun a b => one a = other b) first second ↔ first.map one = second.map other := by
  cases first <;> cases second <;> simp [Alike, Except.map]

theorem alike_mapM {as : List α} {bs : List β} (lists : List.Forall₂ related as bs)
    {one : α → Except Error γ} {other : β → Except Error δ}
    (each : ∀ a b, related a b → Alike next (one a) (other b)) :
    Alike (List.Forall₂ next) (as.mapM one) (bs.mapM other) := by
  induction lists with
  | nil => exact .nil
  | cons here _ ih =>
    rw [List.mapM_cons, List.mapM_cons]
    exact (each _ _ here).bind fun _ _ head => ih.bind fun _ _ tail => .cons head tail

end Alike

namespace Variant
open Expansion (Surroundings Clause Index attach arrive enter walk)

variable {around : Surroundings} {first second : Json}

/-! ### In a variant -/

theorem SameButMark.setField (same : SameButMark first second) (name : String) (member : Json) :
    SameButMark (first.setField name member) (second.setField name member) := by
  rcases same with rfl | ⟨isFirst, isSecond, same⟩
  · exact .refl _
  · refine .inr ⟨(Json.isObject_setField ..).trans isFirst,
      (Json.isObject_setField ..).trans isSecond, fun other unmarked => ?_⟩
    by_cases equal : name = other
    · subst equal
      rw [Json.field?_setField_self isFirst, Json.field?_setField_self isSecond]
    · rw [Json.field?_setField_of_ne _ _ equal, Json.field?_setField_of_ne _ _ equal,
        same other unmarked]

theorem SameButMark.ofValue? (same : SameButMark first second) :
    Reference.ofValue? first = Reference.ofValue? second := by
  rw [Reference.ofValue?, Reference.ofValue?, same.field? (by decide), same.field? (by decide),
    same.field? (by decide)]

theorem alike_attach (same : SameButMark first second) (reference : Reference) :
    Alike SameButMark (attach around reference first) (attach around reference second) := by
  unfold attach
  rw [same.field? (by decide : Reference.targetField ≠ matchingFlag)]
  split
  · exact same
  · exact same.setField _ _
  · split
    · exact rfl
    · exact same

/-- Arriving at a variant, or at the document that it refers to. -/
theorem alike_arrive (same : SameButMark first second) {go : Json → Except Error Json}
    (goes : Alike SameButMark (go first) (go second)) :
    Alike SameButMark (arrive around go first) (arrive around go second) := by
  unfold arrive
  rw [same.ofValue?]
  cases Reference.ofValue? second with
  | none => exact goes
  | some reference =>
    have attaches : Alike SameButMark (attach around reference first)
        (attach around reference second) := alike_attach same reference
    dsimp only
    rcases attaches.cases with ⟨error, failed, failed'⟩ | ⟨one, other, done, done', attached⟩
    · rw [failed, failed']
      exact rfl
    · rw [done, done']
      dsimp only
      rw [attached.field? (by decide : Reference.targetField ≠ matchingFlag)]
      split
      · exact attached
      · exact (alike_refl (fun _ => rfl) _).map fun _ _ same => same ▸ attached.setField _ _

/-- A way that does not begin with the mark. -/
def SkipsMark (clause : Clause) : Prop :=
  ∀ step ∈ clause.head?, step.element ≠ matchingFlag

theorem alike_walk (same : SameButMark first second) {clause : Clause} (skips : SkipsMark clause) :
    Alike SameButMark (walk around clause first) (walk around clause second) := by
  cases clause with
  | nil => exact same
  | cons step steps =>
    simp only [walk]
    rw [same.field? (skips step rfl)]
    split
    · exact same
    · exact (alike_refl (fun _ => rfl) _).map fun _ _ equal => equal ▸ same.setField _ _

theorem walk_array (clause : Clause) (items : List Json) :
    walk around clause (.array items) = .ok (.array items) := by
  cases clause <;> rfl

theorem forall₂_set {α β : Type} {related : α → β → Prop} {as : List α} {bs : List β}
    (lists : List.Forall₂ related as bs) {a : α} {b : β} (here : related a b) (position : Nat) :
    List.Forall₂ related (as.set position a) (bs.set position b) := by
  induction lists generalizing position with
  | nil => exact .nil
  | cons first rest ih =>
    cases position with
    | zero => exact .cons here rest
    | succ position => exact .cons first (ih position)

/-- Going on in the variants of a product. -/
theorem alike_enter (same : SameVariants first second) {clause : Clause} (skips : SkipsMark clause)
    (index : Option Index) :
    Alike SameVariants (enter (arrive around (walk around clause)) index first)
      (enter (arrive around (walk around clause)) index second) := by
  have arrives : ∀ one other, SameButMark one other →
      Alike SameButMark (arrive around (walk around clause) one)
        (arrive around (walk around clause) other) :=
    fun one other same => alike_arrive same (alike_walk same skips)
  rcases same with same | ⟨firsts, seconds, rfl, rfl, same⟩
  · cases index with
    | none => exact (arrives first second same).mono fun _ _ => .inl
    | some index =>
      rcases same with rfl | ⟨isFirst, isSecond, same⟩
      · exact alike_refl .refl _
      · obtain ⟨_, rfl⟩ := Json.isObject_iff.mp isFirst
        obtain ⟨_, rfl⟩ := Json.isObject_iff.mp isSecond
        cases index <;> exact .inl (.inr ⟨rfl, rfl, same⟩)
  · match index with
    | none =>
      have plain : ∀ items, Reference.ofValue? (.array items) = none := fun _ => rfl
      simp only [enter, Expansion.arrive_plain (plain _), walk_array]
      exact .inr ⟨firsts, seconds, rfl, rfl, same⟩
    | some (.at position) =>
      simp only [enter]
      rcases Expansion.forall₂_getElem? same position with ⟨none, none'⟩ | ⟨one, other, found, found', here⟩
      · rw [none, none']
        exact .inr ⟨firsts, seconds, rfl, rfl, same⟩
      · rw [found, found']
        refine (arrives one other here).map fun _ _ here => ?_
        exact .inr ⟨_, _, rfl, rfl, forall₂_set same here position⟩
    | some .all =>
      exact (alike_mapM same arrives).map fun _ _ same => .inr ⟨_, _, rfl, rfl, same⟩

/-! ### In a product -/

theorem SameProduct.isObject (same : SameProduct first second) : first.isObject = second.isObject := by
  rcases same with rfl | ⟨isFirst, isSecond, -⟩
  · rfl
  · exact isFirst.trans isSecond.symm

theorem SameProduct.setField_both (same : SameProduct first second) (shape : first.isObject = true)
    {name : String} {one other : Json} (variants : name ∈ carriers → SameVariants one other)
    (equal : name ∉ carriers → one = other) :
    SameProduct (first.setField name one) (second.setField name other) := by
  have shape' : second.isObject = true := same.isObject.symm.trans shape
  refine .inr ⟨(Json.isObject_setField ..).trans shape, (Json.isObject_setField ..).trans shape',
    fun field notCarrier => ?_, fun field carrier => ?_⟩
  · by_cases here : name = field
    · subst here
      rw [Json.field?_setField_self shape, Json.field?_setField_self shape', equal notCarrier]
    · rw [Json.field?_setField_of_ne _ _ here, Json.field?_setField_of_ne _ _ here,
        same.field? notCarrier]
  · by_cases here : name = field
    · subst here
      rw [Json.field?_setField_self shape, Json.field?_setField_self shape']
      exact .inr ⟨one, other, rfl, rfl, variants carrier⟩
    · rw [Json.field?_setField_of_ne _ _ here, Json.field?_setField_of_ne _ _ here]
      exact same.variants carrier

/-- A way that goes from the variants of a product straight to a mark. -/
def StepsOntoMark (clause : Clause) : Prop :=
  ∃ step next rest, clause = step :: next :: rest ∧ step.element ∈ carriers ∧
    next.element = matchingFlag

/-- None of these clauses that can be read steps onto a mark. -/
def AvoidMarks (clauses : List String) : Prop :=
  ∀ source ∈ clauses, ∀ clause, Expansion.readClause source = .ok clause → ¬ StepsOntoMark clause

theorem alike_walk_product (same : SameProduct first second) {clause : Clause}
    (avoids : ¬ StepsOntoMark clause) :
    Alike SameProduct (walk around clause first) (walk around clause second) := by
  cases clause with
  | nil => exact same
  | cons step steps =>
    simp only [walk]
    by_cases carrier : step.element ∈ carriers
    · have skips : SkipsMark steps := by
        intro next head onto
        obtain ⟨rest, rfl⟩ := List.head?_eq_some_iff.mp head
        exact avoids ⟨step, next, rest, rfl, carrier, onto⟩
      rcases same.variants carrier with ⟨missing, missing'⟩ | ⟨one, other, found, found', variants⟩
      · rw [missing, missing']
        exact same
      · rw [found, found']
        refine (alike_enter variants skips step.index).map fun _ _ variants => ?_
        exact same.setField_both (Json.isObject_of_field? found) (fun _ => variants)
          fun none => absurd carrier none
    · rw [same.field? carrier]
      cases found : second.field? step.element with
      | none => exact same
      | some member =>
        have shape : first.isObject = true := same.isObject.trans (Json.isObject_of_field? found)
        refine (alike_refl (fun _ => rfl) _).map fun _ _ equal => ?_
        exact same.setField_both shape (fun isCarrier => absurd isCarrier carrier) fun _ => equal

/-- Expansion does the same with marks and without, if no clause steps onto a mark. -/
theorem alike_expand {clauses : List String} (avoid : AvoidMarks clauses)
    (same : SameProduct first second) :
    Alike SameProduct (Expansion.expand around clauses first)
      (Expansion.expand around clauses second) := by
  induction clauses generalizing first second with
  | nil => exact same
  | cons source later ih =>
    obtain ⟨here, behind⟩ := List.forall_mem_cons.mp avoid
    rw [Expansion.expand_cons, Expansion.expand_cons]
    cases read : Expansion.readClause source with
    | error error => exact rfl
    | ok clause => exact (alike_walk_product same (here clause read)).bind fun _ _ => ih behind

/-- Without strict references expansion fails as the reading of its clauses does, of whatever value. -/
theorem alike_expand_of_lenient (lenient : around.strict = false) (clauses : List String) :
    Alike (fun _ _ => True) (Expansion.expand around clauses first)
      (Expansion.expand around clauses second) := by
  cases one : Expansion.expand around clauses first with
  | error error =>
    have unread := (Expansion.expand_error_iff_of_lenient lenient).mp one
    rw [(Expansion.expand_error_iff_of_lenient lenient).mpr unread]
    exact rfl
  | ok result =>
    cases other : Expansion.expand around clauses second with
    | error error =>
      have unread := (Expansion.expand_error_iff_of_lenient lenient).mp other
      cases one.symm.trans ((Expansion.expand_error_iff_of_lenient lenient).mpr unread)
    | ok result => exact trivial

end Variant
end Storefront
