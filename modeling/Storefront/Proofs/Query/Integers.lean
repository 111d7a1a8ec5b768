import Storefront.Proofs.Decimal.Rounding
import Storefront.Proofs.Predicate.SetOperators
import Storefront.Proofs.Query.Candidates

/-!
Integers in comparisons. All of them go by the binary64 numbers of the integers, loose or strict, in
predicates and in queries. So integers are told apart unless they round together, as none below `2 ^ 53`
do.
-/
namespace Storefront

open Binary64 (RoundTogether)

variable {a b : Int}

theorem Number.natAbs_lt_of_inRange (range : (Number.integer a).InRange) : a.natAbs < 2 ^ 64 := by
  obtain ⟨low, high⟩ : -0x8000000000000000 ≤ a ∧ a < 0x10000000000000000 := range
  omega

theorem Json.strictEq_ofInt_iff (first : (Number.integer a).InRange)
    (second : (Number.integer b).InRange) :
    Json.strictEq (.ofInt a) (.ofInt b) = true ↔ RoundTogether a b :=
  Binary64.equal_ofInt_iff (Number.natAbs_lt_of_inRange first) (Number.natAbs_lt_of_inRange second)

/-! ### Predicates -/

namespace Predicate

/-- A text that compares a field with an integer, whatever its blanks and its spelling of the integer. -/
def Equates (source field : String) (n : Int) : Prop :=
  ∃ sign word converts,
    Reads source field (.comparison .equal sign (.number word (.ofInt n) converts))

variable {source field : String} {n : Int}

theorem equates_decimal (named : IsFieldName field) (fits : Numeral.Fits n) :
    Equates (field ++ (" = " ++ toString n)) field n := by
  have solid : StartsSolid (Numeral.decimal n ++ []) := by
    obtain ⟨c, cs, split, notBlank, -⟩ := Numeral.decimal_starts n
    exact ⟨c, cs, by rw [List.append_nil, split], notBlank⟩
  have numeral : Lexes lexicon (Numeral.decimal n ++ []) [⟨.number, toString n⟩] := by
    have whole := lexes_token (lexes_nil lexicon)
      (Numeral.firstMatch?_decimal n (Pattern.floatingPoint_decimal n rfl nofun))
    rwa [Numeral.decimal, String.ofList_toList] at whole
  have sign := lexes_word ⟨'=', [], rfl, rfl⟩ (lexes_blank solid numeral) rfl
  have converts : Literal.number (toString n) = .ok (.ofInt n) := by
    have read := Literal.number_decimal fits
    rwa [Numeral.decimal, String.ofList_toList] at read
  have text : (" = " ++ toString n).toList = ' ' :: (['='] ++ ' ' :: (Numeral.decimal n ++ [])) := by
    rw [String.toList_append, List.append_nil]
    rfl
  exact ⟨.of .eq "=", .of .number (toString n), converts, reads_written named text (text ▸ sign)⟩

theorem Equates.ask_eq (equates : Equates source field n) (vars : Variables) (doc : Json) :
    ask source vars doc = .ok (Relation.equal.holds (doc.field? field) (.ofInt n)) := by
  obtain ⟨sign, word, converts, reads⟩ := equates
  exact reads.ask_comparison rfl doc

end Predicate

/-! ### Queries -/

theorem Query.holds_exact_ofInt {target : Query.Target} {doc : Json}
    (single : Variant.relativePath? target.field.toList = none)
    (found : target.resolve? target.field.toList doc = some (.ofInt a)) (values : Option (List Json))
    (ignoreCase : Bool) :
    (Query.exact target (some (.ofInt b)) values ignoreCase).holds doc =
      .ok (Json.strictEq (.ofInt a) (.ofInt b)) := by
  have found : target.tried doc = [.ofInt a] := by
    rw [target.tried_of_plain single, found]
    rfl
  rw [Query.holds_exact rfl, found, List.any_cons, List.any_nil, List.any_cons, List.any_nil,
    Bool.or_false, Bool.or_false]
  rfl

/-! ### Both -/

/-- Two integers are equal in every comparison exactly if they round together, and otherwise ordered as
they are. Different ones that round together are not smaller than `2 ^ 53` and differ by 2048 at most.
A predicate that equates a field with an integer, and an exact query on one, hold of an integer in the
same case. -/
theorem integers_equal_exactly_if_rounded_together (first : (Number.integer a).InRange)
    (second : (Number.integer b).InRange) :
    (a = b → RoundTogether a b) ∧
    (RoundTogether a b → a = b ∨
      2 ^ 53 ≤ a.natAbs ∧ 2 ^ 53 ≤ b.natAbs ∧ (a - b).natAbs ≤ 2048) ∧
    (Json.strictEq (.ofInt a) (.ofInt b) = true ↔ RoundTogether a b) ∧
    (Json.looseEq (some (.ofInt a)) (.ofInt b) = true ↔ RoundTogether a b) ∧
    (∀ order ∈ [Json.compareStrict (.ofInt a) (.ofInt b), Json.compareLoose (.ofInt a) (.ofInt b)],
      (RoundTogether a b → order = some .eq) ∧
      (¬ RoundTogether a b → order = some (compare a b))) ∧
    (∀ field, Predicate.IsFieldName field → Numeral.Fits b →
      Predicate.Equates (field ++ (" = " ++ toString b)) field b) ∧
    (∀ source field vars doc, Predicate.Equates source field b →
      doc.field? field = some (.ofInt a) →
      ∃ held, Predicate.ask source vars doc = .ok held ∧ (held = true ↔ RoundTogether a b)) ∧
    ∀ (target : Query.Target) values ignoreCase doc,
      Variant.relativePath? target.field.toList = none →
      target.resolve? target.field.toList doc = some (.ofInt a) →
      ∃ held, (Query.exact target (some (.ofInt b)) values ignoreCase).holds doc = .ok held ∧
        (held = true ↔ RoundTogether a b) := by
  have firstSmall := Number.natAbs_lt_of_inRange first
  have secondSmall := Number.natAbs_lt_of_inRange second
  have equal := Json.strictEq_ofInt_iff first second
  obtain ⟨level, apart⟩ := Binary64.order_ofInt firstSmall secondSmall
  refine ⟨?_, ?_, equal, equal, ?_, ?_, ?_, ?_⟩
  · rintro rfl
    obtain ⟨r, rounds, -⟩ := Binary64.toInt_ofInt firstSmall
    exact ⟨r, rounds, rounds⟩
  · intro together
    rcases eq_or_ne a b with same | different
    · exact .inl same
    · exact .inr (together.large different firstSmall secondSmall)
  · have ordered : ∀ order : Option Ordering,
        order = some ((Binary64.ofInt a).order (.ofInt b)) →
        (RoundTogether a b → order = some .eq) ∧
        (¬ RoundTogether a b → order = some (compare a b)) := by
      rintro order rfl
      exact ⟨fun together => congrArg some (level together), fun not => congrArg some (apart not)⟩
    simp only [List.forall_mem_cons]
    exact ⟨ordered _ rfl, ordered _ rfl, nofun⟩
  · exact fun field named fits => Predicate.equates_decimal named fits
  · intro source field vars doc equates held
    refine ⟨_, equates.ask_eq vars doc, ?_⟩
    rw [held]
    exact equal
  · intro target values ignoreCase doc single found
    exact ⟨_, Query.holds_exact_ofInt single found values ignoreCase, equal⟩

/-- The integers around the least one that is not exact: it and the one before it round together, it and
the one behind it do not. -/
theorem integers_equal_if_rounded_together_at_bound :
    let doc (n : Int) := Json.object [("f", .ofInt n)]
    let query := Query.exact ⟨"f", none, none⟩ (some (.ofInt 9007199254740993)) none false
    (∀ n ∈ [9007199254740992, 9007199254740993, 9007199254740994], (Number.integer n).InRange) ∧
      RoundTogether 9007199254740992 9007199254740993 ∧
      ¬ RoundTogether 9007199254740994 9007199254740993 ∧
      Predicate.ask "f = 9007199254740993" [] (doc 9007199254740992) = .ok true ∧
      Predicate.ask "f = 9007199254740993" [] (doc 9007199254740994) = .ok false ∧
      query.holds (doc 9007199254740992) = .ok true ∧
      query.holds (doc 9007199254740994) = .ok false ∧
      Json.compareStrict (.ofInt 9007199254740994) (.ofInt 9007199254740993) = some .gt := by
  intro doc query
  have below : (Number.integer 9007199254740992).InRange := by simp [Number.InRange]
  have middle : (Number.integer 9007199254740993).InRange := by simp [Number.InRange]
  have above : (Number.integer 9007199254740994).InRange := by simp [Number.InRange]
  have named : Predicate.IsFieldName "f" := ⟨⟨'f', [], rfl, by decide, by decide⟩, by decide, by decide⟩
  have single : Variant.relativePath? "f".toList = none := by decide
  have found (n : Int) : Query.Target.resolve? ⟨"f", none, none⟩ "f".toList (doc n) = some (.ofInt n) :=
    rfl
  obtain ⟨-, -, equal, -, -, equates, asks, holds⟩ :=
    integers_equal_exactly_if_rounded_together below middle
  obtain ⟨-, -, equal', -, ordered', -, asks', holds'⟩ :=
    integers_equal_exactly_if_rounded_together above middle
  have together : RoundTogether 9007199254740992 9007199254740993 := equal.mp (by decide +kernel)
  have apart : ¬ RoundTogether 9007199254740994 9007199254740993 :=
    fun together' => absurd (equal'.mpr together') (by decide +kernel)
  have text := equates "f" named (by decide)
  obtain ⟨held, asked, held_iff⟩ := asks _ "f" [] (doc 9007199254740992) text rfl
  obtain rfl := held_iff.mpr together
  obtain ⟨held', asked', held'_iff⟩ := asks' _ "f" [] (doc 9007199254740994) text rfl
  obtain rfl := Bool.eq_false_iff.mpr (mt held'_iff.mp apart)
  obtain ⟨truth, answered, truth_iff⟩ := holds _ none false (doc 9007199254740992) single (found _)
  obtain rfl := truth_iff.mpr together
  obtain ⟨truth', answered', truth'_iff⟩ := holds' _ none false (doc 9007199254740994) single (found _)
  obtain rfl := Bool.eq_false_iff.mpr (mt truth'_iff.mp apart)
  refine ⟨?_, together, apart, asked, asked', answered, answered', ?_⟩
  · simp only [List.forall_mem_cons]
    exact ⟨below, middle, above, nofun⟩
  · exact (ordered' _ List.mem_cons_self).2 apart

/-- Two different integers that are equal in every comparison, in a predicate and in a query. -/
theorem neighbouring_integers_equal :
    let doc := Json.object [("f", .ofInt 9007199254740992)]
    let n := Json.ofInt 9007199254740993
    Json.strictEq n (.ofInt 9007199254740992) = true ∧
      Json.looseEq (some n) (.ofInt 9007199254740992) = true ∧
      Json.compareStrict n (.ofInt 9007199254740992) = some .eq ∧
      Json.compareLoose n (.ofInt 9007199254740992) = some .eq ∧
      Predicate.ask "f = 9007199254740993" [] doc = .ok true ∧
      (Query.exact ⟨"f", none, none⟩ (some n) none false).holds doc = .ok true ∧
      ¬ ∀ a b : Int, (Number.integer a).InRange → (Number.integer b).InRange →
        (Json.strictEq (.ofInt a) (.ofInt b) = true ↔ a = b) := by
  intro doc n
  have named : Predicate.IsFieldName "f" := ⟨⟨'f', [], rfl, by decide, by decide⟩, by decide, by decide⟩
  have equal : Json.strictEq (.ofInt 9007199254740992) n = true := by decide +kernel
  have text : Predicate.Equates "f = 9007199254740993" "f" 9007199254740993 :=
    Predicate.equates_decimal named (by decide)
  have answered : (Query.exact ⟨"f", none, none⟩ (some n) none false).holds doc =
      .ok (Json.strictEq (.ofInt 9007199254740992) n) :=
    Query.holds_exact_ofInt (by decide) rfl none false
  refine ⟨by decide +kernel, by decide +kernel, by decide +kernel, by decide +kernel, ?_, ?_, ?_⟩
  · exact (text.ask_eq [] doc).trans (congrArg Except.ok equal)
  · exact answered.trans (congrArg Except.ok equal)
  · intro exact
    have same := (exact 9007199254740992 9007199254740993 (by simp [Number.InRange])
      (by simp [Number.InRange])).mp equal
    exact absurd same (by decide)

end Storefront
