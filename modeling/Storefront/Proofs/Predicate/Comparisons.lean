import Storefront.Proofs.Json.Comparison
import Storefront.Proofs.Json.Path
import Storefront.Proofs.Predicate.SetOperators

/-!
Comparisons of a field with a literal. Without null among what the field holds, a comparison holds if some
value of the field has an order to the literal that the relation accepts. So the six relations are of one
piece: at least is greater or equal, at most is less or equal, and a single value is on one side at most.
-/
namespace Storefront

/-! ### Relations as sets of orders -/

namespace Relation

def accepts : Relation → Ordering → Bool
  | equal => (· == .eq)
  | notEqual => (· != .eq)
  | greater => (· == .gt)
  | less => (· == .lt)
  | atLeast => (· != .lt)
  | atMost => (· != .gt)

def sign : Relation → String
  | equal => "="
  | notEqual => "!="
  | greater => ">"
  | less => "<"
  | atLeast => ">="
  | atMost => "<="

/-- The relations of which each accepts a single order. -/
def sides : List Relation :=
  [less, equal, greater]

theorem accepts_atLeast (order : Ordering) :
    atLeast.accepts order = true ↔ greater.accepts order = true ∨ equal.accepts order = true := by
  cases order <;> decide

theorem accepts_atMost (order : Ordering) :
    atMost.accepts order = true ↔ less.accepts order = true ∨ equal.accepts order = true := by
  cases order <;> decide

theorem eq_of_accepts {first second : Relation} {order : Ordering} (listed : first ∈ sides)
    (listed' : second ∈ sides) (accepted : first.accepts order = true)
    (accepted' : second.accepts order = true) : first = second := by
  have each : ∀ relation ∈ sides, relation.accepts order = true →
      relation = match order with
        | .lt => less
        | .eq => equal
        | .gt => greater := by
    simp only [sides, List.forall_mem_cons]
    cases order <;> simp [accepts]
  exact (each first listed accepted).trans (each second listed' accepted').symm

theorem exists_side (order : Ordering) : ∃ relation ∈ sides, relation.accepts order = true := by
  cases order with
  | lt => exact ⟨less, by simp [sides], rfl⟩
  | eq => exact ⟨equal, by simp [sides], rfl⟩
  | gt => exact ⟨greater, by simp [sides], rfl⟩

end Relation

/-! ### Values of fields -/

section Holds
variable {member : Option Json} {literal : Json} {relation : Relation} {condition : Option Json → Bool}

theorem anyElement_eq_any (absent : condition none = false) :
    anyElement member condition = (Json.finds member).any fun value => condition (some value) := by
  cases member with
  | none => exact absent
  | some value => cases value <;> simp [anyElement, Json.finds, Json.candidates]

/-- A field is in some relation to a literal if one of its values has an order to the literal that the
relation accepts. For equality null must not be among them: it counts as zero in an order. -/
theorem Relation.holds_iff (present : Json.null ∉ Json.finds member) (scalar : literal.IsScalar)
    (positive : relation ≠ notEqual) :
    relation.holds member literal = true ↔ ∃ value ∈ Json.finds member, ∃ order,
      value.compareLoose literal = some order ∧ relation.accepts order = true := by
  have asOrder (accept : Ordering → Bool) : anyElement member (ordered accept literal) = true ↔
      ∃ value ∈ Json.finds member, ∃ order,
        value.compareLoose literal = some order ∧ accept order = true := by
    rw [anyElement_eq_any rfl, List.any_eq_true]
    refine exists_congr fun value => and_congr_right fun _ => ?_
    rw [ordered]
    cases value.compareLoose literal <;> simp
  have equality : anyElement member (Json.looseEq · literal) =
      anyElement member (ordered (· == .eq) literal) := by
    have absent : Json.looseEq none literal = false := by cases scalar <;> rfl
    rw [anyElement_eq_any absent, anyElement_eq_any rfl, Bool.eq_iff_iff, List.any_eq_true,
      List.any_eq_true]
    refine exists_congr fun value => and_congr_right fun among => ?_
    have nonNull : value ≠ .null := fun same => present (same ▸ among)
    rw [Json.looseEq_eq_compareLoose nonNull scalar, ordered]
  cases relation with
  | equal =>
    rw [holds, equality]
    exact asOrder _
  | notEqual => exact absurd rfl positive
  | _ => exact asOrder _

end Holds

/-! ### Texts of comparisons -/

namespace Predicate

/-- A text that compares a field with a literal of some value, whatever its blanks and its spelling. -/
def Compares (source field : String) (relation : Relation) (literal : Json) : Prop :=
  ∃ sign term, (∀ vars, Term.value vars term = .ok literal) ∧
    Reads source field (.comparison relation sign term)

variable {source field : String} {relation : Relation} {literal : Json}

theorem exists_number_of_converts {text : String} (converts : Literal.number text = .ok literal) :
    ∃ value, literal = .number value := by
  unfold Literal.number at converts
  split at converts
  · exact ⟨_, (Except.ok.inj converts).symm⟩
  · split at converts
    · exact ⟨_, (Except.ok.inj converts).symm⟩
    · contradiction

/-- What has a value whatever the parameters are bound to is no parameter. -/
theorem Compares.isScalar (compares : Compares source field relation literal) : literal.IsScalar := by
  obtain ⟨sign, term, value, -⟩ := compares
  have alone := value []
  cases term with
  | text word =>
    cases alone
    exact .string _
  | number word value converts =>
    cases alone
    obtain ⟨number, rfl⟩ := exists_number_of_converts converts
    exact .number number
  | yes word =>
    cases alone
    exact .bool true
  | no word =>
    cases alone
    exact .bool false
  | parameter word => contradiction

theorem Compares.ask_eq (compares : Compares source field relation literal) (vars : Variables)
    (doc : Json) : ask source vars doc = .ok (relation.holds (doc.field? field) literal) := by
  obtain ⟨sign, term, value, reads⟩ := compares
  exact reads.ask_comparison (value vars) doc

/-! ### Writing comparisons -/

section Writing
variable {rest : List Char} {behind : List (Lexeme Kind)} {written : String} {term : Term}

theorem lexes_sign (relation : Relation) (further : Lexes lexicon (' ' :: rest) behind) :
    Lexes lexicon (' ' :: (relation.sign.toList ++ ' ' :: rest))
      (⟨.ofRelation relation, relation.sign⟩ :: behind) := by
  cases relation with
  | equal => exact lexes_word ⟨'=', [], rfl, rfl⟩ further rfl
  | notEqual => exact lexes_word ⟨'!', ['='], rfl, rfl⟩ further rfl
  | greater => exact lexes_word ⟨'>', [], rfl, rfl⟩ further rfl
  | less => exact lexes_word ⟨'<', [], rfl, rfl⟩ further rfl
  | atLeast => exact lexes_word ⟨'>', ['='], rfl, rfl⟩ further rfl
  | atMost => exact lexes_word ⟨'<', ['='], rfl, rfl⟩ further rfl

/-- A field name, a sign and a literal with blanks between them. -/
theorem compares_written (named : IsFieldName field) (solid : StartsSolid written.toList)
    (cut : Lexes lexicon written.toList [term.token.lexeme])
    (value : ∀ vars, Term.value vars term = .ok literal) (relation : Relation) :
    Compares (field ++ (" " ++ relation.sign ++ " " ++ written)) field relation literal := by
  have spaced : (" " ++ relation.sign ++ " " ++ written).toList =
      ' ' :: (relation.sign.toList ++ ' ' :: written.toList) := by simp
  have behind := lexes_sign relation (lexes_blank solid cut)
  refine ⟨.of _ relation.sign, term, value, reads_written named spaced ?_⟩
  rw [spaced]
  exact behind

end Writing

/-- The six comparisons of a field with one literal. None of them fails. Without null among what the field
holds, at least is greater or equal and at most is less or equal; and a single value of the field is less
than the literal, equal to it or greater, at most one of the three, and one of them exactly if both are
texts or both count as numbers. -/
theorem order_coherent_with_equality {text : Relation → String}
    (compares : ∀ relation, Compares (text relation) field relation literal) (vars : Variables)
    (doc : Json) :
    ∃ answer : Relation → Bool, (∀ relation, ask (text relation) vars doc = .ok (answer relation)) ∧
      answer .notEqual = !answer .equal ∧
      (Json.null ∉ Json.finds (doc.field? field) →
        (answer .atLeast = true ↔ answer .greater = true ∨ answer .equal = true) ∧
        (answer .atMost = true ↔ answer .less = true ∨ answer .equal = true)) ∧
      ∀ value, doc.field? field = some value → value.IsScalar →
        (∀ first ∈ Relation.sides, ∀ second ∈ Relation.sides,
          answer first = true → answer second = true → first = second) ∧
        ((∃ relation ∈ Relation.sides, answer relation = true) ↔ Json.Comparable value literal) := by
  have scalar := (compares .equal).isScalar
  refine ⟨fun relation => relation.holds (doc.field? field) literal,
    fun relation => (compares relation).ask_eq vars doc, rfl, ?_, ?_⟩
  · intro present
    simp only [Relation.holds_iff present scalar, ne_eq, reduceCtorEq, not_false_eq_true,
      Relation.accepts_atLeast, Relation.accepts_atMost, and_or_left, exists_or, and_self]
  · intro value held single
    have found : Json.finds (doc.field? field) = [value] := by
      rw [held]
      cases single <;> rfl
    have holds : ∀ relation ∈ Relation.sides, relation.holds (doc.field? field) literal = true ↔
        ∃ order, value.compareLoose literal = some order ∧ relation.accepts order = true := by
      intro relation listed
      have positive : relation ≠ .notEqual := by
        rintro rfl
        simp [Relation.sides] at listed
      have present : Json.null ∉ Json.finds (doc.field? field) := by
        rw [found, List.mem_singleton]
        rintro rfl
        contradiction
      simp only [Relation.holds_iff present scalar positive, found, List.mem_singleton, exists_eq_left]
    constructor
    · intro first listed second listed' holdsFirst holdsSecond
      obtain ⟨order, compared, accepted⟩ := (holds first listed).mp holdsFirst
      obtain ⟨order', compared', accepted'⟩ := (holds second listed').mp holdsSecond
      cases compared.symm.trans compared'
      exact Relation.eq_of_accepts listed listed' accepted accepted'
    · rw [← Json.isSome_compareLoose_iff]
      constructor
      · rintro ⟨relation, listed, held⟩
        obtain ⟨order, compared, -⟩ := (holds relation listed).mp held
        rw [compared]
        rfl
      · intro some
        obtain ⟨order, compared⟩ := Option.isSome_iff_exists.mp some
        obtain ⟨relation, listed, accepted⟩ := Relation.exists_side order
        exact ⟨relation, listed, (holds relation listed).mpr ⟨order, compared, accepted⟩⟩

/-- A text that spells a number beyond all finite ones, with blanks around it, against a small integer. -/
theorem order_coherent_with_equality_beyond_finite :
    let text (relation : Relation) := "f" ++ (" " ++ relation.sign ++ " " ++ "1")
    let value := Json.string " 1e999 "
    let doc := Json.object [("f", value)]
    (∀ relation, Compares (text relation) "f" relation (.ofInt 1)) ∧
      Json.null ∉ Json.finds (doc.field? "f") ∧ value.IsScalar ∧ Json.Comparable value (.ofInt 1) ∧
      ask (text .greater) [] doc = .ok true ∧ ask (text .atLeast) [] doc = .ok true ∧
      ask (text .equal) [] doc = .ok false ∧ ask (text .less) [] doc = .ok false := by
  intro text value doc
  have named : IsFieldName "f" := ⟨⟨'f', [], rfl, by decide, by decide⟩, by decide, by decide⟩
  let term : Term := .number (.of .number "1") (.ofInt 1) rfl
  have cut : Lexes lexicon ("1".toList ++ []) [term.token.lexeme] := lexes_token (lexes_nil lexicon) rfl
  have compares : ∀ relation, Compares (text relation) "f" relation (.ofInt 1) :=
    compares_written named ⟨'1', [], rfl, rfl⟩ cut fun _ => rfl
  have present : Json.null ∉ Json.finds (doc.field? "f") := by
    change Json.null ∉ [value]
    simp [value]
  obtain ⟨answer, asks, -, coherent, single⟩ := order_coherent_with_equality compares [] doc
  obtain ⟨atMostOne, comparable⟩ := single value rfl (.string _)
  have asked : (ask (text .greater) [] doc).toOption = some true := by decide +kernel
  rw [asks .greater] at asked
  have greater : answer .greater = true := Option.some.inj asked
  have other : ∀ relation ∈ Relation.sides, relation ≠ .greater → answer relation = false := by
    intro relation listed different
    rw [Bool.eq_false_iff]
    exact fun held => different (atMostOne relation listed .greater (by simp [Relation.sides]) held greater)
  refine ⟨compares, present, .string _, comparable.mp ⟨.greater, by simp [Relation.sides], greater⟩, ?_⟩
  refine ⟨(asks _).trans (congrArg _ greater), (asks _).trans (congrArg _ ?_), ?_, ?_⟩
  · exact (coherent present).1.mpr (.inl greater)
  · exact (asks _).trans (congrArg _ (other .equal (by simp [Relation.sides]) nofun))
  · exact (asks _).trans (congrArg _ (other .less (by simp [Relation.sides]) nofun))

end Predicate
end Storefront
