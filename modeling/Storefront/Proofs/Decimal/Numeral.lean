import Storefront.Decimal.Numeral

/-!
Natural numbers in decimal: which texts are numerals of which numbers, and that the digits of a number are
one of its own.
-/
namespace Storefront.Numeral

/-- A text of digits, behind a plus or not, and the number that they are in decimal. -/
def Spells (text : List Char) (n : Nat) : Prop :=
  ∃ digits, (text = digits ∨ text = '+' :: digits) ∧ digits ≠ [] ∧
    (∀ c ∈ digits, isDigit c = true) ∧ ofDigits digits = n

theorem digits?_eq_some_iff {cs : List Char} {n : Nat} :
    digits? cs = some n ↔ cs ≠ [] ∧ (∀ c ∈ cs, isDigit c = true) ∧ ofDigits cs = n := by
  simp only [digits?, Option.ite_none_right_eq_some, List.all_eq_true, Option.some.injEq, and_assoc]

theorem natural?_eq_some_iff {bound n : Nat} {text : List Char} :
    natural? bound text = some n ↔ Spells text n ∧ n ≤ bound := by
  have noSign : ∀ rest, ¬ ∀ c ∈ '+' :: rest, isDigit c = true :=
    fun _ all => absurd (all '+' List.mem_cons_self) (by decide)
  simp only [natural?, Option.filter_eq_some_iff, decide_eq_true_eq]
  refine and_congr_left fun _ => ?_
  split
  · rename_i rest
    rw [digits?_eq_some_iff]
    constructor
    · exact fun digits => ⟨rest, .inr rfl, digits⟩
    · rintro ⟨digits, rfl | same, nonempty, all, value⟩
      · exact absurd all (noSign rest)
      · cases same
        exact ⟨nonempty, all, value⟩
  · rename_i unsigned
    rw [digits?_eq_some_iff]
    constructor
    · exact fun digits => ⟨text, .inl rfl, digits⟩
    · rintro ⟨digits, rfl | same, spelt⟩
      · exact spelt
      · exact absurd same (unsigned digits)

theorem isDigit_of_mem_toDigits {n : Nat} {c : Char} (mem : c ∈ Nat.toDigits 10 n) :
    isDigit c = true := by
  have digit : c.isDigit = true := Nat.isDigit_of_mem_toDigits (by decide) (by decide) mem
  simp only [Char.isDigit, Bool.and_eq_true, decide_eq_true_eq] at digit
  exact decide_eq_true digit

theorem digits?_toDigits (n : Nat) : digits? (Nat.toDigits 10 n) = some n := by
  have all : (Nat.toDigits 10 n).all isDigit = true :=
    List.all_eq_true.2 fun _ mem => isDigit_of_mem_toDigits mem
  have value : ofDigits (Nat.toDigits 10 n) = n := by
    refine Eq.trans ?_ (Nat.ofDigitChars_ten_toDigits (n := n))
    simp only [ofDigits, Nat.ofDigitChars_eq_foldl, digitValue, Nat.mul_comm]
  rw [digits?, if_pos ⟨Nat.toDigits_ne_nil, all⟩, value]

end Storefront.Numeral
