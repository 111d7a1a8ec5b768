import Mathlib.Data.String.Basic
import Storefront.Proofs.Decimal.Numeral
import Storefront.Proofs.Grammar.Reading
import Storefront.Proofs.Text.Classes
import Storefront.Proofs.Token.Layout
import Storefront.Proofs.Token.Words
import Storefront.Token.Literal

/-!
Numerals. A number token either has a value or is at fault, and an integer of 64 bits is read back
from its decimal digits.
-/
namespace Storefront

theorem Literal.ensures_number (text : String) :
    Ensures (fun value => Literal.number text = .ok value) (Literal.number text) := by
  cases converted : Literal.number text with
  | ok value => exact rfl
  | error e =>
    simp only [Literal.number] at converted
    split at converted
    · contradiction
    · split at converted
      · contradiction
      · exact ⟨_, _, (Except.error.inj converted).symm⟩

namespace Numeral

/-- The decimal digits of an integer, behind a minus if it is negative. -/
def decimal (i : Int) : List Char :=
  (toString i).toList

/-- The integers that a numeral can be. -/
def Fits (i : Int) : Prop :=
  -0x8000000000000000 ≤ i ∧ i < 0x8000000000000000

instance (i : Int) : Decidable (Fits i) :=
  inferInstanceAs (Decidable (_ ∧ _))

/-- A digit is no sign, so digits alone are the number they spell. -/
theorem integer?_of_digits {digits : List Char} {n : Nat} (value : digits? digits = some n)
    (all : ∀ c ∈ digits, isDigit c = true) (fits : Fits n) : integer? digits = some (n : Int) := by
  have noMinus : ∀ rest, digits ≠ '-' :: rest := by
    rintro rest rfl
    exact absurd (all '-' (by simp)) (by decide)
  have noPlus : ∀ rest, digits ≠ '+' :: rest := by
    rintro rest rfl
    exact absurd (all '+' (by simp)) (by decide)
  rw [integer?]
  · simp [value, fits.1, fits.2]
  · exact noMinus
  · exact noPlus

theorem decimal_ofNat (n : Nat) : decimal n = Nat.toDigits 10 n :=
  Nat.toList_repr

theorem decimal_negSucc (n : Nat) : decimal (.negSucc n) = '-' :: Nat.toDigits 10 (n + 1) := by
  have text : toString (Int.negSucc n) = "-" ++ Nat.repr (n + 1) := rfl
  rw [decimal, text, String.toList_append, Nat.toList_repr]
  rfl

theorem toNat_of_isDigit {c : Char} (digit : isDigit c = true) :
    48 ≤ c.toNat ∧ c.toNat ≤ 57 := by
  obtain ⟨low, high⟩ : '0' ≤ c ∧ c ≤ '9' := of_decide_eq_true digit
  exact ⟨Pattern.le_iff_toNat.1 low, Pattern.le_iff_toNat.1 high⟩

/-- A decimal begins with a minus or a digit. -/
theorem decimal_eq_cons (i : Int) :
    ∃ c cs, decimal i = c :: cs ∧ (c = '-' ∨ isDigit c = true) := by
  cases i with
  | ofNat n =>
    obtain ⟨c, cs, digits⟩ := List.exists_cons_of_ne_nil (Nat.toDigits_ne_nil (n := n) (b := 10))
    refine ⟨c, cs, (decimal_ofNat n).trans digits, .inr ?_⟩
    exact isDigit_of_mem_toDigits (n := n) (by simp [digits])
  | negSucc n => exact ⟨'-', _, decimal_negSucc n, .inl rfl⟩

/-- A decimal begins with no white space, no quote and no point. -/
theorem decimal_starts (i : Int) : ∃ c cs, decimal i = c :: cs ∧
    Text.isBlank c = false ∧ c ≠ '"' ∧ c ≠ '\'' ∧ c ≠ '.' := by
  obtain ⟨c, cs, split, start⟩ := decimal_eq_cons i
  refine ⟨c, cs, split, ?_⟩
  rcases start with rfl | digit
  · decide
  · obtain ⟨low, high⟩ := toNat_of_isDigit digit
    have other : ∀ d : Char, d.toNat < 48 → c ≠ d := by
      rintro d small rfl
      omega
    refine ⟨?_, other '"' (by decide), other '\'' (by decide), other '.' (by decide)⟩
    simp only [Text.isBlank, Bool.or_eq_false_iff, Bool.and_eq_false_iff, decide_eq_false_iff_not]
    omega

/-- A decimal ends with a digit. -/
theorem decimal_eq_concat (i : Int) : ∃ cs c, decimal i = cs ++ [c] ∧ isDigit c = true := by
  have digits : ∀ n, ∃ cs c, Nat.toDigits 10 n = cs ++ [c] ∧ isDigit c = true := by
    intro n
    obtain ⟨cs, c, split⟩ := List.eq_nil_or_concat' (Nat.toDigits 10 n) |>.resolve_left
      Nat.toDigits_ne_nil
    exact ⟨cs, c, split, isDigit_of_mem_toDigits (n := n) (by simp [split])⟩
  cases i with
  | ofNat n =>
    obtain ⟨cs, c, split, digit⟩ := digits n
    exact ⟨cs, c, (decimal_ofNat n).trans split, digit⟩
  | negSucc n =>
    obtain ⟨cs, c, split, digit⟩ := digits (n + 1)
    exact ⟨'-' :: cs, c, by rw [decimal_negSucc, split, List.cons_append], digit⟩

/-- An integer is read back from its decimal digits. -/
theorem integer?_decimal {i : Int} (fits : Fits i) : integer? (decimal i) = some i := by
  cases i with
  | ofNat n =>
    change integer? (decimal (n : Int)) = some (n : Int)
    rw [decimal_ofNat]
    exact integer?_of_digits (digits?_toDigits n) (fun _ mem => isDigit_of_mem_toDigits mem) fits
  | negSucc n =>
    rw [decimal_negSucc, integer?]
    have value : -((n : Int) + 1) = .negSucc n := (Int.negSucc_eq n).symm
    simp only [digits?_toDigits, Option.pure_def, Option.bind_eq_bind, Option.bind_some,
      Option.map_some, Int.natCast_add, Int.cast_ofNat_Int, value]
    simp [fits.1, fits.2]

end Numeral

/-! ### The pattern for numerals -/

namespace Pattern

theorem isDigit_of_isDigit {c : Char} (digit : Numeral.isDigit c = true) :
    Text.isDigit c = true := by
  obtain ⟨low, high⟩ : '0' ≤ c ∧ c ≤ '9' := of_decide_eq_true digit
  have ascii : c.toNat < 128 := Nat.lt_of_le_of_lt (le_iff_toNat.1 high) (by decide)
  simp [Text.isDigit, ascii, low, high]

section Digits
variable {digits rest : List Char} (all : ∀ c ∈ digits, Numeral.isDigit c = true)
  (ends : atWordEnd rest = true)

include all ends

theorem takeWhile_digits : (digits ++ rest).takeWhile Text.isDigit = digits := by
  have stops : rest.takeWhile Text.isDigit = [] := by
    cases rest with
    | nil => rfl
    | cons c rest =>
      have other : Text.isDigit c = false := by
        cases digit : Text.isDigit c with
        | false => rfl
        | true => simp [atWordEnd, Text.isWord_of_isDigit digit] at ends
      simp [other]
  rw [List.takeWhile_append_of_pos fun c mem => isDigit_of_isDigit (all c mem), stops,
    List.append_nil]

/-- Digits are taken whole, with a minus in front or not, where no point follows. -/
theorem fixedPoint_digits (nonempty : digits ≠ []) (noPoint : rest.head? ≠ some '.') :
    fixedPoint (digits ++ rest) = some digits.length ∧
      fixedPoint ('-' :: (digits ++ rest)) = some (digits.length + 1) := by
  have noMinus : ∀ cs, digits ++ rest ≠ '-' :: cs := by
    intro cs same
    cases digits with
    | nil => exact nonempty rfl
    | cons c digits =>
      obtain ⟨rfl, -⟩ := List.cons.inj same
      exact absurd (all '-' (by simp)) (by decide)
  have noFraction : optional fraction rest = 0 := by
    have fails : fraction rest = none := by
      rw [fraction]
      rintro cs rfl
      exact noPoint rfl
    rw [optional, fails]
    rfl
  obtain ⟨n, count⟩ : ∃ n, digits.length = n + 1 :=
    Nat.exists_eq_succ_of_ne_zero (by simpa using nonempty)
  constructor
  · rw [fixedPoint]
    · simp only [List.drop_zero, takeWhile_digits all ends, count]
      rw [Nat.zero_add, ← count, List.drop_left, noFraction, Nat.add_zero]
    · exact noMinus
  · rw [fixedPoint]
    simp only [List.drop_succ_cons, List.drop_zero, takeWhile_digits all ends, count]
    rw [Nat.add_comm 1, List.drop_succ_cons, ← count, List.drop_left, noFraction]

end Digits

/-- The decimal digits of an integer are taken whole. -/
theorem fixedPoint_decimal (i : Int) {rest : List Char} (ends : atWordEnd rest = true)
    (noPoint : rest.head? ≠ some '.') :
    fixedPoint (Numeral.decimal i ++ rest) = some (Numeral.decimal i).length := by
  cases i with
  | ofNat n =>
    rw [Int.ofNat_eq_natCast, Numeral.decimal_ofNat]
    exact (fixedPoint_digits (fun _ mem => Numeral.isDigit_of_mem_toDigits mem) ends
      Nat.toDigits_ne_nil noPoint).1
  | negSucc n =>
    rw [Numeral.decimal_negSucc]
    exact (fixedPoint_digits (fun _ mem => Numeral.isDigit_of_mem_toDigits mem) ends
      Nat.toDigits_ne_nil noPoint).2

/-- Nothing that ends a word goes on with an exponent. -/
theorem floatingPoint_decimal (i : Int) {rest : List Char} (ends : atWordEnd rest = true)
    (noPoint : rest.head? ≠ some '.') :
    floatingPoint (Numeral.decimal i ++ rest) = some (Numeral.decimal i).length := by
  have noExponent : exponent rest = none := by
    cases rest with
    | nil => rfl
    | cons c rest =>
      have unmarked : ¬ (decide (c = 'e') || decide (c = 'E')) = true := by
        intro marked
        rw [atWordEnd, Bool.not_eq_true'] at ends
        simp only [Bool.or_eq_true, decide_eq_true_eq] at marked
        rcases marked with rfl | rfl <;> exact absurd ends (by decide)
      unfold exponent
      exact if_neg unmarked
  rw [floatingPoint, fixedPoint_decimal i ends noPoint, Option.map_some, List.drop_left, optional,
    noExponent]
  rfl

end Pattern

theorem Numeral.endsInWord_decimal (i : Int) : endsInWord (decimal i) = true := by
  obtain ⟨cs, c, split, digit⟩ := decimal_eq_concat i
  have word : Text.isWord c = true := Text.isWord_of_isDigit (Pattern.isDigit_of_isDigit digit)
  simp [endsInWord, split, word]

/-- Where white space and quotations come first, a decimal is taken by the pattern for numerals. -/
theorem Numeral.firstMatch?_decimal {κ : Type} {blank str number : κ} {pattern : Pattern}
    {rules : Lexicon κ} (i : Int) {rest : List Char}
    (taken : pattern (decimal i ++ rest) = some (decimal i).length) :
    Lexicon.firstMatch? (⟨blank, Pattern.blanks, true⟩ :: ⟨str, Pattern.quoted '"', false⟩ ::
        ⟨str, Pattern.quoted '\'', false⟩ :: ⟨number, pattern, false⟩ :: rules)
        (decimal i ++ rest) = some (⟨number, pattern, false⟩, (decimal i).length) := by
  obtain ⟨c, cs, split, notBlank, notDouble, notSingle, -⟩ := decimal_starts i
  rw [split, List.cons_append, List.length_cons] at taken ⊢
  have blanks : Pattern.blanks (c :: (cs ++ rest)) = some 0 := by
    simp [Pattern.blanks, Pattern.many1, notBlank]
  rw [Lexicon.firstMatch?_zero blanks, Lexicon.firstMatch?_none (if_neg notDouble),
    Lexicon.firstMatch?_none (if_neg notSingle), Lexicon.firstMatch?_some taken]

theorem Literal.number_decimal {i : Int} (fits : Numeral.Fits i) :
    Literal.number (String.ofList (Numeral.decimal i)) = .ok (Json.ofInt i) := by
  simp only [Literal.number, String.toList_ofList, Numeral.integer?_decimal fits]

end Storefront
