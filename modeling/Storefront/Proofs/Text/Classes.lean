import Mathlib.Data.List.Basic
import Storefront.Text.Blank
import Storefront.Text.Digit
import Storefront.Text.Word

/-!
How the classes of characters lie to one another. A decimal digit is a word character in every
script, and white space is none.
-/
namespace Storefront

namespace Text

theorem Ranges.contain_iff {ranges : Ranges} {code : Nat} :
    ranges.contain code = true ↔ ∃ range ∈ ranges, range.1 ≤ code ∧ code ≤ range.2 := by
  induction ranges with
  | nil => simp [Ranges.contain]
  | cons range ranges ih =>
    obtain ⟨first, last⟩ := range
    simp [Ranges.contain, ih]

/-- Every range is inside one of the other ranges. -/
def Ranges.within (inner outer : Ranges) : Bool :=
  inner.all fun a => outer.any fun b => b.1.ble a.1 && a.2.ble b.2

/-- No range meets one of the other ranges. -/
def Ranges.apart (these those : Ranges) : Bool :=
  these.all fun a => those.all fun b => !(b.1.ble a.2 && a.1.ble b.2)

theorem Ranges.contain_of_within {inner outer : Ranges} {code : Nat}
    (within : inner.within outer = true) (inside : inner.contain code = true) :
    outer.contain code = true := by
  obtain ⟨a, mem, low, high⟩ := contain_iff.1 inside
  have found := List.all_eq_true.1 within a mem
  obtain ⟨b, mem', found⟩ := List.any_eq_true.1 found
  simp only [Bool.and_eq_true, Nat.ble_eq] at found
  exact contain_iff.2 ⟨b, mem', by omega, by omega⟩

theorem Ranges.contain_of_apart {these those : Ranges} {code : Nat}
    (apart : these.apart those = true) (inside : these.contain code = true) :
    those.contain code = false := by
  obtain ⟨a, mem, low, high⟩ := contain_iff.1 inside
  rw [← Bool.not_eq_true, contain_iff]
  rintro ⟨b, mem', low', high'⟩
  have other := List.all_eq_true.1 (List.all_eq_true.1 apart a mem) b mem'
  have meet : (b.1.ble a.2 && a.1.ble b.2) = true := by
    rw [Bool.and_eq_true, Nat.ble_eq, Nat.ble_eq]
    omega
  rw [meet] at other
  exact absurd other (by decide)

/-- A digit of any script can go on with a word. -/
theorem isWord_of_isDigit {c : Char} (digit : isDigit c = true) : isWord c = true := by
  rw [isDigit] at digit
  rw [isWord]
  split at digit
  · next ascii => simp [ascii, digit]
  · next other =>
    have within : digitRanges.within wordRanges = true := by decide +kernel
    rw [if_neg other]
    exact Ranges.contain_of_within within digit

/-- The white space outside ASCII. -/
def blankRanges : Ranges :=
  [(0x85, 0x85), (0xa0, 0xa0), (0x1680, 0x1680), (0x2000, 0x200a), (0x2028, 0x2029),
   (0x202f, 0x202f), (0x205f, 0x205f), (0x3000, 0x3000)]

/-- White space ends a word. -/
theorem isWord_of_isBlank {c : Char} (blank : isBlank c = true) : isWord c = false := by
  simp only [isBlank, Bool.or_eq_true, Bool.and_eq_true, decide_eq_true_eq] at blank
  rw [isWord]
  split
  · next ascii =>
    have below : ∀ d : Char, 32 < d.toNat → ¬ d ≤ c := by
      intro d high le
      have order : d.toNat ≤ c.toNat := UInt32.le_iff_toNat_le.1 le
      omega
    have other : c ≠ '_' := by
      rintro rfl
      exact absurd blank (by decide)
    simp [below 'a' (by decide), below 'A' (by decide), below '0' (by decide), other]
  · next other =>
    have apart : blankRanges.apart wordRanges = true := by decide +kernel
    refine Ranges.contain_of_apart apart (Ranges.contain_iff.2 ?_)
    simp only [blankRanges, List.mem_cons, List.not_mem_nil, or_false, exists_eq_or_imp,
      exists_eq_left]
    omega

end Text
end Storefront
