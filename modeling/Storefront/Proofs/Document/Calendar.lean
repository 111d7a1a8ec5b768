import Mathlib.Algebra.Ring.Nat
import Storefront.Document.Timestamp

/-!
The calendar and the order of days. Every day is in one year, and what is left of it there is told by month
and day of the month. A later day has a later date: in a later year, or in a later month of the same year,
or later in the same month.
-/
namespace Storefront.Calendar

/-! ### Years -/

/-- Four hundred years have 146097 days, and no beginning of a year is two days off from their mean length. -/
theorem daysBeforeYear_bounds (year : Int) :
    146097 * year - 396 ≤ 400 * daysBeforeYear year ∧
      400 * daysBeforeYear year ≤ 146097 * year + 699 := by
  unfold daysBeforeYear
  omega

theorem daysBeforeYear_mono {earlier later : Int} (ordered : earlier ≤ later) :
    daysBeforeYear earlier ≤ daysBeforeYear later := by
  unfold daysBeforeYear
  omega

/-- A year has the days of its months. -/
theorem daysBeforeYear_succ (year : Int) :
    daysBeforeYear (year + 1) = daysBeforeYear year + (monthLengths (isLeapYear year)).sum := by
  cases leap : isLeapYear year with
  | true =>
    have long := of_decide_eq_true leap
    have days : (monthLengths true).sum = 366 := rfl
    omega
  | false =>
    have short := of_decide_eq_false leap
    have days : (monthLengths false).sum = 365 := rfl
    unfold daysBeforeYear at *
    omega

theorem yearOf_spec (day : Int) :
    daysBeforeYear (yearOf day) ≤ day ∧ day < daysBeforeYear (yearOf day + 1) := by
  unfold yearOf
  extract_lets guess
  have near : 146097 * guess ≤ 400 * day ∧ 400 * day < 146097 * guess + 146097 := by omega
  have below := (daysBeforeYear_bounds (guess - 1)).2
  have above := (daysBeforeYear_bounds (guess + 1 + 1)).1
  split
  · rw [Int.sub_add_cancel]
    omega
  · split <;> omega

theorem yearOf_mono {earlier later : Int} (ordered : earlier ≤ later) :
    yearOf earlier ≤ yearOf later := by
  have begun := (yearOf_spec earlier).1
  have ends := (yearOf_spec later).2
  apply Int.not_lt.mp
  intro after
  have between := daysBeforeYear_mono (Int.add_one_le_of_lt after)
  omega

/-! ### Months -/

variable {day earlier later : Nat} {lengths : List Nat}

theorem le_monthAndDay (month day : Nat) (lengths : List Nat) :
    month ≤ (monthAndDay month day lengths).1 := by
  induction lengths generalizing month day with
  | nil => exact Nat.le_refl month
  | cons length lengths ih =>
    rw [monthAndDay]
    split
    · exact Nat.le_refl month
    · exact Nat.le_of_succ_le (ih (month + 1) (day - length))

/-- A day that comes later comes in a later month, or later in the same one. -/
theorem monthAndDay_lt (month : Nat) (lengths : List Nat) (before : earlier < later) :
    (monthAndDay month earlier lengths).1 < (monthAndDay month later lengths).1 ∨
      (monthAndDay month earlier lengths).1 = (monthAndDay month later lengths).1 ∧
        (monthAndDay month earlier lengths).2 < (monthAndDay month later lengths).2 := by
  induction lengths generalizing month earlier later with
  | nil => exact .inr ⟨rfl, Nat.succ_lt_succ before⟩
  | cons length lengths ih =>
    rw [monthAndDay, monthAndDay]
    by_cases here : earlier < length
    · rw [if_pos here]
      split
      · exact .inr ⟨rfl, Nat.succ_lt_succ before⟩
      · exact .inl (le_monthAndDay (month + 1) (later - length) lengths)
    · rw [if_neg here, if_neg (by omega)]
      exact ih (month + 1) (by omega)

/-- Within the months given, the month is one of them and the day one of its days. -/
theorem monthAndDay_within (month : Nat) (inside : day < lengths.sum) :
    (monthAndDay month day lengths).1 < month + lengths.length ∧
      ∃ length ∈ lengths, (monthAndDay month day lengths).2 ≤ length := by
  induction lengths generalizing month day with
  | nil => exact absurd inside (Nat.not_lt_zero day)
  | cons length lengths ih =>
    rw [List.sum_cons] at inside
    rw [monthAndDay]
    split
    · rename_i here
      exact ⟨by simp, length, List.mem_cons_self, here⟩
    · have rest : day - length < lengths.sum := by omega
      obtain ⟨bound, other, listed, within⟩ := ih (month + 1) rest
      refine ⟨?_, other, List.mem_cons_of_mem _ listed, within⟩
      rw [List.length_cons]
      omega

/-! ### Dates -/

/-- The month and the day of the month, of a day counted from the beginning of the year 0. -/
def monthOf (day : Int) : Nat × Nat :=
  monthAndDay 1 (day - daysBeforeYear (yearOf day)).toNat (monthLengths (isLeapYear (yearOf day)))

theorem monthOf_within (day : Int) : (monthOf day).1 ≤ 12 ∧ (monthOf day).2 ≤ 31 := by
  have inside : (day - daysBeforeYear (yearOf day)).toNat <
      (monthLengths (isLeapYear (yearOf day))).sum := by
    obtain ⟨begun, ends⟩ := yearOf_spec day
    rw [daysBeforeYear_succ] at ends
    omega
  have months : ∀ leap, (monthLengths leap).length = 12 ∧ ∀ length ∈ monthLengths leap, length ≤ 31 := by
    decide
  obtain ⟨twelve, short⟩ := months (isLeapYear (yearOf day))
  obtain ⟨month, length, listed, within⟩ := monthAndDay_within 1 inside
  rw [twelve] at month
  exact ⟨Nat.le_of_lt_succ month, Nat.le_trans within (short length listed)⟩

/-- A later day has a later date. -/
theorem date_lt {earlier later : Int} (before : earlier < later) :
    yearOf earlier < yearOf later ∨ yearOf earlier = yearOf later ∧
      ((monthOf earlier).1 < (monthOf later).1 ∨ (monthOf earlier).1 = (monthOf later).1 ∧
        (monthOf earlier).2 < (monthOf later).2) := by
  rcases Int.lt_or_eq_of_le (yearOf_mono (Int.le_of_lt before)) with earlierYear | sameYear
  · exact .inl earlierYear
  · refine .inr ⟨sameYear, ?_⟩
    have begun := (yearOf_spec earlier).1
    have ahead : (earlier - daysBeforeYear (yearOf later)).toNat <
        (later - daysBeforeYear (yearOf later)).toNat := by
      rw [sameYear] at begun
      omega
    rw [monthOf, monthOf, sameYear]
    exact monthAndDay_lt 1 _ ahead

end Storefront.Calendar
