import Mathlib.Data.List.Forall2
import Storefront.Proofs.Document.Calendar

/-!
Times as texts. An instant is written as numbers of fixed width from the year down to the millisecond, so
the order of the texts is that of the numbers from left to right, and that is the order of time: across the
ends of months, leap days and leap seconds, with years of four digits.
-/
namespace Storefront

/-! ### Numbers of fixed width -/

namespace Timestamp

/-- The last digits of a number, so many of them. -/
def digits : Nat → Nat → List Char
  | 0, _ => []
  | width + 1, n => digits width (n / 10) ++ [Nat.digitChar (n % 10)]

theorem digits_zero (width : Nat) : digits width 0 = List.replicate width '0' := by
  induction width with
  | zero => rfl
  | succ width ih =>
    rw [digits, Nat.zero_div, ih, List.replicate_succ']
    rfl

theorem toList_padded {width n : Nat} (positive : 0 < width) (fits : n < 10 ^ width) :
    (padded width n).toList = digits width n := by
  have written (width n : Nat) : (padded width n).toList =
      List.replicate (width - (Nat.toDigits 10 n).length) '0' ++ Nat.toDigits 10 n := by
    simp [padded, ← String.length_toList]
  rw [written]
  induction width generalizing n with
  | zero => contradiction
  | succ width ih =>
    rw [digits]
    by_cases single : n < 10
    · rw [Nat.toDigits_of_lt_base single, Nat.div_eq_of_lt single, Nat.mod_eq_of_lt single, digits_zero]
      rfl
    · have tens : n / 10 < 10 ^ width := by
        rw [Nat.pow_succ] at fits
        omega
      have wider : 0 < width := by
        rcases Nat.eq_zero_or_pos width with rfl | wider
        · rw [Nat.pow_zero] at tens
          omega
        · exact wider
      rw [Nat.toDigits_of_base_le (by decide) (Nat.not_lt.mp single), ← ih wider tens,
        List.length_append, List.length_singleton, Nat.add_sub_add_right, List.append_assoc]

/-- The smaller one of two numbers of a width comes first, whatever follows. -/
theorem digits_append_lt {width m n : Nat} (before : m < n) (fits : n < 10 ^ width) (s t : List Char) :
    digits width m ++ s < digits width n ++ t := by
  induction width generalizing m n s t with
  | zero =>
    rw [Nat.pow_zero] at fits
    omega
  | succ width ih =>
    rw [Nat.pow_succ] at fits
    rw [digits, digits, List.append_assoc, List.append_assoc]
    rcases Nat.lt_or_eq_of_le (Nat.div_le_div_right (c := 10) (Nat.le_of_lt before)) with tens | tens
    · exact ih tens (by omega) _ _
    · have last : Nat.digitChar (m % 10) < Nat.digitChar (n % 10) := by
        rw [Char.lt_def, UInt32.lt_iff_toNat_lt]
        change (Nat.digitChar (m % 10)).toNat < (Nat.digitChar (n % 10)).toNat
        rw [Nat.toNat_digitChar_of_lt_ten (Nat.mod_lt m (by decide)),
          Nat.toNat_digitChar_of_lt_ten (Nat.mod_lt n (by decide))]
        omega
      rw [tens]
      exact List.append_left_lt (List.cons_lt_cons_iff.mpr (.inl last))

/-! ### Layouts -/

/-- The widths of numbers and what is written behind each. -/
abbrev Layout := List (Nat × String)

/-- Numbers one behind the other as a layout has them. -/
def write : Layout → List Nat → List Char
  | (width, mark) :: layout, n :: fields => (padded width n).toList ++ (mark.toList ++ write layout fields)
  | _, _ => []

/-- Numbers that a layout has room for. -/
def Fits (layout : Layout) (fields : List Nat) : Prop :=
  List.Forall₂ (fun slot n => 0 < slot.1 ∧ n < 10 ^ slot.1) layout fields

/-- Texts of one layout are in the order of their numbers from left to right. -/
theorem write_lt {layout : Layout} {earlier later : List Nat} (fits : Fits layout earlier)
    (fits' : Fits layout later) (before : earlier < later) :
    write layout earlier < write layout later := by
  induction fits generalizing later with
  | nil =>
    cases fits'
    exact absurd before (List.lt_irrefl [])
  | @cons slot m layout fields room fits ih =>
    cases fits' with
    | @cons _ n _ fields' room' fits' =>
      rw [write, write]
      rcases List.cons_lt_cons_iff.mp before with smaller | ⟨rfl, behind⟩
      · rw [toList_padded room.1 room.2, toList_padded room'.1 room'.2]
        exact digits_append_lt smaller room'.2 _ _
      · exact List.append_left_lt (List.append_left_lt (ih fits' behind))

end Timestamp

/-! ### Instants -/

/-- Instants are in the order of their seconds; within a second, a leap second comes behind. -/
instance : LE Instant :=
  ⟨fun earlier later => earlier.seconds < later.seconds ∨
    earlier.seconds = later.seconds ∧ earlier.nanoseconds ≤ later.nanoseconds⟩

instance : DecidableLE Instant :=
  fun earlier later => inferInstanceAs (Decidable (earlier.seconds < later.seconds ∨
    earlier.seconds = later.seconds ∧ earlier.nanoseconds ≤ later.nanoseconds))

namespace Instant

theorem le_refl (now : Instant) : now ≤ now :=
  .inr ⟨rfl, Nat.le_refl now.nanoseconds⟩

/-- The day of an instant, counted from the beginning of the year 0. -/
def day (now : Instant) : Int :=
  now.seconds / 86400 + Calendar.epoch

def year (now : Instant) : Int :=
  Calendar.yearOf now.day

/-- The seconds since the beginning of the day, a leap second not counted. -/
def timeOfDay (now : Instant) : Nat :=
  (now.seconds % 86400).toNat

/-- The numbers of an instant, from the year down to the millisecond. -/
def fields (now : Instant) : List Nat :=
  [now.year.natAbs, (Calendar.monthOf now.day).1, (Calendar.monthOf now.day).2,
    now.timeOfDay / 3600, now.timeOfDay / 60 % 60, now.timeOfDay % 60 + now.nanoseconds / 1000000000,
    now.nanoseconds % 1000000000 / 1000000]

/-- An instant in a year of four digits, whose leap second, if it is in one, ends a minute. -/
structure Ordinary (now : Instant) : Prop where
  year : 0 ≤ now.year ∧ now.year ≤ 9999
  leap : now.nanoseconds < 1000000000 ∨ now.seconds % 60 = 59 ∧ now.nanoseconds < 2000000000

def layout : Timestamp.Layout :=
  [(4, "-"), (2, "-"), (2, "T"), (2, ":"), (2, ":"), (2, "."), (3, "Z")]

variable {now earlier later : Instant}

theorem timeOfDay_mod (now : Instant) : now.timeOfDay % 60 = (now.seconds % 60).toNat := by
  unfold timeOfDay
  omega

theorem Ordinary.fits (ordinary : now.Ordinary) : Timestamp.Fits layout now.fields := by
  obtain ⟨⟨first, last⟩, leap⟩ := ordinary
  obtain ⟨months, days⟩ := Calendar.monthOf_within now.day
  have seconds := timeOfDay_mod now
  have time : now.timeOfDay < 86400 := by
    unfold timeOfDay
    omega
  simp only [Timestamp.Fits, layout, fields, List.forall₂_cons, List.Forall₂.nil, Nat.reducePow, and_true]
  omega

theorem Ordinary.toList_render (ordinary : now.Ordinary) :
    now.render.toList = Timestamp.write layout now.fields := by
  obtain ⟨first, last⟩ := ordinary.year
  have year : Timestamp.renderYear now.year = Timestamp.padded 4 now.year.natAbs := by
    rw [Timestamp.renderYear, if_neg (Int.not_lt.mpr first), if_pos last]
  have text : now.render = Timestamp.renderYear now.year ++ "-" ++
      Timestamp.padded 2 (Calendar.monthOf now.day).1 ++ "-" ++
      Timestamp.padded 2 (Calendar.monthOf now.day).2 ++ "T" ++
      Timestamp.padded 2 (now.timeOfDay / 3600) ++ ":" ++
      Timestamp.padded 2 (now.timeOfDay / 60 % 60) ++ ":" ++
      Timestamp.padded 2 (now.timeOfDay % 60 + now.nanoseconds / 1000000000) ++ "." ++
      Timestamp.padded 3 (now.nanoseconds % 1000000000 / 1000000) ++ "Z" := rfl
  rw [text, year]
  simp [layout, fields, Timestamp.write]

theorem fields_lt_of_day_lt (first : earlier.Ordinary) (second : later.Ordinary)
    (before : earlier.day < later.day) : earlier.fields < later.fields := by
  have dates := Calendar.date_lt before
  have years := first.year.1
  have years' := second.year.1
  simp only [fields, year, List.cons_lt_cons_iff] at years years' ⊢
  omega

/-- A leap second has no number of its own, but it is behind all other seconds of its minute. -/
theorem fields_lt_of_timeOfDay_lt (first : earlier.Ordinary) (sameDay : earlier.day = later.day)
    (before : earlier.timeOfDay < later.timeOfDay) : earlier.fields < later.fields := by
  have ends := timeOfDay_mod earlier
  have leap : earlier.timeOfDay % 60 = 59 ∧ earlier.nanoseconds / 1000000000 ≤ 1 ∨
      earlier.nanoseconds / 1000000000 = 0 := by
    have leap := first.leap
    omega
  simp only [fields, year, sameDay, List.cons_lt_cons_iff, Nat.lt_irrefl, true_and, false_or]
  -- from here only the one second matters that a leap second may add
  generalize earlier.nanoseconds / 1000000000 = leapSecond at leap ⊢
  omega

/-- Within a second only the milliseconds tell, and whether it is a leap second. -/
theorem fields_eq_or_lt_of_seconds_eq (same : earlier.seconds = later.seconds)
    (within : earlier.nanoseconds ≤ later.nanoseconds) :
    earlier.fields = later.fields ∨ earlier.fields < later.fields := by
  simp only [fields, year, day, timeOfDay, same, List.cons.injEq, List.cons_lt_cons_iff, Nat.lt_irrefl,
    true_and, false_or, and_true]
  omega

/-- The numbers of a later instant come later, unless it is in the same millisecond. -/
theorem fields_eq_or_lt (first : earlier.Ordinary) (second : later.Ordinary)
    (ordered : earlier ≤ later) : earlier.fields = later.fields ∨ earlier.fields < later.fields := by
  rcases ordered with before | ⟨same, within⟩
  · right
    have days : earlier.day < later.day ∨ earlier.day = later.day ∧ earlier.timeOfDay < later.timeOfDay := by
      unfold day timeOfDay
      omega
    rcases days with earlierDay | ⟨sameDay, earlierTime⟩
    · exact fields_lt_of_day_lt first second earlierDay
    · exact fields_lt_of_timeOfDay_lt first sameDay earlierTime
  · exact fields_eq_or_lt_of_seconds_eq same within

theorem Ordinary.compare_render (first : earlier.Ordinary) (second : later.Ordinary)
    (ordered : earlier ≤ later) : compare earlier.render later.render ≠ .gt := by
  rcases fields_eq_or_lt first second ordered with same | behind
  · have equal : earlier.render = later.render := by
      apply String.toList_inj.mp
      rw [first.toList_render, second.toList_render, same]
    rw [Std.compare_eq_iff_eq.mpr equal]
    exact Ordering.noConfusion
  · have before : earlier.render < later.render := by
      rw [String.lt_iff, first.toList_render, second.toList_render]
      exact Timestamp.write_lt first.fits second.fits behind
    have compared {a b : String} (first : a < b) : compare a b = .lt := compareOfLessAndEq_eq_lt.mpr first
    rw [compared before]
    exact Ordering.noConfusion

/-- The leap second at the end of 2016, between the last second of its minute and the new year. -/
example : render ⟨1483228799, 1200000000⟩ = "2016-12-31T23:59:60.200Z" := by decide +kernel

end Instant
end Storefront
