import Mathlib.Algebra.Order.Ring.Int
import Mathlib.Tactic.Positivity
import Mathlib.Tactic.Ring
import Storefront.Decimal.Binary64

/-!
Integers as binary64 numbers. An integer becomes the nearest one of those that have 53 significant bits,
and the rule for this is stated here without the computation. It never turns the order of two integers
around, though it may make them equal.
-/
namespace Storefront.Binary64

/-- The integers of at most 53 significant bits. -/
def Exact (r : Int) : Prop :=
  ∃ (significand : Int) (shift : Nat), significand.natAbs < 2 ^ 53 ∧ r = significand * 2 ^ shift

/-- The nearest exact integer. Of two equally near ones it is the one that is an even multiple of the
distance between them. -/
structure RoundsTo (a r : Int) : Prop where
  exact : Exact r
  nearest : ∀ s, Exact s → (a - r).natAbs ≤ (a - s).natAbs
  even : ∀ s, Exact s → (a - s).natAbs = (a - r).natAbs → s ≠ r → 2 * (s - r) ∣ r

variable {a b r s : Int} {n below shift : Nat}

theorem Exact.neg (exact : Exact r) : Exact (-r) := by
  obtain ⟨significand, shift, small, rfl⟩ := exact
  exact ⟨-significand, shift, by rwa [Int.natAbs_neg], (Int.neg_mul ..).symm⟩

/-- The significand may be as large as a power of two that is itself exact. -/
theorem exact_multiple (small : below ≤ 2 ^ 53) (shift : Nat) : Exact ((below * 2 ^ shift : Nat) : Int) := by
  rcases Nat.lt_or_eq_of_le small with less | rfl
  · exact ⟨below, shift, less, by push_cast; rfl⟩
  · refine ⟨2 ^ 52, shift + 1, by decide, ?_⟩
    push_cast
    ring

theorem exact_of_natAbs_le (small : a.natAbs ≤ 2 ^ 53) : Exact a := by
  have magnitude := exact_multiple small 0
  rw [Nat.pow_zero, Nat.mul_one] at magnitude
  rcases Int.natAbs_eq a with same | same
  · exact same ▸ magnitude
  · rw [same]
    exact magnitude.neg

/-! ### The rule -/

theorem RoundsTo.self (exact : Exact a) : RoundsTo a a := by
  refine ⟨exact, ?_, ?_⟩
  · intro s _
    simp
  · intro s _ level different
    omega

theorem RoundsTo.neg (rounds : RoundsTo a r) : RoundsTo (-a) (-r) := by
  refine ⟨rounds.exact.neg, ?_, ?_⟩
  · intro s exact
    have near := rounds.nearest (-s) exact.neg
    omega
  · intro s exact level different
    have even := rounds.even (-s) exact.neg (by omega) (by omega)
    have flipped : 2 * (s - -r) = -(2 * (-s - r)) := by ring
    rwa [flipped, Int.neg_dvd, Int.dvd_neg]

theorem RoundsTo.unique (first : RoundsTo a r) (second : RoundsTo a s) : r = s := by
  by_contra different
  have level : (a - s).natAbs = (a - r).natAbs :=
    Nat.le_antisymm (second.nearest r first.exact) (first.nearest s second.exact)
  have left : 2 * (s - r) ∣ r := first.even s second.exact level (Ne.symm different)
  have right : 2 * (s - r) ∣ s := by
    have other : 2 * (r - s) ∣ s := second.even r first.exact level.symm different
    rw [← Int.neg_dvd] at other
    convert other using 1
    ring
  obtain ⟨half, gap⟩ : 2 * (s - r) ∣ s - r := Int.dvd_sub right left
  have odd : (s - r) * (2 * half - 1) = 0 := by
    rw [mul_sub, mul_one, sub_eq_zero]
    exact (by ring : (s - r) * (2 * half) = 2 * (s - r) * half).trans gap.symm
  rcases mul_eq_zero.mp odd with same | half
  · omega
  · omega

theorem RoundsTo.mono (first : RoundsTo a r) (second : RoundsTo b s) (less : a ≤ b) : r ≤ s := by
  rcases Int.lt_or_eq_of_le less with less | rfl
  · have toRight := first.nearest s second.exact
    have toLeft := second.nearest r first.exact
    omega
  · exact (first.unique second).le

/-- What rounds to an exact integer of fewer than 53 bits is that integer. -/
theorem RoundsTo.eq_of_small (rounds : RoundsTo a r) (small : r.natAbs < 2 ^ 53) : a = r := by
  have above := rounds.nearest (r + 1) (exact_of_natAbs_le (by omega))
  have below := rounds.nearest (r - 1) (exact_of_natAbs_le (by omega))
  omega

/-- An integer of 64 bits moves by half the distance of its exact neighbours at most. -/
theorem RoundsTo.natAbs_sub_le (rounds : RoundsTo a r) (range : a.natAbs < 2 ^ 64) :
    (a - r).natAbs ≤ 1024 := by
  have floor (q : Int) (bound : q.natAbs ≤ 2 ^ 53) : Exact (q * 2048) := by
    have magnitude : Exact ((q.natAbs * 2 ^ 11 : Nat) : Int) := exact_multiple bound 11
    rcases Int.natAbs_eq q with same | same
    · rw [same]
      exact_mod_cast magnitude
    · have flipped := magnitude.neg
      rw [same]
      push_cast at flipped ⊢
      rwa [Int.neg_mul]
  have below := rounds.nearest (a / 2048 * 2048) (floor _ (by omega))
  have above := rounds.nearest ((a / 2048 + 1) * 2048) (floor _ (by omega))
  omega

/-! ### The computation -/

/-- No exact integer lies between neighbours of full length. -/
theorem Exact.beside (exact : Exact s) (full : 2 ^ 52 ≤ below) (shift : Nat) :
    s ≤ (below * 2 ^ shift : Nat) ∨ ((below + 1) * 2 ^ shift : Nat) ≤ s := by
  obtain ⟨significand, other, small, rfl⟩ := exact
  rcases Nat.lt_or_ge other shift with finer | coarser
  · left
    obtain ⟨more, rfl⟩ := Nat.exists_eq_add_of_lt finer
    have bound : significand * 2 ^ other ≤ 2 ^ 53 * 2 ^ other := by
      apply Int.mul_le_mul_of_nonneg_right (by omega)
      positivity
    have enough : 2 ^ 53 * 2 ^ other ≤ below * 2 ^ (other + more + 1) := by
      calc 2 ^ 53 * 2 ^ other = 2 ^ 52 * 2 ^ (other + 1) := by ring
        _ ≤ below * 2 ^ (other + more + 1) :=
          Nat.mul_le_mul full (Nat.pow_le_pow_right (by decide) (by omega))
    exact bound.trans (by exact_mod_cast enough)
  · obtain ⟨more, rfl⟩ := Nat.exists_eq_add_of_le coarser
    have multiple : significand * 2 ^ (shift + more) = significand * 2 ^ more * 2 ^ shift := by ring
    have step : (0 : Int) ≤ 2 ^ shift := by positivity
    rw [multiple]
    push_cast
    rcases Int.lt_or_le (below : Int) (significand * 2 ^ more) with larger | smaller
    · exact .inr (Int.mul_le_mul_of_nonneg_right larger step)
    · exact .inl (Int.mul_le_mul_of_nonneg_right smaller step)

/-- A natural number in steps of a power of two, the nearest count of them, and of two equally near ones
the even one. -/
def steps (n shift : Nat) : Nat :=
  if 2 * (n % 2 ^ shift) > 2 ^ shift ∨ (2 * (n % 2 ^ shift) = 2 ^ shift ∧ n / 2 ^ shift % 2 = 1) then
    n / 2 ^ shift + 1
  else n / 2 ^ shift

/-- Steps of full length lead to the exact integer. -/
theorem roundsTo_steps (full : 2 ^ 52 ≤ n / 2 ^ shift) (small : n / 2 ^ shift < 2 ^ 53) :
    RoundsTo n (steps n shift * 2 ^ shift : Nat) := by
  have whole : n / 2 ^ shift * 2 ^ shift + n % 2 ^ shift = n := by
    rw [Nat.mul_comm]
    exact Nat.div_add_mod n (2 ^ shift)
  have rest : n % 2 ^ shift < 2 ^ shift := Nat.mod_lt n (by positivity)
  have doubled {q : Nat} (even : q % 2 = 0) : (2 * 2 ^ shift : Int) ∣ (q * 2 ^ shift : Nat) := by
    obtain ⟨half, rfl⟩ := Nat.dvd_of_mod_eq_zero even
    exact ⟨half, by push_cast; ring⟩
  unfold steps
  generalize n / 2 ^ shift = below at *
  generalize n % 2 ^ shift = excess at *
  have width : (below + 1) * 2 ^ shift = below * 2 ^ shift + 2 ^ shift := by ring
  split
  · refine ⟨exact_multiple small shift, ?_, ?_⟩
    · intro s exact
      have := exact.beside full shift
      omega
    · intro s exact level different
      have beside := exact.beside full shift
      have lower : s = (below * 2 ^ shift : Nat) := by omega
      have apart : 2 * (s - ((below + 1) * 2 ^ shift : Nat)) = -(2 * 2 ^ shift : Int) := by
        rw [lower]
        push_cast
        ring
      rw [apart, Int.neg_dvd]
      exact doubled (by omega)
  · refine ⟨exact_multiple small.le shift, ?_, ?_⟩
    · intro s exact
      have := exact.beside full shift
      omega
    · intro s exact level different
      have beside := exact.beside full shift
      have upper : s = ((below + 1) * 2 ^ shift : Nat) := by omega
      have apart : 2 * (s - (below * 2 ^ shift : Nat)) = (2 * 2 ^ shift : Int) := by
        rw [upper]
        push_cast
        ring
      rw [apart]
      exact doubled (by omega)

/-- The unit and the limit are powers of two. Which ones they are matters so far only. -/
theorem exists_unit_eq : ∃ e more, 52 ≤ e ∧ 65 ≤ more ∧ unit = 2 ^ e ∧ limit = 2 ^ (more + e) := by
  have sum : 2098 = 1024 + 1074 := rfl
  have least : 52 ≤ 1074 ∧ 65 ≤ 1024 := by decide
  unfold unit limit
  rw [sum]
  revert least
  -- As numerals the exponents would be evaluated.
  generalize 1074 = e
  generalize 1024 = more
  rintro ⟨enough, large⟩
  exact ⟨e, more, enough, large, Nat.pow_eq, Nat.pow_eq⟩

theorem unit_pos : 0 < unit := by
  obtain ⟨e, -, -, -, width, -⟩ := exists_unit_eq
  rw [width]
  exact Nat.two_pow_pos e

theorem mul_unit_le_limit (small : n ≤ 2 ^ 65) : n * unit ≤ limit := by
  obtain ⟨e, more, -, least, width, top⟩ := exists_unit_eq
  rw [width, top, Nat.pow_add]
  exact Nat.mul_le_mul_right (2 ^ e) (small.trans (Nat.pow_le_pow_right (by decide) least))

theorem log2_mul_unit {e : Nat} (width : unit = 2 ^ e) (pos : 0 < n) :
    Nat.log2 (n * unit) = Nat.log2 n + e := by
  have nonzero : n * 2 ^ e ≠ 0 := Nat.mul_ne_zero (Nat.ne_of_gt pos) (Nat.ne_of_gt (Nat.two_pow_pos e))
  rw [width, Nat.log2_eq_iff nonzero, Nat.add_right_comm, Nat.pow_add, Nat.pow_add]
  constructor
  · exact Nat.mul_le_mul_right _ (Nat.log2_self_le (by omega))
  · exact Nat.mul_lt_mul_of_pos_right Nat.lt_log2_self (Nat.two_pow_pos e)

/-- A magnitude without bits to spare is kept as it is. -/
theorem nearest_of_dvd {q : Nat} (whole : 2 ^ spareBits q ∣ q) (finite : q ≤ limit) :
    nearest q 1 = q := by
  have pos : 0 < 2 ^ spareBits q := Nat.two_pow_pos _
  simp only [nearest, Nat.div_one, Nat.one_mul, Nat.pow_eq, Nat.mod_eq_zero_of_dvd whole]
  rw [if_neg (by omega), Nat.div_mul_cancel whole, Nat.min_eq_left finite]

theorem nearest_eq_steps (spare : 2 ^ spareBits (n * unit) = 2 ^ shift * unit)
    (finite : steps n shift * 2 ^ shift * unit ≤ limit) :
    nearest (n * unit) 1 = steps n shift * 2 ^ shift * unit := by
  have above : 2 * (n % 2 ^ shift * unit) > 2 ^ shift * unit ↔ 2 * (n % 2 ^ shift) > 2 ^ shift := by
    rw [← Nat.mul_assoc]
    exact Nat.mul_lt_mul_right unit_pos
  have level : 2 * (n % 2 ^ shift * unit) = 2 ^ shift * unit ↔ 2 * (n % 2 ^ shift) = 2 ^ shift := by
    rw [← Nat.mul_assoc]
    exact Nat.mul_left_inj (Nat.ne_of_gt unit_pos)
  have count : (if 2 * (n * unit % (2 ^ shift * unit)) > 2 ^ shift * unit ∨
      (2 * (n * unit % (2 ^ shift * unit)) = 2 ^ shift * unit ∧
        n * unit / (2 ^ shift * unit) % 2 = 1) then n * unit / (2 ^ shift * unit) + 1
      else n * unit / (2 ^ shift * unit)) = steps n shift := by
    simp only [Nat.mul_mod_mul_right, Nat.mul_div_mul_right _ _ unit_pos, above, level, steps]
  simp only [nearest, Nat.div_one, Nat.one_mul, Nat.pow_eq, spare, count]
  rw [← Nat.mul_assoc, Nat.min_eq_left finite]

/-- A natural number of 64 bits becomes the exact one that it rounds to, in units. -/
theorem nearest_mul_unit (range : n < 2 ^ 64) :
    ∃ q : Nat, RoundsTo n q ∧ nearest (n * unit) 1 = q * unit := by
  obtain ⟨e, -, enough, -, width, -⟩ := exists_unit_eq
  rcases Nat.lt_or_ge n (2 ^ 53) with small | large
  · refine ⟨n, .self (exact_of_natAbs_le (by omega)), nearest_of_dvd ?_ (mul_unit_le_limit (by omega))⟩
    rcases Nat.eq_zero_or_pos n with rfl | pos
    · exact ⟨0, by simp⟩
    · have length : Nat.log2 n < 53 := (Nat.log2_lt (by omega)).mpr small
      rw [spareBits, log2_mul_unit width pos, width]
      apply Dvd.dvd.mul_left
      exact Nat.pow_dvd_pow 2 (by omega)
  · have least : 53 ≤ Nat.log2 n := (Nat.le_log2 (by omega)).mpr large
    obtain ⟨shift, length⟩ : ∃ shift, Nat.log2 n = 52 + shift := Nat.exists_eq_add_of_le (by omega)
    have lower : 2 ^ 52 * 2 ^ shift ≤ n := by
      rw [← Nat.pow_add, ← length]
      exact Nat.log2_self_le (by omega)
    have upper : n < 2 ^ 53 * 2 ^ shift := by
      have above : n < 2 ^ (Nat.log2 n + 1) := Nat.lt_log2_self
      rwa [length, Nat.add_right_comm, Nat.pow_add] at above
    have full : 2 ^ 52 ≤ n / 2 ^ shift := (Nat.le_div_iff_mul_le (Nat.two_pow_pos shift)).mpr lower
    have short : n / 2 ^ shift < 2 ^ 53 := Nat.div_lt_of_lt_mul (by rwa [Nat.mul_comm])
    have finite : steps n shift * 2 ^ shift ≤ 2 ^ 65 := by
      have count : steps n shift ≤ n / 2 ^ shift + 1 := by
        unfold steps
        split <;> omega
      calc steps n shift * 2 ^ shift ≤ (2 * 2 ^ 52) * 2 ^ shift := Nat.mul_le_mul_right _ (by omega)
        _ = 2 * (2 ^ 52 * 2 ^ shift) := Nat.mul_assoc ..
        _ ≤ 2 ^ 65 := by omega
    refine ⟨steps n shift * 2 ^ shift, roundsTo_steps full short, ?_⟩
    apply nearest_eq_steps _ (mul_unit_le_limit finite)
    rw [spareBits, log2_mul_unit width (by omega), length, width, ← Nat.pow_add,
      Nat.add_assoc, Nat.add_sub_cancel_left]

/-- The binary64 number of an integer of 64 bits is the exact integer that it rounds to. -/
theorem toInt_ofInt (range : a.natAbs < 2 ^ 64) : ∃ r, RoundsTo a r ∧ (ofInt a).toInt = r * unit := by
  obtain ⟨q, rounds, same⟩ := nearest_mul_unit range
  have units : (ofInt a).units = q * unit := same
  rcases Int.lt_or_le a 0 with negative | positive
  · have sign : (ofInt a).negative = true := by simpa [ofInt, ofRatio] using negative
    refine ⟨-q, ?_, ?_⟩
    · rw [← Int.neg_neg a, ← Int.ofNat_natAbs_of_nonpos negative.le]
      exact rounds.neg
    · rw [toInt, sign, if_pos rfl, units]
      push_cast
      exact (Int.neg_mul ..).symm
  · have sign : (ofInt a).negative = false := by simpa [ofInt, ofRatio] using positive
    refine ⟨q, ?_, ?_⟩
    · rwa [Int.natAbs_of_nonneg positive] at rounds
    · rw [toInt, sign, if_neg (by decide), units]
      push_cast
      rfl

/-! ### Integers that become one number -/

/-- Two integers, possibly the same, that round to one exact integer. -/
def RoundTogether (a b : Int) : Prop :=
  ∃ r, RoundsTo a r ∧ RoundsTo b r

/-- Different integers that round together have 53 bits at least and are close to each other. -/
theorem RoundTogether.large (together : RoundTogether a b) (different : a ≠ b)
    (firstRange : a.natAbs < 2 ^ 64) (secondRange : b.natAbs < 2 ^ 64) :
    2 ^ 53 ≤ a.natAbs ∧ 2 ^ 53 ≤ b.natAbs ∧ (a - b).natAbs ≤ 2048 := by
  obtain ⟨r, first, second⟩ := together
  have small_eq (small : r.natAbs < 2 ^ 53) : a = b :=
    (first.eq_of_small small).trans (second.eq_of_small small).symm
  have self_small {c : Int} (rounds : RoundsTo c r) (small : c.natAbs < 2 ^ 53) : a = b := by
    obtain rfl := rounds.unique (.self (exact_of_natAbs_le small.le))
    exact small_eq small
  have fromFirst := first.natAbs_sub_le firstRange
  have fromSecond := second.natAbs_sub_le secondRange
  refine ⟨?_, ?_, ?_⟩
  · exact Nat.le_of_not_lt fun small => different (self_small first small)
  · exact Nat.le_of_not_lt fun small => different (self_small second small)
  · omega

/-- The numbers of two integers are equal if these round together, and else in the same order as they
are. -/
theorem order_ofInt (firstRange : a.natAbs < 2 ^ 64) (secondRange : b.natAbs < 2 ^ 64) :
    (RoundTogether a b → (ofInt a).order (ofInt b) = .eq) ∧
      (¬ RoundTogether a b → (ofInt a).order (ofInt b) = compare a b) := by
  obtain ⟨r, first, firstUnits⟩ := toInt_ofInt firstRange
  obtain ⟨s, second, secondUnits⟩ := toInt_ofInt secondRange
  have pos : (0 : Int) < unit := Int.natCast_pos.mpr unit_pos
  rw [order, firstUnits, secondUnits]
  constructor
  · rintro ⟨t, first', second'⟩
    obtain rfl := first.unique first'
    obtain rfl := second.unique second'
    exact Int.compare_eq_eq.mpr rfl
  · intro apart
    have different : r ≠ s := by
      rintro rfl
      exact apart ⟨r, first, second⟩
    rcases Int.lt_trichotomy a b with less | rfl | greater
    · have rounded : r < s := lt_of_le_of_ne (first.mono second less.le) different
      rw [Int.compare_eq_lt.mpr less, Int.compare_eq_lt]
      exact Int.mul_lt_mul_of_pos_right rounded pos
    · exact absurd (first.unique second) different
    · have rounded : s < r := lt_of_le_of_ne (second.mono first greater.le) different.symm
      rw [Int.compare_eq_gt.mpr greater, Int.compare_eq_gt]
      exact Int.mul_lt_mul_of_pos_right rounded pos

theorem equal_ofInt_iff (firstRange : a.natAbs < 2 ^ 64) (secondRange : b.natAbs < 2 ^ 64) :
    (ofInt a).equal (ofInt b) = true ↔ RoundTogether a b := by
  have level : (ofInt a).equal (ofInt b) = true ↔ (ofInt a).order (ofInt b) = .eq := by
    rw [order, Int.compare_eq_eq, equal, decide_eq_true_iff]
  obtain ⟨eq_of_together, order_of_apart⟩ := order_ofInt firstRange secondRange
  rw [level]
  constructor
  · intro ordered
    by_contra apart
    obtain rfl : a = b := Int.compare_eq_eq.mp ((order_of_apart apart).symm.trans ordered)
    obtain ⟨r, rounds, -⟩ := toInt_ofInt firstRange
    exact apart ⟨r, rounds, rounds⟩
  · exact eq_of_together

end Storefront.Binary64
