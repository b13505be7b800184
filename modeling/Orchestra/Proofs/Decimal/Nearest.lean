import Mathlib.Tactic.Linarith
import Mathlib.Tactic.Ring
import Orchestra.Decimal.Binary

/-!
Rounding a fraction to 53 significant bits, ties to even. The rounding keeps the order of fractions
and leaves alone what has few bits.
-/

namespace Orchestra.Decimal

/-- Rounding to the nearest whole number is determined by the halves between whole numbers; the half
above an even one belongs to it. -/
theorem roundDiv_le_iff {n d : Nat} (positive : 0 < d) (k : Nat) :
    roundDiv n d ≤ k ↔ 2 * n < (2 * k + 1) * d ∨ 2 * n = (2 * k + 1) * d ∧ k % 2 = 0 := by
  obtain ⟨q, r, less, rfl⟩ : ∃ q r, r < d ∧ n = d * q + r :=
    ⟨n / d, n % d, Nat.mod_lt _ positive, (Nat.div_add_mod n d).symm⟩
  have quotient : (d * q + r) / d = q := by
    rw [Nat.mul_add_div positive, Nat.div_eq_of_lt less, Nat.add_zero]
  have rest : (d * q + r) % d = r := by rw [Nat.mul_add_mod, Nat.mod_eq_of_lt less]
  simp only [roundDiv, quotient, rest]
  rcases Nat.lt_trichotomy q k with lower | rfl | upper
  · -- below the last unit there is room for the whole rest
    have room : d * (q + 1) ≤ d * k := Nat.mul_le_mul_left d lower
    have bound : q + q % 2 ≤ k := by omega
    rw [Nat.mul_add, Nat.mul_one] at room
    have left : 2 * (d * q + r) < (2 * k + 1) * d := by
      rw [show (2 * k + 1) * d = 2 * (d * k) + d by ring]
      omega
    simp only [left, true_or, iff_true]
    split_ifs <;> omega
  · rw [show (2 * q + 1) * d = 2 * (d * q) + d by ring]
    split_ifs <;> omega
  · have room : d * (k + 1) ≤ d * q := Nat.mul_le_mul_left d upper
    rw [Nat.mul_add, Nat.mul_one] at room
    rw [show (2 * k + 1) * d = 2 * (d * k) + d by ring]
    split_ifs <;> omega

theorem roundDiv_mono {n d n' d' : Nat} (positive : 0 < d) (positive' : 0 < d')
    (below : n * d' ≤ n' * d) : roundDiv n d ≤ roundDiv n' d' := by
  have step := (roundDiv_le_iff positive' (roundDiv n' d')).mp le_rfl
  rw [roundDiv_le_iff positive]
  set k := roundDiv n' d'
  rcases step with less | ⟨tie, even⟩
  · left
    nlinarith
  · rcases Nat.lt_or_ge (2 * n) ((2 * k + 1) * d) with less | more
    · exact .inl less
    · refine .inr ⟨?_, even⟩
      nlinarith

/-- A common factor of both sides does not matter. -/
theorem roundDiv_mul_left {c : Nat} (positive : 0 < c) (n d : Nat) :
    roundDiv (c * n) (c * d) = roundDiv n d := by
  have less : 2 * (c * (n % d)) < c * d ↔ 2 * (n % d) < d := by
    rw [Nat.mul_left_comm, Nat.mul_lt_mul_left positive]
  have more : c * d < 2 * (c * (n % d)) ↔ d < 2 * (n % d) := by
    rw [Nat.mul_left_comm, Nat.mul_lt_mul_left positive]
  simp only [roundDiv, Nat.mul_div_mul_left _ _ positive, Nat.mul_mod_mul_left, less, more]

theorem roundDiv_mul_self {d : Nat} (positive : 0 < d) (k : Nat) : roundDiv (k * d) d = k := by
  simp [roundDiv, Nat.mul_div_cancel k positive, positive]

theorem log2_mono {a b : Nat} (below : a ≤ b) : a.log2 ≤ b.log2 := by
  rcases Nat.eq_zero_or_pos a with rfl | positive
  · exact Nat.zero_le _
  · rw [Nat.le_log2 (Nat.ne_of_gt (Nat.lt_of_lt_of_le positive below))]
    exact (Nat.log2_self_le (Nat.ne_of_gt positive)).trans below

theorem log2_mul_two_pow {n : Nat} (positive : 0 < n) (k : Nat) :
    (n * 2 ^ k).log2 = n.log2 + k := by
  have shifted : n * 2 ^ k ≠ 0 := Nat.ne_of_gt (Nat.mul_pos positive (Nat.two_pow_pos k))
  rw [Nat.log2_eq_iff shifted, Nat.pow_add, Nat.add_right_comm, Nat.pow_add]
  exact ⟨Nat.mul_le_mul_right _ (Nat.log2_self_le (Nat.ne_of_gt positive)),
    Nat.mul_lt_mul_of_pos_right Nat.lt_log2_self (Nat.two_pow_pos k)⟩

/-- How many bits the whole part of a fraction has beyond the first 53. -/
def spare (n d : Nat) : Nat :=
  (n / d).log2 - 52

/-- The fraction `n / d` rounded to a whole number of at most 53 significant bits. -/
def nearest (n d : Nat) : Nat :=
  roundDiv n (d * 2 ^ spare n d) * 2 ^ spare n d

theorem lt_spare (n d : Nat) : n / d < 2 ^ (53 + spare n d) := by
  refine Nat.lt_of_lt_of_le Nat.lt_log2_self (Nat.pow_le_pow_right Nat.two_pos ?_)
  unfold spare
  omega

/-- Where bits are dropped, 53 are left. -/
theorem spare_le (n d : Nat) : spare n d = 0 ∨ 2 ^ (52 + spare n d) ≤ n / d := by
  rcases Nat.eq_zero_or_pos (spare n d) with zero | positive
  · exact .inl zero
  · unfold spare at positive ⊢
    have : n / d ≠ 0 := fun zero => by simp [zero] at positive
    rw [show 52 + ((n / d).log2 - 52) = (n / d).log2 by omega]
    exact .inr (Nat.log2_self_le this)

/-- The two bounds determine the number of dropped bits. -/
theorem spare_eq {n d k : Nat} (small : n / d < 2 ^ (53 + k))
    (large : k = 0 ∨ 2 ^ (52 + k) ≤ n / d) : spare n d = k := by
  unfold spare
  rcases large with rfl | large
  · rcases Nat.eq_zero_or_pos (n / d) with zero | positive
    · rw [zero]
      rfl
    · have := (Nat.log2_lt (Nat.ne_of_gt positive)).mpr small
      omega
  · have positive : n / d ≠ 0 := Nat.ne_of_gt (Nat.lt_of_lt_of_le (Nat.two_pow_pos _) large)
    have lower := (Nat.le_log2 positive).mpr large
    have upper := (Nat.log2_lt positive).mpr small
    omega

theorem roundDiv_le_two_pow {n d : Nat} (positive : 0 < d) {k : Nat} (small : n / d < 2 ^ (53 + k)) :
    roundDiv n (d * 2 ^ k) ≤ 2 ^ 53 := by
  have unit : 0 < d * 2 ^ k := Nat.mul_pos positive (Nat.two_pow_pos k)
  calc roundDiv n (d * 2 ^ k) ≤ roundDiv (2 ^ 53 * (d * 2 ^ k)) (d * 2 ^ k) := by
        refine roundDiv_mono unit unit (Nat.mul_le_mul_right _ ?_)
        rw [Nat.div_lt_iff_lt_mul positive, Nat.pow_add] at small
        rw [← Nat.mul_assoc, Nat.mul_right_comm]
        exact small.le
    _ = 2 ^ 53 := roundDiv_mul_self unit _

theorem two_pow_le_roundDiv {n d : Nat} (positive : 0 < d) {k : Nat} (large : 2 ^ (52 + k) ≤ n / d) :
    2 ^ 52 ≤ roundDiv n (d * 2 ^ k) := by
  have unit : 0 < d * 2 ^ k := Nat.mul_pos positive (Nat.two_pow_pos k)
  calc 2 ^ 52 = roundDiv (2 ^ 52 * (d * 2 ^ k)) (d * 2 ^ k) := (roundDiv_mul_self unit _).symm
    _ ≤ roundDiv n (d * 2 ^ k) := by
        refine roundDiv_mono unit unit (Nat.mul_le_mul_right _ ?_)
        rw [Nat.le_div_iff_mul_le positive, Nat.pow_add] at large
        rw [← Nat.mul_assoc, Nat.mul_right_comm]
        exact large

/-- Rounding keeps the order of fractions. -/
theorem nearest_mono {n d n' d' : Nat} (positive : 0 < d) (positive' : 0 < d')
    (below : n * d' ≤ n' * d) : nearest n d ≤ nearest n' d' := by
  have floors : n / d ≤ n' / d' := by
    rw [Nat.le_div_iff_mul_le positive']
    refine Nat.le_of_mul_le_mul_right (c := d) ?_ positive
    calc n / d * d' * d = n / d * d * d' := Nat.mul_right_comm _ _ _
      _ ≤ n * d' := Nat.mul_le_mul_right _ (Nat.div_mul_le_self n d)
      _ ≤ n' * d := below
  have small := lt_spare n d
  have large := spare_le n' d'
  have spares : spare n d ≤ spare n' d' := Nat.sub_le_sub_right (log2_mono floors) 52
  unfold nearest
  generalize spare n d = k at *
  generalize spare n' d' = k' at *
  rcases Nat.eq_or_lt_of_le spares with same | fewer
  · rw [← same]
    refine Nat.mul_le_mul_right _ (roundDiv_mono ?_ ?_ ?_)
    · exact Nat.mul_pos positive (Nat.two_pow_pos k)
    · exact Nat.mul_pos positive' (Nat.two_pow_pos k)
    · rw [← Nat.mul_assoc, ← Nat.mul_assoc]
      exact Nat.mul_le_mul_right _ below
  · -- a power of two lies between numbers with different numbers of bits
    calc roundDiv n (d * 2 ^ k) * 2 ^ k ≤ 2 ^ 53 * 2 ^ k :=
          Nat.mul_le_mul_right _ (roundDiv_le_two_pow positive small)
      _ = 2 ^ 52 * 2 ^ (k + 1) := by ring
      _ ≤ 2 ^ 52 * 2 ^ k' := Nat.mul_le_mul_left _ (Nat.pow_le_pow_right Nat.two_pos fewer)
      _ ≤ roundDiv n' (d' * 2 ^ k') * 2 ^ k' := by
          refine Nat.mul_le_mul_right _ (two_pow_le_roundDiv positive' (large.resolve_left ?_))
          omega

/-- A whole number with at most 53 significant bits. -/
def Short (units : Nat) : Prop :=
  ∃ mantissa exponent, mantissa < 2 ^ 53 ∧ units = mantissa * 2 ^ exponent

/-- What has few bits is not rounded. -/
theorem nearest_of_short {units : Nat} (short : Short units) {d : Nat} (positive : 0 < d) :
    nearest (units * d) d = units := by
  obtain ⟨mantissa, exponent, small, rfl⟩ := short
  rcases Nat.eq_zero_or_pos mantissa with rfl | some
  · simp [nearest, roundDiv, positive]
  · have bits : spare (mantissa * 2 ^ exponent * d) d ≤ exponent := by
      have few : mantissa.log2 < 53 := (Nat.log2_lt (Nat.ne_of_gt some)).mpr small
      unfold spare
      rw [Nat.mul_div_cancel _ positive, log2_mul_two_pow some]
      omega
    unfold nearest
    generalize spare (mantissa * 2 ^ exponent * d) d = k at bits
    obtain ⟨rest, rfl⟩ := Nat.exists_eq_add_of_le' bits
    have whole : mantissa * 2 ^ (rest + k) * d = mantissa * 2 ^ rest * (d * 2 ^ k) := by ring
    rw [whole, roundDiv_mul_self (Nat.mul_pos positive (Nat.two_pow_pos k)), Nat.pow_add,
      Nat.mul_assoc]

theorem nearest_zero (d : Nat) : nearest 0 d = 0 := by
  rcases Nat.eq_zero_or_pos d with rfl | positive
  · rfl
  · have short : Short 0 := ⟨0, 0, by decide, rfl⟩
    simpa using nearest_of_short short positive

/-- A fraction that has all its bits is rounded alike in a smaller unit. -/
theorem nearest_mul_two_pow {n d j : Nat} (positive : 0 < d) (full : j = 0 ∨ 2 ^ 52 ≤ n / d) :
    nearest (n * 2 ^ j) d = nearest n d * 2 ^ j := by
  rcases full with rfl | full
  · rw [Nat.pow_zero, Nat.mul_one, Nat.mul_one]
  · have large : 2 ^ (52 + spare n d) ≤ n / d := by
      rcases spare_le n d with none | large
      · rw [none]
        exact full
      · exact large
    have bits : spare (n * 2 ^ j) d = spare n d + j := by
      apply spare_eq
      · have small := lt_spare n d
        rw [Nat.div_lt_iff_lt_mul positive] at small ⊢
        rw [← Nat.add_assoc, Nat.pow_add, Nat.mul_right_comm]
        exact Nat.mul_lt_mul_of_pos_right small (Nat.two_pow_pos j)
      · right
        rw [Nat.le_div_iff_mul_le positive] at large ⊢
        rw [← Nat.add_assoc, Nat.pow_add, Nat.mul_right_comm]
        exact Nat.mul_le_mul_right _ large
    have factor : d * 2 ^ (spare n d + j) = 2 ^ j * (d * 2 ^ spare n d) := by ring
    unfold nearest
    rw [bits, factor, Nat.mul_comm n, roundDiv_mul_left (Nat.two_pow_pos j), Nat.pow_add,
      Nat.mul_assoc]

/-- What is rounded up to a power of two: everything from halfway below it on. -/
theorem nearest_lt_iff {n d k : Nat} (positive : 0 < d) :
    nearest n d < 2 ^ (53 + k) ↔ 2 * n < (2 ^ 54 - 1) * (d * 2 ^ k) := by
  have unit : 0 < d * 2 ^ k := Nat.mul_pos positive (Nat.two_pow_pos k)
  constructor
  · intro less
    by_contra more
    have below : (2 ^ 54 - 1) * 2 ^ k * d ≤ n * 2 := by
      rw [Nat.mul_assoc, Nat.mul_comm (2 ^ k)]
      omega
    have tie : nearest ((2 ^ 54 - 1) * 2 ^ k) 2 = 2 ^ (53 + k) := by
      rw [nearest_mul_two_pow Nat.two_pos (.inr (by decide)), Nat.pow_add]
      rfl
    have := nearest_mono Nat.two_pos positive below
    omega
  · intro less
    have small : n / d < 2 ^ (53 + k) := by
      rw [Nat.div_lt_iff_lt_mul positive, Nat.pow_add, Nat.mul_assoc, Nat.mul_comm (2 ^ k)]
      omega
    have spares : spare n d ≤ k := by
      unfold spare
      rcases Nat.eq_zero_or_pos (n / d) with zero | some
      · rw [zero]
        exact Nat.zero_le k
      · have := (Nat.log2_lt some.ne').mpr small
        omega
    rw [Nat.pow_add]
    unfold nearest
    rcases Nat.eq_or_lt_of_le spares with same | fewer
    · have rounded : roundDiv n (d * 2 ^ k) ≤ 2 ^ 53 - 1 :=
        (roundDiv_le_iff unit _).mpr (.inl less)
      rw [same]
      exact Nat.mul_lt_mul_of_pos_right (by omega) (Nat.two_pow_pos k)
    · calc roundDiv n (d * 2 ^ spare n d) * 2 ^ spare n d ≤ 2 ^ 53 * 2 ^ spare n d :=
            Nat.mul_le_mul_right _ (roundDiv_le_two_pow positive (lt_spare n d))
        _ < 2 ^ 53 * 2 ^ k :=
            Nat.mul_lt_mul_of_pos_left (Nat.pow_lt_pow_right Nat.one_lt_two fewer) (by decide)

end Orchestra.Decimal
