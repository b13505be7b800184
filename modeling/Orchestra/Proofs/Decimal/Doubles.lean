import Orchestra.Proofs.Decimal.Quotient

/-!
Doubles that are not below zero.

Products and powers of finite ones are not below zero, whole numbers have doubles up to a limit, and
these are whole. Rounding to decimal places keeps the order of numbers, whether they are integers,
which are not rounded, or doubles. A double is rounded twice: to a whole number of decimal units and
back to a double.
-/

namespace Orchestra.Decimal

open Float.Model Float.Model.UnpackedFloat

/-- A finite double that is not below zero: so many units above it. -/
theorem parts_of_position {x : Float} {units : Nat}
    (position : (Number.float x).position? = some (.finite units)) :
    ∃ negative m e, Binary.ofFloat x = .finite negative m e ∧ unitsOf m e = units ∧
      (negative = true → m = 0) := by
  unfold Number.position? at position
  rcases parts : Binary.ofFloat x with _ | negative | ⟨negative, m, e⟩ <;>
    simp only [parts] at position
  · exact absurd position (by simp)
  · cases negative <;> simp at position
  · have value : (if negative then -(unitsOf m e : Int) else (unitsOf m e : Int)) = units :=
      Number.Position.finite.inj (Option.some.inj position)
    refine ⟨negative, m, e, rfl, ?_, ?_⟩
    · cases negative <;> simp at value <;> omega
    · rintro rfl
      have : unitsOf m e = 0 := by
        simp at value
        omega
      exact (Nat.mul_eq_zero.mp this).resolve_right (Nat.two_pow_pos _).ne'

/-- The units of a double are few enough and have few enough bits. -/
theorem short_of_position {x : Float} {units : Nat}
    (position : (Number.float x).position? = some (.finite units)) :
    Short units ∧ units < limit := by
  obtain ⟨negative, m, e, parts, rfl, -⟩ := parts_of_position position
  obtain ⟨canonical, top⟩ := Binary.canonical_ofFloat parts
  exact ⟨⟨m, _, canonical.short, rfl⟩, unitsOf_lt_limit canonical.short top⟩

theorem isFinite_eq (x : Float) :
    x.isFinite = match Binary.ofFloat x with
      | .finite .. => true
      | _ => false := by
  show x.toModel.unpack.isFinite = _
  rw [Binary.ofFloat_eq]
  cases x.toModel.unpack <;> rfl

/-- A double has a place among the finite numbers exactly where it is finite. -/
theorem isFinite_iff (x : Float) :
    x.isFinite = true ↔ ∃ scaled, (Number.float x).position? = some (.finite scaled) := by
  rw [isFinite_eq, Number.position?]
  rcases Binary.ofFloat x with _ | negative | ⟨negative, m, e⟩
  · simp
  · cases negative <;> simp
  · simp [Binary.scaled?]

theorem isFinite_of_standing {x : Float} {units : Nat}
    (position : (Number.float x).position? = some (standing units)) :
    x.isFinite = decide (units < limit) := by
  rw [Bool.eq_iff_iff, isFinite_iff, position, decide_eq_true_iff]
  unfold standing
  split_ifs with small <;> simp [small]

/-- Not below zero, and perhaps infinite. -/
def IsRising (x : Float) : Prop :=
  (Number.float x).position? = some .top ∨ ∃ units : Nat,
    (Number.float x).position? = some (.finite units)

theorem isRising_of_standing {x : Float} {units : Nat}
    (position : (Number.float x).position? = some (standing units)) : IsRising x := by
  unfold IsRising
  rw [position, standing]
  split_ifs with small
  · exact .inr ⟨units, rfl⟩
  · exact .inl rfl

/-- Fields without a sign that are not those of not-a-number. -/
theorem isRising_of_components {x : Float} (e : BitVec 11) (m : BitVec 52)
    (fields : x.toBits.toBitVec = packComponents Format.binary64 .positive e m)
    (number : e.toNat ≠ 2047 ∨ m = 0) : IsRising x := by
  have parts := Binary.ofFloat_of_components x _ e m fields
  unfold Binary.ofFields at parts
  split_ifs at parts with special infinite small
  · exact .inl (position_of_infinite parts)
  · simp_all
  · exact .inr ⟨_, position_of_finite parts⟩
  · exact .inr ⟨_, position_of_finite parts⟩

theorem isRising_assembled (m : Nat) (e : Int) : IsRising (packed (assembled .positive m e)) := by
  unfold assembled
  split_ifs with zero
  · exact .inr ⟨0, position_packed_zero .positive⟩
  · have bits := toBits_packed_finite .positive m e (Nat.pos_of_ne_zero zero)
    split_ifs at bits with top normal
    · exact isRising_of_components _ _ bits (.inr rfl)
    · refine isRising_of_components _ _ bits (.inl ?_)
      rw [BitVec.toNat_ofNat]
      omega
    · exact isRising_of_components _ _ bits (.inl (by decide))

/-- A finite double that is not below zero is a zero of either sign, or has no sign. -/
theorem unpack_of_position {x : Float} {units : Nat}
    (position : (Number.float x).position? = some (.finite units)) :
    ∃ s m e, x.toModel.unpack = assembled s m e ∧ (m ≠ 0 → s = .positive) := by
  obtain ⟨negative, m, e, parts, -, sign⟩ := parts_of_position position
  rw [Binary.ofFloat_eq] at parts
  generalize x.toModel.unpack = whole at parts ⊢
  rcases whole with s | _ | s | ⟨s, m', e', positive⟩
  · cases parts
  · cases parts
  · exact ⟨s, 0, 0, rfl, fun some => absurd rfl some⟩
  · obtain ⟨rfl, rfl, rfl⟩ := Binary.finite.inj parts
    refine ⟨s, m', e', by rw [assembled, dif_neg positive.ne'], fun some => ?_⟩
    cases s
    · exact absurd (sign rfl) some
    · rfl

/-- The product of finite doubles that are not below zero is not below zero. -/
theorem isRising_mul {x y : Float} {a b : Nat}
    (left : (Number.float x).position? = some (.finite a))
    (right : (Number.float y).position? = some (.finite b)) : IsRising (x * y) := by
  obtain ⟨s, m, e, first, sign⟩ := unpack_of_position left
  obtain ⟨s', m', e', second, sign'⟩ := unpack_of_position right
  show IsRising (packed (UnpackedFloat.mul Format.binary64 x.toModel.unpack y.toModel.unpack))
  rw [first, second]
  unfold assembled
  split_ifs with zero zero' zero'
  · exact .inr ⟨0, position_packed_zero _⟩
  · exact .inr ⟨0, position_packed_zero _⟩
  · exact .inr ⟨0, position_packed_zero _⟩
  · rw [sign zero, sign' zero']
    exact isRising_assembled _ _

theorem scaleByTwo_pos (m : Nat) (e : Int) : 0 < (scaleByTwo m e).2 := by
  unfold scaleByTwo
  split_ifs
  · exact Nat.one_pos
  · exact Nat.two_pow_pos _

/-- The fraction that a mantissa and an exponent stand for. -/
theorem scaleByTwo_eq (m : Nat) {e : Int} (least : -1074 ≤ e) :
    (scaleByTwo m e).1 * scale = unitsOf m e * (scaleByTwo m e).2 := by
  have bits : (depth : Int) = 1074 := rfl
  unfold scaleByTwo unitsOf
  rw [scale_eq]
  split_ifs with whole
  · show m * 2 ^ e.toNat * 2 ^ depth = _ * 1
    rw [Nat.mul_one, Nat.mul_assoc, ← Nat.pow_add]
    congr 2
    omega
  · show m * 2 ^ depth = m * _ * 2 ^ (-e).toNat
    rw [Nat.mul_assoc, ← Nat.pow_add]
    congr 2
    omega

/-- A double of whole units is read as a natural number. -/
theorem natural?_of_position {x : Float} {n : Nat}
    (position : (Number.float x).position? = some (.finite (n * scale : Nat))) :
    (Binary.ofFloat x).natural? = some n := by
  obtain ⟨negative, m, e, parts, units, sign⟩ := parts_of_position position
  have least := (Binary.canonical_ofFloat parts).1.least
  have fraction := scaleByTwo_eq m least
  have positive := scaleByTwo_pos m e
  have numerator : (scaleByTwo m e).1 = n * (scaleByTwo m e).2 := by
    rw [units] at fraction
    exact Nat.eq_of_mul_eq_mul_right scale_pos (fraction.trans (Nat.mul_right_comm _ _ _))
  have quotient : (scaleByTwo m e).1 / (scaleByTwo m e).2 = n := by
    rw [numerator, Nat.mul_div_cancel _ positive]
  have rest : (scaleByTwo m e).1 % (scaleByTwo m e).2 = 0 := by
    rw [numerator, Nat.mul_mod_left]
  have size : (if negative then -(n : Int) else n) = n := by
    cases negative
    · rfl
    · have zero : n = 0 := by
        have none : n * scale = 0 := by rw [← units, sign rfl, unitsOf, Nat.zero_mul]
        exact (Nat.mul_eq_zero.mp none).resolve_right scale_pos.ne'
      rw [zero]
      rfl
  simp only [parts, Binary.natural?, Binary.truncate?, Binary.isWhole, quotient, rest, size]
  simp

/-- The halfway point between the greatest double and the next power of two: from there on a whole
number has no double. -/
def countLimit : Nat :=
  2 ^ 1024 - 2 ^ 970

theorem countLimit_eq : countLimit = (2 ^ 54 - 1) * 2 ^ (width - 54 - depth) := by
  have split (k : Nat) (bits : k = 970) : 2 ^ 1024 - 2 ^ 970 = (2 ^ 54 - 1) * 2 ^ k := by
    rw [Nat.sub_mul, Nat.one_mul, ← Nat.pow_add, bits]
  exact split _ rfl

/-- A whole number has a double exactly below the limit. -/
theorem nearest_one_lt_iff (n : Nat) : nearest (n * scale) 1 < limit ↔ n < countLimit := by
  have bits : width - 53 = width - 54 - depth + depth + 1 := by decide
  have half : 2 ^ (width - 53) = 2 * (2 ^ (width - 54 - depth) * scale) := by
    rw [scale_eq, ← Nat.pow_add, ← Nat.pow_succ', bits]
  rw [limit_eq (show 53 ≤ width by decide), ← Nat.pow_add, nearest_lt_iff Nat.one_pos, Nat.one_mul,
    half, Nat.mul_left_comm (2 ^ 54 - 1), Nat.mul_lt_mul_left Nat.two_pos, ← Nat.mul_assoc, ← countLimit_eq,
    Nat.mul_lt_mul_right scale_pos]

/-- A rounded whole number is whole. -/
theorem exists_nearest_one (n : Nat) : ∃ k, nearest (n * scale) 1 = k * scale := by
  unfold nearest
  generalize spare (n * scale) 1 = bits
  rw [Nat.one_mul]
  rcases Nat.le_total bits depth with few | many
  · obtain ⟨rest, exact⟩ := Nat.exists_eq_add_of_le' few
    refine ⟨n, ?_⟩
    rw [scale_eq, exact, Nat.pow_add, ← Nat.mul_assoc, roundDiv_mul_self (Nat.two_pow_pos bits)]
  · obtain ⟨rest, rfl⟩ := Nat.exists_eq_add_of_le' many
    exact ⟨roundDiv (n * scale) (2 ^ (rest + depth)) * 2 ^ rest, by
      rw [Nat.pow_add, scale_eq, Nat.mul_assoc]⟩

theorem floatOfInt_natCast (n : Nat) :
    Number.floatOfInt n = if n < countLimit then .ok (roundToFloat false n 1)
      else .error .integerTooLarge := by
  have sign : decide ((n : Int) < 0) = false := decide_eq_false (by omega)
  have finite := isFinite_of_standing (@position_roundToFloat n 1 Nat.one_pos)
  simp only [nearest_one_lt_iff] at finite
  simp only [Number.floatOfInt, sign, Int.natAbs_natCast, finite, decide_eq_true_eq]

/-- The double of a whole number below the limit is whole. -/
theorem position_double {n : Nat} (less : n < countLimit) :
    ∃ k : Nat, (Number.float (roundToFloat false n 1)).position? =
      some (.finite (k * scale : Nat)) := by
  obtain ⟨k, whole⟩ := exists_nearest_one n
  rw [position_roundToFloat Nat.one_pos, standing, if_pos ((nearest_one_lt_iff n).mpr less), whole]
  exact ⟨k, rfl⟩

theorem position_roundToFloat_zero (negative : Bool) (d : Nat) :
    (Number.float (roundToFloat negative 0 d)).position? = some (.finite 0) := by
  have same : roundToFloat negative 0 d = roundToFloat negative 0 1 := by
    simp only [roundToFloat, roundToFloat.ratio, dif_pos]
  rw [same]
  cases negative <;> rfl

theorem isRising_toFloat (x : Wide) : IsRising (x.toFloat false) := by
  unfold Wide.toFloat
  dsimp only
  split_ifs with small large
  · exact isRising_of_standing (position_roundToFloat Nat.one_pos)
  · exact .inl (position_of_infinite (Binary.ofFloat_packed_infinity .positive))
  · exact isRising_of_standing (position_roundToFloat (scaleByTwo_pos _ _))

theorem position_toFloat_zero (negative : Bool) {x : Wide} (zero : x.mantissa = 0) :
    (Number.float (x.toFloat negative)).position? = some (.finite 0) := by
  have none : (x.mantissa == 0 || x.exponent + (x.mantissa.log2 : Int) < -1200) = true := by
    simp [zero]
  unfold Wide.toFloat
  dsimp only
  rw [if_pos none]
  exact position_roundToFloat_zero negative 1

theorem Wide.mul_mantissa_zero (x : Wide) {y : Wide} (zero : y.mantissa = 0) :
    (x.mul y).mantissa = 0 := by
  simp [Wide.mul, Wide.cut, zero]

/-- The odd powers of zero are zero. -/
theorem Wide.pow_mantissa_zero {x : Wide} (zero : x.mantissa = 0) {n : Nat} (odd : n % 2 = 1) :
    (x.pow n).mantissa = 0 := by
  obtain ⟨digits, last⟩ : ∃ digits, Nat.toDigits 2 n = digits ++ ['1'] := by
    rw [Nat.toDigits_eq_if Nat.one_lt_two, odd]
    split_ifs with short
    · refine ⟨[], ?_⟩
      have one : n = 1 := by omega
      rw [one]
      rfl
    · exact ⟨_, rfl⟩
  unfold Wide.pow
  rw [last, List.foldl_append]
  exact Wide.mul_mantissa_zero _ zero

/-- The powers of a finite double that is not below zero are not below zero. -/
theorem isRising_powFloat {x : Float} {units : Nat}
    (position : (Number.float x).position? = some (.finite units)) (n : Nat) :
    IsRising (powFloat x n) := by
  obtain ⟨negative, m, e, parts, -, sign⟩ := parts_of_position position
  unfold powFloat
  simp only [parts]
  rcases signed : negative && n % 2 == 1 with _ | _
  · exact isRising_toFloat _
  · rw [Bool.and_eq_true, beq_iff_eq] at signed
    exact .inr ⟨0, position_toFloat_zero true (Wide.pow_mantissa_zero (sign signed.1) signed.2)⟩

/-- The units of a number of units rounded to decimal places. -/
def decimals (places units : Nat) : Nat :=
  nearest (roundDiv (units * 10 ^ places) scale * scale) (10 ^ places)

theorem roundedUnits_eq {m : Nat} {e : Int} (least : -1074 ≤ e) (places : Nat) :
    roundedUnits m e places = roundDiv (unitsOf m e * 10 ^ places) scale := by
  have positive := scaleByTwo_pos m e
  have fraction := scaleByTwo_eq m least
  show roundDiv ((scaleByTwo m e).1 * 10 ^ places) (scaleByTwo m e).2 = _
  rw [← roundDiv_mul_left scale_pos, ← roundDiv_mul_left positive (unitsOf m e * 10 ^ places),
    ← Nat.mul_assoc, ← Nat.mul_assoc, Nat.mul_comm scale, fraction, Nat.mul_comm (unitsOf m e),
    Nat.mul_comm scale]

theorem decimals_mono (places : Nat) {a b : Nat} (below : a ≤ b) :
    decimals places a ≤ decimals places b := by
  have tens : 0 < 10 ^ places := Nat.pow_pos (by decide)
  refine nearest_mono tens tens (Nat.mul_le_mul_right _ (Nat.mul_le_mul_right _ ?_))
  exact roundDiv_mono scale_pos scale_pos (Nat.mul_le_mul_right _ (Nat.mul_le_mul_right _ below))

/-- A whole number of few bits has no decimals to lose. -/
theorem decimals_whole (places : Nat) {n : Nat} (short : Short (n * scale)) :
    decimals places (n * scale) = n * scale := by
  unfold decimals
  rw [Nat.mul_right_comm n scale, roundDiv_mul_self scale_pos, Nat.mul_right_comm,
    nearest_of_short short (Nat.pow_pos (by decide))]

theorem short_mul_scale {n : Nat} (few : n ≤ 2 ^ 53) : Short (n * scale) := by
  rw [scale_eq]
  rcases Nat.lt_or_eq_of_le few with less | rfl
  · exact ⟨n, depth, less, rfl⟩
  · rw [← Nat.pow_add]
    exact short_two_pow _

/-- A double is whole from two to the 53rd on, where rounding to decimal places leaves it alone. -/
theorem decimals_eq_or_lt (places : Nat) {units : Nat} (short : Short units) :
    decimals places units = units ∨ units < 2 ^ 53 * scale := by
  obtain ⟨mantissa, exponent, small, rfl⟩ := id short
  rcases Nat.le_total depth exponent with whole | part
  · obtain ⟨rest, rfl⟩ := Nat.exists_eq_add_of_le' whole
    rw [Nat.pow_add, ← Nat.mul_assoc, ← scale_eq] at short ⊢
    exact .inl (decimals_whole places short)
  · right
    rw [scale_eq]
    exact Nat.mul_lt_mul_of_lt_of_le small (Nat.pow_le_pow_right Nat.two_pos part)
      (Nat.two_pow_pos _)

/-- A double is not rounded above a whole number that it does not exceed. -/
theorem decimals_le (places : Nat) {units n : Nat} (short : Short units) (below : units ≤ n * scale) :
    decimals places units ≤ n * scale := by
  rcases decimals_eq_or_lt places short with exact | small
  · rwa [exact]
  · have least : units ≤ min n (2 ^ 53) * scale := by
      rcases Nat.le_total n (2 ^ 53) with few | many
      · rwa [Nat.min_eq_left few]
      · rw [Nat.min_eq_right many]
        exact small.le
    calc decimals places units ≤ decimals places (min n (2 ^ 53) * scale) :=
          decimals_mono places least
      _ = min n (2 ^ 53) * scale := decimals_whole places (short_mul_scale (Nat.min_le_right _ _))
      _ ≤ n * scale := Nat.mul_le_mul_right scale (Nat.min_le_left _ _)

/-- A double is not rounded below a whole number that it reaches. -/
theorem le_decimals (places : Nat) {units n : Nat} (short : Short units) (above : n * scale ≤ units) :
    n * scale ≤ decimals places units := by
  rcases decimals_eq_or_lt places short with exact | small
  · rwa [exact]
  · have few : n < 2 ^ 53 := Nat.lt_of_mul_lt_mul_right (above.trans_lt small)
    calc n * scale = decimals places (n * scale) := (decimals_whole places (short_mul_scale few.le)).symm
      _ ≤ decimals places units := decimals_mono places above

/-- Rounding does not make a double infinite. -/
theorem decimals_lt_limit (places : Nat) {units : Nat} (short : Short units)
    (small : units < limit) : decimals places units < limit := by
  rcases decimals_eq_or_lt places short with exact | few
  · rwa [exact]
  · have power : 2 ^ 53 * scale < limit := by
      rw [scale_eq, limit_eq (show 53 ≤ width by decide)]
      exact Nat.mul_lt_mul_of_pos_left (Nat.pow_lt_pow_right Nat.one_lt_two (by decide)) (by decide)
    exact (decimals_le places short few.le).trans_lt power

theorem position_roundTo (places : Nat) {x : Float} {units : Nat}
    (position : (Number.float x).position? = some (.finite units)) :
    (Number.float (roundTo places x)).position? = some (.finite (decimals places units)) := by
  obtain ⟨short, small⟩ := short_of_position position
  obtain ⟨negative, m, e, parts, rfl, sign⟩ := parts_of_position position
  have least := (Binary.canonical_ofFloat parts).1.least
  have rounded : roundTo places x =
      roundToFloat negative (roundDiv (unitsOf m e * 10 ^ places) scale) (10 ^ places) := by
    rw [← roundedUnits_eq least]
    simp only [roundTo, parts]
    rfl
  rw [rounded]
  cases negative
  · rw [position_roundToFloat (Nat.pow_pos (by decide))]
    exact congrArg some (if_pos (decimals_lt_limit places short small))
  · have none : unitsOf m e = 0 := by rw [sign rfl, unitsOf, Nat.zero_mul]
    have nothing : roundDiv 0 scale = 0 := by simpa using roundDiv_mul_self scale_pos 0
    rw [none, Nat.zero_mul, nothing, position_roundToFloat_zero, decimals, Nat.zero_mul, nothing,
      Nat.zero_mul, nearest_zero]
    rfl

end Orchestra.Decimal

namespace Orchestra.Number

open Decimal

/-- Finite and not below zero: so many units. -/
def Measures (number : Number) (units : Nat) : Prop :=
  number.position? = some (.finite units)

instance (number : Number) (units : Nat) : Decidable (number.Measures units) :=
  inferInstanceAs (Decidable (number.position? = some (.finite units)))

theorem measures_int (n : Nat) : (Number.int n).Measures (n * scale) := by
  unfold Measures
  rw [position_int, Int.natCast_mul]

theorem exists_of_measures_int {n : Int} {units : Nat} (measures : (Number.int n).Measures units) :
    ∃ k : Nat, n = k ∧ units = k * scale := by
  unfold Measures at measures
  rw [position_int] at measures
  have value : n * (scale : Nat) = (units : Int) :=
    Position.finite.inj (Option.some.inj measures)
  have positive : (0 : Int) < (scale : Nat) := Int.natCast_pos.mpr scale_pos
  have above : 0 ≤ n * ((scale : Nat) : Int) := by
    rw [value]
    exact Int.natCast_nonneg units
  obtain ⟨k, rfl⟩ := Int.eq_ofNat_of_zero_le (Int.nonneg_of_mul_nonneg_left above positive)
  rw [← Int.natCast_mul, Int.natCast_inj] at value
  exact ⟨k, rfl, value.symm⟩

/-- Rounding to decimal places keeps the order. -/
theorem roundTo_mono (places : Nat) {a b : Number} {u v : Nat} (first : a.Measures u)
    (second : b.Measures v) (below : u ≤ v) :
    ∃ u' v', (a.roundTo places).Measures u' ∧ (b.roundTo places).Measures v' ∧ u' ≤ v' := by
  have double {x : Float} {units : Nat} (measures : (Number.float x).Measures units) :
      ((Number.float x).roundTo places).Measures (decimals places units) :=
    position_roundTo places measures
  have integer {n : Int} {units : Nat} (measures : (Number.int n).Measures units) :
      ((Number.int n).roundTo places).Measures units := measures
  rcases a with m | x <;> rcases b with n | y
  · exact ⟨u, v, integer first, integer second, below⟩
  · obtain ⟨k, -, whole⟩ := exists_of_measures_int first
    have short := (short_of_position second).1
    refine ⟨u, decimals places v, integer first, double second, ?_⟩
    rw [whole] at below ⊢
    exact le_decimals places short below
  · obtain ⟨k, -, whole⟩ := exists_of_measures_int second
    have short := (short_of_position first).1
    refine ⟨decimals places u, v, double first, integer second, ?_⟩
    rw [whole] at below ⊢
    exact decimals_le places short below
  · exact ⟨decimals places u, decimals places v, double first, double second,
      decimals_mono places below⟩

end Orchestra.Number
