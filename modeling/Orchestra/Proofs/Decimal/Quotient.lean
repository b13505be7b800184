import Mathlib
import Orchestra.Number
import Orchestra.Proofs.Decimal.Nearest

/-!
The double next to a quotient of natural numbers.

A double is put together from a sign, an exponent and a mantissa, and the same are read from it. The
quotient is computed with two further bits, which decide the rounding: the double is the quotient
rounded to 53 significant bits, or infinite. Positions are counted in units of two to the minus
1074th, of which every double is a whole number.
-/

namespace Orchestra.Decimal

open Float.Model Float.Model.UnpackedFloat

/-- The sign bit is set. -/
def isNegative : Sign → Bool
  | .negative => true
  | .positive => false

theorem toNat_packComponents (s : Sign) (e : BitVec 11) (m : BitVec 52) :
    (packComponents Format.binary64 s e m).toNat =
      s.toBitVec.toNat * 2 ^ 63 + e.toNat * 2 ^ 52 + m.toNat := by
  unfold packComponents
  rw [BitVec.toNat_append, BitVec.toNat_append, ← Nat.shiftLeft_add_eq_or_of_lt m.isLt,
    ← Nat.shiftLeft_add_eq_or_of_lt e.isLt, Nat.shiftLeft_eq, Nat.shiftLeft_eq]
  show (_ * 2 ^ 11 + _) * 2 ^ 52 + _ = _
  ring

/-- The binary fraction that the three fields of a double stand for. -/
def Binary.ofFields (negative : Bool) (exponent fraction : Nat) : Binary :=
  if exponent == 2047 then
    if fraction == 0 then .infinite negative else .nan
  else if exponent == 0 then .finite negative fraction (-1074)
  else .finite negative (Nat.pow 2 52 + fraction) ((exponent : Int) - 1075)

/-- What is put into the fields of a double is read from them. -/
theorem Binary.ofFloat_of_components (x : Float) (s : Sign) (e : BitVec 11) (m : BitVec 52)
    (fields : x.toBits.toBitVec = packComponents Format.binary64 s e m) :
    Binary.ofFloat x = Binary.ofFields (isNegative s) e.toNat m.toNat := by
  have bits : x.toBits.toNat = s.toBitVec.toNat * 2 ^ 63 + e.toNat * 2 ^ 52 + m.toNat := by
    rw [← toNat_packComponents, ← fields]
    rfl
  have small : s.toBitVec.toNat < 2 := s.toBitVec.isLt
  have exponent := e.isLt
  have fraction := m.isLt
  have sign : (x.toBits.toNat / 2 ^ 63 == 1) = isNegative s := by
    have : x.toBits.toNat / 2 ^ 63 = s.toBitVec.toNat := by omega
    rw [this]
    cases s <;> rfl
  have first : x.toBits.toNat / 2 ^ 52 % 2048 = e.toNat := by omega
  have second : x.toBits.toNat % 2 ^ 52 = m.toNat := by omega
  show Binary.ofFields (x.toBits.toNat / 2 ^ 63 == 1) (x.toBits.toNat / 2 ^ 52 % 2048)
    (x.toBits.toNat % 2 ^ 52) = _
  rw [sign, first, second]

/-- The double that is put together from its parts. -/
def packed (x : UnpackedFloat) : Float :=
  .ofModel (.pack x)

theorem Binary.ofFloat_packed_zero (s : Sign) :
    Binary.ofFloat (packed (.zero s)) = .finite (isNegative s) 0 (-1074) :=
  Binary.ofFloat_of_components _ s 0 0 rfl

theorem Binary.ofFloat_packed_infinity (s : Sign) :
    Binary.ofFloat (packed (.infinity s)) = .infinite (isNegative s) :=
  Binary.ofFloat_of_components _ s (-1#11) 0 rfl

/-- A finite double is normal, subnormal or, with an exponent out of range, infinite. -/
theorem toBits_packed_finite (s : Sign) (m : Nat) (e : Int) (positive : 0 < m) :
    (packed (.finite s m e positive)).toBits.toBitVec =
      if 2048 ≤ (e + 1075).toNat + 1 then packComponents Format.binary64 s (-1#11) 0
      else if m.log2 + 1 = 53 then
        packComponents Format.binary64 s (BitVec.ofNat 11 (e + 1075).toNat) (BitVec.ofNat 52 m)
      else packComponents Format.binary64 s 0#11 (BitVec.ofNat 52 m) := by
  have bias : e + (Format.binary64.exponentBias : Nat) +
      (Format.binary64.mantissaBitsWithoutImplicit : Nat) = e + 1075 := by
    show e + 1023 + 52 = _
    omega
  show UnpackedFloat.pack Format.binary64 (.finite s m e positive) = _
  simp only [UnpackedFloat.pack, bias]
  rfl

/-- A mantissa and an exponent are those of a double, were there no bound on the exponent. -/
structure Canonical (m : Nat) (e : Int) : Prop where
  short : m < 2 ^ 53
  least : -1074 ≤ e
  full : e = -1074 ∨ 2 ^ 52 ≤ m

/-- A canonical pair is read back; only an exponent out of range makes the double infinite. -/
theorem Binary.ofFloat_packed_finite (s : Sign) (m : Nat) (e : Int) (positive : 0 < m)
    (canonical : Canonical m e) :
    Binary.ofFloat (packed (.finite s m e positive)) =
      if e < 972 then .finite (isNegative s) m e else .infinite (isNegative s) := by
  obtain ⟨short, least, full⟩ := canonical
  have bits := toBits_packed_finite s m e positive
  split_ifs at bits with top normal
  · rw [if_neg (by omega)]
    exact Binary.ofFloat_of_components _ s (-1#11) 0 bits
  · obtain ⟨large, -⟩ := (Nat.log2_eq_iff positive.ne').mp (Nat.succ.inj normal)
    have exponent : (e + 1075).toNat % 2 ^ 11 = (e + 1075).toNat := by omega
    have fraction : 2 ^ 52 + m % 2 ^ 52 = m := by omega
    rw [if_pos (by omega), Binary.ofFloat_of_components _ _ _ _ bits, BitVec.toNat_ofNat,
      BitVec.toNat_ofNat, exponent, Binary.ofFields, if_neg (by rw [beq_iff_eq]; omega),
      if_neg (by rw [beq_iff_eq]; omega)]
    show Binary.finite _ (2 ^ 52 + m % 2 ^ 52) _ = _
    rw [fraction]
    congr 1
    omega
  · have small : ¬ 2 ^ 52 ≤ m := fun large =>
      normal (congrArg Nat.succ ((Nat.log2_eq_iff positive.ne').mpr ⟨large, short⟩))
    have fraction : m % 2 ^ 52 = m := by omega
    rw [if_pos (by omega), Binary.ofFloat_of_components _ _ _ _ bits]
    show Binary.finite _ (m % 2 ^ 52) (-1074) = _
    rw [fraction]
    congr 1
    omega

/-- A double that is taken apart, as a binary fraction. -/
def Binary.ofUnpacked : UnpackedFloat → Binary
  | .notANumber => .nan
  | .infinity s => .infinite (isNegative s)
  | .zero s => .finite (isNegative s) 0 (-1074)
  | .finite s m e _ => .finite (isNegative s) m e

/-- Reading the fields of a double is taking it apart. -/
theorem Binary.ofFloat_eq (x : Float) : Binary.ofFloat x = Binary.ofUnpacked x.toModel.unpack := by
  have fields := @packComponents_unpackSign_unpackExponent_unpackMantissa Format.binary64
    x.toBits.toBitVec
  rw [Binary.ofFloat_of_components x _ _ _ fields.symm]
  show _ = Binary.ofUnpacked (UnpackedFloat.unpack Format.binary64 x.toBits.toBitVec)
  unfold Binary.ofFields UnpackedFloat.unpack
  have top (e : BitVec 11) : e = -1#_ ↔ (e.toNat == 2047) = true := by
    rw [← BitVec.toNat_inj, beq_iff_eq]
    rfl
  have bottom (e : BitVec 11) : e = 0#_ ↔ (e.toNat == 0) = true := by
    rw [← BitVec.toNat_inj, beq_iff_eq]
    rfl
  have empty (m : BitVec 52) : m = 0#_ ↔ (m.toNat == 0) = true := by
    rw [← BitVec.toNat_inj, beq_iff_eq]
    rfl
  have lead (m : BitVec 52) : (1#1 ++ m).toNat = 2 ^ 52 + m.toNat := by
    rw [BitVec.toNat_append, ← Nat.shiftLeft_add_eq_or_of_lt (BitVec.isLt _)]
    rfl
  simp only [top, bottom, empty]
  split_ifs with special none small none
  · rfl
  · rfl
  · rw [eq_of_beq none]
    rfl
  · simp only [Binary.ofUnpacked, eq_of_beq small]
    rfl
  · simp only [Binary.ofUnpacked, lead]
    rfl

/-- The mantissa and the exponent of a double are in their final form. -/
theorem Binary.canonical_ofFloat {x : Float} {negative : Bool} {m : Nat} {e : Int}
    (parts : Binary.ofFloat x = .finite negative m e) : Canonical m e ∧ e < 972 := by
  have exponent : x.toBits.toNat / Nat.pow 2 52 % 2048 < 2048 := Nat.mod_lt _ (by decide)
  have fraction : x.toBits.toNat % Nat.pow 2 52 < 2 ^ 52 := Nat.mod_lt _ (by decide)
  have power : Nat.pow 2 52 = 2 ^ 52 := rfl
  simp only [Binary.ofFloat, beq_iff_eq] at parts
  generalize x.toBits.toNat / Nat.pow 2 52 % 2048 = e' at *
  generalize x.toBits.toNat % Nat.pow 2 52 = m' at *
  split_ifs at parts
  · obtain ⟨-, rfl, rfl⟩ := Binary.finite.inj parts
    exact ⟨⟨by omega, by omega, .inl rfl⟩, by omega⟩
  · obtain ⟨-, rfl, rfl⟩ := Binary.finite.inj parts
    exact ⟨⟨by omega, by omega, .inr (by omega)⟩, by omega⟩

/-- A mantissa with its two further bits stands for the fraction `n / d`: the bits tell on which side
of a half the rest is. -/
structure Represents (x : ExtendedMantissa) (n d : Nat) : Prop where
  whole : x.mantissa = n / d
  half : x.roundBit = true ↔ d ≤ 2 * (n % d)
  beyond : x.stickyBit = true ↔ n % d ≠ 0 ∧ 2 * (n % d) ≠ d

theorem represents_ofMantissaAndAccuracy {n d : Nat} (positive : 0 < d) :
    Represents (.ofMantissaAndAccuracy (n / d) (accuracyOfFraction (n % d) d)) n d := by
  unfold accuracyOfFraction
  split_ifs with zero
  · exact ⟨rfl, by simp [ExtendedMantissa.ofMantissaAndAccuracy, zero, positive.ne'],
      by simp [ExtendedMantissa.ofMantissaAndAccuracy, zero]⟩
  · rcases order : compare (2 * (n % d)) d with _ | _ | _
    · have less := Nat.compare_eq_lt.mp order
      refine ⟨rfl, ?_, ?_⟩ <;> simp only [ExtendedMantissa.ofMantissaAndAccuracy] <;> simp <;> omega
    · have equal := Nat.compare_eq_eq.mp order
      refine ⟨rfl, ?_, ?_⟩ <;> simp only [ExtendedMantissa.ofMantissaAndAccuracy] <;> simp <;> omega
    · have more := Nat.compare_eq_gt.mp order
      refine ⟨rfl, ?_, ?_⟩ <;> simp only [ExtendedMantissa.ofMantissaAndAccuracy] <;> simp <;> omega

/-- Dropping a bit halves the fraction. -/
theorem Represents.shiftRightOne {x : ExtendedMantissa} {n d : Nat} (positive : 0 < d)
    (represents : Represents x n d) : Represents x.shiftRightOne n (d * 2) := by
  obtain ⟨whole, half, beyond⟩ := represents
  have less := Nat.mod_lt n positive
  have rest : n % (d * 2) = n % d + d * (n / d % 2) := Nat.mod_mul
  have bit : n / d % 2 = 0 ∨ n / d % 2 = 1 := by omega
  refine ⟨?_, ?_, ?_⟩
  · rw [ExtendedMantissa.shiftRightOne, whole, Nat.div_div_eq_div_mul]
  · simp only [ExtendedMantissa.shiftRightOne, whole, rest]
    rcases bit with even | odd
    · simp [even]
      omega
    · simp [odd]
      omega
  · have dropped : x.shiftRightOne.stickyBit = true ↔ n % d ≠ 0 := by
      simp only [ExtendedMantissa.shiftRightOne, Bool.or_eq_true, half, beyond]
      omega
    rw [dropped, rest]
    rcases bit with even | odd
    · rw [even]
      omega
    · rw [odd]
      omega

theorem Represents.shiftRight {x : ExtendedMantissa} {n d : Nat} (positive : 0 < d)
    (represents : Represents x n d) (count : Nat) : Represents (x >>> count) n (d * 2 ^ count) := by
  induction count with
  | zero =>
    rw [Nat.pow_zero, Nat.mul_one]
    exact represents
  | succ count ih =>
    rw [Nat.pow_succ, ← Nat.mul_assoc]
    exact ih.shiftRightOne (Nat.mul_pos positive (Nat.two_pow_pos count))

theorem Represents.roundedMantissa_eq {x : ExtendedMantissa} {n d : Nat}
    (represents : Represents x n d) (positive : 0 < d) : x.roundedMantissa = roundDiv n d := by
  obtain ⟨whole, half, beyond⟩ := represents
  obtain ⟨mantissa, roundBit, stickyBit⟩ := x
  simp only at whole half beyond
  subst whole
  unfold roundDiv
  cases roundBit <;> cases stickyBit <;> simp at half beyond <;>
    simp only [ExtendedMantissa.roundedMantissa, ExtendedMantissa.accuracy,
      Accuracy.roundToNearestEven] <;> split_ifs <;> first | rfl | omega

/-- The number of units of two to the minus 1074th that a mantissa and an exponent stand for. -/
def unitsOf (m : Nat) (e : Int) : Nat :=
  m * 2 ^ (e + 1074).toNat

/-- The double with a mantissa and an exponent; zero keeps the sign. -/
def assembled (s : Sign) (m : Nat) (e : Int) : UnpackedFloat :=
  if zero : m = 0 then .zero s else .finite s m e (Nat.pos_of_ne_zero zero)

/-- Rounding is a shift, which may leave a mantissa one bit too long, and a second shift. -/
theorem roundWithAccuracy_eq_assembled (s : Sign) (m : Nat) (e : Int) (accuracy : Accuracy) :
    roundWithAccuracy Format.binary64 s m e accuracy =
      let first := shiftToTargetExponent Format.binary64 m e accuracy
      let last := shiftToTargetExponent Format.binary64 first.1.roundedMantissa first.2 .exact
      assembled s last.1.mantissa last.2 :=
  rfl

/-- The exponent to which a fraction is brought that has all the bits it can have. -/
theorem targetExponent_eq {n d : Nat} {e : Int} (least : -1074 ≤ e)
    (full : e = -1074 ∨ 2 ^ 52 ≤ n / d) :
    Format.binary64.targetExponent (totalExponent (n / d) e) = e + (spare n d : Nat) := by
  have size : 2 ^ 52 ≤ n / d → 52 ≤ (n / d).log2 := fun large =>
    (Nat.le_log2 (by omega)).mpr large
  show max (((n / d).log2 : Int) + 1 + e - (53 : Nat)) (3 - 2 ^ 10 - (53 : Nat)) = _
  unfold spare
  omega

/-- Shifting such a fraction drops its spare bits. -/
theorem shiftToTargetExponent_eq {n d : Nat} (positive : 0 < d) {e : Int} (least : -1074 ≤ e)
    (full : e = -1074 ∨ 2 ^ 52 ≤ n / d) :
    ∃ x, Represents x n (d * 2 ^ spare n d) ∧
      shiftToTargetExponent Format.binary64 (n / d) e (accuracyOfFraction (n % d) d) =
        (x, e + (spare n d : Nat)) := by
  have shift : (e + (spare n d : Nat) - e).toNat = spare n d := by omega
  simp only [shiftToTargetExponent, shiftToExponent, targetExponent_eq least full, shift]
  exact ⟨_, (represents_ofMantissaAndAccuracy positive).shiftRight positive _, rfl⟩

/-- A rounded mantissa may have one bit too many. The second shift drops that bit, which is zero, and
leaves the mantissa and the exponent in their final form. -/
theorem shift_rounded {r : Nat} {e : Int} (small : r ≤ 2 ^ 53) (least : -1074 ≤ e)
    (full : e = -1074 ∨ 2 ^ 52 ≤ r) :
    let last := shiftToTargetExponent Format.binary64 r e .exact
    Canonical last.1.mantissa last.2 ∧ unitsOf last.1.mantissa last.2 = unitsOf r e := by
  have shift := @shiftToTargetExponent_eq r 1 Nat.one_pos e least (by rwa [Nat.div_one])
  rw [Nat.div_one, Nat.mod_one, Nat.one_mul] at shift
  obtain ⟨last, final, shifted⟩ := shift
  rw [show Accuracy.exact = accuracyOfFraction 0 1 from rfl, shifted]
  dsimp only
  rw [final.whole, unitsOf, unitsOf]
  rcases Nat.lt_or_eq_of_le small with short | rfl
  · have bits : spare r 1 = 0 := spare_eq (by rwa [Nat.div_one]) (.inl rfl)
    rw [bits, Nat.pow_zero, Nat.div_one, Int.natCast_zero, Int.add_zero]
    exact ⟨⟨short, least, full⟩, rfl⟩
  · have bits : spare (2 ^ 53) 1 = 1 := spare_eq (by decide) (.inr (by decide))
    have exponent : (e + 1 + 1074).toNat = (e + 1074).toNat + 1 := by omega
    rw [bits, show ((1 : Nat) : Int) = 1 from rfl, exponent, Nat.pow_succ]
    refine ⟨⟨by decide, by omega, .inr (by decide)⟩, ?_⟩
    omega

/-- The rounded fraction is a mantissa and an exponent in their final form. -/
theorem roundWithAccuracy_eq (s : Sign) {n d : Nat} (positive : 0 < d) {e : Int}
    (least : -1074 ≤ e) (full : e = -1074 ∨ 2 ^ 52 ≤ n / d) :
    ∃ m e', Canonical m e' ∧ unitsOf m e' = nearest (n * 2 ^ (e + 1074).toNat) d ∧
      roundWithAccuracy Format.binary64 s (n / d) e (accuracyOfFraction (n % d) d) =
        assembled s m e' := by
  obtain ⟨first, represents, shifted⟩ := shiftToTargetExponent_eq positive least full
  have rounded :=
    represents.roundedMantissa_eq (Nat.mul_pos positive (Nat.two_pow_pos (spare n d)))
  have large : e + (spare n d : Nat) = -1074 ∨ 2 ^ 52 ≤ roundDiv n (d * 2 ^ spare n d) := by
    rcases spare_le n d with none | some
    · rcases full with bottom | full
      · left
        omega
      · exact .inr (two_pow_le_roundDiv positive (by rw [none]; exact full))
    · exact .inr (two_pow_le_roundDiv positive some)
  obtain ⟨canonical, units⟩ :=
    shift_rounded (roundDiv_le_two_pow positive (lt_spare n d)) (by omega) large
  refine ⟨_, _, canonical, ?_, ?_⟩
  · have exponent : (e + (spare n d : Nat) + 1074).toNat = spare n d + (e + 1074).toNat := by omega
    rw [units, nearest_mul_two_pow positive (full.imp_left (by omega)), nearest, unitsOf, exponent,
      Nat.pow_add, Nat.mul_assoc]
  · simp only [roundWithAccuracy_eq_assembled, shifted, rounded]

/-- The bits of a double, from the highest one that can be set down to the unit. -/
def width : Nat :=
  2098

/-- The least number of units, that of two to the 1024th, which no double has. -/
def limit : Nat :=
  2 ^ width

/-- Where a number of units stands among the doubles. -/
def standing (units : Nat) : Number.Position :=
  if units < limit then .finite units else .top

theorem limit_eq {k : Nat} (few : k ≤ width) : limit = 2 ^ k * 2 ^ (width - k) := by
  rw [limit, ← Nat.pow_add, Nat.add_sub_cancel' few]

theorem limit_pos : 0 < limit :=
  Nat.two_pow_pos width

/-- An exponent in range keeps a mantissa below the limit. -/
theorem unitsOf_lt_limit {m : Nat} {e : Int} (short : m < 2 ^ 53) (top : e < 972) :
    unitsOf m e < limit := by
  have bound : 2 ^ (e + 1074).toNat ≤ 2 ^ (width - 53) :=
    Nat.pow_le_pow_right Nat.two_pos (by unfold width; omega)
  rw [limit_eq (show 53 ≤ width by decide)]
  exact Nat.mul_lt_mul_of_lt_of_le short bound (Nat.two_pow_pos _)

theorem standing_zero : standing 0 = .finite 0 :=
  if_pos limit_pos

theorem position_of_finite {x : Float} {m : Nat} {e : Int}
    (parts : Binary.ofFloat x = .finite false m e) :
    (Number.float x).position? = some (.finite (unitsOf m e)) := by
  simp only [Number.position?, parts]
  rfl

theorem position_of_infinite {x : Float} (parts : Binary.ofFloat x = .infinite false) :
    (Number.float x).position? = some .top := by
  simp only [Number.position?, parts]
  rfl

theorem position_packed_zero (s : Sign) :
    (Number.float (packed (.zero s))).position? = some (.finite 0) := by
  simp only [Number.position?, Binary.ofFloat_packed_zero]
  cases s <;> rfl

/-- A double in its final form stands where its units do. -/
theorem position_assembled {m : Nat} {e : Int} (canonical : Canonical m e) :
    (Number.float (packed (assembled .positive m e))).position? =
      some (standing (unitsOf m e)) := by
  unfold assembled
  split_ifs with zero
  · rw [position_packed_zero, zero, unitsOf, Nat.zero_mul, standing_zero]
  · have parts := Binary.ofFloat_packed_finite .positive m e (Nat.pos_of_ne_zero zero) canonical
    obtain ⟨short, least, full⟩ := canonical
    split_ifs at parts with top
    · rw [position_of_finite parts, standing, if_pos (unitsOf_lt_limit short top)]
    · have large : limit ≤ unitsOf m e := by
        have bound : 2 ^ (width - 52) ≤ 2 ^ (e + 1074).toNat :=
          Nat.pow_le_pow_right Nat.two_pos (by unfold width; omega)
        rw [limit_eq (show 52 ≤ width by decide)]
        exact Nat.mul_le_mul (full.resolve_left (by omega)) bound
      rw [position_of_infinite parts, standing, if_neg (Nat.not_lt.mpr large)]

/-- The bits of a double below one. -/
def depth : Nat :=
  1074

/-- The number of units that make one. -/
def scale : Nat :=
  Nat.pow 2 1074

theorem scale_eq : scale = 2 ^ depth := by
  have bits : 1074 = depth := rfl
  unfold scale
  rw [bits]
  rfl

theorem scale_pos : 0 < scale := by
  rw [scale_eq]
  exact Nat.two_pow_pos depth

theorem position_int (n : Int) : (Number.int n).position? = some (.finite (n * (scale : Nat))) := by
  unfold scale
  rw [Number.position?]

/-- A number with `k` bits more than another is at least `2 ^ k` times as large. -/
theorem two_pow_mul_le_of_log2 {n d k : Nat} (top : 0 < n) (longer : d.log2 + 1 + k ≤ n.log2) :
    2 ^ k * d ≤ n :=
  calc 2 ^ k * d ≤ 2 ^ k * 2 ^ (d.log2 + 1) := Nat.mul_le_mul_left _ Nat.lt_log2_self.le
    _ = 2 ^ (k + (d.log2 + 1)) := (Nat.pow_add 2 _ _).symm
    _ ≤ 2 ^ n.log2 := Nat.pow_le_pow_right Nat.two_pos (by omega)
    _ ≤ n := Nat.log2_self_le top.ne'

/-- A quotient is divided with enough bits to be rounded once. -/
theorem divCore_eq {n d : Nat} (top : 0 < n) (bottom : 0 < d) :
    ∃ shift : Nat, shift ≤ depth ∧ (shift = depth ∨ 2 ^ 52 ≤ n * 2 ^ shift / d) ∧
      divCore Format.binary64 n 0 d 0 =
        (n * 2 ^ shift / d, -(shift : Int), accuracyOfFraction (n * 2 ^ shift % d) d) := by
  have target : Format.binary64.targetExponent (totalExponent n 0 - totalExponent d 0) =
      max ((n.log2 : Int) - d.log2 - 53) (-1074) := by
    show max (((n.log2 : Int) + 1 + 0) - (d.log2 + 1 + 0) - (53 : Nat)) (3 - 2 ^ 10 - (53 : Nat)) = _
    omega
  obtain ⟨shift, exponent⟩ : ∃ shift : Nat,
      min (0 : Int) (max ((n.log2 : Int) - d.log2 - 53) (-1074)) = -(shift : Int) :=
    ⟨(-min (0 : Int) (max ((n.log2 : Int) - d.log2 - 53) (-1074))).toNat, by omega⟩
  refine ⟨shift, by unfold depth; omega, ?_, ?_⟩
  · rw [or_iff_not_imp_left]
    intro some
    have longer : d.log2 + 1 + 52 ≤ (n * 2 ^ shift).log2 := by
      unfold depth at some
      rw [log2_mul_two_pow top]
      omega
    exact (Nat.le_div_iff_mul_le bottom).mpr
      (two_pow_mul_le_of_log2 (Nat.mul_pos top (Nat.two_pow_pos shift)) longer)
  · have count : ((0 : Int) - 0 - -(shift : Int)).toNat = shift := by omega
    simp only [divCore, target]
    rw [Int.sub_self, exponent]
    simp only [Int.zero_sub, Int.neg_neg, Int.toNat_natCast, Nat.shiftLeft_eq]

theorem short_two_pow (k : Nat) : Short (2 ^ k) :=
  ⟨1, k, by decide, (Nat.one_mul _).symm⟩

/-- A quotient far above the doubles is infinite. -/
theorem limit_le_nearest {n d : Nat} (top : 0 < n) (bottom : 0 < d)
    (long : d.log2 + 1100 < n.log2) : limit ≤ nearest (n * scale) d := by
  have size : 2 ^ (width - depth) * d ≤ n :=
    two_pow_mul_le_of_log2 top (by unfold width depth; omega)
  have bits : width = width - depth + depth := by decide
  have above : limit * d ≤ n * scale := by
    calc limit * d = 2 ^ (width - depth) * d * scale := by
          rw [limit, scale_eq, bits, Nat.pow_add, Nat.mul_right_comm, ← bits]
      _ ≤ n * scale := Nat.mul_le_mul_right scale size
  calc limit = nearest (limit * d) d := (nearest_of_short (short_two_pow width) bottom).symm
    _ ≤ nearest (n * scale) d := nearest_mono bottom bottom (Nat.mul_le_mul_right d above)

/-- A quotient far below the doubles is zero. -/
theorem nearest_eq_zero {n d : Nat} (bottom : 0 < d)
    (short : n.log2 + 1200 < d.log2) : nearest (n * scale) d = 0 := by
  have size : 2 ^ (depth + 1) * n ≤ d :=
    two_pow_mul_le_of_log2 bottom (by unfold depth; omega)
  have half : n * scale * 2 ≤ 1 * d := by
    calc n * scale * 2 = 2 ^ (depth + 1) * n := by
          rw [scale_eq, Nat.pow_succ]
          ring
      _ ≤ 1 * d := by rwa [Nat.one_mul]
  exact Nat.le_zero.mp (nearest_mono bottom Nat.two_pos half)

/-- A quotient that is rounded to a double stands where the nearest double does. -/
theorem position_roundToFloat {n d : Nat} (bottom : 0 < d) :
    (Number.float (roundToFloat false n d)).position? = some (standing (nearest (n * scale) d)) := by
  show (Number.float (packed (roundToFloat.ratio n d))).position? = _
  unfold roundToFloat.ratio
  split_ifs with zero absent long short
  · rw [position_packed_zero, zero, Nat.zero_mul, nearest_zero, standing_zero]
  · exact absurd absent bottom.ne'
  · rw [position_of_infinite (Binary.ofFloat_packed_infinity .positive), standing,
      if_neg (Nat.not_lt.mpr (limit_le_nearest (Nat.pos_of_ne_zero zero) bottom long))]
  · rw [position_packed_zero, nearest_eq_zero bottom short, standing_zero]
  · obtain ⟨shift, few, full, quotient⟩ := divCore_eq (Nat.pos_of_ne_zero zero) bottom
    have least : -1074 ≤ -(shift : Int) := by
      unfold depth at few
      omega
    have bits : -(shift : Int) = -1074 ∨ 2 ^ 52 ≤ n * 2 ^ shift / d :=
      full.imp_left (by unfold depth; omega)
    obtain ⟨m, e, canonical, units, rounded⟩ :=
      roundWithAccuracy_eq (.positive / .positive) bottom least bits
    have value : nearest (n * scale) d = unitsOf m e := by
      have exponent : depth = shift + (-(shift : Int) + 1074).toNat := by
        unfold depth at few ⊢
        omega
      rw [units, scale_eq, exponent, Nat.pow_add, Nat.mul_assoc]
    have parts : UnpackedFloat.div Format.binary64 (.finite .positive n 0 (Nat.pos_of_ne_zero zero))
        (.finite .positive d 0 (Nat.pos_of_ne_zero absent)) = assembled .positive m e := by
      simp only [UnpackedFloat.div, quotient, rounded]
      rfl
    rw [parts, position_assembled canonical, value]

end Orchestra.Decimal
