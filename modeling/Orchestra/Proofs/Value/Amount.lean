import Orchestra.Proofs.Decimal.Doubles
import Orchestra.Proofs.Value.Order

/-!
Amounts: finite numbers that are not below zero. A product of amounts is not below zero and perhaps
infinite, unless a whole number that is multiplied with a double has no double; a power is an amount
again, unless it is beyond the doubles.
-/

namespace Orchestra

open Decimal

/-- A result that is an error where something overflows and fits otherwise. The errors are those of
the range of doubles, as `wrap` puts them. -/
structure Yields {ε α : Type} (wrap : RangeError → ε) (overflows : Prop) (result : Except ε α)
    (fits : α → Prop) : Prop where
  fails : overflows → ∃ error, result = .error (wrap error)
  succeeds : ¬ overflows → ∃ value, result = .ok value ∧ fits value

namespace Yields

variable {ε α β : Type} {wrap : RangeError → ε} {overflows others : Prop} {result : Except ε α}
  {fits : α → Prop} {ends : β → Prop}

theorem ok {value : α} (fit : fits value) : Yields wrap False (.ok value) fits :=
  ⟨False.elim, fun _ => ⟨value, rfl, fit⟩⟩

theorem congr (yields : Yields wrap overflows result fits) (same : overflows ↔ others) :
    Yields wrap others result fits :=
  ⟨fun other => yields.fails (same.mpr other), fun none => yields.succeeds (mt same.mp none)⟩

/-- What follows a result may overflow as well. -/
theorem bind (yields : Yields wrap overflows result fits) {next : α → Except ε β}
    (after : ∀ value, fits value → ¬ overflows → Yields wrap others (next value) ends) :
    Yields wrap (overflows ∨ others) (result.bind next) ends := by
  by_cases large : overflows
  · obtain ⟨error, failure⟩ := yields.fails large
    rw [failure]
    exact ⟨fun _ => ⟨error, rfl⟩, fun none => absurd (.inl large) none⟩
  · obtain ⟨value, success, fit⟩ := yields.succeeds large
    rw [success]
    exact (after value fit large).congr (or_iff_right large).symm

theorem map (yields : Yields wrap overflows result fits) (f : α → β)
    (after : ∀ value, fits value → ends (f value)) : Yields wrap overflows (result.map f) ends := by
  constructor
  · intro large
    obtain ⟨error, failure⟩ := yields.fails large
    rw [failure]
    exact ⟨error, rfl⟩
  · intro none
    obtain ⟨value, success, fit⟩ := yields.succeeds none
    rw [success]
    exact ⟨f value, rfl, after value fit⟩

theorem mapError {result : Except RangeError α} (yields : Yields id overflows result fits)
    (wrap : RangeError → ε) : Yields wrap overflows (result.mapError wrap) fits := by
  constructor
  · intro large
    obtain ⟨error, failure⟩ := yields.fails large
    rw [failure]
    exact ⟨error, rfl⟩
  · intro none
    obtain ⟨value, success, fit⟩ := yields.succeeds none
    rw [success]
    exact ⟨value, rfl, fit⟩

end Yields

namespace Number

/-- Not below zero, and perhaps infinite. -/
def IsUnsigned (number : Number) : Prop :=
  number.position? = some .top ∨ ∃ units, number.Measures units

theorem isUnsigned_int (n : Nat) : (Number.int n).IsUnsigned :=
  .inr ⟨_, measures_int n⟩

theorem isUnsigned_float {x : Float} (rising : IsRising x) : (Number.float x).IsUnsigned :=
  rising

/-- A whole number beyond the doubles. -/
def HasNoDouble : Number → Prop
  | .int n => countLimit ≤ n
  | .float _ => False

/-- The double of an amount, if it has one. -/
theorem toFloat_yields {x : Number} {units : Nat} (amount : x.Measures units) :
    Yields id x.HasNoDouble x.toFloat fun double => ∃ units, (Number.float double).Measures units := by
  rcases x with n | double
  · obtain ⟨n, rfl, -⟩ := exists_of_measures_int amount
    have read : (Number.int n).toFloat = if n < countLimit then .ok (roundToFloat false n 1)
        else .error .integerTooLarge := floatOfInt_natCast n
    rw [read]
    refine ⟨fun many => ⟨_, if_neg (Nat.not_lt.mpr (Int.ofNat_le.mp many))⟩, fun few => ?_⟩
    have less : n < countLimit := Nat.not_le.mp fun many => few (Int.ofNat_le.mpr many)
    obtain ⟨k, whole⟩ := position_double less
    exact ⟨_, if_pos less, _, whole⟩
  · exact .ok ⟨units, amount⟩

/-- A product is exact for two whole numbers, and takes the doubles of both numbers otherwise. -/
def MulOverflows : Number → Number → Prop
  | .int _, .int _ => False
  | x, y => x.HasNoDouble ∨ y.HasNoDouble

theorem mul_doubles_yields {x y : Number} {a b : Nat} (left : x.Measures a) (right : y.Measures b) :
    Yields id (x.HasNoDouble ∨ y.HasNoDouble)
      (x.toFloat.bind fun first => y.toFloat.map fun second => .float (first * second))
      IsUnsigned :=
  (toFloat_yields left).bind fun _ ⟨_, first⟩ _ =>
    (toFloat_yields right).map _ fun _ ⟨_, second⟩ => isUnsigned_float (isRising_mul first second)

theorem mul_yields {x y : Number} {a b : Nat} (left : x.Measures a) (right : y.Measures b) :
    Yields id (x.MulOverflows y) (x.mul y) IsUnsigned := by
  rcases x with m | x <;> rcases y with n | y
  · obtain ⟨m, rfl, -⟩ := exists_of_measures_int left
    obtain ⟨n, rfl, -⟩ := exists_of_measures_int right
    exact .ok (isUnsigned_int (m * n))
  · exact mul_doubles_yields left right
  · exact mul_doubles_yields left right
  · exact mul_doubles_yields left right

theorem powInt_natCast (m n : Nat) : powInt m n = (m : Int) ^ n := by
  unfold powInt
  split_ifs with unit zero minus even
  · rcases (Bool.or_eq_true _ _).mp unit with unit | none
    · rw [eq_of_beq unit, Int.one_pow]
    · rw [eq_of_beq none, Int.pow_zero]
  · have positive : n ≠ 0 := fun none => unit (by simp [none])
    rw [eq_of_beq zero, Int.zero_pow positive]
  · exact absurd (eq_of_beq minus) (by omega)
  · exact absurd (eq_of_beq minus) (by omega)
  · rfl

theorem pow_int (m n : Nat) : (Number.int m).pow (.int n) = .ok (.int (m ^ n : Nat)) := by
  show Except.ok (Number.int (powInt m (Int.toNat n))) = _
  rw [Int.toNat_natCast, powInt_natCast, Int.natCast_pow]

/-- The exponent has no double, or the power leaves the range of doubles. -/
def PowerOverflows (x : Float) (n : Nat) : Prop :=
  countLimit ≤ n ∨ (powFloat x (roundToFloat false n 1)).isFinite = false

/-- A power of a double that does not overflow is a finite double. -/
theorem pow_float_yields {x : Float} {units : Nat} (amount : (Number.float x).Measures units)
    (n : Nat) : Yields id (PowerOverflows x n) ((Number.float x).pow (.int n)) fun power =>
      ∃ y units, power = .float y ∧ power.Measures units := by
  have unfolded : (Number.float x).pow (.int n) = (floatOfInt n).bind (boundedPow x) := rfl
  rw [unfolded, floatOfInt_natCast]
  by_cases less : n < countLimit
  · obtain ⟨k, whole⟩ := position_double less
    have base : x.isFinite = true := (isFinite_iff x).mpr ⟨_, amount⟩
    have exponent : (roundToFloat false n 1).isFinite = true := (isFinite_iff _).mpr ⟨_, whole⟩
    have rising : IsRising (powFloat x (roundToFloat false n 1)) := by
      simp only [powFloat, natural?_of_position whole]
      exact isRising_powFloat amount k
    unfold PowerOverflows
    rw [if_pos less]
    generalize roundToFloat false n 1 = y at *
    have bounded : (Except.ok y).bind (boundedPow x) = if (powFloat x y).isFinite = false
        then .error .powerTooLarge else .ok (.float (powFloat x y)) := by
      show boundedPow x y = _
      simp only [boundedPow, base, exponent, Bool.true_and, Bool.not_eq_true']
    rw [bounded]
    refine ⟨fun overflows => ⟨_, if_pos (overflows.resolve_left (by omega))⟩, fun none => ?_⟩
    have finite : ¬ (powFloat x y).isFinite = false := fun infinite => none (.inr infinite)
    refine ⟨_, if_neg finite, powFloat x y, ?_⟩
    rcases rising with infinite | ⟨power, amount⟩
    · obtain ⟨scaled, position⟩ := (isFinite_iff _).mp (Bool.eq_true_of_not_eq_false finite)
      rw [infinite] at position
      cases position
    · exact ⟨power, rfl, amount⟩
  · rw [if_neg less]
    exact ⟨fun _ => ⟨_, rfl⟩, fun none => absurd (.inl (Nat.not_lt.mp less)) none⟩

end Number

namespace Value

@[simp] theorem number?_ofNumber (n : Number) : (Value.ofNumber n).number? = some n := by
  cases n <;> rfl

theorem isSequence_of_number {a : Value} {x : Number} (number : a.number? = some x) :
    a.isSequence = false := by
  cases a <;> first | rfl | cases number

theorem onNumbers_eq {a b : Value} {x y : Number} (left : a.number? = some x)
    (right : b.number? = some y) (operator : String)
    (operation : Number → Number → Except RangeError Number) :
    onNumbers operator operation a b = ((operation x y).mapError .range).map ofNumber := by
  simp only [onNumbers, left, right]

theorem times_eq {a b : Value} {x y : Number} (left : a.number? = some x)
    (right : b.number? = some y) : a.times b = ((x.mul y).mapError .range).map ofNumber := by
  simp only [times, isSequence_of_number left, isSequence_of_number right, Bool.false_eq_true,
    if_false, onNumbers_eq left right]

/-- A finite number that is not below zero. -/
def IsAmount (value : Value) : Prop :=
  ∃ number units, value.number? = some number ∧ number.Measures units

/-- A number that is not below zero. -/
def IsUnsigned (value : Value) : Prop :=
  ∃ number, value.number? = some number ∧ number.IsUnsigned

theorem times_yields {a b : Value} {x y : Number} {u v : Nat} (left : a.number? = some x)
    (right : b.number? = some y) (first : x.Measures u) (second : y.Measures v) :
    Yields .range (x.MulOverflows y) (a.times b) IsUnsigned := by
  rw [times_eq left right]
  exact ((Number.mul_yields first second).mapError OperandFault.range).map _ fun number unsigned =>
    ⟨number, number?_ofNumber number, unsigned⟩

theorem rounded_eq {a : Value} {x : Number} (number : a.number? = some x) (places : Nat) :
    a.rounded places = .ok (ofNumber (x.roundTo places)) := by
  simp only [rounded, number]

theorem ordering_eq {a b : Value} {x y : Number} (left : a.number? = some x)
    (right : b.number? = some y) (symbol : String) :
    ordering symbol a b = .ok (compareNumbers x y) := by
  rw [ordering.eq_def]
  cases a <;> cases b <;> simp_all [number?]

theorem less_eq {a b : Value} {x y : Number} (left : a.number? = some x)
    (right : b.number? = some y) : a.less b = .ok (x.below y) := by
  have order : (compareNumbers x y == some .lt) = x.below y := by
    unfold compareNumbers
    split_ifs with below above same <;> simp [*]
  simp only [less, ordering_eq left right]
  exact congrArg Except.ok order

/-- The lesser of a number that is not below zero and an amount is an amount, no more than the
second. -/
theorem least_eq {a b : Value} {y : Number} {most : Nat} (unsigned : a.IsUnsigned)
    (right : b.number? = some y) (amount : y.Measures most) :
    ∃ c z units, a.least b = .ok c ∧ c.number? = some z ∧ z.Measures units ∧ units ≤ most := by
  obtain ⟨x, left, unsigned⟩ := unsigned
  have choice : a.least b = .ok (if y.below x then b else a) := by
    simp only [least, less_eq right left]
    rfl
  rw [choice]
  rcases unsigned with infinite | ⟨units, finite⟩
  · have below : y.below x = true := by
      unfold Number.below
      rw [amount, infinite]
      rfl
    rw [below]
    exact ⟨b, y, most, rfl, right, amount, le_rfl⟩
  · have below : y.below x = decide (most < units) := by
      unfold Number.below
      rw [amount, finite]
      exact decide_eq_decide.mpr Int.ofNat_lt
    rw [below]
    by_cases less : most < units
    · exact ⟨b, y, most, by simp [less], right, amount, le_rfl⟩
    · exact ⟨a, x, units, by simp [less], left, finite, Nat.not_lt.mp less⟩

end Value

end Orchestra
