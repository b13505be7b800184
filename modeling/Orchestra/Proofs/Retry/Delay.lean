import Orchestra.Proofs.Value.Amount
import Orchestra.Retry

/-!
The delays of the strategies without jitter: between zero and the greatest delay, unless the delay
before the cap is beyond the range of doubles.
-/

namespace Orchestra.Retry.Strategy

open Decimal Number

/-- The strategy has no jitter and counts with amounts. -/
structure IsPlain (strategy : Strategy) : Prop where
  steady : strategy.jitter.truthy = false
  base : strategy.baseDelay.IsAmount
  greatest : strategy.maxDelay.IsAmount
  multiplier : strategy.multiplier.IsAmount

/-- How many attempts there were before the given one. -/
def earlier (attempt : Int) : Nat :=
  (attempt - 1).toNat

/-- The delay before the cap cannot be computed. It needs the double of a whole number that has none,
or a power of a double that is beyond the doubles. -/
def Overflows (strategy : Strategy) (attempt : Int) : Prop :=
  match strategy.policy, strategy.baseDelay.number?, strategy.multiplier.number? with
  | .linear, some (.float _), _ => countLimit ≤ earlier attempt + 1
  | .exponential, some (.float _), some (.int multiplier) =>
    countLimit ≤ multiplier ^ earlier attempt
  | .exponential, some (.int base), some (.float multiplier) =>
    PowerOverflows multiplier (earlier attempt) ∨ countLimit ≤ base
  | .exponential, some (.float _), some (.float multiplier) =>
    PowerOverflows multiplier (earlier attempt)
  | _, _, _ => False

section Growth

variable {strategy : Strategy} {a b : Number} {u v : Nat}

/-- A delay that does not grow is the base delay itself. -/
theorem growth_constant (policy : strategy.policy = .fixed ∨ strategy.policy = .none)
    (base : strategy.baseDelay.number? = some a) (amount : a.Measures u) (attempt : Int) :
    Yields .range (strategy.Overflows attempt) (strategy.growth (.int (earlier attempt + 1)))
      Value.IsUnsigned := by
  have never : False ↔ strategy.Overflows attempt := by
    unfold Overflows
    rcases policy with policy | policy <;> rw [policy]
  have same : strategy.growth (.int (earlier attempt + 1)) = .ok strategy.baseDelay := by
    rcases policy with policy | policy <;> simp only [growth, policy]
  rw [same]
  exact (Yields.ok ⟨a, base, .inr ⟨u, amount⟩⟩).congr never

/-- The linear delay is a product with the number of the attempt. -/
theorem growth_linear (policy : strategy.policy = .linear)
    (base : strategy.baseDelay.number? = some a) (amount : a.Measures u) (attempt : Int) :
    Yields .range (strategy.Overflows attempt) (strategy.growth (.int (earlier attempt + 1)))
      Value.IsUnsigned := by
  have product : strategy.growth (.int (earlier attempt + 1)) =
      strategy.baseDelay.times (.int (earlier attempt + 1)) := by simp only [growth, policy]
  have overflows : a.MulOverflows (.int (earlier attempt + 1)) ↔ strategy.Overflows attempt := by
    unfold Overflows
    rw [policy, base]
    cases a
    · exact Iff.rfl
    · show False ∨ (countLimit : Int) ≤ ((earlier attempt + 1 : Nat) : Int) ↔ _
      rw [false_or, Int.ofNat_le]
  rw [product]
  exact (Value.times_yields base rfl amount (measures_int (earlier attempt + 1))).congr overflows

/-- The exponential delay is a product with a power, which is taken first. -/
theorem growth_exponential_eq (policy : strategy.policy = .exponential)
    (multiplier : strategy.multiplier.number? = some b) (n : Nat) :
    strategy.growth (.int (n + 1)) =
      (((b.pow (.int n)).mapError .range).map Value.ofNumber).bind strategy.baseDelay.times := by
  have exponent : (Value.int (n + 1)).minus (.int 1) = .ok (.int n) := by
    show Except.ok (Value.int ((n : Int) + 1 - 1)) = _
    rw [Int.add_sub_cancel]
  have real : strategy.multiplier.hasComplexPower (.int n) = false := by
    unfold Value.hasComplexPower
    rw [multiplier]
    show Number.hasComplexPower b (.int n) = false
    unfold Number.hasComplexPower
    cases b.toFloat <;> rfl
  have power : strategy.multiplier.power (.int n) =
      ((b.pow (.int n)).mapError .range).map Value.ofNumber :=
    Value.onNumbers_eq multiplier rfl _ _
  simp only [growth, policy, exponent]
  show (do
    if strategy.multiplier.hasComplexPower (.int n) then throw strategy.complexFault
    strategy.baseDelay.times (← strategy.multiplier.power (.int n))) = _
  rw [real, power]
  rfl

theorem growth_exponential (policy : strategy.policy = .exponential)
    (base : strategy.baseDelay.number? = some a) (amount : a.Measures u)
    (multiplier : strategy.multiplier.number? = some b) (amount' : b.Measures v) (attempt : Int) :
    Yields .range (strategy.Overflows attempt) (strategy.growth (.int (earlier attempt + 1)))
      Value.IsUnsigned := by
  rw [growth_exponential_eq policy multiplier]
  rcases b with m | x
  · obtain ⟨m, rfl, -⟩ := exists_of_measures_int amount'
    have overflows : a.MulOverflows (.int (m ^ earlier attempt : Nat)) ↔
        strategy.Overflows attempt := by
      unfold Overflows
      rw [policy, base, multiplier]
      cases a
      · exact Iff.rfl
      · show False ∨ (countLimit : Int) ≤ ((m ^ earlier attempt : Nat) : Int) ↔ _
        rw [Int.natCast_pow, false_or]
    rw [pow_int]
    exact (Value.times_yields base rfl amount (measures_int _)).congr overflows
  · have power : Yields OperandFault.range (PowerOverflows x (earlier attempt))
        ((((Number.float x).pow (.int (earlier attempt))).mapError .range).map Value.ofNumber)
        fun value => ∃ y units, value = .float y ∧ (Number.float y).Measures units := by
      refine ((pow_float_yields amount' _).mapError _).map _ ?_
      rintro _ ⟨y, units, rfl, measures⟩
      exact ⟨y, units, rfl, measures⟩
    have double (y : Float) : a.MulOverflows (.float y) ↔ a.HasNoDouble := by
      cases a <;> exact (or_false _).to_iff
    have overflows : PowerOverflows x (earlier attempt) ∨ a.HasNoDouble ↔
        strategy.Overflows attempt := by
      unfold Overflows
      rw [policy, base, multiplier]
      cases a
      · exact Iff.rfl
      · exact (or_false _).to_iff
    refine (power.bind ?_).congr overflows
    rintro _ ⟨y, units, rfl, measures⟩ -
    exact (Value.times_yields base rfl amount measures).congr (double y)

end Growth

/-- The delay before the cap is not below zero, if it can be computed. -/
theorem growth_yields {strategy : Strategy} (plain : strategy.IsPlain) (attempt : Int) :
    Yields .range (strategy.Overflows attempt) (strategy.growth (.int (earlier attempt + 1)))
      Value.IsUnsigned := by
  obtain ⟨-, ⟨a, u, base, amount⟩, -, ⟨b, v, multiplier, amount'⟩⟩ := plain
  rcases policy : strategy.policy with _ | _ | _ | _
  · exact growth_constant (.inl policy) base amount attempt
  · exact growth_exponential policy base amount multiplier amount' attempt
  · exact growth_linear policy base amount attempt
  · exact growth_constant (.inr policy) base amount attempt

/-- Without jitter the delay is that before the cap, cut to the greatest one and rounded. -/
theorem delay_eq_bind (draw : Number) (attempt : Int) {strategy : Strategy}
    (policy : strategy.policy ≠ .none) (steady : strategy.jitter.truthy = false) :
    strategy.delay draw (.int attempt) =
      (strategy.growth (.int (earlier attempt + 1))).bind fun growth =>
        (growth.least strategy.maxDelay).bind (Value.rounded 3) := by
  have first : (Value.int attempt).greatest (.int 1) = .ok (.int (earlier attempt + 1)) := by
    rw [Value.greatest_int]
    congr 2
    unfold earlier
    omega
  have some : (strategy.policy == .none) = false := beq_eq_false_iff_ne.mpr policy
  unfold delay
  rw [some, first]
  simp only [steady]
  rfl

/-- The value is a number between zero and the given value after rounding. -/
def Capped (most value : Value) : Prop :=
  ∃ delay greatest units unitsOfGreatest, value = .ofNumber delay ∧
    most.rounded 3 = .ok (.ofNumber greatest) ∧
    delay.Measures units ∧ greatest.Measures unitsOfGreatest ∧ units ≤ unitsOfGreatest

theorem measures_zero : (Number.float 0.0).Measures 0 := by
  rfl

/-- Cutting and rounding keep the order of a delay and the greatest one. -/
theorem capped_rounded {growth most : Value} (unsigned : growth.IsUnsigned)
    (amount : most.IsAmount) :
    ∃ value, (growth.least most).bind (Value.rounded 3) = .ok value ∧ Capped most value := by
  obtain ⟨greatest, bound, read, measures⟩ := amount
  obtain ⟨capped, final, units, chosen, read', measures', below⟩ :=
    Value.least_eq unsigned read measures
  obtain ⟨u, v, first, second, order⟩ := roundTo_mono 3 measures' measures below
  rw [chosen]
  exact ⟨_, Value.rounded_eq read' 3, _, _, u, v, rfl, Value.rounded_eq read 3, first, second, order⟩

/-- Without jitter a delay lies between zero and the rounded greatest delay, unless the delay before
the cap overflows: then there is no delay at all, since the cap comes too late. -/
theorem delay_capped_unless_overflows (strategy : Strategy) (plain : strategy.IsPlain)
    (draw : Number) (attempt : Int) :
    (¬ strategy.Overflows attempt →
      ∃ value, strategy.delay draw (.int attempt) = .ok value ∧ Capped strategy.maxDelay value) ∧
    (strategy.Overflows attempt →
      ∃ error, strategy.delay draw (.int attempt) = .error (.range error)) := by
  by_cases none : strategy.policy = .none
  · obtain ⟨greatest, bound, read, measures⟩ := plain.greatest
    obtain ⟨-, v, -, second, -⟩ := roundTo_mono 3 measures measures le_rfl
    have zero : strategy.delay draw (.int attempt) = .ok (.float 0.0) := by
      simp only [delay, none, beq_self_eq_true, if_true]
    have never : ¬ strategy.Overflows attempt := by
      unfold Overflows
      rw [none]
      exact id
    exact ⟨fun _ => ⟨_, zero, .float 0.0, _, 0, v, rfl, Value.rounded_eq read 3, measures_zero,
      second, Nat.zero_le v⟩, fun overflows => absurd overflows never⟩
  · have growth := growth_yields plain attempt
    rw [delay_eq_bind draw attempt none plain.steady]
    constructor
    · intro fits
      obtain ⟨value, computed, unsigned⟩ := growth.succeeds fits
      rw [computed]
      exact capped_rounded unsigned plain.greatest
    · intro overflows
      obtain ⟨error, failure⟩ := growth.fails overflows
      rw [failure]
      exact ⟨error, rfl⟩

/-- The strategy that is asked for by the name of the exponential one, without options: its amounts
are doubles. -/
def customary : Strategy :=
  exponential (.int 5) (.float 1.0) (.float 60.0) (.float 2.0) (.bool false)

example : described [("factory", .str "exponential")] = .ok customary :=
  rfl

theorem customary_isPlain : customary.IsPlain where
  steady := rfl
  base := ⟨.float 1.0, scale, rfl, by decide +kernel⟩
  greatest := ⟨.float 60.0, 60 * scale, rfl, by decide +kernel⟩
  multiplier := ⟨.float 2.0, 2 * scale, rfl, by decide +kernel⟩

/-- Two to the 1023rd is a double, two to the 1024th is none. -/
theorem customary_capped_up_to_1024 :
    (∃ value, customary.delay (.float 0.5) (.int 1024) = .ok value ∧
      Capped customary.maxDelay value) ∧
    ∃ error, customary.delay (.float 0.5) (.int 1025) = .error (.range error) := by
  have fits : ¬ customary.Overflows 1024 := by
    show ¬ (_ ∨ _)
    exact not_or.mpr ⟨by decide +kernel, by decide +kernel⟩
  have overflows : customary.Overflows 1025 := .inr (by decide +kernel)
  exact ⟨(delay_capped_unless_overflows customary customary_isPlain (.float 0.5) 1024).1 fits,
    (delay_capped_unless_overflows customary customary_isPlain (.float 0.5) 1025).2 overflows⟩

/-- The delay of the 1025th attempt is not the greatest one but an error. -/
theorem customary_delay_not_capped :
    customary.IsPlain ∧
      customary.delay (.float 0.5) (.int 1025) = .error (.range .powerTooLarge) := by
  have fault : (match customary.delay (.float 0.5) (.int 1025) with
      | .ok _ => none
      | .error fault => some fault) = some (OperandFault.range .powerTooLarge) := by
    decide +kernel
  refine ⟨customary_isPlain, ?_⟩
  rcases delay : customary.delay (.float 0.5) (.int 1025) with failure | value
  · rw [delay] at fault
    exact congrArg Except.error (Option.some.inj fault)
  · rw [delay] at fault
    cases fault

end Orchestra.Retry.Strategy
