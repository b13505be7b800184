import Orchestra.Proofs.Value.Order
import Orchestra.Routing

/-!
How deep a chain of runs goes.

A change that a run makes starts runs one step deeper, up to a limit. A depth that is no
floating-point number comes nearer to the limit with each step.
-/

namespace Orchestra

namespace Value

/-- A value that is no floating-point number. -/
def Exact (value : Value) : Prop :=
  ∀ x, value ≠ .float x

/-- What can be added to exactly is a whole number. -/
theorem Exact.plusWhole {value sum : Value} {n : Int} (exact : value.Exact)
    (added : value.plusWhole n = .ok sum) :
    ∃ whole, value.number? = some (.int whole) ∧ sum = .int (whole + n) := by
  cases value with
  | int whole =>
      cases added
      exact ⟨whole, rfl, rfl⟩
  | bool b =>
      cases added
      exact ⟨_, rfl, rfl⟩
  | float x => exact (exact x rfl).elim
  | _ => cases added

theorem exact_int (n : Int) : (Value.int n).Exact :=
  fun _ => Value.noConfusion

end Value

namespace Routing

/-- How many runs may follow a run of a depth in its chain. -/
def hops (maxDepth : Int) (depth : Value) : Nat :=
  match depth.number? with
  | some (.int n) => (maxDepth - n).toNat
  | _ => 0

theorem hops_whole {maxDepth n : Int} {depth : Value} (whole : depth.number? = some (.int n)) :
    hops maxDepth depth = (maxDepth - n).toNat := by
  unfold hops
  rw [whole]

/-- A depth that cannot be counted on from is a fault of the request. -/
theorem admittedDepth_error {maxDepth : Value} {cascade : Option CascadeInfo} {fault : OperandFault}
    (next : nextDepth cascade = .error fault) :
    admittedDepth maxDepth cascade = .error (.operand fault) := by
  unfold admittedDepth
  rw [next]
  rfl

/-- The next depth is admitted as long as it keeps to the limit. -/
theorem admittedDepth_eq {maxDepth depth : Int} {cascade : Option CascadeInfo}
    (next : nextDepth cascade = .ok (.int depth)) :
    admittedDepth (.int maxDepth) cascade =
      if maxDepth < depth then .error (.cascadeTooDeep (.int depth) (.int maxDepth))
      else .ok (.int depth) := by
  have compares : admittedDepth (.int maxDepth) cascade =
      (((Value.int depth).greater (.int maxDepth)).mapError Failure.operand >>= fun deep =>
        if deep then throw (.cascadeTooDeep (.int depth) (.int maxDepth))
        else pure (.int depth)) := by
    unfold admittedDepth
    rw [next]
    rfl
  rw [compares, Value.greater_int]
  by_cases deep : maxDepth < depth
  · rw [if_pos deep, decide_eq_true deep]
    rfl
  · rw [if_neg deep, decide_eq_false deep]
    rfl

/-- The runs that a change starts have a depth within the limit, and one step fewer before them. -/
theorem admittedDepth_ok {maxDepth : Int} {cascade : CascadeInfo} {deeper : Value}
    (exact : cascade.depth.Exact)
    (admitted : admittedDepth (.int maxDepth) (some cascade) = .ok deeper) :
    deeper.Exact ∧ hops maxDepth deeper < hops maxDepth cascade.depth := by
  cases added : nextDepth (some cascade) with
  | error fault =>
      rw [admittedDepth_error added] at admitted
      cases admitted
  | ok sum =>
      obtain ⟨depth, whole, rfl⟩ := exact.plusWhole added
      rw [admittedDepth_eq added] at admitted
      split at admitted
      · cases admitted
      · cases admitted
        refine ⟨Value.exact_int _, ?_⟩
        have deeper : hops maxDepth (.int (depth + 1)) = (maxDepth - (depth + 1)).toNat :=
          hops_whole rfl
        rw [hops_whole whole, deeper]
        omega

/-- The runs after a change from outside have an exact depth where the change has one. -/
theorem admittedDepth_exact {maxDepth : Int} {cascade : Option CascadeInfo} {depth : Value}
    (exact : ∀ info, cascade = some info → info.depth.Exact)
    (admitted : admittedDepth (.int maxDepth) cascade = .ok depth) : depth.Exact := by
  cases cascade with
  | some info => exact (admittedDepth_ok (exact info rfl) admitted).1
  | none =>
      have next : nextDepth none = .ok (.int 0) := rfl
      rw [admittedDepth_eq next] at admitted
      split at admitted
      · cases admitted
      · cases admitted
        exact Value.exact_int 0

end Routing

end Orchestra
