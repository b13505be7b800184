import Orchestra.Path
import Orchestra.Value.Order

/-!
Conditions: comparisons of looked-up values, joined by all and any.
-/

namespace Orchestra

/-- The six comparisons. -/
inductive Comparison where
  | eq
  | ne
  | gt
  | gte
  | lt
  | lte
deriving DecidableEq, Repr

/-- A comparison of the value looked up with the expected one. -/
def Comparison.holds (comparison : Comparison) (actual expected : Value) : Bool :=
  match comparison with
  | .eq => actual.opened.same expected
  | .ne => !actual.opened.same expected
  | .gt => actual.compare? expected == some .gt
  | .gte => (actual.compare? expected).any Ordering.isGE
  | .lt => actual.compare? expected == some .lt
  | .lte => (actual.compare? expected).any Ordering.isLE

inductive Condition where
  /-- Equality in its short form, a path with the value expected there. -/
  | field (path : String) (expected : Value)
  | compare (comparison : Comparison) (path : String) (expected : Value)
  | all (conditions : List Condition)
  | any (conditions : List Condition)

namespace Condition

mutual

/-- The truth of a condition in a scope; a missing value counts as null. -/
def evaluate (scope : Value) : Condition → Bool
  | .field path expected => Comparison.eq.holds (scope.lookupD path .null) expected
  | .compare comparison path expected =>
    comparison.holds (scope.lookupD path .null) expected
  | .all conditions => evaluateAll scope conditions
  | .any conditions => evaluateAny scope conditions

def evaluateAll (scope : Value) : List Condition → Bool
  | [] => true
  | condition :: rest => condition.evaluate scope && evaluateAll scope rest

def evaluateAny (scope : Value) : List Condition → Bool
  | [] => false
  | condition :: rest => condition.evaluate scope || evaluateAny scope rest

end

theorem evaluateAll_eq (scope : Value) (conditions : List Condition) :
    evaluateAll scope conditions = conditions.all fun condition => condition.evaluate scope := by
  induction conditions with
  | nil => rfl
  | cons condition rest tail => simp [evaluateAll, tail]

theorem evaluateAny_eq (scope : Value) (conditions : List Condition) :
    evaluateAny scope conditions = conditions.any fun condition => condition.evaluate scope := by
  induction conditions with
  | nil => rfl
  | cons condition rest tail => simp [evaluateAny, tail]

end Condition

end Orchestra
