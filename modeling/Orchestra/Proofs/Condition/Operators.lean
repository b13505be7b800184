import Orchestra.Condition.Basic
import Orchestra.Proofs.Value.Order

/-!
How the six comparisons fit together on data without not-a-number.

Unequal is the opposite of equal, and at most one of less, equal and greater holds. At least and at
most add equality, where both values are of a kind that is ordered. Less is transitive and turns into
greater when the values change places. What cannot be ordered is neither less nor greater.
-/

namespace Orchestra

namespace Value

/-- Both values are numbers, both are strings, or both are lists. -/
inductive Kindred : Value → Value → Prop
  | numbers {a b : Value} {x y : Number} (left : a.number? = some x) (right : b.number? = some y) :
      Kindred a b
  | texts (s t : String) : Kindred (.str s) (.str t)
  | lists (xs ys : List Value) : Kindred (.list xs) (.list ys)

/-- Two values can be ordered: two numbers, two strings, and two lists of which one begins like the
other or whose first unequal items can be ordered. -/
inductive Comparable : Value → Value → Prop
  | numbers {a b : Value} {x y : Number} (left : a.number? = some x) (right : b.number? = some y) :
      Comparable a b
  | texts (s t : String) : Comparable (.str s) (.str t)
  | agreeing {xs ys : List Value} (agree : ∀ pair ∈ xs.zip ys, pair.1.same pair.2 = true) :
      Comparable (.list xs) (.list ys)
  | decided {front others xs ys : List Value} {x y : Value}
      (agree : List.Forall₂ (fun a b => a.same b = true) front others) (apart : ¬ x.same y = true)
      (first : Comparable x y) : Comparable (.list (front ++ x :: xs)) (.list (others ++ y :: ys))

variable {a b : Value}

theorem rank?_of_number {x : Number} (data : a.IsOrdinary) (number : a.number? = some x) :
    ∃ level, a.rank? = some (.number level) := by
  have position : ∃ p, x.position? = some p := by
    cases data with
    | bool | int =>
        cases number
        exact ⟨_, rfl⟩
    | float fits =>
        cases number
        exact Number.exists_position fits
    | null | str | list | obj => cases number
  obtain ⟨p, position⟩ := position
  exact ⟨p.level, (rank?_eq_number_iff _ _).mpr ⟨x, p, number, position, rfl⟩⟩

/-- Data that have a rank in common are both numbers or both strings. -/
theorem kindred_of_ranks {r s : Rank} {order : Ordering} (left : a.IsOrdinary) (right : b.IsOrdinary)
    (first : a.rank? = some r) (second : b.rank? = some s) (found : r.compare? s = some order) :
    (∃ x y, a.number? = some x ∧ b.number? = some y) ∨ ∃ s t, a = .str s ∧ b = .str t := by
  have text : ∀ {value : Value} {codes}, value.IsOrdinary → value.rank? = some (.text codes) →
      ∃ s, value = .str s := by
    intro value codes data ranked
    obtain ⟨s, said, -⟩ := (rank?_eq_text_iff _ _).mp ranked
    cases data <;> cases said
    exact ⟨_, rfl⟩
  cases r with
  | number level =>
      cases s with
      | number other =>
          obtain ⟨x, _, number, -⟩ := (rank?_eq_number_iff _ _).mp first
          obtain ⟨y, _, another, -⟩ := (rank?_eq_number_iff _ _).mp second
          exact .inl ⟨x, y, number, another⟩
      | text => cases found
  | text codes =>
      cases s with
      | number => cases found
      | text others =>
          obtain ⟨s, rfl⟩ := text left first
          obtain ⟨t, rfl⟩ := text right second
          exact .inr ⟨s, t, rfl, rfl⟩

/-- Equal beginnings do not matter to the order of lists. -/
theorem compareLists_append {front others : List Value}
    (agree : List.Forall₂ (fun a b => a.same b = true) front others) (xs ys : List Value) :
    compareLists (front ++ xs) (others ++ ys) = compareLists xs ys := by
  induction agree with
  | nil => rfl
  | cons same _ ih => rw [List.cons_append, List.cons_append, compareLists, if_pos same, ih]

theorem compare?_eq_of_same (left : a.IsOrdinary) (same : a.same b = true) (kindred : Kindred a b) :
    a.compare? b = some .eq := by
  have ranked : ∀ {r}, a.rank? = some r → b.rank? = some r → a.compare? b = some .eq := by
    intro r first second
    have leaves : ∀ xs ys, a = .list xs → b = .list ys → False := by
      rintro xs ys rfl
      cases first
    rw [compare?_of_ranks leaves, first, second]
    exact Rank.compare?_eq_iff.mpr rfl
  cases (same_iff left).mp same with
  | null => cases kindred with | numbers left => cases left
  | rank first second => exact ranked first second
  | obj => cases kindred with | numbers left => cases left
  | list pairs =>
      have whole := compareLists_append pairs [] []
      rw [List.append_nil, List.append_nil] at whole
      exact whole

theorem compare?_eq_some_eq_iff (left : a.IsOrdinary) (right : b.IsOrdinary) :
    a.compare? b = some .eq ↔ a.same b = true ∧ Kindred a b := by
  constructor
  · intro equal
    refine ⟨same_of_compare?_eq left equal, ?_⟩
    obtain ⟨r, s, first, second, ranks⟩ | ⟨xs, ys, rfl, rfl, -⟩ := compare?_cases equal
    · obtain ⟨x, y, number, another⟩ | ⟨s, t, rfl, rfl⟩ :=
        kindred_of_ranks left right first second ranks
      · exact .numbers number another
      · exact .texts s t
    · exact .lists xs ys
  · exact fun ⟨same, kindred⟩ => compare?_eq_of_same left same kindred

theorem Comparable.cons {xs ys : List Value} {x y : Value} (same : x.same y = true)
    (rest : Comparable (.list xs) (.list ys)) : Comparable (.list (x :: xs)) (.list (y :: ys)) := by
  cases rest with
  | numbers left => cases left
  | agreeing agree => exact .agreeing (List.forall_mem_cons.mpr ⟨same, agree⟩)
  | decided agree apart first => exact .decided (.cons same agree) apart first

theorem comparable_of_compareLists {xs ys : List Value} {order : Ordering}
    (each : ∀ x ∈ xs, ∀ y ∈ ys, ∀ order, x.compare? y = some order → Comparable x y)
    (found : compareLists xs ys = some order) : Comparable (.list xs) (.list ys) := by
  induction xs generalizing ys with
  | nil => exact .agreeing (by simp)
  | cons x xs ih =>
      cases ys with
      | nil => exact .agreeing (by simp)
      | cons y ys =>
          rw [compareLists] at found
          split at found
          next same =>
            exact .cons same (ih (fun x left y right => each x (.tail _ left) y (.tail _ right)) found)
          next apart => exact .decided .nil apart (each x (.head _) y (.head _) order found)

theorem comparable_of_compare? {order : Ordering} (left : a.IsOrdinary) (right : b.IsOrdinary)
    (found : a.compare? b = some order) : Comparable a b := by
  have ranked : ∀ {a b : Value} {r s : Rank} {order : Ordering}, a.IsOrdinary → b.IsOrdinary →
      a.rank? = some r → b.rank? = some s → r.compare? s = some order → Comparable a b := by
    intro a b r s order left right first second ranks
    obtain ⟨x, y, number, another⟩ | ⟨s, t, rfl, rfl⟩ :=
      kindred_of_ranks left right first second ranks
    · exact .numbers number another
    · exact .texts s t
  induction a, left using IsDataWith.induct generalizing b order with
  | leaf a json plain single =>
      obtain ⟨r, s, first, second, ranks⟩ | ⟨xs, _, rfl, -⟩ := compare?_cases found
      · exact ranked json right first second ranks
      · exact (plain xs rfl).elim
  | obj xs json each ih =>
      obtain ⟨_, _, left, -⟩ | ⟨_, _, left, -⟩ := compare?_cases found <;> cases left
  | list xs json each ih =>
      obtain ⟨_, _, left, -⟩ | ⟨_, ys, ⟨⟩, rfl, lists⟩ := compare?_cases found
      · cases left
      · cases right with
        | list _ others =>
            exact comparable_of_compareLists
              (fun x member y other _ => ih x member (others y other)) lists

theorem compareLists_of_agreeing {xs ys : List Value}
    (agree : ∀ pair ∈ xs.zip ys, pair.1.same pair.2 = true) :
    ∃ order, compareLists xs ys = some order := by
  induction xs generalizing ys with
  | nil => cases ys <;> exact ⟨_, rfl⟩
  | cons x xs ih =>
      cases ys with
      | nil => exact ⟨_, rfl⟩
      | cons y ys =>
          obtain ⟨same, agree⟩ := List.forall_mem_cons.mp agree
          rw [compareLists, if_pos same]
          exact ih agree

theorem Comparable.compare? (comparable : Comparable a b) (left : a.IsOrdinary)
    (right : b.IsOrdinary) : ∃ order, a.compare? b = some order := by
  induction comparable with
  | @numbers a b _ _ number another =>
      obtain ⟨p, first⟩ := rank?_of_number left number
      obtain ⟨q, second⟩ := rank?_of_number right another
      have leaves : ∀ xs ys, a = .list xs → b = .list ys → False := by
        rintro xs ys rfl
        cases number
      rw [compare?_of_ranks leaves, first, second]
      exact ⟨_, rfl⟩
  | texts s t => exact ⟨_, rfl⟩
  | agreeing agree => exact compareLists_of_agreeing agree
  | decided agree apart _ ih =>
      cases left with
      | list _ each =>
      cases right with
      | list _ others =>
      rw [Value.compare?, compareLists_append agree, compareLists, if_neg apart]
      exact ih (each _ (by simp)) (others _ (by simp))

@[simp] theorem IsDataWith.opened {admitted : Float → Prop} (data : IsDataWith admitted a) :
    a.opened = a := by
  cases data <;> rfl

end Value

namespace Condition

open Value

/-- The comparison is true in the scope of what stands at the path and the expected value. -/
def Passes (comparison : Comparison) (scope : Value) (path : String) (expected : Value) : Prop :=
  (compare comparison path expected).evaluate scope = true

section Comparisons

variable {scope expected found : Value} {path : String}

theorem passes_eq_iff (data : (scope.lookupD path .null).IsOrdinary) :
    Passes .eq scope path expected ↔ (scope.lookupD path .null).same expected = true := by
  rw [Passes, evaluate, Comparison.holds, data.opened]

theorem passes_ne_iff (data : (scope.lookupD path .null).IsOrdinary) :
    Passes .ne scope path expected ↔ ¬ (scope.lookupD path .null).same expected = true := by
  rw [Passes, evaluate, Comparison.holds, data.opened, Bool.not_eq_true', Bool.not_eq_true]

theorem passes_lt_iff :
    Passes .lt scope path expected ↔ (scope.lookupD path .null).compare? expected = some .lt := by
  rw [Passes, evaluate, Comparison.holds, beq_iff_eq]

theorem passes_gt_iff :
    Passes .gt scope path expected ↔ (scope.lookupD path .null).compare? expected = some .gt := by
  rw [Passes, evaluate, Comparison.holds, beq_iff_eq]

theorem passes_lte_iff :
    Passes .lte scope path expected ↔ (scope.lookupD path .null).compare? expected = some .lt ∨
      (scope.lookupD path .null).compare? expected = some .eq := by
  rw [Passes, evaluate, Comparison.holds]
  cases (scope.lookupD path .null).compare? expected with
  | none => simp
  | some order => cases order <;> simp

theorem passes_gte_iff :
    Passes .gte scope path expected ↔ (scope.lookupD path .null).compare? expected = some .gt ∨
      (scope.lookupD path .null).compare? expected = some .eq := by
  rw [Passes, evaluate, Comparison.holds]
  cases (scope.lookupD path .null).compare? expected with
  | none => simp
  | some order => cases order <;> simp

/-- Exactly one of less, equal and greater holds of values that are comparable, and at most one of any.
The other operators follow from these three. A scope in which the expected value stands at a place sees
the value found here from the other side, or compares a third value. -/
theorem comparisons_cohere {actual : Value} (found : scope.lookupD path .null = actual)
    (left : actual.IsOrdinary) (right : expected.IsOrdinary) :
    (Passes .ne scope path expected ↔ ¬ Passes .eq scope path expected) ∧
    (¬ (Passes .lt scope path expected ∧ Passes .eq scope path expected) ∧
      ¬ (Passes .lt scope path expected ∧ Passes .gt scope path expected) ∧
      ¬ (Passes .eq scope path expected ∧ Passes .gt scope path expected)) ∧
    (Passes .gte scope path expected ↔ Passes .gt scope path expected ∨
      Passes .eq scope path expected ∧ Kindred actual expected) ∧
    (Passes .lte scope path expected ↔ Passes .lt scope path expected ∨
      Passes .eq scope path expected ∧ Kindred actual expected) ∧
    (∀ other place, other.lookupD place .null = expected →
      (Passes .lt scope path expected ↔ Passes .gt other place actual) ∧
      (Passes .gt scope path expected ↔ Passes .lt other place actual) ∧
      (Passes .lte scope path expected ↔ Passes .gte other place actual) ∧
      (Passes .gte scope path expected ↔ Passes .lte other place actual)) ∧
    (∀ other place third, other.lookupD place .null = expected → third.IsOrdinary →
      Passes .lt scope path expected → Passes .lt other place third →
      Passes .lt scope path third) ∧
    (¬ Comparable actual expected →
      ¬ Passes .lt scope path expected ∧ ¬ Passes .gt scope path expected ∧
      ¬ Passes .lte scope path expected ∧ ¬ Passes .gte scope path expected) ∧
    (Comparable actual expected → Passes .lt scope path expected ∨
      Passes .eq scope path expected ∨ Passes .gt scope path expected) := by
  subst found
  have exclusive := same_of_compare? left right
  have level := compare?_eq_some_eq_iff left right
  have unordered : ∀ {order}, ¬ Comparable (scope.lookupD path .null) expected →
      (scope.lookupD path .null).compare? expected ≠ some order :=
    fun apart found => apart (comparable_of_compare? left right found)
  refine ⟨?opposite, ⟨?below, ?sides, ?above⟩, ?atLeast, ?atMost, ?turned, ?chained, ?refused,
    ?placed⟩
  case opposite => rw [passes_ne_iff left, passes_eq_iff left]
  case below =>
    rw [passes_lt_iff, passes_eq_iff left]
    exact fun ⟨less, same⟩ => (exclusive same).1 less
  case sides =>
    rw [passes_lt_iff, passes_gt_iff]
    exact fun ⟨less, greater⟩ => nomatch less.symm.trans greater
  case above =>
    rw [passes_gt_iff, passes_eq_iff left]
    exact fun ⟨same, greater⟩ => (exclusive same).2 greater
  case atLeast => rw [passes_gte_iff, passes_gt_iff, passes_eq_iff left, level]
  case atMost => rw [passes_lte_iff, passes_lt_iff, passes_eq_iff left, level]
  case turned =>
    rintro other place rfl
    have swap := compare?_swap left right
    simp only [passes_lt_iff, passes_gt_iff, passes_lte_iff, passes_gte_iff, swap]
    cases (scope.lookupD path .null).compare? (other.lookupD place .null) with
    | none => simp
    | some order => cases order <;> simp
  case chained =>
    rintro other place third rfl data
    simp only [passes_lt_iff]
    exact compare?_trans left right data
  case refused =>
    intro apart
    rw [passes_lt_iff, passes_gt_iff, passes_lte_iff, passes_gte_iff]
    exact ⟨unordered apart, unordered apart, not_or.mpr ⟨unordered apart, unordered apart⟩,
      not_or.mpr ⟨unordered apart, unordered apart⟩⟩
  case placed =>
    intro comparable
    obtain ⟨order, ordered⟩ := comparable.compare? left right
    rw [passes_lt_iff, passes_eq_iff left, passes_gt_iff]
    cases order with
    | lt => exact .inl ordered
    | eq => exact .inr (.inl (level.mp ordered).1)
    | gt => exact .inr (.inr ordered)

end Comparisons

/-- The labels of a ticket, and the ones they are compared with. -/
def labelled (first : Value) (second : String) : Value :=
  .obj [("labels", .list [first, .str second])]

/-- True counts as one, so the second labels decide. -/
theorem labelled_passes :
    (labelled (.bool true) "b").lookupD "labels" .null = .list [.bool true, .str "b"] ∧
    Passes .lt (labelled (.bool true) "b") "labels" (.list [.int 1, .str "c"]) ∧
    ¬ Passes .eq (labelled (.bool true) "b") "labels" (.list [.int 1, .str "c"]) ∧
    Passes .gt (labelled (.int 1) "c") "labels" (.list [.bool true, .str "b"]) ∧
    Passes .lt (labelled (.bool true) "b") "labels" (.list [.bool true, .str "d"]) := by
  have data : ∀ (first : Value) second, first.IsOrdinary →
      (Value.list [first, .str second]).IsOrdinary := by
    intro first second data
    refine .list (by simp) fun item member => ?_
    obtain rfl | rfl : item = _ ∨ item = _ := by simpa using member
    · exact data
    · exact .str _
  have found : ∀ first second,
      (labelled first second).lookupD "labels" .null = .list [first, .str second] := by
    intro first second
    have parts : Path.parts "labels" = ["labels"] := by decide
    rw [Value.lookupD, Value.lookup?, parts]
    rfl
  obtain ⟨-, exclusive, -, -, turned, chained, -, -⟩ :=
    comparisons_cohere (found (.bool true) "b") (data _ _ (.bool true)) (data _ "c" (.int 1))
  have less : Passes .lt (labelled (.bool true) "b") "labels" (.list [.int 1, .str "c"]) := by
    rw [passes_lt_iff, found]
    decide +kernel
  have more : Passes .lt (labelled (.int 1) "c") "labels" (.list [.bool true, .str "d"]) := by
    rw [passes_lt_iff, found]
    decide +kernel
  exact ⟨found _ _, less, fun equal => exclusive.1 ⟨less, equal⟩,
    (turned _ _ (found _ _)).1.mp less, chained _ _ _ (found _ _) (data _ _ (.bool true)) less more⟩

end Condition

end Orchestra
