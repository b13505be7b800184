import Mathlib.Data.List.Forall2
import Orchestra.Condition.Reader

/-!
The grammar and the meaning of condition expressions.

Both are said of the expressions themselves. Reading accepts exactly the expressions of the grammar,
and what it makes of one holds in a scope exactly where the expression does, although requirements
are put in a row and a single one stands for itself.
-/

namespace Orchestra

/-- The operator that stands for a comparison in expressions. -/
def Comparison.operator : Comparison → String
  | .eq => "$eq"
  | .ne => "$ne"
  | .gt => "$gt"
  | .gte => "$gte"
  | .lt => "$lt"
  | .lte => "$lte"

/-- A name is that of a comparison exactly if it is its operator. -/
theorem Comparison.ofName?_eq_some_iff {name : String} {comparison : Comparison} :
    Comparison.ofName? name = some comparison ↔ name = comparison.operator := by
  constructor
  · intro named
    obtain ⟨front, back, listed, -⟩ := List.lookup_eq_some_iff.mp named
    have member : (name, comparison) ∈ [("$eq", Comparison.eq), ("$ne", .ne), ("$gt", .gt),
        ("$gte", .gte), ("$lt", .lt), ("$lte", .lte)] := by simp [listed]
    cases comparison <;> simpa [Comparison.operator] using member
  · rintro rfl
    cases comparison <;> rfl

namespace Condition

/-- A key that is no operator stands for a path. -/
def IsPath (key : String) : Prop :=
  ¬ ['$'] <+: key.toList

mutual

/-- The expressions of the grammar. -/
inductive Formed : Value → Prop
  | object {fields : Fields} (each : ∀ entry ∈ fields, FormedEntry entry.1 entry.2) :
      Formed (.obj fields)

/-- The entries that an expression may have. -/
inductive FormedEntry : String → Value → Prop
  | all {items : List Value} (each : ∀ item ∈ items, Formed item) :
      FormedEntry "$and" (.list items)
  | any {items : List Value} (each : ∀ item ∈ items, Formed item) :
      FormedEntry "$or" (.list items)
  | equality {path : String} {value : Value} (plain : IsPath path)
      (whole : ∀ fields, value ≠ .obj fields) : FormedEntry path value
  | operators {path : String} {operators : Fields} (plain : IsPath path) (given : operators ≠ [])
      (known : ∀ entry ∈ operators, ∃ comparison : Comparison, entry.1 = comparison.operator) :
      FormedEntry path (.obj operators)

end

mutual

/-- The meaning of an expression: all its entries hold. -/
inductive Holds (scope : Value) : Value → Prop
  | object {fields : Fields} (each : ∀ entry ∈ fields, HoldsEntry scope entry.1 entry.2) :
      Holds scope (.obj fields)

/-- The meaning of an entry. -/
inductive HoldsEntry (scope : Value) : String → Value → Prop
  | all {items : List Value} (each : ∀ item ∈ items, Holds scope item) :
      HoldsEntry scope "$and" (.list items)
  | any {items : List Value} {item : Value} (member : item ∈ items) (holds : Holds scope item) :
      HoldsEntry scope "$or" (.list items)
  | equality {path : String} {value : Value} (plain : IsPath path)
      (whole : ∀ fields, value ≠ .obj fields)
      (equal : Comparison.eq.holds (scope.lookupD path .null) value = true) :
      HoldsEntry scope path value
  | operators {path : String} {operators : Fields} (plain : IsPath path)
      (each : ∀ entry ∈ operators, ∃ comparison : Comparison, entry.1 = comparison.operator ∧
        comparison.holds (scope.lookupD path .null) entry.2 = true) :
      HoldsEntry scope path (.obj operators)

end

section Entries

variable {key : String} {value scope : Value} {items : List Value} {operators : Fields}

theorem head?_eq_iff : key.toList.head? = some '$' ↔ ¬ IsPath key := by
  simp [IsPath, List.head?_eq_some_iff, List.cons_prefix_iff]

theorem not_isPath_and : ¬ IsPath "$and" :=
  head?_eq_iff.mp rfl

theorem not_isPath_or : ¬ IsPath "$or" :=
  head?_eq_iff.mp rfl

/-- Only paths and the two junctions may stand as keys, and a junction has a list. -/
theorem FormedEntry.cases_key (formed : FormedEntry key value) :
    IsPath key ∨ (key = "$and" ∨ key = "$or") ∧ ∃ items, value = .list items := by
  cases formed with
  | all => exact .inr ⟨.inl rfl, _, rfl⟩
  | any => exact .inr ⟨.inr rfl, _, rfl⟩
  | equality plain | operators plain => exact .inl plain

/-- The items of a junction are expressions. -/
theorem formedEntry_junction_iff (junction : key = "$and" ∨ key = "$or") :
    FormedEntry key (.list items) ↔ ∀ item ∈ items, Formed item := by
  constructor
  · intro formed
    cases formed with
    | all each | any each => exact each
    | equality plain =>
        rcases junction with rfl | rfl
        · exact (not_isPath_and plain).elim
        · exact (not_isPath_or plain).elim
  · rcases junction with rfl | rfl
    · exact .all
    · exact .any

theorem formedEntry_operators_iff (plain : IsPath key) :
    FormedEntry key (.obj operators) ↔ operators ≠ [] ∧
      ∀ entry ∈ operators, ∃ comparison : Comparison, entry.1 = comparison.operator := by
  refine ⟨fun formed => ?_, fun ⟨given, known⟩ => .operators plain given known⟩
  cases formed with
  | operators _ given known => exact ⟨given, known⟩
  | equality _ whole => exact (whole _ rfl).elim

theorem holdsEntry_and_iff :
    HoldsEntry scope "$and" (.list items) ↔ ∀ item ∈ items, Holds scope item := by
  refine ⟨fun holds => ?_, .all⟩
  generalize named : "$and" = key at holds
  cases holds with
  | all each => exact each
  | any => exact absurd named (by decide)
  | equality plain => exact (not_isPath_and (named ▸ plain)).elim

theorem holdsEntry_or_iff :
    HoldsEntry scope "$or" (.list items) ↔ ∃ item ∈ items, Holds scope item := by
  refine ⟨fun holds => ?_, fun ⟨_, member, holds⟩ => .any member holds⟩
  generalize named : "$or" = key at holds
  cases holds with
  | all => exact absurd named (by decide)
  | any member holds => exact ⟨_, member, holds⟩
  | equality plain => exact (not_isPath_or (named ▸ plain)).elim

theorem holdsEntry_equality_iff (plain : IsPath key) (whole : ∀ fields, value ≠ .obj fields) :
    HoldsEntry scope key value ↔
      Comparison.eq.holds (scope.lookupD key .null) value = true := by
  refine ⟨fun holds => ?_, .equality plain whole⟩
  cases holds with
  | all => exact (not_isPath_and plain).elim
  | any => exact (not_isPath_or plain).elim
  | equality _ _ equal => exact equal
  | operators => exact (whole _ rfl).elim

theorem holdsEntry_operators_iff (plain : IsPath key) :
    HoldsEntry scope key (.obj operators) ↔
      ∀ entry ∈ operators, ∃ comparison : Comparison, entry.1 = comparison.operator ∧
        comparison.holds (scope.lookupD key .null) entry.2 = true := by
  refine ⟨fun holds => ?_, .operators plain⟩
  cases holds with
  | operators _ each => exact each
  | equality _ whole => exact (whole _ rfl).elim

theorem formed_object_iff {fields : Fields} :
    Formed (.obj fields) ↔ ∀ entry ∈ fields, FormedEntry entry.1 entry.2 :=
  ⟨fun ⟨each⟩ => each, .object⟩

theorem holds_object_iff {fields : Fields} :
    Holds scope (.obj fields) ↔ ∀ entry ∈ fields, HoldsEntry scope entry.1 entry.2 :=
  ⟨fun ⟨each⟩ => each, .object⟩

end Entries

section Conditions

variable {scope : Value}

theorem evaluateAll_append (first second : List Condition) :
    evaluateAll scope (first ++ second) =
      (evaluateAll scope first && evaluateAll scope second) := by
  simp [evaluateAll_eq]

@[simp] theorem evaluateAll_singleton (condition : Condition) :
    evaluateAll scope [condition] = condition.evaluate scope := by
  simp [evaluateAll]

/-- A single requirement holds where the conjunction of it does. -/
@[simp] theorem evaluate_join (conditions : List Condition) :
    (join conditions).evaluate scope = evaluateAll scope conditions := by
  unfold join
  split
  · rw [evaluateAll_singleton]
  · rfl

/-- The conditions hold together where something does. -/
def Mean (conditions : List Condition) (holds : Value → Prop) : Prop :=
  ∀ scope, evaluateAll scope conditions = true ↔ holds scope

/-- Conditions that stand for the items of a list, one for one. -/
abbrev MeanEach (items : List Value) (conditions : List Condition) : Prop :=
  List.Forall₂ (fun item condition => Mean [condition] (Holds · item)) items conditions

theorem MeanEach.all {items : List Value} {conditions : List Condition}
    (means : MeanEach items conditions) :
    Mean [.all conditions] fun scope => ∀ item ∈ items, Holds scope item := by
  intro scope
  dsimp only
  rw [evaluateAll_singleton, evaluate]
  induction means with
  | nil => simp [evaluateAll]
  | cons first _ ih =>
      have first := first scope
      rw [evaluateAll_singleton] at first
      rw [evaluateAll, Bool.and_eq_true, first, ih, List.forall_mem_cons]

theorem MeanEach.any {items : List Value} {conditions : List Condition}
    (means : MeanEach items conditions) :
    Mean [.any conditions] fun scope => ∃ item ∈ items, Holds scope item := by
  intro scope
  dsimp only
  rw [evaluateAll_singleton, evaluate]
  induction means with
  | nil => simp [evaluateAny]
  | cons first _ ih =>
      have first := first scope
      rw [evaluateAll_singleton] at first
      rw [evaluateAny, Bool.or_eq_true, first, ih, List.exists_mem_cons_iff]

end Conditions

section Reading

variable {α β : Type} {formed others : Prop} {gives : α → Prop} {tells : β → Prop}

/-- Reading accepts what is formed, and what it gives is as it should be. -/
def Reads (formed : Prop) (gives : α → Prop) : Except ConditionError α → Prop
  | .ok found => formed ∧ gives found
  | .error _ => ¬ formed

theorem Reads.of_iff {reading : Except ConditionError α} (reads : Reads formed gives reading)
    (same : others ↔ formed) : Reads others gives reading := by
  cases reading with
  | ok found => exact ⟨same.mpr reads.1, reads.2⟩
  | error => exact fun other => reads (same.mp other)

theorem Reads.mono {reading : Except ConditionError α} {more : α → Prop}
    (reads : Reads formed gives reading) (after : ∀ found, gives found → more found) :
    Reads formed more reading := by
  cases reading with
  | ok found => exact ⟨reads.1, after found reads.2⟩
  | error => exact reads

/-- One reading after the other accepts what is formed in both ways. -/
theorem Reads.bind {first : Except ConditionError α} {second : α → Except ConditionError β}
    (reads : Reads formed gives first)
    (after : ∀ found, gives found → Reads others tells (second found)) :
    Reads (formed ∧ others) tells (first >>= second) := by
  cases first with
  | error => exact fun both => reads both.1
  | ok found =>
      have later := after found reads.2
      show Reads (formed ∧ others) tells (second found)
      cases outcome : second found with
      | error =>
          rw [outcome] at later
          exact fun both => later both.2
      | ok more =>
          rw [outcome] at later
          exact ⟨⟨reads.1, later.1⟩, later.2⟩

theorem Reads.map {first : Except ConditionError α} {f : α → β} (reads : Reads formed gives first)
    (after : ∀ found, gives found → tells (f found)) :
    Reads formed tells (first >>= fun found => pure (f found)) := by
  cases first with
  | error => exact reads
  | ok found => exact ⟨reads.1, after found reads.2⟩

/-- Operators are read as the comparisons of their names. -/
theorem ofOperators_reads (path : String) (operators : Fields) :
    Reads (∀ entry ∈ operators, ∃ comparison : Comparison, entry.1 = comparison.operator)
      (Mean · fun scope => ∀ entry ∈ operators, ∃ comparison : Comparison,
        entry.1 = comparison.operator ∧
          comparison.holds (scope.lookupD path .null) entry.2 = true)
      (ofOperators path operators) := by
  induction operators with
  | nil => exact ⟨by simp, fun scope => by simp [evaluateAll]⟩
  | cons entry rest ih =>
      obtain ⟨name, expected⟩ := entry
      rw [ofOperators]
      split
      next unknown =>
        intro known
        obtain ⟨comparison, named⟩ := known _ List.mem_cons_self
        rw [Comparison.ofName?_eq_some_iff.mpr named] at unknown
        cases unknown
      next comparison found =>
        have named := Comparison.ofName?_eq_some_iff.mp found
        refine (ih.map fun conditions means scope => ?_).of_iff ?_
        · have only : (∃ other : Comparison, name = other.operator ∧
              other.holds (scope.lookupD path .null) expected = true) ↔
              comparison.holds (scope.lookupD path .null) expected = true := by
            constructor
            · rintro ⟨other, same, holds⟩
              rw [Comparison.ofName?_eq_some_iff.mpr same] at found
              cases found
              exact holds
            · exact fun holds => ⟨comparison, named, holds⟩
          simp only [List.forall_mem_cons, only, evaluateAll, Bool.and_eq_true, means scope, evaluate]
        · rw [List.forall_mem_cons]
          exact and_iff_right ⟨comparison, named⟩

/-- A path with a value that is no object is read as an equality. -/
theorem field_reads {path : String} {value : Value} (plain : IsPath path)
    (whole : ∀ fields, value ≠ .obj fields) :
    Reads (FormedEntry path value) (Mean · (HoldsEntry · path value))
      (.ok [.field path value]) := by
  refine ⟨.equality plain whole, fun scope => ?_⟩
  simp only [evaluateAll_singleton, evaluate, holdsEntry_equality_iff plain whole]

/-- An operator that is no junction is refused, and so is a junction of anything but a list. -/
theorem reserved_reads {key : String} {value : Value}
    {reading : Except ConditionError (List Condition)} (unlisted : ∀ items, value ≠ .list items)
    (reads : IsPath key → Reads (FormedEntry key value) (Mean · (HoldsEntry · key value)) reading) :
    Reads (FormedEntry key value) (Mean · (HoldsEntry · key value))
      (if key == "$and" || key == "$or" then .error (.notAList key)
        else if key.toList.head? == some '$' then .error (.unknownOperator key)
        else reading) := by
  split
  next junction =>
    intro formed
    have reserved : ¬ IsPath key := by
      rcases (by simpa using junction) with rfl | rfl
      · exact not_isPath_and
      · exact not_isPath_or
    obtain plain | ⟨-, items, same⟩ := formed.cases_key
    · exact reserved plain
    · exact unlisted items same
  next other =>
    split
    next reserved =>
      intro formed
      obtain plain | ⟨junction, -⟩ := formed.cases_key
      · exact head?_eq_iff.mp (eq_of_beq reserved) plain
      · exact other (by simpa using junction)
    next plain => exact reads (by simpa [head?_eq_iff] using plain)

mutual

theorem ofValue_reads : (value : Value) →
    Reads (Formed value) (fun condition => Mean [condition] (Holds · value)) (ofValue value)
  | .obj fields => by
      refine ((ofEntries_reads fields).map fun conditions means scope => ?_).of_iff
        formed_object_iff
      simp only [evaluateAll_singleton, evaluate_join, means scope, holds_object_iff]
  | .null | .bool _ | .int _ | .float _ | .str _ | .list _ | .choice .. | .record .. | .scope ..
  | .operation _ => nofun

theorem ofItems_reads : (items : List Value) →
    Reads (∀ item ∈ items, Formed item) (MeanEach items) (ofItems items)
  | [] => ⟨by simp, .nil⟩
  | item :: rest => by
      refine ((ofValue_reads item).bind fun condition means =>
        (ofItems_reads rest).map fun conditions later => ?_).of_iff List.forall_mem_cons
      exact .cons means later

theorem ofEntries_reads : (fields : List (String × Value)) →
    Reads (∀ entry ∈ fields, FormedEntry entry.1 entry.2)
      (Mean · fun scope => ∀ entry ∈ fields, HoldsEntry scope entry.1 entry.2) (ofEntries fields)
  | [] => ⟨by simp, fun scope => by simp [evaluateAll]⟩
  | (key, value) :: rest => by
      refine ((ofEntry_reads key value).bind fun found means =>
        (ofEntries_reads rest).map fun conditions later scope => ?_).of_iff List.forall_mem_cons
      simp only [evaluateAll_append, Bool.and_eq_true, means scope, later scope,
        List.forall_mem_cons]

theorem ofEntry_reads (key : String) : (value : Value) →
    Reads (FormedEntry key value) (Mean · (HoldsEntry · key value)) (ofEntry key value)
  | .list items => by
      rw [ofEntry]
      split
      next junction =>
        obtain rfl := eq_of_beq junction
        refine ((ofItems_reads items).map fun conditions means scope => ?_).of_iff
          (formedEntry_junction_iff (.inl rfl))
        simp only [means.all scope, holdsEntry_and_iff]
      next =>
        split
        next junction =>
          obtain rfl := eq_of_beq junction
          refine ((ofItems_reads items).map fun conditions means scope => ?_).of_iff
            (formedEntry_junction_iff (.inr rfl))
          simp only [means.any scope, holdsEntry_or_iff]
        next first second =>
          split
          next reserved =>
            intro formed
            obtain plain | ⟨junction, -⟩ := formed.cases_key
            · exact head?_eq_iff.mp (eq_of_beq reserved) plain
            · rcases junction with rfl | rfl
              · exact first rfl
              · exact second rfl
          next plain =>
            exact field_reads (by simpa [head?_eq_iff] using plain) nofun
  | .obj [] => by
      rw [ofEntry]
      refine reserved_reads nofun fun plain formed => ?_
      exact ((formedEntry_operators_iff plain).mp formed).1 rfl
  | .obj (operator :: rest) => by
      rw [ofEntry]
      · refine reserved_reads nofun fun plain => ?_
        refine ((ofOperators_reads key (operator :: rest)).mono fun conditions means scope => ?_).of_iff
          ((formedEntry_operators_iff plain).trans (and_iff_right (List.cons_ne_nil _ _)))
        simp only [means scope, holdsEntry_operators_iff plain]
      · nofun
  | .null | .bool _ | .int _ | .float _ | .str _ | .choice .. | .record .. | .scope ..
  | .operation _ => by
      rw [ofEntry]
      · exact reserved_reads nofun fun plain => field_reads plain nofun
      all_goals nofun

end

end Reading

/-- Reading an expression gives a condition exactly if the expression is formed after the grammar, and
the condition is true in a scope exactly if the expression holds there. -/
theorem ofValue_means (expression : Value) :
    match ofValue expression with
    | .ok condition =>
      Formed expression ∧ ∀ scope, condition.evaluate scope = true ↔ Holds scope expression
    | .error _ => ¬ Formed expression := by
  have reads := ofValue_reads expression
  split
  next condition found =>
    rw [found] at reads
    refine ⟨reads.1, fun scope => ?_⟩
    rw [← evaluateAll_singleton]
    exact reads.2 scope
  next error refused =>
    rw [refused] at reads
    exact reads

end Condition

end Orchestra
