import Mathlib.Logic.Relation
import Orchestra.Proofs.Condition.Meaning
import Orchestra.Proofs.Value.Order

/-!
Ways to rewrite a condition expression that keep its meaning.

The order of entries matters nowhere, neither among requirements nor in the data that they are compared
with. Requirements may be listed one by one, and an expression may be put into a junction of its own.
Each step keeps the grammar and the meaning, in whatever junctions it happens.
-/

namespace Orchestra

namespace Value

/-- The entries of an object change places, somewhere in a value. -/
inductive Shuffles : Value → Value → Prop
  | entries {fields others : Fields} (distinct : fields.keys.Nodup) (perm : fields.Perm others) :
      Shuffles (.obj fields) (.obj others)
  | field {front back : Fields} {key : String} {value other : Value}
      (within : Shuffles value other) :
      Shuffles (.obj (front ++ (key, value) :: back)) (.obj (front ++ (key, other) :: back))
  | item {front back : List Value} {value other : Value} (within : Shuffles value other) :
      Shuffles (.list (front ++ value :: back)) (.list (front ++ other :: back))

/-- Two values are equal to the same values, and ordered alike. -/
structure Interchangeable (value other : Value) : Prop where
  same : ∀ actual : Value, actual.same value = actual.same other
  order : ∀ actual : Value, actual.compare? value = actual.compare? other

/-- Nothing is ordered beside an object. -/
theorem compare?_obj (actual : Value) (fields : Fields) : actual.compare? (.obj fields) = none := by
  rw [compare?_of_ranks (b := .obj fields) nofun, rank?_obj]
  cases actual.rank? <;> rfl

/-- Objects whose lookups find interchangeable values are interchangeable. -/
theorem interchangeable_of_lookups {fields others : Fields} (size : fields.length = others.length)
    (lookups : ∀ key, Option.Rel (fun value other => ∀ actual : Value,
      actual.same value = actual.same other) (fields.lookup key) (others.lookup key)) :
    Interchangeable (.obj fields) (.obj others) := by
  refine ⟨fun actual => ?_, fun actual => by rw [compare?_obj, compare?_obj]⟩
  cases actual with
  | obj xs =>
      rw [same, same, size]
      congr 1
      rw [Bool.eq_iff_iff, sameFields_iff, sameFields_iff]
      refine forall₂_congr fun entry _ => ?_
      have found := lookups entry.1
      generalize fields.lookup entry.1 = value, others.lookup entry.1 = other at found
      cases found with
      | none => rfl
      | some alike => simp only [Option.some.injEq, exists_eq_left', alike]
  | _ => rfl

theorem interchangeable_of_perm {fields others : Fields} (distinct : fields.keys.Nodup)
    (perm : fields.Perm others) : Interchangeable (.obj fields) (.obj others) := by
  refine interchangeable_of_lookups perm.length_eq fun key => ?_
  have found : fields.lookup key = others.lookup key := by
    ext value
    have apart : others.keys.Nodup := (perm.map Prod.fst).nodup_iff.mp distinct
    exact ⟨fun found => Fields.lookup_of_mem apart (perm.mem_iff.mp (Fields.mem_of_lookup found)),
      fun found => Fields.lookup_of_mem distinct (perm.mem_iff.mpr (Fields.mem_of_lookup found))⟩
  rw [found]
  cases others.lookup key with
  | none => exact .none
  | some => exact .some fun _ => rfl

theorem Interchangeable.field {value other : Value} (alike : Interchangeable value other)
    (front back : Fields) (key : String) :
    Interchangeable (.obj (front ++ (key, value) :: back))
      (.obj (front ++ (key, other) :: back)) := by
  refine interchangeable_of_lookups (by simp) fun name => ?_
  have refl : ∀ found : Option Value, Option.Rel (fun value other => ∀ actual : Value,
      actual.same value = actual.same other) found found
    | none => .none
    | some _ => .some fun _ => rfl
  induction front with
  | nil =>
      simp only [List.nil_append, List.lookup_cons]
      split
      · exact .some alike.same
      · exact refl _
  | cons entry front ih =>
      obtain ⟨first, found⟩ := entry
      simp only [List.cons_append, List.lookup_cons]
      split
      · exact refl _
      · exact ih

theorem Interchangeable.item {value other : Value} (alike : Interchangeable value other)
    (front back : List Value) :
    Interchangeable (.list (front ++ value :: back)) (.list (front ++ other :: back)) := by
  refine ⟨fun actual => ?_, fun actual => ?_⟩
  · cases actual with
    | list xs =>
        rw [Value.same, Value.same]
        induction front generalizing xs with
        | nil => cases xs <;> simp [sameLists, alike.same]
        | cons first front ih => cases xs <;> simp [sameLists, ih]
    | _ => rfl
  · by_cases row : ∃ xs, actual = .list xs
    · obtain ⟨xs, rfl⟩ := row
      rw [compare?, compare?]
      induction front generalizing xs with
      | nil => cases xs <;> simp [compareLists, alike.same, alike.order]
      | cons first front ih => cases xs <;> simp [compareLists, ih]
    · rw [compare?_of_ranks fun xs _ left _ => row ⟨xs, left⟩,
        compare?_of_ranks fun xs _ left _ => row ⟨xs, left⟩]
      rfl

/-- The order of entries does not matter to comparisons. -/
theorem Shuffles.interchangeable {value other : Value} (shuffles : Shuffles value other) :
    Interchangeable value other := by
  induction shuffles with
  | entries distinct perm => exact interchangeable_of_perm distinct perm
  | field _ ih => exact ih.field _ _ _
  | item _ ih => exact ih.item _ _

theorem Interchangeable.holds {value other : Value} (alike : Interchangeable value other)
    (comparison : Comparison) (actual : Value) :
    comparison.holds actual value = comparison.holds actual other := by
  cases comparison <;> simp only [Comparison.holds, alike.same, alike.order]

end Value

namespace Condition

open Value

/-- One step of rewriting, in whatever junctions it happens. -/
inductive Rewrites : Value → Value → Prop
  | shuffle {expression other : Value} (shuffles : Shuffles expression other) :
      Rewrites expression other
  /-- The conditions of a junction change places. -/
  | reorder {front back : Fields} {key : String} {items others : List Value}
      (junction : key = "$and" ∨ key = "$or") (perm : items.Perm others) :
      Rewrites (.obj (front ++ (key, .list items) :: back))
        (.obj (front ++ (key, .list others) :: back))
  /-- Every entry becomes a condition of its own. -/
  | separate (fields : Fields) :
      Rewrites (.obj fields) (.obj [("$and", .list (fields.map fun entry => .obj [entry]))])
  /-- Every operator of a path becomes a condition of its own. -/
  | split {front back operators : Fields} {path : String} (plain : IsPath path)
      (given : operators ≠ []) :
      Rewrites (.obj (front ++ (path, .obj operators) :: back))
        (.obj (front ++
          ("$and", .list (operators.map fun operator => .obj [(path, .obj [operator])])) :: back))
  | wrap {key : String} (junction : key = "$and" ∨ key = "$or") (expression : Value) :
      Rewrites expression (.obj [(key, .list [expression])])
  | within {front back : Fields} {key : String} {before after : List Value}
      {expression other : Value} (junction : key = "$and" ∨ key = "$or")
      (rewrites : Rewrites expression other) :
      Rewrites (.obj (front ++ (key, .list (before ++ expression :: after)) :: back))
        (.obj (front ++ (key, .list (before ++ other :: after)) :: back))

/-- Two expressions have the same place in the grammar and the same meaning. -/
structure Agree (expression other : Value) : Prop where
  formed : Formed expression ↔ Formed other
  holds : ∀ scope, Holds scope expression ↔ Holds scope other

/-- Two entries have the same place in the grammar and the same meaning. -/
structure AgreeAsEntries (entry other : String × Value) : Prop where
  formed : FormedEntry entry.1 entry.2 ↔ FormedEntry other.1 other.2
  holds : ∀ scope, HoldsEntry scope entry.1 entry.2 ↔ HoldsEntry scope other.1 other.2

section Agreement

variable {key path : String} {expression other scope : Value} {items others : List Value}
  {operators fields : Fields}

theorem AgreeAsEntries.object {entry replaced : String × Value}
    (agree : AgreeAsEntries entry replaced) (front back : Fields) :
    Agree (.obj (front ++ entry :: back)) (.obj (front ++ replaced :: back)) where
  formed := by
    simp only [formed_object_iff, List.forall_mem_append, List.forall_mem_cons, agree.formed]
  holds scope := by
    simp only [holds_object_iff, List.forall_mem_append, List.forall_mem_cons, agree.holds]

/-- Only a path can be the key of an object. -/
theorem formedEntry_object_iff :
    FormedEntry key (.obj operators) ↔ IsPath key ∧ operators ≠ [] ∧
      ∀ entry ∈ operators, ∃ comparison : Comparison, entry.1 = comparison.operator := by
  constructor
  · intro formed
    obtain plain | ⟨-, _, list⟩ := formed.cases_key
    · exact ⟨plain, (formedEntry_operators_iff plain).mp formed⟩
    · cases list
  · exact fun ⟨plain, known⟩ => (formedEntry_operators_iff plain).mpr known

theorem holdsEntry_object_iff :
    HoldsEntry scope key (.obj operators) ↔ IsPath key ∧
      ∀ entry ∈ operators, ∃ comparison : Comparison, entry.1 = comparison.operator ∧
        comparison.holds (scope.lookupD key .null) entry.2 = true := by
  constructor
  · intro holds
    cases holds with
    | equality _ whole => exact (whole _ rfl).elim
    | operators plain each => exact ⟨plain, each⟩
  · exact fun ⟨plain, each⟩ => .operators plain each

/-- The key of an entry that holds is a path or a junction. -/
theorem cases_key_of_holdsEntry {value : Value} (holds : HoldsEntry scope key value) :
    IsPath key ∨ key = "$and" ∨ key = "$or" := by
  cases holds with
  | all => exact .inr (.inl rfl)
  | any => exact .inr (.inr rfl)
  | equality plain | operators plain => exact .inl plain

/-- Conditions of a junction may change places, and be replaced by others that agree. -/
theorem agreeAsEntries_of_items (junction : key = "$and" ∨ key = "$or")
    (formed : (∀ item ∈ items, Formed item) ↔ ∀ item ∈ others, Formed item)
    (all : ∀ scope, (∀ item ∈ items, Holds scope item) ↔ ∀ item ∈ others, Holds scope item)
    (any : ∀ scope, (∃ item ∈ items, Holds scope item) ↔ ∃ item ∈ others, Holds scope item) :
    AgreeAsEntries (key, .list items) (key, .list others) where
  formed := by simp only [formedEntry_junction_iff junction, formed]
  holds scope := by
    rcases junction with rfl | rfl
    · simp only [holdsEntry_and_iff, all]
    · simp only [holdsEntry_or_iff, any]

theorem Agree.item (agree : Agree expression other) (junction : key = "$and" ∨ key = "$or")
    (before after : List Value) :
    AgreeAsEntries (key, .list (before ++ expression :: after))
      (key, .list (before ++ other :: after)) :=
  agreeAsEntries_of_items junction
    (by simp only [List.forall_mem_append, List.forall_mem_cons, agree.formed])
    (fun scope => by simp only [List.forall_mem_append, List.forall_mem_cons, agree.holds])
    (fun scope => by simp [or_and_right, exists_or, agree.holds])

theorem agreeAsEntries_of_perm (junction : key = "$and" ∨ key = "$or") (perm : items.Perm others) :
    AgreeAsEntries (key, .list items) (key, .list others) :=
  agreeAsEntries_of_items junction (by simp only [perm.mem_iff])
    (fun scope => by simp only [perm.mem_iff]) (fun scope => by simp only [perm.mem_iff])

theorem not_formed_list {items : List Value} : ¬ Formed (.list items) := by
  rintro ⟨⟩

theorem not_holds_list {scope : Value} {items : List Value} : ¬ Holds scope (.list items) := by
  rintro ⟨⟩

/-- Under a path a value may be replaced by any that is interchangeable with it. -/
theorem agreeAsEntries_of_interchangeable (plain : IsPath path)
    (whole : ∀ fields, expression ≠ .obj fields) (unopened : ∀ fields, other ≠ .obj fields)
    (alike : Interchangeable expression other) :
    AgreeAsEntries (path, expression) (path, other) where
  formed := iff_of_true (.equality plain whole) (.equality plain unopened)
  holds scope := by
    simp only [holdsEntry_equality_iff plain whole, holdsEntry_equality_iff plain unopened,
      alike.holds]

/-- The order of entries matters neither in an expression nor in what stands under a key. -/
theorem agree_of_shuffles (shuffles : Shuffles expression other) :
    Agree expression other ∧ ∀ key, AgreeAsEntries (key, expression) (key, other) := by
  induction shuffles with
  | entries distinct perm =>
      refine ⟨⟨?_, fun scope => ?_⟩, fun key => ⟨?_, fun scope => ?_⟩⟩
      · simp only [formed_object_iff, perm.mem_iff]
      · simp only [holds_object_iff, perm.mem_iff]
      · simp only [formedEntry_object_iff, perm.mem_iff, ne_eq, ← List.length_eq_zero_iff,
          perm.length_eq]
      · simp only [holdsEntry_object_iff, perm.mem_iff]
  | field within ih =>
      refine ⟨(ih.2 _).object _ _, fun key => ⟨?_, fun scope => ?_⟩⟩
      · simp only [formedEntry_object_iff, List.forall_mem_append, List.forall_mem_cons, ne_eq,
          List.append_eq_nil_iff, List.cons_ne_nil, and_false]
      · simp only [holdsEntry_object_iff, List.forall_mem_append, List.forall_mem_cons,
          within.interchangeable.holds]
  | item within ih =>
      refine ⟨⟨iff_of_false not_formed_list not_formed_list,
        fun _ => iff_of_false not_holds_list not_holds_list⟩, fun key => ?_⟩
      by_cases plain : IsPath key
      · exact agreeAsEntries_of_interchangeable plain (by simp) (by simp)
          (within.interchangeable.item _ _)
      by_cases junction : key = "$and" ∨ key = "$or"
      · exact ih.1.item junction _ _
      · have unformed : ∀ {value}, ¬ FormedEntry key value := fun formed =>
          formed.cases_key.elim plain fun listed => junction listed.1
        have nowhere : ∀ {scope value}, ¬ HoldsEntry scope key value := fun holds =>
          (cases_key_of_holdsEntry holds).elim plain junction
        exact ⟨iff_of_false unformed unformed, fun _ => iff_of_false nowhere nowhere⟩

theorem agree_separate (fields : Fields) :
    Agree (.obj fields) (.obj [("$and", .list (fields.map fun entry => .obj [entry]))]) where
  formed := by
    simp only [formed_object_iff, List.forall_mem_singleton, formedEntry_junction_iff (.inl rfl),
      List.forall_mem_map]
  holds scope := by
    simp only [holds_object_iff, List.forall_mem_singleton, holdsEntry_and_iff, List.forall_mem_map]

theorem agree_split (plain : IsPath path) (given : operators ≠ []) :
    AgreeAsEntries (path, .obj operators)
      ("$and", .list (operators.map fun operator => .obj [(path, .obj [operator])])) where
  formed := by
    simp only [formedEntry_operators_iff plain, formedEntry_junction_iff (.inl rfl),
      formed_object_iff, List.forall_mem_map, List.forall_mem_singleton, ne_eq, given,
      List.cons_ne_nil, not_false_eq_true, true_and]
  holds scope := by
    simp only [holdsEntry_operators_iff plain, holdsEntry_and_iff, holds_object_iff,
      List.forall_mem_map, List.forall_mem_singleton]

theorem agree_wrap (junction : key = "$and" ∨ key = "$or") (expression : Value) :
    Agree expression (.obj [(key, .list [expression])]) where
  formed := by
    simp only [formed_object_iff, List.forall_mem_singleton, formedEntry_junction_iff junction]
  holds scope := by
    rcases junction with rfl | rfl
    · simp only [holds_object_iff, List.forall_mem_singleton, holdsEntry_and_iff]
    · simp [holds_object_iff, holdsEntry_or_iff]

/-- One step of rewriting keeps the grammar and the meaning. -/
theorem Rewrites.agree (rewrites : Rewrites expression other) : Agree expression other := by
  induction rewrites with
  | shuffle shuffles => exact (agree_of_shuffles shuffles).1
  | reorder junction perm => exact (agreeAsEntries_of_perm junction perm).object _ _
  | separate fields => exact agree_separate fields
  | split plain given => exact (agree_split plain given).object _ _
  | wrap junction expression => exact agree_wrap junction expression
  | within junction _ ih => exact (ih.item junction _ _).object _ _

theorem exists_ofValue_iff : (∃ condition, ofValue expression = .ok condition) ↔
    Formed expression := by
  have reads := ofValue_reads expression
  cases found : ofValue expression with
  | ok condition =>
      rw [found] at reads
      exact iff_of_true ⟨condition, rfl⟩ reads.1
  | error =>
      rw [found] at reads
      exact iff_of_false nofun reads

theorem evaluate_iff_of_ofValue {condition : Condition} (read : ofValue expression = .ok condition) :
    condition.evaluate scope = true ↔ Holds scope expression := by
  have reads := ofValue_reads expression
  rw [read] at reads
  rw [← evaluateAll_singleton]
  exact reads.2 scope

end Agreement

/-- However an expression is rewritten, it is read before exactly if it is afterwards, and what is read
has the same truth in every scope. -/
theorem rewriting_keeps_meaning {expression other : Value}
    (steps : Relation.ReflTransGen Rewrites expression other) :
    ((∃ condition, ofValue expression = .ok condition) ↔
      ∃ condition, ofValue other = .ok condition) ∧
    ∀ before after, ofValue expression = .ok before → ofValue other = .ok after →
      ∀ scope, before.evaluate scope = after.evaluate scope := by
  have agree : Agree expression other := by
    induction steps with
    | refl => exact ⟨.rfl, fun _ => .rfl⟩
    | tail _ last ih =>
        exact ⟨ih.formed.trans last.agree.formed,
          fun scope => (ih.holds scope).trans (last.agree.holds scope)⟩
  constructor
  · rw [exists_ofValue_iff, exists_ofValue_iff, agree.formed]
  · intro before after first last scope
    rw [Bool.eq_iff_iff, evaluate_iff_of_ofValue first, evaluate_iff_of_ofValue last, agree.holds]

/-- A ticket is open, and its priority lies between two bounds. -/
def urgent : Value :=
  .obj [("status", .str "open"), ("priority", .obj [("$gt", .int 2), ("$lte", .int 5)])]

/-- The same, one condition at a time. -/
def urgentInParts : Value :=
  .obj [("$and", .list [
    .obj [("$and", .list [.obj [("priority", .obj [("$lte", .int 5)])],
      .obj [("priority", .obj [("$gt", .int 2)])]])],
    .obj [("$or", .list [.obj [("status", .str "open")]])]])]

theorem urgent_in_parts :
    Relation.ReflTransGen Rewrites urgent urgentInParts ∧
    ∃ before after, ofValue urgent = .ok before ∧ ofValue urgentInParts = .ok after ∧
      ∀ scope, before.evaluate scope = after.evaluate scope := by
  have steps : Relation.ReflTransGen Rewrites urgent urgentInParts := by
    refine .head (.shuffle (.entries (by decide) (.swap _ _ _))) ?_
    have plain : IsPath "priority" := by
      rw [IsPath]
      decide
    refine .head (@Rewrites.split [] _ _ _ plain (List.cons_ne_nil _ _)) ?_
    refine .head (@Rewrites.reorder [] _ _ _ _ (.inl rfl) (.swap _ _ _)) ?_
    refine .head (.separate _) ?_
    exact .single (@Rewrites.within [] _ _ [_] _ _ _ (.inl rfl) (.wrap (.inr rfl) _))
  have read : ∃ condition, ofValue urgent = .ok condition := ⟨_, rfl⟩
  have meaning := rewriting_keeps_meaning steps
  obtain ⟨before, first⟩ := read
  obtain ⟨after, last⟩ := meaning.1.mp ⟨before, first⟩
  exact ⟨steps, before, after, first, last, meaning.2 before after first last⟩

end Condition

end Orchestra
