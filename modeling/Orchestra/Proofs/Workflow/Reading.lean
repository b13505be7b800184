import Orchestra.Workflow.Reader

/-!
What a step that was read from data has of them.

A step is of the kind that its data name, its test is the expression of the data compiled, and the
steps in it come from the lists that its kind has, at every depth. Fields that the kind does not have
do not matter.
-/

namespace Orchestra

namespace Checked

variable {α β : Type}

@[simp] theorem map_eq_valid_iff {f : α → β} {reading : Checked α} {result : β} :
    f <$> reading = .valid result ↔ ∃ value, reading = .valid value ∧ f value = result := by
  cases reading with
  | valid value => simp [Functor.map, map]
  | invalid => simp [Functor.map, map]

@[simp] theorem map_method_eq_valid_iff {f : α → β} {reading : Checked α} {result : β} :
    reading.map f = .valid result ↔ ∃ value, reading = .valid value ∧ f value = result :=
  map_eq_valid_iff

/-- Readings add up to a value exactly if each of them gives one. -/
@[simp] theorem seq_eq_valid_iff {f : Checked (α → β)} {reading : Checked α} {result : β} :
    f <*> reading = .valid result ↔
      ∃ g value, f = .valid g ∧ reading = .valid value ∧ g value = result := by
  cases f <;> cases reading <;> simp [Seq.seq, apply]

@[simp] theorem within_eq_valid_iff {place : Place} {reading : Checked α} {result : α} :
    reading.within place = .valid result ↔ reading = .valid result := by
  cases reading <;> simp [within]

@[simp] theorem fault_ne_valid {kind : FaultKind} {result : α} :
    (fault kind : Checked α) ≠ .valid result := by
  simp [fault]

end Checked

namespace Workflow

section Fields

variable {α : Type} {entries : Fields}

/-- The value of the first of some names that occurs. -/
def given? (entries : Fields) (names : List String) : Option Value :=
  names.findSome? entries.get?

/-- A field that may be absent was read: its value from the data, or its default. -/
def ReadsAs (reader : Value → Checked α) (default : α) (given : Option Value) (value : α) : Prop :=
  match given with
  | some data => reader data = .valid value
  | none => value = default

@[simp] theorem given?_singleton (entries : Fields) (name : String) :
    given? entries [name] = entries.get? name := by
  rw [given?, List.findSome?_cons]
  cases entries.get? name <;> rfl

theorem given?_eq (entries : Fields) (names : List String) :
    given? entries names = (names.find? entries.has).map (entries.valueD · .null) := by
  induction names with
  | nil => rfl
  | cons name rest ih =>
      unfold given? at ih ⊢
      rw [List.findSome?_cons, List.find?_cons]
      cases found : entries.get? name with
      | none => simpa [Fields.has, found] using ih
      | some value => simp [Fields.has, Fields.valueD, found]

theorem fieldD_eq_valid_iff {name : String} {others : List String} {default value : α}
    {reader : Read.Reader α} :
    Read.fieldD entries name others default reader = .valid value ↔
      ReadsAs reader default (given? entries (name :: others)) value := by
  unfold Read.fieldD
  rw [given?_eq]
  cases (name :: others).find? entries.has with
  | none => simp [ReadsAs, eq_comm]
  | some used => simp [ReadsAs]

/-- The lists of steps among the fields are read where they stand. -/
theorem lookup_branchesOf {depth : Nat} {name : String} (listed : name ∈ branchNames)
    (entries : Fields) :
    List.lookup name (branchesOf depth entries) = (entries.get? name).map (steps depth) := by
  induction entries with
  | nil => rfl
  | cons entry rest ih =>
      obtain ⟨key, value⟩ := entry
      unfold Fields.get? at ih ⊢
      rw [branchesOf, List.lookup_cons]
      by_cases same : name = key
      · subst same
        simp [listed]
      · have different : (name == key) = false := beq_false_of_ne same
        split
        · simp [List.lookup_cons, different, ih]
        · simp [different, ih]

theorem branch_eq_valid_iff {depth : Nat} {name : String} {others : List String}
    (listed : ∀ field ∈ name :: others, field ∈ branchNames) {found : List Step} :
    branch (branchesOf depth entries) name others = .valid found ↔
      ReadsAs (steps depth) [] (given? entries (name :: others)) found := by
  unfold branch given?
  generalize name :: others = names at listed
  induction names with
  | nil => simp [ReadsAs, eq_comm]
  | cons field rest ih =>
      rw [List.forall_mem_cons] at listed
      simp only [List.findSome?_cons, lookup_branchesOf listed.1]
      cases entries.get? field with
      | none => exact ih listed.2
      | some value => simp [ReadsAs]

end Fields

/-- The test of a condition step: none where the data have none or null, else what their expression
compiles to. -/
inductive Tests : Option Value → Option Condition → Prop
  | absent : Tests none none
  | null : Tests (some .null) none
  | compiled {expression : Value} {condition : Condition}
      (read : Condition.ofValue expression = .ok condition) : Tests (some expression) (some condition)

mutual

/-- A step is what its data say. -/
inductive Describes : Value → Step → Prop
  | plain {entries : Fields} {step : Step} (kind : entries.get? "type" = some (.str step.kindName))
      (flat : step.kindName ≠ "condition" ∧ step.kindName ≠ "loop") : Describes (.obj entries) step
  | condition {entries : Fields} {target : Option String} {test : Option Condition}
      {onTrue onFalse : List Step} (kind : entries.get? "type" = some (.str "condition"))
      (tests : Tests (given? entries ["if", "if_"]) test)
      (yes : DescribesAll (given? entries ["then"]) onTrue)
      (no : DescribesAll (given? entries ["else", "else_"]) onFalse) :
      Describes (.obj entries) (.condition target test onTrue onFalse)
  | bodiless {entries : Fields} {target : Option String} {items : Option Value}
      (kind : entries.get? "type" = some (.str "loop"))
      (absent : entries.get? "do" = none ∨ entries.get? "do" = some .null) :
      Describes (.obj entries) (.loop target items none)
  | loop {entries : Fields} {target : Option String} {items : Option Value} {data : Value}
      {body : List Step} (kind : entries.get? "type" = some (.str "loop"))
      (given : entries.get? "do" = some data) (each : DescribesAll (some data) body) :
      Describes (.obj entries) (.loop target items (some body))

/-- The steps are those of a list, one for one; there are none where no list is given. -/
inductive DescribesAll : Option Value → List Step → Prop
  | absent : DescribesAll none []
  | nil : DescribesAll (some (.list [])) []
  | cons {item : Value} {rest : List Value} {step : Step} {steps : List Step}
      (first : Describes item step) (later : DescribesAll (some (.list rest)) steps) :
      DescribesAll (some (.list (item :: rest))) (step :: steps)

end

section Steps

variable {depth : Nat} {entries : Fields} {found : Step}

theorem test_eq_valid_iff {value : Value} {condition : Condition} :
    test value = .valid condition ↔ Condition.ofValue value = .ok condition := by
  unfold test
  split
  next compiled same => simp [same]
  next error refused => simp [refused]

theorem testField_tests {compiled : Option Condition}
    (read : testField entries = .valid compiled) :
    Tests (given? entries ["if", "if_"]) compiled := by
  rw [testField, fieldD_eq_valid_iff] at read
  cases given : given? entries ["if", "if_"] with
  | none =>
      rw [given] at read
      cases read
      exact .absent
  | some data =>
      rw [given] at read
      have read : Read.nullable test data = .valid compiled := read
      unfold Read.nullable at read
      split at read
      · cases read
        exact .null
      · obtain ⟨condition, same, rfl⟩ := Checked.map_method_eq_valid_iff.mp read
        exact .compiled (test_eq_valid_iff.mp same)

/-- The body of a loop is that of the list that its data have, and there is none for null. -/
theorem bodyField_eq_valid {body : Option (List Step)}
    (read : bodyField entries (branchesOf depth entries) = .valid body) :
    match body with
    | none => entries.get? "do" = none ∨ entries.get? "do" = some .null
    | some list => ∃ data, entries.get? "do" = some data ∧ steps depth data = .valid list := by
  unfold bodyField at read
  split at read
  next absent =>
    cases read
    exact .inl absent
  next null =>
    cases read
    exact .inr null
  next data _ given =>
    obtain ⟨list, listed, rfl⟩ := Checked.map_method_eq_valid_iff.mp read
    rw [branch_eq_valid_iff (by simp [branchNames]), given?_singleton, given] at listed
    exact ⟨data, given, listed⟩

/-- A step that was read is of a kind that there is. -/
theorem stepFields_eq_valid {around : Nat} {branches : Branches}
    (read : stepFields around entries branches = .valid found) :
    ∃ kind ∈ stepKinds, entries.get? "type" = some (.str kind) ∧
      stepOf kind entries branches = .valid found := by
  unfold stepFields at read
  split at read
  next => cases read
  next kind named =>
    split at read
    next known =>
      split at read
      next => exact ⟨kind, by simpa using known, named, Checked.within_eq_valid_iff.mp read⟩
      next => cases Checked.within_eq_valid_iff.mp read
    next => cases read
  next => cases read

/-- What is read of the lists of steps among the fields describes them. -/
def ListsDescribe (depth : Nat) (entries : Fields) : Prop :=
  ∀ name data list, entries.get? name = some data → steps depth data = .valid list →
    DescribesAll (some data) list

theorem ListsDescribe.branch (lists : ListsDescribe depth entries) {name : String}
    {others : List String} (listed : ∀ field ∈ name :: others, field ∈ branchNames)
    {list : List Step} (read : branch (branchesOf depth entries) name others = .valid list) :
    DescribesAll (given? entries (name :: others)) list := by
  rw [branch_eq_valid_iff listed] at read
  cases given : given? entries (name :: others) with
  | none =>
      rw [given] at read
      cases read
      exact .absent
  | some data =>
      rw [given] at read
      obtain ⟨used, -, found⟩ := List.exists_of_findSome?_eq_some given
      exact lists used data list found read

/-- The fields of a step describe it if its lists of steps do. -/
theorem stepFields_describes {around : Nat} (lists : ListsDescribe depth entries)
    (read : stepFields around entries (branchesOf depth entries) = .valid found) :
    Describes (.obj entries) found := by
  obtain ⟨kind, known, named, read⟩ := stepFields_eq_valid read
  have plain {β : Type} {make : Option String → β → Step} {own : Checked β}
      (read : make <$> target entries <*> own = .valid found) :
      ∃ target value, make target value = found := by
    obtain ⟨_, value, from_target, -, same⟩ := Checked.seq_eq_valid_iff.mp read
    obtain ⟨target, -, rfl⟩ := Checked.map_eq_valid_iff.mp from_target
    exact ⟨target, value, same⟩
  simp only [stepKinds, List.mem_cons, List.not_mem_nil, or_false] at known
  rcases known with rfl | rfl | rfl | rfl | rfl | rfl | rfl | rfl
  iterate 6
    obtain ⟨target, value, rfl⟩ := plain read
    exact .plain named (by simp [Step.kindName])
  · simp only [stepOf, Checked.seq_eq_valid_iff, Checked.map_eq_valid_iff] at read
    obtain ⟨_, onFalse, ⟨_, onTrue, ⟨_, test, ⟨target, -, rfl⟩, tested, rfl⟩, yes, rfl⟩, no, rfl⟩ := read
    exact .condition named (testField_tests tested) (lists.branch (by simp [branchNames]) yes)
      (lists.branch (by simp [branchNames]) no)
  · simp only [stepOf, Checked.seq_eq_valid_iff, Checked.map_eq_valid_iff] at read
    obtain ⟨_, body, ⟨_, items, ⟨target, -, rfl⟩, -, rfl⟩, found, rfl⟩ := read
    have given := bodyField_eq_valid found
    cases body with
    | none => exact .bodiless named given
    | some list =>
        obtain ⟨data, found, read⟩ := given
        exact .loop named found (lists "do" data list found read)

mutual

/-- The data of a step that was read describe it. -/
theorem step_describes : (data : Value) → {depth : Nat} → {found : Step} →
    step depth data = .valid found → Describes data found
  | .obj entries, _, _, read => by
      rw [step] at read
      exact stepFields_describes (fields_describe entries) read
  | .null, _, _, read | .bool _, _, _, read | .int _, _, _, read | .float _, _, _, read
  | .str _, _, _, read | .list _, _, _, read | .choice .., _, _, read | .record .., _, _, read
  | .scope .., _, _, read | .operation _, _, _, read => by
      cases read

theorem steps_describe : (data : Value) → {depth : Nat} → {found : List Step} →
    steps depth data = .valid found → DescribesAll (some data) found
  | .list items, _, _, read => by
      rw [steps] at read
      exact items_describe items read
  | .null, _, _, read | .bool _, _, _, read | .int _, _, _, read | .float _, _, _, read
  | .str _, _, _, read | .obj _, _, _, read | .choice .., _, _, read | .record .., _, _, read
  | .scope .., _, _, read | .operation _, _, _, read => by
      cases read

theorem items_describe : (items : List Value) → {depth position : Nat} → {found : List Step} →
    stepItems depth position items = .valid found → DescribesAll (some (.list items)) found
  | [], _, _, _, read => by
      cases read
      exact .nil
  | item :: rest, _, _, _, read => by
      rw [stepItems] at read
      simp only [Checked.seq_eq_valid_iff, Checked.map_eq_valid_iff,
        Checked.within_eq_valid_iff] at read
      obtain ⟨_, list, ⟨step, first, rfl⟩, later, rfl⟩ := read
      exact .cons (step_describes item first) (items_describe rest later)

theorem fields_describe : (entries : List (String × Value)) → {depth : Nat} →
    ListsDescribe depth entries
  | [], _ => nofun
  | (key, value) :: rest, _ => by
      intro name data list given read
      unfold Fields.get? at given
      rw [List.lookup_cons] at given
      split at given
      · cases given
        exact steps_describe value read
      · exact fields_describe rest name data list given read

end

end Steps

end Workflow

end Orchestra
