/-!
Runs: states that are reached by one act after another.
-/

namespace Orchestra

variable {State Act : Type}

/-- What every act preserves is preserved by a whole run. -/
theorem foldl_preserves (step : State → Act → State) (Holds : State → Prop) {acts : List Act}
    (preserves : ∀ act ∈ acts, ∀ state, Holds state → Holds (step state act)) {state : State}
    (holds : Holds state) : Holds (acts.foldl step state) := by
  induction acts generalizing state with
  | nil => exact holds
  | cons act rest ih =>
      apply ih
      · intro later member
        exact preserves later (List.mem_cons_of_mem _ member)
      · exact preserves act List.mem_cons_self state holds

/-- What one act after the other keeps holds in every state of a run exactly as long as no act goes
wrong. -/
theorem foldl_prefixes_iff (step : State → Act → State) (Kept Holds : State → Prop)
    (Wrong : Act → State → Prop) {acts : List Act}
    (keeps : ∀ act ∈ acts, ∀ state, Kept state → Kept (step state act))
    (decides : ∀ act ∈ acts, ∀ state, Kept state → Holds state →
      (Holds (step state act) ↔ ¬ Wrong act state))
    {state : State} (kept : Kept state) (holds : Holds state) :
    (∀ past, past <+: acts → Holds (past.foldl step state)) ↔
      ∀ past act, past ++ [act] <+: acts → ¬ Wrong act (past.foldl step state) := by
  induction acts generalizing state with
  | nil => simpa using holds
  | cons first rest ih =>
      have first_step := decides first List.mem_cons_self state kept holds
      have rest_iff := @ih
        (fun act member => keeps act (List.mem_cons_of_mem _ member))
        (fun act member => decides act (List.mem_cons_of_mem _ member))
        (step state first) (keeps first List.mem_cons_self state kept)
      constructor
      · intro every past act begins
        have fine : Holds (step state first) := every [first] (List.prefix_append [first] rest)
        cases past with
        | nil =>
            obtain ⟨rfl, -⟩ := List.cons_prefix_cons.mp begins
            exact first_step.mp fine
        | cons other past =>
            obtain ⟨rfl, later⟩ := List.cons_prefix_cons.mp begins
            refine (rest_iff fine).mp (fun past begins => ?_) past act later
            exact every (other :: past) (List.cons_prefix_cons.mpr ⟨rfl, begins⟩)
      · intro never past begins
        cases past with
        | nil => exact holds
        | cons other past =>
            obtain ⟨rfl, later⟩ := List.cons_prefix_cons.mp begins
            have fine : Holds (step state other) :=
              first_step.mpr (never [] other (List.prefix_append [other] rest))
            refine (rest_iff fine).mpr (fun past act begins => ?_) past later
            exact never (other :: past) act (List.cons_prefix_cons.mpr ⟨rfl, begins⟩)

end Orchestra
