import Orchestra.Variables

/-!
Reading and writing of variables inside and outside of loops.
-/

namespace Orchestra

namespace Fields

theorem get?_set_self (fields : Fields) (name : String) (value : Value) :
    (fields.set name value).get? name = some value := by
  induction fields with
  | nil => simp [set, get?]
  | cons entry rest ih =>
      obtain ⟨key, old⟩ := entry
      unfold get? at ih
      by_cases same : key = name
      · simp [set, get?, same]
      · simp [set, get?, same, ih, List.lookup_cons, beq_eq_false_iff_ne.mpr (Ne.symm same)]

theorem get?_set_other (fields : Fields) {name key : String} (value : Value) (other : key ≠ name) :
    (fields.set name value).get? key = fields.get? key := by
  have other : (key == name) = false := beq_eq_false_iff_ne.mpr other
  induction fields with
  | nil => simp [set, get?, List.lookup_cons, other]
  | cons entry rest ih =>
      obtain ⟨first, old⟩ := entry
      unfold get? at ih
      by_cases same : first = name
      · simp [set, get?, same, List.lookup_cons, other]
      · simp [set, get?, same, List.lookup_cons, ih]

end Fields

namespace Variables

theorem get?_set_other (bindings : Variables) {name key : String} (value : Value)
    (other : key ≠ name) : (bindings.set name value).get? key = bindings.get? key := by
  induction bindings with
  | root fields => exact Fields.get?_set_other fields value other
  | loop layer outer ih =>
      unfold set
      split
      · simp [get?, Fields.get?_set_other layer value other]
      · simp [get?, ih]

@[simp] theorem depth_set (bindings : Variables) (name : String) (value : Value) :
    (bindings.set name value).depth = bindings.depth := by
  induction bindings with
  | root fields => rfl
  | loop layer outer ih =>
      unfold set
      split
      · rfl
      · exact congrArg (· + 1) ih

@[simp] theorem depth_iterate (bindings : Variables) (item : Value) (index : Nat) :
    (bindings.iterate item index).depth = bindings.depth + 1 := rfl

/-- Writing in a loop passes outwards, but for the names of the loop. -/
theorem outer_set {bindings : Variables} (inside : bindings.depth ≠ 0) (name : String)
    (value : Value) :
    (bindings.set name value).outer =
      if isLocal name then bindings.outer else bindings.outer.set name value := by
  cases bindings with
  | root => exact (inside rfl).elim
  | loop layer outer =>
      show (ite _ _ _ : Variables).outer = ite _ outer (outer.set name value)
      split <;> rfl

theorem base_set (bindings : Variables) (name : String) (value : Value) :
    (bindings.set name value).base =
      if isLocal name ∧ bindings.depth ≠ 0 then bindings.base else bindings.base.set name value := by
  induction bindings with
  | root fields => simp [set, base, depth]
  | loop layer outer ih =>
      by_cases own : isLocal name
      · simp [set, base, depth, own]
      · simpa [set, base, depth, own] using ih

theorem within_of_depth_le {bindings : Variables} {depth : Nat} (fits : bindings.depth ≤ depth) :
    bindings.within depth = bindings := by
  cases bindings with
  | root => rfl
  | loop layer outer => exact if_pos fits

theorem depth_within (bindings : Variables) (depth : Nat) :
    (bindings.within depth).depth = min bindings.depth depth := by
  induction bindings with
  | root => simp [within, Variables.depth]
  | loop layer outer ih =>
      unfold within
      split
      next inside => simp [Variables.depth]; omega
      next outside => rw [ih, Variables.depth]; omega

/-- Within one loop less are the variables outside. -/
theorem within_outer {bindings : Variables} {depth : Nat} (inside : depth < bindings.depth) :
    bindings.within depth = (bindings.within (depth + 1)).outer := by
  induction bindings with
  | root => exact absurd inside (Nat.not_lt_zero _)
  | loop layer outer ih =>
      have inside : depth ≤ outer.depth := Nat.le_of_lt_succ inside
      unfold within
      rw [if_neg (Nat.not_lt.mpr inside)]
      split
      next last => exact within_of_depth_le (Nat.le_of_lt_succ last)
      next further => exact ih (by omega)

theorem update_cons (bindings : Variables) (entry : String × Value) (fields : Fields) :
    bindings.update (entry :: fields) = (bindings.set entry.1 entry.2).update fields := rfl

theorem get?_update_other (bindings : Variables) {fields : Fields} {key : String}
    (others : ∀ entry ∈ fields, entry.1 ≠ key) :
    (bindings.update fields).get? key = bindings.get? key := by
  induction fields generalizing bindings with
  | nil => rfl
  | cons entry rest ih =>
      rw [update_cons, ih _ fun other found => others other (List.mem_cons_of_mem _ found)]
      exact get?_set_other _ _ (others entry List.mem_cons_self).symm

@[simp] theorem depth_update (bindings : Variables) (fields : Fields) :
    (bindings.update fields).depth = bindings.depth := by
  induction fields generalizing bindings with
  | nil => rfl
  | cons entry rest ih => rw [update_cons, ih, depth_set]

/-- Writing in a loop leaves the names of a loop outside it as they are. -/
theorem outer_update_local {bindings : Variables} (inside : bindings.depth ≠ 0) (fields : Fields)
    {name : String} (own : isLocal name) :
    (bindings.update fields).outer.get? name = bindings.outer.get? name := by
  induction fields generalizing bindings with
  | nil => rfl
  | cons entry rest ih =>
      rw [update_cons, ih (by simpa using inside), outer_set inside]
      split
      next => rfl
      next shared => exact get?_set_other _ _ fun same => shared (same ▸ own)

/-- What is written last under a name of the workflow stays. -/
theorem base_update_self {bindings : Variables} {front back : Fields} {name : String}
    {value : Value} (shared : isLocal name = false) (last : ∀ entry ∈ back, entry.1 ≠ name) :
    (bindings.update (front ++ (name, value) :: back)).base.get? name = some value := by
  have kept : ∀ (bindings : Variables) (fields : Fields), (∀ entry ∈ fields, entry.1 ≠ name) →
      (bindings.update fields).base.get? name = bindings.base.get? name := by
    intro bindings fields others
    induction fields generalizing bindings with
    | nil => rfl
    | cons entry rest ih =>
        rw [update_cons, ih _ fun other found => others other (List.mem_cons_of_mem _ found),
          base_set]
        split
        · rfl
        · exact Fields.get?_set_other _ _ (others entry List.mem_cons_self).symm
  unfold update
  rw [List.foldl_append, List.foldl_cons]
  refine (kept _ back last).trans ?_
  rw [base_set, if_neg (by simp [shared])]
  exact Fields.get?_set_self _ _ _

end Variables

end Orchestra
