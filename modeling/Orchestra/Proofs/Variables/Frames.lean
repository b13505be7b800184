import Orchestra.Failure
import Orchestra.Proofs.Variables

/-!
The variables of nested loops as a stack of frames over the variables of the workflow.

A frame holds `item` and `index` of one loop. They are read from the innermost frame that still has
them, then from the workflow, and written and removed in the innermost frame alone. All other names
are the workflow's.
-/

namespace Orchestra

namespace Fields

theorem get?_cons (key : String) (value : Value) (rest : Fields) (name : String) :
    get? ((key, value) :: rest) name = if name = key then some value else get? rest name := by
  by_cases same : name = key
  · simp [get?, same]
  · simp [get?, List.lookup_cons, same, beq_eq_false_iff_ne.mpr same]

theorem get?_eq_none_iff {fields : Fields} {name : String} :
    fields.get? name = none ↔ name ∉ fields.keys := by
  induction fields with
  | nil => simp [get?, keys]
  | cons entry rest ih =>
      obtain ⟨key, value⟩ := entry
      rw [get?_cons]
      by_cases same : name = key
      · simp [keys, same]
      · simpa [keys, same] using ih

theorem has_iff {fields : Fields} {name : String} : fields.has name ↔ name ∈ fields.keys := by
  rw [has, Option.isSome_iff_ne_none, ne_eq, get?_eq_none_iff, Decidable.not_not]

theorem keys_set (fields : Fields) (name : String) (value : Value) :
    (fields.set name value).keys =
      if name ∈ fields.keys then fields.keys else fields.keys ++ [name] := by
  induction fields with
  | nil => rfl
  | cons entry rest ih =>
      obtain ⟨key, old⟩ := entry
      have after : (set ((key, old) :: rest) name value).keys =
          if key = name then key :: keys rest else key :: (set rest name value).keys := by
        by_cases same : key = name <;> simp [set, keys, same]
      rw [after, ih]
      show _ = if name ∈ key :: keys rest then key :: keys rest else key :: keys rest ++ [name]
      by_cases same : key = name
      · simp [same]
      · by_cases found : name ∈ keys rest <;> simp [same, Ne.symm same, found]

theorem nodup_keys_set {fields : Fields} (once : fields.keys.Nodup) (name : String)
    (value : Value) : (fields.set name value).keys.Nodup := by
  rw [keys_set]
  split
  next => exact once
  next missing =>
    refine List.nodup_append.mpr ⟨once, by simp, fun key found other single => ?_⟩
    rw [List.mem_singleton.mp single]
    rintro rfl
    exact missing found

theorem keys_erase (fields : Fields) (name : String) :
    (fields.erase name).keys = fields.keys.filter (· != name) := by
  simp only [erase, keys, List.filter_map]
  rfl

theorem get?_erase_other (fields : Fields) {name key : String} (other : key ≠ name) :
    (fields.erase name).get? key = fields.get? key := by
  induction fields with
  | nil => rfl
  | cons entry rest ih =>
      obtain ⟨first, value⟩ := entry
      unfold erase at ih
      by_cases same : first = name
      · simp [erase, same, get?_cons, other, ih]
      · simp [erase, same, get?_cons, ih]

theorem get?_overlay (fields : Fields) {more : Fields} (once : more.keys.Nodup) (name : String) :
    (fields.overlay more).get? name = (more.get? name).or (fields.get? name) := by
  induction more generalizing fields with
  | nil => rfl
  | cons entry rest ih =>
      obtain ⟨key, value⟩ := entry
      obtain ⟨fresh, once⟩ := List.nodup_cons.mp once
      show (overlay (fields.set key value) rest).get? name = _
      rw [ih _ once, get?_cons]
      by_cases same : name = key
      · subst same
        rw [get?_eq_none_iff.mpr fresh, get?_set_self, if_pos rfl]
        rfl
      · rw [get?_set_other _ _ same, if_neg same]

theorem keys_overlay (fields : Fields) {more : Fields} (once : more.keys.Nodup) :
    (fields.overlay more).keys =
      fields.keys ++ more.keys.filter fun key => !fields.keys.contains key := by
  induction more generalizing fields with
  | nil => simp [overlay, keys]
  | cons entry rest ih =>
      obtain ⟨key, value⟩ := entry
      obtain ⟨fresh, once⟩ := List.nodup_cons.mp once
      show (overlay (fields.set key value) rest).keys =
        fields.keys ++ (key :: keys rest).filter fun other => !fields.keys.contains other
      rw [ih _ once, keys_set]
      by_cases known : key ∈ fields.keys
      · simp [known]
      · have apart : (keys rest).filter (fun other => !(fields.keys ++ [key]).contains other) =
            (keys rest).filter fun other => !fields.keys.contains other := by
          refine List.filter_congr fun other found => ?_
          have unlike : other ≠ key := fun same => fresh (same ▸ found)
          simp [unlike]
        rw [if_neg known, apart]
        simp [known]

end Fields

namespace Variables

/-- What is done with variables. -/
inductive Use where
  | set (name : String) (value : Value)
  | erase (name : String)
  | get (name : String)
  | has (name : String)
  | names
  | update (fields : Fields)
  | setDefault (name : String) (value : Value)

/-- There is no such name. -/
def absent (name : String) : Failure :=
  .foreign .key (Value.str name).literal

/-- The answer to a use, and the variables after it. -/
def perform (bindings : Variables) : Use → Except Failure Value × Variables
  | .set name value => (.ok .null, bindings.set name value)
  | .erase name =>
    match bindings.erase? name with
    | some rest => (.ok .null, rest)
    | none => (.error (absent name), bindings)
  | .get name =>
    match bindings.get? name with
    | some value => (.ok value, bindings)
    | none => (.error (absent name), bindings)
  | .has name => (.ok (.bool (bindings.has name)), bindings)
  | .names => (.ok (.list (bindings.entries.keys.map .str)), bindings)
  | .update fields => (.ok .null, bindings.update fields)
  | .setDefault name value =>
    let (found, after) := bindings.setDefault name value
    (.ok found, after)

/-- The answers to uses one after the other, and the variables after the last one. -/
def run (bindings : Variables) : List Use → List (Except Failure Value) × Variables
  | [] => ([], bindings)
  | use :: rest =>
    let (answer, after) := bindings.perform use
    let (answers, last) := after.run rest
    (answer :: answers, last)

/-- The variables in nested loops, of which the innermost comes first. -/
def nested (root : Fields) : List (Value × Value) → Variables
  | [] => .root root
  | (item, index) :: outside => .loop [("item", item), ("index", index)] (nested root outside)

theorem iterate_nested (root : Fields) (loops : List (Value × Value)) (item : Value) (index : Nat) :
    (nested root loops).iterate item index = nested root ((item, .int index) :: loops) := rfl

/-- The names of one loop. -/
structure Frame where
  fields : Fields
  own : ∀ name ∈ fields.keys, isLocal name
  once : fields.keys.Nodup

namespace Frame

def start (item index : Value) : Frame where
  fields := [("item", item), ("index", index)]
  own := by simp [Fields.keys, isLocal]
  once := by simp [Fields.keys]

def set (frame : Frame) (name : String) (own : isLocal name) (value : Value) : Frame where
  fields := frame.fields.set name value
  own key found := by
    rw [Fields.keys_set] at found
    split at found
    next => exact frame.own key found
    next =>
      rcases List.mem_append.mp found with old | new
      · exact frame.own key old
      · exact List.mem_singleton.mp new ▸ own
  once := Fields.nodup_keys_set frame.once name value

def erase (frame : Frame) (name : String) : Frame where
  fields := frame.fields.erase name
  own key found := by
    rw [Fields.keys_erase] at found
    exact frame.own key (List.mem_filter.mp found).1
  once := by
    rw [Fields.keys_erase]
    exact frame.once.filter _

theorem get?_shared (frame : Frame) {name : String} (shared : isLocal name = false) :
    frame.fields.get? name = none := by
  refine Fields.get?_eq_none_iff.mpr fun found => ?_
  rw [frame.own name found] at shared
  cases shared

end Frame

/-- The frames of nested loops over the variables of the workflow. -/
structure Frames where
  inner : Frame
  /-- The frames of the loops around the innermost one, outwards. -/
  outer : List Frame
  root : Fields

namespace Frames

def start (root : Fields) (item index : Value) (outside : List (Value × Value)) : Frames where
  inner := .start item index
  outer := outside.map fun entry => .start entry.1 entry.2
  root := root

def read (frames : Frames) (name : String) : Option Value :=
  if isLocal name then
    ((frames.inner :: frames.outer).findSome? fun frame => frame.fields.get? name).or
      (frames.root.get? name)
  else frames.root.get? name

def write (frames : Frames) (name : String) (value : Value) : Frames :=
  if own : isLocal name then { frames with inner := frames.inner.set name own value }
  else { frames with root := frames.root.set name value }

def remove? (frames : Frames) (name : String) : Option Frames :=
  if isLocal name then
    if name ∈ frames.inner.fields.keys then some { frames with inner := frames.inner.erase name }
    else none
  else if name ∈ frames.root.keys then some { frames with root := frames.root.erase name }
  else none

/-- The names of the workflow, then those of each frame inwards that are not there yet. -/
def names (frames : Frames) : List String :=
  (frames.inner :: frames.outer).foldr
    (fun frame known => known ++ frame.fields.keys.filter fun name => !known.contains name)
    frames.root.keys

/-- The answer to a use, and the frames after it. -/
def perform (frames : Frames) : Use → Except Failure Value × Frames
  | .set name value => (.ok .null, frames.write name value)
  | .erase name =>
    match frames.remove? name with
    | some rest => (.ok .null, rest)
    | none => (.error (absent name), frames)
  | .get name =>
    match frames.read name with
    | some value => (.ok value, frames)
    | none => (.error (absent name), frames)
  | .has name => (.ok (.bool (frames.read name).isSome), frames)
  | .names => (.ok (.list (frames.names.map .str)), frames)
  | .update fields =>
    (.ok .null, fields.foldl (fun after entry => after.write entry.1 entry.2) frames)
  | .setDefault name value =>
    match frames.read name with
    | some found => (.ok found, frames)
    | none => (.ok value, frames.write name value)

def run (frames : Frames) : List Use → List (Except Failure Value) × Frames
  | [] => ([], frames)
  | use :: rest =>
    let (answer, after) := frames.perform use
    let (answers, last) := after.run rest
    (answer :: answers, last)

end Frames

/-- The variables of a workflow within frames, of which the innermost comes first. -/
def framed (root : Fields) : List Frame → Variables
  | [] => .root root
  | frame :: outside => .loop frame.fields (framed root outside)

/-- The frames as the variables that they stand for. -/
def Frames.toVariables (frames : Frames) : Variables :=
  framed frames.root (frames.inner :: frames.outer)

theorem toVariables_start (root : Fields) (item index : Value) (outside : List (Value × Value)) :
    (Frames.start root item index outside).toVariables = nested root ((item, index) :: outside) := by
  have around : framed root (outside.map fun entry => Frame.start entry.1 entry.2) =
      nested root outside := by
    induction outside with
    | nil => rfl
    | cons entry rest ih => exact congrArg (Variables.loop _) ih
  exact congrArg (Variables.loop _) around

section Shared

variable {root : Fields} {name : String} (shared : isLocal name = false)
include shared

theorem get?_framed_shared (frames : List Frame) :
    (framed root frames).get? name = root.get? name := by
  induction frames with
  | nil => rfl
  | cons frame outside ih =>
      show (frame.fields.get? name).or _ = _
      rw [frame.get?_shared shared, ih]
      rfl

theorem set_framed_shared (frames : List Frame) (value : Value) :
    (framed root frames).set name value = framed (root.set name value) frames := by
  induction frames with
  | nil => rfl
  | cons frame outside ih => simp [framed, set, shared, ih]

theorem erase?_framed_shared (frames : List Frame) :
    (framed root frames).erase? name =
      if name ∈ root.keys then some (framed (root.erase name) frames) else none := by
  induction frames with
  | nil => simp only [framed, erase?, Fields.has_iff]
  | cons frame outside ih =>
      simp only [framed, erase?, shared, Bool.false_eq_true, if_false, ih]
      split <;> rfl

end Shared

theorem get?_framed_local {root : Fields} {name : String} (frames : List Frame) :
    (framed root frames).get? name =
      (frames.findSome? fun frame => frame.fields.get? name).or (root.get? name) := by
  induction frames with
  | nil => rfl
  | cons frame outside ih =>
      show (frame.fields.get? name).or _ = _
      rw [ih]
      cases found : frame.fields.get? name <;> simp [found]

namespace Frames

theorem get?_toVariables (frames : Frames) (name : String) :
    frames.toVariables.get? name = frames.read name := by
  unfold read
  split
  next => exact get?_framed_local _
  next shared => exact get?_framed_shared (Bool.eq_false_iff.mpr shared) _

theorem set_toVariables (frames : Frames) (name : String) (value : Value) :
    frames.toVariables.set name value = (frames.write name value).toVariables := by
  unfold write
  split
  next own => simp [toVariables, framed, Variables.set, own, Frame.set]
  next shared => exact set_framed_shared (Bool.eq_false_iff.mpr shared) _ value

theorem erase?_toVariables (frames : Frames) (name : String) :
    frames.toVariables.erase? name = (frames.remove? name).map toVariables := by
  unfold remove?
  split
  next own =>
    simp only [toVariables, framed, erase?, own, if_true, Fields.has_iff]
    split <;> rfl
  next shared =>
    rw [toVariables, erase?_framed_shared (Bool.eq_false_iff.mpr shared)]
    split <;> rfl

theorem update_toVariables (frames : Frames) (fields : Fields) :
    frames.toVariables.update fields =
      (fields.foldl (fun after entry => after.write entry.1 entry.2) frames).toVariables := by
  induction fields generalizing frames with
  | nil => rfl
  | cons entry rest ih =>
      rw [update_cons, set_toVariables]
      exact ih _

theorem entries_toVariables (frames : Frames) :
    frames.toVariables.entries.keys = frames.names ∧
      ∀ name, frames.toVariables.entries.get? name = frames.read name := by
  have keys (list : List Frame) : (framed frames.root list).entries.keys =
      list.foldr (fun frame known => known ++ frame.fields.keys.filter fun name =>
        !known.contains name) frames.root.keys := by
    induction list with
    | nil => rfl
    | cons frame outside ih =>
        show (Fields.overlay _ _).keys = _
        rw [Fields.keys_overlay _ frame.once, ih]
        rfl
  have values (list : List Frame) (name : String) :
      (framed frames.root list).entries.get? name = (framed frames.root list).get? name := by
    induction list with
    | nil => rfl
    | cons frame outside ih =>
        show (Fields.overlay _ _).get? name = (frame.fields.get? name).or _
        rw [Fields.get?_overlay _ frame.once, ih]
  exact ⟨keys _, fun name => (values _ name).trans (frames.get?_toVariables name)⟩

/-- A use of the variables is the same use of the frames. -/
theorem perform_toVariables (frames : Frames) (use : Use) :
    frames.toVariables.perform use =
      ((frames.perform use).1, (frames.perform use).2.toVariables) := by
  cases use with
  | set name value => exact congrArg (Prod.mk _) (frames.set_toVariables name value)
  | erase name =>
      simp only [Variables.perform, perform, erase?_toVariables]
      cases frames.remove? name <;> rfl
  | get name =>
      simp only [Variables.perform, perform, get?_toVariables]
      cases frames.read name <;> rfl
  | has name => simp only [Variables.perform, perform, Variables.has, get?_toVariables]
  | names => simp only [Variables.perform, perform, entries_toVariables]
  | update fields => exact congrArg (Prod.mk _) (frames.update_toVariables fields)
  | setDefault name value =>
      simp only [Variables.perform, perform, setDefault, get?_toVariables]
      cases frames.read name with
      | some found => rfl
      | none => exact congrArg (Prod.mk _) (frames.set_toVariables name value)

theorem run_toVariables (frames : Frames) (uses : List Use) :
    frames.toVariables.run uses = ((frames.run uses).1, (frames.run uses).2.toVariables) := by
  induction uses generalizing frames with
  | nil => rfl
  | cons use rest ih => simp only [Variables.run, run, perform_toVariables, ih]

/-- Frames that differ in the innermost one and in what is the workflow's alone. -/
structure Apart (before after : Frames) : Prop where
  outer : after.outer = before.outer
  root : ∀ name, isLocal name → after.root.get? name = before.root.get? name

theorem Apart.refl (frames : Frames) : frames.Apart frames :=
  ⟨rfl, fun _ _ => rfl⟩

theorem Apart.trans {first second third : Frames} (before : first.Apart second)
    (after : second.Apart third) : first.Apart third :=
  ⟨after.outer.trans before.outer, fun name own => (after.root name own).trans (before.root name own)⟩

theorem apart_write (frames : Frames) (name : String) (value : Value) :
    frames.Apart (frames.write name value) := by
  unfold write
  split
  next => exact ⟨rfl, fun _ _ => rfl⟩
  next shared =>
    exact ⟨rfl, fun key own => Fields.get?_set_other _ _ fun same => shared (same ▸ own)⟩

theorem apart_remove {frames after : Frames} {name : String}
    (removed : frames.remove? name = some after) : frames.Apart after := by
  unfold remove? at removed
  split at removed
  next =>
    split at removed
    next =>
      cases removed
      exact ⟨rfl, fun _ _ => rfl⟩
    next => cases removed
  next shared =>
    split at removed
    next =>
      cases removed
      refine ⟨rfl, fun key own => Fields.get?_erase_other _ fun same => shared (same ▸ own)⟩
    next => cases removed

theorem apart_perform (frames : Frames) (use : Use) : frames.Apart (frames.perform use).2 := by
  cases use with
  | set name value => exact frames.apart_write name value
  | erase name =>
      simp only [perform]
      cases removed : frames.remove? name with
      | none => exact .refl frames
      | some after => exact apart_remove removed
  | get name =>
      simp only [perform]
      cases frames.read name <;> exact .refl frames
  | has name | names => exact .refl frames
  | update fields =>
      show frames.Apart (fields.foldl _ frames)
      induction fields generalizing frames with
      | nil => exact .refl frames
      | cons entry rest ih => exact (frames.apart_write entry.1 entry.2).trans (ih _)
  | setDefault name value =>
      simp only [perform]
      cases frames.read name with
      | some found => exact .refl frames
      | none => exact frames.apart_write name value

theorem apart_run (frames : Frames) (uses : List Use) : frames.Apart (frames.run uses).2 := by
  induction uses generalizing frames with
  | nil => exact .refl frames
  | cons use rest ih => exact (frames.apart_perform use).trans (ih _)

end Frames

/-- The variables of nested loops answer every use, and end up, as frames over the variables of the
workflow do; no use of the innermost loop changes the frame of another loop, or what the workflow has
under the names of a loop. -/
theorem nested_loops_are_frames (root : Fields) (item index : Value)
    (outside : List (Value × Value)) (uses : List Use) :
    let start := Frames.start root item index outside
    let last := (start.run uses).2
    (nested root ((item, index) :: outside)).run uses = ((start.run uses).1, last.toVariables) ∧
    last.toVariables.entries.keys = last.names ∧
    (∀ name, last.toVariables.entries.get? name = last.read name) ∧
    last.outer = start.outer ∧
    ∀ name, isLocal name → last.root.get? name = root.get? name := by
  intro start last
  obtain ⟨keys, values⟩ := last.entries_toVariables
  have apart : start.Apart last := start.apart_run uses
  refine ⟨?_, keys, values, apart.outer, apart.root⟩
  rw [← toVariables_start]
  exact start.run_toVariables uses

end Variables

end Orchestra
