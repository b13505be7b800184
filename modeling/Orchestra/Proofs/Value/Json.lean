import Mathlib.Algebra.Group.Nat.Defs
import Orchestra.Value.Basic

/-!
Values that are read from JSON.
-/

namespace Orchestra

/-- With distinct names every entry of an object is found under its name. -/
theorem Fields.lookup_of_mem {fields : Fields} (distinct : fields.keys.Nodup) {key : String}
    {value : Value} (member : (key, value) ∈ fields) : fields.lookup key = some value := by
  induction fields with
  | nil => cases member
  | cons entry rest ih =>
      obtain ⟨fresh, distinct⟩ := List.nodup_cons.mp distinct
      rcases List.mem_cons.mp member with rfl | later
      · simp
      · have other : key ≠ entry.1 := fun same =>
          fresh (same ▸ List.mem_map_of_mem (f := Prod.fst) later)
        rw [List.lookup_cons, beq_eq_false_iff_ne.mpr other]
        exact ih distinct later

theorem Fields.mem_of_lookup {fields : Fields} {key : String} {value : Value}
    (found : fields.lookup key = some value) : (key, value) ∈ fields := by
  obtain ⟨front, back, whole, -⟩ := List.lookup_eq_some_iff.mp found
  simp [whole]

namespace Value

/-- Data as they are read from JSON: the keys of an object are distinct, and a list has no more items
than a word counts. Only doubles of some kind occur. -/
inductive IsDataWith (admitted : Float → Prop) : Value → Prop
  | null : IsDataWith admitted .null
  | bool (b : Bool) : IsDataWith admitted (.bool b)
  | int (n : Int) : IsDataWith admitted (.int n)
  | float {x : Float} (fits : admitted x) : IsDataWith admitted (.float x)
  | str (s : String) : IsDataWith admitted (.str s)
  | list {items : List Value} (countable : items.length < 2 ^ 63)
      (each : ∀ item ∈ items, IsDataWith admitted item) : IsDataWith admitted (.list items)
  | obj {fields : Fields} (distinct : fields.keys.Nodup)
      (each : ∀ entry ∈ fields, IsDataWith admitted entry.2) : IsDataWith admitted (.obj fields)

/-- Induction over data, from the items of a list and the values of an object. -/
@[elab_as_elim]
theorem IsDataWith.induct {admitted : Float → Prop}
    {motive : (value : Value) → IsDataWith admitted value → Prop}
    (leaf : ∀ value (json : IsDataWith admitted value), (∀ items, value ≠ .list items) →
      (∀ fields, value ≠ .obj fields) → motive value json)
    (list : ∀ items (json : IsDataWith admitted (.list items))
      (each : ∀ item ∈ items, IsDataWith admitted item),
      (∀ item (member : item ∈ items), motive item (each item member)) →
        motive (.list items) json)
    (obj : ∀ fields (json : IsDataWith admitted (.obj fields))
      (each : ∀ entry ∈ fields, IsDataWith admitted entry.2),
      (∀ entry (member : entry ∈ fields), motive entry.2 (each entry member)) →
      motive (.obj fields) json)
    (value : Value) (json : IsDataWith admitted value) : motive value json := by
  induction json with
  | null => exact leaf _ .null nofun nofun
  | bool b => exact leaf _ (.bool b) nofun nofun
  | int n => exact leaf _ (.int n) nofun nofun
  | float fits => exact leaf _ (.float fits) nofun nofun
  | str s => exact leaf _ (.str s) nofun nofun
  | list countable each ih => exact list _ (.list countable each) each ih
  | obj distinct each ih => exact obj _ (.obj distinct each) each ih

/-- Data with any doubles. -/
abbrev IsJson : Value → Prop :=
  IsDataWith fun _ => True

/-- Data without not-a-number. -/
abbrev IsOrdinary : Value → Prop :=
  IsDataWith fun x => x.isNaN = false

end Value

end Orchestra
