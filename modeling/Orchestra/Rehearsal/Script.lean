/-!
Scripts: answers that are given in order, the last one for ever.
-/

namespace Orchestra.Rehearsal

namespace Script

/-- The next answer, and the script after it. -/
def next {α : Type} : List α → Option α × List α
  | [] => (none, [])
  | [answer] => (some answer, [answer])
  | answer :: rest => (some answer, rest)

@[simp] theorem next_last {α : Type} (answer : α) : next [answer] = (some answer, [answer]) := rfl

end Script

/-- Scripts under names, and perhaps one for all other names. -/
abbrev Scripts (α : Type) := List (String × List α)

namespace Scripts

/-- The name of the script for all names without one of their own. -/
def others : String := "*"

/-- Replaces the script of a name. -/
def put {α : Type} (name : String) (script : List α) (scripts : Scripts α) : Scripts α :=
  scripts.map fun entry => if entry.1 == name then (name, script) else entry

/-- The next answer for a name. -/
def next {α : Type} (scripts : Scripts α) (name : String) : Option α × Scripts α :=
  let key := if scripts.any (·.1 == name) then name else others
  match scripts.lookup key with
  | none => (none, scripts)
  | some script =>
    let (answer, script) := Script.next script
    (answer, scripts.put key script)

end Scripts

end Orchestra.Rehearsal
