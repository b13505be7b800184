import Orchestra.Path
import Orchestra.Json.Printer
import Orchestra.Text.Word

/-!
Placeholders in strings.

A placeholder is two opening braces, a body without closing braces, and two closing braces. It is
replaced by the text of the value at the path in its body. A placeholder whose path leads nowhere
stays as it is, and text that was put in is not looked at again.
-/

namespace Orchestra

/-- The text of a value inside a string: JSON for lists and objects, `null`, `true`, `false`. -/
def Value.interpolated : Value → String
  | .null => "null"
  | .bool b => if b then "true" else "false"
  | .list items => Json.print (.list items)
  | .obj fields => Json.print (.obj fields)
  | value => value.text

namespace Template

/-- A string as plain text and placeholders. -/
inductive Piece where
  | text (c : Char)
  | placeholder (body : List Char)
deriving DecidableEq, Repr

/-- The characters that a piece was read from. -/
def Piece.source : Piece → List Char
  | .text c => [c]
  | .placeholder body => '{' :: '{' :: body ++ ['}', '}']

/-- A placeholder at the start of a text: its body and what follows it. -/
def placeholder? : List Char → Option (List Char × List Char)
  | '{' :: '{' :: rest =>
    match rest.takeWhile (· != '}'), rest.dropWhile (· != '}') with
    | c :: body, '}' :: '}' :: tail => some (c :: body, tail)
    | _, _ => none
  | _ => none

theorem placeholder?_length {cs body tail : List Char} (found : placeholder? cs = some (body, tail)) :
    tail.length < cs.length := by
  unfold placeholder? at found
  split at found
  · rename_i rest
    split at found
    · rename_i c front after _ shape
      simp only [Option.some.injEq, Prod.mk.injEq] at found
      obtain ⟨-, rfl⟩ := found
      have shorter := (List.dropWhile_suffix (l := rest) (· != '}')).length_le
      rw [shape] at shorter
      simp only [List.length_cons] at shorter ⊢
      omega
    · simp at found
  · simp at found

/-- The pieces of a text: at each place the placeholder there, or one character. -/
def pieces (cs : List Char) : List Piece :=
  match _found : placeholder? cs with
  | some (body, tail) => .placeholder body :: pieces tail
  | none =>
    match cs with
    | [] => []
    | c :: rest => .text c :: pieces rest
termination_by cs.length
decreasing_by
  · exact placeholder?_length _found
  · simp

/-- What a piece becomes in a scope. -/
def Piece.resolve (scope : Value) : Piece → List Char
  | .text c => [c]
  | .placeholder body =>
    match scope.lookup? (String.ofList body) with
    | some value => value.interpolated.toList
    | none => (Piece.placeholder body).source

/-- A string with its placeholders replaced. -/
def resolveString (scope : Value) (s : String) : String :=
  String.ofList ((pieces s.toList).flatMap (Piece.resolve scope))

mutual

/-- Replaces the placeholders in all strings of a value, however deep; keys stay as they are. -/
def resolve (scope : Value) : Value → Value
  | .str s => .str (resolveString scope s)
  | .list items => .list (resolveItems scope items)
  | .obj fields => .obj (resolveFields scope fields)
  | value => value

def resolveItems (scope : Value) : List Value → List Value
  | [] => []
  | item :: rest => resolve scope item :: resolveItems scope rest

def resolveFields (scope : Value) : List (String × Value) → List (String × Value)
  | [] => []
  | (key, item) :: rest => (key, resolve scope item) :: resolveFields scope rest

end

mutual

/-- The integers in a value are short enough to be written. -/
def isShort : Value → Bool
  | .int n => n.natAbs < Nat.pow 10 Text.maxDigits
  | .list items => areShort items
  | .obj fields => fieldsAreShort fields
  | .record _ fields => fieldsAreShort fields
  | .scope layer parent => fieldsAreShort layer && isShort parent
  | _ => true

def areShort : List Value → Bool
  | [] => true
  | value :: rest => isShort value && areShort rest

def fieldsAreShort : List (String × Value) → Bool
  | [] => true
  | (_, value) :: rest => isShort value && fieldsAreShort rest

end

/-- What a piece becomes in a scope can be written. -/
def Piece.isWritable (scope : Value) : Piece → Bool
  | .text _ => true
  | .placeholder body => ((scope.lookup? (String.ofList body)).map isShort).getD true

mutual

/-- The values for all placeholders in a value can be written. -/
def isWritable (scope : Value) : Value → Bool
  | .str s => (pieces s.toList).all (Piece.isWritable scope)
  | .list items => areWritable scope items
  | .obj fields => fieldsAreWritable scope fields
  | _ => true

def areWritable (scope : Value) : List Value → Bool
  | [] => true
  | item :: rest => isWritable scope item && areWritable scope rest

def fieldsAreWritable (scope : Value) : List (String × Value) → Bool
  | [] => true
  | (_, item) :: rest => isWritable scope item && fieldsAreWritable scope rest

end

/-- The body of a text that is one placeholder as a whole. -/
def whole? (cs : List Char) : Option (List Char) :=
  match placeholder? cs with
  | some (body, []) => some body
  | _ => none

/-- Two opening braces occur in the text. -/
def hasOpening : List Char → Bool
  | '{' :: '{' :: _ => true
  | _ :: rest => hasOpening rest
  | [] => false

/-- The value that an expression stands for: a text that is one placeholder, or a bare path, is the
value found there; everything else has its placeholders replaced. -/
def resolveValue (scope : Value) (expression : Value) : Value :=
  match expression with
  | .str s =>
    let body := Text.trimChars s.toList
    match whole? body with
    | some path => scope.lookupD (String.ofList path) expression
    | none =>
      let bare := !body.isEmpty && !hasOpening body && !body.contains ' '
      match (if bare then scope.lookup? (String.ofList body) else none) with
      | some value => value
      | none => resolve scope expression
  | _ => resolve scope expression

/-- An expression leads to a value as it is, which is not written. -/
def standsForValue (scope : Value) : Value → Bool
  | .str s =>
    let body := Text.trimChars s.toList
    match whole? body with
    | some path => (scope.lookup? (String.ofList path)).isSome
    | none =>
      !body.isEmpty && !hasOpening body && !body.contains ' '
        && (scope.lookup? (String.ofList body)).isSome
  | _ => false

end Template

end Orchestra
