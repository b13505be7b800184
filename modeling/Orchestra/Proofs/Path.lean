import Orchestra.Path
import Orchestra.Proofs.Value.Json

/-!
What paths lead to.

A path that is made of keys and positions leads to the node that these lead to, null or not. A path
that is put together from two leads where the second leads from what the first leads to.
-/

namespace Orchestra

namespace Text

theorem splitOn_cons (separator c : Char) (cs : List Char) :
    (c :: cs).splitOn separator =
      if c == separator then [] :: cs.splitOn separator
      else (cs.splitOn separator).modifyHead (c :: ·) :=
  List.splitOnP_cons_eq_if_modifyHead c cs

/-- Neither the first nor the last character is white space. -/
def IsTrimmed (cs : List Char) : Prop :=
  (∀ c ∈ cs.head?, isBlank c = false) ∧ ∀ c ∈ cs.getLast?, isBlank c = false

instance (cs : List Char) : Decidable (IsTrimmed cs) :=
  decidable_of_iff (cs.head?.all (!isBlank ·) = true ∧ cs.getLast?.all (!isBlank ·) = true)
    (by simp [IsTrimmed, Option.all_eq_true])

theorem trimChars_of_trimmed {cs : List Char} (trimmed : IsTrimmed cs) : trimChars cs = cs := by
  have kept : ∀ {ds : List Char}, (∀ c ∈ ds.head?, isBlank c = false) →
      ds.dropWhile isBlank = ds := by
    intro ds leading
    cases ds with
    | nil => rfl
    | cons c rest => exact List.dropWhile_cons_of_neg (by simp [leading c rfl])
  rw [trimChars, kept trimmed.1, kept (by simpa using trimmed.2), List.reverse_reverse]

theorem IsTrimmed.join {first second : List Char} (front : IsTrimmed first)
    (back : IsTrimmed second) {c : Char} (solid : isBlank c = false) :
    IsTrimmed (first ++ c :: second) := by
  constructor
  · cases first with
    | nil => simpa using solid
    | cons => exact front.1
  · have trailing := back.2
    rw [List.getLast?_append, List.getLast?_cons]
    cases last : second.getLast? with
    | none => simpa using solid
    | some d => simpa [last] using trailing

section Digits

variable {c : Char} {cs : List Char}

theorem digitValue?_of_isDigit (digit : c.isDigit) :
    digitValue? c = some (c.toNat - '0'.toNat) := by
  have bounds := isDigit_bounds digit
  have first : (decide (48 ≤ c.toNat) && decide (c.toNat < 48 + 10)) = true := by
    simp
    omega
  simp only [digitValue?, digitZeros, List.find?_cons, first]
  rfl

theorem isDigit_of_isDigit (digit : c.isDigit) : isDigit c = true := by
  rw [isDigit, digitValue?_of_isDigit digit]
  rfl

theorem isIntegerBlank_of_isDigit (digit : c.isDigit) : isIntegerBlank c = false := by
  have bounds := isDigit_bounds digit
  simp only [isIntegerBlank, isBlank]
  simp
  omega

theorem readDigits_of_digits (digits : ∀ c ∈ cs, c.isDigit) (value : Nat) :
    readDigits value cs = some (Nat.ofDigitChars 10 cs value) := by
  induction cs generalizing value with
  | nil => rfl
  | cons c rest ih =>
      obtain ⟨digit, others⟩ := List.forall_mem_cons.mp digits
      have plain : c ≠ '_' := by
        rintro rfl
        exact absurd digit (by decide)
      rw [readDigits.eq_3 _ _ _ fun _ _ same _ => plain same, digitValue?_of_isDigit digit,
        Option.bind_some, ih others, Nat.ofDigitChars_cons]

theorem digitCount?_of_digits (digits : ∀ c ∈ cs, c.isDigit) :
    digitCount? true cs = some cs.length := by
  induction cs with
  | nil => rfl
  | cons c rest ih =>
      obtain ⟨digit, others⟩ := List.forall_mem_cons.mp digits
      rw [digitCount?, if_pos (isDigit_of_isDigit digit), ih others]
      rfl

theorem unpadded_of_digits (digits : ∀ c ∈ cs, c.isDigit) :
    ((cs.dropWhile isIntegerBlank).reverse.dropWhile isIntegerBlank).reverse = cs := by
  have kept : ∀ {ds : List Char}, (∀ c ∈ ds, c.isDigit) →
      ds.dropWhile isIntegerBlank = ds := by
    intro ds digits
    cases ds with
    | nil => rfl
    | cons c rest =>
        have solid := isIntegerBlank_of_isDigit (digits c List.mem_cons_self)
        exact List.dropWhile_cons_of_neg (by simp [solid])
  rw [kept digits, kept fun c member => digits c (List.mem_reverse.mp member),
    List.reverse_reverse]

theorem ne_sign_of_isDigit (digit : c.isDigit) : c ≠ '-' ∧ c ≠ '+' := by
  constructor <;> rintro rfl <;> exact absurd digit (by decide)

theorem digitCount?_unsignedText (digits : ∀ c ∈ cs, c.isDigit) (given : cs ≠ []) :
    digitCount? false (unsignedText cs) = some cs.length := by
  obtain ⟨c, rest, rfl⟩ := List.exists_cons_of_ne_nil given
  obtain ⟨digit, others⟩ := List.forall_mem_cons.mp digits
  have unsigned := ne_sign_of_isDigit digit
  have bare : unsignedText (c :: rest) = c :: rest := by
    rw [unsignedText, unpadded_of_digits digits]
    simp [unsigned]
  rw [bare, digitCount?, if_pos (isDigit_of_isDigit digit), digitCount?_of_digits others]
  rfl

/-- Digits without a sign are read as the number they write, unless there are too many of them. -/
theorem readBounded_of_digits (digits : ∀ c ∈ cs, c.isDigit) (given : cs ≠ [])
    (few : cs.length ≤ maxDigits) : readBounded cs = .ok (Nat.ofDigitChars 10 cs 0 : Nat) := by
  have count := digitCount?_unsignedText digits given
  obtain ⟨c, rest, rfl⟩ := List.exists_cons_of_ne_nil given
  obtain ⟨digit, others⟩ := List.forall_mem_cons.mp digits
  have unsigned := ne_sign_of_isDigit digit
  have read : readInteger (c :: rest) = some (Int.ofNat (Nat.ofDigitChars 10 (c :: rest) 0)) := by
    rw [readInteger, unpadded_of_digits digits, readSigned]
    · rw [readNatural, digitValue?_of_isDigit digit, Option.bind_some, readDigits_of_digits others]
      simp [Nat.ofDigitChars_cons]
    · exact fun _ same => unsigned.1 (List.head_eq_of_cons_eq same)
    · exact fun _ same => unsigned.2 (List.head_eq_of_cons_eq same)
  rw [readBounded, count]
  simp only [if_neg (Nat.not_lt.mpr few), read]
  rfl

theorem readBounded_of_many (digits : ∀ c ∈ cs, c.isDigit) (many : maxDigits < cs.length) :
    readBounded cs = .error (.tooLong cs.length) := by
  have given : cs ≠ [] := List.ne_nil_of_length_pos (Nat.lt_of_le_of_lt (Nat.zero_le _) many)
  rw [readBounded, digitCount?_unsignedText digits given]
  exact if_pos many

theorem readBounded_naturalText {n : Nat} (few : n < 10 ^ maxDigits) :
    readBounded (naturalText n) = .ok (n : Int) := by
  have digits : ∀ c ∈ naturalText n, c.isDigit := fun c member =>
    Nat.isDigit_of_mem_toDigits (by decide) (Nat.le_refl _) member
  have length : (naturalText n).length ≤ maxDigits := by
    rw [naturalText, Nat.length_toDigits_le_iff (by decide) (by decide)]
    exact few
  rw [readBounded_of_digits digits Nat.toDigits_ne_nil length]
  simp only [naturalText, Nat.ofDigitChars_ten_toDigits]

end Digits

end Text

namespace Path

/-- A step from a value to a part of it. -/
inductive Step where
  | key (name : String)
  | position (index : Nat)

/-- A step as a path writes it. -/
def Step.text : Step → String
  | .key name => name
  | .position index => String.ofList (Text.naturalText index)

/-- The path that writes some steps one after the other. -/
def dotted (steps : List Step) : String :=
  ".".intercalate (steps.map Step.text)

/-- The node of a value to which keys without dots and positions lead. -/
inductive Reaches : Value → List Step → Value → Prop
  | here (value : Value) : Reaches value [] value
  | key {fields : Fields} {name : String} {next node : Value} {steps : List Step}
      (member : (name, next) ∈ fields) (plain : '.' ∉ name.toList)
      (further : Reaches next steps node) : Reaches (.obj fields) (.key name :: steps) node
  | position {items : List Value} {index : Nat} {next node : Value} {steps : List Step}
      (member : items[index]? = some next) (further : Reaches next steps node) :
      Reaches (.list items) (.position index :: steps) node

variable {value node : Value} {steps : List Step}

theorem Reaches.plain (reaches : Reaches value steps node) :
    ∀ step ∈ steps, '.' ∉ step.text.toList := by
  induction reaches with
  | here => simp
  | key _ plain _ ih => exact List.forall_mem_cons.mpr ⟨plain, ih⟩
  | position _ _ ih =>
      refine List.forall_mem_cons.mpr ⟨fun dot => ?_, ih⟩
      rw [Step.text, String.toList_ofList] at dot
      have digit : '.'.isDigit := Nat.isDigit_of_mem_toDigits (by decide) (Nat.le_refl _) dot
      exact absurd digit (by decide)

theorem splitDots_eq (cs : List Char) : splitDots cs = cs.splitOn '.' := by
  induction cs with
  | nil => rfl
  | cons c rest ih =>
      have some : splitDots rest ≠ [] := ih ▸ List.splitOnP_ne_nil _ rest
      obtain ⟨part, parts, cut⟩ := List.exists_cons_of_ne_nil some
      rw [Text.splitOn_cons, ← ih, splitDots, cut]
      rfl

theorem parts_of_trimmed {path : String} (trimmed : Text.IsTrimmed path.toList) :
    parts path = (path.toList.splitOn '.').map String.ofList := by
  rw [parts, Text.trimChars_of_trimmed trimmed, splitDots_eq]

theorem parts_ne_nil (path : String) : parts path ≠ [] := by
  rw [parts, splitDots_eq]
  exact fun none => List.splitOnP_ne_nil _ _ (List.map_eq_nil_iff.mp none)

/-- Steps that were written as a path are its parts. -/
theorem parts_dotted (plain : ∀ step ∈ steps, '.' ∉ step.text.toList) (some : steps ≠ [])
    (trimmed : Text.IsTrimmed (dotted steps).toList) :
    parts (dotted steps) = steps.map Step.text := by
  have texts : (dotted steps).toList =
      ['.'].intercalate ((steps.map Step.text).map String.toList) := by
    rw [dotted, String.toList_intercalate]
    rfl
  rw [parts_of_trimmed trimmed, texts, List.splitOn_intercalate]
  · simp
  · simpa using plain
  · simpa using some

theorem parts_join {first second : String} (front : Text.IsTrimmed first.toList)
    (back : Text.IsTrimmed second.toList) :
    parts (first ++ "." ++ second) = parts first ++ parts second := by
  have whole : (first ++ "." ++ second).toList = first.toList ++ '.' :: second.toList := by
    simp
  have trimmed : Text.IsTrimmed (first ++ "." ++ second).toList := by
    rw [whole]
    exact front.join back (by decide)
  rw [parts_of_trimmed trimmed, parts_of_trimmed front, parts_of_trimmed back, whole,
    ← List.map_append]
  exact congrArg _ (List.splitOnP_append_cons _ _ (beq_self_eq_true '.'))

theorem item?_natCast (items : List Value) (index : Nat) : item? items index = items[index]? := by
  simp [item?]

/-- A position in a list is written with few enough digits to be read. -/
theorem readBounded_position {items : List Value} {index : Nat}
    (countable : items.length < 2 ^ 63) (member : items[index]? = some value) :
    Text.readBounded (Text.naturalText index) = .ok (index : Int) := by
  obtain ⟨inside, -⟩ := List.getElem?_eq_some_iff.mp member
  refine Text.readBounded_naturalText ?_
  calc index < 2 ^ 63 := Nat.lt_trans inside countable
    _ ≤ 10 ^ 63 := by decide
    _ ≤ 10 ^ Text.maxDigits := Nat.pow_le_pow_right (by decide) (by decide)

theorem walk_of_reaches (json : value.IsJson) (reaches : Reaches value steps node) :
    walk value (steps.map Step.text) = some node := by
  induction reaches with
  | here => rfl
  | key member _ _ ih =>
      cases json with
      | obj distinct each =>
          have found := Fields.lookup_of_mem distinct member
          rw [List.map_cons, walk, step?, Step.text, found, Option.bind_some, ih (each _ member)]
  | position member _ ih =>
      cases json with
      | list countable each =>
          have read := readBounded_position countable member
          rw [List.map_cons, walk, step?, Step.text, String.toList_ofList, read]
          show (item? _ _).bind _ = _
          rw [item?_natCast, member, Option.bind_some, ih (each _ (List.mem_of_getElem? member))]

theorem walk_append (value : Value) (first second : List String) :
    walk value (first ++ second) = (walk value first).bind fun next => walk next second := by
  induction first generalizing value with
  | nil => rfl
  | cons part rest ih => simp only [List.cons_append, walk, Option.bind_assoc, ih]

/-- Nothing lies beyond null. -/
theorem lookup?_null (path : String) : Value.null.lookup? path = none := by
  obtain ⟨part, rest, cut⟩ := List.exists_cons_of_ne_nil (parts_ne_nil path)
  rw [Value.lookup?, cut]
  rfl

/-- A node of JSON data is found under the path that writes the steps to it, whatever the default is.
A path in two parts leads where its second part leads from the end of the first. -/
theorem lookup_follows_steps :
    (∀ (value node default : Value) (steps : List Step), value.IsJson →
      Reaches value steps node → steps ≠ [] → Text.IsTrimmed (dotted steps).toList →
      value.lookupD (dotted steps) default = node) ∧
    ∀ (scope : Value) (first second : String),
      Text.IsTrimmed first.toList → Text.IsTrimmed second.toList →
      scope.lookupD (first ++ "." ++ second) .null =
        (scope.lookupD first .null).lookupD second .null := by
  constructor
  · intro value node default steps json reaches some trimmed
    rw [Value.lookupD, Value.lookup?, parts_dotted reaches.plain some trimmed,
      walk_of_reaches json reaches, Option.getD_some]
  · intro scope first second front back
    have whole : scope.lookup? (first ++ "." ++ second) =
        (scope.lookup? first).bind fun next => next.lookup? second := by
      rw [Value.lookup?, parts_join front back, walk_append]
      rfl
    simp only [Value.lookupD, whole]
    cases scope.lookup? first with
    | none => rw [Option.bind_none, Option.getD_none, lookup?_null, Option.getD_none]
    | some next => rw [Option.bind_some, Option.getD_some]

/-- A list with null and an object in it, under a key with a blank. -/
def nestedNull : Value :=
  .obj [("a b", .list [.obj [("", .int 7)], .null])]

/-- Null is found at its place, and beyond it is nothing. -/
theorem nestedNull_followed :
    dotted [.key "a b", .position 1] = "a b.1" ∧
    nestedNull.lookupD (dotted [.key "a b", .position 1]) (.int 0) = .null ∧
    nestedNull.lookupD (dotted [.key "a b", .position 0, .key ""]) .null = .int 7 ∧
    nestedNull.lookupD ("a b.1" ++ "." ++ "c.d") .null =
      (nestedNull.lookupD "a b.1" .null).lookupD "c.d" .null := by
  have json : nestedNull.IsJson := by
    refine .obj (by decide) fun _ member => ?_
    obtain rfl := List.mem_singleton.mp member
    refine .list (by decide) fun item member => ?_
    obtain rfl | rfl : item = _ ∨ item = _ := by simpa using member
    · refine .obj (by decide) fun _ member => ?_
      obtain rfl := List.mem_singleton.mp member
      exact .int 7
    · exact .null
  have null : Reaches nestedNull [.key "a b", .position 1] .null :=
    .key (.head _) (by decide) (.position rfl (.here _))
  have seven : Reaches nestedNull [.key "a b", .position 0, .key ""] (.int 7) :=
    .key (.head _) (by decide) (.position rfl (.key (.head _) (by decide) (.here _)))
  exact ⟨by decide, lookup_follows_steps.1 _ _ (.int 0) _ json null (by simp) (by decide),
    lookup_follows_steps.1 _ _ .null _ json seven (by simp) (by decide),
    lookup_follows_steps.2 nestedNull "a b.1" "c.d" (by decide) (by decide)⟩

end Path

end Orchestra
