import Mathlib.Data.List.TakeWhile
import Orchestra.Template
import Mathlib.Data.List.Forall2

/-!
Where the placeholders of a text are, and what becomes of them.

A text is cut from the left: each placeholder is the first one that begins at or after the end of the
one before. The cut is unique, it is what a text is read as, and the end of a placeholder never
depends on what follows it. The text becomes what its cut says: each placeholder gives way to the
text of the value that its path leads to, or stays, and all else is copied. Lists and objects are
gone through place by place.
-/

namespace Orchestra.Template

/-- The body of a placeholder. -/
def IsBody (body : List Char) : Prop :=
  body ≠ [] ∧ '}' ∉ body

instance : DecidablePred IsBody := fun _ => inferInstanceAs (Decidable (_ ∧ _))

/-- A body between its braces. -/
def braced (body : List Char) : List Char :=
  '{' :: '{' :: body ++ ['}', '}']

/-- A placeholder begins a text. -/
def Opens (text : List Char) : Prop :=
  ∃ body tail, IsBody body ∧ text = braced body ++ tail

/-- No placeholder begins within a text that something follows. -/
def Clear (text after : List Char) : Prop :=
  ∀ back, back <:+ text → back ≠ [] → ¬ Opens (back ++ after)

/-- A text cut at its placeholders: the body of each with the text before it, and the text after the
last one. -/
inductive Cut : List Char → List (List Char × List Char) → List Char → Prop
  | last {text : List Char} (clear : Clear text []) : Cut text [] text
  | next {text body rest : List Char} {found : List (List Char × List Char)} {last : List Char}
      (clear : Clear text (braced body ++ rest)) (formed : IsBody body) (later : Cut rest found last) :
      Cut (text ++ (braced body ++ rest)) ((text, body) :: found) last

variable {text after body tail cs last : List Char} {found : List (List Char × List Char)}

/-! Placeholders at the start of a text -/

theorem placeholder?_eq_some_iff :
    placeholder? cs = some (body, tail) ↔ IsBody body ∧ cs = braced body ++ tail := by
  constructor
  · intro read
    unfold placeholder? at read
    split at read
    next rest =>
      split at read
      next c front back before behind =>
        cases read
        have plain : '}' ∉ c :: front := by
          rw [← before]
          exact fun member => by simpa using List.mem_takeWhile_imp member
        refine ⟨⟨List.cons_ne_nil _ _, plain⟩, ?_⟩
        have whole := List.takeWhile_append_dropWhile (p := (· != '}')) (l := rest)
        rw [before, behind] at whole
        simp [braced, ← whole]
      next => cases read
    next => cases read
  · rintro ⟨⟨given, plain⟩, rfl⟩
    have others : ∀ c ∈ body, (c != '}') = true := fun c member =>
      bne_iff_ne.mpr fun same => plain (same ▸ member)
    obtain ⟨c, front, rfl⟩ := List.exists_cons_of_ne_nil given
    have before : (c :: front ++ '}' :: '}' :: tail).takeWhile (· != '}') = c :: front := by
      rw [List.takeWhile_append_of_pos others]
      simp
    have behind : (c :: front ++ '}' :: '}' :: tail).dropWhile (· != '}') = '}' :: '}' :: tail := by
      rw [List.dropWhile_append_of_pos others]
      simp
    have start : braced (c :: front) ++ tail = '{' :: '{' :: (c :: front ++ '}' :: '}' :: tail) := by
      simp [braced]
    rw [start, placeholder?, before, behind]
    rfl

theorem placeholder?_braced (formed : IsBody body) (tail : List Char) :
    placeholder? (braced body ++ tail) = some (body, tail) :=
  placeholder?_eq_some_iff.mpr ⟨formed, rfl⟩

theorem opens_iff : Opens text ↔ (placeholder? text).isSome := by
  rw [Option.isSome_iff_exists, Prod.exists]
  exact exists_congr fun _ => exists_congr fun _ => placeholder?_eq_some_iff.symm

instance : DecidablePred Opens := fun _ => decidable_of_iff _ opens_iff.symm

theorem opens_braced (formed : IsBody body) : Opens (braced body ++ tail) :=
  ⟨body, tail, formed, rfl⟩

/-- A body ends at the first closing brace, so it is known by the text. -/
theorem braced_inj {body' tail' : List Char} (formed : IsBody body) (formed' : IsBody body')
    (same : braced body ++ tail = braced body' ++ tail') : body = body' ∧ tail = tail' := by
  have read := placeholder?_braced formed tail
  rw [same, placeholder?_braced formed'] at read
  cases read
  exact ⟨rfl, rfl⟩

theorem count_braced (formed : IsBody body) : (braced body).count '}' = 2 := by
  simp [braced, List.count_eq_zero_of_not_mem formed.2]

/-- Where two closing braces follow, it is known whether a placeholder begins a text. -/
theorem Opens.of_append (closed : 2 ≤ text.count '}') (opens : Opens (text ++ after)) :
    Opens text := by
  obtain ⟨body, tail, formed, same⟩ := opens
  rcases List.append_eq_append_iff.mp same with ⟨more, whole, -⟩ | ⟨more, whole, -⟩
  · -- the placeholder would have its last brace, and with it a third one, in what follows
    rcases List.eq_nil_or_concat more with rfl | ⟨front, c, rfl⟩
    · exact ⟨body, [], formed, by simpa using whole.symm⟩
    · have ends : ('{' :: '{' :: body ++ ['}']) ++ ['}'] = (text ++ front) ++ [c] := by
        simpa [braced] using whole
      obtain ⟨-, ⟨⟩⟩ := List.append_inj' ends rfl
      have braces := congrArg (List.count '}') whole
      rw [count_braced formed] at braces
      simp only [List.count_append, List.concat_eq_append, List.count_singleton_self] at braces
      omega
  · exact ⟨body, more, formed, whole⟩

/-! Texts without placeholders -/

theorem clear_nil : Clear [] after := fun _ suffix given => (given (List.suffix_nil.mp suffix)).elim

theorem clear_cons {c : Char} :
    Clear (c :: text) after ↔ ¬ Opens (c :: text ++ after) ∧ Clear text after := by
  constructor
  · intro clear
    exact ⟨clear _ (List.suffix_refl _) (List.cons_ne_nil _ _), fun back suffix =>
      clear back (suffix.trans (List.suffix_cons _ _))⟩
  · rintro ⟨start, clear⟩ back suffix given
    rcases List.suffix_cons_iff.mp suffix with rfl | suffix
    · exact start
    · exact clear back suffix given

instance : (text after : List Char) → Decidable (Clear text after)
  | [], _ => .isTrue clear_nil
  | _ :: text, after =>
    have := instDecidableClear text after
    decidable_of_iff _ clear_cons.symm

theorem clear_of_no_brace (plain : '{' ∉ text) : Clear text after := by
  rintro back suffix given ⟨body, tail, -, same⟩
  obtain ⟨c, rest, rfl⟩ := List.exists_cons_of_ne_nil given
  have start : c = '{' := by simpa [braced] using congrArg List.head? same
  exact plain (suffix.mem (start ▸ List.mem_cons_self))

theorem exists_cut (cs : List Char) : ∃ found last, Cut cs found last := by
  induction cs using WellFounded.induction (InvImage.wf List.length Nat.lt_wfRel.wf) with
  | _ cs ih =>
    by_cases opens : Opens cs
    · obtain ⟨body, tail, formed, rfl⟩ := opens
      have shorter : tail.length < (braced body ++ tail).length := by simp [braced]; omega
      obtain ⟨found, last, later⟩ := ih tail shorter
      have cut : Cut ([] ++ (braced body ++ tail)) (([], body) :: found) last :=
        .next clear_nil formed later
      exact ⟨_, _, cut⟩
    · cases cs with
      | nil => exact ⟨[], [], .last clear_nil⟩
      | cons c rest =>
          obtain ⟨found, last, cut⟩ := ih rest (Nat.lt_succ_self _)
          cases cut with
          | last clear => exact ⟨[], _, .last (clear_cons.mpr ⟨by simpa using opens, clear⟩)⟩
          | @next text body rest found last clear formed later =>
              have cut : Cut (c :: text ++ (braced body ++ rest)) ((c :: text, body) :: found) last :=
                .next (clear_cons.mpr ⟨opens, clear⟩) formed later
              exact ⟨_, _, cut⟩

/-- Two cuts of a text begin with the same text before a placeholder. -/
theorem clear_inj {text' rest rest' : List Char} (clear : Clear text rest)
    (clear' : Clear text' rest') (opens : Opens rest) (opens' : Opens rest')
    (same : text ++ rest = text' ++ rest') : text = text' ∧ rest = rest' := by
  rcases List.append_eq_append_iff.mp same with ⟨more, rfl, rfl⟩ | ⟨more, rfl, rfl⟩
  · cases more with
    | nil => simp
    | cons c more => exact (clear' _ (List.suffix_append _ _) (List.cons_ne_nil _ _) opens).elim
  · cases more with
    | nil => simp
    | cons c more => exact (clear _ (List.suffix_append _ _) (List.cons_ne_nil _ _) opens').elim

theorem not_clear {before : List Char} (formed : IsBody body) :
    ¬ Clear (before ++ (braced body ++ tail)) after := fun clear =>
  clear _ (List.suffix_append _ _) (by simp [braced])
    (by rw [List.append_assoc]; exact opens_braced formed)

theorem Cut.unique {found' : List (List Char × List Char)} {last' : List Char}
    (cut : Cut cs found last) (cut' : Cut cs found' last') : found' = found ∧ last' = last := by
  induction cut generalizing found' last' with
  | last clear =>
      cases cut' with
      | last => exact ⟨rfl, rfl⟩
      | next _ formed _ => exact (not_clear formed clear).elim
  | next clear formed later ih =>
      generalize whole : _ ++ (braced _ ++ _) = cs at cut'
      cases cut' with
      | last clear' => exact (not_clear formed (whole ▸ clear')).elim
      | next clear' formed' later' =>
          obtain ⟨rfl, rest⟩ := clear_inj clear clear' (opens_braced formed) (opens_braced formed') whole
          obtain ⟨rfl, rfl⟩ := braced_inj formed formed' rest
          obtain ⟨rfl, rfl⟩ := ih later'
          exact ⟨rfl, rfl⟩

/-! What a text is read as -/

@[simp] theorem pieces_nil : pieces [] = [] := by
  rw [pieces]
  rfl

theorem pieces_braced (formed : IsBody body) :
    pieces (braced body ++ tail) = .placeholder body :: pieces tail := by
  rw [pieces]
  split
  next found =>
    rw [placeholder?_braced formed] at found
    cases found
    rfl
  next missing =>
    rw [placeholder?_braced formed] at missing
    cases missing

theorem pieces_text {c : Char} (shut : ¬ Opens (c :: tail)) :
    pieces (c :: tail) = .text c :: pieces tail := by
  rw [opens_iff, Bool.not_eq_true, Option.isSome_eq_false_iff, Option.isNone_iff_eq_none] at shut
  rw [pieces]
  split
  next found =>
    rw [shut] at found
    cases found
  next => rfl

theorem pieces_clear (clear : Clear text after) :
    pieces (text ++ after) = text.map .text ++ pieces after := by
  induction text with
  | nil => rfl
  | cons c text ih =>
      obtain ⟨shut, clear⟩ := clear_cons.mp clear
      exact (pieces_text shut).trans (congrArg (Piece.text c :: ·) (ih clear))

/-- A text is read as it is cut. -/
theorem Cut.pieces (cut : Cut cs found last) :
    Template.pieces cs =
      (found.flatMap fun part => part.1.map Piece.text ++ [.placeholder part.2]) ++
        last.map .text := by
  induction cut with
  | last clear =>
      have read := pieces_clear clear
      rwa [pieces_nil, List.append_nil, List.append_nil] at read
  | next clear formed later ih => simp [pieces_clear clear, pieces_braced formed, ih]

/-- What stands in the place of a placeholder. -/
def replacement (scope : Value) (body : List Char) : List Char :=
  match scope.lookup? (String.ofList body) with
  | some value => value.interpolated.toList
  | none => braced body

/-- A cut text with its placeholders replaced. -/
def replaced (scope : Value) (found : List (List Char × List Char)) (last : List Char) :
    List Char :=
  (found.flatMap fun part => part.1 ++ replacement scope part.2) ++ last

/-- The values that placeholders lead to can be written. -/
def Writable (scope : Value) (found : List (List Char × List Char)) : Prop :=
  ∀ part ∈ found, ∀ value, scope.lookup? (String.ofList part.2) = some value → isShort value

/-- A value, and what it becomes when the placeholders in it are replaced. -/
inductive Filled (scope : Value) : Value → Value → Prop
  | text {s : String} {found : List (List Char × List Char)} {last : List Char}
      (cut : Cut s.toList found last) (writable : Writable scope found) :
      Filled scope (.str s) (.str (String.ofList (replaced scope found last)))
  | list {items results : List Value} (each : List.Forall₂ (Filled scope) items results) :
      Filled scope (.list items) (.list results)
  | object {fields results : Fields} (names : results.keys = fields.keys)
      (each : List.Forall₂ (Filled scope) (fields.map Prod.snd) (results.map Prod.snd)) :
      Filled scope (.obj fields) (.obj results)
  | null : Filled scope .null .null
  | bool (b : Bool) : Filled scope (.bool b) (.bool b)
  | int (n : Int) : Filled scope (.int n) (.int n)
  | float (x : Float) : Filled scope (.float x) (.float x)

section Texts

variable {scope : Value} {s : String} {found : List (List Char × List Char)} {last : List Char}

/-- A text is resolved as it is cut. -/
theorem resolveString_of_cut (cut : Cut s.toList found last) :
    resolveString scope s = String.ofList (replaced scope found last) := by
  have copied (text : List Char) : (text.map Piece.text).flatMap (Piece.resolve scope) = text := by
    rw [List.flatMap_map]
    exact List.flatMap_singleton' text
  have parts : (found.flatMap fun part => part.1.map Piece.text ++ [.placeholder part.2]).flatMap
      (Piece.resolve scope) = found.flatMap fun part => part.1 ++ replacement scope part.2 := by
    rw [List.flatMap_assoc]
    congr 1
    funext part
    rw [List.flatMap_append, copied, List.flatMap_singleton]
    rfl
  rw [resolveString, cut.pieces, List.flatMap_append, copied, parts]
  rfl

theorem isWritable_of_cut (cut : Cut s.toList found last) :
    isWritable scope (.str s) ↔ Writable scope found := by
  have copied (text : List Char) : (text.map Piece.text).all (Piece.isWritable scope) := by
    simp [Piece.isWritable]
  have short (body : List Char) : (Piece.placeholder body).isWritable scope ↔
      ∀ value, scope.lookup? (String.ofList body) = some value → isShort value := by
    unfold Piece.isWritable
    cases leads : scope.lookup? (String.ofList body) <;> simp [leads]
  simp only [isWritable, cut.pieces, List.all_append, List.all_flatMap, copied, Bool.true_and,
    Bool.and_true, List.all_cons, List.all_nil, List.all_eq_true, short, Writable]

end Texts

section Values

variable {scope : Value} {items : List Value} {fields : Fields} {result : Value}

theorem filled_list_iff : Filled scope (.list items) result ↔
    ∃ results, result = .list results ∧ List.Forall₂ (Filled scope) items results := by
  constructor
  · rintro ⟨⟩
    exact ⟨_, rfl, ‹_›⟩
  · rintro ⟨results, rfl, each⟩
    exact .list each

theorem filled_object_iff : Filled scope (.obj fields) result ↔
    ∃ results : Fields, result = .obj results ∧ results.keys = fields.keys ∧
      List.Forall₂ (Filled scope) (fields.map Prod.snd) (results.map Prod.snd) := by
  constructor
  · rintro ⟨⟩
    exact ⟨_, rfl, ‹_›, ‹_›⟩
  · rintro ⟨results, rfl, names, each⟩
    exact .object names each

end Values

mutual

/-- What a value becomes is known, and it is there exactly if all that is put in can be written. -/
theorem filled_iff (scope : Value) : (value : Value) → value.isData → ∀ result,
    Filled scope value result ↔ isWritable scope value ∧ resolve scope value = result
  | .str s, _, result => by
      obtain ⟨found, last, cut⟩ := exists_cut s.toList
      rw [isWritable_of_cut cut, resolve, resolveString_of_cut cut]
      constructor
      · intro filled
        cases filled with
        | text other writable =>
            obtain ⟨rfl, rfl⟩ := cut.unique other
            exact ⟨writable, rfl⟩
      · rintro ⟨writable, rfl⟩
        exact .text cut writable
  | .list items, data, result => by
      rw [filled_list_iff, isWritable, resolve]
      simp only [filledItems_iff scope items data]
      constructor
      · rintro ⟨results, rfl, writable, rfl⟩
        exact ⟨writable, rfl⟩
      · rintro ⟨writable, rfl⟩
        exact ⟨_, rfl, writable, rfl⟩
  | .obj fields, data, result => by
      rw [filled_object_iff, isWritable, resolve]
      simp only [filledFields_iff scope fields data]
      constructor
      · rintro ⟨results, rfl, writable, rfl⟩
        exact ⟨writable, rfl⟩
      · rintro ⟨writable, rfl⟩
        exact ⟨_, rfl, writable, rfl⟩
  | .null, _, result | .bool _, _, result | .int _, _, result | .float _, _, result => by
      constructor
      · rintro ⟨⟩
        exact ⟨rfl, rfl⟩
      · rintro ⟨-, rfl⟩
        constructor

theorem filledItems_iff (scope : Value) : (items : List Value) → Value.areData items → ∀ results,
    List.Forall₂ (Filled scope) items results ↔
      areWritable scope items ∧ resolveItems scope items = results
  | [], _, results => by simp [areWritable, resolveItems, eq_comm]
  | item :: rest, data, results => by
      obtain ⟨first, others⟩ := Bool.and_eq_true_iff.mp data
      rw [List.forall₂_cons_left_iff, areWritable, resolveItems, Bool.and_eq_true]
      simp only [filled_iff scope item first, filledItems_iff scope rest others]
      constructor
      · rintro ⟨_, _, ⟨here, rfl⟩, ⟨later, rfl⟩, rfl⟩
        exact ⟨⟨here, later⟩, rfl⟩
      · rintro ⟨⟨here, later⟩, rfl⟩
        exact ⟨_, _, ⟨here, rfl⟩, ⟨later, rfl⟩, rfl⟩

theorem filledFields_iff (scope : Value) : (fields : List (String × Value)) →
    Value.fieldsAreData fields → ∀ results : Fields,
    (results.keys = Fields.keys fields ∧
        List.Forall₂ (Filled scope) (fields.map Prod.snd) (results.map Prod.snd)) ↔
      fieldsAreWritable scope fields ∧ resolveFields scope fields = results
  | [], _, results => by cases results <;> simp [fieldsAreWritable, resolveFields, Fields.keys]
  | (name, value) :: rest, data, results => by
      obtain ⟨first, others⟩ := Bool.and_eq_true_iff.mp data
      rw [fieldsAreWritable, resolveFields, Bool.and_eq_true]
      constructor
      · rintro ⟨names, each⟩
        cases results with
        | nil => cases names
        | cons entry results =>
            obtain ⟨same, following⟩ := List.cons_eq_cons.mp names
            obtain rfl : entry.1 = name := same
            obtain ⟨here, each⟩ := List.forall₂_cons.mp each
            obtain ⟨here, became⟩ := (filled_iff scope value first _).mp here
            obtain ⟨later, rfl⟩ := (filledFields_iff scope rest others results).mp ⟨following, each⟩
            exact ⟨⟨here, later⟩, by rw [became]⟩
      · rintro ⟨⟨here, later⟩, rfl⟩
        obtain ⟨names, each⟩ := (filledFields_iff scope rest others _).mpr ⟨later, rfl⟩
        exact ⟨congrArg (name :: ·) names, .cons ((filled_iff scope value first _).mpr ⟨here, rfl⟩) each⟩

end

/-- The placeholder of the path `n`. -/
def nested : String :=
  "\x7b\x7bn\x7d\x7d"

/-- A text that brings a placeholder with it, and nothing. -/
def bracedScope : Value :=
  .obj [("a", .str nested), ("n", .null)]

/-- The placeholder of the path `a`. -/
def single : String :=
  "\x7b\x7ba\x7d\x7d"

end Orchestra.Template
