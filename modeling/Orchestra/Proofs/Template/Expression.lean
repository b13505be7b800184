import Orchestra.Proofs.Template.Substitution

/-!
What expressions stand for.

An expression that is one placeholder, or a bare path, up to white space around it, stands for the
value itself that the path leads to. Every other one stands for what it becomes when its placeholders
are replaced.
-/

namespace Orchestra

namespace Text

/-- A text is what is left of it between white space. -/
theorem exists_trimChars (cs : List Char) :
    ∃ front back, cs = front ++ (trimChars cs ++ back) ∧ (∀ c ∈ front, isBlank c) ∧
      ∀ c ∈ back, isBlank c := by
  have blank (cs : List Char) : ∀ c ∈ cs.takeWhile isBlank, isBlank c :=
    fun _ => List.mem_takeWhile_imp
  have whole := cs.takeWhile_append_dropWhile (p := isBlank)
  have rest := (cs.dropWhile isBlank).reverse.takeWhile_append_dropWhile (p := isBlank)
  refine ⟨cs.takeWhile isBlank, ((cs.dropWhile isBlank).reverse.takeWhile isBlank).reverse, ?_,
    blank _, fun c member => blank _ c (List.mem_reverse.mp member)⟩
  rw [trimChars, ← List.reverse_append, rest, List.reverse_reverse, whole]

end Text

namespace Template

variable {cs body : List Char} {s : String}

theorem whole?_eq_some_iff : whole? cs = some body ↔ IsBody body ∧ cs = braced body := by
  have read : whole? cs = some body ↔ placeholder? cs = some (body, []) := by
    unfold whole?
    split
    next found => simp [found]
    next other => exact ⟨nofun, fun found => (other _ found).elim⟩
  rw [read, placeholder?_eq_some_iff, List.append_nil]

theorem hasOpening_iff : hasOpening cs ↔ ['{', '{'] <:+: cs := by
  fun_induction hasOpening cs with
  | case1 rest => exact iff_of_true rfl ⟨[], rest, rfl⟩
  | case2 c rest other ih =>
      have shut : ¬ ['{', '{'] <+: c :: rest := by
        rintro ⟨more, whole⟩
        obtain ⟨same, following⟩ := List.cons_eq_cons.mp whole
        exact other more same.symm following.symm
      rw [ih, List.infix_cons_iff]
      simp [shut]
  | case3 => simp

/-- An expression that is one placeholder up to white space is cut there. -/
theorem cut_of_trim (formed : IsBody body) (single : Text.trimChars s.toList = braced body) :
    ∃ front back, s.toList = front ++ (braced body ++ back) ∧
      Cut s.toList [(front, body)] back := by
  obtain ⟨front, back, whole, leading, trailing⟩ := Text.exists_trimChars s.toList
  have plain {cs : List Char} (blank : ∀ c ∈ cs, Text.isBlank c) : '{' ∉ cs := fun member =>
    absurd (blank _ member) (by decide)
  rw [single] at whole
  refine ⟨front, back, whole, ?_⟩
  rw [whole]
  exact .next (clear_of_no_brace (plain leading)) formed (.last (clear_of_no_brace (plain trailing)))

section Expressions

variable {scope value : Value}

theorem resolve_single (scope : Value) (formed : IsBody body)
    (single : Text.trimChars s.toList = braced body) :
    ∃ front back, s.toList = front ++ (braced body ++ back) ∧
      resolve scope (.str s) =
        .str (String.ofList (front ++ (replacement scope body ++ back))) ∧
      (isWritable scope (.str s) ↔ Writable scope [([], body)]) := by
  obtain ⟨front, back, whole, cut⟩ := cut_of_trim formed single
  refine ⟨front, back, whole, ?_, ?_⟩
  · rw [resolve, resolveString_of_cut cut]
    simp [replaced]
  · rw [isWritable_of_cut cut]
    simp [Writable]

theorem resolve_missing (formed : IsBody body) (single : Text.trimChars s.toList = braced body)
    (missing : scope.lookup? (String.ofList body) = none) :
    resolve scope (.str s) = .str s ∧ isWritable scope (.str s) := by
  obtain ⟨front, back, whole, same, writable⟩ := resolve_single scope formed single
  have stays : replacement scope body = braced body := by rw [replacement, missing]
  refine ⟨?_, writable.mpr ?_⟩
  · rw [same, stays, ← whole, String.ofList_toList]
  · simp [Writable, missing]

theorem resolve_braced (formed : IsBody body)
    (leads : scope.lookup? (String.ofList body) = some value) :
    resolve scope (.str (String.ofList (braced body))) = .str value.interpolated ∧
      (isWritable scope (.str (String.ofList (braced body))) ↔ isShort value) := by
  have cut : Cut (String.ofList (braced body)).toList [([], body)] [] := by
    rw [String.toList_ofList, ← List.nil_append (braced body), ← List.append_nil (braced body)]
    exact .next clear_nil formed (.last clear_nil)
  rw [resolve, resolveString_of_cut cut, isWritable_of_cut cut]
  simp [replaced, replacement, leads, Writable]

theorem whole?_eq_none_iff : whole? cs = none ↔ ∀ body, IsBody body → cs ≠ braced body := by
  rw [Option.eq_none_iff_forall_ne_some]
  simp only [ne_eq, whole?_eq_some_iff, not_and]

theorem resolveValue_single (scope : Value) (formed : IsBody body)
    (single : Text.trimChars s.toList = braced body) :
    resolveValue scope (.str s) = scope.lookupD (String.ofList body) (.str s) ∧
      standsForValue scope (.str s) = (scope.lookup? (String.ofList body)).isSome := by
  have whole : whole? (Text.trimChars s.toList) = some body :=
    whole?_eq_some_iff.mpr ⟨formed, single⟩
  constructor
  · simp only [resolveValue, whole]
  · simp only [standsForValue, whole]

/-- A text that is looked up as it is. -/
def IsBare (text : List Char) : Prop :=
  text ≠ [] ∧ ¬ ['{', '{'] <:+: text ∧ ' ' ∉ text

theorem IsBare.not_braced {text : List Char} (bare : IsBare text) (body : List Char) :
    text ≠ braced body := by
  rintro rfl
  exact bare.2.1 ⟨[], body ++ ['}', '}'], rfl⟩

theorem isBare_iff {text : List Char} :
    (!text.isEmpty && !hasOpening text && !text.contains ' ') = true ↔ IsBare text := by
  simp [IsBare, ← hasOpening_iff, and_assoc]

theorem resolveValue_other
    (other : ∀ body, IsBody body → Text.trimChars s.toList ≠ braced body) :
    (∀ value, IsBare (Text.trimChars s.toList) →
      scope.lookup? (String.ofList (Text.trimChars s.toList)) = some value →
      resolveValue scope (.str s) = value ∧ standsForValue scope (.str s)) ∧
    ((IsBare (Text.trimChars s.toList) →
        scope.lookup? (String.ofList (Text.trimChars s.toList)) = none) →
      resolveValue scope (.str s) = resolve scope (.str s) ∧ ¬ standsForValue scope (.str s)) := by
  have whole := whole?_eq_none_iff.mpr other
  constructor
  · intro value bare leads
    have bare := isBare_iff.mpr bare
    simp only [resolveValue, standsForValue, whole, bare, leads, if_true, Option.isSome_some,
      Bool.and_self, and_self]
  · intro missing
    by_cases bare : IsBare (Text.trimChars s.toList)
    · have nothing := missing bare
      have bare := isBare_iff.mpr bare
      simp only [resolveValue, standsForValue, whole, bare, nothing, if_true, Option.isSome_none,
        Bool.and_false, Bool.false_eq_true, not_false_eq_true, and_self]
    · have shut := Bool.eq_false_iff.mpr (mt isBare_iff.mp bare)
      simp only [resolveValue, standsForValue, whole, shut, Bool.false_eq_true, if_false,
        Bool.false_and, not_false_eq_true, and_self]

end Expressions

/-- An expression that is one placeholder up to white space stands for the value found, or for itself
where there is none. A bare path stands for the value found. Every other expression stands for what
it becomes when its placeholders are replaced, which has to be written. -/
theorem expression_stands (scope : Value) (s : String) :
    let text := Text.trimChars s.toList
    (∀ body value, text = braced body → IsBody body →
      scope.lookup? (String.ofList body) = some value →
      resolveValue scope (.str s) = value ∧ standsForValue scope (.str s) ∧
      resolve scope (.str (String.ofList text)) = .str value.interpolated ∧
      (isWritable scope (.str (String.ofList text)) ↔ isShort value)) ∧
    (∀ body, text = braced body → IsBody body → scope.lookup? (String.ofList body) = none →
      resolveValue scope (.str s) = .str s ∧ resolve scope (.str s) = .str s ∧
      isWritable scope (.str s)) ∧
    (∀ value, IsBare text → scope.lookup? (String.ofList text) = some value →
      resolveValue scope (.str s) = value ∧ standsForValue scope (.str s)) ∧
    ((∀ body, IsBody body → text ≠ braced body) →
      (IsBare text → scope.lookup? (String.ofList text) = none) →
      resolveValue scope (.str s) = resolve scope (.str s) ∧ ¬ standsForValue scope (.str s)) ∧
    ∀ expression : Value, expression.str? = none →
      resolveValue scope expression = resolve scope expression ∧
      ¬ standsForValue scope expression := by
  intro text
  refine ⟨fun body value single formed leads => ?_, fun body single formed missing => ?_,
    fun value bare leads => ?_, fun other missing => (resolveValue_other other).2 missing, ?_⟩
  · obtain ⟨found, stands⟩ := resolveValue_single scope formed single
    refine ⟨?_, ?_, ?_⟩
    · rw [found, Value.lookupD, leads, Option.getD_some]
    · rw [stands, leads, Option.isSome_some]
    · rw [single]
      exact resolve_braced formed leads
  · obtain ⟨found, -⟩ := resolveValue_single scope formed single
    refine ⟨?_, resolve_missing formed single missing⟩
    rw [found, Value.lookupD, missing, Option.getD_none]
  · exact (resolveValue_other fun body _ => bare.not_braced body).1 value bare leads
  · intro expression plain
    cases expression with
    | str => cases plain
    | _ => exact ⟨rfl, nofun⟩

/-- The placeholder of the path `a` between white space. -/
def spacedSingle : String :=
  " \x7b\x7b a \x7d\x7d\n"

/-- A placeholder whose path begins with a brace and leads nowhere. -/
def spacedMissing : String :=
  " \x7b\x7b\x7ba\x7d\x7d"

/-- A placeholder and one brace more. -/
def spacedBrace : String :=
  " \x7b\x7ba\x7d\x7d\x7d"

/-- The four kinds of expression, each with white space around it, and a number. -/
theorem spacedExpressions_stand :
    (Text.trimChars spacedSingle.toList = braced " a ".toList ∧ IsBody " a ".toList ∧
      bracedScope.lookup? " a " = some (.str nested) ∧
      resolveValue bracedScope (.str spacedSingle) = .str nested) ∧
    (Text.trimChars spacedMissing.toList = braced "\x7ba".toList ∧ IsBody "\x7ba".toList ∧
      bracedScope.lookup? "\x7ba" = none ∧
      resolveValue bracedScope (.str spacedMissing) = .str spacedMissing) ∧
    (IsBare (Text.trimChars "\ta ".toList) ∧ bracedScope.lookup? "a" = some (.str nested) ∧
      resolveValue bracedScope (.str "\ta ") = .str nested) ∧
    ((∀ body, IsBody body → Text.trimChars spacedBrace.toList ≠ braced body) ∧
      ¬ IsBare (Text.trimChars spacedBrace.toList) ∧
      resolveValue bracedScope (.str spacedBrace) = resolve bracedScope (.str spacedBrace)) ∧
    ((Value.int 5).str? = none ∧
      resolveValue bracedScope (.int 5) = resolve bracedScope (.int 5)) := by
  have bare : IsBare (Text.trimChars "\ta ".toList) := isBare_iff.mp (by decide)
  have several : ∀ body, IsBody body → Text.trimChars spacedBrace.toList ≠ braced body :=
    whole?_eq_none_iff.mp (by decide)
  have busy : ¬ IsBare (Text.trimChars spacedBrace.toList) :=
    mt isBare_iff.mpr (by decide)
  obtain ⟨found, -⟩ := expression_stands bracedScope spacedSingle
  obtain ⟨-, missing, -⟩ := expression_stands bracedScope spacedMissing
  obtain ⟨-, -, path, -⟩ := expression_stands bracedScope "\ta "
  obtain ⟨-, -, -, other, plain⟩ := expression_stands bracedScope spacedBrace
  exact ⟨⟨rfl, by decide, rfl, (found " a ".toList _ rfl (by decide) rfl).1⟩,
    ⟨rfl, by decide, rfl, (missing "\x7ba".toList rfl (by decide) rfl).1⟩,
    ⟨bare, rfl, (path _ bare rfl).1⟩,
    ⟨several, busy, (other several fun idle => (busy idle).elim).1⟩, rfl, (plain _ rfl).1⟩

end Template

end Orchestra
