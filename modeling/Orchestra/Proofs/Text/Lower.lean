import Mathlib.Data.List.Basic
import Orchestra.Text.Case

/-!
Lower case: what is in lower case stays as it is, and no letter beyond ASCII but two turns into one of
ASCII.

A text is put into lower case character by character, apart from the capital sigma, which looks at the
letters around it. It does not look beyond a character that is neither a letter nor passed over, and
dots at the end of a text are nothing to it.
-/

namespace Orchestra.Text

section Table

variable {row : Nat × Nat × Nat × Int} {c d : Char}

/-- The code points that a run leads to, from the first to the last. -/
def images (row : Nat × Nat × Nat × Int) : Nat × Nat :=
  ((row.1 + row.2.2.2).toNat, (row.2.1 + row.2.2.2).toNat)

/-- What a run leads to lies beside every run, or between the letters of one that takes every second
letter. -/
def leadsOut (row : Nat × Nat × Nat × Int) : Bool :=
  lowerRuns.all fun other =>
    Nat.blt (images row).2 other.1 || Nat.blt other.2.1 (images row).1 ||
      ((Nat.beq row.2.2.1 2 || Nat.beq row.1 row.2.1) && Nat.beq other.2.2.1 2 &&
        Nat.beq (((images row).1 + other.1) % 2) 1)

theorem leadsOut_of_mem (member : row ∈ lowerRuns) : leadsOut row = true := by
  have every : lowerRuns.all leadsOut = true := by decide +kernel
  exact List.all_eq_true.mp every row member

/-- A run leads to characters, none of which has several small letters. Beyond ASCII only the sign of
the kelvin leads to a letter of it. -/
theorem images_valid (member : row ∈ lowerRuns) :
    0 ≤ (row.1 : Int) + row.2.2.2 ∧ (images row).2 < 0x110000 ∧
      ((images row).2 < 0xd800 ∨ 0xdfff < (images row).1) ∧
      ((images row).2 < 0x130 ∨ 0x130 < (images row).1) ∧
      (row.2.1 < 128 ∨ 128 ≤ (images row).1 ∨ images row = (0x6b, 0x6b)) := by
  have every : ∀ row ∈ lowerRuns, 0 ≤ (row.1 : Int) + row.2.2.2 ∧ (images row).2 < 0x110000 ∧
      ((images row).2 < 0xd800 ∨ 0xdfff < (images row).1) ∧
      ((images row).2 < 0x130 ∨ 0x130 < (images row).1) ∧
      (row.2.1 < 128 ∨ 128 ≤ (images row).1 ∨ images row = (0x6b, 0x6b)) := by decide +kernel
  exact every row member

theorem image?_eq_some_iff {code : Nat} :
    (caseRun row).image? code = some d ↔
      (row.1 ≤ code ∧ code ≤ row.2.1 ∧ (code - row.1) % row.2.2.1 = 0) ∧
        Char.ofNat ((code : Int) + row.2.2.2).toNat = d := by
  obtain ⟨first, last, step, shift⟩ := row
  simp only [caseRun, CaseRun.image?, Option.ite_none_right_eq_some, Option.some.injEq,
    Bool.and_eq_true, beq_iff_eq, and_assoc]
  exact and_congr decide_eq_true_iff (and_congr decide_eq_true_iff .rfl)

/-- The image of a code point lies among those of its run. -/
theorem image?_place (member : row ∈ lowerRuns) {code : Nat}
    (image : (caseRun row).image? code = some d) : d.toNat + row.1 = (images row).1 + code := by
  obtain ⟨above, below, apart, -, -⟩ := images_valid member
  obtain ⟨⟨lower, upper, -⟩, rfl⟩ := image?_eq_some_iff.mp image
  simp only [images] at below apart ⊢
  have valid : ((code : Int) + row.2.2.2).toNat.isValidChar := by
    simp only [Nat.isValidChar]
    omega
  rw [Char.ofNat, dif_pos valid]
  show ((code : Int) + row.2.2.2).toNat + row.1 = _
  omega

/-- A code point that no run holds and that has no several small letters. -/
def Settled (code : Nat) : Prop :=
  code ≠ 0x130 ∧ ∀ row ∈ lowerRuns, (caseRun row).image? code = none

/-- What a run leads to is settled. -/
theorem settled_of_image? (member : row ∈ lowerRuns) {code : Nat}
    (image : (caseRun row).image? code = some d) : Settled d.toNat := by
  have place := image?_place member image
  obtain ⟨⟨lower, upper, step⟩, -⟩ := image?_eq_some_iff.mp image
  obtain ⟨above, -, -, single, -⟩ := images_valid member
  have out := List.all_eq_true.mp (leadsOut_of_mem member)
  simp only [images] at place single
  constructor
  · omega
  · intro other others
    have beside := out other others
    simp only [images, Bool.or_eq_true, Bool.and_eq_true, Nat.blt_eq, Nat.beq_eq] at beside
    refine Option.eq_none_iff_forall_ne_some.mpr fun again held => ?_
    obtain ⟨⟨first, last, even⟩, -⟩ := image?_eq_some_iff.mp held
    rcases beside with (beside | beside) | ⟨⟨every, second⟩, odd⟩
    · omega
    · omega
    · rw [second] at even
      rcases every with every | every
      · rw [every] at step
        omega
      · omega

/-- What no run leads to, and a rule of its own does, is settled as well. -/
theorem settled_special : ∀ code ∈ [0x69, 0x307, 'σ'.toNat, 'ς'.toNat], Settled code := by
  simp only [Settled]
  decide +kernel

/-- The letters of ASCII take the way of all letters: no run but the first holds any of them. -/
theorem lowerChar_eq (c : Char) : lowerChar c = changeCase lowerRuns lowerSpecials c := by
  unfold lowerChar
  split
  next ascii =>
    have special : lowerSpecials.lookup c.toNat = none := by
      rw [lowerSpecials, List.lookup_cons, beq_eq_false_iff_ne.mpr (by omega)]
      rfl
    have others : ∀ row ∈ lowerRuns.tail, 128 ≤ row.1 := by decide +kernel
    have beyond : lowerRuns.tail.findSome? (fun row => (caseRun row).image? c.toNat) = none := by
      refine List.findSome?_eq_none_iff.mpr fun row member => ?_
      refine Option.eq_none_iff_forall_ne_some.mpr fun image held => ?_
      have := others row member
      have := (image?_eq_some_iff.mp held).1.1
      omega
    have first : lowerRuns = (0x41, 0x5A, 1, 32) :: lowerRuns.tail := rfl
    have every : ∀ n < 128, (Char.ofNat n).toLower =
        ((caseRun (0x41, 0x5A, 1, 32)).image? (Char.ofNat n).toNat).getD (Char.ofNat n) := by
      decide
    have letter := every _ ascii
    rw [Char.ofNat_toNat] at letter
    rw [changeCase, special, letter, first]
    simp only [List.findSome?_cons, beyond]
    cases (caseRun (0x41, 0x5A, 1, 32)).image? c.toNat <;> rfl
  next => rfl

theorem lowerChar_of_settled (settled : Settled c.toNat) : lowerChar c = [c] := by
  have special : lowerSpecials.lookup c.toNat = none := by
    rw [lowerSpecials, List.lookup_cons, beq_eq_false_iff_ne.mpr settled.1]
    rfl
  have none : lowerRuns.findSome? (fun row => (caseRun row).image? c.toNat) = none :=
    List.findSome?_eq_none_iff.mpr settled.2
  rw [lowerChar_eq, changeCase, special]
  simp only [none, Option.getD_none]

theorem lowerChar_ne_nil (c : Char) : lowerChar c ≠ [] := by
  rw [lowerChar_eq, changeCase]
  split
  next codes special =>
    obtain ⟨front, back, whole, -⟩ := List.lookup_eq_some_iff.mp special
    have listed : (c.toNat, codes) ∈ lowerSpecials := by simp [whole]
    simp only [lowerSpecials, List.mem_singleton, Prod.mk.injEq] at listed
    simp [listed.2]
  next => exact List.cons_ne_nil _ _

/-- Small letters are settled, and those of a letter beyond ASCII lie beyond it too, but for two. -/
theorem of_mem_lowerChar (member : d ∈ lowerChar c) :
    Settled d.toNat ∧ (c.toNat < 128 ∨ 128 ≤ d.toNat ∨ d = 'k' ∨ d = 'i') := by
  rw [lowerChar_eq, changeCase] at member
  split at member
  next codes special =>
    have listed : (c.toNat, codes) ∈ lowerSpecials := by
      obtain ⟨front, back, whole, -⟩ := List.lookup_eq_some_iff.mp special
      simp [whole]
    simp only [lowerSpecials, List.mem_singleton, Prod.mk.injEq] at listed
    obtain ⟨-, rfl⟩ := listed
    have either : d = 'i' ∨ d = Char.ofNat 0x307 := by simpa using member
    rcases either with rfl | rfl
    · exact ⟨settled_special _ (by decide), .inr (.inr (.inr rfl))⟩
    · exact ⟨settled_special _ (by decide), .inr (.inl (by decide))⟩
  next special =>
    rw [List.mem_singleton] at member
    cases found : lowerRuns.findSome? fun row => (caseRun row).image? c.toNat with
    | none =>
        rw [found, Option.getD_none] at member
        subst member
        refine ⟨⟨fun dotted => ?_, List.findSome?_eq_none_iff.mp found⟩, ?_⟩
        · rw [dotted] at special
          cases special
        · omega
    | some image =>
        rw [found, Option.getD_some] at member
        subst member
        obtain ⟨row, listed, moved⟩ := List.exists_of_findSome?_eq_some found
        have place := image?_place listed moved
        obtain ⟨⟨lower, upper, -⟩, -⟩ := image?_eq_some_iff.mp moved
        obtain ⟨above, -, -, -, beyond⟩ := images_valid listed
        refine ⟨settled_of_image? listed moved, ?_⟩
        simp only [images, Prod.mk.injEq] at place beyond
        rcases beyond with inside | beyond | ⟨kelvin, same⟩
        · exact .inl (by omega)
        · exact .inr (.inl (by omega))
        · have letter : d.toNat = 'k'.toNat := by
            show d.toNat = 0x6b
            omega
          exact .inr (.inr (.inl (Char.toNat_inj.mp letter)))

/-- Such a character is written in the same way in lower case. -/
def Fixed (d : Char) : Prop :=
  d ≠ 'Σ' ∧ lowerChar d = [d]

theorem fixed_of_settled (settled : Settled d.toNat) : Fixed d := by
  refine ⟨?_, lowerChar_of_settled settled⟩
  rintro rfl
  have held : (caseRun (0x3A3, 0x3AB, 1, 32)).image? 'Σ'.toNat = none :=
    settled.2 _ (by decide)
  cases held

end Table

section Texts

variable {inWord : Bool} {cs ds : List Char} {c d : Char}

/-- All that a text in lower case consists of. -/
theorem mem_lowerFrom (member : d ∈ lowerFrom inWord cs) :
    ∃ c ∈ cs, d ∈ lowerChar c ∨ c = 'Σ' ∧ (d = 'σ' ∨ d = 'ς') := by
  induction cs generalizing inWord with
  | nil => cases member
  | cons c rest ih =>
      rw [lowerFrom, List.mem_append] at member
      rcases member with first | later
      · split at first
        next sigma =>
          refine ⟨c, .head _, .inr ⟨eq_of_beq sigma, ?_⟩⟩
          rw [List.mem_singleton] at first
          split at first
          · exact .inr first
          · exact .inl first
        next => exact ⟨c, .head _, .inl first⟩
      · obtain ⟨other, inside, from'⟩ := ih later
        exact ⟨other, .tail _ inside, from'⟩

theorem fixed_of_mem_lowerFrom (member : d ∈ lowerFrom inWord cs) : Fixed d := by
  obtain ⟨c, -, small | ⟨-, sigma⟩⟩ := mem_lowerFrom member
  · exact fixed_of_settled (of_mem_lowerChar small).1
  · rcases sigma with rfl | rfl
    · exact fixed_of_settled (settled_special _ (by decide))
    · exact fixed_of_settled (settled_special _ (by decide))

theorem lowerFrom_of_fixed (fixed : ∀ d ∈ ds, Fixed d) : lowerFrom inWord ds = ds := by
  induction ds generalizing inWord with
  | nil => rfl
  | cons d ds ih =>
      obtain ⟨⟨other, small⟩, rest⟩ := List.forall_mem_cons.mp fixed
      rw [lowerFrom, if_neg (by simpa using other), small, ih rest]
      rfl

/-- What is in lower case stays as it is. -/
theorem lowerFrom_lowerFrom (again : Bool) :
    lowerFrom again (lowerFrom inWord cs) = lowerFrom inWord cs :=
  lowerFrom_of_fixed fun _ => fixed_of_mem_lowerFrom

/-- Nothing that stands before such a character is seen from behind it, or the other way round. -/
structure Parts (c : Char) : Prop where
  fixed : Fixed c
  seen : isPassed c = false
  caseless : isCased c = false

theorem leadsToCased_parts (parts : Parts c) (rest more : List Char) :
    leadsToCased (rest ++ c :: more) = leadsToCased rest := by
  have own : (c :: more).find? (fun c => !isPassed c) = some c :=
    List.find?_cons_of_pos (by rw [parts.seen]; decide)
  rw [leadsToCased, leadsToCased, List.find?_append, own]
  cases rest.find? fun c => !isPassed c with
  | none =>
      simp only [Option.none_or, Option.map_some, Option.getD_some, parts.caseless, Option.map_none,
        Option.getD_none]
  | some other => simp only [Option.some_or]

/-- The texts on both sides of a parting character are put into lower case by themselves. -/
theorem lowerFrom_parts (parts : Parts c) (more : List Char) :
    lowerFrom inWord (cs ++ c :: more) = lowerFrom inWord cs ++ c :: lowerFrom false more := by
  induction cs generalizing inWord with
  | nil =>
      show lowerFrom inWord (c :: more) = c :: lowerFrom false more
      rw [lowerFrom, if_neg (by simpa using parts.fixed.1), parts.fixed.2, parts.seen,
        if_neg Bool.false_ne_true, parts.caseless]
      rfl
  | cons first rest ih =>
      rw [List.cons_append, lowerFrom, lowerFrom, ih, leadsToCased_parts parts, List.append_assoc]

theorem isPassed_dot : isPassed '.' = true := by decide +kernel

theorem fixed_dot : Fixed '.' :=
  ⟨by decide, rfl⟩

/-- Dots at the end of a text are nothing to the letters before them. -/
theorem lowerFrom_dots (count : Nat) :
    lowerFrom inWord (cs ++ List.replicate count '.') =
      lowerFrom inWord cs ++ List.replicate count '.' := by
  induction cs generalizing inWord with
  | nil =>
      refine lowerFrom_of_fixed fun d member => ?_
      rw [List.eq_of_mem_replicate member]
      exact fixed_dot
  | cons first rest ih =>
      have unseen : (List.replicate count '.').find? (fun c => !isPassed c) = none := by
        refine List.find?_eq_none.mpr fun d member => ?_
        rw [List.eq_of_mem_replicate member, isPassed_dot]
        decide
      have ahead : leadsToCased (rest ++ List.replicate count '.') = leadsToCased rest := by
        rw [leadsToCased, leadsToCased, List.find?_append, unseen, Option.or_none]
      rw [List.cons_append, lowerFrom, lowerFrom, ih, ahead, List.append_assoc]

/-- A text of ASCII is put into lower case letter by letter. -/
theorem lowerFrom_ascii (ascii : ∀ c ∈ cs, c.toNat < 128) :
    lowerFrom inWord cs = cs.map Char.toLower := by
  induction cs generalizing inWord with
  | nil => rfl
  | cons c rest ih =>
      obtain ⟨first, rest⟩ := List.forall_mem_cons.mp ascii
      have other : ¬ (c == 'Σ') = true := by
        intro sigma
        obtain rfl := eq_of_beq sigma
        exact absurd first (by decide)
      rw [lowerFrom, if_neg other, lowerChar, if_pos first, ih rest]
      rfl

/-- A text is of ASCII if its lower case is, unless a k or an i may come from elsewhere. -/
theorem ascii_of_lowerFrom
    (ascii : ∀ d ∈ lowerFrom inWord cs, d.toNat < 128 ∧ d ≠ 'k' ∧ d ≠ 'i') :
    ∀ c ∈ cs, c.toNat < 128 := by
  induction cs generalizing inWord with
  | nil => nofun
  | cons c rest ih =>
      rw [lowerFrom] at ascii
      obtain ⟨first, later⟩ := List.forall_mem_append.mp ascii
      refine List.forall_mem_cons.mpr ⟨?_, ih later⟩
      split at first
      next =>
        obtain ⟨below, -⟩ := first _ (List.mem_singleton_self _)
        split at below <;> exact absurd below (by decide)
      next =>
        obtain ⟨d, member⟩ := List.exists_mem_of_ne_nil _ (lowerChar_ne_nil c)
        obtain ⟨below, kelvin, dotted⟩ := first d member
        rcases (of_mem_lowerChar member).2 with inside | beyond | rfl | rfl
        · exact inside
        · omega
        · exact absurd rfl kelvin
        · exact absurd rfl dotted

end Texts

end Orchestra.Text
