import Mathlib.Data.List.Induction
import Mathlib.Tactic.Ring
import Orchestra.Proofs.Address

/-!
How the parts of internet addresses are written.

An octet has one notation, its decimal digits. A group has several: its hexadecimal digits in any case,
with zeros in front as long as there are no more than four. What is read as an octet or as a group is
one of these, and each of them is read.
-/

namespace Orchestra

namespace Text

variable {separator : Char} {cs : List Char} {parts : List (List Char)}

/-- A text is its parts with separators between them. -/
theorem intercalate_splitAt (separator : Char) (cs : List Char) :
    List.intercalate [separator] (splitAt separator cs) = cs := by
  induction cs with
  | nil => rfl
  | cons c rest ih =>
      rw [splitAt]
      cases parts : splitAt separator rest with
      | nil => exact absurd parts (splitAt_ne_nil _ _)
      | cons part parts' =>
          rw [parts] at ih
          dsimp only
          split
          next same =>
            rw [List.intercalate_cons_cons, ih, eq_of_beq same]
            rfl
          next =>
            rw [← ih]
            cases parts' <;> simp [List.intercalate_cons_cons]

/-- Parts in which there is no separator are found again. -/
theorem splitAt_intercalate (given : parts ≠ []) (clear : ∀ part ∈ parts, separator ∉ part) :
    splitAt separator (List.intercalate [separator] parts) = parts := by
  induction parts with
  | nil => exact absurd rfl given
  | cons part rest ih =>
      obtain ⟨whole, later⟩ := List.forall_mem_cons.mp clear
      cases rest with
      | nil => simpa using splitAt_of_notMem whole
      | cons next rest =>
          rw [List.intercalate_cons_cons, List.append_assoc, List.singleton_append,
            splitAt_append whole, ih (List.cons_ne_nil _ _) later]

end Text

namespace Address

open Text

variable {cs : List Char} {n : Nat}

/-! Digits and their value -/

/-- The number that a row of digits stands for. -/
def valueOf (base : Nat) (digits : List Nat) : Nat :=
  digits.foldl (fun n digit => base * n + digit) 0

@[simp] theorem valueOf_nil (base : Nat) : valueOf base [] = 0 := rfl

@[simp] theorem valueOf_singleton (base digit : Nat) : valueOf base [digit] = digit := by
  simp [valueOf]

theorem valueOf_concat (base : Nat) (digits : List Nat) (digit : Nat) :
    valueOf base (digits ++ [digit]) = base * valueOf base digits + digit := by
  simp [valueOf]

theorem valueOf_append (base : Nat) (front back : List Nat) :
    valueOf base (front ++ back) = valueOf base front * base ^ back.length + valueOf base back := by
  induction back using List.reverseRecOn with
  | nil => simp
  | append_singleton back digit ih =>
      rw [← List.append_assoc, valueOf_concat, valueOf_concat, ih, List.length_append,
        List.length_singleton]
      ring

theorem valueOf_zeros (base count : Nat) : valueOf base (List.replicate count 0) = 0 := by
  induction count with
  | zero => rfl
  | succ count ih => rw [List.replicate_succ', valueOf_concat, ih, Nat.mul_zero]

/-- What is put together from readable pieces is the value of what they are read as. -/
theorem foldlM_eq_some_iff {α : Type} {read : α → Option Nat} {base start : Nat} {xs : List α} :
    xs.foldlM (fun n x => (read x).map fun digit => base * n + digit) start = some n ↔
      ∃ digits, List.Forall₂ (fun digit x => read x = some digit) digits xs ∧
        digits.foldl (fun n digit => base * n + digit) start = n := by
  induction xs generalizing start with
  | nil => simp
  | cons x rest ih =>
      rw [List.foldlM_cons]
      constructor
      · intro folded
        obtain ⟨next, first, later⟩ := Option.bind_eq_some_iff.mp folded
        obtain ⟨digit, known, rfl⟩ := Option.map_eq_some_iff.mp first
        obtain ⟨digits, each, value⟩ := ih.mp later
        exact ⟨digit :: digits, .cons known each, value⟩
      · rintro ⟨_, each, value⟩
        cases each with
        | cons known each =>
            exact Option.bind_eq_some_iff.mpr ⟨_, by rw [known]; rfl, ih.mpr ⟨_, each, value⟩⟩

/-- A row of digits is the notation of its value, with zeros in front. -/
theorem exists_zeros {base : Nat} (proper : 1 < base) {digits : List Nat}
    (small : ∀ digit ∈ digits, digit < base) (given : digits ≠ []) :
    ∃ zeros, digits.map Nat.digitChar =
      List.replicate zeros '0' ++ Nat.toDigits base (valueOf base digits) := by
  induction digits using List.reverseRecOn with
  | nil => exact absurd rfl given
  | append_singleton front digit ih =>
      have own : Nat.toDigits base digit = [Nat.digitChar digit] :=
        Nat.toDigits_of_lt_base (small digit (by simp))
      rw [valueOf_concat, List.map_append, List.map_singleton, ← own]
      by_cases first : front = []
      · exact ⟨0, by simp [first]⟩
      obtain ⟨zeros, same⟩ := ih (fun digit member => small digit (by simp [member])) first
      rw [same]
      cases value : valueOf base front with
      | zero =>
          -- all digits in front are zeros, and so is the one that they are the notation of
          refine ⟨zeros + 1, ?_⟩
          rw [Nat.toDigits_of_lt_base (Nat.lt_trans Nat.zero_lt_one proper), List.replicate_succ']
          simp
      | succ rest =>
          refine ⟨zeros, ?_⟩
          rw [List.append_assoc, Nat.toDigits_append_toDigits proper (Nat.succ_pos _)
            (small digit (by simp))]

/-- The notation of a number is a row of digits that stands for it. -/
theorem exists_digits {base : Nat} (proper : 1 < base) (n : Nat) :
    ∃ digits, Nat.toDigits base n = digits.map Nat.digitChar ∧ (∀ digit ∈ digits, digit < base) ∧
      valueOf base digits = n := by
  induction n using Nat.strongRecOn with
  | _ n ih =>
      rw [Nat.toDigits_eq_if proper]
      split
      next small => exact ⟨[n], rfl, by simpa using small, by simp⟩
      next large =>
        obtain ⟨digits, same, small, value⟩ := ih (n / base) (Nat.div_lt_self (by omega) proper)
        have last : n % base < base := Nat.mod_lt n (by omega)
        refine ⟨digits ++ [n % base], by simp [same], ?_, ?_⟩
        · intro digit member
          rcases List.mem_append.mp member with front | own
          · exact small digit front
          · rw [List.mem_singleton.mp own]
            exact last
        · rw [valueOf_concat, value, Nat.div_add_mod]

/-! Octets -/

theorem exists_digitChar {c : Char} (digit : c.isDigit = true) :
    c.toNat - 48 < 10 ∧ c = Nat.digitChar (c.toNat - 48) := by
  have bounds := isDigit_bounds digit
  have every : ∀ n < 10, Char.ofNat (n + 48) = Nat.digitChar n := by decide
  have small : c.toNat - 48 < 10 := by omega
  refine ⟨small, ?_⟩
  rw [← every _ small, Nat.sub_add_cancel bounds.1, Char.ofNat_toNat]

/-- An octet is read from its decimal digits and from nothing else. -/
theorem readOctet_eq_some_iff : readOctet cs = some n ↔ n ≤ 255 ∧ cs = Nat.toDigits 10 n := by
  constructor
  · intro read
    obtain ⟨given, read⟩ := Option.ite_none_left_eq_some.mp read
    obtain ⟨unpadded, read⟩ := Option.ite_none_left_eq_some.mp read
    obtain ⟨small, same⟩ := Option.ite_none_right_eq_some.mp read
    simp only [Bool.or_eq_true, not_or, Bool.not_eq_true', Bool.not_eq_false,
      List.isEmpty_iff] at given
    have digits : ∀ c ∈ cs, c.toNat - 48 < 10 ∧ Nat.digitChar (c.toNat - 48) = c := by
      intro c member
      obtain ⟨below, same⟩ := exists_digitChar (List.all_eq_true.mp given.1.2 c member)
      exact ⟨below, same.symm⟩
    have ten : ∀ digit ∈ cs.map fun c => c.toNat - 48, digit < 10 :=
      List.forall_mem_map.mpr fun c member => (digits c member).1
    have given : (cs.map fun c => c.toNat - 48) ≠ [] := mt List.map_eq_nil_iff.mp given.1.1
    obtain ⟨zeros, padded⟩ := exists_zeros (by decide : 1 < 10) ten given
    have value : valueOf 10 (cs.map fun c => c.toNat - 48) =
        cs.foldl (fun n c => 10 * n + (c.toNat - 48)) 0 := List.foldl_map
    have chars : (cs.map fun c => c.toNat - 48).map Nat.digitChar = cs := by
      rw [List.map_map]
      exact (List.map_congr_left fun c member => (digits c member).2).trans (List.map_id cs)
    rw [value, chars, Option.some.inj same] at padded
    rw [Option.some.inj same] at small
    refine ⟨small, ?_⟩
    cases zeros with
    | zero => exact padded
    | succ zeros =>
        -- a zero in front of at least one digit would have been refused
        have more : Nat.toDigits 10 n ≠ [] := Nat.toDigits_ne_nil
        refine absurd ?_ unpadded
        rw [padded, List.replicate_succ]
        simp [more]
  · rintro ⟨small, rfl⟩
    have every : ∀ n < 256, readOctet (Nat.toDigits 10 n) = some n := by decide +kernel
    exact every n (by omega)

/-! Short addresses -/

/-- The octets of a short address. -/
def octetsOf (bits : Nat) : List Nat :=
  [bits / 16777216, bits / 65536 % 256, bits / 256 % 256, bits % 256]

/-- A short address as it is written: its octets in decimal digits, with dots between them. -/
def dotted (bits : Nat) : List Char :=
  List.intercalate ['.'] ((octetsOf bits).map (Nat.toDigits 10))

theorem octetsOf_eq (bits : Nat) :
    octetsOf bits = [bits / 256 / 256 / 256, bits / 256 / 256 % 256, bits / 256 % 256, bits % 256] := by
  simp only [octetsOf, Nat.div_div_eq_div_mul, Nat.reduceMul]

/-- An octet is cut off from the end of what it was put behind. -/
theorem octet_cut {high low : Nat} (small : low ≤ 255) :
    (high * 256 + low) / 256 = high ∧ (high * 256 + low) % 256 = low := by
  omega

theorem notMem_toDigits {c : Char} (other : c.isDigit = false) (n : Nat) :
    c ∉ Nat.toDigits 10 n := by
  intro member
  cases other.symm.trans (Nat.isDigit_of_mem_toDigits (by decide) (Nat.le_refl _) member)

theorem splitAt_dotted (bits : Nat) :
    splitAt '.' (dotted bits) = (octetsOf bits).map (Nat.toDigits 10) :=
  splitAt_intercalate (by simp [octetsOf])
    (List.forall_mem_map.mpr fun n _ => notMem_toDigits rfl n)

/-- A short address is read from its octets in decimal digits and from nothing else. -/
theorem readV4_eq_some_iff {bits : Nat} :
    readV4 cs = some bits ↔ bits < 2 ^ 32 ∧ cs = dotted bits := by
  constructor
  · intro read
    have whole := intercalate_splitAt '.' cs
    rw [readV4] at read
    split at read
    next a b c d parts =>
      obtain ⟨first, one, read⟩ := Option.bind_eq_some_iff.mp read
      obtain ⟨second, two, read⟩ := Option.bind_eq_some_iff.mp read
      obtain ⟨third, three, read⟩ := Option.bind_eq_some_iff.mp read
      obtain ⟨fourth, four, same⟩ := Option.bind_eq_some_iff.mp read
      obtain ⟨small₁, rfl⟩ := readOctet_eq_some_iff.mp one
      obtain ⟨small₂, rfl⟩ := readOctet_eq_some_iff.mp two
      obtain ⟨small₃, rfl⟩ := readOctet_eq_some_iff.mp three
      obtain ⟨small₄, rfl⟩ := readOctet_eq_some_iff.mp four
      obtain rfl := Option.some.inj same
      have octets : octetsOf (((first * 256 + second) * 256 + third) * 256 + fourth) =
          [first, second, third, fourth] := by
        simp only [octetsOf_eq, octet_cut, small₂, small₃, small₄]
      rw [parts] at whole
      exact ⟨by omega, by rw [dotted, octets, ← whole]; rfl⟩
    next => cases read
  · rintro ⟨small, rfl⟩
    have octet {n : Nat} (below : n ≤ 255) : readOctet (Nat.toDigits 10 n) = some n :=
      readOctet_eq_some_iff.mpr ⟨below, rfl⟩
    have last (n : Nat) : n % 256 ≤ 255 := Nat.le_of_lt_succ (Nat.mod_lt n (by decide))
    have first : bits / 256 / 256 / 256 ≤ 255 := by omega
    rw [readV4, splitAt_dotted, octetsOf_eq]
    simp only [List.map_cons, List.map_nil, octet first, octet (last _)]
    refine congrArg some ?_
    simp only [Nat.div_add_mod']

/-! Groups -/

/-- A group as it may be written: up to four hexadecimal digits in any case, zeros in front
included. -/
structure GroupText (n : Nat) (cs : List Char) : Prop where
  digits : ∃ zeros, cs.map Char.toLower = List.replicate zeros '0' ++ Nat.toDigits 16 n
  short : cs.length ≤ 4

theorem hexDigit?_eq_some_iff {c : Char} {digit : Nat} :
    hexDigit? c = some digit ↔ digit < 16 ∧ c.toLower = Nat.digitChar digit := by
  constructor
  · intro read
    have every : ∀ n < 128, ∀ digit ∈ hexDigit? (Char.ofNat n),
        digit < 16 ∧ (Char.ofNat n).toLower = Nat.digitChar digit := by decide
    have char : IsAddressChar c := .inl (by rw [read]; rfl)
    have found := every c.toNat (isAddressChar_ascii c char).1
    rw [Char.ofNat_toNat] at found
    exact found digit read
  · rintro ⟨small, same⟩
    have every : ∀ digit < 16, hexDigit? (Nat.digitChar digit) = some digit := by decide
    rw [← hexDigit?_toLower, same, every digit small]

/-- Characters are read as digits if those are written like them, but for their case. -/
theorem hexDigits_iff {digits : List Nat} :
    List.Forall₂ (fun digit c => hexDigit? c = some digit) digits cs ↔
      (∀ digit ∈ digits, digit < 16) ∧ cs.map Char.toLower = digits.map Nat.digitChar := by
  constructor
  · intro each
    induction each with
    | nil => simp
    | cons first _ ih =>
        obtain ⟨small, same⟩ := hexDigit?_eq_some_iff.mp first
        exact ⟨List.forall_mem_cons.mpr ⟨small, ih.1⟩, by rw [List.map_cons, List.map_cons, same, ih.2]⟩
  · rintro ⟨small, same⟩
    induction digits generalizing cs with
    | nil =>
        obtain rfl := List.map_eq_nil_iff.mp same
        exact .nil
    | cons digit digits ih =>
        obtain ⟨c, rest, rfl, first, later⟩ := List.map_eq_cons_iff.mp same
        obtain ⟨own, others⟩ := List.forall_mem_cons.mp small
        exact .cons (hexDigit?_eq_some_iff.mpr ⟨own, first⟩) (ih others later)

/-- A group is read from each of its notations and from nothing else. -/
theorem readGroup_eq_some_iff : readGroup cs = some n ↔ GroupText n cs := by
  constructor
  · intro read
    obtain ⟨given, folded⟩ := Option.ite_none_left_eq_some.mp read
    simp only [Bool.or_eq_true, not_or, List.isEmpty_iff, decide_eq_true_eq] at given
    obtain ⟨digits, each, value⟩ := foldlM_eq_some_iff.mp folded
    obtain ⟨small, same⟩ := hexDigits_iff.mp each
    have some : digits ≠ [] := by
      rintro rfl
      exact given.1 (List.map_eq_nil_iff.mp same)
    obtain ⟨zeros, padded⟩ := exists_zeros (by decide : 1 < 16) small some
    have own : valueOf 16 digits = n := value
    exact ⟨⟨zeros, by rw [same, padded, own]⟩, by omega⟩
  · rintro ⟨⟨zeros, same⟩, short⟩
    obtain ⟨digits, written, small, value⟩ := exists_digits (by decide : 1 < 16) n
    have given : cs ≠ [] := by
      rintro rfl
      cases Nat.toDigits_ne_nil (List.append_eq_nil_iff.mp same.symm).2
    refine Option.ite_none_left_eq_some.mpr ⟨by simp [given, short], foldlM_eq_some_iff.mpr
      ⟨List.replicate zeros 0 ++ digits, hexDigits_iff.mpr ⟨?_, ?_⟩, ?_⟩⟩
    · intro digit member
      rcases List.mem_append.mp member with zero | own
      · rw [List.eq_of_mem_replicate zero]
        decide
      · exact small digit own
    · rw [same, written, List.map_append, List.map_replicate]
      rfl
    · refine (valueOf_append 16 _ digits).trans ?_
      rw [valueOf_zeros, Nat.zero_mul, Nat.zero_add, value]

/-- Groups in a row are read from each of their notations and from nothing else. -/
theorem readGroups_eq_some_iff {parts : List (List Char)} :
    readGroups parts = some n ↔
      ∃ groups, List.Forall₂ GroupText groups parts ∧ valueOf 65536 groups = n := by
  simp only [readGroups, foldlM_eq_some_iff, readGroup_eq_some_iff]
  rfl

theorem GroupText.ne_nil (text : GroupText n cs) : cs ≠ [] := by
  rintro rfl
  cases readGroup_eq_some_iff.mpr text

theorem GroupText.unique {m : Nat} (text : GroupText n cs) (again : GroupText m cs) : n = m :=
  Option.some.inj ((readGroup_eq_some_iff.mpr text).symm.trans (readGroup_eq_some_iff.mpr again))

/-- The shortest notation of a group. -/
theorem groupText_toDigits (small : n < 65536) : GroupText n (Nat.toDigits 16 n) where
  digits := by
    obtain ⟨digits, same, small, -⟩ := exists_digits (by decide : 1 < 16) n
    have lower : ∀ digit < 16, (Nat.digitChar digit).toLower = Nat.digitChar digit := by decide
    refine ⟨0, ?_⟩
    rw [List.replicate_zero, List.nil_append, same, List.map_map]
    exact List.map_congr_left fun digit member => lower digit (small digit member)
  short := (Nat.length_toDigits_le_iff (by decide) (by decide)).mpr small

end Address

end Orchestra
