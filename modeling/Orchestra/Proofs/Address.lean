import Mathlib.Data.List.Forall2
import Orchestra.Address.Reader
import Orchestra.Proofs.Text.Lower
import Orchestra.Text.Integer

/-!
The reading of internet addresses does not look at the case of letters.
-/

namespace Orchestra

namespace Text

/-- Two characters are the same letter of ASCII, or the same character. -/
def SameLetter (c d : Char) : Prop :=
  c.toLower = d.toLower

/-- Two texts are the same but for the case of letters of ASCII. -/
abbrev SameLetters : List Char → List Char → Prop :=
  List.Forall₂ SameLetter

variable {c d : Char} {cs ds : List Char} {separator : Char}

theorem toLower_of_beyond (beyond : 128 ≤ c.toNat) : c.toLower = c := by
  refine dif_neg fun inside => ?_
  have : c.toNat ≤ 90 := inside.2
  omega

/-- What holds of the characters of ASCII and of all that have no capital form in it holds of all. -/
theorem of_ascii {Holds : Char → Prop} (ascii : ∀ n < 128, Holds (Char.ofNat n))
    (beyond : ∀ c : Char, c.toLower = c → 128 ≤ c.toNat → Holds c) (c : Char) : Holds c := by
  by_cases inside : c.toNat < 128
  · rw [← Char.ofNat_toNat c]
    exact ascii _ inside
  · exact beyond c (toLower_of_beyond (by omega)) (by omega)

/-- A character that is no letter of ASCII. -/
def Caseless (separator : Char) : Prop :=
  ∀ c : Char, c.toLower = separator.toLower → c = separator

theorem caseless_of_ascii (own : separator.toLower = separator)
    (alone : ∀ n < 128, (Char.ofNat n).toLower = separator → Char.ofNat n = separator) :
    Caseless separator := by
  unfold Caseless
  rw [own]
  exact of_ascii alone fun c same _ lower => same.symm.trans lower

theorem caseless_dot : Caseless '.' :=
  caseless_of_ascii rfl (by decide)

theorem caseless_colon : Caseless ':' :=
  caseless_of_ascii rfl (by decide)

theorem SameLetter.eq_iff (same : SameLetter c d) (caseless : Caseless separator) :
    c = separator ↔ d = separator := by
  constructor
  · rintro rfl
    exact caseless d same.symm
  · rintro rfl
    exact caseless c same

theorem SameLetters.refl (cs : List Char) : SameLetters cs cs :=
  List.forall₂_same.mpr fun _ _ => rfl

theorem SameLetters.symm (same : SameLetters cs ds) : SameLetters ds cs :=
  (List.Forall₂.flip same).imp fun _ _ => Eq.symm

theorem sameLetters_iff : SameLetters cs ds ↔ cs.map Char.toLower = ds.map Char.toLower := by
  rw [← List.forall₂_eq_eq_eq, List.forall₂_map_left_iff, List.forall₂_map_right_iff]
  rfl

theorem SameLetters.mem_iff (same : SameLetters cs ds) (caseless : Caseless separator) :
    separator ∈ cs ↔ separator ∈ ds := by
  induction same with
  | nil => rfl
  | cons first _ ih => rw [List.mem_cons, List.mem_cons, ih, eq_comm, first.eq_iff caseless, eq_comm]

/-- Texts that are the same but for the case of letters fall into such parts. -/
theorem SameLetters.splitAt (same : SameLetters cs ds) (caseless : Caseless separator) :
    List.Forall₂ SameLetters (splitAt separator cs) (splitAt separator ds) := by
  induction same with
  | nil => exact .cons .nil .nil
  | @cons c d cs ds first _ ih =>
      rw [Text.splitAt, Text.splitAt]
      generalize Text.splitAt separator cs = parts, Text.splitAt separator ds = others at ih
      cases ih with
      | nil => exact .cons (.cons first .nil) .nil
      | cons front rest =>
          have cut : (c == separator) = (d == separator) := by
            rw [Bool.eq_iff_iff, beq_iff_eq, beq_iff_eq]
            exact first.eq_iff caseless
          dsimp only
          rw [cut]
          split
          · exact .cons .nil (.cons front rest)
          · exact .cons (.cons first front) rest

/-- Every character of a text separates its parts or lies in one of them. -/
theorem mem_splitAt (separator : Char) (member : c ∈ cs) :
    c = separator ∨ ∃ part ∈ splitAt separator cs, c ∈ part := by
  induction cs with
  | nil => cases member
  | cons first rest ih =>
      rw [splitAt]
      cases parts : splitAt separator rest with
      | nil =>
          rw [parts] at ih
          rcases List.mem_cons.mp member with rfl | later
          · exact .inr ⟨[c], .head _, .head _⟩
          · rcases ih later with same | ⟨_, none, -⟩
            · exact .inl same
            · cases none
      | cons part parts' =>
          rw [parts] at ih
          dsimp only
          rcases List.mem_cons.mp member with rfl | later
          · by_cases same : c = separator
            · exact .inl same
            · rw [if_neg (by simpa using same)]
              exact .inr ⟨c :: part, .head _, .head _⟩
          · rcases ih later with same | ⟨found, inside, there⟩
            · exact .inl same
            · right
              split
              · exact ⟨found, .tail _ inside, there⟩
              · rcases List.mem_cons.mp inside with rfl | inside
                · exact ⟨_, .head _, .tail _ there⟩
                · exact ⟨found, .tail _ inside, there⟩

theorem splitAt_of_notMem (whole : separator ∉ cs) : splitAt separator cs = [cs] := by
  induction cs with
  | nil => rfl
  | cons c rest ih =>
      obtain ⟨other, later⟩ := not_or.mp (mt List.mem_cons.mpr whole)
      rw [splitAt, ih later]
      exact if_neg (by simpa using Ne.symm other)

theorem splitAt_ne_nil (separator : Char) (cs : List Char) : splitAt separator cs ≠ [] := by
  cases cs with
  | nil => exact List.cons_ne_nil _ _
  | cons c rest =>
      rw [splitAt]
      split
      · exact List.cons_ne_nil _ _
      · split <;> exact List.cons_ne_nil _ _

theorem splitAt_append (whole : separator ∉ cs) (rest : List Char) :
    splitAt separator (cs ++ separator :: rest) = cs :: splitAt separator rest := by
  induction cs with
  | nil =>
      rw [List.nil_append, splitAt]
      cases parts : splitAt separator rest with
      | nil => exact absurd parts (splitAt_ne_nil _ _)
      | cons => exact if_pos BEq.rfl
  | cons c cs ih =>
      obtain ⟨other, later⟩ := not_or.mp (mt List.mem_cons.mpr whole)
      rw [List.cons_append, splitAt, ih later]
      exact if_neg (by simpa using Ne.symm other)

/-- Behind a separator at the end of a text stands an empty part. -/
theorem splitAt_concat (separator : Char) (cs : List Char) :
    splitAt separator (cs ++ [separator]) = splitAt separator cs ++ [[]] := by
  induction cs with
  | nil => exact if_pos BEq.rfl
  | cons c rest ih =>
      rw [List.cons_append, splitAt, splitAt, ih]
      cases parts : splitAt separator rest with
      | nil => exact absurd parts (splitAt_ne_nil _ _)
      | cons part parts =>
          dsimp only [List.cons_append]
          split <;> rfl

/-- A caseless character of ASCII stands in lower case where it stood before. -/
theorem mem_lowerFrom_iff {inWord : Bool} (caseless : Caseless separator)
    (own : separator.toLower = separator) (ascii : separator.toNat < 128)
    (alone : separator ≠ 'k' ∧ separator ≠ 'i') :
    separator ∈ lowerFrom inWord cs ↔ separator ∈ cs := by
  constructor
  · intro member
    obtain ⟨c, inside, small | ⟨-, rfl | rfl⟩⟩ := mem_lowerFrom member
    · rcases (of_mem_lowerChar small).2 with below | beyond | kelvin | dotted
      · rw [lowerChar, if_pos below, List.mem_singleton] at small
        rw [← caseless c (small.symm.trans own.symm)]
        exact inside
      · omega
      · exact absurd kelvin alone.1
      · exact absurd dotted alone.2
    · exact absurd ascii (by decide)
    · exact absurd ascii (by decide)
  · intro member
    induction cs generalizing inWord with
    | nil => cases member
    | cons c rest ih =>
        rw [lowerFrom, List.mem_append]
        rcases List.mem_cons.mp member with rfl | later
        · left
          have other : ¬ (separator == 'Σ') = true := by
            intro sigma
            obtain rfl := eq_of_beq sigma
            exact absurd ascii (by decide)
          rw [if_neg other, lowerChar, if_pos ascii, own]
          exact List.mem_singleton_self _
        · exact .inr (ih later)

end Text

namespace Address

open Text

variable {c d : Char} {cs ds : List Char} {parts others : List (List Char)}

/-- Texts that are the same but for the case of letters, one for one. -/
abbrev SameParts : List (List Char) → List (List Char) → Prop :=
  List.Forall₂ SameLetters

theorem hexDigit?_toLower : ∀ c : Char, hexDigit? c.toLower = hexDigit? c :=
  of_ascii (by decide) fun _ same _ => by rw [same]

theorem hexDigit?_congr (same : SameLetter c d) : hexDigit? c = hexDigit? d := by
  rw [← hexDigit?_toLower, same, hexDigit?_toLower]

/-- A decimal digit has no other form. -/
theorem eq_of_isDigit (same : SameLetter c d) (digit : d.isDigit = true) : c = d := by
  have caseless : Caseless d := by
    have every : ∀ n < 10, (Char.ofNat (n + 48)).toLower = Char.ofNat (n + 48) ∧
        ∀ m < 128, (Char.ofNat m).toLower = Char.ofNat (n + 48) →
          Char.ofNat m = Char.ofNat (n + 48) := by
      decide
    have bounds := isDigit_bounds digit
    have alone := every (d.toNat - 48) (by omega)
    rw [Nat.sub_add_cancel bounds.1, Char.ofNat_toNat] at alone
    exact caseless_of_ascii alone.1 alone.2
  exact caseless c same

theorem eq_of_all_isDigit (same : SameLetters cs ds) (digits : ds.all Char.isDigit = true) :
    cs = ds := by
  induction same with
  | nil => rfl
  | cons first _ ih =>
      rw [List.all_cons, Bool.and_eq_true] at digits
      rw [eq_of_isDigit first digits.1, ih digits.2]

theorem readOctet_congr (same : SameLetters cs ds) : readOctet cs = readOctet ds := by
  by_cases digits : ds.all Char.isDigit = true
  · rw [eq_of_all_isDigit same digits]
  · have undigits : ¬ cs.all Char.isDigit = true := fun all =>
      digits (eq_of_all_isDigit same.symm all ▸ all)
    simp [readOctet, digits, undigits]

theorem readV4_congr (same : SameLetters cs ds) : readV4 cs = readV4 ds := by
  have parts := same.splitAt caseless_dot
  rw [readV4, readV4]
  generalize splitAt '.' cs = left, splitAt '.' ds = right at parts
  rcases parts with _ | ⟨a, _ | ⟨b, _ | ⟨c, _ | ⟨d, _ | _⟩⟩⟩⟩
  case cons.cons.cons.cons.nil =>
    simp only [readOctet_congr a, readOctet_congr b, readOctet_congr c, readOctet_congr d]
  all_goals rfl

theorem readGroup_congr (same : SameLetters cs ds) : readGroup cs = readGroup ds := by
  have folded : ∀ n, cs.foldlM (fun n c => (hexDigit? c).map fun digit => 16 * n + digit) n =
      ds.foldlM (fun n c => (hexDigit? c).map fun digit => 16 * n + digit) n := by
    induction same with
    | nil => exact fun _ => rfl
    | cons first _ ih => intro n; simp only [List.foldlM_cons, hexDigit?_congr first, ih]
  have empty : cs.isEmpty = ds.isEmpty := by cases same <;> rfl
  rw [readGroup, readGroup, empty, same.length_eq, folded]

theorem readGroups_congr (same : SameParts parts others) : readGroups parts = readGroups others := by
  rw [readGroups, readGroups]
  generalize 0 = n
  induction same generalizing n with
  | nil => rfl
  | cons first _ ih => simp only [List.foldlM_cons, readGroup_congr first, ih]

theorem getLast?_congr {α : Type} {related : α → α → Prop} {xs ys : List α}
    (pairs : List.Forall₂ related xs ys) : Option.Rel related xs.getLast? ys.getLast? := by
  have turned := List.forall₂_reverse_iff.mpr pairs
  rw [← List.head?_reverse, ← List.head?_reverse]
  generalize xs.reverse = front, ys.reverse = others at turned
  cases turned with
  | nil => exact .none
  | cons first => exact .some first

theorem withoutOctets_congr (same : SameParts parts others) :
    Option.Rel SameParts (withoutOctets parts) (withoutOctets others) := by
  have last := getLast?_congr same
  rw [withoutOctets, withoutOctets]
  generalize parts.getLast? = tail, others.getLast? = final at last
  cases last with
  | none => exact .some same
  | some tails =>
      have dotted := tails.mem_iff caseless_dot
      simp only [List.contains_iff_mem, dotted, readV4_congr tails]
      split
      · cases readV4 _ with
        | none => exact .none
        | some bits =>
            refine .some (List.rel_append ?_ ?_)
            · rw [List.dropLast_eq_take, List.dropLast_eq_take, same.length_eq]
              exact List.forall₂_take _ same
            · exact .cons (.refl _) (.cons (.refl _) .nil)
      · exact .some same

theorem getElem?_congr (same : SameParts parts others) (i : Nat) :
    Option.Rel SameLetters parts[i]? others[i]? := by
  induction same generalizing i with
  | nil => exact .none
  | cons first _ ih =>
      cases i with
      | zero => exact .some first
      | succ i => exact ih i

theorem gaps_congr (same : SameParts parts others) : gaps parts = gaps others := by
  have empty : ∀ i : Nat, (parts[i]?.map List.isEmpty) = others[i]?.map List.isEmpty := by
    intro i
    have pair := getElem?_congr same i
    generalize parts[i]? = x, others[i]? = y at pair
    cases pair with
    | none => rfl
    | some pair => cases pair <;> rfl
  simp only [gaps, same.length_eq, empty]

theorem beforeGap_congr (same : SameParts parts others) :
    Option.Rel SameParts (beforeGap parts) (beforeGap others) := by
  cases same with
  | nil => exact .some .nil
  | cons first rest =>
      cases first with
      | nil => cases rest with
        | nil => exact .some .nil
        | cons => exact .none
      | cons => exact .some (.cons (.cons ‹_› ‹_›) rest)

theorem afterGap_congr (same : SameParts parts others) :
    Option.Rel SameParts (afterGap parts) (afterGap others) := by
  have turned := List.forall₂_reverse_iff.mpr same
  rw [afterGap, afterGap]
  generalize parts.reverse = front, others.reverse = back at turned
  cases turned with
  | nil => exact .some same
  | cons first rest =>
      cases first with
      | nil => cases rest with
        | nil => exact .some .nil
        | cons => exact .none
      | cons => exact .some same

/-- Parts between colons spell a number: eight groups, or fewer around a gap. -/
inductive Spells (parts : List (List Char)) : Nat → Prop
  | full {bits : Nat} (whole : gaps parts = []) (eight : parts.length = 8)
      (read : readGroups parts = some bits) : Spells parts bits
  | around {gap high low : Nat} {front back : List (List Char)} (one : gaps parts = [gap])
      (before : beforeGap (parts.take gap) = some front)
      (after : afterGap (parts.drop (gap + 1)) = some back)
      (room : front.length + back.length < 8) (first : readGroups front = some high)
      (second : readGroups back = some low) :
      Spells parts (high * Nat.pow 65536 (8 - front.length) + low)

theorem readV6_eq_some_iff {bits : Nat} :
    readV6 cs = some bits ↔ 3 ≤ (splitAt ':' cs).length ∧
      ∃ parts, withoutOctets (splitAt ':' cs) = some parts ∧ parts.length ≤ 9 ∧
        Spells parts bits := by
  rw [readV6]
  by_cases few : (splitAt ':' cs).length < 3
  · simp only [few, if_true, Option.bind_eq_bind, Option.bind_none]
    exact iff_of_false nofun fun many => by omega
  simp only [few, if_false, Nat.le_of_not_lt few, true_and]
  cases withoutOctets (splitAt ':' cs) with
  | none => exact iff_of_false nofun nofun
  | some parts =>
      simp only [Option.some.injEq, exists_eq_left', Option.bind_eq_bind, Option.bind_some]
      by_cases many : 9 < parts.length
      · simp only [many, if_true, Option.bind_none]
        exact iff_of_false nofun fun few => by omega
      simp only [many, if_false, Nat.le_of_not_lt many, true_and]
      constructor
      · intro found
        split at found
        next whole =>
          obtain ⟨eight, read⟩ := Option.ite_none_right_eq_some.mp found
          exact .full whole (eq_of_beq eight) read
        next gap one =>
          obtain ⟨front, before, found⟩ := Option.bind_eq_some_iff.mp found
          obtain ⟨back, after, found⟩ := Option.bind_eq_some_iff.mp found
          split at found
          next => cases found
          next room =>
            obtain ⟨high, first, found⟩ := Option.bind_eq_some_iff.mp found
            obtain ⟨low, second, found⟩ := Option.bind_eq_some_iff.mp found
            cases found
            exact .around one before after (Nat.lt_of_not_le room) first second
        next => cases found
      · intro spells
        cases spells with
        | full whole eight read => simp only [whole, eight, BEq.rfl, if_true, read]
        | around one before after room first second =>
            simp only [one, before, after, first, second, Option.bind_some, Nat.not_le.mpr room,
              if_false]
            rfl

theorem Spells.congr {bits : Nat} (spells : Spells parts bits) (same : SameParts parts others) :
    Spells others bits := by
  cases spells with
  | full whole eight read =>
      exact .full (gaps_congr same ▸ whole) (same.length_eq ▸ eight)
        (readGroups_congr same ▸ read)
  | @around gap _ _ _ _ one before after room first second =>
      have front := beforeGap_congr (List.forall₂_take gap same)
      have back := afterGap_congr (List.forall₂_drop (gap + 1) same)
      rw [before] at front
      rw [after] at back
      generalize left : beforeGap (others.take gap) = x at front
      generalize right : afterGap (others.drop (gap + 1)) = y at back
      cases front with
      | some front =>
      cases back with
      | some back =>
      rw [front.length_eq] at room ⊢
      rw [back.length_eq] at room
      exact .around (gaps_congr same ▸ one) left right room (readGroups_congr front ▸ first)
        (readGroups_congr back ▸ second)

theorem readV6_congr {bits : Nat} (same : SameLetters cs ds) (read : readV6 cs = some bits) :
    readV6 ds = some bits := by
  obtain ⟨many, parts, given, few, spells⟩ := readV6_eq_some_iff.mp read
  have split := same.splitAt caseless_colon
  have octets := withoutOctets_congr split
  rw [given] at octets
  generalize others : withoutOctets (splitAt ':' ds) = right at octets
  cases octets with
  | some alike =>
      exact readV6_eq_some_iff.mpr ⟨split.length_eq ▸ many, _, others, alike.length_eq ▸ few,
        spells.congr alike⟩

/-- The characters that addresses are written with, scopes aside. -/
def IsAddressChar (c : Char) : Prop :=
  (hexDigit? c).isSome = true ∨ c = ':' ∨ c = '.'

/-- A number is put together only from parts that are read. -/
theorem isSome_of_foldlM {α : Type} {read : α → Option Nat} {join : Nat → Nat → Nat}
    {xs : List α} {n value : Nat}
    (folded : xs.foldlM (fun n x => (read x).map (join n)) n = some value) :
    ∀ x ∈ xs, (read x).isSome = true := by
  induction xs generalizing n with
  | nil => nofun
  | cons x rest ih =>
      rw [List.foldlM_cons] at folded
      obtain ⟨next, first, later⟩ := Option.bind_eq_some_iff.mp folded
      have head : (read x).isSome = true := by
        rw [← Option.isSome_map (f := join n), first]
        rfl
      exact List.forall_mem_cons.mpr ⟨head, ih later⟩

theorem hexDigits_of_readGroup (read : (readGroup cs).isSome = true) :
    ∀ c ∈ cs, (hexDigit? c).isSome = true := by
  obtain ⟨value, read⟩ := Option.isSome_iff_exists.mp read
  exact isSome_of_foldlM (Option.ite_none_left_eq_some.mp read).2

theorem hexDigits_of_readGroups {value : Nat} (read : readGroups parts = some value) :
    ∀ part ∈ parts, ∀ c ∈ part, (hexDigit? c).isSome = true :=
  fun part member => hexDigits_of_readGroup (isSome_of_foldlM read part member)

theorem digits_of_readOctet {value : Nat} (read : readOctet cs = some value) :
    ∀ c ∈ cs, c.isDigit = true := by
  obtain ⟨given, -⟩ := Option.ite_none_left_eq_some.mp read
  simp only [Bool.or_eq_true, not_or, Bool.not_eq_true', Bool.not_eq_false] at given
  exact List.all_eq_true.mp given.1.2

theorem isAddressChar_of_isDigit (digit : c.isDigit = true) : IsAddressChar c :=
  .inl (by rw [hexDigit?, if_pos digit]; rfl)

theorem octets_of_readV4 {bits : Nat} (read : readV4 cs = some bits) :
    ∀ part ∈ splitAt '.' cs, ∃ value, readOctet part = some value := by
  rw [readV4] at read
  split at read
  next a b c d parts =>
    obtain ⟨_, first, read⟩ := Option.bind_eq_some_iff.mp read
    obtain ⟨_, second, read⟩ := Option.bind_eq_some_iff.mp read
    obtain ⟨_, third, read⟩ := Option.bind_eq_some_iff.mp read
    obtain ⟨_, fourth, read⟩ := Option.bind_eq_some_iff.mp read
    intro part inside
    rw [parts] at inside
    simp only [List.mem_cons, List.not_mem_nil, or_false] at inside
    rcases inside with rfl | rfl | rfl | rfl
    exacts [⟨_, first⟩, ⟨_, second⟩, ⟨_, third⟩, ⟨_, fourth⟩]
  next => cases read

theorem chars_of_readV4 {bits : Nat} (read : readV4 cs = some bits) :
    ∀ c ∈ cs, IsAddressChar c := by
  intro c member
  rcases mem_splitAt '.' member with dot | ⟨part, inside, there⟩
  · exact .inr (.inr dot)
  · obtain ⟨value, octet⟩ := octets_of_readV4 read part inside
    exact isAddressChar_of_isDigit (digits_of_readOctet octet _ there)

theorem mem_of_withoutOctets (given : withoutOctets parts = some others) {part : List Char}
    (member : part ∈ parts) : part ∈ others ∨ ∀ c ∈ part, IsAddressChar c := by
  rw [withoutOctets] at given
  split at given
  next tail last =>
    split at given
    next =>
      obtain ⟨bits, read, rfl⟩ := Option.map_eq_some_iff.mp given
      have whole : parts = parts.dropLast ++ [tail] :=
        (List.dropLast_append_getLast? tail last).symm
      rw [whole, List.mem_append, List.mem_singleton] at member
      rcases member with before | rfl
      · exact .inl (List.mem_append_left _ before)
      · exact .inr (chars_of_readV4 read)
    next =>
      cases given
      exact .inl member
  next =>
    cases given
    exact .inl member

theorem mem_of_beforeGap (given : beforeGap parts = some others) {part : List Char}
    (member : part ∈ parts) : part ∈ others ∨ part = [] := by
  unfold beforeGap at given
  split at given
  next rest =>
    obtain ⟨empty, -⟩ := Option.ite_none_right_eq_some.mp given
    rw [List.isEmpty_iff.mp empty] at member
    exact .inr (List.mem_singleton.mp member)
  next =>
    cases given
    exact .inl member

theorem mem_of_afterGap (given : afterGap parts = some others) {part : List Char}
    (member : part ∈ parts) : part ∈ others ∨ part = [] := by
  rw [afterGap] at given
  split at given
  next rest turned =>
    obtain ⟨empty, -⟩ := Option.ite_none_right_eq_some.mp given
    rw [← List.mem_reverse, turned, List.isEmpty_iff.mp empty] at member
    exact .inr (List.mem_singleton.mp member)
  next =>
    cases given
    exact .inl member

theorem hexDigits_of_spells {bits : Nat} (spells : Spells parts bits) :
    ∀ part ∈ parts, ∀ c ∈ part, (hexDigit? c).isSome = true := by
  cases spells with
  | full whole eight read => exact hexDigits_of_readGroups read
  | @around gap _ _ _ _ one before after room first second =>
      intro part member
      have listed : gap ∈ gaps parts := one ▸ List.mem_singleton_self gap
      obtain ⟨-, hole⟩ := List.mem_filter.mp listed
      simp only [Bool.and_eq_true, decide_eq_true_eq] at hole
      obtain ⟨⟨-, near⟩, empty⟩ := hole
      have inside : gap < parts.length := Nat.lt_of_succ_lt near
      have same : parts[gap] = [] := by
        rw [List.getElem?_eq_getElem inside] at empty
        exact List.isEmpty_iff.mp empty
      rw [← List.take_append_drop gap parts, List.drop_eq_getElem_cons inside, List.mem_append,
        List.mem_cons, same] at member
      rcases member with left | rfl | right
      · rcases mem_of_beforeGap before left with kept | rfl
        · exact hexDigits_of_readGroups first _ kept
        · nofun
      · nofun
      · rcases mem_of_afterGap after right with kept | rfl
        · exact hexDigits_of_readGroups second _ kept
        · nofun

/-- An address is written with hexadecimal digits, colons and dots. -/
theorem chars_of_readV6 {bits : Nat} (read : readV6 cs = some bits) :
    ∀ c ∈ cs, IsAddressChar c := by
  obtain ⟨-, parts, given, -, spells⟩ := readV6_eq_some_iff.mp read
  intro c member
  rcases mem_splitAt ':' member with colon | ⟨part, inside, there⟩
  · exact .inr (.inl colon)
  · rcases mem_of_withoutOctets given inside with kept | octets
    · exact .inl (hexDigits_of_spells spells part kept c there)
    · exact octets c there

theorem isAddressChar_ascii : ∀ c : Char, IsAddressChar c →
    c.toNat < 128 ∧ c.toLower.toNat < 128 ∧ c.toLower ≠ 'k' ∧ c.toLower ≠ 'i' := by
  refine of_ascii ?_ ?_
  · simp only [IsAddressChar]
    decide
  · intro c same beyond char
    have below : c.toNat ≤ 'f'.toNat := by
      rcases char with digit | rfl | rfl
      · rw [hexDigit?] at digit
        split at digit
        next decimal => exact Nat.le_trans (isDigit_bounds decimal).2 (by decide)
        next =>
          split at digit
          next small =>
            simp only [Bool.and_eq_true, decide_eq_true_eq] at small
            exact small.2
          next =>
            split at digit
            next capital =>
              simp only [Bool.and_eq_true, decide_eq_true_eq] at capital
              exact Nat.le_trans capital.2 (by decide)
            next => cases digit
      · decide
      · decide
    have : 'f'.toNat < 128 := by decide
    omega

/-- What has the same lower case as an address is the same but for the case of letters of ASCII. -/
theorem sameLetters_of_lowerFrom {inWord : Bool} (chars : ∀ c ∈ cs, IsAddressChar c)
    (lower : lowerFrom inWord ds = lowerFrom inWord cs) : SameLetters cs ds := by
  have small : lowerFrom inWord cs = cs.map Char.toLower :=
    lowerFrom_ascii fun c member => (isAddressChar_ascii c (chars c member)).1
  have ascii : ∀ d ∈ ds, d.toNat < 128 := by
    refine @ascii_of_lowerFrom inWord ds fun d member => ?_
    rw [lower, small] at member
    obtain ⟨c, inside, rfl⟩ := List.mem_map.mp member
    exact (isAddressChar_ascii c (chars c inside)).2
  rw [sameLetters_iff, ← small, ← lower, lowerFrom_ascii ascii]

/-- A text with a percent sign has a scope if what follows the first one can be a scope. -/
theorem withoutScope_append {body scope : List Char} (clear : '%' ∉ body) :
    withoutScope (body ++ '%' :: scope) =
      if scope ≠ [] ∧ '%' ∉ scope ∧ '/' ∉ scope then some body else none := by
  rw [withoutScope, splitAt_append clear]
  by_cases again : '%' ∈ scope
  · obtain ⟨front, rest, rfl, before⟩ := List.eq_append_cons_of_mem again
    rw [splitAt_append before, if_neg fun fine => fine.2.1 again]
    cases parts : splitAt '%' rest with
    | nil => exact absurd parts (splitAt_ne_nil _ _)
    | cons => cases front <;> rfl
  · rw [splitAt_of_notMem again]
    cases scope with
    | nil => rfl
    | cons c scope =>
        simp only [List.contains_iff_mem, again]
        by_cases slash : '/' ∈ c :: scope <;> simp [slash]

theorem withoutScope_of_notMem (clear : '%' ∉ cs) : withoutScope cs = some cs := by
  rw [withoutScope, splitAt_of_notMem clear]

theorem parts_percent : Parts '%' where
  fixed := ⟨by decide, rfl⟩
  seen := by decide +kernel
  caseless := by decide +kernel

theorem caseless_percent : Caseless '%' :=
  caseless_of_ascii rfl (by decide)

theorem caseless_slash : Caseless '/' :=
  caseless_of_ascii rfl (by decide)

theorem mem_lowerFrom_percent {inWord : Bool} : '%' ∈ lowerFrom inWord cs ↔ '%' ∈ cs :=
  mem_lowerFrom_iff caseless_percent rfl (by decide) (by decide)

theorem mem_lowerFrom_slash {inWord : Bool} : '/' ∈ lowerFrom inWord cs ↔ '/' ∈ cs :=
  mem_lowerFrom_iff caseless_slash rfl (by decide) (by decide)

/-- The texts that have the same lower case as one with a percent sign have one at that place too. -/
theorem lowerFrom_eq_append {inWord : Bool} {body scope : List Char} (clear : '%' ∉ body)
    (lower : lowerFrom inWord ds = lowerFrom inWord (body ++ '%' :: scope)) :
    ∃ front back, ds = front ++ '%' :: back ∧ '%' ∉ front ∧
      lowerFrom inWord front = lowerFrom inWord body ∧
      lowerFrom false back = lowerFrom false scope := by
  have marked : '%' ∈ ds := by
    rw [← @mem_lowerFrom_percent ds inWord, lower, mem_lowerFrom_percent]
    simp
  obtain ⟨front, back, rfl, before⟩ := List.eq_append_cons_of_mem marked
  rw [lowerFrom_parts parts_percent, lowerFrom_parts parts_percent] at lower
  have heads := congrArg (splitAt '%') lower
  rw [splitAt_append (mt mem_lowerFrom_percent.mp before),
    splitAt_append (mt mem_lowerFrom_percent.mp clear)] at heads
  have same := (List.cons.inj heads).1
  rw [same] at lower
  exact ⟨front, back, rfl, before, same, (List.cons.inj (List.append_cancel_left lower)).2⟩

theorem lowerFrom_eq_nil_iff {inWord : Bool} : lowerFrom inWord cs = [] ↔ cs = [] := by
  cases cs with
  | nil => exact iff_of_true rfl rfl
  | cons c rest =>
      refine iff_of_false (fun empty => ?_) (List.cons_ne_nil _ _)
      rw [lowerFrom, List.append_eq_nil_iff] at empty
      split at empty
      · cases empty.1
      · exact lowerChar_ne_nil c empty.1

/-- A scope leaves the same text in front of it, in whatever case the letters are. -/
theorem withoutScope_of_lowerFrom {inWord : Bool} {body : List Char}
    (lower : lowerFrom inWord ds = lowerFrom inWord cs) (given : withoutScope cs = some body) :
    ∃ other, withoutScope ds = some other ∧ lowerFrom inWord other = lowerFrom inWord body := by
  by_cases marked : '%' ∈ cs
  · obtain ⟨front, scope, rfl, clear⟩ := List.eq_append_cons_of_mem marked
    obtain ⟨other, back, rfl, before, same, after⟩ := lowerFrom_eq_append clear lower
    rw [withoutScope_append clear] at given
    obtain ⟨⟨full, single, plain⟩, same'⟩ := Option.ite_none_right_eq_some.mp given
    cases same'
    refine ⟨other, ?_, same⟩
    rw [withoutScope_append before]
    refine if_pos ⟨?_, ?_, ?_⟩
    · rwa [ne_eq, ← @lowerFrom_eq_nil_iff back false, after, lowerFrom_eq_nil_iff]
    · rwa [← @mem_lowerFrom_percent back false, after, mem_lowerFrom_percent]
    · rwa [← @mem_lowerFrom_slash back false, after, mem_lowerFrom_slash]
  · rw [withoutScope_of_notMem marked] at given
    cases given
    refine ⟨ds, withoutScope_of_notMem ?_, lower⟩
    rwa [← @mem_lowerFrom_percent ds inWord, lower, mem_lowerFrom_percent]

theorem readV4_of_lowerFrom {inWord : Bool} {bits : Nat}
    (lower : lowerFrom inWord ds = lowerFrom inWord cs) (read : readV4 cs = some bits) :
    readV4 ds = some bits :=
  readV4_congr (sameLetters_of_lowerFrom (chars_of_readV4 read) lower) ▸ read

theorem readV6_of_lowerFrom {inWord : Bool} {bits : Nat}
    (lower : lowerFrom inWord ds = lowerFrom inWord cs) (read : readV6 cs = some bits) :
    readV6 ds = some bits :=
  readV6_congr (sameLetters_of_lowerFrom (chars_of_readV6 read) lower) read

/-- A text spells the same address in whatever case its letters are. -/
theorem ofText?_congr {host written : String} (lower : Text.lower written = Text.lower host) :
    ofText? written = ofText? host := by
  have same : lowerFrom false written.toList = lowerFrom false host.toList :=
    String.ofList_injective lower
  have short : readV4 written.toList = readV4 host.toList := by
    ext bits
    exact ⟨readV4_of_lowerFrom same.symm, readV4_of_lowerFrom same⟩
  have long : ∀ {cs ds : List Char}, lowerFrom false ds = lowerFrom false cs → ∀ bits,
      (withoutScope cs).bind readV6 = some bits → (withoutScope ds).bind readV6 = some bits := by
    intro cs ds same bits read
    obtain ⟨body, given, read⟩ := Option.bind_eq_some_iff.mp read
    obtain ⟨other, found, alike⟩ := withoutScope_of_lowerFrom same given
    exact Option.bind_eq_some_iff.mpr ⟨other, found, readV6_of_lowerFrom alike read⟩
  have longer : (withoutScope written.toList).bind readV6 =
      (withoutScope host.toList).bind readV6 := by
    ext bits
    exact ⟨long same.symm bits, long same bits⟩
  rw [ofText?, ofText?, short, longer]

/-- What ends in a dot is no short address. -/
theorem readV4_dot (cs : List Char) : readV4 (cs ++ ['.']) = none := by
  refine Option.eq_none_iff_forall_ne_some.mpr fun bits read => ?_
  obtain ⟨value, octet⟩ := octets_of_readV4 read [] (by simp [splitAt_concat])
  cases octet

/-- Without colons there is no long address. -/
theorem readV6_of_notMem (clear : ':' ∉ cs) : readV6 cs = none := by
  refine Option.eq_none_iff_forall_ne_some.mpr fun bits read => ?_
  have many := (readV6_eq_some_iff.mp read).1
  rw [splitAt_of_notMem clear] at many
  simp at many

theorem withoutScope_cases {body : List Char} (given : withoutScope cs = some body) :
    cs = body ∨ ∃ scope, cs = body ++ '%' :: scope := by
  by_cases marked : '%' ∈ cs
  · obtain ⟨front, scope, rfl, clear⟩ := List.eq_append_cons_of_mem marked
    rw [withoutScope_append clear] at given
    obtain ⟨-, same⟩ := Option.ite_none_right_eq_some.mp given
    cases same
    exact .inr ⟨scope, rfl⟩
  · rw [withoutScope_of_notMem marked] at given
    cases given
    exact .inl rfl

/-- A long address begins with a digit or a colon, so that it is not taken for a future one. -/
theorem ofText?_future (rest : List Char) (bits : Nat) :
    ofText? (String.ofList ('v' :: rest)) ≠ some (.v6 bits) := by
  intro spells
  rw [ofText?, String.toList_ofList] at spells
  split at spells
  · cases spells
  · obtain ⟨bits, read, -⟩ := Option.map_eq_some_iff.mp spells
    obtain ⟨body, given, read⟩ := Option.bind_eq_some_iff.mp read
    have first : 'v' ∈ body := by
      rcases withoutScope_cases given with rfl | ⟨scope, whole⟩
      · exact .head _
      · cases body with
        | nil => cases whole
        | cons c body =>
            cases whole
            exact .head _
    have char := chars_of_readV6 read 'v' first
    simp only [IsAddressChar] at char
    exact absurd char (by decide)

/-- Without colons there is no long address, with a scope or without one. -/
theorem withoutScope_bind_readV6 (clear : ':' ∉ cs) : (withoutScope cs).bind readV6 = none := by
  refine Option.eq_none_iff_forall_ne_some.mpr fun bits read => ?_
  obtain ⟨body, given, read⟩ := Option.bind_eq_some_iff.mp read
  have inside : ':' ∉ body := by
    rcases withoutScope_cases given with rfl | ⟨scope, rfl⟩
    · exact clear
    · exact fun member => clear (List.mem_append_left _ member)
  rw [readV6_of_notMem inside] at read
  cases read

theorem ofText?_of_notMem (clear : ':' ∉ cs) :
    ofText? (String.ofList cs) = (readV4 cs).map .v4 := by
  rw [ofText?, String.toList_ofList, withoutScope_bind_readV6 clear]
  cases readV4 cs <;> rfl

/-- No short address holds the letter o, as local names do. -/
theorem o_notMem_of_readV4 {bits : Nat} (read : readV4 cs = some bits) :
    'o' ∉ lowerFrom false cs := by
  have other : ∀ c : Char, IsAddressChar c → c.toLower ≠ 'o' := by
    refine of_ascii ?_ fun c _ beyond char => ?_
    · simp only [IsAddressChar]
      decide
    · have := (isAddressChar_ascii c char).1
      omega
  have chars := chars_of_readV4 read
  rw [lowerFrom_ascii fun c member => (isAddressChar_ascii c (chars c member)).1]
  intro member
  obtain ⟨c, inside, same⟩ := List.mem_map.mp member
  exact other c (chars c inside) same

end Address

end Orchestra
