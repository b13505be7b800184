import Mathlib.Data.List.Nodup
import Orchestra.Proofs.Address.Digits

/-!
The notations of internet addresses.

A long address is eight groups with colons between them. Its last two groups may be written as octets,
one run of zero groups may give way to a pair of colons, and a scope may follow. What is read as an
address is one of these notations or that of a short one, and each of them is read as its address. A long
address that stands for a short one is judged as that one in whatever way it is written.
-/

namespace Orchestra.Address

open Text

/-- The last groups of a long address as they may be written, from the left. -/
inductive Tail : List Nat → List (List Char) → Prop
  | groups {groups : List Nat} {parts : List (List Char)}
      (each : List.Forall₂ GroupText groups parts) : Tail groups parts
  | octets {groups : List Nat} {parts : List (List Char)} {bits : Nat}
      (each : List.Forall₂ GroupText groups parts) (small : bits < 2 ^ 32) :
      Tail (groups ++ [bits / 65536, bits % 65536]) (parts ++ [dotted bits])

/-- Parts with colons between them. -/
def colons (parts : List (List Char)) : List Char :=
  List.intercalate [':'] parts

/-- The eight groups of a long address, and a text that spells them. -/
inductive LongText : List Nat → List Char → Prop
  | whole {groups : List Nat} {parts : List (List Char)} (eight : groups.length = 8)
      (tail : Tail groups parts) : LongText groups (colons parts)
  | compressed {front back : List Nat} {fronts backs : List (List Char)}
      (room : front.length + back.length < 8) (head : List.Forall₂ GroupText front fronts)
      (tail : Tail back backs) :
      LongText (front ++ List.replicate (8 - (front.length + back.length)) 0 ++ back)
        (colons fronts ++ ':' :: ':' :: colons backs)

/-- A text alone, or with a scope behind it. -/
inductive Scoped (body : List Char) : List Char → Prop
  | alone : Scoped body body
  | scope {scope : List Char} (given : scope ≠ []) (single : '%' ∉ scope) (plain : '/' ∉ scope) :
      Scoped body (body ++ '%' :: scope)

/-- An address, and a text that spells it. -/
inductive Literal : Address → String → Prop
  | short {bits : Nat} (small : bits < 2 ^ 32) : Literal (.v4 bits) (String.ofList (dotted bits))
  | long {groups : List Nat} {body cs : List Char} (text : LongText groups body)
      (within : Scoped body cs) : Literal (.v6 (valueOf 65536 groups)) (String.ofList cs)

variable {cs : List Char} {n bits : Nat} {groups : List Nat} {parts others : List (List Char)}

/-! Characters of the parts -/

theorem GroupText.clear {c : Char} (text : GroupText n cs) (other : hexDigit? c = none) : c ∉ cs := by
  intro member
  have digit := hexDigits_of_readGroup (by rw [readGroup_eq_some_iff.mpr text]; rfl) c member
  rw [other] at digit
  cases digit

theorem dotted_clear {c : Char} (other : c.isDigit = false) (separate : c ≠ '.') :
    c ∉ dotted bits := by
  intro member
  rcases mem_splitAt '.' member with dot | ⟨part, inside, there⟩
  · exact separate dot
  · rw [splitAt_dotted] at inside
    obtain ⟨octet, -, rfl⟩ := List.mem_map.mp inside
    exact notMem_toDigits other octet there

theorem dot_mem_dotted (bits : Nat) : '.' ∈ dotted bits := by
  simp [dotted, octetsOf, List.intercalate_cons_cons]

theorem groups_clear {c : Char} (each : List.Forall₂ GroupText groups parts)
    (other : hexDigit? c = none) : ∀ part ∈ parts, c ∉ part := by
  intro part member
  obtain ⟨n, text⟩ : ∃ n, GroupText n part := by
    induction each with
    | nil => cases member
    | cons first _ ih =>
        rcases List.mem_cons.mp member with rfl | later
        · exact ⟨_, first⟩
        · exact ih later
  exact text.clear other

theorem Tail.clear (tail : Tail groups parts) : ∀ part ∈ parts, ':' ∉ part := by
  cases tail with
  | groups each => exact groups_clear each rfl
  | octets each =>
      intro part member
      rcases List.mem_append.mp member with front | last
      · exact groups_clear each rfl part front
      · rw [List.mem_singleton.mp last]
        exact dotted_clear rfl (by decide)

/-! Octets at the end -/

theorem withoutOctets_concat (front : List (List Char)) (last : List Char) :
    withoutOctets (front ++ [last]) =
      if '.' ∈ last then (readV4 last).map fun bits =>
        front ++ [Nat.toDigits 16 (bits / 65536), Nat.toDigits 16 (bits % 65536)]
      else some (front ++ [last]) := by
  simp [withoutOctets]

/-- What stands before the last part makes no difference to it. -/
theorem withoutOctets_append (front : List (List Char)) (given : parts ≠ []) :
    withoutOctets (front ++ parts) = (withoutOctets parts).map (front ++ ·) := by
  obtain ⟨init, last, rfl⟩ := (List.eq_nil_or_concat parts).resolve_left given
  rw [List.concat_eq_append, ← List.append_assoc, withoutOctets_concat, withoutOctets_concat]
  split
  · cases readV4 last <;> simp
  · simp

/-- The groups of a tail are those that its parts become. -/
theorem Tail.withoutOctets (tail : Tail groups parts) (given : parts ≠ []) :
    ∃ others, withoutOctets parts = some others ∧ List.Forall₂ GroupText groups others := by
  cases tail with
  | groups each =>
      refine ⟨parts, ?_, each⟩
      have clear := groups_clear (c := '.') each rfl
      obtain ⟨init, last, rfl⟩ := (List.eq_nil_or_concat parts).resolve_left given
      rw [List.concat_eq_append] at clear ⊢
      rw [withoutOctets_concat, if_neg (clear last (by simp))]
  | @octets groups parts bits each small =>
      refine ⟨parts ++ [Nat.toDigits 16 (bits / 65536), Nat.toDigits 16 (bits % 65536)], ?_, ?_⟩
      · rw [withoutOctets_concat, if_pos (dot_mem_dotted bits),
          readV4_eq_some_iff.mpr ⟨small, rfl⟩]
        rfl
      · exact List.rel_append each
          (.cons (groupText_toDigits (by omega)) (.cons (groupText_toDigits (by omega)) .nil))

/-- Parts are left as they are, or the last of them is made into two groups. -/
theorem withoutOctets_cases (given : parts ≠ []) (read : withoutOctets parts = some others) :
    others = parts ∨ ∃ front bits, bits < 2 ^ 32 ∧ parts = front ++ [dotted bits] ∧
      others = front ++ [Nat.toDigits 16 (bits / 65536), Nat.toDigits 16 (bits % 65536)] := by
  obtain ⟨init, last, rfl⟩ := (List.eq_nil_or_concat parts).resolve_left given
  rw [List.concat_eq_append] at read ⊢
  rw [withoutOctets_concat] at read
  split at read
  · obtain ⟨bits, short, rfl⟩ := Option.map_eq_some_iff.mp read
    obtain ⟨small, rfl⟩ := readV4_eq_some_iff.mp short
    exact .inr ⟨init, bits, small, rfl, rfl⟩
  · exact .inl (Option.some.inj read).symm

/-- Parts that become groups are a tail of them. -/
theorem tail_of_withoutOctets (given : parts ≠ []) (read : withoutOctets parts = some others)
    (each : List.Forall₂ GroupText groups others) : Tail groups parts := by
  rcases withoutOctets_cases given read with rfl | ⟨front, bits, small, rfl, rfl⟩
  · exact .groups each
  · have before := List.forall₂_take_append _ _ _ each
    have last := List.forall₂_drop_append _ _ _ each
    rw [← List.take_append_drop front.length groups]
    generalize groups.drop front.length = pair at last
    cases last with
    | cons high rest =>
        cases rest with
        | cons low none =>
            cases none
            rw [high.unique (groupText_toDigits (by omega)), low.unique (groupText_toDigits (by omega))]
            exact .octets before small

/-- An empty part that is not the last one was there before. -/
theorem withoutOctets_gap {front back : List (List Char)} (given : parts ≠ [])
    (read : withoutOctets parts = some (front ++ [] :: back)) (after : back ≠ []) :
    ∃ rest, rest ≠ [] ∧ parts = front ++ [] :: rest ∧ withoutOctets rest = some back := by
  obtain ⟨rest, some, rfl⟩ : ∃ rest, rest ≠ [] ∧ parts = front ++ [] :: rest := by
    rcases withoutOctets_cases given read with same | ⟨init, bits, small, rfl, same⟩
    · exact ⟨back, after, same.symm⟩
    · have solid : ∀ part ∈ [Nat.toDigits 16 (bits / 65536), Nat.toDigits 16 (bits % 65536)],
          part ≠ [] := by
        simp [Nat.toDigits_ne_nil]
      rcases List.append_eq_append_iff.mp same with ⟨more, rfl, tail⟩ | ⟨more, -, tail⟩
      · -- the empty part stands in front of the two groups
        cases more with
        | nil => exact absurd rfl (solid [] (by rw [← List.nil_append [_, _], ← tail]; simp))
        | cons part more =>
            obtain ⟨rfl, -⟩ := List.cons.inj tail
            exact ⟨more ++ [dotted bits], by simp, by simp⟩
      · exact absurd rfl (solid [] (by rw [tail]; simp))
  refine ⟨rest, some, rfl, ?_⟩
  have split := withoutOctets_append (front ++ [[]]) some
  rw [List.append_assoc, List.singleton_append, read] at split
  obtain ⟨found, same, whole⟩ := Option.map_eq_some_iff.mp split.symm
  rw [List.append_assoc, List.singleton_append] at whole
  rw [same, (List.cons.inj (List.append_cancel_left whole)).2]

/-! Gaps -/

/-- What stands on one side of a gap: an empty part where no groups are written. -/
def side (parts : List (List Char)) : List (List Char) :=
  if parts = [] then [[]] else parts

@[simp] theorem side_nil : side [] = [[]] := rfl

theorem side_of_ne_nil (given : parts ≠ []) : side parts = parts :=
  if_neg given

theorem side_ne_nil (parts : List (List Char)) : side parts ≠ [] := by
  unfold side
  split
  · exact List.cons_ne_nil _ _
  · assumption

theorem length_side (parts : List (List Char)) : (side parts).length = max 1 parts.length := by
  unfold side
  split
  next empty => simp [empty]
  next given =>
    have some := List.length_pos_of_ne_nil given
    omega

theorem forall_mem_side {Holds : List Char → Prop} (empty : Holds [])
    (each : ∀ part ∈ parts, Holds part) : ∀ part ∈ side parts, Holds part := by
  unfold side
  split
  · simpa using empty
  · exact each

theorem colons_append {front back : List (List Char)} (before : front ≠ []) (after : back ≠ []) :
    colons (front ++ back) = colons front ++ ':' :: colons back := by
  obtain ⟨next, later, rfl⟩ := List.exists_cons_of_ne_nil after
  induction front with
  | nil => exact absurd rfl before
  | cons part rest ih =>
      cases rest with
      | nil => simp [colons, List.intercalate_cons_cons]
      | cons other rest =>
          have step := ih (List.cons_ne_nil _ _)
          simp only [colons, List.cons_append, List.intercalate_cons_cons, List.append_assoc] at step ⊢
          rw [step]

theorem colons_side (parts : List (List Char)) : colons (side parts) = colons parts := by
  unfold side
  split
  next empty =>
    rw [empty]
    rfl
  next => rfl

/-- A gap is written as two colons. -/
theorem colons_gap (front back : List (List Char)) :
    colons (side front ++ [] :: side back) = colons front ++ ':' :: ':' :: colons back := by
  have later : colons ([[]] ++ side back) = ':' :: colons back := by
    rw [colons_append (List.cons_ne_nil _ _) (side_ne_nil _), colons_side]
    rfl
  rw [colons_append (side_ne_nil _) (List.cons_ne_nil _ _), colons_side]
  exact congrArg (colons front ++ ':' :: ·) later

theorem mem_gaps_iff {i : Nat} :
    i ∈ gaps parts ↔ 0 < i ∧ i + 1 < parts.length ∧ parts[i]? = some [] := by
  have empty : (parts[i]?.map List.isEmpty).getD false = true ↔ parts[i]? = some [] := by
    cases parts[i]? <;> simp
  simp only [gaps, List.mem_filter, List.mem_range, Bool.and_eq_true, decide_eq_true_eq, empty]
  constructor
  · rintro ⟨-, ⟨first, last⟩, hole⟩
    exact ⟨first, last, hole⟩
  · rintro ⟨first, last, hole⟩
    exact ⟨by omega, ⟨first, last⟩, hole⟩

theorem gaps_of_solid (solid : ∀ part ∈ parts, part ≠ []) : gaps parts = [] := by
  refine List.eq_nil_iff_forall_not_mem.mpr fun i member => ?_
  obtain ⟨-, -, hole⟩ := mem_gaps_iff.mp member
  exact solid [] (List.mem_of_getElem? hole) rfl

/-- A side holds an empty part only where it has no groups. -/
theorem eq_nil_of_hole {i : Nat} (solid : ∀ part ∈ parts, part ≠ [])
    (hole : (side parts)[i]? = some []) : parts = [] ∧ i = 0 := by
  unfold side at hole
  split at hole
  next empty =>
    obtain ⟨single, -⟩ := List.getElem?_eq_some_iff.mp hole
    exact ⟨empty, by simpa using single⟩
  next => exact absurd rfl (solid [] (List.mem_of_getElem? hole))

/-- Between groups on both sides there is one gap. -/
theorem gaps_side {front back : List (List Char)} (before : ∀ part ∈ front, part ≠ [])
    (after : ∀ part ∈ back, part ≠ []) :
    gaps (side front ++ [] :: side back) = [(side front).length] := by
  have some := List.length_pos_of_ne_nil (side_ne_nil front)
  have more := List.length_pos_of_ne_nil (side_ne_nil back)
  have own : (side front).length ∈ gaps (side front ++ [] :: side back) :=
    mem_gaps_iff.mpr ⟨some, by simp; omega, by simp⟩
  have only : ∀ i ∈ gaps (side front ++ [] :: side back), i = (side front).length := by
    intro i member
    obtain ⟨first, last, hole⟩ := mem_gaps_iff.mp member
    rcases Nat.lt_trichotomy i (side front).length with left | same | right
    · rw [List.getElem?_append_left left] at hole
      obtain ⟨-, rfl⟩ := eq_nil_of_hole before hole
      cases first
    · exact same
    · obtain ⟨j, rfl⟩ := Nat.exists_eq_add_of_lt right
      rw [List.getElem?_append_right (by omega), Nat.add_assoc, Nat.add_sub_cancel_left,
        List.getElem?_cons_succ] at hole
      obtain ⟨rfl, rfl⟩ := eq_nil_of_hole after hole
      simp at last
  have nodup : (gaps (side front ++ [] :: side back)).Nodup := List.nodup_range.filter _
  refine List.perm_singleton.mp ((List.perm_ext_iff_of_nodup nodup (List.nodup_singleton _)).mpr ?_)
  intro i
  rw [List.mem_singleton]
  exact ⟨only i, fun same => same ▸ own⟩

theorem beforeGap_side {front : List (List Char)} (solid : ∀ part ∈ front, part ≠ []) :
    beforeGap (side front) = some front := by
  rcases front with _ | ⟨_ | ⟨c, part⟩, rest⟩
  · rfl
  · exact absurd rfl (solid [] (by simp))
  · rfl

theorem afterGap_side {back : List (List Char)} (solid : ∀ part ∈ back, part ≠ []) :
    afterGap (side back) = some back := by
  rcases List.eq_nil_or_concat back with rfl | ⟨rest, last, rfl⟩
  · rfl
  · have given : last ≠ [] := solid last (by simp)
    obtain ⟨c, part, rfl⟩ := List.exists_cons_of_ne_nil given
    rw [side_of_ne_nil (by simp), afterGap]
    simp

theorem side_of_beforeGap {front : List (List Char)} (given : parts ≠ [])
    (read : beforeGap parts = some front) : parts = side front := by
  unfold beforeGap at read
  split at read
  next rest =>
    obtain ⟨empty, same⟩ := Option.ite_none_right_eq_some.mp read
    cases same
    rw [List.isEmpty_iff.mp empty]
    rfl
  next =>
    cases read
    rw [side_of_ne_nil given]

theorem side_of_afterGap {back : List (List Char)} (given : parts ≠ [])
    (read : afterGap parts = some back) : parts = side back := by
  unfold afterGap at read
  split at read
  next rest turned =>
    obtain ⟨empty, same⟩ := Option.ite_none_right_eq_some.mp read
    cases same
    rw [← parts.reverse_reverse, turned, List.isEmpty_iff.mp empty]
    rfl
  next =>
    cases read
    rw [side_of_ne_nil given]

/-! Long addresses -/

theorem groups_solid (each : List.Forall₂ GroupText groups parts) : ∀ part ∈ parts, part ≠ [] := by
  induction each with
  | nil => nofun
  | cons first _ ih => exact List.forall_mem_cons.mpr ⟨first.ne_nil, ih⟩

theorem Tail.length_le (tail : Tail groups parts) : groups.length ≤ parts.length + 1 := by
  cases tail with
  | groups each =>
      rw [each.length_eq]
      exact Nat.le_succ _
  | octets each => simp [each.length_eq]

theorem Tail.eq_nil_iff (tail : Tail groups parts) : groups = [] ↔ parts = [] := by
  cases tail with
  | groups each => cases each <;> simp
  | octets each => simp

/-- Behind a gap a tail is read as its groups, or there is none. -/
theorem Tail.withoutOctets_side (tail : Tail groups parts) :
    ∃ others, Address.withoutOctets (side parts) = some (side others) ∧
      List.Forall₂ GroupText groups others := by
  by_cases given : parts = []
  · obtain rfl := tail.eq_nil_iff.mpr given
    obtain rfl := given
    exact ⟨[], rfl, .nil⟩
  · obtain ⟨others, read, each⟩ := tail.withoutOctets given
    have some : others ≠ [] := by
      rintro rfl
      cases each
      exact given (tail.eq_nil_iff.mp rfl)
    rw [side_of_ne_nil given]
    exact ⟨others, by rw [side_of_ne_nil some, read], each⟩

theorem exists_tail {back : List (List Char)} (given : parts ≠ [])
    (read : withoutOctets parts = some (side back)) (each : List.Forall₂ GroupText groups back) :
    ∃ backs, parts = side backs ∧ Tail groups backs := by
  by_cases none : back = []
  · obtain rfl := none
    cases each
    rcases withoutOctets_cases given read with same | ⟨front, bits, -, -, same⟩
    · exact ⟨[], same.symm, .groups .nil⟩
    · have lengths := congrArg List.length same
      simp at lengths
  · rw [side_of_ne_nil none] at read
    exact ⟨parts, (side_of_ne_nil given).symm, tail_of_withoutOctets given read each⟩

/-- A run of zero groups is made up for by a shift. -/
theorem valueOf_compressed {front back : List Nat} (room : front.length + back.length < 8) :
    valueOf 65536 (front ++ List.replicate (8 - (front.length + back.length)) 0 ++ back) =
      valueOf 65536 front * Nat.pow 65536 (8 - front.length) + valueOf 65536 back := by
  have shift : 8 - front.length = 8 - (front.length + back.length) + back.length := by omega
  rw [valueOf_append, valueOf_append, valueOf_zeros, List.length_replicate, shift, Nat.add_zero,
    Nat.mul_assoc, ← Nat.pow_add]
  rfl

/-- Every notation of a long address is read as its groups. -/
theorem LongText.readV6 (text : LongText groups cs) : readV6 cs = some (valueOf 65536 groups) := by
  rw [readV6_eq_some_iff]
  cases text with
  | @whole _ parts eight tail =>
      have many : 7 ≤ parts.length := by
        have := tail.length_le
        omega
      have given : parts ≠ [] := List.ne_nil_of_length_pos (by omega)
      obtain ⟨others, read, each⟩ := tail.withoutOctets given
      have long : others.length = 8 := each.length_eq.symm.trans eight
      rw [colons, splitAt_intercalate given tail.clear]
      exact ⟨by omega, others, read, by omega, .full (gaps_of_solid (groups_solid each)) long
        (readGroups_eq_some_iff.mpr ⟨_, each, rfl⟩)⟩
  | @compressed front back fronts backs room head tail =>
      obtain ⟨others, read, each⟩ := tail.withoutOctets_side
      have clear : ∀ part ∈ side fronts ++ [] :: side backs, ':' ∉ part := by
        refine List.forall_mem_append.mpr ⟨?_, List.forall_mem_cons.mpr ⟨List.not_mem_nil, ?_⟩⟩
        · exact forall_mem_side List.not_mem_nil (groups_clear head rfl)
        · exact forall_mem_side List.not_mem_nil tail.clear
      have cut : splitAt ':' (colons fronts ++ ':' :: ':' :: colons backs) =
          side fronts ++ [] :: side backs := by
        rw [← colons_gap, colons, splitAt_intercalate (by simp) clear]
      have octets : Address.withoutOctets (side fronts ++ [] :: side backs) =
          some (side fronts ++ [] :: side others) := by
        have split := withoutOctets_append (side fronts ++ [[]]) (side_ne_nil backs)
        rw [read] at split
        simpa using split
      have fewer : fronts.length + others.length < 8 := by
        rw [← head.length_eq, ← each.length_eq]
        exact room
      rw [cut, valueOf_compressed room, head.length_eq]
      refine ⟨by simp [length_side]; omega, _, octets, ?_, .around (gaps_side (groups_solid head)
        (groups_solid each)) ?_ ?_
        fewer (readGroups_eq_some_iff.mpr ⟨_, head, rfl⟩)
        (readGroups_eq_some_iff.mpr ⟨_, each, rfl⟩)⟩
      · simp [length_side]
        omega
      · rw [List.take_left]
        exact beforeGap_side (groups_solid head)
      · rw [← List.singleton_append, ← List.append_assoc, List.drop_left' (by simp)]
        exact afterGap_side (groups_solid each)

/-- What is read as a long address is a notation of it. -/
theorem longText_of_readV6 (read : readV6 cs = some bits) :
    ∃ groups, LongText groups cs ∧ valueOf 65536 groups = bits := by
  obtain ⟨many, others, octets, few, spells⟩ := readV6_eq_some_iff.mp read
  have given := splitAt_ne_nil ':' cs
  have whole : colons (splitAt ':' cs) = cs := intercalate_splitAt ':' cs
  cases spells with
  | full none eight value =>
      obtain ⟨groups, each, same⟩ := readGroups_eq_some_iff.mp value
      have text : LongText groups (colons (splitAt ':' cs)) :=
        .whole (each.length_eq.trans eight) (tail_of_withoutOctets given octets each)
      exact ⟨groups, whole ▸ text, same⟩
  | @around gap high low front back one before after room first second =>
      obtain ⟨fore, near, hole⟩ := mem_gaps_iff.mp (one ▸ List.mem_singleton_self gap)
      obtain ⟨inside, empty⟩ := List.getElem?_eq_some_iff.mp hole
      obtain ⟨highs, head, rfl⟩ := readGroups_eq_some_iff.mp first
      obtain ⟨lows, each, rfl⟩ := readGroups_eq_some_iff.mp second
      have left := side_of_beforeGap (List.ne_nil_of_length_pos (by simp; omega)) before
      have right := side_of_afterGap (List.ne_nil_of_length_pos (by simp; omega)) after
      rw [← List.take_append_drop gap others, List.drop_eq_getElem_cons inside, empty, left,
        right] at octets
      obtain ⟨rest, some, split, read⟩ := withoutOctets_gap given octets (side_ne_nil back)
      obtain ⟨backs, rfl, tail⟩ := exists_tail some read each
      rw [split, colons_gap] at whole
      rw [← head.length_eq, ← each.length_eq] at room
      have text := LongText.compressed room head tail
      rw [whole] at text
      exact ⟨_, text, by rw [valueOf_compressed room, head.length_eq]⟩

/-! Texts of addresses -/

theorem scoped_of_withoutScope {body : List Char} (given : withoutScope cs = some body) :
    Scoped body cs := by
  by_cases marked : '%' ∈ cs
  · obtain ⟨front, scope, rfl, clear⟩ := List.eq_append_cons_of_mem marked
    rw [withoutScope_append clear] at given
    obtain ⟨⟨some, single, plain⟩, same⟩ := Option.ite_none_right_eq_some.mp given
    cases same
    exact .scope some single plain
  · rw [withoutScope_of_notMem marked] at given
    cases given
    exact .alone

theorem Scoped.withoutScope {body : List Char} (within : Scoped body cs) (clear : '%' ∉ body) :
    withoutScope cs = some body := by
  cases within with
  | alone => exact withoutScope_of_notMem clear
  | scope given single plain => rw [withoutScope_append clear, if_pos ⟨given, single, plain⟩]

theorem Scoped.subset {body : List Char} (within : Scoped body cs) : body ⊆ cs := by
  cases within with
  | alone => exact List.Subset.refl _
  | scope => exact List.subset_append_left _ _

/-- A long address is written with colons, and without a percent sign. -/
theorem LongText.marks (text : LongText groups cs) : ':' ∈ cs ∧ '%' ∉ cs := by
  constructor
  · by_contra clear
    cases (readV6_of_notMem clear).symm.trans text.readV6
  · intro member
    have char := chars_of_readV6 text.readV6 _ member
    simp only [IsAddressChar] at char
    exact absurd char (by decide)

/-- A text is read as an address exactly when it is one of its notations. -/
theorem ofText?_eq_some_iff {s : String} {address : Address} :
    ofText? s = some address ↔ Literal address s := by
  constructor
  · intro read
    rw [← s.ofList_toList]
    unfold ofText? at read
    split at read
    next bits short =>
      cases read
      obtain ⟨small, same⟩ := readV4_eq_some_iff.mp short
      rw [same]
      exact .short small
    next =>
      obtain ⟨bits, long, rfl⟩ := Option.map_eq_some_iff.mp read
      obtain ⟨body, given, spelled⟩ := Option.bind_eq_some_iff.mp long
      obtain ⟨groups, text, rfl⟩ := longText_of_readV6 spelled
      exact .long text (scoped_of_withoutScope given)
  · intro literal
    cases literal with
    | short small => rw [ofText?, String.toList_ofList, readV4_eq_some_iff.mpr ⟨small, rfl⟩]
    | @long groups body cs text within =>
        obtain ⟨colon, percent⟩ := text.marks
        have none : readV4 cs = none := by
          refine Option.eq_none_iff_forall_ne_some.mpr fun bits short => ?_
          obtain ⟨-, same⟩ := readV4_eq_some_iff.mp short
          exact dotted_clear rfl (by decide) (same ▸ within.subset colon)
        rw [ofText?, String.toList_ofList, none, within.withoutScope percent]
        simp [text.readV6]

/-! Long addresses that stand for short ones. The block that short addresses are mapped to is private as a
whole, so that it matters that an address in it is judged as the short one. -/

/-- The groups of the long address that stands for a short one. -/
def mappedGroups (bits : Nat) : List Nat :=
  [0, 0, 0, 0, 0, 0xffff, bits / 65536, bits % 65536]

theorem valueOf_mappedGroups (bits : Nat) :
    valueOf 65536 (mappedGroups bits) = 0xffff * 2 ^ 32 + bits := by
  simp only [valueOf, mappedGroups, List.foldl_cons, List.foldl_nil]
  omega

theorem mapped?_mappedGroups (small : bits < 2 ^ 32) :
    mapped? (valueOf 65536 (mappedGroups bits)) = some bits := by
  have high : (0xffff * 2 ^ 32 + bits) >>> 32 = 0xffff := by
    rw [Nat.shiftRight_eq_div_pow]
    omega
  have low : (0xffff * 2 ^ 32 + bits) % Nat.pow 2 32 = bits := by
    show (0xffff * 2 ^ 32 + bits) % 2 ^ 32 = bits
    omega
  rw [valueOf_mappedGroups, mapped?, high, low]
  rfl

/-- By its number alone every address of the block is internal, whatever it stands for. -/
theorem isInternalV6_mapped (small : bits < 2 ^ 32) :
    isInternalV6 (valueOf 65536 (mappedGroups bits)) = true := by
  rw [valueOf_mappedGroups]
  have high : (0xffff * 2 ^ 32 + bits) >>> 120 = 0 := by
    rw [Nat.shiftRight_eq_div_pow]
    omega
  have reserved : AddressBlock.covers reservedV6 128 (0xffff * 2 ^ 32 + bits) = true :=
    List.any_eq_true.mpr ⟨.ofGroups [0] 8, .head _, beq_iff_eq.mpr high⟩
  rw [isInternalV6, reserved, Bool.or_true, Bool.true_or]

/-- However a long address that stands for a short one is written, it is judged as the short one. What
is no notation of an address is not internal. -/
theorem mapped_judged_as_short :
    (∀ bits < 2 ^ 32, ∀ body cs, LongText (mappedGroups bits) body → Scoped body cs →
      isInternalText (String.ofList cs) = isInternalText (String.ofList (dotted bits))) ∧
    ∀ s, (∀ address, ¬ Literal address s) → isInternalText s = false := by
  constructor
  · intro bits small body cs text within
    rw [isInternalText, isInternalText, ofText?_eq_some_iff.mpr (.long text within),
      ofText?_eq_some_iff.mpr (.short small)]
    simp only [Option.map_some, Option.getD_some, isInternal, mapped?_mappedGroups small]
  · intro s strange
    have unread : ofText? s = none :=
      Option.eq_none_iff_forall_ne_some.mpr fun address read =>
        strange address (ofText?_eq_some_iff.mp read)
    rw [isInternalText, unread]
    rfl

/-- The loopback address in capitals and a public address in octets with a scope are judged as what they
stand for, and a name is not judged as an address. -/
theorem mapped_texts_judged :
    isInternalText "::FFFF:7f00:1" = isInternalText "127.0.0.1" ∧
    isInternalText "0:0::00:0:ffff:8.8.8.8%eth0" = isInternalText "8.8.8.8" ∧
    isInternalText "127.0.0.1" = true ∧ isInternalText "8.8.8.8" = false ∧
    isInternalText "localhost" = false := by
  have loopback : LongText (mappedGroups 0x7f000001) "::FFFF:7f00:1".toList :=
    @LongText.compressed [] [0xffff, 0x7f00, 1] [] ["FFFF".toList, "7f00".toList, "1".toList]
      (by decide) .nil (.groups (.cons ⟨⟨0, rfl⟩, by decide⟩ (.cons ⟨⟨0, rfl⟩, by decide⟩
        (.cons ⟨⟨0, rfl⟩, by decide⟩ .nil))))
  have zero : GroupText 0 "0".toList := ⟨⟨0, rfl⟩, by decide⟩
  have zeros : GroupText 0 "00".toList := ⟨⟨1, rfl⟩, by decide⟩
  have ones : GroupText 0xffff "ffff".toList := ⟨⟨0, rfl⟩, by decide⟩
  have nameserver : LongText (mappedGroups 0x08080808) "0:0::00:0:ffff:8.8.8.8".toList :=
    @LongText.compressed [0, 0] [0, 0, 0xffff, 0x0808, 0x0808] ["0".toList, "0".toList]
      ["00".toList, "0".toList, "ffff".toList, "8.8.8.8".toList]
      (by decide) (.cons zero (.cons zero .nil))
      (.octets (.cons zeros (.cons zero (.cons ones .nil))) (by decide : 0x08080808 < 2 ^ 32))
  have strange : ∀ address, ¬ Literal address "localhost" := by
    intro address literal
    cases ofText?_eq_some_iff.mpr literal
  obtain ⟨mapped, others⟩ := mapped_judged_as_short
  have first := mapped 0x7f000001 (by decide) _ _ loopback .alone
  have second := mapped 0x08080808 (by decide) _ _ nameserver
    (@Scoped.scope _ "eth0".toList (by decide) (by decide) (by decide))
  exact ⟨first, second, by decide, by decide, others _ strange⟩

end Orchestra.Address
