import Mathlib.Data.List.Perm.Subperm
import Orchestra.Value.Arithmetic
import Orchestra.Proofs.Decimal.Quotient
import Orchestra.Proofs.Value.Json

/-!
The laws of equality and order.

On data without not-a-number equality is an equivalence. What is equal compares alike, comparing the
other way round gives the opposite order, and what is less than something less is less. Two values
that are no lists are compared by their ranks, and whole numbers as such.
-/

namespace Orchestra

namespace Number

/-- A position as a row of whole numbers: the two ends lie around everything finite. -/
def Position.level : Position → List Int
  | .bottom => [-1]
  | .finite scaled => [0, scaled]
  | .top => [1]

theorem Position.level_inj {p q : Position} : p.level = q.level ↔ p = q := by
  cases p <;> cases q <;> simp [level]

theorem Position.below_eq (p q : Position) :
    p.below q = (compare p.level q.level == .lt) := by
  cases p with
  | bottom | top => cases q <;> rfl
  | finite a =>
      cases q with
      | bottom | top => rfl
      | finite b =>
          rw [Bool.eq_iff_iff]
          simp [below, level, List.compare_cons_cons, Std.compare_eq_lt]

/-- A double has a position unless it is not a number. -/
theorem exists_position {x : Float} (number : x.isNaN = false) :
    ∃ p, (Number.float x).position? = some p := by
  have shape : x.toModel.unpack.isNaN = false := number
  rw [position?, Decimal.Binary.ofFloat_eq]
  cases parts : x.toModel.unpack with
  | notANumber => rw [parts] at shape; cases shape
  | infinity | zero | finite => exact ⟨_, rfl⟩

theorem same_iff (x y : Number) :
    x.same y = true ↔ ∃ p, x.position? = some p ∧ y.position? = some p := by
  unfold same
  cases x.position? with
  | none => simp
  | some p =>
      cases y.position? with
      | none => simp
      | some q => simpa using eq_comm

end Number

namespace Value

/-- What values that are neither lists nor objects are ordered by. -/
inductive Rank where
  | number (level : List Int)
  | text (codes : List Nat)

/-- Numbers are ordered among each other, and so are texts. -/
def Rank.compare? : Rank → Rank → Option Ordering
  | .number p, .number q => some (compare p q)
  | .text s, .text t => some (compare s t)
  | _, _ => none

theorem Rank.compare?_eq_iff {r s : Rank} : r.compare? s = some .eq ↔ r = s := by
  cases r <;> cases s <;> simp [compare?]

theorem Rank.compare?_swap (r s : Rank) : s.compare? r = (r.compare? s).map Ordering.swap := by
  cases r <;> cases s <;> simp only [compare?, Option.map_some, Option.map_none]
  · exact congrArg some Std.OrientedCmp.eq_swap
  · exact congrArg some Std.OrientedCmp.eq_swap

theorem Rank.compare?_trans {r s t : Rank} (first : r.compare? s = some .lt)
    (second : s.compare? t = some .lt) : r.compare? t = some .lt := by
  cases r <;> cases s <;> cases t <;>
    simp only [compare?, Option.some.injEq, reduceCtorEq] at first second ⊢
  · exact Std.TransCmp.lt_trans first second
  · exact Std.TransCmp.lt_trans first second

def rank? (value : Value) : Option Rank :=
  match value.number? with
  | some x => x.position?.map fun position => .number position.level
  | none => value.text?.map fun s => .text (s.toList.map Char.toNat)

theorem compareChars_eq (cs ds : List Char) :
    compareChars cs ds = compare (cs.map Char.toNat) (ds.map Char.toNat) := by
  induction cs generalizing ds with
  | nil => cases ds <;> rfl
  | cons c cs ih =>
      cases ds with
      | nil => rfl
      | cons d ds =>
          simp only [compareChars, List.map_cons, List.compare_cons_cons, ih]
          rcases Nat.lt_trichotomy c.toNat d.toNat with less | same | greater
          · rw [if_pos less, Nat.compare_eq_lt.mpr less]
            rfl
          · rw [same, if_neg (Nat.lt_irrefl _), if_neg (Nat.lt_irrefl _), Nat.compare_eq_eq.mpr rfl]
            rfl
          · rw [if_neg (Nat.lt_asymm greater), if_pos greater, Nat.compare_eq_gt.mpr greater]
            rfl

theorem compareNumbers_eq (x y : Number) :
    compareNumbers x y =
      x.position?.bind fun p => y.position?.map fun q => compare p.level q.level := by
  unfold compareNumbers Number.below Number.same
  cases x.position? with
  | none => cases y.position? <;> rfl
  | some p =>
      cases y.position? with
      | none => rfl
      | some q =>
          simp only [Number.Position.below_eq, Option.bind_some, Option.map_some]
          have turned : compare q.level p.level = (compare p.level q.level).swap :=
            Std.OrientedCmp.eq_swap
          have equal : (p == q) = (compare p.level q.level == .eq) := by
            rw [Bool.eq_iff_iff]
            simp [Number.Position.level_inj]
          simp only [turned, equal]
          cases compare p.level q.level <;> rfl

/-- Two values that are not both lists are compared by their ranks. -/
theorem compare?_of_ranks {a b : Value}
    (leaves : ∀ xs ys, a = .list xs → b = .list ys → False) :
    a.compare? b = a.rank?.bind fun r => b.rank?.bind r.compare? := by
  have numbers : ∀ {value : Value} {x : Number}, value.number? = some x → value.text? = none := by
    intro value x number
    cases value <;> simp [number?, text?] at number ⊢
  rw [compare?.eq_2 a b leaves]
  unfold rank?
  cases left : a.number? with
  | some x =>
      cases right : b.number? with
      | some y =>
          dsimp only
          rw [compareNumbers_eq]
          cases x.position? <;> cases y.position? <;> rfl
      | none =>
          dsimp only
          rw [numbers left]
          cases x.position? <;> cases b.text? <;> rfl
  | none =>
      cases right : b.number? with
      | some y =>
          dsimp only
          rw [numbers right]
          cases a.text? <;> cases y.position? <;> rfl
      | none =>
          dsimp only
          cases a.text? with
          | none => rfl
          | some s =>
              cases b.text? with
              | none => rfl
              | some t => exact congrArg some (compareChars_eq _ _)

theorem rank?_obj (fields : Fields) : (Value.obj fields).rank? = none := rfl

theorem codes_inj {s t : String} : s.toList.map Char.toNat = t.toList.map Char.toNat ↔ s = t := by
  rw [List.map_inj_right fun _ _ => Char.toNat_inj.mp, String.toList_inj]

theorem rank?_eq_text_iff (value : Value) (codes : List Nat) :
    value.rank? = some (.text codes) ↔
      ∃ s, value.text? = some s ∧ s.toList.map Char.toNat = codes := by
  cases value <;> simp [rank?, number?, text?]

theorem rank?_eq_number_iff (value : Value) (level : List Int) :
    value.rank? = some (.number level) ↔
      ∃ x p, value.number? = some x ∧ x.position? = some p ∧ p.level = level := by
  cases value <;> simp [rank?, number?, text?]

theorem same_of_number {a : Value} {x : Number} (number : a.number? = some x) (b : Value) :
    a.same b = true ↔ ∃ r, a.rank? = some r ∧ b.rank? = some r := by
  have left : a.rank? = x.position?.map fun p => .number p.level := by simp only [rank?, number]
  have value : a.same b = (b.number?.map x.same).getD false := by
    cases a <;> cases number <;> cases b <;> rfl
  rw [value, left]
  cases right : b.number? with
  | none =>
      simp [rank?_eq_number_iff, right]
  | some y =>
      simp only [Option.map_some, Option.getD_some, Number.same_iff, Option.map_eq_some_iff]
      simp [rank?_eq_number_iff, right, Number.Position.level_inj]

theorem same_of_text (s : String) (b : Value) :
    (Value.str s).same b = true ↔ ∃ r, (Value.str s).rank? = some r ∧ b.rank? = some r := by
  have left : (Value.str s).rank? = some (.text (s.toList.map Char.toNat)) := rfl
  have value : (Value.str s).same b = (b.text?.map (s == ·)).getD false := by cases b <;> rfl
  rw [value, left]
  cases right : b.text? with
  | none => simp [rank?_eq_text_iff, right]
  | some t => simpa [rank?_eq_text_iff, right, codes_inj] using eq_comm

/-- Two values are equal in one of four ways. -/
inductive Alike : Value → Value → Prop
  | null : Alike .null .null
  | rank {a b : Value} {r : Rank} (left : a.rank? = some r) (right : b.rank? = some r) : Alike a b
  | list {xs ys : List Value} (each : List.Forall₂ (fun x y => x.same y = true) xs ys) :
      Alike (.list xs) (.list ys)
  | obj {xs ys : Fields} (size : xs.length = ys.length)
      (each : ∀ entry ∈ xs, ∃ other, ys.lookup entry.1 = some other ∧ entry.2.same other = true) :
      Alike (.obj xs) (.obj ys)

theorem sameLists_iff (xs ys : List Value) :
    sameLists xs ys = true ↔ List.Forall₂ (fun x y => x.same y = true) xs ys := by
  induction xs generalizing ys with
  | nil => cases ys <;> simp [sameLists]
  | cons x xs ih => cases ys <;> simp [sameLists, ih]

theorem sameFields_iff (xs ys : Fields) :
    sameFields xs ys = true ↔
      ∀ entry ∈ xs, ∃ other, ys.lookup entry.1 = some other ∧ entry.2.same other = true := by
  induction xs with
  | nil => simp [sameFields]
  | cons entry rest ih =>
      obtain ⟨key, value⟩ := entry
      rw [sameFields, Bool.and_eq_true, ih, List.forall_mem_cons]
      cases ys.lookup key <;> simp

variable {admitted : Float → Prop} {a b c : Value}

theorem same_iff (json : IsDataWith admitted a) : a.same b = true ↔ Alike a b := by
  cases json with
  | null =>
      cases b with
      | null => exact iff_of_true rfl .null
      | _ => exact iff_of_false Bool.false_ne_true fun | .rank left _ => nomatch left
  | bool | int | float =>
      rw [same_of_number rfl]
      exact ⟨fun ⟨_, left, right⟩ => .rank left right,
        fun | .rank left right => ⟨_, left, right⟩⟩
  | str =>
      rw [same_of_text]
      exact ⟨fun ⟨_, left, right⟩ => .rank left right,
        fun | .rank left right => ⟨_, left, right⟩⟩
  | list =>
      cases b with
      | list ys =>
          rw [same, sameLists_iff]
          exact ⟨.list, fun | .list each => each⟩
      | _ => exact iff_of_false Bool.false_ne_true fun | .rank left _ => nomatch left
  | obj =>
      cases b with
      | obj ys =>
          rw [same, Bool.and_eq_true, sameFields_iff, beq_iff_eq]
          exact ⟨fun ⟨size, each⟩ => .obj size each, fun | .obj size each => ⟨size, each⟩⟩
      | _ => exact iff_of_false Bool.false_ne_true fun | .rank left _ => nomatch left

/-- Whatever pairs two rows can be turned round pair by pair. -/
theorem turned_pairs {related turned : Value → Value → Prop} {xs ys : List Value}
    (pairs : List.Forall₂ related xs ys)
    (turn : ∀ x ∈ xs, ∀ y ∈ ys, related x y → turned y x) : List.Forall₂ turned ys xs := by
  induction pairs with
  | nil => exact .nil
  | cons first _ ih =>
      refine .cons (turn _ List.mem_cons_self _ List.mem_cons_self first) (ih ?_)
      exact fun x left y right => turn x (.tail _ left) y (.tail _ right)

/-- Two objects of one size have the same keys if the keys of one are among those of the other. -/
theorem keys_perm {xs ys : Fields} (distinct : xs.keys.Nodup) (size : xs.length = ys.length)
    (among : ∀ entry ∈ xs, ∃ other, ys.lookup entry.1 = some other) : xs.keys.Perm ys.keys := by
  have inside : xs.keys ⊆ ys.keys := by
    intro key listed
    obtain ⟨entry, member, rfl⟩ := List.mem_map.mp listed
    obtain ⟨other, found⟩ := among entry member
    exact List.mem_map.mpr ⟨_, Fields.mem_of_lookup found, rfl⟩
  refine (List.subperm_of_subset distinct inside).perm_of_length_le ?_
  simp [Fields.keys, size]

theorem same_symm (left : IsDataWith admitted a) (right : IsDataWith admitted b)
    (same : a.same b = true) : b.same a = true := by
  induction a, left using IsDataWith.induct generalizing b with
  | leaf a json plain single =>
      rw [same_iff right]
      cases (same_iff json).mp same with
      | null => exact .null
      | rank left right => exact .rank right left
      | list => exact (plain _ rfl).elim
      | obj => exact (single _ rfl).elim
  | list xs json each ih =>
      cases (same_iff json).mp same with
      | rank left => cases left
      | list pairs =>
          refine (same_iff right).mpr (.list (turned_pairs pairs fun x member y other alike => ?_))
          cases right with
          | list _ others => exact ih x member (others y other) alike
  | obj xs json each ih =>
      cases (same_iff json).mp same with
      | rank left => cases left
      | obj size pairs =>
          cases json with
          | obj distinct =>
          cases right with
          | obj unique others =>
          have keys := keys_perm distinct size fun entry member =>
            (pairs entry member).imp fun _ => And.left
          refine (same_iff (.obj unique others)).mpr (.obj size.symm fun ⟨key, value⟩ other => ?_)
          have shared : key ∈ Fields.keys xs :=
            keys.mem_iff.mpr (List.mem_map.mpr ⟨_, other, rfl⟩)
          obtain ⟨⟨_, found⟩, member, rfl⟩ := List.mem_map.mp shared
          obtain ⟨same, there, alike⟩ := pairs _ member
          rw [Fields.lookup_of_mem unique other] at there
          cases there
          exact ⟨found, Fields.lookup_of_mem distinct member, ih _ member (others _ other) alike⟩

theorem chained_pairs {first second both : Value → Value → Prop} {xs ys zs : List Value}
    (pairs : List.Forall₂ first xs ys) (others : List.Forall₂ second ys zs)
    (chain : ∀ x ∈ xs, ∀ y ∈ ys, ∀ z ∈ zs, first x y → second y z → both x z) :
    List.Forall₂ both xs zs := by
  induction pairs generalizing zs with
  | nil =>
      cases others
      exact .nil
  | cons head _ ih =>
      cases others with
      | cons next others =>
          refine .cons (chain _ (.head _) _ (.head _) _ (.head _) head next) (ih others ?_)
          exact fun x left y middle z right =>
            chain x (.tail _ left) y (.tail _ middle) z (.tail _ right)

theorem same_trans (left : IsDataWith admitted a) (middle : IsDataWith admitted b)
    (first : a.same b = true) (second : b.same c = true) : a.same c = true := by
  induction a, left using IsDataWith.induct generalizing b c with
  | leaf a json plain single =>
      rw [same_iff json]
      cases (same_iff json).mp first with
      | null => exact (same_iff middle).mp second
      | rank left right =>
          cases (same_iff middle).mp second with
          | null => cases right
          | rank again last => exact .rank left (Option.some.inj (right.symm.trans again) ▸ last)
          | list | obj => cases right
      | list => exact (plain _ rfl).elim
      | obj => exact (single _ rfl).elim
  | list xs json each ih =>
      rw [same_iff json]
      cases (same_iff json).mp first with
      | rank left => cases left
      | list pairs =>
          cases (same_iff middle).mp second with
          | rank left => cases left
          | list others =>
              cases middle with
              | list _ data =>
                  exact .list (chained_pairs pairs others fun x member y other _ _ =>
                    ih x member (data y other))
  | obj xs json each ih =>
      rw [same_iff json]
      cases (same_iff json).mp first with
      | rank left => cases left
      | obj size pairs =>
          cases (same_iff middle).mp second with
          | rank left => cases left
          | obj more others =>
              cases middle with
              | obj _ data =>
              refine .obj (size.trans more) fun entry member => ?_
              obtain ⟨value, found, alike⟩ := pairs entry member
              have inside := Fields.mem_of_lookup found
              obtain ⟨last, there, again⟩ := others _ inside
              exact ⟨last, there, ih entry member (data _ inside) alike again⟩

/-- One of two equal data can take the place of the other. -/
theorem same_congr (left : IsDataWith admitted a) (middle : IsDataWith admitted b)
    (same : a.same b = true) : a.same c = b.same c := by
  rw [Bool.eq_iff_iff]
  exact ⟨same_trans middle left (same_symm left middle same), same_trans left middle same⟩

theorem same_comm (left : IsDataWith admitted a) (right : IsDataWith admitted b) :
    a.same b = b.same a := by
  rw [Bool.eq_iff_iff]
  exact ⟨same_symm left right, same_symm right left⟩

theorem compareLists_swap {xs ys : List Value} (left : ∀ x ∈ xs, IsDataWith admitted x)
    (right : ∀ y ∈ ys, IsDataWith admitted y)
    (each : ∀ x ∈ xs, ∀ y ∈ ys, y.compare? x = (x.compare? y).map Ordering.swap) :
    compareLists ys xs = (compareLists xs ys).map Ordering.swap := by
  induction xs generalizing ys with
  | nil => cases ys <;> rfl
  | cons x xs ih =>
      cases ys with
      | nil => rfl
      | cons y ys =>
          obtain ⟨first, left⟩ := List.forall_mem_cons.mp left
          obtain ⟨head, right⟩ := List.forall_mem_cons.mp right
          rw [compareLists, compareLists, same_comm head first]
          split
          · exact ih left right fun x member y other => each x (.tail _ member) y (.tail _ other)
          · exact each x (.head _) y (.head _)

/-- Comparing the other way round gives the opposite. -/
theorem compare?_swap (left : IsDataWith admitted a) (right : IsDataWith admitted b) :
    b.compare? a = (a.compare? b).map Ordering.swap := by
  have ranked : ∀ {a b : Value}, (∀ xs ys, a = .list xs → b = .list ys → False) →
      b.compare? a = (a.compare? b).map Ordering.swap := by
    intro a b leaves
    rw [compare?_of_ranks leaves, compare?_of_ranks fun xs ys left right => leaves ys xs right left]
    cases a.rank? with
    | none => cases b.rank? <;> rfl
    | some r =>
        cases b.rank? with
        | none => rfl
        | some s => exact Rank.compare?_swap r s
  induction a, left using IsDataWith.induct generalizing b with
  | leaf a json plain single => exact ranked fun xs _ left _ => plain xs left
  | obj xs json each ih => exact ranked nofun
  | list xs json each ih =>
      cases right with
      | list countable others =>
          rw [compare?, compare?]
          exact compareLists_swap each others fun x member y other => ih x member (others y other)
      | null | bool | int | float | str | obj => exact ranked nofun

theorem compareLists_congr {xs ys zs : List Value} (left : ∀ x ∈ xs, IsDataWith admitted x)
    (middle : ∀ y ∈ ys, IsDataWith admitted y)
    (pairs : List.Forall₂ (fun x y => x.same y = true) xs ys)
    (each : ∀ x ∈ xs, ∀ y ∈ ys, x.same y = true → ∀ z ∈ zs, x.compare? z = y.compare? z) :
    compareLists xs zs = compareLists ys zs := by
  induction pairs generalizing zs with
  | nil => rfl
  | @cons x y xs ys alike _ ih =>
      cases zs with
      | nil => rfl
      | cons z zs =>
          obtain ⟨first, left⟩ := List.forall_mem_cons.mp left
          obtain ⟨second, middle⟩ := List.forall_mem_cons.mp middle
          rw [compareLists, compareLists, same_congr first second alike]
          split
          · exact ih left middle fun x member y other alike z last =>
              each x (.tail _ member) y (.tail _ other) alike z (.tail _ last)
          · exact each x (.head _) y (.head _) alike z (.head _)

/-- What is equal compares alike. -/
theorem compare?_congr (left : IsDataWith admitted a) (middle : IsDataWith admitted b)
    (right : IsDataWith admitted c) (same : a.same b = true) : a.compare? c = b.compare? c := by
  induction a, left using IsDataWith.induct generalizing b c with
  | leaf a json plain single =>
      cases (same_iff json).mp same with
      | null => rfl
      | rank left again =>
          have others : ∀ ys zs, b = .list ys → c = .list zs → False := by
            rintro ys zs rfl
            cases again
          rw [compare?_of_ranks fun xs _ list _ => plain xs list, compare?_of_ranks others, left, again]
      | list => exact (plain _ rfl).elim
      | obj => exact (single _ rfl).elim
  | obj xs json each ih =>
      cases (same_iff json).mp same with
      | rank left => cases left
      | obj => cases c <;> rfl
  | list xs json each ih =>
      cases (same_iff json).mp same with
      | rank left => cases left
      | list pairs =>
          cases middle with
          | list _ others =>
              cases right with
              | list _ last =>
                  rw [compare?, compare?]
                  exact compareLists_congr each others pairs fun x member y other alike z there =>
                    ih x member (others y other) (last z there) alike
              | _ => rfl

theorem compare?_congr_right (left : IsDataWith admitted a) (middle : IsDataWith admitted b)
    (right : IsDataWith admitted c) (same : b.same c = true) : a.compare? b = a.compare? c := by
  rw [compare?_swap middle left, compare?_swap right left, compare?_congr middle right left same]

/-- What is equal is neither less nor greater. -/
theorem same_of_compare? (left : IsDataWith admitted a) (right : IsDataWith admitted b)
    (same : a.same b = true) : a.compare? b ≠ some .lt ∧ a.compare? b ≠ some .gt := by
  have own := compare?_swap right right
  rw [compare?_congr left right right same]
  cases order : b.compare? b with
  | none => simp
  | some order' =>
      rw [order] at own
      cases order' <;> simp [Ordering.swap] at own ⊢

/-- Two values that are compared have ranks, or both are lists. -/
theorem compare?_cases {order : Ordering} (found : a.compare? b = some order) :
    (∃ r s, a.rank? = some r ∧ b.rank? = some s ∧ r.compare? s = some order) ∨
      ∃ xs ys, a = .list xs ∧ b = .list ys ∧ compareLists xs ys = some order := by
  by_cases lists : ∃ xs ys, a = .list xs ∧ b = .list ys
  · obtain ⟨xs, ys, rfl, rfl⟩ := lists
    exact .inr ⟨xs, ys, rfl, rfl, found⟩
  · rw [compare?_of_ranks fun xs ys left right => lists ⟨xs, ys, left, right⟩] at found
    obtain ⟨r, left, found⟩ := Option.bind_eq_some_iff.mp found
    obtain ⟨s, right, found⟩ := Option.bind_eq_some_iff.mp found
    exact .inl ⟨r, s, left, right, found⟩

theorem compareLists_eq {xs ys : List Value}
    (each : ∀ x ∈ xs, ∀ y ∈ ys, x.compare? y = some .eq → x.same y = true)
    (equal : compareLists xs ys = some .eq) : List.Forall₂ (fun x y => x.same y = true) xs ys := by
  induction xs generalizing ys with
  | nil =>
      cases ys with
      | nil => exact .nil
      | cons => cases equal
  | cons x xs ih =>
      cases ys with
      | nil => cases equal
      | cons y ys =>
          rw [compareLists] at equal
          split at equal
          next same =>
            exact .cons same
              (ih (fun x left y right => each x (.tail _ left) y (.tail _ right)) equal)
          next other => exact absurd (each x (.head _) y (.head _) equal) other

/-- Only what is equal has one place in the order. -/
theorem same_of_compare?_eq (left : IsDataWith admitted a) (equal : a.compare? b = some .eq) :
    a.same b = true := by
  induction a, left using IsDataWith.induct generalizing b with
  | leaf a json plain single =>
      obtain ⟨r, s, left, right, ranks⟩ | ⟨xs, _, rfl, -⟩ := compare?_cases equal
      · cases Rank.compare?_eq_iff.mp ranks
        exact (same_iff json).mpr (.rank left right)
      · exact (plain xs rfl).elim
  | obj xs json each ih =>
      obtain ⟨_, _, left, -⟩ | ⟨_, _, left, -⟩ := compare?_cases equal <;> cases left
  | list xs json each ih =>
      obtain ⟨_, _, left, -⟩ | ⟨_, ys, ⟨⟩, rfl, lists⟩ := compare?_cases equal
      · cases left
      · exact (same_iff json).mpr (.list (compareLists_eq (fun x member y _ => ih x member) lists))

theorem compareLists_trans {xs ys zs : List Value} (left : ∀ x ∈ xs, IsDataWith admitted x)
    (middle : ∀ y ∈ ys, IsDataWith admitted y) (right : ∀ z ∈ zs, IsDataWith admitted z)
    (each : ∀ x ∈ xs, ∀ y ∈ ys, ∀ z ∈ zs, x.compare? y = some .lt → y.compare? z = some .lt →
      x.compare? z = some .lt)
    (first : compareLists xs ys = some .lt) (second : compareLists ys zs = some .lt) :
    compareLists xs zs = some .lt := by
  induction xs generalizing ys zs with
  | nil =>
      cases ys with
      | nil => cases first
      | cons y ys =>
          cases zs with
          | nil => cases second
          | cons => rfl
  | cons x xs ih =>
      cases ys with
      | nil => cases first
      | cons y ys =>
          cases zs with
          | nil => cases second
          | cons z zs =>
              obtain ⟨dataX, left⟩ := List.forall_mem_cons.mp left
              obtain ⟨dataY, middle⟩ := List.forall_mem_cons.mp middle
              obtain ⟨dataZ, right⟩ := List.forall_mem_cons.mp right
              rw [compareLists] at first second ⊢
              by_cases front : x.same y = true
              · rw [if_pos front] at first
                rw [same_congr dataX dataY front, compare?_congr dataX dataY dataZ front]
                by_cases back : y.same z = true
                · rw [if_pos back] at second ⊢
                  exact ih left middle right (fun x a y b z c =>
                    each x (.tail _ a) y (.tail _ b) z (.tail _ c)) first second
                · rw [if_neg back] at second ⊢
                  exact second
              · rw [if_neg front] at first
                by_cases back : y.same z = true
                · have apart : ¬ x.same z = true := fun alike =>
                    front (same_trans dataX dataZ alike (same_symm dataY dataZ back))
                  rw [if_neg apart, ← compare?_congr_right dataX dataY dataZ back]
                  exact first
                · rw [if_neg back] at second
                  have less := each x (.head _) y (.head _) z (.head _) first second
                  have apart : ¬ x.same z = true := fun alike =>
                    (same_of_compare? dataX dataZ alike).1 less
                  rw [if_neg apart]
                  exact less

theorem compare?_trans (left : IsDataWith admitted a) (middle : IsDataWith admitted b)
    (right : IsDataWith admitted c) (first : a.compare? b = some .lt)
    (second : b.compare? c = some .lt) : a.compare? c = some .lt := by
  induction a, left using IsDataWith.induct generalizing b c with
  | leaf a json plain single =>
      obtain ⟨r, s, left, right, less⟩ | ⟨xs, _, rfl, -⟩ := compare?_cases first
      · obtain ⟨s', t, again, last, more⟩ | ⟨_, _, rfl, -⟩ := compare?_cases second
        · cases right.symm.trans again
          rw [compare?_of_ranks fun xs _ list _ => plain xs list, left, last]
          exact Rank.compare?_trans less more
        · cases right
      · exact (plain xs rfl).elim
  | obj xs json each ih =>
      obtain ⟨_, _, left, -⟩ | ⟨_, _, left, -⟩ := compare?_cases first <;> cases left
  | list xs json each ih =>
      obtain ⟨_, _, left, -⟩ | ⟨_, ys, ⟨⟩, rfl, less⟩ := compare?_cases first
      · cases left
      · obtain ⟨_, _, again, -⟩ | ⟨_, zs, ⟨⟩, rfl, more⟩ := compare?_cases second
        · cases again
        · cases middle with
          | list _ others =>
          cases right with
          | list _ last =>
          rw [compare?]
          exact compareLists_trans each others last (fun x member y other z there =>
            ih x member (others y other) (last z there)) less more

end Value

/-- Positions are whole numbers of a unit, so that they keep the order of whole numbers. -/
theorem Number.below_int (a b : Int) : (Number.int a).below (.int b) = decide (a < b) := by
  have powers : ∀ exponent, 0 < Nat.pow 2 exponent := fun _ => Nat.pow_pos Nat.zero_lt_two
  obtain ⟨unit, positive, position⟩ : ∃ unit : Int, 0 < unit ∧
      ∀ n, (Number.int n).position? = some (.finite (n * unit)) :=
    ⟨_, Int.natCast_pos.mpr (powers 1074), fun n => by rw [Number.position?]⟩
  simp only [Number.below, position, Number.Position.below]
  exact decide_eq_decide.mpr (Int.mul_lt_mul_right positive)

namespace Value

theorem compareNumbers_int (a b : Int) :
    compareNumbers (.int a) (.int b) = some (compare a b) := by
  unfold compareNumbers
  rw [Number.below_int, Number.below_int]
  rcases Int.lt_trichotomy a b with less | rfl | greater
  · simp [less, compareOfLessAndEq, compare]
  · have same : (Number.int a).same (.int a) = true := by
      show (Number.Position.finite _ == .finite _) = true
      exact beq_self_eq_true _
    simp [same]
  · have unequal : ¬ a < b := Int.not_lt.mpr (Int.le_of_lt greater)
    simp [greater, unequal, compareOfLessAndEq, compare, Int.ne_of_gt greater]

theorem ordering_int (symbol : String) (a b : Int) :
    ordering symbol (.int a) (.int b) = .ok (some (compare a b)) := by
  rw [ordering.eq_def]
  exact congrArg Except.ok (compareNumbers_int a b)

/-- Whole numbers are compared as such. -/
theorem greater_int (a b : Int) : (Value.int a).greater (.int b) = .ok (decide (b < a)) := by
  have same : (some (compare a b) == some Ordering.gt) = decide (b < a) := by
    rw [Bool.eq_iff_iff]
    simp [Std.compare_eq_gt]
  simp only [Value.greater, ordering_int]
  exact congrArg Except.ok same

theorem less_int (a b : Int) : (Value.int a).less (.int b) = .ok (decide (a < b)) := by
  have same : (some (compare a b) == some Ordering.lt) = decide (a < b) := by
    rw [Bool.eq_iff_iff]
    simp [Std.compare_eq_lt]
  simp only [Value.less, ordering_int]
  exact congrArg Except.ok same

theorem greatest_int (a b : Int) : (Value.int a).greatest (.int b) = .ok (.int (max a b)) := by
  simp only [Value.greatest, greater_int]
  by_cases less : a < b
  · rw [decide_eq_true less, Int.max_eq_right (Int.le_of_lt less)]
    rfl
  · rw [decide_eq_false less, Int.max_eq_left (Int.not_lt.mp less)]
    rfl

theorem least_int (a b : Int) : (Value.int a).least (.int b) = .ok (.int (min a b)) := by
  simp only [Value.least, less_int]
  by_cases less : b < a
  · rw [decide_eq_true less, Int.min_eq_right (Int.le_of_lt less)]
    rfl
  · rw [decide_eq_false less, Int.min_eq_left (Int.not_lt.mp less)]
    rfl

end Value

end Orchestra
