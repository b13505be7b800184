import Orchestra.Proofs.Address
import Orchestra.Proofs.Http.Blocking

/-!
The guard of an HTTP client before the spellings of one host.

The case of letters, a user, a port, and what follows the host do not matter to it, nor do dots at
the end of a name. An IPv4 address with a dot at its end is no address to the guard, and is let
through.
-/

namespace Orchestra

namespace Url

/-- A character that does not end the part of a URL in which the host stands. -/
def Inner (c : Char) : Prop :=
  c ∉ ['/', '?', '#']

/-- A character that is dropped from URLs. -/
def Dropped (c : Char) : Prop :=
  c ∈ ['\t', '\n', '\r']

/-- The ways to write a web address with a host. The host may stand in brackets, if it is an IPv6
address or of the form that is kept for future addresses. Else it holds no colon, and dots may follow
it. -/
structure Spelling (host : String) where
  scheme : List Char
  user : Option (List Char)
  /-- The host in some case of its letters. -/
  letters : List Char
  bracketed : Bool
  /-- How many dots follow the host. -/
  dots : Nat
  port : Option (List Char)
  /-- The path, the query and the fragment. -/
  tail : List Char
  web : scheme.map Char.toLower = "http".toList ∨ scheme.map Char.toLower = "https".toList
  plain : ∀ text ∈ user, ∀ c ∈ text, c.toNat < 128 ∧ Inner c ∧ c ≠ '[' ∧ c ≠ ']'
  cased : Text.lower (String.ofList letters) = Text.lower host
  clear : ∀ c ∈ letters, Inner c ∧ ¬ Dropped c ∧ c ≠ '@' ∧ c ≠ '[' ∧ c ≠ ']' ∧
    c.toNat ∉ disguised
  closed : bracketed = true → dots = 0 ∧
    ((∃ bits, Address.ofText? host = some (.v6 bits)) ∨ mayBeBracketed letters = true)
  bare : bracketed = false → ':' ∉ letters
  digits : ∀ text ∈ port, ∀ c ∈ text, c.isDigit = true
  parted : ∀ c ∈ tail.head?, ¬ Inner c

section Cutting

variable {cs front rest : List Char} {separator : Char}

theorem cut_of_notMem (whole : separator ∉ cs) : cut separator cs = (cs, none) := by
  have passed : cs.dropWhile (· != separator) = [] :=
    List.dropWhile_eq_nil_iff.mpr fun c member => by
      simpa using fun same : c = separator => whole (same ▸ member)
  rw [cut, passed]

theorem cut_append (whole : separator ∉ front) :
    cut separator (front ++ separator :: rest) = (front, some rest) := by
  have passed : ∀ c ∈ front, (c != separator) = true := fun c member => by
    simpa using fun same : c = separator => whole (same ▸ member)
  rw [cut, List.dropWhile_append_of_pos passed, List.takeWhile_append_of_pos passed]
  simp

theorem withoutUser_of_notMem (whole : '@' ∉ rest) : withoutUser rest = rest := by
  have passed : ∀ c ∈ rest.reverse, (c != '@') = true := fun c member => by
    simpa using fun same : c = '@' => whole (same ▸ List.mem_reverse.mp member)
  rw [withoutUser, List.takeWhile_eq_self_iff.mpr passed, List.reverse_reverse]

theorem withoutUser_append (whole : '@' ∉ rest) : withoutUser (front ++ '@' :: rest) = rest := by
  have passed : ∀ c ∈ rest.reverse, (c != '@') = true := fun c member => by
    simpa using fun same : c = '@' => whole (same ▸ List.mem_reverse.mp member)
  rw [withoutUser, List.reverse_append, List.reverse_cons, List.append_assoc,
    List.takeWhile_append_of_pos passed]
  simp

end Cutting

/-- A text without the characters that are dropped from URLs. -/
def kept (cs : List Char) : List Char :=
  cs.filter fun c => c != '\t' && c != '\n' && c != '\r'

theorem kept_append (cs ds : List Char) : kept (cs ++ ds) = kept cs ++ kept ds :=
  List.filter_append ..

theorem kept_of_clear {cs : List Char} (clear : ∀ c ∈ cs, ¬ Dropped c) : kept cs = cs := by
  refine List.filter_eq_self.mpr fun c member => ?_
  have other := clear c member
  simp only [Dropped, List.mem_cons, List.not_mem_nil, or_false, not_or] at other
  simp [other]

theorem digit_plain : ∀ c : Char, c = ':' ∨ c.isDigit = true →
    c.toNat < 128 ∧ Inner c ∧ ¬ Dropped c ∧ c ≠ '@' ∧ c ≠ '[' ∧ c ≠ ']' := by
  refine Text.of_ascii ?_ ?_
  · simp only [Inner, Dropped]
    decide +kernel
  · rintro c - beyond (rfl | digit)
    · exact absurd beyond (by decide)
    · have bounds := Text.isDigit_bounds digit
      omega

theorem scheme_plain : ∀ c : Char, c.toLower ∈ ['h', 't', 'p', 's'] →
    0x20 < c.toNat ∧ c ≠ ':' ∧ ¬ Dropped c ∧ c.isAlpha = true ∧ isSchemeChar c = true := by
  refine Text.of_ascii ?_ ?_
  · simp only [Dropped]
    decide +kernel
  · intro c same beyond member
    have ascii : ∀ d ∈ ['h', 't', 'p', 's'], d.toNat < 128 := by simp
    have := ascii _ (same ▸ member)
    omega

theorem ascii_undisguised {c : Char} (ascii : c.toNat < 128) : c.toNat ∉ disguised := by
  have beyond : ∀ code ∈ disguised, 128 ≤ code := by decide +kernel
  intro member
  have := beyond _ member
  omega

namespace Spelling

variable {host : String} (spelling : Spelling host)

/-- The user with the at sign, if there is one. -/
def front : List Char :=
  match spelling.user with
  | some text => text ++ ['@']
  | none => []

/-- The host as it stands in the URL. -/
def place : List Char :=
  if spelling.bracketed then '[' :: spelling.letters ++ [']']
  else spelling.letters ++ List.replicate spelling.dots '.'

/-- The port with the colon, if there is one. -/
def back : List Char :=
  match spelling.port with
  | some text => ':' :: text
  | none => []

def url : String :=
  String.ofList (spelling.scheme ++ ':' :: '/' :: '/' ::
    (spelling.front ++ (spelling.place ++ spelling.back) ++ spelling.tail))

/-- What a reader takes for the user, the host and the port. -/
def authority : List Char :=
  kept spelling.front ++ (spelling.place ++ spelling.back)

theorem front_cases :
    kept spelling.front = [] ∨ ∃ text, kept spelling.front = text ++ ['@'] := by
  rw [front]
  split
  · exact .inr ⟨_, kept_append ..⟩
  · exact .inl rfl

theorem mem_front {c : Char} (member : c ∈ kept spelling.front) :
    c.toNat < 128 ∧ Inner c ∧ c ≠ '[' ∧ c ≠ ']' := by
  have inside := List.mem_of_mem_filter member
  rw [front] at inside
  split at inside
  next text given =>
    rcases List.mem_append.mp inside with user | sign
    · exact spelling.plain text given c user
    · rw [List.mem_singleton.mp sign]
      simp only [Inner]
      decide +kernel
  next => cases inside

theorem mem_back {c : Char} (member : c ∈ spelling.back) :
    c.toNat < 128 ∧ Inner c ∧ ¬ Dropped c ∧ c ≠ '@' ∧ c ≠ '[' ∧ c ≠ ']' := by
  rw [back] at member
  split at member
  next text given =>
    rcases List.mem_cons.mp member with rfl | digit
    · exact digit_plain _ (.inl rfl)
    · exact digit_plain _ (.inr (spelling.digits text given c digit))
  next => cases member

theorem mem_place {c : Char} (member : c ∈ spelling.place) :
    Inner c ∧ ¬ Dropped c ∧ c ≠ '@' ∧ c.toNat ∉ disguised := by
  have letter : c ∈ spelling.letters →
      Inner c ∧ ¬ Dropped c ∧ c ≠ '@' ∧ c.toNat ∉ disguised := by
    intro inside
    obtain ⟨inner, undropped, sign, -, -, undisguised⟩ := spelling.clear c inside
    exact ⟨inner, undropped, sign, undisguised⟩
  have other : c ∈ ['[', ']', '.'] →
      Inner c ∧ ¬ Dropped c ∧ c ≠ '@' ∧ c.toNat ∉ disguised := by
    have every : ∀ c ∈ ['[', ']', '.'],
        c.toNat < 128 ∧ Inner c ∧ ¬ Dropped c ∧ c ≠ '@' := by
      simp [Inner, Dropped]
    intro inside
    obtain ⟨ascii, inner, undropped, sign⟩ := every c inside
    exact ⟨inner, undropped, sign, ascii_undisguised ascii⟩
  rw [place] at member
  split at member
  · simp only [List.cons_append, List.mem_cons, List.mem_append, List.not_mem_nil, or_false] at member
    rcases member with rfl | inside | rfl
    · exact other (by decide)
    · exact letter inside
    · exact other (by decide)
  · rcases List.mem_append.mp member with inside | dot
    · exact letter inside
    · rw [List.eq_of_mem_replicate dot] at other ⊢
      exact other (by decide)

theorem withoutUser_authority :
    withoutUser spelling.authority = spelling.place ++ spelling.back := by
  have whole : '@' ∉ spelling.place ++ spelling.back := by
    intro member
    rcases List.mem_append.mp member with inside | inside
    · exact (spelling.mem_place inside).2.2.1 rfl
    · exact (spelling.mem_back inside).2.2.2.1 rfl
  rw [authority]
  rcases spelling.front_cases with none | ⟨text, user⟩
  · rw [none, List.nil_append, withoutUser_of_notMem whole]
  · rw [user, List.append_assoc, List.singleton_append, withoutUser_append whole]

/-- An IPv6 address may stand in brackets in whatever case its letters are. -/
theorem mayBeBracketed_letters (boxed : spelling.bracketed = true) :
    mayBeBracketed spelling.letters = true := by
  rcases (spelling.closed boxed).2 with ⟨bits, sixth⟩ | form
  · have read : Address.ofText? (String.ofList spelling.letters) = some (.v6 bits) := by
      rw [Address.ofText?_congr spelling.cased, sixth]
    rw [mayBeBracketed]
    · rw [read]
    · intro rest future
      rw [future] at read
      exact Address.ofText?_future rest bits read
  · exact form

theorem bracketless {c : Char} (bracket : c = '[' ∨ c = ']') :
    c ∉ kept spelling.front ∧ c ∉ spelling.letters ∧ c ∉ spelling.back := by
  refine ⟨fun member => ?_, fun member => ?_, fun member => ?_⟩
  · obtain ⟨-, -, left, right⟩ := spelling.mem_front member
    exact bracket.elim left right
  · obtain ⟨-, -, -, left, right, -⟩ := spelling.clear c member
    exact bracket.elim left right
  · obtain ⟨-, -, -, -, left, right⟩ := spelling.mem_back member
    exact bracket.elim left right

theorem place_boxed (boxed : spelling.bracketed = true) :
    spelling.place = '[' :: (spelling.letters ++ [']']) := by
  rw [place, boxed]
  rfl

theorem place_bare (bare : spelling.bracketed = false) :
    spelling.place = spelling.letters ++ List.replicate spelling.dots '.' := by
  rw [place, bare]
  rfl

theorem cut_boxed (boxed : spelling.bracketed = true) :
    cut '[' (withoutUser spelling.authority) =
      ([], some (spelling.letters ++ ']' :: spelling.back)) := by
  have first := @cut_append [] (spelling.letters ++ ']' :: spelling.back) '[' List.not_mem_nil
  rw [withoutUser_authority, spelling.place_boxed boxed, List.cons_append, List.append_assoc]
  exact first

theorem unbracketed (bare : spelling.bracketed = false) {c : Char} (bracket : c = '[' ∨ c = ']') :
    c ∉ spelling.authority := by
  obtain ⟨user, host, port⟩ := spelling.bracketless bracket
  have dots : c ∉ List.replicate spelling.dots '.' := by
    intro member
    obtain rfl := List.eq_of_mem_replicate member
    exact absurd bracket (by decide)
  rw [authority, spelling.place_bare bare]
  simp only [List.mem_append, user, host, port, dots, or_self, not_false_eq_true]

theorem bracketsFit_authority : bracketsFit spelling.authority = true := by
  cases boxed : spelling.bracketed with
  | true =>
      have place := spelling.place_boxed boxed
      have opened : '[' ∈ spelling.authority := by simp [authority, place]
      have ended : ']' ∈ spelling.authority := by simp [authority, place]
      have port : (spelling.back.head?.map (· == ':')).getD true = true := by
        rw [back]
        split <;> rfl
      simp [bracketsFit, opened, ended, spelling.cut_boxed boxed,
        cut_append (spelling.bracketless (.inr rfl)).2.1, port,
        spelling.mayBeBracketed_letters boxed]
  | false =>
      simp [bracketsFit, spelling.unbracketed boxed (.inl rfl), spelling.unbracketed boxed (.inr rfl)]

theorem authority_undisguised :
    spelling.authority.any (fun c => disguised.contains c.toNat) = false := by
  refine List.any_eq_false.mpr fun c member => ?_
  rw [List.contains_iff_mem]
  rcases List.mem_append.mp member with user | rest
  · exact ascii_undisguised (spelling.mem_front user).1
  · rcases List.mem_append.mp rest with inside | port
    · exact (spelling.mem_place inside).2.2.2
    · exact ascii_undisguised (spelling.mem_back port).1

/-- The host with the dots that follow it is what stands before the port. -/
theorem hostText_authority :
    hostText spelling.authority = spelling.letters ++ List.replicate spelling.dots '.' := by
  rw [hostText]
  cases boxed : spelling.bracketed with
  | true =>
      rw [spelling.cut_boxed boxed, (spelling.closed boxed).1]
      simp only [cut_append (spelling.bracketless (.inr rfl)).2.1, List.replicate_zero,
        List.append_nil]
  | false =>
      have place := spelling.place_bare boxed
      have colonless : ':' ∉ spelling.place := by
        rw [place, List.mem_append, not_or]
        refine ⟨spelling.bare boxed, fun member => ?_⟩
        exact absurd (List.eq_of_mem_replicate member) (by decide)
      have whole : '[' ∉ spelling.place ++ spelling.back := by
        have outside := spelling.unbracketed boxed (.inl rfl)
        exact fun member => outside (List.mem_append_right _ member)
      rw [withoutUser_authority, cut_of_notMem whole, ← place]
      dsimp only
      rw [back]
      split
      · rw [cut_append colonless]
      · rw [List.append_nil, cut_of_notMem colonless]

theorem scheme_mem {c : Char} (member : c ∈ spelling.scheme) :
    c.toLower ∈ ['h', 't', 'p', 's'] := by
  have letters : ∀ d ∈ "http".toList ++ "https".toList, d ∈ ['h', 't', 'p', 's'] := by simp
  have inside := List.mem_map_of_mem (f := Char.toLower) member
  refine letters _ (List.mem_append.mpr ?_)
  rcases spelling.web with http | https
  · exact .inl (http ▸ inside)
  · exact .inr (https ▸ inside)

theorem scheme_cons : ∃ first rest, spelling.scheme = first :: rest := by
  cases whole : spelling.scheme with
  | nil =>
      have web := spelling.web
      rw [whole] at web
      simp at web
  | cons first rest => exact ⟨first, rest, rfl⟩

theorem cleaned_url : cleaned spelling.url =
    spelling.scheme ++ ':' :: '/' :: '/' :: (spelling.authority ++ kept spelling.tail) := by
  obtain ⟨first, rest, whole⟩ := spelling.scheme_cons
  have visible : ¬ first.toNat ≤ 0x20 :=
    Nat.not_le.mpr (scheme_plain _ (spelling.scheme_mem (whole ▸ List.mem_cons_self))).1
  have scheme : kept spelling.scheme = spelling.scheme :=
    kept_of_clear fun c member => (scheme_plain c (spelling.scheme_mem member)).2.2.1
  have host : kept (spelling.place ++ spelling.back) = spelling.place ++ spelling.back :=
    kept_of_clear fun c member => (List.mem_append.mp member).elim
      (fun inside => (spelling.mem_place inside).2.1) fun inside => (spelling.mem_back inside).2.2.1
  have start : spelling.url.toList.dropWhile (fun c => c.toNat ≤ 0x20) = spelling.url.toList := by
    rw [url, String.toList_ofList, whole, List.cons_append]
    exact List.dropWhile_cons_of_neg (by simpa using visible)
  have separators : kept [':', '/', '/'] = [':', '/', '/'] := rfl
  rw [cleaned, start, url, String.toList_ofList]
  show kept (spelling.scheme ++ ([':', '/', '/'] ++
    (spelling.front ++ (spelling.place ++ spelling.back) ++ spelling.tail))) = _
  rw [kept_append, scheme, kept_append, separators, kept_append, kept_append spelling.front, host]
  rfl

theorem splitScheme_append (rest : List Char) :
    splitScheme (spelling.scheme ++ ':' :: rest) =
      (String.ofList (spelling.scheme.map Char.toLower), rest) := by
  have plain := fun c member => scheme_plain c (spelling.scheme_mem (c := c) member)
  have clear : ∀ c ∈ spelling.scheme, (c != ':') = true := fun c member => by
    simpa using (plain c member).2.1
  have letter : (spelling.scheme.head?.map Char.isAlpha).getD false = true := by
    obtain ⟨first, rest, whole⟩ := spelling.scheme_cons
    rw [whole]
    exact (plain first (whole ▸ List.mem_cons_self)).2.2.2.1
  have chars : spelling.scheme.all isSchemeChar = true :=
    List.all_eq_true.mpr fun c member => (plain c member).2.2.2.2
  rw [splitScheme, List.takeWhile_append_of_pos clear, List.dropWhile_append_of_pos clear]
  simp [letter, chars]

theorem authorityOf_append :
    authorityOf ('/' :: '/' :: (spelling.authority ++ kept spelling.tail)) =
      spelling.authority := by
  have inner : ∀ c ∈ spelling.authority, (c != '/' && c != '?' && c != '#') = true := by
    intro c member
    have inner : Inner c := by
      rcases List.mem_append.mp member with user | rest
      · exact (spelling.mem_front user).2.1
      · exact (List.mem_append.mp rest).elim (fun inside => (spelling.mem_place inside).1)
          fun inside => (spelling.mem_back inside).2.1
    simp only [Inner, List.mem_cons, List.not_mem_nil, or_false, not_or] at inner
    simp [inner]
  have ended : (kept spelling.tail).takeWhile (fun c => c != '/' && c != '?' && c != '#') = [] := by
    cases whole : spelling.tail with
    | nil => rfl
    | cons c rest =>
        have outer := spelling.parted c (by rw [whole]; rfl)
        simp only [Inner, not_not, List.mem_cons, List.not_mem_nil, or_false] at outer
        rcases outer with rfl | rfl | rfl <;> rfl
  rw [authorityOf, List.takeWhile_append_of_pos inner, ended, List.append_nil]

/-- What is read from the URL: the scheme in lower case, and all between the slashes and the path. -/
theorem ofText?_url : ofText? spelling.url =
    some ⟨String.ofList (spelling.scheme.map Char.toLower), String.ofList spelling.authority⟩ := by
  rw [ofText?, cleaned_url, splitScheme_append]
  dsimp only
  rw [authorityOf_append, bracketsFit_authority, authority_undisguised]
  rfl

end Spelling

/-- The host that is read from a URL has the lower case of its text. -/
theorem host?_eq_some {url : Url} {cs : List Char} (text : hostText url.authority.toList = cs)
    (given : cs ≠ []) :
    ∃ named, url.host? = some named ∧ Text.lower named = Text.lower (String.ofList cs) := by
  obtain ⟨c, rest, rfl⟩ := List.exists_cons_of_ne_nil given
  rw [host?, text]
  dsimp only
  generalize c :: rest = cs
  by_cases marked : '%' ∈ cs
  · obtain ⟨name, zone, rfl, clear⟩ := List.eq_append_cons_of_mem marked
    rw [cut_append clear]
    refine ⟨_, rfl, ?_⟩
    simp only [Text.lower, String.toList_append, String.toList_ofList]
    show String.ofList (Text.lowerFrom false (Text.lowerFrom false name ++ '%' :: zone)) = _
    rw [Text.lowerFrom_parts Address.parts_percent, Text.lowerFrom_lowerFrom,
      Text.lowerFrom_parts Address.parts_percent]
  · rw [cut_of_notMem marked]
    refine ⟨_, rfl, ?_⟩
    simp only [Text.lower, String.append_empty, String.toList_ofList, Text.lowerFrom_lowerFrom]

end Url

section Names

variable {host written : String}

theorem isLocalName_congr (lower : Text.lower written = Text.lower host) :
    isLocalName written = isLocalName host := by
  rw [isLocalName, isLocalName, lower]

/-- Dots at the end of a name do not matter. -/
theorem isLocalName_dots (cs : List Char) (count : Nat) :
    isLocalName (String.ofList (cs ++ List.replicate count '.')) =
      isLocalName (String.ofList cs) := by
  have dotted : ∀ c ∈ List.replicate count '.', (c == '.') = true := fun c member => by
    rw [List.eq_of_mem_replicate member]
    rfl
  simp only [isLocalName, Text.lower, String.toList_ofList, Text.lowerFrom_dots,
    List.reverse_append, List.reverse_replicate, List.dropWhile_append_of_pos dotted]

/-- Every local name holds the letter o. -/
theorem o_mem_of_isLocalName (names : isLocalName host = true) :
    'o' ∈ Text.lowerFrom false host.toList := by
  rw [isLocalName, Text.lower, String.toList_ofList] at names
  have inside :
      'o' ∈ ((Text.lowerFrom false host.toList).reverse.dropWhile (· == '.')).reverse := by
    rcases Bool.or_eq_true_iff.mp names with whole | ending
    · have every : ∀ name ∈ localNames, 'o' ∈ name.toList := by simp [localNames]
      have holds := every _ (List.contains_iff_mem.mp whole)
      rwa [String.toList_ofList] at holds
    · exact (List.isSuffixOf_iff_suffix.mp ending).subset (by decide)
  have := (List.dropWhile_sublist _).subset (List.mem_reverse.mp inside)
  exact List.mem_reverse.mp this

end Names

namespace Http

variable {config : Config} {host written : String}

/-- A client does not call a URL because of the host in it. -/
def Refused (config : Config) (url : String) : Prop :=
  ∃ named, admittedHost config (.str url) = .error (.addressBlocked (.str named))

theorem isGuarded_congr (lower : Text.lower written = Text.lower host) :
    isGuarded written = isGuarded host := by
  rw [isGuarded, isGuarded, isLocalName_congr lower, Address.isInternalText, Address.isInternalText,
    Address.ofText?_congr lower]

theorem not_isLocalName_of_v4 {bits : Nat} (short : Address.ofText? host = some (.v4 bits)) :
    isLocalName host = false := by
  have read : Address.readV4 host.toList = some bits := by
    rw [Address.ofText?] at short
    split at short
    next read =>
      cases short
      exact read
    next =>
      cases long : (Address.withoutScope host.toList).bind Address.readV6 <;>
        simp [long] at short
  refine Bool.eq_false_iff.mpr fun names => ?_
  exact Address.o_notMem_of_readV4 read (o_mem_of_isLocalName names)

/-- Behind a bare host dots take away that it is an address, and nothing else. -/
theorem isGuarded_dots {cs : List Char} (bare : ':' ∉ cs) (count : Nat) :
    isGuarded (String.ofList (cs ++ List.replicate (count + 1) '.')) =
      isLocalName (String.ofList cs) := by
  have ended : cs ++ List.replicate (count + 1) '.' = (cs ++ List.replicate count '.') ++ ['.'] := by
    rw [List.replicate_succ', List.append_assoc]
  have unread : Address.ofText? (String.ofList (cs ++ List.replicate (count + 1) '.')) = none := by
    have clear : ':' ∉ cs ++ List.replicate (count + 1) '.' := by
      simp [bare, List.mem_replicate]
    rw [Address.ofText?_of_notMem clear, ended, Address.readV4_dot]
    rfl
  rw [isGuarded, isLocalName_dots, Address.isInternalText, unread]
  exact Bool.or_false _

/-- The host with its dots as it stands in a URL. -/
def spelled (spelling : Url.Spelling host) : String :=
  String.ofList (spelling.letters ++ List.replicate spelling.dots '.')

theorem isGuarded_spelled_iff (spelling : Url.Spelling host) :
    isGuarded (spelled spelling) = true ↔ isGuarded host = true ∧
      ¬ ((∃ bits, Address.ofText? host = some (.v4 bits)) ∧ 0 < spelling.dots) := by
  cases dots : spelling.dots with
  | zero =>
      rw [spelled, dots, List.replicate_zero, List.append_nil, isGuarded_congr spelling.cased]
      simp
  | succ count =>
      have bare : ':' ∉ spelling.letters := by
        cases boxed : spelling.bracketed with
        | true => exact absurd (spelling.closed boxed).1 (by omega)
        | false => exact spelling.bare boxed
      rw [spelled, dots, isGuarded_dots bare, isLocalName_congr spelling.cased]
      constructor
      · intro names
        refine ⟨by rw [isGuarded, names, Bool.true_or], fun ⟨⟨bits, short⟩, _⟩ => ?_⟩
        rw [not_isLocalName_of_v4 short] at names
        cases names
      · rintro ⟨guarded, named⟩
        refine (Bool.or_eq_true_iff.mp guarded).resolve_right fun inside => ?_
        have address := Address.ofText?_of_notMem bare
        rw [Address.ofText?_congr spelling.cased] at address
        cases read : Address.readV4 spelling.letters with
        | none =>
            rw [read] at address
            rw [Address.isInternalText, address] at inside
            cases inside
        | some bits =>
            rw [read] at address
            exact named ⟨⟨bits, address⟩, Nat.succ_pos count⟩

/-- A URL is judged by the host with its dots. -/
theorem refused_iff_isGuarded (blocks : config.blockInternal = true)
    (spelling : Url.Spelling host) :
    Refused config spelling.url ↔ isGuarded (spelled spelling) = true := by
  obtain ⟨parsed, read, scheme, text⟩ : ∃ parsed, Url.ofText? spelling.url = some parsed ∧
      (parsed.scheme = "http" ∨ parsed.scheme = "https") ∧
      Url.hostText parsed.authority.toList =
        spelling.letters ++ List.replicate spelling.dots '.' := by
    refine ⟨_, spelling.ofText?_url, ?_, ?_⟩
    · refine spelling.web.imp (fun http => ?_) fun https => ?_
      · rw [http, String.ofList_toList]
      · rw [https, String.ofList_toList]
    · rw [String.toList_ofList, spelling.hostText_authority]
  by_cases given : spelling.letters ++ List.replicate spelling.dots '.' = []
  · have nameless : parsed.host? = none := by rw [Url.host?, text, given]
    have invalid : admittedHost config (.str spelling.url) =
        .error (invalidUrl (.str spelling.url)) := by
      unfold admittedHost
      simp only [Value.str?, Option.bind_some, read, nameless]
      rcases scheme with scheme | scheme <;> simp [scheme]
    have unguarded : isGuarded (String.ofList []) = false := by decide
    rw [Refused, invalid, spelled, given, unguarded]
    exact iff_of_false nofun nofun
  · obtain ⟨named, found, lower⟩ := Url.host?_eq_some text given
    have leads : Leads (.str spelling.url) named := ⟨parsed, read, scheme, found⟩
    rw [Refused, admittedHost_eq leads, blocks, Bool.true_and, isGuarded_congr lower]
    rw [spelled]
    split
    next guarded => exact iff_of_true ⟨named, rfl⟩ guarded
    next unguarded => exact iff_of_false nofun unguarded

/-- A client that keeps away from internal addresses refuses a URL for its host exactly if the host is
a local name or an internal address, in whatever way the URL is written; but for an IPv4 address with
a dot behind it. -/
theorem refused_iff (blocks : config.blockInternal = true) (spelling : Url.Spelling host) :
    Refused config spelling.url ↔ isGuarded host = true ∧
      ¬ ((∃ bits, Address.ofText? host = some (.v4 bits)) ∧ 0 < spelling.dots) :=
  (refused_iff_isGuarded blocks spelling).trans (isGuarded_spelled_iff spelling)

/-- A local name with a user, a port, capital letters and two dots. -/
def capitalLoopback : Url.Spelling "ip6-loopback" where
  scheme := "HTTPS".toList
  user := some "ann:pw".toList
  letters := "IP6-Loopback".toList
  bracketed := false
  dots := 2
  port := some "8080".toList
  tail := "/a?b#c".toList
  web := .inr (by decide)
  plain := by simp [Url.Inner]
  cased := by decide
  clear := by simp [Url.Inner, Url.Dropped, Url.disguised]
  closed := nofun
  bare := by simp
  digits := by simp
  parted := by simp [Url.Inner]

theorem capitalLoopback_refused :
    capitalLoopback.url = "HTTPS://ann:pw@IP6-Loopback..:8080/a?b#c" ∧
    isGuarded "ip6-loopback" = true ∧
    Refused (.ofSettings inProduction) capitalLoopback.url := by
  have guarded : isGuarded "ip6-loopback" = true := by decide
  have named : ¬ ∃ bits, Address.ofText? "ip6-loopback" = some (.v4 bits) := by
    have unread : Address.ofText? "ip6-loopback" = none := by decide
    rw [unread]
    nofun
  have refused := (@refused_iff (.ofSettings inProduction) _ rfl capitalLoopback).mpr
    ⟨guarded, fun short => named short.1⟩
  exact ⟨rfl, guarded, refused⟩

/-- The address of the own machine with a dot behind it. -/
def dottedLoopback : Url.Spelling "127.0.0.1" where
  scheme := "http".toList
  user := none
  letters := "127.0.0.1".toList
  bracketed := false
  dots := 1
  port := none
  tail := "/".toList
  web := .inl (by decide)
  plain := nofun
  cased := rfl
  clear := by simp [Url.Inner, Url.Dropped, Url.disguised]
  closed := nofun
  bare := by simp
  digits := nofun
  parted := by simp [Url.Inner]

/-- It is let through, although a dot behind a name does not matter. -/
theorem dottedLoopback_admitted :
    dottedLoopback.url = "http://127.0.0.1./" ∧ isGuarded "127.0.0.1" = true ∧
    admittedHost (.ofSettings inProduction) (.str dottedLoopback.url) = .ok "127.0.0.1." := by
  have leads : Leads (.str dottedLoopback.url) "127.0.0.1." := ⟨_, rfl, .inl rfl, rfl⟩
  have unguarded : isGuarded "127.0.0.1." = false := by decide
  refine ⟨rfl, by decide, ?_⟩
  rw [admittedHost_eq leads, unguarded, Bool.and_false]
  rfl

end Http

end Orchestra
