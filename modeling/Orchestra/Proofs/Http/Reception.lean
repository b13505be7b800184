import Orchestra.Proofs.Http.Escape
import Orchestra.Proofs.Path

/-!
What a client makes of the body of an answer.

A body arrives in pieces that are counted as they come. What comes of it depends on its bytes and
on the headers alone, however they are cut into pieces: it is refused for its size, or read as a
value. It comes to something else where the declared length has too many digits, where the bytes
cannot be read as a value, and where nothing arrives that could be counted against a cap below zero.
-/

namespace Orchestra

namespace Text

theorem isDigit_of_ascii {c : Char} (ascii : c.toNat < 128) : isDigit c = c.isDigit := by
  have every : ∀ n < 128, isDigit (Char.ofNat n) = (Char.ofNat n).isDigit := by decide
  have own := every c.toNat ascii
  rwa [Char.ofNat_toNat] at own

theorem utf8From_ascii {bytes : List UInt8} (ascii : ∀ byte ∈ bytes, byte.toNat < 0x80) :
    utf8From none bytes = bytes.map fun byte => some (Char.ofNat byte.toNat) := by
  induction bytes with
  | nil => rfl
  | cons byte rest ih =>
      obtain ⟨own, others⟩ := List.forall_mem_cons.mp ascii
      have start : utf8Step none byte.toNat = ([some (Char.ofNat byte.toNat)], none) := if_pos own
      rw [utf8From, start, List.map_cons, ← ih others]
      rfl

/-- In UTF-8 the bytes of ASCII are its characters. -/
theorem Charset.decode_ascii {bytes : List UInt8} (given : bytes ≠ [])
    (ascii : ∀ byte ∈ bytes, byte.toNat < 0x80) :
    Charset.decode "utf-8" bytes =
      .ok (String.ofList (bytes.map fun byte => Char.ofNat byte.toNat)) := by
  have named : Charset.ofName? "utf-8" = some (.decoder (utf8From none)) := rfl
  have filled : bytes.isEmpty = false := by simpa using given
  simp only [Charset.decode, filled, named, utf8From_ascii ascii, Glyphs.replaced]
  simp [Function.comp_def]

end Text

namespace Json

/-- More lists are opened than may be nested: what follows is not looked at. -/
theorem readValue_of_deep {fuel depth : Nat} (enough : 2 * depth < fuel) (rest : List Char) :
    readValue fuel depth (List.replicate (depth + 1) '[' ++ rest) =
      complain (.depth "array") ('[' :: rest) := by
  induction depth generalizing fuel with
  | zero =>
      obtain ⟨fuel, rfl⟩ := Nat.exists_eq_add_of_lt enough
      rfl
  | succ depth ih =>
      obtain ⟨fuel, rfl⟩ : ∃ more, fuel = more + 2 := ⟨fuel - 2, by omega⟩
      have inner : readItems (fuel + 1) depth [] (List.replicate (depth + 1) '[' ++ rest) =
          complain (.depth "array") ('[' :: rest) := by
        rw [readItems, ih (by omega)]
        rfl
      exact inner

theorem parse_of_deep (rest : List Char) :
    parse (String.ofList (List.replicate (maxDepth + 1) '[' ++ rest)) =
      .error { message := (Complaint.depth "array").text, tooDeep := true } := by
  have enough : 2 * maxDepth < 2 * (List.replicate (maxDepth + 1) '[' ++ rest).length + 1 := by
    rw [List.length_append, List.length_replicate]
    omega
  have blank : skipSpace (List.replicate (maxDepth + 1) '[' ++ rest) =
      List.replicate (maxDepth + 1) '[' ++ rest := rfl
  simp only [parse, String.toList_ofList, readChars, blank, readValue_of_deep enough]
  rfl

end Json

namespace Http

section Pieces

variable {decoders : List Decoder} {response : Response}

/-- The headers name no coding that changes bytes. -/
def Response.Uncoded (response : Response) : Prop :=
  ∀ coding ∈ Coding.ofResponse response, coding = .identity

theorem Response.uncoded_of_absent (absent : response.header? "content-encoding" = none) :
    response.Uncoded := by
  have none : Coding.ofResponse response = [] := by
    simp only [Coding.ofResponse, Response.headerParts, absent]
    rfl
  simp [Uncoded, none]

theorem feedAll_identity (identity : ∀ decoder ∈ decoders, decoder.coding = .identity)
    (bytes : List UInt8) : Decoder.feedAll decoders bytes = .ok (bytes, decoders) := by
  induction decoders with
  | nil => rfl
  | cons decoder rest ih =>
      obtain ⟨own, others⟩ := List.forall_mem_cons.mp identity
      have fed : decoder.feed bytes = .ok (bytes, decoder) := by simp only [Decoder.feed, own]
      rw [Decoder.feedAll, fed]
      show (Decoder.feedAll rest bytes >>= fun _ => _) = _
      rw [ih others]
      rfl

/-- Without codings the pieces are those that arrive, empty ones aside. -/
theorem pieces_identity (identity : ∀ decoder ∈ decoders, decoder.coding = .identity)
    (chunks : List (List UInt8)) :
    Decoder.pieces decoders chunks = (chunks.filter (!·.isEmpty)).map .ok := by
  induction chunks with
  | nil => rfl
  | cons chunk rest ih =>
      cases chunk with
      | nil => exact ih
      | cons byte bytes =>
          rw [Decoder.pieces]
          · simp [feedAll_identity identity, ih]
          · exact List.cons_ne_nil _ _

theorem Response.pieces_of_uncoded (uncoded : response.Uncoded) :
    response.pieces = (response.chunks.filter (!·.isEmpty)).map .ok := by
  refine pieces_identity ?_ _
  split
  · simp
  · intro decoder member
    obtain ⟨coding, named, rfl⟩ := List.mem_map.mp member
    exact uncoded coding named

end Pieces

section Size

variable {most : Int} {received : Nat} {chunks : List (List UInt8)}

theorem checkSize_beyond {size : Int} (beyond : most < size) :
    checkSize (.int most) size = .error (.payloadTooLarge (.int size) (.int most)) := by
  have exceeds : decide (most < size) = true := decide_eq_true beyond
  simp only [checkSize, Value.greater_int, exceeds]
  rfl

/-- Pieces that are within the cap all together are put together. -/
theorem collect_within (within : ((received + chunks.flatten.length : Nat) : Int) ≤ most) :
    collect (.int most) received (chunks.map .ok) = .ok chunks.flatten := by
  induction chunks generalizing received with
  | nil => rfl
  | cons chunk rest ih =>
      rw [List.flatten_cons, List.length_append, ← Nat.add_assoc] at within
      have fits : checkSize (.int most) ((received + chunk.length : Nat) : Int) = .ok () :=
        checkSize_int (by omega)
      rw [List.map_cons, collect, List.flatten_cons]
      refine bind_ok_iff.mpr ⟨chunk, rfl, bind_ok_iff.mpr ⟨(), fits, ?_⟩⟩
      rw [ih within]
      rfl

/-- Pieces that are beyond the cap all together are refused at the one that goes beyond it. -/
theorem collect_beyond (beyond : most < ((received + chunks.flatten.length : Nat) : Int))
    (given : chunks ≠ []) :
    ∃ size : Nat, most < size ∧ collect (.int most) received (chunks.map .ok) =
      .error (.payloadTooLarge (.int size) (.int most)) := by
  induction chunks generalizing received with
  | nil => exact absurd rfl given
  | cons chunk rest ih =>
      rw [List.map_cons, collect]
      by_cases early : most < ((received + chunk.length : Nat) : Int)
      · refine ⟨received + chunk.length, early, bind_error_iff.mpr (.inr ⟨chunk, rfl, ?_⟩)⟩
        exact bind_error_iff.mpr (.inl (checkSize_beyond early))
      · rw [List.flatten_cons, List.length_append, ← Nat.add_assoc] at beyond
        have more : rest ≠ [] := by
          rintro rfl
          exact early (by simpa using beyond)
        obtain ⟨size, large, refused⟩ := ih beyond more
        have fits := checkSize_int (Int.not_lt.mp early)
        refine ⟨size, large, bind_error_iff.mpr (.inr ⟨chunk, rfl, bind_error_iff.mpr (.inr ?_)⟩)⟩
        exact ⟨(), fits, bind_error_iff.mpr (.inl refused)⟩

end Size

section Declared

variable {response : Response} {digits : List Char}

theorem forall_mem_intercalate {Holds : Char → Prop} {separator : List Char}
    {parts : List (List Char)} (between : ∀ c ∈ separator, Holds c)
    (inside : ∀ part ∈ parts, ∀ c ∈ part, Holds c) :
    ∀ c ∈ separator.intercalate parts, Holds c := by
  induction parts with
  | nil => simp
  | cons part rest ih =>
      obtain ⟨own, others⟩ := List.forall_mem_cons.mp inside
      cases rest with
      | nil => simpa using own
      | cons next rest =>
          rw [List.intercalate_cons_cons, List.forall_mem_append, List.forall_mem_append]
          exact ⟨⟨own, between⟩, ih others⟩

/-- All headers are written in ASCII. -/
def Response.AsciiHeaders (response : Response) : Prop :=
  ∀ header ∈ response.headers, ∀ c ∈ header.1.toList ++ header.2.toList, c.toNat < 128

/-- The length of the body is declared, in decimal digits of ASCII. -/
structure Response.Declares (response : Response) (digits : List Char) : Prop where
  header : response.header? "content-length" = some (String.ofList digits)
  given : digits ≠ []
  decimal : ∀ c ∈ digits, c.isDigit = true

theorem Response.Declares.unique {others : List Char} (declares : response.Declares digits)
    (again : response.Declares others) : digits = others :=
  String.ofList_injective (Option.some.inj (declares.header.symm.trans again.header))

/-- The value of a header is made of values that stand in the headers. -/
theorem Response.AsciiHeaders.header? (ascii : response.AsciiHeaders) {name text : String}
    (found : response.header? name = some text) : ∀ c ∈ text.toList, c.toNat < 128 := by
  have between : ∀ c ∈ [',', ' '], c.toNat < 128 := by simp
  unfold Response.header? at found
  split at found
  next => cases found
  next =>
    obtain rfl := Option.some.inj found
    rw [String.toList_intercalate]
    refine forall_mem_intercalate between ?_
    simp only [List.mem_map, forall_exists_index, and_imp, forall_apply_eq_imp_iff₂]
    intro header member c own
    refine ascii header ?_ c (List.mem_append_right _ own)
    exact List.mem_of_mem_filter member

theorem declaredSize_of_declares (declares : response.Declares digits) :
    declaredSize response = if Text.maxDigits < digits.length
      then .error (.tooManyDigits digits.length)
      else .ok (some (Nat.ofDigitChars 10 digits 0 : Nat)) := by
  obtain ⟨header, given, decimal⟩ := declares
  have numeric : (digits.isEmpty || !digits.all Text.isDigit) = false := by
    simpa [given] using fun c member => Text.isDigit_of_isDigit (decimal c member)
  simp only [declaredSize, header, String.toList_ofList, numeric, Bool.false_eq_true, if_false]
  by_cases many : Text.maxDigits < digits.length
  · rw [if_pos many, Text.readBounded_of_many decimal many]
  · rw [if_neg many, Text.readBounded_of_digits decimal given (Nat.not_lt.mp many)]

theorem declaredSize_of_undeclared (ascii : response.AsciiHeaders)
    (undeclared : ∀ digits, ¬ response.Declares digits) : declaredSize response = .ok none := by
  unfold declaredSize
  split
  next => rfl
  next text header =>
    have plain : (text.toList.isEmpty || !text.toList.all Text.isDigit) = true := by
      by_contra numeric
      rw [Bool.not_eq_true, Bool.or_eq_false_iff, Bool.not_eq_false', List.all_eq_true] at numeric
      have decimal (c : Char) (member : c ∈ text.toList) : c.isDigit = true := by
        rw [← Text.isDigit_of_ascii (ascii.header? header c member)]
        exact numeric.2 c member
      exact undeclared text.toList ⟨by simpa using header, by simpa using numeric.1, decimal⟩
    simp only [plain]
    rfl

end Declared

section Legible

variable {mediaType : Option String} {bytes : List UInt8} {failure : Failure}

/-- The set is one of text, even if it is one that decodes nothing in this way. -/
def IsTextSet : Text.Charset → Prop
  | .decoder _ | .refusing _ => True
  | .transform _ => False

/-- If the media type declares a character set, it is a known one of text. -/
def KnownCharset (mediaType : Option String) : Prop :=
  ∀ text name, mediaType = some text → MediaType.charset text = .ok (some name) → name ≠ "" →
    ∃ set, Text.Charset.ofName? name = some set ∧ IsTextSet set

theorem KnownCharset.known (known : KnownCharset mediaType) {name : String}
    (declared : charsetOf mediaType = .ok name) :
    ∃ set, Text.Charset.ofName? name = some set ∧ IsTextSet set := by
  have usual : ∃ set, Text.Charset.ofName? "utf-8" = some set ∧ IsTextSet set :=
    ⟨.decoder (Text.utf8From none), rfl, trivial⟩
  cases mediaType with
  | none =>
      obtain rfl := Except.ok.inj declared
      exact usual
  | some text =>
      rcases found : MediaType.charset text with fault | _ | set
      all_goals simp only [charsetOf, found] at declared
      · cases declared
      · obtain rfl := Except.ok.inj declared
        exact usual
      · obtain rfl := Except.ok.inj declared
        by_cases empty : set = ""
        · subst empty
          exact usual
        · simpa [Option.filter, empty] using known text set rfl found empty

/-- Why bytes are not read as a value, although their character set is known. -/
inductive Illegible (mediaType : Option String) (bytes : List UInt8) : Failure → Prop where
  /-- The parameters of the media type cannot be put together. -/
  | parameters {fault : MediaType.Fault} (faulty : charsetOf mediaType = .error fault) :
      Illegible mediaType bytes (mediaFailure fault)
  /-- The set decodes nothing in this way. -/
  | refused {name reason : String} (declared : charsetOf mediaType = .ok name) (given : bytes ≠ [])
      (refusing : Text.Charset.ofName? name = some (.refusing reason)) :
      Illegible mediaType bytes (charsetFailure name (.refused reason))
  /-- Lists and objects are nested too deep. -/
  | deep {name text : String} {refusal : Json.Refusal} (declared : charsetOf mediaType = .ok name)
      (decoded : Text.Charset.decode name bytes = .ok text)
      (json : contains "application/json".toList (mediaType.getD "").toList = true)
      (given : text ≠ "") (refuses : Json.parse text = .error refusal)
      (deep : refusal.tooDeep = true) :
      Illegible mediaType bytes (.foreign .recursion refusal.message)

/-- No bytes are text in every set, and others are text in every set that decodes. -/
theorem decode_error_iff {name : String} {set : Text.Charset} {refusal : Text.Charset.Refusal}
    (known : Text.Charset.ofName? name = some set) (text : IsTextSet set) :
    Text.Charset.decode name bytes = .error refusal ↔
      bytes ≠ [] ∧ ∃ reason, set = .refusing reason ∧ refusal = .refused reason := by
  unfold Text.Charset.decode
  cases bytes with
  | nil => simp
  | cons byte rest =>
      cases set with
      | decoder decode => simp [known]
      | transform checks => cases text
      | refusing reason => simp [known, eq_comm]

theorem textValue_error_iff {text : String} :
    textValue mediaType text = .error failure ↔
      contains "application/json".toList (mediaType.getD "").toList = true ∧ text ≠ "" ∧
        ∃ refusal, Json.parse text = .error refusal ∧ refusal.tooDeep = true ∧
          failure = .foreign .recursion refusal.message := by
  unfold textValue
  cases contains "application/json".toList (mediaType.getD "").toList with
  | false => simp
  | true =>
      by_cases empty : text = ""
      · simp [empty]
      rcases Json.parse text with refusal | value
      · cases deep : refusal.tooDeep with
        | false => simp [empty, deep]
        | true => simpa [empty, deep] using eq_comm
      · simp [empty]

theorem decodeBody_error_iff (known : KnownCharset mediaType) :
    decodeBody mediaType bytes = .error failure ↔ Illegible mediaType bytes failure := by
  unfold decodeBody
  constructor
  · intro fails
    rcases bind_error_iff.mp fails with undeclared | ⟨name, declared, fails⟩
    · obtain ⟨fault, faulty, rfl⟩ := mapError_error_iff.mp undeclared
      exact .parameters faulty
    rw [mapError_ok_iff] at declared
    rcases bind_error_iff.mp fails with undecoded | ⟨text, decoded, fails⟩
    · obtain ⟨refusal, refuses, rfl⟩ := mapError_error_iff.mp undecoded
      obtain ⟨set, found, text⟩ := known.known declared
      obtain ⟨given, reason, rfl, rfl⟩ := (decode_error_iff found text).mp refuses
      exact .refused declared given found
    · rw [mapError_ok_iff] at decoded
      obtain ⟨json, given, refusal, refuses, deep, rfl⟩ := textValue_error_iff.mp fails
      exact .deep declared decoded json given refuses deep
  · intro illegible
    cases illegible with
    | parameters faulty => exact bind_error_iff.mpr (.inl (mapError_error_iff.mpr ⟨_, faulty, rfl⟩))
    | @refused name reason declared given refusing =>
        refine bind_error_iff.mpr (.inr ⟨name, mapError_ok_iff.mpr declared, ?_⟩)
        refine bind_error_iff.mpr (.inl (mapError_error_iff.mpr ⟨_, ?_, rfl⟩))
        exact (decode_error_iff refusing trivial).mpr ⟨given, reason, rfl, rfl⟩
    | @deep name text refusal declared decoded json given refuses deep =>
        refine bind_error_iff.mpr (.inr ⟨name, mapError_ok_iff.mpr declared, ?_⟩)
        refine bind_error_iff.mpr (.inr ⟨text, mapError_ok_iff.mpr decoded, ?_⟩)
        exact textValue_error_iff.mpr ⟨json, given, refusal, refuses, deep, rfl⟩

end Legible

section Reception

variable {config : Config} {most : Int} {response : Response} {content : List UInt8}
  {chunks : List (List UInt8)}

/-- What a client makes of an answer whose body comes in certain pieces. -/
def reception (config : Config) (response : Response) (chunks : List (List UInt8)) :
    Except Failure Value :=
  (Transmission.answered { response with chunks }).outcome config

/-- The size that is declared, or that of the body itself, is beyond the cap. -/
def Exceeds (most : Int) (response : Response) (content : List UInt8) : Prop :=
  (∃ digits, response.Declares digits ∧ most < (Nat.ofDigitChars 10 digits 0 : Nat)) ∨
    most < content.length

/-- The answer is successful, its headers are in ASCII, they name no coding, and no character set
that is not known. -/
structure Response.Regular (response : Response) : Prop where
  served : response.isSuccess = true
  ascii : response.AsciiHeaders
  known : KnownCharset (response.header? "content-type")
  uncoded : response.Uncoded

theorem badRedirection?_of_served (served : response.isSuccess = true) :
    badRedirection? response = none := by
  have success : 200 ≤ response.status ∧ response.status ≤ 299 := by
    simpa [Response.isSuccess] using served
  have elsewhere : [301, 302, 303, 307, 308].contains response.status = false := by
    simp
    omega
  simp only [badRedirection?, elsewhere]
  rfl

/-- The declared size is checked, the pieces are counted, and what they are together is decoded. -/
theorem reception_eq (cap : config.maxPayload = .int most) (regular : response.Regular) :
    reception config response chunks = (do
      let size ← declaredSize response
      size.forM (checkSize (.int most))
      let bytes ← collect (.int most) 0 ((chunks.filter (!·.isEmpty)).map .ok)
      decodeBody (response.header? "content-type") bytes) := by
  have uncoded : ({ response with chunks } : Response).Uncoded := regular.uncoded
  have served : ({ response with chunks } : Response).isSuccess = true := regular.served
  unfold reception Transmission.outcome
  simp only [badRedirection?_of_served served, cap]
  rw [value_eq served, Response.pieces_of_uncoded uncoded]
  rfl

/-- The outcome is the refusal of a size. -/
def IsTooLarge (outcome : Except Failure Value) : Prop :=
  ∃ size limit, outcome = .error (.payloadTooLarge size limit)

theorem isTooLarge_ok (value : Value) : ¬ IsTooLarge (.ok value) := by
  rintro ⟨size, limit, refused⟩
  cases refused

theorem decodeBody_not_isTooLarge (mediaType : Option String) :
    ¬ IsTooLarge (decodeBody mediaType content) := by
  rintro ⟨size, limit, refused⟩
  cases decodeBody_foreign refused

/-- The declared length has more digits than are read. -/
theorem reception_endless (cap : config.maxPayload = .int most) (regular : response.Regular)
    {digits : List Char} (declares : response.Declares digits)
    (many : Text.maxDigits < digits.length) :
    reception config response chunks = .error (.tooManyDigits digits.length) := by
  rw [reception_eq cap regular, declaredSize_of_declares declares, if_pos many]
  rfl

/-- The declared length is refused before anything is read. -/
theorem reception_declared (cap : config.maxPayload = .int most) (regular : response.Regular)
    {digits : List Char} (declares : response.Declares digits)
    (few : digits.length ≤ Text.maxDigits) (large : most < (Nat.ofDigitChars 10 digits 0 : Nat)) :
    IsTooLarge (reception config response chunks) := by
  rw [reception_eq cap regular, declaredSize_of_declares declares, if_neg (Nat.not_lt.mpr few)]
  show IsTooLarge (checkSize (.int most) (Nat.ofDigitChars 10 digits 0 : Nat) >>= fun _ => _)
  rw [checkSize_beyond large]
  exact ⟨_, _, rfl⟩

/-- No length is declared that is refused. -/
def Passes (most : Int) (response : Response) : Prop :=
  ∃ size, declaredSize response = .ok size ∧ size.forM (checkSize (.int most)) = .ok ()

theorem passes_of_declares {digits : List Char} (declares : response.Declares digits)
    (few : digits.length ≤ Text.maxDigits)
    (within : ((Nat.ofDigitChars 10 digits 0 : Nat) : Int) ≤ most) : Passes most response := by
  refine ⟨_, (declaredSize_of_declares declares).trans (if_neg (Nat.not_lt.mpr few)), ?_⟩
  exact checkSize_int within

theorem passes_of_undeclared (regular : response.Regular)
    (undeclared : ∀ digits, ¬ response.Declares digits) : Passes most response :=
  ⟨none, declaredSize_of_undeclared regular.ascii undeclared, rfl⟩

theorem reception_of_passes (cap : config.maxPayload = .int most) (regular : response.Regular)
    (passes : Passes most response) :
    reception config response chunks = (do
      let bytes ← collect (.int most) 0 ((chunks.filter (!·.isEmpty)).map .ok)
      decodeBody (response.header? "content-type") bytes) := by
  obtain ⟨size, declared, passed⟩ := passes
  rw [reception_eq cap regular, declared]
  show (size.forM (checkSize (.int most)) >>= fun _ => _) = _
  rw [passed]
  rfl

/-- A body that is within the cap is decoded as a whole. -/
theorem reception_arrives (cap : config.maxPayload = .int most) (regular : response.Regular)
    (passes : Passes most response) (same : chunks.flatten = content)
    (within : content = [] ∨ (content.length : Int) ≤ most) :
    reception config response chunks = decodeBody (response.header? "content-type") content := by
  have collected : collect (.int most) 0 ((chunks.filter (!·.isEmpty)).map .ok) = .ok content := by
    rcases within with rfl | within
    · have none : chunks.filter (!·.isEmpty) = [] := by
        simpa [List.filter_eq_nil_iff] using same
      rw [none]
      rfl
    · rw [← same, ← List.flatten_filter_not_isEmpty] at within ⊢
      exact collect_within (by rwa [Nat.zero_add])
  rw [reception_of_passes cap regular passes, collected]
  rfl

/-- A body beyond the cap is refused for its size if any of it arrives. -/
theorem reception_overflows (cap : config.maxPayload = .int most) (regular : response.Regular)
    (passes : Passes most response) (same : chunks.flatten = content) (given : content ≠ [])
    (beyond : most < content.length) : IsTooLarge (reception config response chunks) := by
  have some : chunks.filter (!·.isEmpty) ≠ [] := by
    intro none
    rw [← same, ← List.flatten_filter_not_isEmpty, none] at given
    exact given rfl
  rw [← same, ← List.flatten_filter_not_isEmpty, ← Nat.zero_add (List.length _)] at beyond
  obtain ⟨size, -, refused⟩ := collect_beyond beyond some
  rw [reception_of_passes cap regular passes, refused]
  exact ⟨_, _, rfl⟩

/-- If a length is declared, it has no more digits than are read. -/
def Response.ReadableLength (response : Response) : Prop :=
  ∀ digits, response.Declares digits → digits.length ≤ Text.maxDigits

/-- The cap is below zero, and nothing is declared or arrives that could be counted against it. -/
def Uncounted (most : Int) (response : Response) (content : List UInt8) : Prop :=
  most < 0 ∧ content = [] ∧ ∀ digits, ¬ response.Declares digits

theorem Uncounted.exceeds (uncounted : Uncounted most response content) :
    Exceeds most response content := by
  obtain ⟨negative, rfl, -⟩ := uncounted
  exact .inr negative

/-- What exceeds the cap is refused, if there is anything that can be counted. -/
theorem reception_refused (cap : config.maxPayload = .int most) (regular : response.Regular)
    (readable : response.ReadableLength) (same : chunks.flatten = content)
    (exceeds : Exceeds most response content) (counted : ¬ Uncounted most response content) :
    IsTooLarge (reception config response chunks) := by
  by_cases declared : ∃ digits, response.Declares digits
  · obtain ⟨digits, declares⟩ := declared
    have few := readable digits declares
    by_cases large : most < (Nat.ofDigitChars 10 digits 0 : Nat)
    · exact reception_declared cap regular declares few large
    have beyond : most < content.length := by
      rcases exceeds with ⟨others, again, large⟩ | beyond
      · obtain rfl := declares.unique again
        contradiction
      · exact beyond
    -- a declared size is not below zero, so neither is the cap, and the body is not empty
    have given : content ≠ [] := by
      rintro rfl
      exact large (lt_of_lt_of_le beyond (Int.natCast_nonneg _))
    have passes := passes_of_declares declares few (Int.not_lt.mp large)
    exact reception_overflows cap regular passes same given beyond
  · have undeclared := not_exists.mp declared
    have beyond : most < content.length :=
      exceeds.resolve_left fun ⟨digits, declares, _⟩ => undeclared digits declares
    have given : content ≠ [] := by
      rintro rfl
      exact counted ⟨beyond, rfl, undeclared⟩
    exact reception_overflows cap regular (passes_of_undeclared regular undeclared) same given beyond

/-- What does not exceed the cap, or cannot be counted, is decoded as a whole. -/
theorem reception_decoded (cap : config.maxPayload = .int most) (regular : response.Regular)
    (readable : response.ReadableLength) (same : chunks.flatten = content)
    (arrives : ¬ Exceeds most response content ∨ Uncounted most response content) :
    reception config response chunks = decodeBody (response.header? "content-type") content := by
  rcases arrives with within | ⟨-, empty, undeclared⟩
  · have passes : Passes most response := by
      by_cases declared : ∃ digits, response.Declares digits
      · obtain ⟨digits, declares⟩ := declared
        have fits := Int.not_lt.mp fun large => within (.inl ⟨digits, declares, large⟩)
        exact passes_of_declares declares (readable digits declares) fits
      · exact passes_of_undeclared regular (not_exists.mp declared)
    exact reception_arrives cap regular passes same
      (.inr (Int.not_lt.mp fun beyond => within (.inr beyond)))
  · exact reception_arrives cap regular (passes_of_undeclared regular undeclared) same (.inl empty)

/-- Whether the body is refused for its size, and what it is read as, depend on its bytes alone: it
is refused exactly if it exceeds the cap, and else it is read as a value from all of its bytes. -/
structure KeepsCap (config : Config) (most : Int) (response : Response) (content : List UInt8) :
    Prop where
  independent : ∀ one other, one.flatten = content → other.flatten = content →
    (∃ value, reception config response one = .ok value ∧
      reception config response other = .ok value) ∨
    IsTooLarge (reception config response one) ∧ IsTooLarge (reception config response other)
  capped : ∀ chunks, chunks.flatten = content →
    (IsTooLarge (reception config response chunks) ↔ Exceeds most response content)
  decoded : ∀ chunks, chunks.flatten = content → ¬ Exceeds most response content →
    ∃ value, reception config response chunks = .ok value ∧
      decodeBody (response.header? "content-type") content = .ok value

/-- What comes of a body instead of a value or a refusal. -/
inductive Deviates (most : Int) (response : Response) (content : List UInt8) :
    Except Failure Value → Prop where
  /-- The declared length has more digits than are read. -/
  | endless {digits : List Char} (declares : response.Declares digits)
      (many : Text.maxDigits < digits.length) :
      Deviates most response content (.error (.tooManyDigits digits.length))
  /-- The bytes are not read as a value. -/
  | illegible {failure : Failure} (readable : response.ReadableLength)
      (within : ¬ Exceeds most response content)
      (illegible : Illegible (response.header? "content-type") content failure) :
      Deviates most response content (.error failure)
  /-- Nothing is counted against the cap. -/
  | uncounted (uncounted : Uncounted most response content) :
      Deviates most response content (decodeBody (response.header? "content-type") content)

/-- In whatever pieces it comes, a body that deviates comes to the same. -/
theorem reception_of_deviates (cap : config.maxPayload = .int most) (regular : response.Regular)
    {outcome : Except Failure Value} (deviates : Deviates most response content outcome)
    (same : chunks.flatten = content) : reception config response chunks = outcome := by
  cases deviates with
  | endless declares many => exact reception_endless cap regular declares many
  | illegible readable within illegible =>
      rw [reception_decoded cap regular readable same (.inl within)]
      exact (decodeBody_error_iff regular.known).mpr illegible
  | uncounted uncounted =>
      have readable : response.ReadableLength :=
        fun digits declares => absurd declares (uncounted.2.2 digits)
      exact reception_decoded cap regular readable same (.inr uncounted)

theorem KeepsCap.not_deviates (keeps : KeepsCap config most response content)
    (cap : config.maxPayload = .int most) (regular : response.Regular)
    (outcome : Except Failure Value) : ¬ Deviates most response content outcome := by
  intro deviates
  have whole : [content].flatten = content := List.flatten_singleton
  have received := reception_of_deviates cap regular deviates whole
  have refused := keeps.capped [content] whole
  have decoded := keeps.decoded [content] whole
  rw [received] at refused decoded
  cases deviates with
  | endless declares many =>
      by_cases exceeds : Exceeds most response content
      · obtain ⟨size, limit, refused⟩ := refused.mpr exceeds
        cases refused
      · obtain ⟨value, read, -⟩ := decoded exceeds
        cases read
  | illegible readable within illegible =>
      obtain ⟨value, read, -⟩ := decoded within
      cases read
  | uncounted uncounted =>
      exact decodeBody_not_isTooLarge _ (refused.mpr uncounted.exceeds)

theorem keepsCap_of_not_deviates (cap : config.maxPayload = .int most) (regular : response.Regular)
    (none : ∀ outcome, ¬ Deviates most response content outcome) :
    KeepsCap config most response content := by
  have readable : response.ReadableLength := fun digits declares =>
    Nat.not_lt.mp fun many => none _ (.endless declares many)
  have counted : ¬ Uncounted most response content := fun uncounted => none _ (.uncounted uncounted)
  by_cases exceeds : Exceeds most response content
  · have refused (chunks : List (List UInt8)) (same : chunks.flatten = content) :
        IsTooLarge (reception config response chunks) :=
      reception_refused cap regular readable same exceeds counted
    exact {
      independent := fun one other first second => .inr ⟨refused one first, refused other second⟩
      capped := fun chunks same => iff_of_true (refused chunks same) exceeds
      decoded := fun _ _ within => absurd exceeds within }
  · obtain ⟨value, read⟩ : ∃ value,
        decodeBody (response.header? "content-type") content = .ok value := by
      rcases read : decodeBody (response.header? "content-type") content with failure | value
      · exact absurd ((decodeBody_error_iff regular.known).mp read)
          fun illegible => none _ (.illegible readable exceeds illegible)
      · exact ⟨value, rfl⟩
    have decoded (chunks : List (List UInt8)) (same : chunks.flatten = content) :
        reception config response chunks = .ok value :=
      (reception_decoded cap regular readable same (.inl exceeds)).trans read
    exact {
      independent := fun one other first second =>
        .inl ⟨value, decoded one first, decoded other second⟩
      capped := fun chunks same => by
        rw [decoded chunks same]
        exact iff_of_false (isTooLarge_ok value) exceeds
      decoded := fun chunks same _ => ⟨value, decoded chunks same, read⟩ }

/-- A body is refused for its size, or read as a value, however it is cut into pieces, unless it
deviates; then it comes to the same in whatever pieces. -/
theorem keepsCap_iff (cap : config.maxPayload = .int most) (regular : response.Regular) :
    (KeepsCap config most response content ↔
      ∀ outcome, ¬ Deviates most response content outcome) ∧
    ∀ outcome, Deviates most response content outcome →
      ∀ chunks, chunks.flatten = content → reception config response chunks = outcome :=
  ⟨⟨fun keeps => keeps.not_deviates cap regular, keepsCap_of_not_deviates cap regular⟩,
    fun _ deviates _ same => reception_of_deviates cap regular deviates same⟩

end Reception

section Answer

/-- A successful answer in JSON. -/
def jsonAnswer : Response :=
  { status := 200, reason := "OK", headers := [("content-type", "application/json")], chunks := [] }

theorem jsonAnswer_undeclared (digits : List Char) : ¬ jsonAnswer.Declares digits := by
  rintro ⟨header, -, -⟩
  have absent : jsonAnswer.header? "content-length" = none := rfl
  cases absent.symm.trans header

theorem jsonAnswer_regular : jsonAnswer.Regular where
  served := rfl
  ascii := by
    have plain : jsonAnswer.headers.all (fun header =>
      (header.1.toList ++ header.2.toList).all fun c => decide (c.toNat < 128)) = true := rfl
    intro header member c own
    exact of_decide_eq_true (List.all_eq_true.mp (List.all_eq_true.mp plain header member) c own)
  known := by
    intro text name header declared
    obtain rfl := Option.some.inj header
    have undeclared : MediaType.charset "application/json" = .ok none := rfl
    cases undeclared.symm.trans declared
  uncoded := Response.uncoded_of_absent rfl

theorem jsonAnswer_within {most : Int} {content : List UInt8} (within : content.length ≤ most) :
    ¬ Exceeds most jsonAnswer content := by
  rintro (⟨digits, declares, -⟩ | beyond)
  · exact jsonAnswer_undeclared digits declares
  · exact Int.not_lt.mpr within beyond

/-- A body of exactly as many bytes as the cap is read as its value in whatever pieces. -/
theorem exact_cap_kept :
    jsonAnswer.Regular ∧ KeepsCap { maxPayload := .int 2 } 2 jsonAnswer [123, 125] ∧
      reception { maxPayload := .int 2 } jsonAnswer [[123], [], [125]] = .ok (.obj []) := by
  have read : decodeBody (jsonAnswer.header? "content-type") [123, 125] = .ok (.obj []) := rfl
  have keeps : KeepsCap { maxPayload := .int 2 } 2 jsonAnswer [123, 125] := by
    refine (keepsCap_iff rfl jsonAnswer_regular).1.mpr fun outcome deviates => ?_
    cases deviates with
    | endless declares => exact jsonAnswer_undeclared _ declares
    | illegible readable within illegible =>
        cases read.symm.trans ((decodeBody_error_iff jsonAnswer_regular.known).mpr illegible)
    | uncounted uncounted => exact absurd uncounted.1 (by decide)
  obtain ⟨value, received, whole⟩ :=
    keeps.decoded [[123], [], [125]] rfl (jsonAnswer_within (Int.le_refl 2))
  obtain rfl := Except.ok.inj (whole.symm.trans read)
  exact ⟨jsonAnswer_regular, keeps, received⟩

/-- A text that opens more lists than may be nested is not read as a value. -/
theorem illegible_of_deep {count : Nat} (deep : Json.maxDepth < count) :
    Illegible (some "application/json") (List.replicate count 91)
      (.foreign .recursion (Json.Complaint.depth "array").text) := by
  obtain ⟨more, rfl⟩ := Nat.exists_eq_add_of_lt deep
  have decoded : Text.Charset.decode "utf-8" (List.replicate (Json.maxDepth + more + 1) 91) =
      .ok (String.ofList (List.replicate (Json.maxDepth + 1) '[' ++ List.replicate more '[')) := by
    rw [List.replicate_append_replicate, Nat.add_right_comm, Text.Charset.decode_ascii]
    · rw [List.map_replicate]
      rfl
    · simp
    · intro byte member
      obtain rfl := List.eq_of_mem_replicate member
      decide
  have given : String.ofList
      (List.replicate (Json.maxDepth + 1) '[' ++ List.replicate more '[') ≠ "" := by
    simp [String.ofList_eq_empty_iff]
  exact .deep rfl decoded rfl given (Json.parse_of_deep _) rfl

/-- A text of many opening brackets ends the request in whatever pieces it comes. -/
theorem deep_list_not_kept :
    ({} : Config).maxPayload = .int 10485760 ∧ jsonAnswer.Regular ∧
      ¬ KeepsCap {} 10485760 jsonAnswer (List.replicate 5000 91) := by
  refine ⟨rfl, jsonAnswer_regular, fun keeps => ?_⟩
  have readable : jsonAnswer.ReadableLength :=
    fun digits declares => absurd declares (jsonAnswer_undeclared digits)
  have within : ¬ Exceeds 10485760 jsonAnswer (List.replicate 5000 91) := by
    refine jsonAnswer_within ?_
    rw [List.length_replicate]
    decide
  exact keeps.not_deviates rfl jsonAnswer_regular _
    (.illegible readable within (illegible_of_deep (by decide)))

end Answer

end Http

end Orchestra
