import Mathlib.Data.List.TakeWhile
import Orchestra.Proofs.Execution.Performance
import Orchestra.Proofs.Notification.Sending
import Orchestra.Proofs.Path
import Orchestra.Proofs.Template.Substitution

/-!
The subject that a notice of a workflow arrives with.

A run fills the subject of a notice from its context, and the manager of notifications fills what came
of that once more, from the parameters of the message. Where a notice has no parameters the second
filling takes out all that looks like a placeholder to the manager. So the subject arrives as the run
made it exactly when nothing in it looks like that.
-/

namespace Orchestra.Notification

/-- A placeholder of a template as it is written: a path between two pairs of braces. -/
structure Mark where
  front : List Char
  path : List Char
  back : List Char
  before : ∀ c ∈ front, Text.isBlank c
  given : path ≠ []
  plain : ∀ c ∈ path, isPathChar c
  behind : ∀ c ∈ back, Text.isBlank c

def Mark.text (mark : Mark) : List Char :=
  '{' :: '{' :: (mark.front ++ (mark.path ++ (mark.back ++ ['}', '}'])))

/-- There is a placeholder somewhere in a text. -/
def Marked (cs : List Char) : Prop :=
  ∃ mark : Mark, mark.text <:+: cs

/-- A text without its placeholders, which are taken out from the left. -/
inductive Stripped : List Char → List Char → Prop
  | nil : Stripped [] []
  | mark {rest left : List Char} (mark : Mark) (later : Stripped rest left) :
      Stripped (mark.text ++ rest) left
  | char {c : Char} {rest left : List Char} (clear : ∀ mark : Mark, ¬ mark.text <+: c :: rest)
      (later : Stripped rest left) : Stripped (c :: rest) (c :: left)

variable {cs path tail left : List Char}

/-- The code points of white space. -/
def blankCodes : List Nat :=
  List.range' 9 5 ++ List.range' 28 5 ++ [0x85] ++ [0xA0] ++ [0x1680] ++ List.range' 0x2000 11 ++
    [0x2028] ++ [0x2029] ++ [0x202F] ++ [0x205F] ++ [0x3000]

theorem mem_blankCodes {c : Char} : c.toNat ∈ blankCodes ↔ Text.isBlank c = true := by
  simp only [Text.isBlank, blankCodes, List.mem_append, List.mem_range'_1, List.mem_singleton,
    Nat.lt_succ_iff, Bool.or_eq_true, Bool.and_eq_true, decide_eq_true_eq, beq_iff_eq]

/-- White space does not belong to a path. -/
theorem isPathChar_of_isBlank {c : Char} (blank : Text.isBlank c = true) : isPathChar c = false := by
  have apart : ∀ code ∈ blankCodes, isPathChar (Char.ofNat code) = false := by decide +kernel
  rw [← Char.ofNat_toNat c]
  exact apart _ (mem_blankCodes.mpr blank)

theorem isBlank_of_isPathChar {c : Char} (plain : isPathChar c = true) : Text.isBlank c = false := by
  cases blank : Text.isBlank c with
  | false => rfl
  | true => cases (isPathChar_of_isBlank blank).symm.trans plain

/-- A run of characters of one kind ends before the first character of another kind. -/
theorem takeWhile_run {p : Char → Bool} {run rest : List Char} (inside : ∀ c ∈ run, p c)
    (ends : ∀ c ∈ rest.head?, p c = false) : (run ++ rest).takeWhile p = run := by
  rw [List.takeWhile_append_of_pos inside]
  cases rest with
  | nil => simp
  | cons c rest => simp [ends c rfl]

theorem dropWhile_run {p : Char → Bool} {run rest : List Char} (inside : ∀ c ∈ run, p c)
    (ends : ∀ c ∈ rest.head?, p c = false) : (run ++ rest).dropWhile p = rest := by
  rw [List.dropWhile_append_of_pos inside]
  cases rest with
  | nil => rfl
  | cons c rest => simp [ends c rfl]

/-- What is read as a placeholder is one that is written there, and each one is read. -/
theorem placeholder?_eq_some_iff :
    placeholder? cs = some (path, tail) ↔ ∃ mark : Mark, mark.path = path ∧ cs = mark.text ++ tail := by
  constructor
  · intro read
    unfold placeholder? at read
    split at read
    next rest =>
      dsimp only at read
      split at read
      next c front _ begins ends =>
        cases read
        have spaced := List.takeWhile_append_dropWhile (p := Text.isBlank) (l := rest)
        have pathed := List.takeWhile_append_dropWhile (p := isPathChar)
          (l := rest.dropWhile Text.isBlank)
        have closed := List.takeWhile_append_dropWhile (p := Text.isBlank)
          (l := (rest.dropWhile Text.isBlank).dropWhile isPathChar)
        rw [ends] at closed
        rw [begins, ← closed] at pathed
        rw [← pathed] at spaced
        refine ⟨{
          front := rest.takeWhile Text.isBlank
          path := c :: front
          back := ((rest.dropWhile Text.isBlank).dropWhile isPathChar).takeWhile Text.isBlank
          before := fun _ member => List.mem_takeWhile_imp member
          given := List.cons_ne_nil _ _
          plain := fun _ member => List.mem_takeWhile_imp (begins ▸ member)
          behind := fun _ member => List.mem_takeWhile_imp member }, rfl, ?_⟩
        have whole : rest = rest.takeWhile Text.isBlank ++ (c :: front ++
            (((rest.dropWhile Text.isBlank).dropWhile isPathChar).takeWhile Text.isBlank ++
              '}' :: '}' :: tail)) := spaced.symm
        simpa [Mark.text] using whole
      next => cases read
    next => cases read
  · rintro ⟨⟨front, path, back, before, given, plain, behind⟩, rfl, rfl⟩
    obtain ⟨c, path, rfl⟩ := List.exists_cons_of_ne_nil given
    have body : (front ++ (c :: path ++ (back ++ '}' :: '}' :: tail))).dropWhile Text.isBlank =
        c :: path ++ (back ++ '}' :: '}' :: tail) := by
      refine dropWhile_run before fun d first => ?_
      cases first
      exact isBlank_of_isPathChar (plain c (by simp))
    have ends : ∀ d ∈ (back ++ '}' :: '}' :: tail).head?, isPathChar d = false := by
      intro d first
      cases back with
      | nil =>
          cases first
          decide +kernel
      | cons b back =>
          cases first
          exact isPathChar_of_isBlank (behind d (by simp))
    have closing : (back ++ '}' :: '}' :: tail).dropWhile Text.isBlank = '}' :: '}' :: tail := by
      refine dropWhile_run behind fun d first => ?_
      cases first
      rfl
    have whole : Mark.text ⟨front, c :: path, back, before, given, plain, behind⟩ ++ tail =
        '{' :: '{' :: (front ++ (c :: path ++ (back ++ '}' :: '}' :: tail))) := by
      simp [Mark.text]
    rw [whole]
    simp only [placeholder?]
    rw [body, takeWhile_run plain ends, dropWhile_run plain ends, closing]
    rfl

theorem placeholder?_eq_none_iff :
    placeholder? cs = none ↔ ∀ mark : Mark, ¬ mark.text <+: cs := by
  constructor
  · rintro unread mark ⟨tail, rfl⟩
    cases unread.symm.trans (placeholder?_eq_some_iff.mpr ⟨mark, rfl, rfl⟩)
  · intro clear
    cases read : placeholder? cs with
    | none => rfl
    | some found =>
        obtain ⟨mark, -, rfl⟩ := placeholder?_eq_some_iff.mp read
        exact (clear mark (List.prefix_append ..)).elim

theorem lookupD_nothing (path : String) : (Value.obj []).lookupD path .null = .null := by
  obtain ⟨part, rest, cut⟩ := List.exists_cons_of_ne_nil (Path.parts_ne_nil path)
  rw [Value.lookupD, Value.lookup?, cut]
  rfl

/-- Without parameters all placeholders of a text are taken out, and the rest of it stays. -/
theorem stripped_renderChars {length : Nat} (enough : cs.length ≤ length) :
    Stripped cs (renderChars (.obj []) length cs) := by
  induction length generalizing cs with
  | zero =>
      obtain rfl := List.length_eq_zero_iff.mp (Nat.le_zero.mp enough)
      exact .nil
  | succ length ih =>
      unfold renderChars
      split
      next path tail read =>
        obtain ⟨mark, rfl, rfl⟩ := placeholder?_eq_some_iff.mp read
        rw [lookupD_nothing]
        refine .mark mark (ih ?_)
        simp [Mark.text] at enough
        omega
      next unread =>
        split
        next => exact .nil
        next c rest =>
          exact .char (placeholder?_eq_none_iff.mp unread) (ih (by simpa using enough))

theorem Stripped.length_le (stripped : Stripped cs left) : left.length ≤ cs.length := by
  induction stripped with
  | nil => exact Nat.le_refl _
  | mark mark later ih => simp; omega
  | char clear later ih => simpa using ih

/-- A text is left as it is exactly when there is no placeholder in it. -/
theorem Stripped.eq_iff (stripped : Stripped cs left) : left = cs ↔ ¬ Marked cs := by
  induction stripped with
  | nil => simp [Marked, Mark.text]
  | @mark rest left mark later ih =>
      refine iff_of_false (fun same => ?_) (not_not_intro ⟨mark, (List.prefix_append ..).isInfix⟩)
      have shorter := later.length_le
      simp [same, Mark.text] at shorter
      omega
  | @char c rest left clear later ih =>
      rw [List.cons.injEq, ih]
      refine ⟨fun ⟨_, unmarked⟩ => ?_, fun unmarked => ⟨rfl, ?_⟩⟩
      · rintro ⟨mark, within⟩
        rcases List.infix_cons_iff.mp within with first | later
        · exact clear mark first
        · exact unmarked ⟨mark, later⟩
      · rintro ⟨mark, later⟩
        exact unmarked ⟨mark, List.infix_cons_iff.mpr (.inr later)⟩

theorem unmarked_of_no_brace (plain : '{' ∉ cs) : ¬ Marked cs :=
  fun ⟨_, within⟩ => plain (within.subset List.mem_cons_self)

/-- What a message arrives with as its subject: its own, filled in with its parameters. -/
theorem rendered_subject {message rendered : Message} {text : String}
    (filled : message.rendered = .ok rendered) (titled : message.subject = .str text) :
    rendered.subject = .str (render text message.parameters) := by
  have subject : (if message.subject.truthy then message.filled message.subject
      else .ok message.subject) = .ok (.str (render text message.parameters)) := by
    rw [titled]
    split
    next => rfl
    next empty =>
      obtain rfl : text = "" := by simpa [Value.truthy] using empty
      rfl
  rw [rendered_eq, subject] at filled
  generalize (if !message.body.truthy && message.template.truthy then message.filled message.template
    else .ok message.body) = body at filled
  cases body <;> cases filled
  rfl

/-- Without parameters it arrives without its placeholders. -/
theorem rendered_bare {message rendered : Message} {text : String}
    (filled : message.rendered = .ok rendered) (titled : message.subject = .str text)
    (bare : message.params = .obj []) :
    ∃ left, rendered.subject = .str left ∧ Stripped text.toList left.toList ∧
      (left = text ↔ ¬ Marked text.toList) := by
  have parameters : message.parameters = .obj [] := by
    rw [Message.parameters, bare]
    rfl
  have stripped : Stripped text.toList (render text (.obj [])).toList := by
    rw [render, String.toList_ofList]
    exact stripped_renderChars String.length_toList.le
  refine ⟨_, (rendered_subject filled titled).trans (by rw [parameters]), stripped, ?_⟩
  rw [← stripped.eq_iff, String.toList_inj]

/-- What the manager makes of the outcome of a delivery: one that did not succeed is a failure. -/
def Manager.verdict (name : String) (outcome : Except Failure Receipt) : Except Failure Receipt := do
  let receipt ← outcome
  if receipt.success then return receipt
  else
    throw (.notification ("Notification via " ++ name ++ " failed: " ++ receipt.error.getD "None"))

/-- To send a message is to have the adapter of its choice deliver it with its templates filled in. -/
theorem Manager.send_eq {manager : Manager} {message rendered : Message} {name : String}
    {adapter : Adapter} (chosen : manager.choose message = .ok (name, adapter))
    (filled : message.rendered = .ok rendered) :
    manager.send message = (adapter.deliver rendered).map (verdict name) := by
  unfold send
  rw [chosen, filled]
  rfl

end Orchestra.Notification

namespace Orchestra

namespace Template

/-- A text that a placeholder became stands in what became of the whole. -/
theorem replacement_infix {scope : Value} {s : String} {found : List (List Char × List Char)}
    {last : List Char} {part : List Char × List Char} (cut : Cut s.toList found last)
    (member : part ∈ found) :
    replacement scope part.2 <:+: (resolveString scope s).toList := by
  obtain ⟨early, late, rfl⟩ := List.append_of_mem member
  rw [resolveString_of_cut cut, String.toList_ofList, replaced, List.flatMap_append,
    List.flatMap_cons]
  exact ⟨(early.flatMap fun part => part.1 ++ replacement scope part.2) ++ part.1,
    (late.flatMap fun part => part.1 ++ replacement scope part.2) ++ last, by simp⟩

/-- A placeholder that leads nowhere, and is one to the manager too, is still there. -/
theorem marked_of_unresolved {scope : Value} {s : String} {found : List (List Char × List Char)}
    {last : List Char} {part : List Char × List Char} (cut : Cut s.toList found last)
    (member : part ∈ found) (missing : scope.lookup? (String.ofList part.2) = none)
    (mark : Notification.Mark) (same : mark.text = braced part.2) :
    Notification.Marked (resolveString scope s).toList := by
  have stays : replacement scope part.2 = mark.text := by
    rw [same, replacement, missing]
  exact ⟨mark, stays ▸ replacement_infix cut member⟩

end Template

theorem textual_ofString? (text : Option String) : (Value.ofString? text).Textual := by
  cases text with
  | none => exact .inl rfl
  | some text => exact .inr ⟨text, rfl⟩

namespace Notice

variable {scope : Value} {notice : Notice}

/-- A text that may be absent can be filled in. -/
def isWritableText (scope : Value) (text : Option String) : Bool :=
  text.all fun text => Template.isWritable scope (.str text)

/-- Fields that may be absent can be filled in. -/
def areWritableFields (scope : Value) (fields : Option Fields) : Bool :=
  fields.all fun fields => Template.isWritable scope (.obj fields)

/-- All that is filled in on the way to the message of a notice can be. -/
def isWritable (scope : Value) (notice : Notice) : Bool :=
  isWritableText scope notice.channel && isWritableText scope notice.recipient &&
    isWritableText scope notice.subject && isWritableText scope notice.body &&
    areWritableFields scope notice.params && areWritableFields scope notice.metadata

/-- The message of a notice in a scope. -/
def message (scope : Value) (notice : Notice) : Message where
  adapter := .ofString? notice.adapter
  channel := .ofString? (notice.channel.map (Template.resolveString scope))
  recipient := .ofString? (notice.recipient.map (Template.resolveString scope))
  subject := .ofString? (notice.subject.map (Template.resolveString scope))
  body := .ofString? (notice.body.map (Template.resolveString scope))
  template := .ofString? notice.template
  params := .obj ((notice.params.map (Template.resolveFields scope)).getD [])
  metadata := .obj ((notice.metadata.map (Template.resolveFields scope)).getD [])

theorem message_plain (scope : Value) (notice : Notice) : (notice.message scope).Plain where
  adapter := textual_ofString? _
  channel := textual_ofString? _
  recipient := textual_ofString? _
  subject := textual_ofString? _
  body := textual_ofString? _
  template := textual_ofString? _
  metadata := ⟨_, rfl⟩
  created := rfl

theorem message_bare (bare : notice.params.getD [] = []) : (notice.message scope).params = .obj [] := by
  unfold message
  cases params : notice.params with
  | none => rfl
  | some fields =>
      obtain rfl : fields = [] := by simpa [params] using bare
      rfl

end Notice

namespace Execution

open Activity

variable {β : Type} {context last : Context} {collaborators : Collaborators} {log : List RunTurn}

theorem requireWritable_eq (value : Value) (context : Context) : requireWritable value context =
    .done (if Template.isWritable context.toValue value then .ok () else .error .unwritable,
      context) := by
  have unfolds : requireWritable value context = (if Template.isWritable context.toValue value
    then Activity.pure () else fail .unwritable) context := rfl
  rw [unfolds]
  split <;> rfl

/-- What comes after a text that may be absent gets it filled in, unless it cannot be. -/
theorem resolvedText_bind (text : Option String) (next : Option String → Activity β)
    (context : Context) : (resolvedText text >>= next) context =
      if Notice.isWritableText context.toValue text then
        next (text.map (Template.resolveString context.toValue)) context
      else .done (.error .unwritable, context) := by
  cases text with
  | none => rfl
  | some text =>
      have unfolds : (resolvedText (some text) >>= next) context =
          (((requireWritable (.str text) context).bind _).bind _).bind _ := rfl
      rw [unfolds, requireWritable_eq]
      cases writable : Template.isWritable context.toValue (.str text) <;>
        simp only [Notice.isWritableText, Option.all_some, writable] <;> rfl

theorem resolvedFields_bind (fields : Option Fields) (next : Fields → Activity β)
    (context : Context) : (resolvedFields fields >>= next) context =
      if Notice.areWritableFields context.toValue fields then
        next ((fields.map (Template.resolveFields context.toValue)).getD []) context
      else .done (.error .unwritable, context) := by
  cases fields with
  | none => rfl
  | some fields =>
      have unfolds : (resolvedFields (some fields) >>= next) context =
          ((requireWritable (.obj fields) context).bind _).bind _ := rfl
      rw [unfolds, requireWritable_eq]
      cases writable : Template.isWritable context.toValue (.obj fields) <;>
        simp only [Notice.areWritableFields, Option.all_some, writable] <;> rfl

/-- A notice asks for the delivery of its message, unless it cannot be filled in or nobody is there to
ask. -/
theorem runNotice_eq (notice : Notice) : runNotice collaborators notice context =
    if collaborators.notifications then
      if notice.isWritable context.toValue then
        (ask (.notify (notice.message context.toValue)) >>= fun _ => Activity.pure .null) context
      else .done (.error .unwritable, context)
    else .done (.error (.serviceMissing (.str "Notification service")), context) := by
  have unfolds : runNotice collaborators notice =
      need collaborators.notifications "Notification service" >>= fun _ =>
        resolvedText notice.channel >>= fun channel =>
          resolvedText notice.recipient >>= fun recipient =>
            resolvedText notice.subject >>= fun subject =>
              resolvedText notice.body >>= fun body =>
                resolvedFields notice.params >>= fun params =>
                  resolvedFields notice.metadata >>= fun metadata =>
                    ask (.notify {
                      adapter := .ofString? notice.adapter
                      channel := .ofString? channel
                      recipient := .ofString? recipient
                      subject := .ofString? subject
                      body := .ofString? body
                      template := .ofString? notice.template
                      params := .obj params
                      metadata := .obj metadata }) >>= fun _ => Activity.pure .null := rfl
  rw [unfolds]
  cases collaborators.notifications with
  | false => rfl
  | true =>
      refine (resolvedText_bind _ _ _).trans ?_
      simp only [resolvedText_bind, resolvedFields_bind, Notice.isWritable, Bool.and_eq_true,
        and_assoc, ite_and]
      rfl

/-- A notice without parameters reaches an adapter with the subject that its context made of it, less
what looks like a placeholder to the manager. So it arrives as it was made exactly when nothing in it
looks like that. -/
theorem notice_subject_kept_iff {target : Option String} {notice : Notice} {subject : String}
    {outcome : Except Failure Value} (titled : notice.subject = some subject)
    (bare : notice.params.getD [] = [])
    (talks : Talks (runStep collaborators (.notify target notice) context) log (outcome, last)) :
    let made := Template.resolveString context.toValue subject
    let message := notice.message context.toValue
    (if collaborators.notifications && notice.isWritable context.toValue then
      ∃ answer, log = [.of context (.notify message) answer] else log = []) ∧
    ∀ (manager : Notification.Manager) name adapter, manager.choose message = .ok (name, adapter) →
      ∃ received arrived, message.rendered = .ok received ∧
        manager.send message = (adapter.deliver received).map (Notification.Manager.verdict name) ∧
        received.subject = .str arrived ∧ Notification.Stripped made.toList arrived.toList ∧
        (arrived = made ↔ ¬ Notification.Marked made.toList) := by
  intro made message
  constructor
  · obtain ⟨finish, -, own⟩ := (talks_leaf_iff rfl).mp talks
    rw [runNotice_eq] at own
    cases present : collaborators.notifications with
    | false =>
        rw [present] at own
        exact (talks_done_iff.mp own).1
    | true =>
        cases writable : notice.isWritable context.toValue with
        | false =>
            rw [present, writable] at own
            exact (talks_done_iff.mp own).1
        | true =>
            rw [present, writable] at own
            obtain ⟨inner, -, asked⟩ := talks_then_iff.mp own
            obtain ⟨answer, same, -⟩ := Activity.talks_ask_iff.mp asked
            exact ⟨answer, same⟩
  · intro manager name adapter chosen
    obtain ⟨received, filled, -⟩ := Notification.rendered_plain (notice.message_plain context.toValue)
    have subject : message.subject = .str made := by
      show Value.ofString? (notice.subject.map _) = _
      rw [titled]
      rfl
    obtain ⟨arrived, same, stripped, kept⟩ :=
      Notification.rendered_bare filled subject (Notice.message_bare bare)
    exact ⟨received, arrived, filled, Notification.Manager.send_eq chosen filled, same, stripped, kept⟩

section Greeting

/-- A notice that greets somebody by name. -/
def greeting : Notice where
  adapter := none
  channel := none
  recipient := none
  subject := some "Hello \x7b\x7bvariables.name\x7d\x7d!"
  body := none
  template := none
  params := none
  metadata := none

/-- A run that starts with some variables. -/
def startWith (bindings : Fields) : Context where
  bindings := .root bindings

theorem greeting_cut : Template.Cut "Hello \x7b\x7bvariables.name\x7d\x7d!".toList
    [("Hello ".toList, "variables.name".toList)] "!".toList :=
  show Template.Cut ("Hello ".toList ++ (Template.braced "variables.name".toList ++ "!".toList)) _ _ from
    .next (by decide) (by decide) (.last (by decide))

theorem greeting_named :
    Template.resolveString (startWith [("name", .str "Ada")]).toValue
      "Hello \x7b\x7bvariables.name\x7d\x7d!" = "Hello Ada!" :=
  (Template.resolveString_of_cut greeting_cut).trans (by rfl)

/-- The greeting is sent when the name can be written. -/
theorem greeting_talks {bindings : Fields}
    (writable : greeting.isWritable (startWith bindings).toValue) :
    Talks (runStep {} (.notify none greeting) (startWith bindings))
      [RunTurn.of (startWith bindings) (.notify (greeting.message (startWith bindings).toValue))
        ⟨.ok .null, .root bindings⟩] (.ok .null, startWith bindings) := by
  refine (talks_leaf_iff rfl).mpr ⟨startWith bindings, rfl, ?_⟩
  rw [runNotice_eq, if_pos writable]
  exact talks_then_iff.mpr ⟨.ok .null, rfl, Activity.talks_ask_iff.mpr ⟨_, rfl, rfl, rfl⟩⟩

theorem greeting_writable {scope : Value}
    (short : Template.Writable scope [("Hello ".toList, "variables.name".toList)]) :
    greeting.isWritable scope := by
  show (true && true && Template.isWritable scope (.str _) && true && true && true) = true
  rw [(Template.isWritable_of_cut greeting_cut).mpr short]
  rfl

/-- Ada is greeted by her name. -/
theorem named_greeting_arrives :
    let scope := (startWith [("name", .str "Ada")]).toValue
    ∃ log received, Talks (runStep {} (.notify none greeting) (startWith [("name", .str "Ada")])) log
        (.ok .null, startWith [("name", .str "Ada")]) ∧
      (∃ answer, log = [RunTurn.of (startWith [("name", .str "Ada")])
        (.notify (greeting.message scope)) answer]) ∧
      (greeting.message scope).rendered = .ok received ∧ received.subject = .str "Hello Ada!" := by
  intro scope
  have short : Template.Writable scope [("Hello ".toList, "variables.name".toList)] := by
    intro part member value leads
    obtain rfl := List.mem_singleton.mp member
    obtain rfl : Value.str "Ada" = value := Option.some.inj leads
    rfl
  have talks := greeting_talks (greeting_writable short)
  obtain ⟨asked, arrives⟩ := notice_subject_kept_iff rfl rfl talks
  rw [greeting_named] at arrives
  have chosen : Notification.Manager.hookManager.choose (greeting.message scope) =
      .ok ("hook", ⟨0, .str "hook", .webhook (.str "https://h.test/") .null⟩) := rfl
  obtain ⟨received, arrived, filled, -, subject, -, kept⟩ := arrives _ _ _ chosen
  have unmarked : ¬ Notification.Marked "Hello Ada!".toList :=
    Notification.unmarked_of_no_brace (by decide)
  rw [kept.mpr unmarked] at subject
  exact ⟨_, received, talks, ⟨_, rfl⟩, filled, subject⟩

/-- Where no name is known its placeholder does not arrive, although the run left it in the subject. -/
theorem nameless_greeting_not_kept :
    ¬ ∀ (collaborators : Collaborators) (context last : Context) (target : Option String)
      (notice : Notice) (subject : String) (log : List RunTurn) (outcome : Except Failure Value)
      (answer : Answer) (manager : Notification.Manager) (name : String)
      (adapter : Notification.Adapter) (received : Message),
      notice.subject = some subject → notice.params.getD [] = [] →
      Talks (runStep collaborators (.notify target notice) context) log (outcome, last) →
      log = [RunTurn.of context (.notify (notice.message context.toValue)) answer] →
      manager.choose (notice.message context.toValue) = .ok (name, adapter) →
      (notice.message context.toValue).rendered = .ok received →
      received.subject = .str (Template.resolveString context.toValue subject) := by
  intro keeps
  have short : Template.Writable (startWith []).toValue
      [("Hello ".toList, "variables.name".toList)] := by
    intro part member value leads
    obtain rfl := List.mem_singleton.mp member
    cases leads
  have talks := greeting_talks (greeting_writable short)
  obtain ⟨received, filled, -⟩ :=
    Notification.rendered_plain (greeting.message_plain (startWith []).toValue)
  have kept := keeps _ _ _ _ _ _ _ _ _ Notification.Manager.hookManager _ _ received rfl rfl talks rfl
    rfl filled
  obtain ⟨arrived, subject, -, iff⟩ := Notification.rendered_bare filled rfl rfl
  have marked : Notification.Marked (Template.resolveString (startWith []).toValue
      "Hello \x7b\x7bvariables.name\x7d\x7d!").toList :=
    Template.marked_of_unresolved greeting_cut List.mem_cons_self rfl
      ⟨[], "variables.name".toList, [], by simp, by decide, List.all_eq_true.mp (by decide +kernel),
        by simp⟩ rfl
  exact iff.mp (Value.str.inj (subject.symm.trans kept)) marked

end Greeting

end Execution

end Orchestra
