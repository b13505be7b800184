import Orchestra.Proofs.Notification.Trouble

/-!
What comes of sending a message.

A message that was sent comes back as a receipt, and the manager makes a failure of its own of every
receipt that tells of trouble. Trouble that an adapter does not expect reaches whoever sent the message
as it is.
-/

namespace Orchestra.Notification

variable {log : List OutsideTurn}

@[simp] theorem troubles_nil : troubles [] = [] := rfl

@[simp] theorem troubles_cons (turn : OutsideTurn) (rest : List OutsideTurn) :
    troubles (turn :: rest) = turn.trouble?.toList ++ troubles rest := by
  simp only [troubles, List.filterMap_cons]
  cases turn.trouble? <;> rfl

@[simp] theorem troubles_append (first second : List OutsideTurn) :
    troubles (first ++ second) = troubles first ++ troubles second :=
  List.filterMap_append

namespace Adapter

variable {adapter : Adapter} {message : Message} {outcome : Except Failure Receipt}

theorem talks_delivered {recipient : Value} {note : String}
    (talks : Talks (adapter.delivered recipient note) log outcome) :
    troubles log = [] ∧ ∃ receipt, outcome = .ok receipt := by
  obtain ⟨stamp, rest, rfl, later⟩ := talks_ask_iff.mp talks
  obtain ⟨rfl, rfl⟩ := talks_done_iff.mp later
  exact ⟨rfl, _, rfl⟩

/-- Without any trouble a delivery ends with a receipt. -/
theorem Reports.of_calm (calm : troubles log = []) (fit : ∀ failure, ¬ adapter.Unfit message failure)
    (receipt : Receipt) : adapter.Reports message log (.ok receipt) := by
  rintro failure (troubled | ⟨-, unfit⟩)
  · cases calm.symm.trans troubled
  · exact (fit failure unfit).elim

/-- Trouble that is expected ends up in a receipt, and any other ends the delivery. -/
theorem Reports.of_meets {failure : Failure} (meets : adapter.Meets message log failure)
    (receipt : Receipt) : adapter.Reports message log
      (if adapter.channel.expects failure then .ok receipt else .error failure) := by
  split
  next expected => exact fun other again => meets.unique again ▸ expected
  next unexpected => exact ⟨meets, by simpa using unexpected⟩

theorem deliverToConsole_reports (channel : adapter.channel = .console)
    (talks : Talks (adapter.deliverToConsole message) log outcome) :
    adapter.Reports message log outcome := by
  obtain ⟨_, rest, rfl, later⟩ := talks_ask_iff.mp talks
  obtain ⟨calm, receipt, rfl⟩ := talks_delivered later
  refine .of_calm ?_ (fun failure => unfit_console channel) receipt
  simpa [OutsideTurn.trouble?] using calm

theorem isEndpoint_textual {recipient : Value} (textual : recipient.Textual) :
    ∃ direct, isEndpoint recipient = .ok direct := by
  unfold isEndpoint
  rcases textual with rfl | ⟨text, rfl⟩
  · exact ⟨false, rfl⟩
  · split
    · exact ⟨false, rfl⟩
    · exact ⟨_, rfl⟩

theorem deliverToWebhook_reports {url headers : Value}
    (channel : adapter.channel = .webhook url headers) (plain : message.Plain)
    (talks : Talks (adapter.deliverToWebhook url headers message) log outcome) :
    adapter.Reports message log outcome := by
  obtain ⟨direct, directed⟩ := isEndpoint_textual plain.recipient
  have unexpected : ∀ failure, adapter.channel.expects failure = false := by
    intro failure
    rw [channel]
    rfl
  unfold deliverToWebhook at talks
  rw [directed] at talks
  dsimp only at talks
  by_cases somewhere : (if direct then message.recipient else url).truthy = true
  case neg =>
    rw [if_pos (by simpa using somewhere)] at talks
    obtain ⟨rfl, rfl⟩ := talks_done_iff.mp talks
    refine .of_calm rfl (fun failure unfit => ?_) _
    obtain ⟨again, same, known, -⟩ := (unfit_webhook_iff channel).mp unfit
    cases directed.symm.trans same
    exact somewhere known
  case pos =>
    rw [if_neg (by simpa using somewhere), plain.created] at talks
    cases faulty : webhookHeaders headers with
    | error failure =>
        rw [faulty] at talks
        obtain ⟨rfl, rfl⟩ := talks_done_iff.mp talks
        exact ⟨.inr ⟨rfl, .headers channel directed somewhere faulty⟩, unexpected failure⟩
    | ok own =>
        rw [faulty] at talks
        obtain ⟨stamp, rest, rfl, later⟩ := talks_ask_iff.mp talks
        obtain ⟨answer, rest, rfl, last⟩ := talks_ask_iff.mp later
        cases answer with
        | error failure =>
            obtain ⟨rfl, rfl⟩ := talks_done_iff.mp last
            exact ⟨.inl rfl, unexpected failure⟩
        | ok value =>
            obtain ⟨calm, receipt, rfl⟩ := talks_delivered last
            refine .of_calm ?_ (fun failure unfit => ?_) receipt
            · simpa [OutsideTurn.trouble?, failure?] using calm
            · obtain ⟨-, -, -, faulty'⟩ := (unfit_webhook_iff channel).mp unfit
              cases faulty'.symm.trans faulty

/-- A failure that is expected ends up in a receipt. -/
theorem talks_refused {expected : Bool} {receipt : Receipt} {failure : Failure}
    (talks : Talks (if expected then .done (.ok receipt) else .done (.error failure) : Errand Receipt)
      log outcome) :
    log = [] ∧ outcome = if expected then .ok receipt else .error failure := by
  cases expected <;> exact talks_done_iff.mp talks

theorem deliverToSlack_reports {token default endpoint : Value}
    (channel : adapter.channel = .slack token default endpoint) (plain : message.Plain)
    (talks : Talks (adapter.deliverToSlack token default endpoint message) log outcome) :
    adapter.Reports message log outcome := by
  have expects : adapter.channel.expects = isExpected := by
    rw [channel]
    rfl
  unfold deliverToSlack at talks
  dsimp only at talks
  by_cases somewhere : (either message.channel default).truthy = true
  case neg =>
    rw [if_pos (by simpa using somewhere)] at talks
    obtain ⟨rfl, rfl⟩ := talks_done_iff.mp talks
    refine .of_calm rfl (fun failure unfit => ?_) _
    exact somewhere ((unfit_slack_iff channel).mp unfit).1
  case pos =>
    obtain ⟨payload, filled⟩ : ∃ payload,
        slackPayload message (either message.channel default) = .ok payload := by
      obtain ⟨fields, same⟩ := plain.metadata
      unfold slackPayload
      rw [same]
      exact ⟨_, rfl⟩
    rw [if_neg (by simpa using somewhere), filled] at talks
    dsimp only at talks
    cases faulty : slackRequest token endpoint payload with
    | error failure =>
        rw [faulty] at talks
        obtain ⟨rfl, rfl⟩ := talks_refused talks
        rw [← expects]
        exact .of_meets (.inr ⟨rfl, .request channel somewhere filled faulty⟩) _
    | ok request =>
        have fit : ∀ failure, ¬ adapter.Unfit message failure := by
          intro failure unfit
          obtain ⟨-, payload', filled', faulty'⟩ := (unfit_slack_iff channel).mp unfit
          cases filled'.symm.trans filled
          cases faulty'.symm.trans faulty
        rw [faulty] at talks
        obtain ⟨answer, rest, rfl, later⟩ := talks_ask_iff.mp talks
        cases verdict : Except.bind answer slackVerdict with
        | error failure =>
            rw [verdict] at later
            obtain ⟨rfl, rfl⟩ := talks_refused later
            rw [← expects]
            refine .of_meets (.inl ?_) _
            simp [OutsideTurn.trouble?, failure?, verdict]
        | ok complaint =>
            have calm : troubles rest = [] →
                troubles (⟨.post adapter.number request payload, answer⟩ :: rest) = [] := by
              intro calm
              simp [OutsideTurn.trouble?, failure?, verdict, calm]
            rw [verdict] at later
            cases complaint with
            | some error =>
                obtain ⟨rfl, rfl⟩ := talks_done_iff.mp later
                exact .of_calm (calm rfl) fit _
            | none =>
                obtain ⟨calm', receipt, rfl⟩ := talks_delivered later
                exact .of_calm (calm calm') fit receipt

/-- A successful answer of the chat service that is no object is trouble of an unexpected kind. -/
theorem slackVerdict_shapeless {response : Http.Response} {bytes : List UInt8} {value : Value}
    (placed : Http.badRedirection? response = none) (read : response.body = .ok bytes)
    (success : response.isSuccess = true) (json : Json.ofBytes bytes = .ok value)
    (shapeless : ∀ fields, value ≠ .obj fields) :
    slackVerdict response = .error (.noAttribute value "get") ∧
      isExpected (.noAttribute value "get") = false := by
  refine ⟨?_, rfl⟩
  simp only [slackVerdict, placed, read]
  cases value with
  | obj fields => exact (shapeless fields rfl).elim
  | _ => simp [success, json, bind, Except.bind, throw, throwThe, MonadExceptOf.throw]

section Errands

variable {α β : Type} {own : Failure → Prop}

/-- The outcome of an errand is what went wrong in its talk, or a failure of its own where nothing
did. -/
def Tells (own : Failure → Prop) (log : List OutsideTurn) : Except Failure α → Prop
  | .ok _ => troubles log = [] ∧ ∀ failure, ¬ own failure
  | .error failure => troubles log = [failure] ∨ troubles log = [] ∧ own failure

/-- An errand tells of all that went wrong, whatever it is answered. -/
def Honest (own : Failure → Prop) (errand : Errand α) : Prop :=
  ∀ log outcome, Talks errand log outcome → Tells own log outcome

theorem honest_error {failure : Failure} (fails : own failure) :
    Honest own (.done (.error failure) : Errand α) := by
  intro log outcome talks
  obtain ⟨rfl, rfl⟩ := talks_done_iff.mp talks
  exact .inr ⟨rfl, fails⟩

/-- A question that brings its own trouble, and no other. -/
theorem honest_request {call : Call} {same : call.Reply = Except Failure Unit}
    (trouble : ∀ answer, OutsideTurn.trouble? ⟨call, answer⟩ = failure? (cast same answer)) :
    Honest (fun _ => False) (request call same) := by
  intro log outcome talks
  obtain ⟨answer, rest, rfl, later⟩ := talks_ask_iff.mp talks
  obtain ⟨rfl, rfl⟩ := talks_done_iff.mp later
  cases answered : cast same answer with
  | ok => exact ⟨by simp [trouble, answered, failure?], fun _ => id⟩
  | error failure => exact .inl (by simp [trouble, answered, failure?])

theorem Honest.doIf {errand : Errand Unit} (wanted : Bool) (honest : Honest (fun _ => False) errand) :
    Honest (fun _ => False) (doIf wanted errand) := by
  unfold Adapter.doIf
  split
  · exact honest
  · intro log outcome talks
    obtain ⟨rfl, rfl⟩ := talks_done_iff.mp talks
    exact ⟨rfl, fun _ => id⟩

/-- One honest errand after the other; only the last may fail by itself. -/
theorem Honest.thenDo {first : Errand α} {second : α → Errand β}
    (before : Honest (fun _ => False) first) (after : ∀ value, Honest own (second value)) :
    Honest own (thenDo first second) := by
  intro log outcome talks
  obtain ⟨early, middle, late, rfl, begins, ends⟩ := talks_bind_iff.mp talks
  have told := before early middle begins
  cases middle with
  | ok value =>
      have rest := after value late outcome ends
      have calm : troubles early = [] := told.1
      cases outcome with
      | ok => exact ⟨by simp [calm, rest.1], rest.2⟩
      | error failure =>
          refine rest.imp (fun troubled => ?_) (fun own => ⟨?_, own.2⟩)
          · simp [calm, troubled]
          · simp [calm, own.1]
  | error failure =>
      obtain ⟨rfl, rfl⟩ := talks_done_iff.mp ends
      obtain troubled | ⟨-, none⟩ := told
      · exact .inl (by simpa using troubled)
      · exact none.elim

/-- What is asked at the end of an honest errand does not matter if it brings no trouble. -/
theorem Honest.leave {errand : Errand α} (honest : Honest own errand) {call : Call}
    (calm : ∀ answer, OutsideTurn.trouble? ⟨call, answer⟩ = none) :
    Honest own (errand.bind fun outcome => .ask call fun _ => .done outcome) := by
  intro log outcome talks
  obtain ⟨early, middle, late, rfl, begins, ends⟩ := talks_bind_iff.mp talks
  obtain ⟨answer, rest, rfl, last⟩ := talks_ask_iff.mp ends
  obtain ⟨rfl, rfl⟩ := talks_done_iff.mp last
  have same : troubles (early ++ [⟨call, answer⟩]) = troubles early := by simp [calm]
  have told := honest early _ begins
  cases outcome with
  | ok => exact ⟨same.trans told.1, told.2⟩
  | error => exact told.imp same.trans fun own => ⟨same.trans own.1, own.2⟩

/-- An errand that tells of all that went wrong may be said to fail for a reason that there is none
of. -/
theorem Honest.of_none {errand : Errand α} (honest : Honest (fun _ => False) errand)
    (none : ∀ failure, ¬ own failure) : Honest own errand := by
  intro log outcome talks
  have told := honest log outcome talks
  cases outcome with
  | ok => exact ⟨told.1, none⟩
  | error failure => exact told.imp_right fun own => own.2.elim

end Errands

section Email

variable {config : MailConfig} {mail : Mail}

/-- A mail that is ready is sent, or the server refuses it, or a header of it cannot be written. -/
theorem sendBySmtp_honest {body : String} (written : mail.content = .ok body) :
    Honest (fun failure => mail.text body = .error failure) (sendBySmtp config mail) := by
  unfold sendBySmtp
  rw [written]
  dsimp only
  refine (honest_request fun _ => rfl).thenDo fun _ => Honest.leave ?_ fun _ => rfl
  refine ((honest_request fun _ => rfl).doIf _).thenDo fun _ =>
    ((honest_request fun _ => rfl).doIf _).thenDo fun _ => ?_
  cases text : mail.text body with
  | error failure => exact honest_error rfl
  | ok text => exact (honest_request fun _ => rfl).of_none nofun

theorem sendByFile_honest {body : String} (written : mail.body = .str body) :
    Honest (fun _ => False) (sendByFile config mail adapter) := by
  unfold sendByFile Mail.outboxEntry
  rw [written]
  exact honest_request fun _ => rfl

theorem deliverByMail_reports (channel : adapter.channel = .email config) (plain : message.Plain)
    (talks : Talks (adapter.deliverByMail config message) log outcome) :
    adapter.Reports message log outcome := by
  have expects : adapter.channel.expects = isMailFault := by
    rw [channel]
    rfl
  obtain ⟨body, written⟩ : ∃ body, (mailOf config message).body = .str body := by
    rcases plain.body with same | ⟨text, same⟩
    · exact ⟨"", by simp [mailOf, either, same, Value.truthy]⟩
    · refine ⟨text, ?_⟩
      simp only [mailOf, either, same]
      split
      · rfl
      next empty => rw [show text = "" by simpa [Value.truthy] using empty]
  have content : (mailOf config message).content = .ok (Mail.encodedBody body) := by
    unfold Mail.content
    rw [written]
  unfold deliverByMail at talks
  by_cases somewhere : message.recipient.truthy = true
  case neg =>
    rw [if_pos (by simpa using somewhere)] at talks
    obtain ⟨rfl, rfl⟩ := talks_done_iff.mp talks
    refine .of_calm rfl (fun failure unfit => ?_) _
    exact somewhere ((unfit_email_iff channel).mp unfit).1
  case pos =>
    rw [if_neg (by simpa using somewhere)] at talks
    have honest : Honest (adapter.Unfit message)
        (if config.host.truthy then (sendBySmtp config (mailOf config message), "Email sent")
          else (sendByFile config (mailOf config message) adapter,
            "Email written to " ++ config.outbox)).1 := by
      split
      next server =>
        have own : adapter.Unfit message = fun failure =>
            (mailOf config message).text (Mail.encodedBody body) = .error failure := by
          funext failure
          simp [unfit_email_iff channel, somewhere, server, content]
        rw [own]
        exact sendBySmtp_honest content
      next file =>
        refine (sendByFile_honest written).of_none fun failure unfit => ?_
        exact file ((unfit_email_iff channel).mp unfit).2.1
    obtain ⟨early, middle, late, rfl, begins, ends⟩ := talks_bind_iff.mp talks
    have told := honest early middle begins
    cases middle with
    | ok =>
        obtain ⟨calm, receipt, rfl⟩ := talks_delivered ends
        exact .of_calm (by rw [troubles_append, told.1, calm]; rfl) told.2 receipt
    | error failure =>
        obtain ⟨rfl, rfl⟩ := talks_refused ends
        rw [List.append_nil, ← expects]
        exact .of_meets told _

end Email

/-- Whatever the outside answers, a delivery ends with a receipt unless it comes upon trouble that its
adapter does not expect, and then that trouble is how it ends. -/
theorem deliver_reports (plain : message.Plain)
    (talks : Talks (adapter.deliver message) log outcome) : adapter.Reports message log outcome := by
  unfold deliver at talks
  split at talks
  next channel => exact deliverToConsole_reports channel talks
  next channel => exact deliverToWebhook_reports channel plain talks
  next channel => exact deliverToSlack_reports channel plain talks
  next channel => exact deliverByMail_reports channel plain talks

end Adapter

/-- A text stays one when a template is filled in. -/
theorem filled_textual (message : Message) {template : Value} (textual : template.Textual)
    (present : template.truthy = true) :
    ∃ value, message.filled template = .ok value ∧ value.Textual := by
  rcases textual with rfl | ⟨text, rfl⟩
  · cases present
  · exact ⟨_, rfl, .inr ⟨_, rfl⟩⟩

/-- First the body is filled in, and then the subject. -/
theorem rendered_eq (message : Message) : message.rendered =
    ((if !message.body.truthy && message.template.truthy then message.filled message.template
      else .ok message.body) >>= fun body =>
      (if message.subject.truthy then message.filled message.subject else .ok message.subject) >>=
        fun subject => pure { message with body, subject }) := by
  unfold Message.rendered
  split <;> split <;> rfl

/-- Filling in the templates of a plain message gives a plain message. -/
theorem rendered_plain {message : Message} (plain : message.Plain) :
    ∃ rendered, message.rendered = .ok rendered ∧ rendered.Plain := by
  obtain ⟨body, bodied, textual⟩ : ∃ body, (if !message.body.truthy && message.template.truthy then
      message.filled message.template else .ok message.body) = .ok body ∧ body.Textual := by
    split
    next missing => exact filled_textual message plain.template (by simp_all)
    · exact ⟨message.body, rfl, plain.body⟩
  obtain ⟨subject, titled, textual'⟩ : ∃ subject, (if message.subject.truthy then
      message.filled message.subject else .ok message.subject) = .ok subject ∧ subject.Textual := by
    split
    next present => exact filled_textual message plain.subject present
    · exact ⟨message.subject, rfl, plain.subject⟩
  refine ⟨{ message with body, subject }, ?_, { plain with body := textual, subject := textual' }⟩
  rw [rendered_eq, bodied, titled]
  rfl

namespace Manager

variable {manager : Manager} {message : Message} {outcome : Except Failure Receipt}

/-- A message was delivered, or its sender is told in so many words that it was not. -/
def Settled (outcome : Except Failure Receipt) : Prop :=
  (∃ receipt, outcome = .ok receipt ∧ receipt.success = true) ∨
    ∃ text, outcome = .error (.notification text)

/-- The adapter of a message comes upon trouble that it does not expect. -/
def Escapes (manager : Manager) (message : Message) (log : List OutsideTurn) (failure : Failure) :
    Prop :=
  ∃ name adapter rendered, manager.choose message = .ok (name, adapter) ∧
    message.rendered = .ok rendered ∧ adapter.Meets rendered log failure ∧
    adapter.channel.expects failure = false

theorem choose_spec (default : manager.default.Textual) (plain : message.Plain) :
    (∃ text, manager.choose message = .error (.notification text)) ∨
      ∃ name adapter, manager.choose message = .ok (name, adapter) := by
  have textual : (Adapter.either message.adapter manager.default).Textual := by
    unfold Adapter.either
    split
    · exact plain.adapter
    · exact default
  unfold choose
  generalize Adapter.either message.adapter manager.default = name at textual
  rcases textual with rfl | ⟨text, rfl⟩
  · exact .inl ⟨_, rfl⟩
  · by_cases empty : (Value.str text).truthy = true
    · have found : manager.lookUp (.str text) = .ok (manager.adapter? (.str text)) := rfl
      cases known : manager.adapter? (.str text) with
      | none =>
          refine .inl ⟨"Notification adapter not found: " ++ (Value.str text).text, ?_⟩
          simp [empty, found, known]
          rfl
      | some adapter =>
          refine .inr ⟨(Value.str text).text, adapter, ?_⟩
          simp [empty, found, known]
          rfl
    · refine .inl ⟨"No notification adapter specified", ?_⟩
      simp [empty]
      rfl

/-- Sending a message either settles it, or it ends with the trouble that its adapter did not expect:
the answers of the outside alone decide which of the two. -/
theorem send_settled_unless_escapes (default : manager.default.Textual) (plain : message.Plain)
    (talks : Talks (manager.send message) log outcome) :
    (∀ failure, manager.Escapes message log failure → outcome = .error failure) ∧
      ((∀ failure, ¬ manager.Escapes message log failure) → Settled outcome) := by
  unfold send at talks
  rcases choose_spec default plain with ⟨text, refused⟩ | ⟨name, adapter, chosen⟩
  · rw [refused] at talks
    obtain ⟨rfl, rfl⟩ := talks_done_iff.mp talks
    refine ⟨?_, fun _ => .inr ⟨text, rfl⟩⟩
    rintro failure ⟨name, adapter, rendered, chosen, -⟩
    cases chosen.symm.trans refused
  · obtain ⟨rendered, filled, plain'⟩ := rendered_plain plain
    rw [chosen, filled] at talks
    obtain ⟨early, delivery, late, rfl, delivers, ends⟩ := talks_bind_iff.mp talks
    obtain ⟨rfl, rfl⟩ := talks_done_iff.mp ends
    rw [List.append_nil]
    have reports := Adapter.deliver_reports plain' delivers
    cases delivery with
    | ok receipt =>
        refine ⟨?_, fun _ => ?_⟩
        · rintro failure ⟨name', adapter', rendered', chosen', filled', meets, unexpected⟩
          cases chosen'.symm.trans chosen
          cases filled'.symm.trans filled
          cases unexpected.symm.trans (reports failure meets)
        · cases success : receipt.success with
          | true =>
              refine .inl ⟨receipt, ?_, success⟩
              simp [bind, Except.bind, success, pure, Except.pure]
          | false =>
              refine .inr ⟨"Notification via " ++ name ++ " failed: " ++ receipt.error.getD "None", ?_⟩
              simp [bind, Except.bind, success, throw, throwThe, MonadExceptOf.throw]
    | error failure =>
        refine ⟨?_, fun settled => ?_⟩
        · rintro other ⟨name', adapter', rendered', chosen', filled', meets, -⟩
          cases chosen'.symm.trans chosen
          cases filled'.symm.trans filled
          rw [reports.1.unique meets]
          rfl
        · exact (settled failure ⟨name, adapter, rendered, chosen, filled, reports⟩).elim

section Cases

/-- An outside that reaches nobody, and cannot write. -/
def unreachable : (call : Call) → Unit → call.Reply × Unit
  | .now, _ => ((0 : Stamp), ())
  | .log .., _ | .quit, _ => ((), ())
  | .fetch .., _ => ((.error (.transport "boom") : Except Failure Value), ())
  | .post .., _ => ((.error (.foreign (.network .connect) "boom") : Except Failure Http.Response), ())
  | .append .., _ | .connect .., _ | .secure, _ | .login .., _ | .sendMail .., _ =>
    ((.error (.foreign (.system .other) "boom") : Except Failure Unit), ())

/-- A manager that writes its messages as mails into a file. -/
def mailManager : Manager where
  default := .str "mail"
  adapters := [(.str "mail", ⟨0, .str "mail", .email {}⟩)]

/-- A manager that posts its messages to an HTTP endpoint. -/
def hookManager : Manager where
  default := .str "hook"
  adapters := [(.str "hook", ⟨0, .str "hook", .webhook (.str "https://h.test/") .null⟩)]

def greetingTo (recipient : Value) : Message where
  recipient
  body := .str "x"

theorem greetingTo_plain {recipient : Value} (textual : recipient.Textual) :
    (greetingTo recipient).Plain where
  adapter := .inl rfl
  channel := .inl rfl
  recipient := textual
  subject := .inl rfl
  body := .inr ⟨"x", rfl⟩
  template := .inl rfl
  metadata := ⟨[], rfl⟩
  created := rfl

theorem troubles_unwritten :
    troubles ((mailManager.send (greetingTo (.str "a@x.test"))).talk unreachable ()) =
      [.foreign (.system .other) "boom"] := rfl

/-- A file that cannot be written is trouble that the mail adapter expects. -/
theorem unwritten_mail_settled :
    let message := greetingTo (.str "a@x.test")
    let log := (mailManager.send message).talk unreachable ()
    let outcome := ((mailManager.send message).run unreachable ()).1
    mailManager.default.Textual ∧ message.Plain ∧ Talks (mailManager.send message) log outcome ∧
      (∀ failure, ¬ mailManager.Escapes message log failure) ∧ Settled outcome := by
  intro message log outcome
  have default : mailManager.default.Textual := .inr ⟨"mail", rfl⟩
  have plain : message.Plain := greetingTo_plain (.inr ⟨"a@x.test", rfl⟩)
  have talks : Talks (mailManager.send message) log outcome :=
    talks_talk unreachable (mailManager.send message) ()
  have chosen : mailManager.choose message = .ok ("mail", ⟨0, .str "mail", .email {}⟩) := rfl
  have kept : ∀ failure, ¬ mailManager.Escapes message log failure := by
    rintro failure ⟨name, adapter, rendered, chosen', -, meets, unexpected⟩
    cases chosen'.symm.trans chosen
    rcases meets with troubled | ⟨calm, -⟩
    · cases troubled.symm.trans troubles_unwritten
      cases unexpected
    · cases calm.symm.trans troubles_unwritten
  exact ⟨default, plain, talks, kept, (send_settled_unless_escapes default plain talks).2 kept⟩

theorem troubles_unreached :
    troubles ((hookManager.send (greetingTo .null)).talk unreachable ()) = [.transport "boom"] := rfl

theorem unreached_outcome :
    ((hookManager.send (greetingTo .null)).run unreachable ()).1 = .error (.transport "boom") := rfl

/-- A failure of the HTTP client reaches the sender of the message as it is. -/
theorem unreached_hook_not_settled :
    ¬ ∀ (manager : Manager) (message : Message) (log : List OutsideTurn)
      (outcome : Except Failure Receipt), manager.default.Textual → message.Plain →
      (∀ failure ∈ troubles log, failure.isHttp) → Talks (manager.send message) log outcome →
      Settled outcome := by
  intro settles
  have talks := talks_talk unreachable (hookManager.send (greetingTo .null)) ()
  have settled := settles hookManager (greetingTo .null) _ _ (.inr ⟨"hook", rfl⟩)
    (greetingTo_plain (.inl rfl)) (by simp [troubles_unreached, Failure.isHttp]) talks
  rw [unreached_outcome] at settled
  rcases settled with ⟨receipt, same, -⟩ | ⟨text, same⟩
  · cases same
  · cases same

end Cases

end Manager

end Orchestra.Notification
