import Orchestra.Notification.Manager
import Orchestra.Proofs.Talk

/-!
What may go wrong with a delivery, and what its adapter makes of it.

Each answer of the outside may bring trouble, and some messages cannot be sent in the first place. An
adapter turns the trouble that it expects into a receipt. Any other trouble ends the delivery.
-/

namespace Orchestra

/-- A value is a text or null. -/
def Value.Textual (value : Value) : Prop :=
  value = .null ∨ ∃ text, value = .str text

/-- The fields of a message are of the kinds that they are meant to have, and the time of its making
is that of its delivery. -/
structure Message.Plain (message : Message) : Prop where
  adapter : message.adapter.Textual
  channel : message.channel.Textual
  recipient : message.recipient.Textual
  subject : message.subject.Textual
  body : message.body.Textual
  template : message.template.Textual
  metadata : ∃ fields, message.metadata = .obj fields
  created : message.created = none

namespace Notification

/-- A turn of a talk with the outside. -/
abbrev OutsideTurn := Turn outside

def failure? {α : Type} : Except Failure α → Option Failure
  | .ok _ => none
  | .error failure => some failure

/-- What is wrong with an answer of the outside; that of the chat service is read first. -/
def OutsideTurn.trouble? : OutsideTurn → Option Failure
  | ⟨.fetch .., answer⟩ => failure? (answer : Except Failure Value)
  | ⟨.post .., answer⟩ => failure? ((answer : Except Failure Http.Response).bind Adapter.slackVerdict)
  | ⟨.append .., answer⟩ | ⟨.connect .., answer⟩ | ⟨.secure, answer⟩ | ⟨.login .., answer⟩
  | ⟨.sendMail .., answer⟩ => failure? (answer : Except Failure Unit)
  | ⟨.now, _⟩ | ⟨.log .., _⟩ | ⟨.quit, _⟩ => none

/-- All that went wrong in a talk. -/
def troubles (log : List OutsideTurn) : List Failure :=
  log.filterMap OutsideTurn.trouble?

/-- The failures that an adapter makes a receipt of. -/
def Channel.expects : Channel → Failure → Bool
  | .console, _ | .webhook .., _ => false
  | .slack .., failure => Adapter.isExpected failure
  | .email _, failure => Adapter.isMailFault failure

namespace Adapter

variable {adapter : Adapter} {message : Message}

/-- The mail that a message becomes. -/
def mailOf (config : MailConfig) (message : Message) : Mail where
  sender := config.sender
  recipient := message.recipient
  subject := either message.subject (.str "Notification")
  body := either message.body (.str "")

/-- A message cannot be sent, whatever the outside answers. -/
inductive Unfit (adapter : Adapter) (message : Message) : Failure → Prop
  | headers {url headers : Value} {direct : Bool} {failure : Failure}
      (channel : adapter.channel = .webhook url headers)
      (directed : isEndpoint message.recipient = .ok direct)
      (somewhere : (if direct then message.recipient else url).truthy = true)
      (faulty : webhookHeaders headers = .error failure) : Unfit adapter message failure
  | request {token default endpoint payload : Value} {failure : Failure}
      (channel : adapter.channel = .slack token default endpoint)
      (somewhere : (either message.channel default).truthy = true)
      (filled : slackPayload message (either message.channel default) = .ok payload)
      (faulty : slackRequest token endpoint payload = .error failure) :
      Unfit adapter message failure
  | mail {config : MailConfig} {body : String} {failure : Failure}
      (channel : adapter.channel = .email config) (somewhere : message.recipient.truthy = true)
      (server : config.host.truthy = true) (written : (mailOf config message).content = .ok body)
      (faulty : (mailOf config message).text body = .error failure) : Unfit adapter message failure

/-- What a delivery comes upon: trouble with an answer, or with a message that no answer is to blame
for. -/
def Meets (adapter : Adapter) (message : Message) (log : List OutsideTurn) (failure : Failure) :
    Prop :=
  troubles log = [failure] ∨ troubles log = [] ∧ adapter.Unfit message failure

/-- The outcome of a delivery after a talk: trouble that is not expected ends it, and nothing else
does. -/
def Reports (adapter : Adapter) (message : Message) (log : List OutsideTurn) :
    Except Failure Receipt → Prop
  | .ok _ => ∀ failure, adapter.Meets message log failure → adapter.channel.expects failure = true
  | .error failure => adapter.Meets message log failure ∧ adapter.channel.expects failure = false

section Unfit

variable {failure : Failure}

theorem unfit_console (channel : adapter.channel = .console) : ¬ adapter.Unfit message failure := by
  intro unfit
  cases unfit with
  | headers other => cases channel.symm.trans other
  | request other => cases channel.symm.trans other
  | mail other => cases channel.symm.trans other

theorem unfit_webhook_iff {url headers : Value} (channel : adapter.channel = .webhook url headers) :
    adapter.Unfit message failure ↔ ∃ direct, isEndpoint message.recipient = .ok direct ∧
      (if direct then message.recipient else url).truthy = true ∧
      webhookHeaders headers = .error failure := by
  constructor
  · intro unfit
    cases unfit with
    | headers same directed somewhere faulty =>
        cases channel.symm.trans same
        exact ⟨_, directed, somewhere, faulty⟩
    | request other => cases channel.symm.trans other
    | mail other => cases channel.symm.trans other
  · rintro ⟨direct, directed, somewhere, faulty⟩
    exact .headers channel directed somewhere faulty

theorem unfit_slack_iff {token default endpoint : Value}
    (channel : adapter.channel = .slack token default endpoint) :
    adapter.Unfit message failure ↔ (either message.channel default).truthy = true ∧
      ∃ payload, slackPayload message (either message.channel default) = .ok payload ∧
        slackRequest token endpoint payload = .error failure := by
  constructor
  · intro unfit
    cases unfit with
    | headers other => cases channel.symm.trans other
    | request same somewhere filled faulty =>
        cases channel.symm.trans same
        exact ⟨somewhere, _, filled, faulty⟩
    | mail other => cases channel.symm.trans other
  · rintro ⟨somewhere, payload, filled, faulty⟩
    exact .request channel somewhere filled faulty

theorem unfit_email_iff {config : MailConfig} (channel : adapter.channel = .email config) :
    adapter.Unfit message failure ↔ message.recipient.truthy = true ∧ config.host.truthy = true ∧
      ∃ body, (mailOf config message).content = .ok body ∧
        (mailOf config message).text body = .error failure := by
  constructor
  · intro unfit
    cases unfit with
    | headers other => cases channel.symm.trans other
    | request other => cases channel.symm.trans other
    | mail same somewhere server written faulty =>
        cases channel.symm.trans same
        exact ⟨somewhere, server, _, written, faulty⟩
  · rintro ⟨somewhere, server, body, written, faulty⟩
    exact .mail channel somewhere server written faulty

/-- A message is unfit for at most one reason. -/
theorem Unfit.unique {other : Failure} (unfit : adapter.Unfit message failure)
    (again : adapter.Unfit message other) : other = failure := by
  cases channel : adapter.channel with
  | console => exact (unfit_console channel unfit).elim
  | webhook url headers =>
      obtain ⟨-, -, -, faulty⟩ := (unfit_webhook_iff channel).mp unfit
      obtain ⟨-, -, -, faulty'⟩ := (unfit_webhook_iff channel).mp again
      cases faulty'.symm.trans faulty
      rfl
  | slack token default endpoint =>
      obtain ⟨-, payload, filled, faulty⟩ := (unfit_slack_iff channel).mp unfit
      obtain ⟨-, payload', filled', faulty'⟩ := (unfit_slack_iff channel).mp again
      cases filled'.symm.trans filled
      cases faulty'.symm.trans faulty
      rfl
  | email config =>
      obtain ⟨-, -, body, written, faulty⟩ := (unfit_email_iff channel).mp unfit
      obtain ⟨-, -, body', written', faulty'⟩ := (unfit_email_iff channel).mp again
      cases written'.symm.trans written
      cases faulty'.symm.trans faulty
      rfl

/-- A delivery comes upon one failure at most. -/
theorem Meets.unique {log : List OutsideTurn} {other : Failure}
    (meets : adapter.Meets message log failure) (again : adapter.Meets message log other) :
    other = failure := by
  rcases meets with troubled | ⟨calm, unfit⟩ <;> rcases again with troubled' | ⟨calm', unfit'⟩
  · exact (List.cons.inj (troubled'.symm.trans troubled)).1
  · cases troubled.symm.trans calm'
  · cases troubled'.symm.trans calm
  · exact unfit.unique unfit'

end Unfit

end Adapter

end Notification

end Orchestra
