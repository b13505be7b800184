import Mathlib.Data.List.Nodup
import Orchestra.Proofs.Queue.Lifecycle

/-!
The line of a queue is served in turn.

Jobs enter the line when they are put there, when they are queued again by hand and when a delay is
over. Each entry is told to listeners, and what they are told next of the job is the fate of the
entry. The jobs are started in the order of their entries; the only entries that are left out are
those of jobs that were cancelled before their turn or could not be started when it came.
-/

namespace Orchestra

/-- The event is about a job. -/
def Event.concerns (id : JobId) (event : Event) : Bool :=
  event.job?.any fun job => job.id == id

/-- The job that is told to have entered the line. -/
def Event.entrant? : Event → Option JobId
  | .enqueued job | .retried job | .readmitted job => some job.id
  | _ => none

/-- The job that is told to be started. -/
def Event.starter? : Event → Option JobId
  | .started job => some job.id
  | _ => none

theorem Event.concerns_of_entrant {event : Event} {id : JobId} (enters : event.entrant? = some id) :
    event.concerns id = true := by
  cases event <;> simp_all [Event.entrant?, Event.concerns, Event.job?]

/-- The event that a signal tells of. -/
def Signal.event? {Time : Type} : Signal Time → Option Event
  | .told event => some event
  | _ => none

namespace Queue

variable {Time σ : Type}

/-- An entry in the line: its job, and what was told next of the job. -/
structure Ticket where
  id : JobId
  next : Option Topic
deriving DecidableEq, Repr

/-- The entries in the line, in their order. -/
def tickets : List Event → List Ticket
  | [] => []
  | event :: rest =>
    match event.entrant? with
    | some id => ⟨id, (rest.find? (·.concerns id)).map Event.topic⟩ :: tickets rest
    | none => tickets rest

namespace Ticket

/-- The job was cancelled before its turn, or failed when it came. -/
def withdrawn (ticket : Ticket) : Bool :=
  ticket.next = some .cancelled || ticket.next = some .failed

/-- What an entry becomes with one more event. -/
def follow (event : Event) (ticket : Ticket) : Ticket :=
  if ticket.next = none ∧ event.concerns ticket.id then { ticket with next := some event.topic }
  else ticket

@[simp] theorem follow_id (event : Event) (ticket : Ticket) :
    (ticket.follow event).id = ticket.id := by
  unfold follow
  split <;> rfl

theorem follow_of_settled {ticket : Ticket} (event : Event) (settled : ticket.next ≠ none) :
    ticket.follow event = ticket :=
  if_neg fun both => settled both.1

theorem follow_of_apart {event : Event} {ticket : Ticket}
    (apart : event.concerns ticket.id = false) : ticket.follow event = ticket :=
  if_neg (by simp [apart])

theorem follow_of_open {event : Event} {ticket : Ticket} (still : ticket.next = none)
    (concerned : event.concerns ticket.id) :
    ticket.follow event = ⟨ticket.id, some event.topic⟩ := by
  rw [follow, if_pos ⟨still, concerned⟩]

end Ticket

theorem tickets_concat (events : List Event) (event : Event) :
    tickets (events ++ [event]) = (tickets events).map (Ticket.follow event) ++ tickets [event] := by
  induction events with
  | nil => rfl
  | cons first rest ih =>
      rw [List.cons_append, tickets, tickets]
      cases first.entrant? with
      | none => exact ih
      | some id =>
          have fate : (⟨id, ((rest ++ [event]).find? (·.concerns id)).map Event.topic⟩ : Ticket) =
              Ticket.follow event ⟨id, (rest.find? (·.concerns id)).map Event.topic⟩ := by
            rw [List.find?_append]
            cases rest.find? (·.concerns id) with
            | some other => exact (Ticket.follow_of_settled event (by simp)).symm
            | none =>
                by_cases concerned : event.concerns id
                · simp [Ticket.follow, concerned]
                · simp [Ticket.follow, concerned]
          dsimp only
          rw [fate, ih]
          rfl

/-- The jobs of the entries of which nothing was told yet. -/
def waiting (entries : List Ticket) : List JobId :=
  (entries.filter fun ticket => ticket.next = none).map Ticket.id

section Waiting

variable {entries : List Ticket}

theorem mem_waiting {ticket : Ticket} (member : ticket ∈ entries) (still : ticket.next = none) :
    ticket.id ∈ waiting entries :=
  List.mem_map_of_mem (List.mem_filter.mpr ⟨member, by simpa using still⟩)

theorem waiting_eq_nil (settled : ∀ ticket ∈ entries, ticket.next ≠ none) : waiting entries = [] := by
  rw [waiting, List.map_eq_nil_iff, List.filter_eq_nil_iff]
  intro ticket member
  simpa using settled ticket member

/-- Entries stay as they are when nothing is told of those that wait. -/
theorem map_follow_of_apart {event : Event}
    (apart : ∀ id ∈ waiting entries, event.concerns id = false) :
    entries.map (Ticket.follow event) = entries := by
  have kept : ∀ ticket ∈ entries, ticket.follow event = ticket := by
    intro ticket member
    by_cases still : ticket.next = none
    · exact Ticket.follow_of_apart (apart ticket.id (mem_waiting member still))
    · exact Ticket.follow_of_settled event still
  rw [List.map_congr_left kept]
  exact List.map_id _

theorem map_follow_of_settled (event : Event) (settled : ∀ ticket ∈ entries, ticket.next ≠ none) :
    entries.map (Ticket.follow event) = entries :=
  map_follow_of_apart (by simp [waiting_eq_nil settled])

end Waiting

/-- The entries in front have had their turn, or were cancelled, and those at the back had not their
turn. -/
structure Dealt (events : List Event) (line : List JobId) (front back : List Ticket) : Prop where
  split : tickets events = front ++ back
  settled : ∀ ticket ∈ front,
    ticket.next ∈ [some .started, some .cancelled, some .failed]
  ahead : ∀ ticket ∈ back, ticket.next = none ∨ ticket.next = some .cancelled
  started : events.filterMap Event.starter? =
    (front.filter fun ticket => ticket.next = some .started).map Ticket.id
  line : line = waiting back

section Dealt

variable {events : List Event} {event : Event} {line rest : List JobId} {front back : List Ticket}
  {id : JobId}

theorem Dealt.settled_ne_none (dealt : Dealt events line front back) {ticket : Ticket}
    (member : ticket ∈ front) : ticket.next ≠ none := by
  have settled := dealt.settled ticket member
  intro still
  simp [still] at settled

theorem Dealt.front_follow (dealt : Dealt events line front back) (event : Event) :
    front.map (Ticket.follow event) = front :=
  map_follow_of_settled event fun _ => dealt.settled_ne_none

theorem Dealt.back_follow (dealt : Dealt events line front back)
    (apart : ∀ id ∈ line, event.concerns id = false) : back.map (Ticket.follow event) = back :=
  map_follow_of_apart (dealt.line ▸ apart)

/-- What is told of no job in line leaves the line alone. -/
theorem Dealt.aside (dealt : Dealt events line front back) (enters : event.entrant? = none)
    (starts : event.starter? = none) (apart : ∀ id ∈ line, event.concerns id = false) :
    Dealt (events ++ [event]) line front back where
  split := by
    rw [tickets_concat, dealt.split, List.map_append, dealt.front_follow,
      dealt.back_follow apart, tickets, enters]
    exact List.append_nil _
  settled := dealt.settled
  ahead := dealt.ahead
  started := by
    rw [List.filterMap_append, dealt.started]
    simp [starts]
  line := dealt.line

/-- What is told of cleaning up leaves the line alone. -/
theorem Dealt.cleaned (dealt : Dealt events line front back) {signals : List (Signal Time)}
    (told : ∀ signal ∈ signals, ∃ count, signal = .told (.cleaned count)) :
    Dealt (events ++ signals.filterMap Signal.event?) line front back := by
  induction signals generalizing events with
  | nil => exact (List.append_nil events).symm ▸ dealt
  | cons first rest ih =>
      obtain ⟨count, rfl⟩ := told first List.mem_cons_self
      have one : Dealt (events ++ [.cleaned count]) line front back :=
        dealt.aside rfl rfl fun _ _ => rfl
      have all := ih one fun signal member => told signal (List.mem_cons_of_mem _ member)
      rwa [List.append_assoc] at all

/-- An entry at the end of the line. -/
theorem Dealt.enter (dealt : Dealt events line front back) (enters : event.entrant? = some id)
    (starts : event.starter? = none) (apart : ∀ other ∈ line, event.concerns other = false) :
    Dealt (events ++ [event]) (line ++ [id]) front (back ++ [⟨id, none⟩]) where
  split := by
    rw [tickets_concat, dealt.split, List.map_append, dealt.front_follow,
      dealt.back_follow apart, tickets, enters, List.append_assoc]
    rfl
  settled := dealt.settled
  ahead ticket member := by
    rcases List.mem_append.mp member with member | member
    · exact dealt.ahead ticket member
    · cases List.mem_singleton.mp member
      exact .inl rfl
  started := by
    rw [List.filterMap_append, dealt.started]
    simp [starts]
  line := by simp [waiting, dealt.line]

/-- The first job in line leaves it, to start or to fail. Entries that were passed over on the way to
it are those of jobs that were cancelled. -/
theorem Dealt.pop (dealt : Dealt events (id :: rest) front back) (later : id ∉ rest)
    (fate : event.topic = .started ∨ event.topic = .failed) (enters : event.entrant? = none)
    (starts : event.starter? = if event.topic = .started then some id else none)
    (subject : ∀ other, event.concerns other = (id == other)) :
    ∃ front back, Dealt (events ++ [event]) rest front back := by
  obtain ⟨ticket, _, found, rfl, rfl⟩ := List.map_eq_cons_iff.mp dealt.line.symm
  obtain ⟨passed, behind, rfl, closed, still, rfl⟩ := List.filter_eq_cons_iff.mp found
  have still : ticket.next = none := by simpa using still
  have cancelled : ∀ other ∈ passed, other.next = some .cancelled := by
    intro other member
    refine (dealt.ahead other (List.mem_append_left _ member)).resolve_left fun still => ?_
    exact closed other member (by simpa using still)
  have passed_follow : passed.map (Ticket.follow event) = passed :=
    map_follow_of_settled event fun other member => by simp [cancelled other member]
  have behind_follow : behind.map (Ticket.follow event) = behind := by
    refine map_follow_of_apart fun other inside => (subject other).trans ?_
    exact beq_false_of_ne fun same => later (same ▸ inside)
  have left : ticket.follow event = ⟨ticket.id, some event.topic⟩ :=
    Ticket.follow_of_open still (by simp [subject])
  refine ⟨front ++ (passed ++ [⟨ticket.id, some event.topic⟩]), behind, ?_, ?_, ?_, ?_, rfl⟩
  · rw [tickets_concat, dealt.split, tickets, enters]
    simp [dealt.front_follow, passed_follow, behind_follow, left, tickets]
  · intro other member
    simp only [List.mem_append, List.mem_singleton] at member
    rcases member with member | member | rfl
    · exact dealt.settled other member
    · simp [cancelled other member]
    · rcases fate with fate | fate <;> simp [fate]
  · exact fun other member =>
      dealt.ahead other (List.mem_append_right _ (List.mem_cons_of_mem _ member))
  · have none_started : (passed.filter fun ticket => ticket.next = some .started) = [] := by
      rw [List.filter_eq_nil_iff]
      intro other member
      simp [cancelled other member]
    rw [List.filterMap_append, dealt.started]
    rcases fate with fate | fate <;> simp [starts, fate, none_started]

/-- A job is cancelled while it waits, in line or elsewhere. -/
theorem Dealt.leave (dealt : Dealt events line front back) (fate : event.topic = .cancelled)
    (enters : event.entrant? = none) (starts : event.starter? = none)
    (subject : ∀ other, event.concerns other = (id == other)) :
    Dealt (events ++ [event]) (line.filter (· != id)) front (back.map (Ticket.follow event)) where
  split := by
    rw [tickets_concat, dealt.split, List.map_append, dealt.front_follow, tickets, enters]
    exact List.append_nil _
  settled := dealt.settled
  ahead ticket member := by
    obtain ⟨earlier, listed, rfl⟩ := List.mem_map.mp member
    unfold Ticket.follow
    split
    · exact .inr (congrArg some fate)
    · exact dealt.ahead earlier listed
  started := by
    rw [List.filterMap_append, dealt.started]
    simp [starts]
  line := by
    have stays : ∀ ticket : Ticket, decide ((ticket.follow event).next = none) =
        (decide (ticket.next = none) && ticket.id != id) := by
      intro ticket
      by_cases still : ticket.next = none
      · by_cases same : id = ticket.id
        · simp [Ticket.follow, still, subject, same]
        · simp [Ticket.follow, still, subject, same, Ne.symm same]
      · simp [Ticket.follow_of_settled event still, still]
    rw [dealt.line, waiting, waiting, List.filter_map, List.filter_map, List.filter_filter,
      List.map_map]
    simp [Function.comp_def, stays, Bool.and_comm]

end Dealt

theorem concerns_iff {event : Event} {job : Job} {id : JobId} (subject : event.job? = some job)
    (own : job.id = id) (other : JobId) : event.concerns other = (id == other) := by
  simp [Event.concerns, subject, own]

section Sound

variable {queue : Queue Time} {id : JobId} {job : Job}

/-- No job is in line twice. -/
theorem Sound.pending_nodup (sound : Sound queue) : queue.pending.Nodup := by
  rw [List.nodup_iff_count_le_one]
  intro id
  obtain ⟨standing, stands⟩ := sound.stands id
  exact stands.once.1

theorem Sound.not_mem_pending (sound : Sound queue) (listed : queue.job? id = some job)
    (other : job.status ≠ .pending) : id ∉ queue.pending := by
  intro line
  obtain ⟨standing, stands⟩ := sound.stands id
  obtain ⟨record, rfl⟩ := stands.mem_pending.mp line
  obtain rfl := Option.some.inj (stands.job?.symm.trans listed)
  exact other stands.fits.2.1

theorem Sound.not_mem_pending_of_armed (sound : Sound queue)
    (armed : queue.delayed.any (·.1 == id)) : id ∉ queue.pending := by
  intro line
  obtain ⟨⟨other, due⟩, delayed, same⟩ := List.any_eq_true.mp armed
  obtain rfl : other = id := by simpa using same
  obtain ⟨standing, stands⟩ := sound.stands other
  obtain ⟨record, rfl⟩ := stands.mem_pending.mp line
  obtain ⟨again, delayed⟩ := stands.mem_delayed.mp delayed
  cases delayed

end Sound

section Move

variable {around : Surroundings Time σ} {operation : Operation} {queue next : Queue Time}
  {signals : List (Signal Time)} {events : List Event}

theorem events_of_start (runs : Bool) (id : JobId) (workflow : Definition) (first second : Event) :
    ((if runs then [.launched id workflow] else []) ++ [.told first, .told second] :
      List (Signal Time)).filterMap Signal.event? = [first] ++ [second] := by
  cases runs <;> rfl

/-- Every move keeps the line in its order. -/
theorem Move.dealt (move : Move around operation queue signals next) (sound : Sound queue)
    {front back : List Ticket} (dealt : Dealt events queue.pending front back) :
    ∃ front back, Dealt (events ++ signals.filterMap Signal.event?) next.pending front back := by
  have apart : ∀ {event : Event} {job : Job} {id : JobId}, event.job? = some job → job.id = id →
      id ∉ queue.pending → ∀ other ∈ queue.pending, event.concerns other = false := by
    intro event job id subject own outside other inside
    rw [concerns_iff subject own]
    exact beq_false_of_ne fun same => outside (same ▸ inside)
  cases move with
  | registered | unregistered => exact ⟨front, back, dealt.aside rfl rfl fun _ _ => rfl⟩
  | @enqueued _ _ name context =>
      have outside : queue.issued ∉ queue.pending := by
        intro line
        obtain ⟨job, waiting⟩ := (sound.unissued _ (Nat.le_refl _)).mem_pending.mp line
        cases waiting
      exact ⟨_, _, dealt.enter rfl rfl (apart rfl rfl outside)⟩
  | @started _ _ id rest workflow job line room listed waiting known timed going =>
      have own : job.id = id := job?_id listed
      rw [line] at dealt
      have later := (List.nodup_cons.mp (line ▸ sound.pending_nodup)).1
      have subject : ∀ other, (Event.started (job.start around.stamp)).concerns other =
          (id == other) := concerns_iff rfl own
      have starts : (Event.started (job.start around.stamp)).starter? = some id :=
        congrArg some own
      obtain ⟨front, back, popped⟩ :=
        dealt.pop later (.inl rfl) rfl (starts.trans (if_pos rfl).symm) subject
      have behind : ∀ other ∈ rest,
          (Event.execute (job.start around.stamp) workflow).concerns other = false := by
        intro other inside
        exact (subject other).trans (beq_false_of_ne fun same => later (same ▸ inside))
      rw [events_of_start, ← List.append_assoc]
      exact ⟨front, back, popped.aside rfl rfl behind⟩
  | @refused _ _ id rest error job line listed waiting reason =>
      have own : job.id = id := job?_id listed
      rw [line] at dealt
      have later := (List.nodup_cons.mp (line ▸ sound.pending_nodup)).1
      exact dealt.pop later (.inr rfl) rfl rfl (concerns_iff rfl own)
  | skipped line gone =>
      obtain ⟨standing, stands⟩ := sound.stands _
      exact (stands.not_skipped line gone).elim
  | @cancelledWaiting _ id job listed waiting =>
      have own : job.id = id := job?_id listed
      have left : queue.pending.erase id = queue.pending.filter (· != id) :=
        sound.pending_nodup.erase_eq_filter id
      have subject : ∀ other, (Event.cancelled (callOff around.stamp job)).concerns other =
          (id == other) := concerns_iff rfl own
      exact ⟨_, _, left ▸ dealt.leave rfl rfl rfl subject⟩
  | @cancelledRunning _ id job listed running | @succeeded _ id _ job listed running
  | @gaveUp _ id _ job listed running =>
      have own : job.id = id := job?_id listed
      have outside := sound.not_mem_pending listed (by simp [running])
      exact ⟨front, back, dealt.aside rfl rfl (apart rfl own outside)⟩
  | @renewed _ id job listed failed =>
      have own : job.id = id := job?_id listed
      have outside := sound.not_mem_pending listed (by simp [failed])
      exact ⟨_, _, dealt.enter (congrArg some own) rfl (apart rfl own outside)⟩
  | @readmitted _ id job armed listed =>
      have own : job.id = id := job?_id listed
      have outside := sound.not_mem_pending_of_armed armed
      exact ⟨_, _, dealt.enter (congrArg some own) rfl (apart rfl own outside)⟩
  | cleaned cutoff signals told =>
      exact ⟨front, back, dealt.cleaned told⟩
  | released | discarded | postponed | undelayable | unminded | forgotten | stopped =>
      exact ⟨front, back, (List.append_nil events).symm ▸ dealt⟩

end Move

section Watch

theorem map_event_noted (timed : Bool) (queue : Queue Time) (signals : List (Signal Time)) :
    (signals.flatMap (noted timed queue)).map Told.event = signals.filterMap Signal.event? := by
  induction signals with
  | nil => rfl
  | cons signal rest ih =>
      rw [List.flatMap_cons, List.map_append, ih]
      cases signal <;> rfl

/-- The line is in order after every run. -/
theorem watch_dealt (config : QueueConfig) (uses : List (Use Time σ)) :
    ∃ front back, Dealt ((watch config uses).2.map Told.event) (watch config uses).1.pending front
      back := by
  let InOrder (scene : Scene Time (List (Told Time))) : Prop :=
    ∃ front back, Dealt (scene.2.map Told.event) scene.1.pending front back
  have kept : Sound (watch config uses).1 ∧ InOrder (watch config uses) := by
    apply run_preserves fun scene => Sound scene.1 ∧ InOrder scene
    · rintro use member scene ⟨sound, inOrder⟩
      obtain ⟨use, -, rfl⟩ := List.mem_map.mp member
      refine sound.preserves InOrder use.around.watched_quiet ?_ inOrder
      rintro queue signals next log sound move ⟨front, back, dealt⟩
      show ∃ front back, Dealt ((signals.foldl (use.around.watched.receive next) log).map Told.event)
        next.pending front back
      rw [watched_foldl, List.map_append, map_event_noted]
      exact move.dealt sound dealt
    · exact ⟨sound_empty config, [], [], rfl, nofun, nofun, rfl, rfl⟩
  exact kept.2

/-- A job is told to be put into the line first of all, and never again. -/
def BornOnce (log : List (Told Time)) : Prop :=
  ∃ first rest, log = first :: rest ∧ ∀ told ∈ rest, told.event.topic ≠ .enqueued

theorem BornOnce.append {log : List (Told Time)} (born : BornOnce log) {told : Told Time}
    (other : told.event.topic ≠ .enqueued) : BornOnce (log ++ [told]) := by
  obtain ⟨first, rest, rfl, once⟩ := born
  refine ⟨first, rest ++ [told], rfl, fun later member => ?_⟩
  rcases List.mem_append.mp member with member | member
  · exact once later member
  · exact List.mem_singleton.mp member ▸ other

theorem Life.of_unborn {log : List (Told Time)} (life : Life log .unborn) : log = [] := by
  cases life
  rfl

theorem Life.bornOnce {log : List (Told Time)} {phase : Phase} (life : Life log phase)
    (born : phase ≠ .unborn) : BornOnce log := by
  induction life with
  | unborn => exact (born rfl).elim
  | enqueued before =>
      cases before
      exact ⟨_, [], rfl, by simp⟩
  | started _ event ih | execute _ event ih | readmitted _ event ih | completed _ event ih
  | failed _ event ih | retried _ event ih | refused _ event _ ih =>
      exact (ih (by simp)).append (by simp [event, Event.topic])
  | relieved _ ih => exact ih (by simp)
  | cancelled _ going event ih =>
      have before := ih (by rcases going with rfl | rfl | rfl <;> simp)
      exact before.append (by simp [event, Event.topic])

/-- Nothing is told of a job before it is told to be put into the line. -/
theorem unconcerned_before_enqueued (config : QueueConfig) (uses : List (Use Time σ)) {job : Job}
    {before since : List Event}
    (told : (watch config uses).2.map Told.event = before ++ .enqueued job :: since) :
    ∀ event ∈ before, event.concerns job.id = false := by
  obtain ⟨early, late, split, rfl, rest⟩ := List.map_eq_append_iff.mp told
  obtain ⟨entry, late, rfl, enqueued, rfl⟩ := List.map_eq_cons_iff.mp rest
  have own : journalOf job.id (watch config uses).2 =
      journalOf job.id early ++ entry :: journalOf job.id late := by
    simp [journalOf, split, enqueued, Event.job?]
  have life : ∃ phase, Life (journalOf job.id (watch config uses).2) phase := by
    obtain ⟨standing, -, lives⟩ := watch_lives config uses job.id
    cases standing with
    | none => exact ⟨_, lives.2.choose_spec.1⟩
    | some => exact ⟨_, lives.2⟩
  obtain ⟨phase, life⟩ := life
  obtain ⟨first, rest, same, once⟩ := life.bornOnce (by
    rintro rfl
    simp [life.of_unborn] at own)
  -- Were something told of the job before, it would be told twice to be put into the line.
  have silent : journalOf job.id early = [] := by
    cases earlier : journalOf job.id early with
    | nil => rfl
    | cons told others =>
        rw [own, earlier] at same
        obtain ⟨-, rfl⟩ := List.cons.inj same
        exact (once entry (by simp) (by simp [enqueued, Event.topic])).elim
  intro event member
  obtain ⟨told, listed, rfl⟩ := List.mem_map.mp member
  exact Bool.eq_false_iff.mpr (List.filter_eq_nil_iff.mp silent told listed)

end Watch

/-- A line is served in turn, as far as what was told shows: `order` is the sequence of all starts,
and then of the jobs still in line. -/
structure InTurn (events : List Event) (line : List JobId) : Prop where
  fates : ∀ ticket ∈ tickets events,
    ticket.next ∈ [none, some .started, some .cancelled, some .failed]
  order : events.filterMap Event.starter? ++ line =
    ((tickets events).filter fun ticket => !ticket.withdrawn).map Ticket.id
  turns : (tickets events).Pairwise fun first second =>
    second.next = some .started ∨ second.next = some .failed → first.next ≠ none
  /-- Of two jobs the one that was put into the line first is not kept waiting by the other one. -/
  jobs : ∀ past first between second since,
    events = past ++ .enqueued first :: (between ++ .enqueued second :: since) →
      second.id ∈ events.filterMap Event.starter? →
        ∃ event, (between ++ .enqueued second :: since).find? (·.concerns first.id) = some event ∧
          event.topic ∈ [.started, .cancelled, .failed]

theorem tickets_append (first second : List Event) :
    ∃ early, tickets (first ++ second) = early ++ tickets second ∧
      early.map Ticket.id = first.filterMap Event.entrant? := by
  induction first with
  | nil => exact ⟨[], rfl, rfl⟩
  | cons event rest ih =>
      obtain ⟨early, split, ids⟩ := ih
      rw [List.cons_append, tickets]
      cases enters : event.entrant? with
      | none => exact ⟨early, split, by simp [enters, ids]⟩
      | some id => exact ⟨_ :: early, by rw [split]; rfl, by simp [enters, ids]⟩

section InTurn

variable {events : List Event} {line : List JobId} {front back : List Ticket}

theorem Dealt.fates (dealt : Dealt events line front back) :
    ∀ ticket ∈ tickets events,
      ticket.next ∈ [none, some .started, some .cancelled, some .failed] := by
  intro ticket member
  rcases List.mem_append.mp (dealt.split ▸ member) with member | member
  · exact List.mem_cons_of_mem _ (dealt.settled ticket member)
  · rcases dealt.ahead ticket member with waiting | cancelled
    · simp [waiting]
    · simp [cancelled]

theorem Dealt.order (dealt : Dealt events line front back) :
    events.filterMap Event.starter? ++ line =
      ((tickets events).filter fun ticket => !ticket.withdrawn).map Ticket.id := by
  have served : ∀ ticket ∈ front,
      (!ticket.withdrawn) = decide (ticket.next = some .started) := by
    intro ticket member
    have settled := dealt.settled ticket member
    simp only [List.mem_cons, List.not_mem_nil, or_false] at settled
    rcases settled with next | next | next <;> simp [Ticket.withdrawn, next]
  have unserved : ∀ ticket ∈ back, (!ticket.withdrawn) = decide (ticket.next = none) := by
    intro ticket member
    rcases dealt.ahead ticket member with next | next <;> simp [Ticket.withdrawn, next]
  rw [dealt.split, List.filter_append, List.map_append, List.filter_congr served,
    List.filter_congr unserved, ← dealt.started, dealt.line, waiting]

theorem Dealt.turns (dealt : Dealt events line front back) :
    (tickets events).Pairwise fun first second =>
      second.next = some .started ∨ second.next = some .failed → first.next ≠ none := by
  have unserved : ∀ ticket ∈ back, ¬ (ticket.next = some .started ∨ ticket.next = some .failed) := by
    intro ticket member
    rcases dealt.ahead ticket member with next | next <;> simp [next]
  rw [dealt.split, List.pairwise_append]
  refine ⟨?_, ?_, fun first member _ _ _ => dealt.settled_ne_none member⟩
  · exact List.pairwise_of_forall_mem_list fun first member _ _ _ => dealt.settled_ne_none member
  · exact List.pairwise_of_forall_mem_list fun _ _ second member served =>
      (unserved second member served).elim

theorem Dealt.ticket_of_starter (dealt : Dealt events line front back) {id : JobId}
    (starts : id ∈ events.filterMap Event.starter?) :
    ∃ ticket ∈ tickets events, ticket.id = id ∧ ticket.next = some .started := by
  rw [dealt.started] at starts
  obtain ⟨ticket, member, own⟩ := List.mem_map.mp starts
  obtain ⟨listed, next⟩ := List.mem_filter.mp member
  exact ⟨ticket, dealt.split ▸ List.mem_append_left _ listed, own, by simpa using next⟩

/-- Where nothing was told of the second job before it was put into the line, its start is that of a
later entry than the first one's. -/
theorem Dealt.jobs (dealt : Dealt events line front back) {past between since : List Event}
    {first second : Job}
    (split : events = past ++ .enqueued first :: (between ++ .enqueued second :: since))
    (unconcerned : ∀ event ∈ past ++ .enqueued first :: between,
      event.concerns second.id = false)
    (starts : second.id ∈ events.filterMap Event.starter?) :
    ∃ event, (between ++ .enqueued second :: since).find? (·.concerns first.id) = some event ∧
      event.topic ∈ [.started, .cancelled, .failed] := by
  obtain ⟨ticket, listed, own, started⟩ := dealt.ticket_of_starter starts
  have absent : second.id ∉ (past ++ .enqueued first :: between).filterMap Event.entrant? := by
    intro member
    obtain ⟨event, earlier, enters⟩ := List.mem_filterMap.mp member
    have told := Event.concerns_of_entrant enters
    simp [unconcerned event earlier] at told
  obtain ⟨early, before, early_ids⟩ :=
    tickets_append past (.enqueued first :: (between ++ .enqueued second :: since))
  obtain ⟨middle, after, middle_ids⟩ := tickets_append between (.enqueued second :: since)
  have whole : tickets events = early ++
      ⟨first.id, ((between ++ .enqueued second :: since).find? (·.concerns first.id)).map
        Event.topic⟩ :: (middle ++ tickets (.enqueued second :: since)) := by
    rw [split, before, ← after]
    rfl
  have later : ticket ∈ tickets (.enqueued second :: since) := by
    have outside : second.id ∉ early.map Ticket.id ++ first.id :: middle.map Ticket.id := by
      rw [early_ids, middle_ids]
      simpa [Event.entrant?] using absent
    rw [whole, List.mem_append, List.mem_cons, List.mem_append] at listed
    rw [List.mem_append, List.mem_cons, ← own] at outside
    rcases listed with inEarly | same | inMiddle | inLater
    · exact (outside (.inl (List.mem_map_of_mem inEarly))).elim
    · exact (outside (.inr (.inl (congrArg Ticket.id same)))).elim
    · exact (outside (.inr (.inr (List.mem_map_of_mem inMiddle)))).elim
    · exact inLater
  have turns := dealt.turns
  rw [whole, List.pairwise_append, List.pairwise_cons] at turns
  have settled := turns.2.1.1 ticket (List.mem_append_right _ later) (.inl started)
  have fate := dealt.fates _ (whole ▸ List.mem_append_right early List.mem_cons_self)
  cases found : (between ++ .enqueued second :: since).find? (·.concerns first.id) with
  | none => simp [found] at settled
  | some event =>
      refine ⟨event, rfl, ?_⟩
      simpa [found] using fate

end InTurn

/-- After every run with listeners that leave the queue alone, the line is served in turn. -/
theorem watch_in_turn (config : QueueConfig) (uses : List (Use Time σ)) :
    InTurn ((watch config uses).2.map Told.event) (watch config uses).1.pending := by
  obtain ⟨front, back, dealt⟩ := watch_dealt config uses
  refine ⟨dealt.fates, dealt.order, dealt.turns, fun past first between second since split => ?_⟩
  have told : (watch config uses).2.map Told.event =
      (past ++ .enqueued first :: between) ++ .enqueued second :: since := by
    rw [split, List.append_assoc]
    rfl
  exact dealt.jobs split (unconcerned_before_enqueued config uses told)

end Queue

end Orchestra
