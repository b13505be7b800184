import Orchestra.Program

/-!
Talks: the questions that a program asks and the answers that it gets, in their order.

The answers are open, so that a talk stands for every way in which the surroundings may behave.
-/

namespace Orchestra

/-- A question and the answer to it. -/
structure Turn (I : Interface) where
  call : I.Call
  reply : I.Reply call

variable {I : Interface} {α β : Type}

/-- A program may hold a talk and finish with a result. -/
inductive Talks : Program I α → List (Turn I) → α → Prop where
  | done (result : α) : Talks (.done result) [] result
  | ask {call next log result} (reply : I.Reply call) (later : Talks (next reply) log result) :
      Talks (.ask call next) (⟨call, reply⟩ :: log) result

@[simp] theorem talks_done_iff {result last : α} {log : List (Turn I)} :
    Talks (.done result) log last ↔ log = [] ∧ last = result := by
  constructor
  · rintro ⟨⟩
    exact ⟨rfl, rfl⟩
  · rintro ⟨rfl, rfl⟩
    exact .done _

theorem talks_ask_iff {call : I.Call} {next : I.Reply call → Program I α} {log : List (Turn I)}
    {result : α} :
    Talks (.ask call next) log result ↔
      ∃ reply rest, log = ⟨call, reply⟩ :: rest ∧ Talks (next reply) rest result := by
  constructor
  · intro talks
    cases talks with
    | ask reply later => exact ⟨reply, _, rfl, later⟩
  · rintro ⟨reply, rest, rfl, later⟩
    exact .ask reply later

/-- One program after the other holds the talk of the first and then that of the second. -/
theorem talks_bind_iff {program : Program I α} {f : α → Program I β} {log : List (Turn I)}
    {last : β} :
    Talks (program.bind f) log last ↔
      ∃ first middle second, log = first ++ second ∧ Talks program first middle ∧
        Talks (f middle) second last := by
  induction program generalizing log with
  | done result =>
      constructor
      · intro talks
        exact ⟨[], result, log, rfl, .done result, talks⟩
      · rintro ⟨_, _, second, rfl, ⟨⟩, after⟩
        exact after
  | ask call next ih =>
      simp only [Program.bind_ask, talks_ask_iff]
      constructor
      · rintro ⟨reply, rest, rfl, later⟩
        obtain ⟨first, middle, second, rfl, before, after⟩ := (ih reply).mp later
        exact ⟨⟨call, reply⟩ :: first, middle, second, rfl, ⟨reply, first, rfl, before⟩, after⟩
      · rintro ⟨_, middle, second, rfl, ⟨reply, first, rfl, before⟩, after⟩
        exact ⟨reply, first ++ second, rfl, (ih reply).mpr ⟨first, middle, second, rfl, before, after⟩⟩

/-- What a program leaves to do after some turns. -/
inductive Leaves (program : Program I α) : List (Turn I) → Program I α → Prop where
  | all : Leaves program [] program
  | turn {past call next} (before : Leaves program past (.ask call next)) (reply : I.Reply call) :
      Leaves program (past ++ [⟨call, reply⟩]) (next reply)

/-- A talk of what is left goes on with the talk so far. -/
theorem Leaves.talks {program rest : Program I α} {past log : List (Turn I)} {result : α}
    (leaves : Leaves program past rest) (talks : Talks rest log result) :
    Talks program (past ++ log) result := by
  induction leaves generalizing log with
  | all => exact talks
  | turn _ reply ih =>
      rw [List.append_assoc]
      exact ih (.ask reply talks)

/-- The talk of a program with a handler. -/
def Program.talk {σ : Type} (handler : (call : I.Call) → σ → I.Reply call × σ) :
    Program I α → σ → List (Turn I)
  | .done _, _ => []
  | .ask call next, state =>
    ⟨call, (handler call state).1⟩ ::
      (next (handler call state).1).talk handler (handler call state).2

/-- Whatever answers it, a program holds a talk and comes to its end. -/
theorem talks_talk {σ : Type} (handler : (call : I.Call) → σ → I.Reply call × σ)
    (program : Program I α) (state : σ) :
    Talks program (program.talk handler state) (program.run handler state).1 := by
  induction program generalizing state with
  | done result => exact .done result
  | ask call next ih => exact .ask _ (ih _ _)

theorem forall_mem_talk {σ : Type} {P : Turn I → Prop}
    {handler : (call : I.Call) → σ → I.Reply call × σ}
    (answers : ∀ call state, P ⟨call, (handler call state).1⟩) (program : Program I α) (state : σ) :
    ∀ turn ∈ program.talk handler state, P turn := by
  induction program generalizing state with
  | done => simp [Program.talk]
  | ask call next ih => exact List.forall_mem_cons.mpr ⟨answers call state, ih _ _⟩

end Orchestra

/-!
What holds of all questions of a program, whatever the answers to them are.
-/

namespace Orchestra.Program

variable {I : Interface} {α β : Type} {asks : I.Call → Prop} {ends : α → Prop}

/-- Whatever the answers are, every question of a program and its result are as they should be. -/
def Always (asks : I.Call → Prop) (ends : α → Prop) : Program I α → Prop
  | .done result => ends result
  | .ask call next => asks call ∧ ∀ reply, (next reply).Always asks ends

theorem Always.mono {program : Program I α} {others : I.Call → Prop} {finishes : α → Prop}
    (always : program.Always asks ends) (calls : ∀ call, asks call → others call)
    (results : ∀ result, ends result → finishes result) : program.Always others finishes := by
  induction program with
  | done result => exact results result always
  | ask call next ih => exact ⟨calls call always.1, fun reply => ih reply (always.2 reply)⟩

theorem Always.bind {program : Program I α} {f : α → Program I β} {finishes : β → Prop}
    (always : program.Always asks ends)
    (after : ∀ result, ends result → (f result).Always asks finishes) :
    (program.bind f).Always asks finishes := by
  induction program with
  | done result => exact after result always
  | ask call next ih => exact ⟨always.1, fun reply => ih reply (always.2 reply)⟩

/-- What goes on from a result needs to be known only for the results that there are. -/
theorem Always.bind_congr {program : Program I α} {f g : α → Program I β}
    (always : program.Always asks ends) (same : ∀ result, ends result → f result = g result) :
    program.bind f = program.bind g := by
  induction program with
  | done result => exact same result always
  | ask call next ih =>
      rw [bind_ask, bind_ask]
      congr 1
      funext reply
      exact ih reply (always.2 reply)

theorem Always.map {program : Program I α} {f : α → β} {finishes : β → Prop}
    (always : program.Always asks ends) (after : ∀ result, ends result → finishes (f result)) :
    (program.map f).Always asks finishes :=
  always.bind after

/-- What always holds, holds of every talk. -/
theorem Always.talks {program : Program I α} {log : List (Turn I)} {result : α}
    (always : program.Always asks ends) (talks : Talks program log result) :
    (∀ turn ∈ log, asks turn.call) ∧ ends result := by
  induction talks with
  | done result => exact ⟨by simp, always⟩
  | ask reply later ih =>
      obtain ⟨calls, results⟩ := ih (always.2 reply)
      exact ⟨List.forall_mem_cons.mpr ⟨always.1, calls⟩, results⟩

/-- What always holds, holds of what is left. -/
theorem Always.leaves {program rest : Program I α} {past : List (Turn I)}
    (always : program.Always asks ends) (leaves : Leaves program past rest) :
    rest.Always asks ends := by
  induction leaves with
  | all => exact always
  | turn _ reply ih => exact ih.2 reply

end Orchestra.Program
