/-!
Programs that talk to their surroundings.

A program is finished with a result, or asks a question and goes on with the answer. Questions and
the answers that fit them form an interface. What the answers are is decided elsewhere: by a handler
with a state, or by a program over another interface.
-/

namespace Orchestra

/-- The questions of a program, and the answers to each. -/
structure Interface where
  Call : Type
  Reply : Call → Type

inductive Program (I : Interface) (α : Type) where
  | done (result : α)
  | ask (call : I.Call) (next : I.Reply call → Program I α)

namespace Program

variable {I J : Interface} {α β σ : Type}

/-- A single question. -/
def call (question : I.Call) : Program I (I.Reply question) :=
  .ask question .done

def bind : Program I α → (α → Program I β) → Program I β
  | .done result, f => f result
  | .ask question next, f => .ask question fun answer => (next answer).bind f

def map (f : α → β) (program : Program I α) : Program I β :=
  program.bind fun result => .done (f result)

instance : Monad (Program I) where
  pure := .done
  bind := bind

/-- The result of a program and the state left behind, where a handler answers from a state. -/
def run (handler : (question : I.Call) → σ → I.Reply question × σ) : Program I α → σ → α × σ
  | .done result, state => (result, state)
  | .ask question next, state =>
    let (answer, state) := handler question state
    (next answer).run handler state

/-- A program over another interface, where every question becomes a program. -/
def lower (translate : (question : I.Call) → Program J (I.Reply question)) :
    Program I α → Program J α
  | .done result => .done result
  | .ask question next => (translate question).bind fun answer => (next answer).lower translate

@[simp] theorem bind_done (result : α) (f : α → Program I β) :
    (Program.done result).bind f = f result := rfl

@[simp] theorem bind_ask (question : I.Call) (next : I.Reply question → Program I α)
    (f : α → Program I β) :
    (Program.ask question next).bind f = .ask question fun answer => (next answer).bind f := rfl

theorem bind_assoc {γ : Type} (program : Program I α) (f : α → Program I β)
    (g : β → Program I γ) : (program.bind f).bind g = program.bind fun result => (f result).bind g := by
  induction program with
  | done result => rfl
  | ask question next later =>
    simp only [bind_ask]
    congr 1
    funext answer
    exact later answer

theorem map_map {γ : Type} (program : Program I α) (f : α → β) (g : β → γ) :
    (program.map f).map g = program.map (g ∘ f) := by
  unfold map
  rw [bind_assoc]
  rfl

theorem map_bind {γ : Type} (program : Program I α) (f : α → β) (g : β → Program I γ) :
    (program.map f).bind g = program.bind (g ∘ f) := by
  unfold map
  rw [bind_assoc]
  rfl

theorem bind_map {γ : Type} (program : Program I α) (f : α → Program I β) (g : β → γ) :
    (program.bind f).map g = program.bind fun result => (f result).map g := by
  unfold map
  rw [bind_assoc]

theorem bind_done_right (program : Program I α) : program.bind .done = program := by
  induction program with
  | done result => rfl
  | ask question next later =>
    simp only [bind_ask]
    congr 1
    funext answer
    exact later answer

theorem run_bind (handler : (question : I.Call) → σ → I.Reply question × σ)
    (program : Program I α) (f : α → Program I β) (state : σ) :
    (program.bind f).run handler state =
      (f (program.run handler state).1).run handler (program.run handler state).2 := by
  induction program generalizing state with
  | done result => rfl
  | ask question next later => exact later _ _

end Program

end Orchestra
