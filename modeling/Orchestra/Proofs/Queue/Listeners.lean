import Mathlib.Tactic.Choose
import Orchestra.Proofs.Queue.Passage

/-!
Listeners that use the queue.

Whenever a listener is told of an event it may use the queue, and the listeners of these uses may do
so in their turn. What every move preserves is preserved all the same, since the operation that told
of the event goes on with a queue that was only moved further.
-/

namespace Orchestra.Queue

variable {Time σ : Type}

/-- What a listener does: it uses the queue, or it changes what is its own. -/
inductive Deed (Time σ : Type) where
  | uses (use : Use Time σ)
  | owns (change : σ → σ)

def Deed.perform (scene : Scene Time σ) : Deed Time σ → Scene Time σ
  | .uses use => use.operation.apply use.around scene
  | .owns change => (scene.1, change scene.2)

/-- Listeners change the queue by no other means than operations of the allowed kind, and neither do
the listeners of these. -/
inductive Busy (allowed : Operation → Prop) : Surroundings Time σ → Prop where
  | mk {around : Surroundings Time σ} (deeds : Event → Scene Time σ → List (Deed Time σ))
      (hears : ∀ event scene,
        around.hear event scene = (deeds event scene).foldl Deed.perform scene)
      (allows : ∀ event scene use, .uses use ∈ deeds event scene → allowed use.operation)
      (busy : ∀ event scene use, .uses use ∈ deeds event scene → Busy allowed use.around) :
      Busy allowed around

/-- The operation is of the allowed kind, and so is all that its listeners do. -/
structure Use.Permitted (allowed : Operation → Prop) (use : Use Time σ) : Prop where
  allows : allowed use.operation
  busy : Busy allowed use.around

theorem Busy.of_deeds {allowed : Operation → Prop} {around : Surroundings Time σ}
    (hears : ∀ event scene, ∃ deeds : List (Deed Time σ),
      around.hear event scene = deeds.foldl Deed.perform scene ∧
        ∀ use, .uses use ∈ deeds → use.Permitted allowed) : Busy allowed around := by
  choose deeds hears permitted using hears
  refine .mk deeds hears (fun event scene use member => ?_) fun event scene use member => ?_
  · exact (permitted event scene use member).allows
  · exact (permitted event scene use member).busy

/-- Listeners that leave the queue alone are busy with what is their own. -/
theorem Quiet.busy {around : Surroundings Time σ}
    (quiet : around.Quiet) (allowed : Operation → Prop) : Busy allowed around := by
  refine .of_deeds fun event scene => ⟨[.owns fun _ => (around.hear event scene).2], ?_, by simp⟩
  have kept : (around.hear event scene).1 = scene.1 := quiet event scene.1 scene.2
  exact Prod.ext kept rfl

section Moves

variable {around : Surroundings Time σ} {operation : Operation}

theorem hold_deliver {Holds : Queue Time → Prop}
    (hears : ∀ event scene, Holds scene.1 → Holds (around.hear event scene).1)
    (signals : List (Signal Time)) {scene : Scene Time σ} (holds : Holds scene.1) :
    Holds (signals.foldl around.deliver scene).1 := by
  induction signals generalizing scene with
  | nil => exact holds
  | cons signal rest ih =>
      apply ih
      cases signal with
      | told event => exact hears event scene holds
      | launched | minded => exact holds

theorem hold_tell {Holds : Queue Time → Prop}
    (hears : ∀ event scene, Holds scene.1 → Holds (around.hear event scene).1)
    (event : Job → Event) (id : JobId) {scene : Scene Time σ} (holds : Holds scene.1) :
    Holds (scene.tell around event id).1 := by
  unfold Scene.tell
  split
  · exact hears _ scene holds
  · exact holds

/-- What every move and all listeners preserve is preserved by an operation. -/
theorem Acts.hold (Holds : Queue Time → Prop)
    (moves : ∀ {queue signals next}, Move around operation queue signals next → Holds queue →
      Holds next)
    (hears : ∀ event scene, Holds scene.1 → Holds (around.hear event scene).1)
    {first last : Scene Time σ} (acts : Acts around operation first last) (holds : Holds first.1) :
    Holds last.1 := by
  apply acts.preserves (fun scene => Holds scene.1)
  · intro queue signals next state move holds
    exact hold_deliver hears signals (moves move holds)
  · intro queue id rest workflow job state line room listed waiting known timed going holds
    unfold Queue.start
    exact hold_tell hears _ _ (hold_tell hears _ _
      (moves (.started line room listed waiting known timed going) holds))
  · exact holds

end Moves

section Busy

variable {allowed : Operation → Prop} (Holds : Queue Time → Prop)
  (moves : ∀ {around : Surroundings Time σ} {operation queue signals next}, allowed operation →
    Sound queue → Move around operation queue signals next → Holds queue → Holds next)

include moves

/-- What every move of an allowed operation preserves is preserved by allowed operations. -/
theorem Busy.apply {around : Surroundings Time σ} (busy : Busy allowed around)
    {operation : Operation} (allows : allowed operation) {scene : Scene Time σ}
    (sound : Sound scene.1) (holds : Holds scene.1) :
    Sound (operation.apply around scene).1 ∧ Holds (operation.apply around scene).1 := by
  induction busy generalizing operation scene with
  | @mk around deeds hears permitted _ ih =>
      have heard : ∀ event (scene : Scene Time σ), Sound scene.1 ∧ Holds scene.1 →
          Sound (around.hear event scene).1 ∧ Holds (around.hear event scene).1 := by
        intro event scene before
        rw [hears]
        apply foldl_preserves Deed.perform (fun scene => Sound scene.1 ∧ Holds scene.1) ?_ before
        rintro (use | change) member last ⟨sound, holds⟩
        · exact ih event scene use member (permitted event scene use member) sound holds
        · exact ⟨sound, holds⟩
      refine Acts.hold (fun queue => Sound queue ∧ Holds queue) ?_ heard
        (operation.acts sound.fresh) ⟨sound, holds⟩
      rintro queue signals next move ⟨sound, holds⟩
      exact ⟨sound.move move, moves allows sound move holds⟩

/-- What every move of an allowed operation preserves is preserved by runs of such operations. -/
theorem run_holds {uses : List (Use Time σ)} (permitted : ∀ use ∈ uses, use.Permitted allowed)
    {scene : Scene Time σ} (sound : Sound scene.1) (holds : Holds scene.1) :
    Sound (run uses scene).1 ∧ Holds (run uses scene).1 := by
  apply run_preserves (fun scene => Sound scene.1 ∧ Holds scene.1)
  · rintro use member scene ⟨sound, holds⟩
    have permit := permitted use member
    exact permit.busy.apply Holds moves permit.allows sound holds
  · exact ⟨sound, holds⟩

end Busy

end Orchestra.Queue
