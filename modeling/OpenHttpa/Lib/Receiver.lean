import Mathlib.Order.Basic

/-!
# Receivers of numbered frames

A machine answers one event after the other. An event leaves no trace if all later answers are those
the machine would have given without it. A receiver of numbered frames remembers the last number: a
frame without a readable number or with a number that is not above the last is refused, and every other
frame moves the last number to its own, whether it can be opened or not. Where a frame that opens can
have any number, a frame leaves no trace exactly if it was refused for its number.
-/
namespace OpenHttpa

variable {σ τ ε α φ ν : Type*}

/-- The answers of a run. -/
def answers (step : σ → ε → α × σ) : σ → List ε → List α
  | _, [] => []
  | state, event :: rest => (step state event).1 :: answers step (step state event).2 rest

/-- The event changes no later answer. -/
def Traceless (step : σ → ε → α × σ) (state : σ) (event : ε) : Prop :=
  ∀ later, answers step (step state event).2 later = answers step state later

variable {step : σ → ε → α × σ} {other : τ → ε → α × τ} {image : τ → σ}

variable (steps : ∀ state event, step (image state) event =
  ((other state event).1, image (other state event).2))
include steps

theorem answers_of_image (state : τ) (events : List ε) :
    answers step (image state) events = answers other state events := by
  induction events generalizing state with
  | nil => rfl
  | cons event rest ih =>
    rw [answers, answers, steps]
    exact congrArg _ (ih _)

theorem traceless_of_image (state : τ) (event : ε) :
    Traceless step (image state) event ↔ Traceless other state event := by
  unfold Traceless
  rw [steps]
  simp only [answers_of_image steps]

omit steps

/-- What a receiver of numbered frames sees in a frame. -/
structure Receiver (φ ν : Type*) where
  number : φ → Option ν
  /-- Whether it is delivered once its number is taken. -/
  delivers : φ → Bool

namespace Receiver

variable [LE ν] [DecidableLE ν]

def receive (receiver : Receiver φ ν) (last : ν) (frame : φ) : Bool × ν :=
  match receiver.number frame with
  | none => (false, last)
  | some number => if number ≤ last then (false, last) else (receiver.delivers frame, number)

/-- The frame has no number above the last. -/
def Refuses (receiver : Receiver φ ν) (last : ν) (frame : φ) : Prop :=
  ∀ number, receiver.number frame = some number → number ≤ last

variable {receiver : Receiver φ ν} {last : ν} {frame : φ}

theorem receive_refused
    (refused : receiver.Refuses last frame) : receiver.receive last frame = (false, last) := by
  unfold receive
  split
  · rfl
  · next number read => exact if_pos (refused number read)

theorem receive_numbered {number : ν}
    (read : receiver.number frame = some number) (above : ¬ number ≤ last) :
    receiver.receive last frame = (receiver.delivers frame, number) := by
  unfold receive
  rw [read]
  exact if_neg above

variable [Std.IsPreorder ν]

theorem traceless_iff (genuine : ∀ number, ∃ frame, receiver.number frame = some number ∧
      receiver.delivers frame = true) (last : ν) (frame : φ) :
    Traceless receiver.receive last frame ↔ receiver.Refuses last frame := by
  constructor
  · intro traceless number read
    by_contra above
    -- The genuine frame with the same number tells the two states apart.
    obtain ⟨other, otherRead, delivers⟩ := genuine number
    have told := traceless [other]
    have before : receiver.receive last other = (true, number) := by
      rw [receive_numbered otherRead above, delivers]
    have after : receiver.receive number other = (false, number) := by
      apply receive_refused
      intro again same
      rw [otherRead] at same
      cases same
      exact Std.le_refl number
    rw [receive_numbered read above] at told
    simp only [answers, before, after] at told
    cases told
  · intro refused later
    rw [receive_refused refused]

end Receiver

end OpenHttpa
