import Mathlib.Logic.Basic

/-!
# Checks that can fail

A check returns a verdict or fails. `Settles` says of a check exactly when it fails and, where it does
not, exactly when it accepts. The rules follow the way checks are put together: verdicts and refusals, a
check that is made only if another accepts, and another form of the two conditions.
-/
namespace OpenHttpa

variable {ε : Type*}

structure Settles (check : Except ε Bool) (fails accepts : Prop) : Prop where
  failed : fails → ∃ failure, check = .error failure
  decided : ¬ fails → ∃ verdict, check = .ok verdict ∧ (verdict = true ↔ accepts)

namespace Settles

variable {check next : Except ε Bool} {fails accepts failsNext acceptsNext : Prop}

theorem congr (settles : Settles check fails accepts) (first : fails ↔ failsNext)
    (second : ¬ fails → (accepts ↔ acceptsNext)) : Settles check failsNext acceptsNext where
  failed holds := settles.failed (first.mpr holds)
  decided calm := by
    have same : ¬ fails := fun holds => calm (first.mp holds)
    obtain ⟨verdict, returned, exact⟩ := settles.decided same
    exact ⟨verdict, returned, exact.trans (second same)⟩

theorem verdict (value : Bool) : Settles (.ok value : Except ε Bool) False (value = true) where
  failed := False.elim
  decided _ := ⟨value, rfl, Iff.rfl⟩

theorem refusal : Settles (.ok false : Except ε Bool) False False where
  failed := False.elim
  decided _ := ⟨false, rfl, by simp⟩

theorem andThen (first : Settles check fails accepts)
    (second : accepts → Settles next failsNext acceptsNext) :
    Settles (check >>= fun passed => if passed = false then .ok false else next)
      (fails ∨ accepts ∧ failsNext) (accepts ∧ acceptsNext) := by
  by_cases fail : fails
  · obtain ⟨failure, returned⟩ := first.failed fail
    exact ⟨fun _ => ⟨failure, by rw [returned]; rfl⟩, fun calm => absurd (.inl fail) calm⟩
  · obtain ⟨verdict, returned, exact⟩ := first.decided fail
    rw [returned]
    cases verdict with
    | false =>
      have refused : ¬ accepts := fun holds => Bool.false_ne_true (exact.mpr holds)
      exact refusal.congr (by simp [fail, refused]) (by simp [refused])
    | true =>
      have accepted := exact.mp rfl
      exact (second accepted).congr (by simp [fail, accepted]) (by simp [accepted])

theorem cases (settles : Settles check fails accepts) :
    (fails ∧ ∃ failure, check = .error failure) ∨ (accepts ∧ ¬ fails ∧ check = .ok true) ∨
      (¬ accepts ∧ ¬ fails ∧ check = .ok false) := by
  by_cases fail : fails
  · exact .inl ⟨fail, settles.failed fail⟩
  · obtain ⟨verdict, returned, exact⟩ := settles.decided fail
    cases verdict with
    | true => exact .inr (.inl ⟨exact.mp rfl, fail, returned⟩)
    | false => exact .inr (.inr ⟨fun holds => Bool.false_ne_true (exact.mpr holds), fail, returned⟩)

end Settles

end OpenHttpa
