import Mathlib.Data.List.Basic

/-!
# Logs over a sliding window

A log of times, oldest first. It keeps a limit if no interval of a given length holds more times than
the limit. A time may be added as long as fewer than the limit lie in the interval that ends with it, and
for that question a log may forget what lies before a cutoff.
-/
namespace OpenHttpa

def recent (cutoff : Nat) (times : List Nat) : List Nat := times.filter fun time => cutoff ≤ time

def inInterval (start length : Nat) (times : List Nat) : List Nat :=
  times.filter fun time => start ≤ time ∧ time ≤ start + length

def Limited (limit length : Nat) (times : List Nat) : Prop :=
  ∀ start, (inInterval start length times).length ≤ limit

theorem recent_recent {early late : Nat} (ordered : early ≤ late) (times : List Nat) :
    recent late (recent early times) = recent late times := by
  unfold recent
  rw [List.filter_filter]
  apply List.filter_congr
  intro time _
  rw [Bool.eq_iff_iff, Bool.and_eq_true, decide_eq_true_eq, decide_eq_true_eq]
  omega

theorem recent_append (cutoff now : Nat) (times : List Nat) :
    recent cutoff (times ++ [now]) = recent cutoff times ++ recent cutoff [now] := List.filter_append ..

theorem recent_sublist {early late : Nat} (ordered : early ≤ late) (times : List Nat) :
    (recent late times).Sublist (recent early times) := by
  apply List.monotone_filter_right
  intro time kept
  rw [decide_eq_true_eq] at kept ⊢
  omega

theorem length_inInterval_le {cutoff start length : Nat} (late : cutoff ≤ start) (times : List Nat) :
    (inInterval start length times).length ≤ (recent cutoff times).length := by
  apply List.Sublist.length_le
  apply List.monotone_filter_right
  intro time inside
  rw [decide_eq_true_eq] at inside ⊢
  omega

theorem Limited.append {limit length now : Nat} {times : List Nat} (limited : Limited limit length times)
    (room : (recent (now - length) times).length < limit) : Limited limit length (times ++ [now]) := by
  intro start
  unfold inInterval
  rw [List.filter_append, List.length_append]
  by_cases inside : start ≤ now ∧ now ≤ start + length
  · have before : (inInterval start length times).length ≤ (recent (now - length) times).length :=
      length_inInterval_le (by omega) times
    rw [List.filter_cons_of_pos (by simpa using inside)]
    change (inInterval start length times).length + 1 ≤ limit
    omega
  · rw [List.filter_cons_of_neg (by simpa using inside)]
    exact limited start

theorem recent_eq_inInterval {now length : Nat} {times : List Nat} (past : ∀ time ∈ times, time ≤ now) :
    recent (now - length) times = inInterval (now - length) length times := by
  unfold recent inInterval
  apply List.filter_congr
  intro time member
  have bound := past time member
  rw [Bool.eq_iff_iff, decide_eq_true_eq, decide_eq_true_eq]
  omega

end OpenHttpa
