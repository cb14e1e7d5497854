import OpenHttpa.Lib.BitRing
import OpenHttpa.Lib.Run

/-!
# The sliding-window replay guard

`openhttpa-core/src/replay_guard.rs`. The guard keeps the highest nonce accepted and a ring of
bits for the `W * 64` nonces up to it; the ring is cleared lazily while the window advances.
`ReplayGuard.Tracks` is the meaning of that state: inside the window a bit is set exactly for
the nonces accepted so far. Over whole sequences of calls the guard refines a set of nonces: what a
call answers is a function of the nonces accepted before it (`checkAndAccept_ok_iff`).
-/
namespace OpenHttpa.Core

inductive ReplayError where
  | Replay (nonce : UInt64)
  | TooOld (nonce : UInt64)
  | StorageError (reason : String)
deriving DecidableEq

/-- `ReplayGuard`, with the state of `ReplayGuardInner`. -/
structure ReplayGuard (W : Nat) where
  highest : UInt64
  window : BitRing W

namespace ReplayGuard

variable {W : Nat} [NeZero W]

omit [NeZero W] in
def new : ReplayGuard W := ⟨0, Vector.replicate W 0⟩

variable (replayGuard : ReplayGuard W)

def check (nonce : UInt64) : Except ReplayError Unit :=
  if nonce = 0 then
    .error (.TooOld nonce)
  else if replayGuard.highest < nonce then
    .ok ()
  else if W * 64 ≤ (replayGuard.highest - nonce).toNat then
    .error (.TooOld nonce)
  else
    let slot := BitRing.slot W nonce.toNat
    let mask := bitMask (BitRing.bit W nonce.toNat)
    if replayGuard.window.get slot &&& mask ≠ 0 then .error (.Replay nonce) else .ok ()

/-- The nonces `highest + 1` to `highest + advance`, whose bits are reclaimed. -/
def reclaimed (highest : UInt64) (advance : Nat) : List Nat :=
  List.range' (highest.toNat + 1) advance

def accept (nonce : UInt64) : ReplayGuard W :=
  let advanced : ReplayGuard W :=
    if replayGuard.highest < nonce then
      let advance := (nonce - replayGuard.highest).toNat
      let window :=
        if W * 64 ≤ advance then Vector.replicate W 0
        else (reclaimed replayGuard.highest advance).foldl BitRing.unmark replayGuard.window
      ⟨nonce, window⟩
    else
      replayGuard
  { advanced with window := advanced.window.mark nonce.toNat }

def checkAndAccept (nonce : UInt64) : Except ReplayError Unit × ReplayGuard W :=
  match replayGuard.check nonce with
  | .error failure => (.error failure, replayGuard)
  | .ok () => (.ok (), replayGuard.accept nonce)

/-- The guard holds exactly the accepted nonces: all are at or below the highest, and inside the
window a bit is set for those and no others. -/
structure Tracks (replayGuard : ReplayGuard W) (accepted : List UInt64) : Prop where
  bounded : ∀ nonce ∈ accepted, nonce ≠ 0 ∧ nonce.toNat ≤ replayGuard.highest.toNat
  marks : ∀ number, number ≤ replayGuard.highest.toNat →
    replayGuard.highest.toNat < number + W * 64 →
      (replayGuard.window.marked number = true ↔ ∃ nonce ∈ accepted, nonce.toNat = number)

theorem new_tracks : (new : ReplayGuard W).Tracks [] where
  bounded := by simp
  marks := by
    intro number _ _
    rw [new, BitRing.marked_zero]
    simp

variable {replayGuard} {accepted : List UInt64} {nonce : UInt64}

variable (replayGuard) in
/-- The check lets a nonce in that is not zero and is above the highest, or in the window with its bit
not set. -/
theorem check_iff (nonce : UInt64) : replayGuard.check nonce = .ok () ↔
      nonce ≠ 0 ∧ (replayGuard.highest < nonce ∨ (replayGuard.highest.toNat - nonce.toNat < W * 64 ∧
          replayGuard.window.marked nonce.toNat = false)) := by
  unfold check
  by_cases zero : nonce = 0
  · simp [zero]
  rw [if_neg zero]
  by_cases above : replayGuard.highest < nonce
  · simp [zero, above]
  rw [if_neg above]
  have difference : (replayGuard.highest - nonce).toNat =
      replayGuard.highest.toNat - nonce.toNat :=
    UInt64.toNat_sub_of_le _ _ (UInt64.not_lt.mp above)
  rw [difference]
  by_cases old : W * 64 ≤ replayGuard.highest.toNat - nonce.toNat
  · simp [old, above, Nat.not_lt.mpr old]
  · rw [if_neg old]
    simp only [BitRing.marked_iff_mask]
    cases replayGuard.window.marked nonce.toNat with
    | true => simp [above]
    | false => simp [zero, Nat.not_le.mp old]

theorem check_ok_iff (tracks : replayGuard.Tracks accepted) (nonce : UInt64) :
    replayGuard.check nonce = .ok () ↔
      nonce ≠ 0 ∧ nonce ∉ accepted ∧ (replayGuard.highest < nonce ∨
          replayGuard.highest.toNat - nonce.toNat < W * 64) := by
  rw [check_iff]
  refine and_congr_right fun _ => ?_
  by_cases above : replayGuard.highest < nonce
  · have fresh : nonce ∉ accepted := by
      intro seen
      have bound := (tracks.bounded nonce seen).2
      rw [UInt64.lt_iff_toNat_lt] at above
      omega
    simp [above, fresh]
  · simp only [above, false_or]
    rw [and_comm]
    refine and_congr_left fun inside => ?_
    rw [← Bool.not_eq_true, not_iff_not]
    rw [UInt64.lt_iff_toNat_lt] at above
    rw [tracks.marks nonce.toNat (by omega) (by omega)]
    constructor
    · rintro ⟨other, member, same⟩
      rwa [← UInt64.toNat_inj.mp same]
    · intro member
      exact ⟨nonce, member, rfl⟩

theorem marked_advance (tracks : replayGuard.Tracks accepted)
    (above : replayGuard.highest < nonce) {number : Nat} (upper : number ≤ nonce.toNat)
    (lower : nonce.toNat < number + W * 64) :
    ((if W * 64 ≤ (nonce - replayGuard.highest).toNat then Vector.replicate W 0
      else (reclaimed replayGuard.highest (nonce - replayGuard.highest).toNat).foldl
        BitRing.unmark replayGuard.window : BitRing W).marked number = true) ↔
      ∃ seen ∈ accepted, seen.toNat = number := by
  have difference : (nonce - replayGuard.highest).toNat =
      nonce.toNat - replayGuard.highest.toNat := UInt64.toNat_sub_of_le _ _ (UInt64.le_of_lt above)
  rw [UInt64.lt_iff_toNat_lt] at above
  rw [difference]
  by_cases jump : W * 64 ≤ nonce.toNat - replayGuard.highest.toNat
  · -- The whole old window falls out, so no accepted nonce is left inside the new one.
    rw [if_pos jump, BitRing.marked_zero]
    refine ⟨by simp, ?_⟩
    rintro ⟨seen, member, rfl⟩
    have bound := (tracks.bounded seen member).2
    omega
  rw [if_neg jump, BitRing.marked_foldl_unmark]
  simp only [reclaimed, List.mem_range'_1]
  by_cases old : number ≤ replayGuard.highest.toNat
  · rw [tracks.marks number old (by omega)]
    refine and_iff_left_of_imp ?_
    -- A reclaimed nonce is less than one ring above a nonce that stays, so they share no bit.
    intro _ other range same
    have apart : number < other := by omega
    have equal : number = other :=
      BitRing.eq_of_congruent (Nat.le_of_lt apart) (by omega) same.symm
    omega
  · constructor
    · rintro ⟨_, unshared⟩
      exact absurd rfl (unshared number (by omega))
    · rintro ⟨seen, member, rfl⟩
      exact absurd (tracks.bounded seen member).2 old

theorem accept_tracks (tracks : replayGuard.Tracks accepted)
    (passed : replayGuard.check nonce = .ok ()) :
    (replayGuard.accept nonce).Tracks (nonce :: accepted) := by
  obtain ⟨nonzero, _, place⟩ := (check_ok_iff tracks nonce).mp passed
  by_cases above : replayGuard.highest < nonce
  · have order := UInt64.lt_iff_toNat_lt.mp above
    refine ⟨?_, ?_⟩
    · intro seen member
      simp only [accept, if_pos above]
      rcases List.mem_cons.mp member with rfl | earlier
      · exact ⟨nonzero, le_refl _⟩
      · have bound := tracks.bounded seen earlier
        exact ⟨bound.1, by omega⟩
    · intro number upper lower
      simp only [accept, if_pos above] at upper lower ⊢
      rw [BitRing.marked_mark, marked_advance tracks above upper lower]
      simp only [List.mem_cons, exists_eq_or_imp]
      constructor
      · rintro (earlier | shared)
        · exact .inr earlier
        -- Two numbers of one window that share a bit are the same number.
        · exact .inl (BitRing.eq_of_congruent upper lower shared.symm).symm
      · rintro (rfl | earlier)
        · exact .inr rfl
        · exact .inl earlier
  · have inside := place.resolve_left above
    have order : nonce.toNat ≤ replayGuard.highest.toNat :=
      UInt64.le_iff_toNat_le.mp (UInt64.not_lt.mp above)
    refine ⟨?_, ?_⟩
    · intro seen member
      simp only [accept, if_neg above]
      rcases List.mem_cons.mp member with rfl | earlier
      · exact ⟨nonzero, order⟩
      · exact tracks.bounded seen earlier
    · intro number upper lower
      simp only [accept, if_neg above] at upper lower ⊢
      rw [BitRing.marked_mark, tracks.marks number upper lower]
      simp only [List.mem_cons, exists_eq_or_imp]
      constructor
      · rintro (earlier | shared)
        · exact .inr earlier
        · rcases Nat.le_total number nonce.toNat with ordered | ordered
          · exact .inl (BitRing.eq_of_congruent ordered (by omega) shared.symm).symm
          · exact .inl (BitRing.eq_of_congruent ordered (by omega) shared)
      · rintro (rfl | earlier)
        · exact .inr rfl
        · exact .inl earlier

variable (replayGuard)

theorem accept_highest (nonce : UInt64) :
    (replayGuard.accept nonce).highest.toNat = max nonce.toNat replayGuard.highest.toNat := by
  by_cases above : replayGuard.highest < nonce
  · have order := UInt64.lt_iff_toNat_lt.mp above
    simp only [accept, if_pos above]
    omega
  · have order := UInt64.le_iff_toNat_le.mp (UInt64.not_lt.mp above)
    simp only [accept, if_neg above]
    omega

theorem check_refused_iff (nonce : UInt64) : replayGuard.check nonce ≠ .ok () ↔
      nonce = 0 ∨ nonce.toNat ≤ replayGuard.highest.toNat ∧
        (nonce.toNat + W * 64 ≤ replayGuard.highest.toNat ∨
          replayGuard.window.marked nonce.toNat = true) := by
  unfold check
  by_cases zero : nonce = 0
  · simp [zero]
  rw [if_neg zero]
  by_cases above : replayGuard.highest < nonce
  · have order := UInt64.lt_iff_toNat_lt.mp above
    have outside : ¬ nonce.toNat ≤ replayGuard.highest.toNat := by omega
    simp [zero, above, outside]
  · have below : nonce ≤ replayGuard.highest := UInt64.not_lt.mp above
    have difference : (replayGuard.highest - nonce).toNat =
        replayGuard.highest.toNat - nonce.toNat := UInt64.toNat_sub_of_le _ _ below
    have order : nonce.toNat ≤ replayGuard.highest.toNat := UInt64.le_iff_toNat_le.mp below
    rw [if_neg above, difference]
    by_cases old : W * 64 ≤ replayGuard.highest.toNat - nonce.toNat
    · have early : nonce.toNat + W * 64 ≤ replayGuard.highest.toNat := by omega
      simp [old, early, order]
    · have late : ¬ nonce.toNat + W * 64 ≤ replayGuard.highest.toNat := by omega
      rw [if_neg old]
      simp only [BitRing.marked_iff_mask]
      by_cases seen : replayGuard.window.marked nonce.toNat = true
      · simp [seen, order]
      · simp [seen, zero, late]

variable {replayGuard}

theorem accept_marked {number : Nat} (bounded : number ≤ replayGuard.highest.toNat)
    (seen : replayGuard.window.marked number = true) (inside : nonce.toNat < number + W * 64) :
    (replayGuard.accept nonce).window.marked number = true := by
  by_cases above : replayGuard.highest < nonce
  · have difference : (nonce - replayGuard.highest).toNat =
        nonce.toNat - replayGuard.highest.toNat := UInt64.toNat_sub_of_le _ _ (UInt64.le_of_lt above)
    have order := UInt64.lt_iff_toNat_lt.mp above
    simp only [accept, if_pos above, difference]
    rw [BitRing.marked_mark, if_neg (by omega), BitRing.marked_foldl_unmark]
    refine .inl ⟨seen, ?_⟩
    -- A reclaimed nonce is above the highest, and less than one ring above this one.
    intro other range same
    simp only [reclaimed, List.mem_range'_1] at range
    have equal : number = other := BitRing.eq_of_congruent (by omega) (by omega) same.symm
    omega
  · simp only [accept, if_neg above]
    exact (BitRing.marked_mark _ _ _).mpr (.inl seen)

theorem accept_keeps_refusing {other : UInt64}
    (refused : replayGuard.check other ≠ .ok ()) (nonce : UInt64) :
    (replayGuard.accept nonce).check other ≠ .ok () := by
  rw [check_refused_iff] at refused ⊢
  rcases refused with zero | ⟨bounded, out⟩
  · exact .inl zero
  · have top := replayGuard.accept_highest nonce
    refine .inr ⟨by omega, ?_⟩
    rcases out with old | seen
    · exact .inl (by omega)
    · by_cases late : nonce.toNat < other.toNat + W * 64
      · exact .inr (accept_marked bounded seen late)
      · exact .inl (by omega)

variable (replayGuard)

theorem accept_refuses (nonce : UInt64) : (replayGuard.accept nonce).check nonce ≠ .ok () := by
  rw [check_refused_iff]
  have top := replayGuard.accept_highest nonce
  refine .inr ⟨by omega, .inr ?_⟩
  unfold accept
  exact (BitRing.marked_mark _ _ _).mpr (.inr rfl)

theorem checkAndAccept_ok (nonce : UInt64) :
    (replayGuard.checkAndAccept nonce).1 = .ok () ↔ replayGuard.check nonce = .ok () := by
  unfold checkAndAccept
  cases replayGuard.check nonce with
  | error | ok => simp

end ReplayGuard

/-- The highest accepted nonce. -/
def highestOf (accepted : List UInt64) : Nat :=
  accepted.foldr (fun nonce top => max nonce.toNat top) 0

/-- A guard next to the nonces that its calls have accepted, newest first. -/
structure WatchedGuard (W : Nat) where
  replayGuard : ReplayGuard W
  accepted : List UInt64

namespace WatchedGuard

variable {W : Nat} [NeZero W]

omit [NeZero W] in
def fresh : WatchedGuard W := ⟨.new, []⟩

variable (watched : WatchedGuard W)

/-- One call of `check_and_accept`. -/
def call (nonce : UInt64) : WatchedGuard W :=
  match watched.replayGuard.checkAndAccept nonce with
  | (.error _, replayGuard) => ⟨replayGuard, watched.accepted⟩
  | (.ok (), replayGuard) => ⟨replayGuard, nonce :: watched.accepted⟩

/-- The guard stands for the nonces accepted, and its highest nonce is the largest of them. -/
def Exact : Prop :=
  watched.replayGuard.Tracks watched.accepted ∧
    watched.replayGuard.highest.toNat = highestOf watched.accepted

theorem call_exact (nonce : UInt64) (exact : watched.Exact) : (watched.call nonce).Exact := by
  obtain ⟨tracks, top⟩ := exact
  unfold call ReplayGuard.checkAndAccept
  cases passed : watched.replayGuard.check nonce with
  | error failure => exact ⟨tracks, top⟩
  | ok done =>
    refine ⟨ReplayGuard.accept_tracks tracks passed, ?_⟩
    show (watched.replayGuard.accept nonce).highest.toNat =
      max nonce.toNat (highestOf watched.accepted)
    rw [ReplayGuard.accept_highest, top]

theorem run_exact (nonces : List UInt64) : (run call (fresh : WatchedGuard W) nonces).Exact :=
  run_invariant Exact call_exact ⟨ReplayGuard.new_tracks, rfl⟩ nonces

/-- After any sequence of calls on a fresh guard, a call succeeds exactly when its nonce is not
zero, was not accepted before, and is above the largest nonce accepted or less than `64 * W` below
it. -/
theorem checkAndAccept_ok_iff (W : Nat) [NeZero W] (nonces : List UInt64) (nonce : UInt64) :
    ((run call (fresh : WatchedGuard W) nonces).replayGuard.checkAndAccept nonce).1 = .ok () ↔
      nonce ≠ 0 ∧ nonce ∉ (run call (fresh : WatchedGuard W) nonces).accepted ∧
        (highestOf (run call (fresh : WatchedGuard W) nonces).accepted < nonce.toNat ∨
          highestOf (run call (fresh : WatchedGuard W) nonces).accepted - nonce.toNat
            < 64 * W) := by
  obtain ⟨tracks, top⟩ := run_exact (W := W) nonces
  rw [ReplayGuard.checkAndAccept_ok, ReplayGuard.check_ok_iff tracks, UInt64.lt_iff_toNat_lt, top,
    Nat.mul_comm W 64]

/-- One word of window: below 70 there is room down to 7, and no further. -/
theorem checkAndAccept_below_seventy :
    ((run call (fresh : WatchedGuard 1) [3, 70]).replayGuard.checkAndAccept 7).1 = .ok () ∧
      ((run call (fresh : WatchedGuard 1) [3, 70]).replayGuard.checkAndAccept 6).1 ≠ .ok () :=
  ⟨(checkAndAccept_ok_iff 1 [3, 70] 7).mpr (by decide),
    fun passed => absurd ((checkAndAccept_ok_iff 1 [3, 70] 6).mp passed) (by decide)⟩

end WatchedGuard

end OpenHttpa.Core
