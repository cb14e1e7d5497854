import OpenHttpa.Core.SessionCalls

/-!
# The width of the sliding window

`ReplayStrategy::SlidingWindow(w)` is documented as a window of `w × 64` nonces. The strategy is only
asked whether it is the sliding one: the guard of every session is a `ReplayGuard<64>`, whatever `w`
is. So after any requests a fresh nonce below the highest committed one passes the replay check exactly
if it is not zero and less than 4096 below it, and the documented width is the real one for `w = 64` and
for no other (`window_width_iff`).
-/
namespace OpenHttpa.Core

open Crypto Proto

structure TrrRequest (T E : Type) where
  now : Nat
  nonce : UInt64
  f : SessionKeys → UInt64 → Except E T

/-- A session and the nonces it committed. -/
structure SlidingHistory where
  session : AttestSession
  committed : List UInt64

namespace SlidingHistory

variable {T E : Type}

/-- The nonce of a request is committed once its closure succeeded, also if the counter of the session
cannot go on. -/
def commits : Except SessionError (Except E T) → Bool
  | .ok (.ok _) => true
  | .error .Overflow => true
  | _ => false

def step (history : SlidingHistory) (request : TrrRequest T E) : SlidingHistory where
  session := (history.session.withKeysForTrr request.now request.nonce request.f).2
  committed :=
    if commits (history.session.withKeysForTrr request.now request.nonce request.f).1 then
      request.nonce :: history.committed
    else history.committed

structure Exact (history : SlidingHistory) : Prop where
  sliding : ∃ w, history.session.replayStrategy = .SlidingWindow w
  tracks : history.session.replayGuard.Tracks history.committed
  top : history.session.replayGuard.highest.toNat = highestOf history.committed

theorem Exact.commit {history : SlidingHistory} (exact : history.Exact) {nonce : UInt64}
    {admitted : AttestSession} (admits : history.session.admitNonce nonce = .ok admitted)
    (counter : UInt64) :
    Exact ⟨{ admitted.commitNonce nonce with clientCounter := counter },
      nonce :: history.committed⟩ := by
  obtain ⟨w, strategy⟩ := exact.sliding
  rcases AttestSession.admitNonce_cases admits with ⟨_, _, passed, rfl⟩ | ⟨strict, _, _⟩
  · have committed : history.session.commitNonce nonce =
        { history.session with replayGuard := history.session.replayGuard.accept nonce } := by
      simp only [AttestSession.commitNonce, strategy]
    rw [committed]
    refine ⟨⟨w, strategy⟩, ReplayGuard.accept_tracks exact.tracks passed, ?_⟩
    change (history.session.replayGuard.accept nonce).highest.toNat =
      max nonce.toNat (highestOf history.committed)
    rw [ReplayGuard.accept_highest, exact.top]
  · rw [strategy] at strict
    cases strict

theorem Exact.step {history : SlidingHistory} (exact : history.Exact) (request : TrrRequest T E) :
    (history.step request).Exact := by
  have call := history.session.withKeysForTrr_call request.now request.nonce request.f
  unfold SlidingHistory.step
  generalize history.session.withKeysForTrr request.now request.nonce request.f = returned at call ⊢
  obtain ⟨result, left⟩ := returned
  dsimp only at call ⊢
  cases call with
  | expired | notAttested | refused => exact exact
  | failed serves admits outcome =>
    obtain ⟨w, strategy⟩ := exact.sliding
    rcases AttestSession.admitNonce_cases admits with ⟨_, _, _, rfl⟩ | ⟨strict, _, _⟩
    · have kept : history.session.rollbackNonce request.nonce = history.session := by
        simp only [AttestSession.rollbackNonce, strategy]
      rw [kept]
      exact exact
    · rw [strategy] at strict
      cases strict
  | overflowed serves admits outcome full => exact exact.commit admits _
  | accepted serves admits outcome below => exact exact.commit admits _

def start (id : AtbId) (cipherSuite : CipherSuite) (version : ProtocolVersion) (keys : SessionKeys)
    (expiresAt w : Nat) (attestationResult : Option VerificationResult) : SlidingHistory :=
  ⟨.new id cipherSuite version keys expiresAt (.SlidingWindow w) attestationResult, []⟩

/-- A fresh nonce below the highest committed one passes the replay check exactly if it is less than the
width below it. -/
def HasWidth (history : SlidingHistory) (width : Nat) (nonce : UInt64) : Prop :=
  nonce ∉ history.committed → nonce.toNat < highestOf history.committed →
    ((∃ admitted, history.session.admitNonce nonce = .ok admitted) ↔
      highestOf history.committed - nonce.toNat < width)

theorem Exact.admits_iff {history : SlidingHistory} (exact : history.Exact) (nonce : UInt64) :
    (∃ admitted, history.session.admitNonce nonce = .ok admitted) ↔
      nonce ≠ 0 ∧ nonce ∉ history.committed ∧ (highestOf history.committed < nonce.toNat ∨
        highestOf history.committed - nonce.toNat < 4096) := by
  obtain ⟨w, strategy⟩ := exact.sliding
  have checked := ReplayGuard.check_ok_iff exact.tracks nonce
  rw [UInt64.lt_iff_toNat_lt, exact.top] at checked
  rw [← checked]
  unfold AttestSession.admitNonce
  rw [strategy]
  cases history.session.replayGuard.check nonce with
  | error | ok => simp

section Sessions

variable (id : AtbId) (cipherSuite : CipherSuite) (version : ProtocolVersion) (keys : SessionKeys)
  (expiresAt : Nat) (attestationResult : Option VerificationResult)

theorem exact_run (w : Nat) (requests : List (TrrRequest T E)) :
    (run step (start id cipherSuite version keys expiresAt w attestationResult) requests).Exact :=
  run_invariant Exact (fun _ request exact => exact.step request)
    ⟨⟨w, rfl⟩, ReplayGuard.new_tracks, rfl⟩ requests

theorem committed_first (w : Nat) (live : 0 < expiresAt) (value : T) {nonce : UInt64}
    (nonzero : nonce ≠ 0) :
    (run step (start id cipherSuite version keys expiresAt w attestationResult)
      [(⟨0, nonce, fun _ _ => .ok value⟩ : TrrRequest T E)]).committed = [nonce] := by
  have admits := (Exact.admits_iff (exact_run (T := T) (E := E) id cipherSuite version keys expiresAt
    attestationResult w []) nonce).mpr
  have positive : 0 < nonce.toNat := by
    rw [Nat.pos_iff_ne_zero]
    exact fun zero => nonzero (UInt64.toNat_inj.mp zero)
  have accepted : ((start id cipherSuite version keys expiresAt w attestationResult).session.withKeysForTrr
      0 nonce (fun _ _ => (.ok value : Except E T))).1 = .ok (.ok value) :=
    AttestSession.withKeysForTrr_ok_iff.mpr
      ⟨live, rfl, admits ⟨nonzero, List.not_mem_nil, .inl positive⟩, rfl,
        show (1 : UInt64) ≠ u64Max by decide⟩
  rw [run_cons, run_nil, step]
  dsimp only
  rw [accepted]
  rfl

theorem hasWidth_guard (w : Nat) (requests : List (TrrRequest T E)) {nonce : UInt64}
    (nonzero : nonce ≠ 0) :
    HasWidth (run step (start id cipherSuite version keys expiresAt w attestationResult) requests)
      4096 nonce := by
  intro fresh below
  rw [(exact_run id cipherSuite version keys expiresAt attestationResult w requests).admits_iff]
  constructor
  · rintro ⟨-, -, above | inside⟩
    · omega
    · exact inside
  · exact fun inside => ⟨nonzero, fresh, .inr inside⟩

theorem width_of_hasWidth [Inhabited T] {w : Nat} (live : 0 < expiresAt)
    (documented : ∀ (requests : List (TrrRequest T E)) (nonce : UInt64), nonce ≠ 0 →
      HasWidth (run step (start id cipherSuite version keys expiresAt w attestationResult) requests)
        (64 * w) nonce) : w = 64 := by
  have first : ∀ top : UInt64, 1 < top.toNat → (top.toNat - 1 < 64 * w ↔ top.toNat - 1 < 4096) := by
    intro top above
    have nonzero : top ≠ 0 := by
      rintro rfl
      exact absurd above (by decide)
    let requests : List (TrrRequest T E) := [⟨0, top, fun _ _ => .ok default⟩]
    have committed : (run step (start id cipherSuite version keys expiresAt w attestationResult)
        requests).committed = [top] :=
      committed_first id cipherSuite version keys expiresAt attestationResult w live default nonzero
    have same := documented requests 1 (by decide)
    have real := hasWidth_guard id cipherSuite version keys expiresAt attestationResult w requests
      (by decide : (1 : UInt64) ≠ 0)
    unfold HasWidth at same real
    have highest : highestOf [top] = top.toNat := Nat.max_zero _
    rw [committed, highest] at same real
    have fresh : (1 : UInt64) ∉ [top] := by
      rw [List.mem_singleton]
      rintro rfl
      exact absurd above (by decide)
    exact (same fresh above).symm.trans (real fresh above)
  rcases Nat.lt_trichotomy w 64 with narrow | same | wide
  · have read : (UInt64.ofNat (64 * w + 2)).toNat = 64 * w + 2 :=
      UInt64.toNat_ofNat_of_lt' (show 64 * w + 2 < 2 ^ 64 by omega)
    have told := first (UInt64.ofNat (64 * w + 2)) (by omega)
    omega
  · exact same
  · have told := first 4097 (by decide)
    change 4096 < 64 * w ↔ 4096 < 4096 at told
    omega

/-- **The width of the window.** After any requests a session with a window of any `w` has the width
4096, and never admits zero; so it has the documented width in every history exactly if `w` is 64. -/
theorem window_width_iff [Inhabited T] (live : 0 < expiresAt) (w : Nat) :
    (∀ (requests : List (TrrRequest T E)) (nonce : UInt64), nonce ≠ 0 →
      HasWidth (run step (start id cipherSuite version keys expiresAt w attestationResult) requests)
        4096 nonce) ∧
    (∀ (requests : List (TrrRequest T E)) (admitted : AttestSession),
      (run step (start id cipherSuite version keys expiresAt w attestationResult)
        requests).session.admitNonce 0 ≠ .ok admitted) ∧
    ((∀ (requests : List (TrrRequest T E)) (nonce : UInt64), nonce ≠ 0 →
      HasWidth (run step (start id cipherSuite version keys expiresAt w attestationResult) requests)
        (64 * w) nonce) ↔ w = 64) := by
  have width : ∀ (requests : List (TrrRequest T E)) (nonce : UInt64), nonce ≠ 0 →
      HasWidth (run step (start id cipherSuite version keys expiresAt w attestationResult) requests)
        4096 nonce := fun requests _ =>
    hasWidth_guard id cipherSuite version keys expiresAt attestationResult w requests
  refine ⟨width, ?_, ?_, ?_⟩
  · intro requests admitted admits
    exact AttestSession.admitNonce_nonzero admits rfl
  · exact width_of_hasWidth id cipherSuite version keys expiresAt attestationResult live
  · rintro rfl
    exact width

end Sessions

def windowed (w : Nat) : SlidingHistory :=
  start ⟨0⟩ .X25519MlKem768Aes256GcmSha384 .V2 .zero 10 w none

def granted (nonce : UInt64) : TrrRequest Unit Unit := ⟨0, nonce, fun _ _ => .ok ()⟩

theorem default_window_width : HasWidth (run step (windowed 64) [granted 5000]) (64 * 64) 1000 :=
  (window_width_iff ⟨0⟩ .X25519MlKem768Aes256GcmSha384 .V2 .zero 10 none (by decide) 64).2.2.mpr rfl
    [granted 5000] 1000 (by decide)

/-- With `w = 1`, nonce 1 passes although it is 65 below the highest committed nonce; with `w = 65` it is
refused although it is only 4096 below. -/
theorem other_widths_fail :
    highestOf (run step (windowed 1) [granted 66]).committed = 66 ∧
    ((run step (windowed 1) [granted 66]).session.withKeysForTrr 0 1 (granted 1).f).1 = .ok (.ok ()) ∧
    highestOf (run step (windowed 65) [granted 4097]).committed = 4097 ∧
    ((run step (windowed 65) [granted 4097]).session.withKeysForTrr 0 1 (granted 1).f).1 =
      .error .Replay := by
  decide +kernel

end SlidingHistory

end OpenHttpa.Core
