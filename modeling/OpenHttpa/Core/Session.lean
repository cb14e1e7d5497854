import OpenHttpa.Core.ReplayGuard
import OpenHttpa.Crypto.Hkdf
import OpenHttpa.Proto.Types

/-!
# Live sessions

`openhttpa-core/src/session/mod.rs` and the phases of `state.rs`. A session is one value behind a
mutex; a method takes the value and the clock and returns its result with the value left behind.
Requests are admitted by `with_keys_for_trr` under one of two replay strategies, responses are
numbered by `with_keys_for_trs`. `AttestSession.Spent` says which nonces a session will never admit
again, for either strategy.
-/
namespace OpenHttpa.Core

open Crypto Proto

inductive ProtocolPhase where
  | Init
  | Preflight
  | AtHsInProgress
  | Attested
  | AtSpInProgress
  | SecretProvisioned
  | Rtt0
  | Terminated
deriving DecidableEq

def ProtocolPhase.allowsTrustedRequest : ProtocolPhase → Bool
  | .Attested | .SecretProvisioned | .Rtt0 => true
  | _ => false

inductive ReplayStrategy where
  | StrictMonotonic
  | SlidingWindow (w : Nat)
deriving DecidableEq

def ReplayStrategy.default : ReplayStrategy := .SlidingWindow 64

/-- `SessionError`; the transition error of `advance_phase` is left out with that method. -/
inductive SessionError where
  | Expired
  | NotAttested
  | Replay
  | Overflow
deriving DecidableEq

/-- `Display` for `SessionError`. -/
def sessionErrorText : SessionError → String
  | .Expired => "session has expired"
  | .NotAttested => "trusted request not permitted in current phase"
  | .Replay => "replay nonce rejected"
  | .Overflow => "cryptographic counter overflow"

/-- `AttestSession`, the fields of `SessionInner`; instants are ticks of one clock. -/
structure AttestSession where
  id : AtbId
  cipherSuite : CipherSuite
  version : ProtocolVersion
  phase : ProtocolPhase
  keys : SessionKeys
  expiresAt : Nat
  replayGuard : ReplayGuard 64
  strictLastSeen : UInt64
  replayStrategy : ReplayStrategy
  clientCounter : UInt64
  serverCounter : UInt64
  attestationResult : Option VerificationResult

namespace AttestSession

def new (id : AtbId) (cipherSuite : CipherSuite) (version : ProtocolVersion) (keys : SessionKeys)
    (expiresAt : Nat) (strategy : ReplayStrategy)
    (attestationResult : Option VerificationResult) : AttestSession where
  id := id
  cipherSuite := cipherSuite
  version := version
  phase := .Attested
  keys := keys
  expiresAt := expiresAt
  replayGuard := ReplayGuard.new
  strictLastSeen := 0
  replayStrategy := strategy
  clientCounter := 1
  serverCounter := 1
  attestationResult := attestationResult

def peekKeys {R : Type} (now : Nat) (f : SessionKeys → R) (session : AttestSession) :
    Except SessionError R :=
  if session.expiresAt ≤ now then .error .Expired else .ok (f session.keys)

variable (session : AttestSession)

/-- The first phase of `with_keys_for_trr`: the nonce is checked, and the strict strategy already
moves `strict_last_seen` to it. -/
def admitNonce (nonce : UInt64) : Except SessionError AttestSession :=
  match session.replayStrategy with
  | .SlidingWindow _ =>
    match session.replayGuard.check nonce with
    | .error _ => .error .Replay
    | .ok () => .ok session
  | .StrictMonotonic =>
    if nonce ≤ session.strictLastSeen then .error .Replay
    else .ok { session with strictLastSeen := nonce }

/-- The commit of `with_keys_for_trr` after the closure succeeded. -/
def commitNonce (nonce : UInt64) : AttestSession :=
  match session.replayStrategy with
  | .SlidingWindow _ => { session with replayGuard := session.replayGuard.accept nonce }
  | .StrictMonotonic => session

/-- The rollback of `with_keys_for_trr` after the closure failed: `strict_last_seen` becomes
`nonce.saturating_sub(1)`. -/
def rollbackNonce (nonce : UInt64) : AttestSession :=
  match session.replayStrategy with
  | .SlidingWindow _ => session
  | .StrictMonotonic =>
    { session with strictLastSeen := if nonce = 0 then 0 else nonce - 1 }

def withKeysForTrr {T E : Type} (now : Nat) (nonce : UInt64)
    (f : SessionKeys → UInt64 → Except E T) (session : AttestSession) :
    Except SessionError (Except E T) × AttestSession :=
  if session.expiresAt ≤ now then
    (.error .Expired, session)
  else if session.phase.allowsTrustedRequest = false then
    (.error .NotAttested, session)
  else
    match session.admitNonce nonce with
    | .error failure => (.error failure, session)
    | .ok admitted =>
      match f admitted.keys admitted.clientCounter with
      | .ok value =>
        let committed := admitted.commitNonce nonce
        match checkedSucc committed.clientCounter with
        | none => (.error .Overflow, committed)
        | some next => (.ok (.ok value), { committed with clientCounter := next })
      | .error failure => (.ok (.error failure), admitted.rollbackNonce nonce)

def withKeysForNextTrr {T E : Type} (now : Nat) (f : SessionKeys → UInt64 → Except E T)
    (session : AttestSession) : Except SessionError (Except E T) × AttestSession :=
  session.withKeysForTrr now session.clientCounter f

/-- `AttestSession::with_keys_for_trs` — the counter moves on whatever the closure returned. -/
def withKeysForTrs {R : Type} (now : Nat) (f : SessionKeys → UInt64 → R)
    (session : AttestSession) : Except SessionError R × AttestSession :=
  if session.expiresAt ≤ now then
    (.error .Expired, session)
  else
    let result := f session.keys session.serverCounter
    match checkedSucc session.serverCounter with
    | none => (.error .Overflow, session)
    | some next => (.ok result, { session with serverCounter := next })

/-- The nonces in the list will never be admitted again. -/
def Spent (spent : List UInt64) : Prop :=
  match session.replayStrategy with
  | .SlidingWindow _ => session.replayGuard.Tracks spent
  | .StrictMonotonic => ∀ nonce ∈ spent, nonce ≤ session.strictLastSeen

theorem new_spent (id : AtbId) (cipherSuite : CipherSuite) (version : ProtocolVersion)
    (keys : SessionKeys) (expiresAt : Nat) (strategy : ReplayStrategy)
    (result : Option VerificationResult) :
    (new id cipherSuite version keys expiresAt strategy result).Spent [] := by
  cases strategy with
  | StrictMonotonic => intro nonce member; simp at member
  | SlidingWindow w => exact ReplayGuard.new_tracks

variable {session} {spent : List UInt64} {nonce : UInt64} {admitted : AttestSession}
  {T E : Type} {now : Nat} {f : SessionKeys → UInt64 → Except E T} {left : AttestSession} {R : Type}

theorem Spent.congr {other : AttestSession} (strategy : other.replayStrategy = session.replayStrategy)
    (window : other.replayGuard = session.replayGuard)
    (last : other.strictLastSeen = session.strictLastSeen) (held : session.Spent spent) :
    other.Spent spent := by
  unfold Spent at held ⊢
  rw [strategy, window, last]
  exact held

theorem toNat_above {last : UInt64} (above : ¬ nonce ≤ last) :
    last.toNat < nonce.toNat ∧ nonce ≠ 0 ∧ (nonce - 1).toNat = nonce.toNat - 1 := by
  have greater : last.toNat < nonce.toNat := UInt64.lt_iff_toNat_lt.mp (UInt64.not_le.mp above)
  have nonzero : nonce ≠ 0 := by
    rintro rfl
    simp at greater
  have one : (1 : UInt64) ≤ nonce := by
    rw [UInt64.le_iff_toNat_le, UInt64.toNat_one]
    omega
  exact ⟨greater, nonzero, by simpa using UInt64.toNat_sub_of_le _ _ one⟩

theorem admitNonce_cases (admits : session.admitNonce nonce = .ok admitted) :
    (∃ w, session.replayStrategy = .SlidingWindow w ∧ session.replayGuard.check nonce = .ok () ∧
      admitted = session) ∨
    (session.replayStrategy = .StrictMonotonic ∧ ¬ nonce ≤ session.strictLastSeen ∧
      admitted = { session with strictLastSeen := nonce }) := by
  unfold admitNonce at admits
  split at admits
  · rename_i w strategy
    split at admits
    · cases admits
    · rename_i checked
      cases admits
      exact .inl ⟨w, strategy, checked, rfl⟩
  · rename_i strategy
    split at admits
    · cases admits
    · rename_i above
      cases admits
      exact .inr ⟨strategy, above, rfl⟩

/-- The replay check lets the nonce in: it is above the last one seen or, with the sliding strategy, not
zero and above the highest, or in the window with its bit not set. -/
def Admits (session : AttestSession) (nonce : UInt64) : Prop :=
  match session.replayStrategy with
  | .SlidingWindow _ =>
    nonce ≠ 0 ∧ (session.replayGuard.highest < nonce ∨
      (session.replayGuard.highest.toNat - nonce.toNat < 64 * 64 ∧
        session.replayGuard.window.marked nonce.toNat = false))
  | .StrictMonotonic => session.strictLastSeen < nonce

theorem admitNonce_iff :
    (∃ admitted, session.admitNonce nonce = .ok admitted) ↔ session.Admits nonce := by
  unfold admitNonce Admits
  cases session.replayStrategy with
  | SlidingWindow w =>
    dsimp only
    rw [← ReplayGuard.check_iff]
    cases session.replayGuard.check nonce with
    | error | ok => simp
  | StrictMonotonic =>
    by_cases stale : nonce ≤ session.strictLastSeen
    · simp [stale]
    · simp [stale, UInt64.not_le.mp stale]

theorem admitNonce_spent
    (held : session.Spent spent) (admits : session.admitNonce nonce = .ok admitted) :
    nonce ∉ spent ∧ (admitted.commitNonce nonce).Spent (nonce :: spent) ∧
      (admitted.rollbackNonce nonce).Spent spent ∧ admitted.keys = session.keys := by
  unfold Spent at held
  rcases admitNonce_cases admits with ⟨w, strategy, passed, rfl⟩ | ⟨strategy, stale, rfl⟩
  · simp only [strategy] at held
    refine ⟨((ReplayGuard.check_ok_iff held nonce).mp passed).2.1, ?_, ?_, rfl⟩
    · simpa [Spent, commitNonce, strategy] using ReplayGuard.accept_tracks held passed
    · simpa [Spent, rollbackNonce, strategy] using held
  · simp only [strategy] at held
    obtain ⟨above, nonzero, predecessor⟩ := toNat_above stale
    refine ⟨fun member => stale (held nonce member), ?_, ?_, rfl⟩
    · simp only [Spent, commitNonce, strategy, List.mem_cons, forall_eq_or_imp]
      refine ⟨UInt64.le_refl _, ?_⟩
      intro earlier member
      have bound := UInt64.le_iff_toNat_le.mp (held earlier member)
      rw [UInt64.le_iff_toNat_le]
      omega
    · simp only [Spent, rollbackNonce, strategy, if_neg nonzero]
      intro earlier member
      have bound := UInt64.le_iff_toNat_le.mp (held earlier member)
      rw [UInt64.le_iff_toNat_le, predecessor]
      omega

theorem admitNonce_eq (admits : session.admitNonce nonce = .ok admitted) :
    ∃ last, admitted = { session with strictLastSeen := last } := by
  rcases admitNonce_cases admits with ⟨_, _, _, rfl⟩ | ⟨_, _, rfl⟩
  · exact ⟨admitted.strictLastSeen, rfl⟩
  · exact ⟨nonce, rfl⟩

theorem commitNonce_eq (session : AttestSession) (nonce : UInt64) :
    ∃ window, session.commitNonce nonce = { session with replayGuard := window } := by
  unfold commitNonce
  split
  · exact ⟨session.replayGuard.accept nonce, rfl⟩
  · exact ⟨session.replayGuard, rfl⟩

theorem rollbackNonce_eq (session : AttestSession) (nonce : UInt64) :
    ∃ last, session.rollbackNonce nonce = { session with strictLastSeen := last } := by
  unfold rollbackNonce
  split
  · exact ⟨session.strictLastSeen, rfl⟩
  · exact ⟨_, rfl⟩

theorem commitNonce_clientCounter (admits : session.admitNonce nonce = .ok admitted) :
    (admitted.commitNonce nonce).clientCounter = session.clientCounter := by
  obtain ⟨last, rfl⟩ := admitNonce_eq admits
  obtain ⟨window, committed⟩ := commitNonce_eq { session with strictLastSeen := last } nonce
  rw [committed]

theorem admitNonce_error {failure : SessionError}
    (refused : session.admitNonce nonce = .error failure) : failure = .Replay := by
  unfold admitNonce at refused
  repeat' split at refused
  all_goals cases refused
  all_goals rfl

def Serves (now : Nat) (session : AttestSession) : Prop :=
  now < session.expiresAt ∧ session.phase.allowsTrustedRequest = true

/-- The ways a call of `with_keys_for_trr` can go, with its result and the session it leaves. -/
inductive TrrCall {T E : Type} (now : Nat) (nonce : UInt64) (f : SessionKeys → UInt64 → Except E T)
    (session : AttestSession) : Except SessionError (Except E T) → AttestSession → Prop where
  | expired (late : session.expiresAt ≤ now) : TrrCall now nonce f session (.error .Expired) session
  | notAttested (alive : now < session.expiresAt)
    (phase : session.phase.allowsTrustedRequest = false) :
    TrrCall now nonce f session (.error .NotAttested) session
  | refused (serves : session.Serves now) (refuses : session.admitNonce nonce = .error .Replay) :
    TrrCall now nonce f session (.error .Replay) session
  | failed {admitted : AttestSession} {failure : E} (serves : session.Serves now)
    (admits : session.admitNonce nonce = .ok admitted)
    (outcome : f session.keys session.clientCounter = .error failure) :
    TrrCall now nonce f session (.ok (.error failure)) (admitted.rollbackNonce nonce)
  | overflowed {admitted : AttestSession} {value : T} (serves : session.Serves now)
    (admits : session.admitNonce nonce = .ok admitted)
    (outcome : f session.keys session.clientCounter = .ok value)
    (full : session.clientCounter = u64Max) :
    TrrCall now nonce f session (.error .Overflow) (admitted.commitNonce nonce)
  | accepted {admitted : AttestSession} {value : T} (serves : session.Serves now)
    (admits : session.admitNonce nonce = .ok admitted)
    (outcome : f session.keys session.clientCounter = .ok value)
    (below : session.clientCounter ≠ u64Max) :
    TrrCall now nonce f session (.ok (.ok value))
      { admitted.commitNonce nonce with clientCounter := session.clientCounter + 1 }

theorem withKeysForTrr_call (now : Nat) (nonce : UInt64)
    (f : SessionKeys → UInt64 → Except E T) (session : AttestSession) :
    TrrCall now nonce f session (session.withKeysForTrr now nonce f).1
      (session.withKeysForTrr now nonce f).2 := by
  unfold withKeysForTrr
  by_cases expired : session.expiresAt ≤ now
  · rw [if_pos expired]
    exact .expired expired
  rw [if_neg expired]
  have alive := Nat.not_le.mp expired
  by_cases phase : session.phase.allowsTrustedRequest = false
  · rw [if_pos phase]
    exact .notAttested alive phase
  rw [if_neg phase]
  have serves : session.Serves now := ⟨alive, Bool.not_eq_false _ ▸ phase⟩
  cases admits : session.admitNonce nonce with
  | error failure =>
    obtain rfl := admitNonce_error admits
    exact .refused serves admits
  | ok admitted =>
    have counter := commitNonce_clientCounter admits
    have before := admits
    obtain ⟨last, rfl⟩ := admitNonce_eq admits
    dsimp only
    cases outcome : f session.keys session.clientCounter with
    | error failure => exact .failed serves before outcome
    | ok value =>
      dsimp only
      rw [counter]
      by_cases full : session.clientCounter = u64Max
      · rw [checkedSucc, if_pos full]
        exact .overflowed serves before outcome full
      · rw [checkedSucc, if_neg full]
        exact .accepted serves before outcome full

theorem withKeysForTrr_spent (now : Nat) (nonce : UInt64) (f : SessionKeys → UInt64 → Except E T)
    (held : session.Spent spent) :
    ∃ spent', (session.withKeysForTrr now nonce f).2.Spent spent' ∧ spent ⊆ spent' ∧
      (session.withKeysForTrr now nonce f).2.keys = session.keys ∧
      ∀ value, (session.withKeysForTrr now nonce f).1 = .ok (.ok value) →
        nonce ∉ spent ∧ nonce ∈ spent' ∧ ∃ counter, f session.keys counter = .ok value := by
  have committedKeys : ∀ {admitted : AttestSession}, admitted.keys = session.keys →
      (admitted.commitNonce nonce).keys = session.keys := by
    intro admitted same
    obtain ⟨window, committed⟩ := commitNonce_eq admitted nonce
    rw [committed, ← same]
  have call := session.withKeysForTrr_call now nonce f
  generalize session.withKeysForTrr now nonce f = returned at call ⊢
  obtain ⟨result, left⟩ := returned
  dsimp only at call ⊢
  cases call with
  | expired | notAttested | refused =>
    exact ⟨spent, held, List.Subset.refl _, rfl, by simp⟩
  | failed serves admits outcome =>
    obtain ⟨_, _, rolledBack, sameKeys⟩ := admitNonce_spent held admits
    refine ⟨spent, rolledBack, List.Subset.refl _, ?_, by simp⟩
    obtain ⟨last, same⟩ := rollbackNonce_eq _ nonce
    rw [same, ← sameKeys]
  | overflowed serves admits outcome full =>
    obtain ⟨_, committed, _, sameKeys⟩ := admitNonce_spent held admits
    exact ⟨nonce :: spent, committed, List.subset_cons_self _ _, committedKeys sameKeys, by simp⟩
  | accepted serves admits outcome below =>
    obtain ⟨fresh, committed, _, sameKeys⟩ := admitNonce_spent held admits
    refine ⟨nonce :: spent, committed.congr rfl rfl rfl, List.subset_cons_self _ _,
      committedKeys sameKeys, ?_⟩
    rintro _ ⟨⟩
    exact ⟨fresh, List.mem_cons_self, session.clientCounter, outcome⟩

theorem TrrCall.keeps {result : Except SessionError (Except E T)}
    (call : TrrCall now nonce f session result left) :
    left.id = session.id ∧ left.keys = session.keys ∧ left.expiresAt = session.expiresAt ∧
      left.serverCounter = session.serverCounter := by
  cases call with
  | expired | notAttested | refused => exact ⟨rfl, rfl, rfl, rfl⟩
  | failed serves admits outcome =>
    obtain ⟨last, rfl⟩ := admitNonce_eq admits
    obtain ⟨before, same⟩ := rollbackNonce_eq { session with strictLastSeen := last } nonce
    simp only [same, and_self]
  | overflowed serves admits outcome full =>
    obtain ⟨last, rfl⟩ := admitNonce_eq admits
    obtain ⟨window, same⟩ := commitNonce_eq { session with strictLastSeen := last } nonce
    simp only [same, and_self]
  | accepted serves admits outcome below =>
    obtain ⟨last, rfl⟩ := admitNonce_eq admits
    obtain ⟨window, same⟩ := commitNonce_eq { session with strictLastSeen := last } nonce
    simp only [same, and_self]

theorem TrrCall.counter_of_ok {value : T}
    (call : TrrCall now nonce f session (.ok (.ok value)) left) :
    session.clientCounter ≠ u64Max ∧ left.clientCounter = session.clientCounter + 1 := by
  cases call with
  | accepted serves admits outcome below => exact ⟨below, rfl⟩

theorem TrrCall.counter_of_not_ok
    {result : Except SessionError (Except E T)} (call : TrrCall now nonce f session result left)
    (nothing : ∀ value, result ≠ .ok (.ok value)) : left.clientCounter = session.clientCounter := by
  cases call with
  | expired | notAttested | refused => rfl
  | failed serves admits outcome =>
    obtain ⟨last, rfl⟩ := admitNonce_eq admits
    obtain ⟨before, same⟩ := rollbackNonce_eq { session with strictLastSeen := last } nonce
    rw [same]
  | overflowed serves admits outcome full => exact commitNonce_clientCounter admits
  | accepted serves admits outcome below => exact absurd rfl (nothing _)

theorem withKeysForTrr_keeps (now : Nat) (nonce : UInt64)
    (f : SessionKeys → UInt64 → Except E T) (session : AttestSession) :
    (session.withKeysForTrr now nonce f).2.id = session.id ∧
      (session.withKeysForTrr now nonce f).2.keys = session.keys ∧
      (session.withKeysForTrr now nonce f).2.expiresAt = session.expiresAt ∧
      (session.withKeysForTrr now nonce f).2.serverCounter = session.serverCounter :=
  (session.withKeysForTrr_call now nonce f).keeps

theorem withKeysForTrs_keeps (now : Nat) (f : SessionKeys → UInt64 → R) (session : AttestSession) :
    ∃ counter, (session.withKeysForTrs now f).2 = { session with serverCounter := counter } ∧
      session.serverCounter.toNat ≤ counter.toNat := by
  unfold withKeysForTrs
  by_cases expired : session.expiresAt ≤ now
  · rw [if_pos expired]
    exact ⟨session.serverCounter, rfl, Nat.le_refl _⟩
  · rw [if_neg expired]
    by_cases last : session.serverCounter = u64Max
    · simp only [checkedSucc, if_pos last]
      exact ⟨session.serverCounter, rfl, Nat.le_refl _⟩
    · simp only [checkedSucc, if_neg last]
      refine ⟨session.serverCounter + 1, rfl, ?_⟩
      rw [toNat_succ last]
      omega

theorem withKeysForTrs_live (f : SessionKeys → UInt64 → R) (alive : now < session.expiresAt)
    (below : session.serverCounter ≠ u64Max) :
    session.withKeysForTrs now f = (.ok (f session.keys session.serverCounter),
        { session with serverCounter := session.serverCounter + 1 }) := by
  simp only [withKeysForTrs, if_neg (Nat.not_le.mpr alive), checkedSucc, if_neg below]

theorem withKeysForTrs_expired (f : SessionKeys → UInt64 → R) (expired : session.expiresAt ≤ now) :
    session.withKeysForTrs now f = (.error .Expired, session) := by
  simp only [withKeysForTrs, if_pos expired]

theorem withKeysForTrs_counter (now : Nat) (f : SessionKeys → UInt64 → R) (session : AttestSession) :
    (session.withKeysForTrs now f).2.serverCounter.toNat =
      min (session.serverCounter.toNat + if now < session.expiresAt then 1 else 0) (2 ^ 64 - 1) := by
  have small := session.serverCounter.toNat_lt
  by_cases expired : session.expiresAt ≤ now
  · rw [withKeysForTrs_expired f expired, if_neg (Nat.not_lt.mpr expired)]
    dsimp only
    omega
  · have alive := Nat.not_le.mp expired
    rw [if_pos alive]
    by_cases last : session.serverCounter = u64Max
    · have full : session.serverCounter.toNat = 2 ^ 64 - 1 := congrArg UInt64.toNat last
      have refused : (session.withKeysForTrs now f).2 = session := by
        simp only [withKeysForTrs, if_neg expired, checkedSucc, if_pos last]
      rw [refused]
      omega
    · have next := toNat_succ last
      have bounded := (session.serverCounter + 1).toNat_lt
      rw [withKeysForTrs_live f alive last]
      dsimp only
      omega

theorem withKeysForTrs_ok {f : SessionKeys → UInt64 → R} {result : R}
    (returned : session.withKeysForTrs now f = (.ok result, left)) :
    now < session.expiresAt ∧ session.serverCounter ≠ u64Max ∧
      result = f session.keys session.serverCounter ∧
      left = { session with serverCounter := session.serverCounter + 1 } := by
  by_cases expired : session.expiresAt ≤ now
  · rw [withKeysForTrs_expired f expired] at returned
    cases returned
  · by_cases last : session.serverCounter = u64Max
    · simp only [withKeysForTrs, if_neg expired, checkedSucc, if_pos last] at returned
      cases returned
    · rw [withKeysForTrs_live f (Nat.not_le.mp expired) last] at returned
      cases returned
      exact ⟨Nat.not_le.mp expired, last, rfl, rfl⟩

end AttestSession

/-- `DurableSessionState`; its expiry is on the system clock. -/
structure DurableSessionState where
  id : AtbId
  cipherSuite : CipherSuite
  version : ProtocolVersion
  phase : ProtocolPhase
  keys : SessionKeys
  resumptionSecret : Bytes
  expiresAt : Nat
  clientCounter : UInt64
  serverCounter : UInt64
  replayHighest : UInt64
  replayWindow : List UInt64
  attestationResult : Option VerificationResult

namespace AttestSession

/-- `AttestSession::export_durable`, on both clocks. -/
def exportDurable (nowInst nowSys : Nat) (session : AttestSession) : DurableSessionState where
  id := session.id
  cipherSuite := session.cipherSuite
  version := session.version
  phase := session.phase
  keys := session.keys
  resumptionSecret := session.keys.resumptionMasterSecret.bytes
  expiresAt := if nowInst < session.expiresAt then nowSys + (session.expiresAt - nowInst) else nowSys
  clientCounter := session.clientCounter
  serverCounter := session.serverCounter
  replayHighest := session.replayGuard.highest
  replayWindow := session.replayGuard.window.toList
  attestationResult := session.attestationResult

/-- `AttestSession::from_durable`, on both clocks; the strategy is the default one whatever the
exported session used. -/
def fromDurable (nowInst nowSys : Nat) (state : DurableSessionState) : AttestSession where
  id := state.id
  cipherSuite := state.cipherSuite
  version := state.version
  phase := state.phase
  keys := state.keys
  expiresAt := if nowSys < state.expiresAt then nowInst + (state.expiresAt - nowSys) else nowInst
  replayGuard := ⟨state.replayHighest, Vector.ofFn fun index => state.replayWindow.getD index 0⟩
  strictLastSeen := if state.clientCounter = 0 then 0 else state.clientCounter - 1
  replayStrategy := ReplayStrategy.default
  clientCounter := state.clientCounter
  serverCounter := state.serverCounter
  attestationResult := state.attestationResult

end AttestSession

end OpenHttpa.Core
