import OpenHttpa.Core.Session

/-!
# Sessions over sequences of calls

The rest of `openhttpa-core/src/session/mod.rs`, and what the methods of a session do in sequence. A
request whose closure fails leaves no trace under the sliding window. Under the strict strategy it
sets the last nonce seen to the one before its own, so it leaves no trace exactly when its nonce was
the next one (`failed_request_unobserved_iff`). The exported state holds the bits of the sliding
window and nothing of the strict strategy, and the restored session slides
(`restored_rejects_accepted_iff`).
-/
namespace OpenHttpa.Core

open Crypto Proto

/-- `TransitionError`, the one variant that is ever built; `SessionError::Transition` wraps it. -/
structure TransitionError where
  source : ProtocolPhase
  target : ProtocolPhase

def transition (current next : ProtocolPhase) : Except TransitionError ProtocolPhase :=
  match current, next with
  | .Init, .Preflight | .Init, .AtHsInProgress | .Init, .Rtt0
  | .Preflight, .AtHsInProgress
  | .AtHsInProgress, .Attested | .Rtt0, .Attested
  | .Attested, .AtSpInProgress | .Attested, .Terminated
  | .AtSpInProgress, .SecretProvisioned
  | .SecretProvisioned, .Terminated | .Rtt0, .Terminated => .ok next
  | _, _ => .error ⟨current, next⟩

structure SessionState where
  id : AtbId
  cipherSuite : CipherSuite
  version : ProtocolVersion
  phase : ProtocolPhase
  expiresAt : Nat
  attestationResult : Option VerificationResult

inductive ClientSecurityPosture where
  | MutualTee (teeClass : TeeClass)
  | SimulatedTee
  | OneDirectional

namespace AttestSession

def state (session : AttestSession) : SessionState :=
  ⟨session.id, session.cipherSuite, session.version, session.phase, session.expiresAt,
    session.attestationResult⟩

def clientPosture (session : AttestSession) : ClientSecurityPosture :=
  match session.attestationResult with
  | none => .OneDirectional
  | some result =>
    match result.claims.teeClass with
    | some .Mock => .SimulatedTee
    | some teeClass => .MutualTee teeClass
    | none => .MutualTee .Unknown

def isAlive (now : Nat) (session : AttestSession) : Bool := decide (now < session.expiresAt)

def advancePhase (next : ProtocolPhase) (session : AttestSession) :
    Except TransitionError Unit × AttestSession :=
  match transition session.phase next with
  | .error failure => (.error failure, session)
  | .ok phase => (.ok (), { session with phase })

end AttestSession

/-- A call of a method of a session; the closures return values of given types. -/
inductive SessionCall (T E R : Type) where
  | trr (now : Nat) (nonce : UInt64) (f : SessionKeys → UInt64 → Except E T)
  | nextTrr (now : Nat) (f : SessionKeys → UInt64 → Except E T)
  | trs (now : Nat) (f : SessionKeys → UInt64 → R)
  | peekKeys (now : Nat) (f : SessionKeys → R)
  | advancePhase (next : ProtocolPhase)
  | exportDurable (nowInst nowSys : Nat)
  | state
  | clientPosture
  | isAlive (now : Nat)

inductive SessionOutcome (T E R : Type) where
  | trr (result : Except SessionError (Except E T))
  | trs (result : Except SessionError R)
  | peekKeys (result : Except SessionError R)
  | advancePhase (result : Except TransitionError Unit)
  | exportDurable (state : DurableSessionState)
  | state (state : SessionState)
  | clientPosture (posture : ClientSecurityPosture)
  | isAlive (alive : Bool)

namespace AttestSession

variable {T E R : Type}

def call (session : AttestSession) : SessionCall T E R → SessionOutcome T E R × AttestSession
  | .trr now nonce f =>
    (.trr (session.withKeysForTrr now nonce f).1, (session.withKeysForTrr now nonce f).2)
  | .nextTrr now f =>
    (.trr (session.withKeysForNextTrr now f).1, (session.withKeysForNextTrr now f).2)
  | .trs now f => (.trs (session.withKeysForTrs now f).1, (session.withKeysForTrs now f).2)
  | .peekKeys now f => (.peekKeys (session.peekKeys now f), session)
  | .advancePhase next =>
    (.advancePhase (session.advancePhase next).1, (session.advancePhase next).2)
  | .exportDurable nowInst nowSys => (.exportDurable (session.exportDurable nowInst nowSys), session)
  | .state => (.state session.state, session)
  | .clientPosture => (.clientPosture session.clientPosture, session)
  | .isAlive now => (.isAlive (session.isAlive now), session)

def outcomes (session : AttestSession) : List (SessionCall T E R) → List (SessionOutcome T E R)
  | [] => []
  | first :: rest => (session.call first).1 :: outcomes (session.call first).2 rest

variable {now : Nat} {session : AttestSession} {nonce : UInt64}
  {f : SessionKeys → UInt64 → Except E T} {failure : E}

theorem withKeysForTrr_checked
    (alive : now < session.expiresAt) (served : session.phase.allowsTrustedRequest = true)
    (nonce : UInt64) (f : SessionKeys → UInt64 → Except E T) :
    session.withKeysForTrr now nonce f =
      match session.admitNonce nonce with
      | .error failure => (.error failure, session)
      | .ok admitted =>
        match f admitted.keys admitted.clientCounter with
        | .ok value =>
          match checkedSucc (admitted.commitNonce nonce).clientCounter with
          | none => (.error .Overflow, admitted.commitNonce nonce)
          | some next => (.ok (.ok value), { admitted.commitNonce nonce with clientCounter := next })
        | .error failure => (.ok (.error failure), admitted.rollbackNonce nonce) := by
  have live : ¬ session.expiresAt ≤ now := Nat.not_le.mpr alive
  have serves : ¬ session.phase.allowsTrustedRequest = false := by simp [served]
  exact (if_neg live).trans (if_neg serves)

variable (failed : (session.withKeysForTrr now nonce f).1 = .ok (.error failure))
include failed

theorem withKeysForTrr_failed :
    now < session.expiresAt ∧ session.phase.allowsTrustedRequest = true ∧
      f session.keys session.clientCounter = .error failure ∧
      ∃ admitted, session.admitNonce nonce = .ok admitted ∧
        (session.withKeysForTrr now nonce f).2 = admitted.rollbackNonce nonce := by
  have call := session.withKeysForTrr_call now nonce f
  generalize session.withKeysForTrr now nonce f = returned at call failed ⊢
  obtain ⟨result, left⟩ := returned
  obtain rfl : result = .ok (.error failure) := failed
  cases call with
  | failed serves admits outcome => exact ⟨serves.1, serves.2, outcome, _, admits, rfl⟩

theorem withKeysForTrr_failed_sliding
    (sliding : session.replayStrategy ≠ .StrictMonotonic) :
    (session.withKeysForTrr now nonce f).2 = session := by
  obtain ⟨_, _, _, admitted, found, left⟩ := withKeysForTrr_failed failed
  rcases admitNonce_cases found with ⟨w, strategy, _, rfl⟩ | ⟨strict, _, _⟩
  · rw [left, rollbackNonce, strategy]
  · exact absurd strict sliding

theorem withKeysForTrr_failed_strict
    (strict : session.replayStrategy = .StrictMonotonic) :
    session.strictLastSeen.toNat < nonce.toNat ∧
      ∃ last : UInt64, last.toNat + 1 = nonce.toNat ∧
        (session.withKeysForTrr now nonce f).2 = { session with strictLastSeen := last } := by
  obtain ⟨_, _, _, admitted, found, left⟩ := withKeysForTrr_failed failed
  rcases admitNonce_cases found with ⟨w, sliding, _, _⟩ | ⟨_, stale, rfl⟩
  · rw [strict] at sliding
    cases sliding
  · obtain ⟨above, nonzero, before⟩ := toNat_above stale
    refine ⟨above, nonce - 1, by omega, ?_⟩
    rw [left, rollbackNonce, strict, if_neg nonzero]

omit failed

theorem admitNonce_strict (strict : session.replayStrategy = .StrictMonotonic) (nonce : UInt64) :
    session.admitNonce nonce =
      if nonce ≤ session.strictLastSeen then .error .Replay
      else .ok { session with strictLastSeen := nonce } := by
  simp only [admitNonce, strict]

theorem withKeysForTrr_stale
    (alive : now < session.expiresAt) (served : session.phase.allowsTrustedRequest = true)
    (strict : session.replayStrategy = .StrictMonotonic) (stale : nonce ≤ session.strictLastSeen)
    (f : SessionKeys → UInt64 → Except E T) :
    (session.withKeysForTrr now nonce f).1 = .error .Replay := by
  rw [withKeysForTrr_checked alive served, admitNonce_strict strict, if_pos stale]

theorem withKeysForTrr_ok_iff {value : T} :
    (session.withKeysForTrr now nonce f).1 = .ok (.ok value) ↔
      now < session.expiresAt ∧ session.phase.allowsTrustedRequest = true ∧
        (∃ admitted, session.admitNonce nonce = .ok admitted) ∧
        f session.keys session.clientCounter = .ok value ∧ session.clientCounter ≠ u64Max := by
  have call := session.withKeysForTrr_call now nonce f
  generalize session.withKeysForTrr now nonce f = returned at call ⊢
  obtain ⟨result, left⟩ := returned
  dsimp only at call ⊢
  cases call with
  | expired late => simp [Nat.not_lt.mpr late]
  | notAttested alive phase => simp [phase]
  | refused serves refuses => simp [refuses]
  | failed serves admits outcome => simp [outcome]
  | overflowed serves admits outcome full => simp [full]
  | accepted serves admits outcome below => simp [serves.1, serves.2, admits, outcome, below]

theorem withKeysForTrr_error {failure : SessionError}
    (refused : (session.withKeysForTrr now nonce f).1 = .error failure) :
    (session.withKeysForTrr now nonce f).2 = session ∨
      (session.withKeysForTrr now nonce f).2.clientCounter = u64Max := by
  have call := session.withKeysForTrr_call now nonce f
  generalize session.withKeysForTrr now nonce f = returned at call refused ⊢
  obtain ⟨result, left⟩ := returned
  obtain rfl : result = .error failure := refused
  cases call with
  | expired | notAttested | refused => exact .inl rfl
  | overflowed serves admits outcome full => exact .inr ((commitNonce_clientCounter admits).trans full)

theorem withKeysForTrr_narrows {T' E' : Type} {later : Nat} {other : UInt64}
    {g : SessionKeys → UInt64 → Except E' T'} {value : T'}
    (refused : ∀ result, (session.withKeysForTrr now nonce f).1 ≠ .ok (.ok result))
    (accepted : ((session.withKeysForTrr now nonce f).2.withKeysForTrr later other g).1 =
      .ok (.ok value)) :
    (session.withKeysForTrr later other g).1 = .ok (.ok value) := by
  cases outcome : (session.withKeysForTrr now nonce f).1 with
  | error failure =>
    rcases withKeysForTrr_error outcome with same | full
    · rwa [same] at accepted
    · exact absurd full (withKeysForTrr_ok_iff.mp accepted).2.2.2.2
  | ok result =>
    cases result with
    | ok result => exact absurd outcome (refused result)
    | error failure =>
      by_cases strict : session.replayStrategy = .StrictMonotonic
      · obtain ⟨above, last, before, left⟩ := withKeysForTrr_failed_strict outcome strict
        rw [left, withKeysForTrr_ok_iff] at accepted
        obtain ⟨alive, served, ⟨admitted, passed⟩, opened, below⟩ := accepted
        refine withKeysForTrr_ok_iff.mpr ⟨alive, served, ?_, opened, below⟩
        rw [admitNonce_strict (by exact strict)] at passed
        by_cases stale : other ≤ last
        · rw [if_pos stale] at passed
          cases passed
        · have fresh : ¬ other ≤ session.strictLastSeen := by
            rw [UInt64.le_iff_toNat_le] at stale ⊢
            omega
          rw [admitNonce_strict strict, if_neg fresh]
          exact ⟨_, rfl⟩
      · rw [withKeysForTrr_failed_sliding outcome strict] at accepted
        exact accepted

/-- A request whose closure fails is invisible to every later sequence of calls exactly when the
session slides its window or the nonce is the one after the last one seen. -/
theorem failed_request_unobserved_iff {now : Nat} {nonce : UInt64}
    {f : SessionKeys → UInt64 → Except E T} {session : AttestSession} {failure : E}
    (failed : (session.withKeysForTrr now nonce f).1 = .ok (.error failure)) :
    (∀ calls : List (SessionCall T E R),
        outcomes (session.withKeysForTrr now nonce f).2 calls = outcomes session calls) ↔
      session.replayStrategy ≠ .StrictMonotonic ∨
        nonce.toNat = session.strictLastSeen.toNat + 1 := by
  by_cases strict : session.replayStrategy = .StrictMonotonic
  · obtain ⟨above, last, before, left⟩ := withKeysForTrr_failed_strict failed strict
    rw [left]
    constructor
    · intro same
      refine .inr ?_
      by_contra skipped
      -- The nonce after the last one seen passed before the failed request and is refused after it.
      have bound := nonce.toNat_lt
      have next : (session.strictLastSeen + 1).toNat = session.strictLastSeen.toNat + 1 := by
        rw [UInt64.toNat_add, UInt64.toNat_one]
        omega
      have passed : ¬ session.strictLastSeen + 1 ≤ session.strictLastSeen := by
        rw [UInt64.le_iff_toNat_le, next]
        omega
      have refused : session.strictLastSeen + 1 ≤ last := by
        rw [UInt64.le_iff_toNat_le, next]
        omega
      obtain ⟨alive, served, refuses, _⟩ := withKeysForTrr_failed failed
      have told := same [.trr now (session.strictLastSeen + 1) f]
      have original : (session.withKeysForTrr now (session.strictLastSeen + 1) f).1 =
          .ok (.error failure) := by
        rw [withKeysForTrr_checked alive served, admitNonce_strict strict, if_neg passed]
        simp only [refuses]
      have later : ({ session with strictLastSeen := last }.withKeysForTrr now
          (session.strictLastSeen + 1) f).1 = .error .Replay := by
        apply withKeysForTrr_stale
        · exact alive
        · exact served
        · exact strict
        · exact refused
      simp only [outcomes, call, original, later] at told
      cases told
    · rintro (sliding | successor)
      · exact absurd strict sliding
      · have restored : last = session.strictLastSeen := by
          apply UInt64.toNat_inj.mp
          omega
        intro calls
        rw [restored]
  · have left := withKeysForTrr_failed_sliding failed strict
    rw [left]
    exact ⟨fun _ => .inl strict, fun _ _ => rfl⟩

def zeroSession (strategy : ReplayStrategy) : AttestSession :=
  new ⟨0⟩ .X25519MlKem768Aes256GcmSha384 .V2 .zero 10 strategy none

/-- A forged request under the next nonce leaves a new strict session ready for the honest one. -/
theorem forged_next_nonce_unobserved :
    outcomes ((zeroSession .StrictMonotonic).withKeysForTrr 0 1
        fun _ _ => (.error () : Except Unit Unit)).2
        [(.trr 0 1 fun _ _ => .ok () : SessionCall Unit Unit Unit)] =
      outcomes (zeroSession .StrictMonotonic) [.trr 0 1 fun _ _ => .ok ()] :=
  (failed_request_unobserved_iff (by rfl)).mpr (.inr (by decide)) _

/-- A forged request under nonce 5 makes a new strict session refuse the honest nonce 1. -/
theorem forged_nonce_observed :
    ((zeroSession .StrictMonotonic).withKeysForTrr 0 5
        fun _ _ => (.error () : Except Unit Unit)).1 = .ok (.error ()) ∧
      ¬ ∀ calls : List (SessionCall Unit Unit Unit),
        outcomes ((zeroSession .StrictMonotonic).withKeysForTrr 0 5
            fun _ _ => (.error () : Except Unit Unit)).2 calls =
          outcomes (zeroSession .StrictMonotonic) calls := by
  refine ⟨rfl, ?_⟩
  intro same
  have told := same [.trr 0 1 fun _ _ => .ok ()]
  cases told

/-- A session answers a nonce with `Replay`: its replay check refuses it, and so does every request
under it that comes as far as the check. -/
structure RejectsReplay (session : AttestSession) (nonce : UInt64) : Prop where
  checked : session.admitNonce nonce = .error .Replay
  /-- A live session in a phase that serves requests answers `Replay`. -/
  answered : ∀ (T E : Type) (now : Nat) (f : SessionKeys → UInt64 → Except E T),
    now < session.expiresAt → session.phase.allowsTrustedRequest = true →
      (session.withKeysForTrr now nonce f).1 = .error .Replay

theorem rejectsReplay_iff (session : AttestSession) (nonce : UInt64) :
    session.RejectsReplay nonce ↔ session.admitNonce nonce = .error .Replay := by
  constructor
  · exact RejectsReplay.checked
  · intro checked
    refine ⟨checked, ?_⟩
    intro T E now f alive served
    rw [withKeysForTrr_checked alive served, checked]

theorem admitNonce_sliding (sliding : session.replayStrategy ≠ .StrictMonotonic) (nonce : UInt64) :
    session.admitNonce nonce = .error .Replay ↔ session.replayGuard.check nonce ≠ .ok () := by
  cases strategy : session.replayStrategy with
  | StrictMonotonic => exact absurd strategy sliding
  | SlidingWindow w =>
    simp only [admitNonce, strategy]
    cases session.replayGuard.check nonce with
    | error | ok => simp

theorem admitNonce_nonzero {admitted : AttestSession}
    (admits : session.admitNonce nonce = .ok admitted) : nonce ≠ 0 := by
  rintro rfl
  cases strategy : session.replayStrategy with
  | StrictMonotonic => simp [admitNonce, strategy] at admits
  | SlidingWindow w => simp [admitNonce, strategy, ReplayGuard.check] at admits

theorem withKeysForTrr_strategy (now : Nat) (nonce : UInt64) (f : SessionKeys → UInt64 → Except E T)
    (session : AttestSession) :
    (session.withKeysForTrr now nonce f).2.replayStrategy = session.replayStrategy ∧
      (session.replayStrategy = .StrictMonotonic →
        (session.withKeysForTrr now nonce f).2.replayGuard = session.replayGuard) := by
  unfold withKeysForTrr
  split
  · exact ⟨rfl, fun _ => rfl⟩
  split
  · exact ⟨rfl, fun _ => rfl⟩
  cases found : session.admitNonce nonce with
  | error failure => exact ⟨rfl, fun _ => rfl⟩
  | ok admitted =>
    obtain ⟨last, rfl⟩ := admitNonce_eq found
    dsimp only
    cases f session.keys session.clientCounter with
    | error failure =>
      obtain ⟨before, same⟩ := rollbackNonce_eq { session with strictLastSeen := last } nonce
      simp only [same, implies_true, and_self]
    | ok value =>
      have untouched : session.replayStrategy = .StrictMonotonic →
          ({ session with strictLastSeen := last }.commitNonce nonce).replayGuard =
            session.replayGuard := by
        intro strict
        simp only [commitNonce, strict]
      obtain ⟨window, same⟩ := commitNonce_eq { session with strictLastSeen := last } nonce
      rw [same] at untouched
      simp only [same]
      cases checkedSucc session.clientCounter <;> exact ⟨rfl, untouched⟩

theorem fromDurable_replayGuard {state : DurableSessionState}
    (highest : state.replayHighest = session.replayGuard.highest)
    (window : state.replayWindow = session.replayGuard.window.toList) (nowInst nowSys : Nat) :
    (fromDurable nowInst nowSys state).replayGuard = session.replayGuard := by
  have words : (Vector.ofFn fun index : Fin 64 =>
      session.replayGuard.window.toList.getD index 0) = session.replayGuard.window := by
    ext index inside
    simp [List.getD_eq_getElem?_getD]
  simp only [fromDurable, highest, window, words]

theorem fromDurable_exportDurable (exportInst exportSys restoreInst restoreSys : Nat)
    (session : AttestSession) :
    (fromDurable restoreInst restoreSys
        (session.exportDurable exportInst exportSys)).replayGuard = session.replayGuard ∧
      (fromDurable restoreInst restoreSys
        (session.exportDurable exportInst exportSys)).clientCounter = session.clientCounter ∧
      (fromDurable restoreInst restoreSys
        (session.exportDurable exportInst exportSys)).serverCounter = session.serverCounter ∧
      (fromDurable restoreInst restoreSys
        (session.exportDurable exportInst exportSys)).replayStrategy ≠ .StrictMonotonic :=
  ⟨fromDurable_replayGuard rfl rfl restoreInst restoreSys, rfl, rfl,
    by simp [fromDurable, ReplayStrategy.default]⟩

end AttestSession

def SessionCall.nonce {T E R : Type} (session : AttestSession) : SessionCall T E R → Option UInt64
  | .trr _ nonce _ => some nonce
  | .nextTrr _ _ => some session.clientCounter
  | _ => none

/-- The outcome of a request whose closure succeeded and whose nonce was committed. -/
def SessionOutcome.accepts {T E R : Type} : SessionOutcome T E R → Bool
  | .trr (.ok (.ok _)) => true
  | _ => false

/-- A session and the nonces that passed. -/
structure SessionHistory where
  session : AttestSession
  /-- The nonces of the requests it accepted, newest first. -/
  accepted : List UInt64

/-- What can happen to a session: a call, or its replacement by the restoration of its export. -/
inductive SessionEvent (T E R : Type) where
  | call (call : SessionCall T E R)
  | restore (exportInst exportSys restoreInst restoreSys : Nat)

namespace SessionHistory

variable {T E R : Type}

def step (history : SessionHistory) : SessionEvent T E R → SessionHistory
  | .call call =>
    { session := (history.session.call call).2
      accepted :=
        match call.nonce history.session with
        | none => history.accepted
        | some nonce =>
          if (history.session.call call).1.accepts then nonce :: history.accepted
          else history.accepted }
  | .restore exportInst exportSys restoreInst restoreSys =>
    { session := AttestSession.fromDurable restoreInst restoreSys
        (history.session.exportDurable exportInst exportSys)
      accepted := [] }

/-- What the replay state of a session says about the nonces it accepted: the sliding window holds
them, and a strict session never touches its window. -/
structure Kept (history : SessionHistory) : Prop where
  strict : history.session.replayStrategy = .StrictMonotonic → history.session.replayGuard = .new
  sliding : history.session.replayStrategy ≠ .StrictMonotonic →
    ∃ spent, history.session.replayGuard.Tracks spent ∧ history.accepted ⊆ spent
  nonzero : ∀ nonce ∈ history.accepted, nonce ≠ 0

theorem Kept.congr {history : SessionHistory} (kept : history.Kept) {session : AttestSession}
    (strategy : session.replayStrategy = history.session.replayStrategy)
    (window : session.replayGuard = history.session.replayGuard) :
    Kept ⟨session, history.accepted⟩ := by
  refine ⟨?_, ?_, kept.nonzero⟩
  · rw [strategy, window]
    exact kept.strict
  · rw [strategy, window]
    exact kept.sliding

theorem Kept.request {history : SessionHistory} (kept : history.Kept) (now : Nat) (nonce : UInt64)
    (f : SessionKeys → UInt64 → Except E T) :
    Kept ⟨(history.session.withKeysForTrr now nonce f).2,
      if (SessionOutcome.trr (history.session.withKeysForTrr now nonce f).1 :
        SessionOutcome T E R).accepts then nonce :: history.accepted else history.accepted⟩ := by
  obtain ⟨strategy, untouched⟩ := history.session.withKeysForTrr_strategy now nonce f
  refine ⟨?_, ?_, ?_⟩
  · intro strict
    rw [strategy] at strict
    rw [untouched strict]
    exact kept.strict strict
  · intro sliding
    rw [strategy] at sliding
    obtain ⟨spent, tracks, held⟩ := kept.sliding sliding
    have spentBefore : history.session.Spent spent := by
      unfold AttestSession.Spent
      split
      · exact tracks
      · contradiction
    obtain ⟨spent', after, more, _, admitted⟩ :=
      history.session.withKeysForTrr_spent now nonce f spentBefore
    refine ⟨spent', ?_, ?_⟩
    · unfold AttestSession.Spent at after
      split at after
      · exact after
      · rename_i strict
        rw [strategy] at strict
        contradiction
    · cases outcome : (history.session.withKeysForTrr now nonce f).1 with
      | error failure => exact List.Subset.trans held more
      | ok result =>
        cases result with
        | error failure => exact List.Subset.trans held more
        | ok value =>
          have member := (admitted value outcome).2.1
          exact List.cons_subset.mpr ⟨member, List.Subset.trans held more⟩
  · cases outcome : (history.session.withKeysForTrr now nonce f).1 with
    | error failure => exact kept.nonzero
    | ok result =>
      cases result with
      | error failure => exact kept.nonzero
      | ok value =>
        obtain ⟨admitted, found⟩ := (AttestSession.withKeysForTrr_ok_iff.mp outcome).2.2.1
        exact List.forall_mem_cons.mpr ⟨AttestSession.admitNonce_nonzero found, kept.nonzero⟩

theorem step_kept (history : SessionHistory) (event : SessionEvent T E R) (kept : history.Kept) :
    (history.step event).Kept := by
  cases event with
  | call call =>
    cases call with
    | trr now nonce f => exact kept.request now nonce f
    | nextTrr now f => exact kept.request now history.session.clientCounter f
    | trs now f =>
      obtain ⟨counter, left, _⟩ := history.session.withKeysForTrs_keeps now f
      apply kept.congr
      · simp only [AttestSession.call, left]
      · simp only [AttestSession.call, left]
    | advancePhase next =>
      apply kept.congr
      · simp only [AttestSession.call, AttestSession.advancePhase]
        split <;> rfl
      · simp only [AttestSession.call, AttestSession.advancePhase]
        split <;> rfl
    | peekKeys | exportDurable | state | clientPosture | isAlive => exact kept
  | restore exportInst exportSys restoreInst restoreSys =>
    obtain ⟨window, _, _, slides⟩ := AttestSession.fromDurable_exportDurable exportInst exportSys
      restoreInst restoreSys history.session
    refine ⟨fun strict => absurd strict slides, ?_, by simp [step]⟩
    intro _
    simp only [step, window]
    by_cases strict : history.session.replayStrategy = .StrictMonotonic
    · rw [kept.strict strict]
      exact ⟨[], ReplayGuard.new_tracks, List.Subset.refl _⟩
    · obtain ⟨spent, tracks, _⟩ := kept.sliding strict
      exact ⟨spent, tracks, List.nil_subset _⟩

def new (id : AtbId) (cipherSuite : CipherSuite) (version : ProtocolVersion) (keys : SessionKeys)
    (expiresAt : Nat) (strategy : ReplayStrategy) (result : Option VerificationResult) :
    SessionHistory :=
  ⟨.new id cipherSuite version keys expiresAt strategy result, []⟩

theorem run_kept (id : AtbId) (cipherSuite : CipherSuite) (version : ProtocolVersion)
    (keys : SessionKeys) (expiresAt : Nat) (strategy : ReplayStrategy)
    (result : Option VerificationResult) (events : List (SessionEvent T E R)) :
    (run step (new id cipherSuite version keys expiresAt strategy result) events).Kept := by
  refine run_invariant Kept step_kept ⟨fun _ => rfl, ?_, by simp [new]⟩ events
  intro _
  exact ⟨[], ReplayGuard.new_tracks, List.Subset.refl _⟩

/-- For every session that can be reached, the restoration of its export has the counters of the
original, and answers `Replay` to every nonce the original accepted exactly when the original slides
its window or has accepted none. -/
theorem restored_rejects_accepted_iff (id : AtbId) (cipherSuite : CipherSuite)
    (version : ProtocolVersion) (keys : SessionKeys) (expiresAt : Nat) (strategy : ReplayStrategy)
    (result : Option VerificationResult) (events : List (SessionEvent T E R))
    (exportInst exportSys restoreInst restoreSys : Nat) :
    let reached := run step (new id cipherSuite version keys expiresAt strategy result) events
    let restored := AttestSession.fromDurable restoreInst restoreSys
      (reached.session.exportDurable exportInst exportSys)
    ((∀ nonce ∈ reached.accepted, restored.RejectsReplay nonce) ∧
        restored.clientCounter = reached.session.clientCounter ∧
        restored.serverCounter = reached.session.serverCounter) ↔
      reached.session.replayStrategy ≠ .StrictMonotonic ∨ reached.accepted = [] := by
  intro reached restored
  have kept : reached.Kept := run_kept id cipherSuite version keys expiresAt strategy result events
  obtain ⟨window, clientCounter, serverCounter, slides⟩ :=
    AttestSession.fromDurable_exportDurable exportInst exportSys restoreInst restoreSys
      reached.session
  have rejects : ∀ nonce, restored.RejectsReplay nonce ↔
      reached.session.replayGuard.check nonce ≠ .ok () := by
    intro nonce
    rw [AttestSession.rejectsReplay_iff, AttestSession.admitNonce_sliding slides, window]
  constructor
  · rintro ⟨all, _⟩
    by_contra neither
    obtain ⟨strict, some⟩ := not_or.mp neither
    -- The exported window of a strict session is empty, so it admits whatever is not zero.
    obtain ⟨nonce, member⟩ := List.exists_mem_of_ne_nil _ some
    apply (rejects nonce).mp (all nonce member)
    rw [kept.strict (not_not.mp strict), ReplayGuard.check_ok_iff ReplayGuard.new_tracks]
    have nonzero := kept.nonzero nonce member
    refine ⟨nonzero, List.not_mem_nil, .inl ?_⟩
    rw [UInt64.lt_iff_toNat_lt]
    exact Nat.pos_of_ne_zero fun zero => nonzero (UInt64.toNat_inj.mp zero)
  · rintro (sliding | none)
    · refine ⟨?_, clientCounter, serverCounter⟩
      intro nonce member
      obtain ⟨spent, tracks, held⟩ := kept.sliding sliding
      rw [rejects]
      intro passed
      exact ((ReplayGuard.check_ok_iff tracks nonce).mp passed).2.1 (held member)
    · refine ⟨?_, clientCounter, serverCounter⟩
      intro nonce member
      rw [none] at member
      cases member

def acceptedFirst (strategy : ReplayStrategy) : SessionHistory :=
  run step (new ⟨0⟩ .X25519MlKem768Aes256GcmSha384 .V2 .zero 10 strategy none)
    [(.call (.trr 0 1 fun _ _ => .ok ()) : SessionEvent Unit Unit Unit)]

/-- A strict session that accepted the nonce 1 is restored into one that accepts it again. -/
theorem restored_strict_session_replays :
    1 ∈ (acceptedFirst .StrictMonotonic).accepted ∧
      ¬ (AttestSession.fromDurable 0 0
        ((acceptedFirst .StrictMonotonic).session.exportDurable 0 0)).RejectsReplay 1 ∧
      ((AttestSession.fromDurable 0 0
        ((acceptedFirst .StrictMonotonic).session.exportDurable 0 0)).withKeysForTrr 0 1
          fun _ _ => (.ok () : Except Unit Unit)).1 = .ok (.ok ()) := by
  refine ⟨by decide +kernel, ?_, by decide +kernel⟩
  rw [AttestSession.rejectsReplay_iff]
  intro refused
  cases refused

end SessionHistory

end OpenHttpa.Core
