import OpenHttpa.Client.Requests

/-!
# Calls of a client side by side

`trusted_request_ext` and `trusted_request_streaming` borrow a session, so any number of calls run
on it at once. A call takes the lock of the session several times, and a `SharedSession` takes these
steps in any order. In the replay window the numbers of the requests, each read before it is used,
meet the random numbers that chunks are admitted under. `History` keeps both, so a run is free of
replay errors exactly when each number it seals under is admitted by those before it
(`sealing_never_refused_iff`).
-/
namespace OpenHttpa.Client

open OpenHttpa.Core Crypto Proto Headers

inductive ClientCall where
  /-- `trusted_request_ext`. -/
  | request (line : RequestLine) (body : Bytes) (extra : Option HeaderMap)
  /-- `trusted_request_streaming`. -/
  | upload (line : RequestLine)

namespace ClientCall

def line : ClientCall → RequestLine
  | .request line _ _ | .upload line => line

def body : ClientCall → Bytes
  | .request _ body _ => body
  | .upload _ => []

def extra : ClientCall → Option HeaderMap
  | .request _ _ extra => extra
  | .upload _ => none

def closure (codecs : RequestCodecs) (session : AttestSession) (call : ClientCall) :
    SessionKeys → UInt64 → Except ClientError SealedRequest :=
  sealBody codecs call.line call.body (requestAad codecs session)
    (coveredHeaders codecs session.id call.extra)

end ClientCall

variable (codecs : RequestCodecs)

/-- `seal_request_body` from where `with_keys_for_next_trr` has read the number of the next request
and given the lock back. -/
def sealRequestBodyUnder (now : Nat) (next : UInt64) (line : RequestLine) (body aad : Bytes)
    (extra : Option HeaderMap) (session : AttestSession) :
    Except ClientError SealedRequest × AttestSession :=
  match session.withKeysForTrr now next
      (sealBody codecs line body aad (coveredHeaders codecs session.id extra)) with
  | (.error failure, left) => (.error (.Handshake (sessionErrorText failure)), left)
  | (.ok outcome, left) => (outcome, left)

theorem sealRequestBodyUnder_ok {codecs : RequestCodecs} {now : Nat} {next : UInt64}
    {line : RequestLine} {body aad : Bytes} {extra : Option HeaderMap} {session : AttestSession}
    {sealed : SealedRequest}
    (sent : (sealRequestBodyUnder codecs now next line body aad extra session).1 = .ok sealed) :
    sealBody codecs line body aad (coveredHeaders codecs session.id extra) session.keys
        session.clientCounter = .ok sealed ∧
      session.clientCounter ≠ u64Max ∧
      (sealRequestBodyUnder codecs now next line body aad extra session).2.clientCounter =
        session.clientCounter + 1 := by
  have call := session.withKeysForTrr_call now next
    (sealBody codecs line body aad (coveredHeaders codecs session.id extra))
  unfold sealRequestBodyUnder at sent ⊢
  generalize session.withKeysForTrr now next
    (sealBody codecs line body aad (coveredHeaders codecs session.id extra)) = returned
      at call sent ⊢
  obtain ⟨result, left⟩ := returned
  rcases result with failure | outcome
  · cases sent
  · obtain rfl : outcome = .ok sealed := sent
    obtain ⟨below, counter⟩ := call.counter_of_ok
    cases call with
    | accepted serves admits made room => exact ⟨made, below, counter⟩

inductive CallState where
  | called (call : ClientCall)
  | numbered (call : ClientCall) (next : UInt64)
  | ended

structure Upload where
  stream : UploadStream
  /-- The chunks it was given and the frames it made of them, oldest first. -/
  sent : List (Bytes × StreamFrame)

/-- The numbers that sealings were attempted under, newest first. -/
structure History where
  /-- The session admitted the number and the sealing succeeded. -/
  passed : List UInt64
  /-- The session admitted the number and the sealing failed. -/
  tried : List UInt64
  /-- The session took the number for a replay, with its counter below the last value. -/
  refused : List UInt64

namespace History

/-- One more attempt. At the last value of the counter a sealing that succeeded is an overflow. -/
def record {T E : Type} (counter nonce : UInt64) (result : Except SessionError (Except E T))
    (history : History) : History :=
  match result with
  | .ok (.ok _) | .error .Overflow => { history with passed := nonce :: history.passed }
  | .ok (.error _) => { history with tried := nonce :: history.tried }
  | .error .Replay =>
    if counter = u64Max then history else { history with refused := nonce :: history.refused }
  | .error _ => history

/-- The numbers before leave room for one more. Under the sliding window it is not zero, has not
passed and lies less than the window below the highest that has. Under the strict strategy it is
above everything that has passed, and not below anything that was tried. -/
def Admits (strategy : ReplayStrategy) (nonce : UInt64) (history : History) : Prop :=
  match strategy with
  | .SlidingWindow _ =>
    nonce ≠ 0 ∧ nonce ∉ history.passed ∧ highestOf history.passed < nonce.toNat + 64 * 64
  | .StrictMonotonic =>
    highestOf history.passed < nonce.toNat ∧ highestOf history.tried ≤ nonce.toNat

/-- The replay state of the session is that of the numbers before. -/
def Held (session : AttestSession) (history : History) : Prop :=
  match session.replayStrategy with
  | .SlidingWindow _ =>
    session.Spent history.passed ∧
      session.replayGuard.highest.toNat = highestOf history.passed
  | .StrictMonotonic =>
    session.strictLastSeen.toNat = max (highestOf history.passed) (highestOf history.tried - 1)

variable {session : AttestSession} {history : History}

variable (held : history.Held session)
include held

theorem Held.congr {other : AttestSession} {after : History}
    (strategy : other.replayStrategy = session.replayStrategy)
    (window : other.replayGuard = session.replayGuard)
    (last : other.strictLastSeen = session.strictLastSeen) (passed : after.passed = history.passed)
    (tried : after.tried = history.tried) : after.Held other := by
  unfold Held AttestSession.Spent at held ⊢
  rw [strategy, window, last, passed, tried]
  exact held

theorem admits_iff (nonce : UInt64) : (∃ admitted, session.admitNonce nonce = .ok admitted) ↔
      history.Admits session.replayStrategy nonce := by
  unfold Held at held
  unfold Admits AttestSession.admitNonce
  cases strategy : session.replayStrategy with
  | SlidingWindow w =>
    simp only [strategy, AttestSession.Spent] at held ⊢
    obtain ⟨tracks, top⟩ := held
    have room : session.replayGuard.highest < nonce ∨
        session.replayGuard.highest.toNat - nonce.toNat < 64 * 64 ↔
        highestOf history.passed < nonce.toNat + 64 * 64 := by
      rw [UInt64.lt_iff_toNat_lt, top]
      omega
    rw [← room, ← ReplayGuard.check_ok_iff tracks]
    cases session.replayGuard.check nonce with
    | error | ok => simp
  | StrictMonotonic =>
    simp only [strategy] at held ⊢
    by_cases stale : nonce ≤ session.strictLastSeen
    · have below := UInt64.le_iff_toNat_le.mp stale
      simp only [if_pos stale, reduceCtorEq, exists_false, false_iff]
      omega
    · obtain ⟨above, _, _⟩ := AttestSession.toNat_above stale
      simp only [if_neg stale, Except.ok.injEq, exists_eq', true_iff]
      omega

theorem Held.pass {admitted : AttestSession} {nonce : UInt64}
    (admits : session.admitNonce nonce = .ok admitted) :
    { history with passed := nonce :: history.passed }.Held (admitted.commitNonce nonce) := by
  have room := (admits_iff held nonce).mp ⟨admitted, admits⟩
  unfold Held at held
  unfold Admits at room
  rcases AttestSession.admitNonce_cases admits with ⟨w, strategy, checked, rfl⟩ | ⟨strategy, _, rfl⟩
  · simp only [strategy, AttestSession.Spent] at held
    obtain ⟨tracks, top⟩ := held
    simp only [Held, AttestSession.Spent, AttestSession.commitNonce, strategy]
    refine ⟨ReplayGuard.accept_tracks tracks checked, ?_⟩
    rw [ReplayGuard.accept_highest, top]
    rfl
  · simp only [strategy] at held room
    simp only [Held, AttestSession.commitNonce, strategy, highestOf, List.foldr_cons]
    simp only [highestOf] at room
    omega

theorem Held.attempt {admitted : AttestSession} {nonce : UInt64}
    (admits : session.admitNonce nonce = .ok admitted) :
    { history with tried := nonce :: history.tried }.Held (admitted.rollbackNonce nonce) := by
  have room := (admits_iff held nonce).mp ⟨admitted, admits⟩
  unfold Held at held
  unfold Admits at room
  rcases AttestSession.admitNonce_cases admits with ⟨w, strategy, _, rfl⟩ | ⟨strategy, stale, rfl⟩
  · simp only [strategy] at held
    simpa only [Held, AttestSession.rollbackNonce, strategy] using held
  · simp only [strategy] at room
    obtain ⟨_, nonzero, before⟩ := AttestSession.toNat_above stale
    simp only [Held, AttestSession.rollbackNonce, strategy, if_neg nonzero, before, highestOf,
      List.foldr_cons]
    simp only [highestOf] at room
    omega

omit held

section Record

variable {T E : Type} {now : Nat} {nonce : UInt64} {f : SessionKeys → UInt64 → Except E T}
  {session left : AttestSession} {result : Except SessionError (Except E T)} {history : History}

theorem Held.record (held : history.Held session)
    (call : AttestSession.TrrCall now nonce f session result left) :
    (history.record session.clientCounter nonce result).Held left := by
  cases call with
  | expired | notAttested => exact held
  | refused serves refuses =>
    by_cases full : session.clientCounter = u64Max
    · simpa only [History.record, if_pos full] using held
    · simp only [History.record, if_neg full]
      exact held.congr rfl rfl rfl rfl rfl
  | failed serves admits outcome => exact held.attempt admits
  | overflowed serves admits outcome full => exact held.pass admits
  | accepted serves admits outcome below => exact (held.pass admits).congr rfl rfl rfl rfl rfl

theorem record_refused_iff (held : history.Held session)
    (call : AttestSession.TrrCall now nonce f session result left) :
    (history.record session.clientCounter nonce result).refused = [] ↔
      history.refused = [] ∧ (session.Serves now → session.clientCounter ≠ u64Max →
        history.Admits session.replayStrategy nonce) := by
  have admitted : ∀ {admitted}, session.admitNonce nonce = .ok admitted →
      history.Admits session.replayStrategy nonce := fun admits => (admits_iff held nonce).mp ⟨_, admits⟩
  cases call with
  | expired late =>
    have down : ¬ session.Serves now := fun serves => absurd serves.1 (Nat.not_lt.mpr late)
    simp [History.record, down]
  | notAttested alive phase =>
    have down : ¬ session.Serves now := by
      rintro ⟨_, served⟩
      rw [phase] at served
      cases served
    simp [History.record, down]
  | refused serves refuses =>
    have shut : ¬ history.Admits session.replayStrategy nonce := by
      intro room
      obtain ⟨admitted, admits⟩ := (admits_iff held nonce).mpr room
      rw [refuses] at admits
      cases admits
    by_cases full : session.clientCounter = u64Max
    · simp [History.record, full]
    · simp [History.record, full, serves, shut]
  | failed serves admits outcome => simp [History.record, admitted admits]
  | overflowed serves admits outcome full => simp [History.record, full]
  | accepted serves admits outcome below => simp [History.record, admitted admits]

end Record

end History

/-- A session that concurrent calls share. -/
structure SharedSession where
  session : AttestSession
  poisoned : Bool
  calls : List CallState
  uploads : List Upload
  /-- The bodies and chunks that were given to the transport, newest first. -/
  released : List Sealing
  history : History

/-- A step under the lock of the session. -/
inductive SharedEvent where
  | call (now : Nat) (call : ClientCall)
  /-- A call goes on: it reads the number of the next request, or seals under the one it read. -/
  | advance (index now : Nat)
  /-- A streamed request gets its next chunk, and a random number for it. -/
  | chunk (index now : Nat) (nonce : UInt64) (chunk : Bytes)
  | answer (now : Nat)

namespace SharedSession

def new (session : AttestSession) : SharedSession := ⟨session, false, [], [], [], [], [], []⟩

def sealCall (index now : Nat) (call : ClientCall) (next : UInt64)
    (shared : SharedSession) : SharedSession :=
  let session := shared.session
  let aad := requestAad codecs session
  let sent := sealRequestBodyUnder codecs now next call.line call.body aad call.extra session
  { shared with
    session := sent.2
    calls := shared.calls.set index .ended
    uploads :=
      match call, sent.1 with
      | .upload _, .ok _ => shared.uploads ++ [⟨⟨aad, Octets.zero 48⟩, []⟩]
      | _, _ => shared.uploads
    -- the body that was sealed with the headers of a streamed request is dropped
    released :=
      match call, sent.1 with
      | .request _ body _, .ok sealed =>
        ⟨counterNonce session.keys.clientWriteIv sealed.counter, aad, body, sealed.data⟩ ::
          shared.released
      | _, _ => shared.released
    history := shared.history.record session.clientCounter next
      (session.withKeysForTrr now next (call.closure codecs session)).1 }

def sealChunk (index now : Nat) (nonce : UInt64) (chunk : Bytes) (upload : Upload)
    (shared : SharedSession) : SharedSession :=
  let session := shared.session
  let history := shared.history.record session.clientCounter nonce
    (session.withKeysForTrr now nonce (sealUpload codecs upload.stream chunk)).1
  match uploadChunk codecs now nonce chunk upload.stream session with
  | (.sealed frame, after, left) =>
    { shared with
      session := left
      uploads := shared.uploads.set index ⟨after, upload.sent ++ [(chunk, frame)]⟩
      released := ⟨counterNonce session.keys.clientWriteIv frame.counter, upload.stream.chunkAad,
        chunk, frame.ciphertext⟩ :: shared.released
      history }
  | (.failed _, after, left) =>
    { shared with
      session := left
      uploads := shared.uploads.set index ⟨after, upload.sent⟩
      history }
  | (.panicked, _, _) => { shared with poisoned := true }

/-- One event on the session. -/
def step (shared : SharedSession) (event : SharedEvent) : SharedSession :=
  -- every lock of a poisoned mutex panics
  if shared.poisoned then
    shared
  else
    match event with
    | .call now call =>
      if shared.session.isAlive now = false then shared
      else { shared with calls := shared.calls ++ [.called call] }
    | .advance index now =>
      match shared.calls[index]? with
      | some (.called call) =>
        { shared with calls := shared.calls.set index (.numbered call shared.session.clientCounter) }
      | some (.numbered call next) => shared.sealCall codecs index now call next
      | _ => shared
    | .chunk index now nonce chunk =>
      match shared.uploads[index]? with
      | some upload => shared.sealChunk codecs index now nonce chunk upload
      | none => shared
    | .answer now => { shared with session := (shared.session.withKeysForTrs now fun _ _ => ()).2 }

def attempt (shared : SharedSession) (event : SharedEvent) : Option (Nat × UInt64) :=
  if shared.poisoned then
    none
  else
    match event with
    | .advance index now =>
      match shared.calls[index]? with
      | some (.numbered _ next) => some (now, next)
      | _ => none
    | .chunk index now nonce _ => (shared.uploads[index]?).map fun _ => (now, nonce)
    | _ => none

/-- What a step can do, with the sealing it attempts: none, one that panics, one that gives nothing
away, a whole request, the headers of a streamed one, or a chunk. -/
inductive Moved (codecs : RequestCodecs) (shared : SharedSession) :
    Option (Nat × UInt64) → SharedSession → Prop where
  | idle (calls : List CallState) (counter : UInt64) :
    Moved codecs shared none
      { shared with session := { shared.session with serverCounter := counter }, calls }
  | panicked {now : Nat} {nonce : UInt64} {admitted : AttestSession}
    (admits : shared.session.admitNonce nonce = .ok admitted) :
    Moved codecs shared (some (now, nonce)) { shared with poisoned := true }
  | unsealed {T E : Type} {f : SessionKeys → UInt64 → Except E T} {now : Nat} {nonce : UInt64}
    {result : Except SessionError (Except E T)} {left : AttestSession} (calls : List CallState)
    (uploads : List Upload) (call : AttestSession.TrrCall now nonce f shared.session result left)
    (nothing : ∀ value, result ≠ .ok (.ok value))
    (kept : uploads = shared.uploads ∨ ∃ index upload stream, shared.uploads[index]? = some upload ∧
      stream.aad = upload.stream.aad ∧
      (shared.session.clientCounter ≠ u64Max → stream = upload.stream) ∧
      uploads = shared.uploads.set index ⟨stream, upload.sent⟩) :
    Moved codecs shared (some (now, nonce))
      { shared with
        session := left
        calls
        uploads
        history := shared.history.record shared.session.clientCounter nonce result }
  | request {T E : Type} {f : SessionKeys → UInt64 → Except E T} {now : Nat} {nonce : UInt64}
    {value : T} {left : AttestSession} (calls : List CallState) (body data : Bytes)
    (call : AttestSession.TrrCall now nonce f shared.session (.ok (.ok value)) left)
    (sealed : codecs.cipher.encrypt ⟨shared.session.keys.clientWriteKey, .Aes256Gcm⟩
      (counterNonce shared.session.keys.clientWriteIv shared.session.clientCounter)
      (requestAad codecs shared.session) body = some data) :
    Moved codecs shared (some (now, nonce))
      { shared with
        session := left
        calls
        released := ⟨counterNonce shared.session.keys.clientWriteIv shared.session.clientCounter,
          requestAad codecs shared.session, body, data⟩ :: shared.released
        history := { shared.history with passed := nonce :: shared.history.passed } }
  | headers {T E : Type} {f : SessionKeys → UInt64 → Except E T} {now : Nat} {nonce : UInt64}
    {value : T} {left : AttestSession} (calls : List CallState)
    (call : AttestSession.TrrCall now nonce f shared.session (.ok (.ok value)) left) :
    Moved codecs shared (some (now, nonce))
      { shared with
        session := left
        calls
        uploads := shared.uploads ++ [⟨⟨requestAad codecs shared.session, Octets.zero 48⟩, []⟩]
        history := { shared.history with passed := nonce :: shared.history.passed } }
  | chunk {T E : Type} {f : SessionKeys → UInt64 → Except E T} {now : Nat} {nonce : UInt64}
    {value : T} {left : AttestSession} {index : Nat} {upload : Upload} (chunk : Bytes)
    (frame : StreamFrame) (found : shared.uploads[index]? = some upload)
    (number : frame.counter = shared.session.clientCounter)
    (call : AttestSession.TrrCall now nonce f shared.session (.ok (.ok value)) left)
    (sealed : codecs.cipher.encrypt ⟨shared.session.keys.clientWriteKey, .Aes256Gcm⟩
      (counterNonce shared.session.keys.clientWriteIv frame.counter) upload.stream.chunkAad chunk =
        some frame.ciphertext) :
    Moved codecs shared (some (now, nonce))
      { shared with
        session := left
        uploads := shared.uploads.set index
          ⟨⟨upload.stream.aad,
            chainHash codecs.sha384 upload.stream.cumulativeHash frame.ciphertext⟩,
            upload.sent ++ [(chunk, frame)]⟩
        released := ⟨counterNonce shared.session.keys.clientWriteIv frame.counter,
          upload.stream.chunkAad, chunk, frame.ciphertext⟩ :: shared.released
        history := { shared.history with passed := nonce :: shared.history.passed } }

variable {codecs : RequestCodecs} {shared after : SharedSession} {attempted : Option (Nat × UInt64)}

variable (shared)

theorem sealUpload_ok {stream : UploadStream} {chunk : Bytes}
    {keys : SessionKeys} {counter : UInt64} {frame : StreamFrame}
    (made : sealUpload codecs stream chunk keys counter = .ok frame) :
    frame.counter = counter ∧
      codecs.cipher.encrypt ⟨keys.clientWriteKey, .Aes256Gcm⟩
        (counterNonce keys.clientWriteIv frame.counter) stream.chunkAad chunk =
          some frame.ciphertext := by
  unfold sealUpload at made
  split at made
  · cases made
  · rename_i data encrypted
    split at made
    · cases made
    · cases made
      exact ⟨rfl, encrypted⟩

variable (codecs)

theorem sealCall_moved (index now : Nat) (call : ClientCall) (next : UInt64) :
    Moved codecs shared (some (now, next)) (shared.sealCall codecs index now call next) := by
  have went := shared.session.withKeysForTrr_call now next (call.closure codecs shared.session)
  have same : sealBody codecs call.line call.body (requestAad codecs shared.session)
      (coveredHeaders codecs shared.session.id call.extra) = call.closure codecs shared.session := rfl
  unfold sealCall sealRequestBodyUnder
  dsimp only
  rw [same]
  generalize shared.session.withKeysForTrr now next (call.closure codecs shared.session) = returned
    at went ⊢
  obtain ⟨result, left⟩ := returned
  dsimp only at went ⊢
  rcases result with failure | failure | sealed
  · cases call <;> exact .unsealed _ _ went (by simp) (.inl rfl)
  · cases call <;> exact .unsealed _ _ went (by simp) (.inl rfl)
  · cases call with
    | upload line => exact .headers _ went
    | request line body extra =>
      obtain ⟨counter, encrypted⟩ : sealed.counter = shared.session.clientCounter ∧ _ := by
        cases went with
        | accepted serves admits outcome below =>
          obtain ⟨number, encrypted, _⟩ := sealBody_ok outcome
          exact ⟨number, encrypted⟩
      dsimp only
      rw [counter]
      exact .request _ body sealed.data went encrypted

theorem sealChunk_moved {index now : Nat} {nonce : UInt64} {chunk : Bytes} {upload : Upload}
    (found : shared.uploads[index]? = some upload) : Moved codecs shared (some (now, nonce))
      (shared.sealChunk codecs index now nonce chunk upload) := by
  have went := shared.session.withKeysForTrr_call now nonce (sealUpload codecs upload.stream chunk)
  unfold sealChunk uploadChunk
  dsimp only
  generalize shared.session.withKeysForTrr now nonce (sealUpload codecs upload.stream chunk) = returned
    at went ⊢
  obtain ⟨result, left⟩ := returned
  dsimp only at went ⊢
  rcases result with failure | (failure | _) | frame
  · cases failure with
    | Expired | NotAttested | Replay =>
      exact .unsealed _ _ went (by simp) (.inr ⟨index, upload, _, found, rfl, fun _ => rfl, rfl⟩)
    | Overflow =>
      -- the chain has moved, and no frame comes out
      have full : shared.session.clientCounter = u64Max := by
        cases went with
        | overflowed serves admits outcome full => exact full
      exact .unsealed _ _ went (by simp) (.inr ⟨index, upload, _, found,
        by unfold UploadStream.advance; split <;> rfl,
        fun below => absurd full below, rfl⟩)
  · exact .unsealed _ _ went (by simp) (.inr ⟨index, upload, _, found, rfl, fun _ => rfl, rfl⟩)
  · cases went with
    | failed serves admits outcome => exact .panicked admits
  · have outcome : sealUpload codecs upload.stream chunk shared.session.keys
        shared.session.clientCounter = .ok frame := by
      cases went with
      | accepted serves admits outcome below => exact outcome
    obtain ⟨number, encrypted⟩ := sealUpload_ok outcome
    dsimp only
    rw [UploadStream.advance, outcome]
    exact .chunk chunk frame found number went encrypted

theorem step_moved (event : SharedEvent) :
    Moved codecs shared (shared.attempt event) (shared.step codecs event) := by
  have still : Moved codecs shared none shared := .idle shared.calls shared.session.serverCounter
  unfold attempt step
  by_cases poisoned : shared.poisoned = true
  · rw [if_pos poisoned, if_pos poisoned]
    exact still
  rw [if_neg poisoned, if_neg poisoned]
  cases event with
  | call now call =>
    dsimp only
    split
    · exact still
    · exact .idle _ shared.session.serverCounter
  | advance index now =>
    dsimp only
    rcases shared.calls[index]? with _ | (call | ⟨call, next⟩ | _)
    · exact still
    · exact .idle _ shared.session.serverCounter
    · exact sealCall_moved codecs shared index now call next
    · exact still
  | chunk index now nonce chunk =>
    dsimp only
    cases found : shared.uploads[index]? with
    | none => exact still
    | some upload => exact sealChunk_moved codecs shared found
  | answer now =>
    dsimp only
    obtain ⟨counter, same, _⟩ := shared.session.withKeysForTrs_keeps now fun _ _ => ()
    rw [same]
    exact .idle shared.calls counter

variable {codecs} {shared}

variable (moved : Moved codecs shared attempted after)
include moved

theorem Moved.session_kept :
    after.session.id = shared.session.id ∧ after.session.keys = shared.session.keys := by
  cases moved with
  | idle | panicked => exact ⟨rfl, rfl⟩
  | unsealed calls uploads call => exact ⟨call.keeps.1, call.keeps.2.1⟩
  | request calls body data call => exact ⟨call.keeps.1, call.keeps.2.1⟩
  | headers calls call => exact ⟨call.keeps.1, call.keeps.2.1⟩
  | chunk chunk frame found number call => exact ⟨call.keeps.1, call.keeps.2.1⟩

theorem Moved.keys : after.session.keys = shared.session.keys := moved.session_kept.2

theorem Moved.counter_le : shared.session.clientCounter ≤ after.session.clientCounter := by
  have next : ∀ {T E : Type} {now : Nat} {nonce : UInt64} {f : SessionKeys → UInt64 → Except E T}
      {value : T} {left : AttestSession},
      AttestSession.TrrCall now nonce f shared.session (.ok (.ok value)) left →
      shared.session.clientCounter ≤ left.clientCounter := by
    intro T E now nonce f value left call
    obtain ⟨below, counter⟩ := call.counter_of_ok
    rw [counter, UInt64.le_iff_toNat_le, toNat_succ below]
    omega
  cases moved with
  | idle | panicked => exact UInt64.le_refl _
  | unsealed calls uploads call nothing =>
    exact UInt64.le_of_eq (call.counter_of_not_ok nothing).symm
  | request calls body data call => exact next call
  | headers calls call => exact next call
  | chunk chunk frame found number call => exact next call

theorem step_held
    (held : shared.history.Held shared.session) : after.history.Held after.session := by
  cases moved with
  | idle => exact held.congr rfl rfl rfl rfl rfl
  | panicked => exact held
  | unsealed calls uploads call => exact held.record call
  | request calls body data call => exact held.record call
  | headers calls call => exact held.record call
  | chunk chunk frame found number call => exact held.record call

omit moved

variable (shared) in
/-- The sealing that a step attempts is under a number that the session has room for, if the session
serves and has not used up its counter. -/
def Roomy (event : SharedEvent) : Prop :=
  match shared.attempt event with
  | none => True
  | some (now, nonce) =>
    shared.session.Serves now → shared.session.clientCounter ≠ u64Max →
      shared.history.Admits shared.session.replayStrategy nonce

theorem step_refused_iff (codecs : RequestCodecs)
    (held : shared.history.Held shared.session) (event : SharedEvent) :
    (shared.step codecs event).history.refused = [] ↔
      shared.history.refused = [] ∧ shared.Roomy event := by
  have moved := step_moved codecs shared event
  unfold Roomy
  generalize shared.attempt event = attempted at moved ⊢
  generalize shared.step codecs event = after at moved ⊢
  cases moved with
  | idle => simp
  | panicked admits =>
    have room := (History.admits_iff held _).mp ⟨_, admits⟩
    simp [room]
  | unsealed calls uploads call => exact History.record_refused_iff held call
  | request calls body data call => exact History.record_refused_iff held call
  | headers calls call => exact History.record_refused_iff held call
  | chunk chunk frame found number call => exact History.record_refused_iff held call

/-- What was given away was encrypted under the numbers below the counter, each once. -/
structure Numbered (codecs : RequestCodecs) (keys : SessionKeys) (shared : SharedSession) : Prop where
  sameKeys : shared.session.keys = keys
  sealed : ∀ sealing ∈ shared.released, ∃ number < shared.session.clientCounter,
    sealing.nonce = counterNonce keys.clientWriteIv number ∧
      codecs.cipher.encrypt ⟨keys.clientWriteKey, .Aes256Gcm⟩ sealing.nonce sealing.aad
        sealing.plaintext = some sealing.ciphertext
  distinct : (shared.released.map (·.nonce)).Nodup

section Numbers

variable {codecs : RequestCodecs} {keys : SessionKeys} {shared after : SharedSession}

theorem Numbered.keep (numbered : shared.Numbered codecs keys)
    (unmoved : after.session.keys = shared.session.keys)
    (counter : shared.session.clientCounter ≤ after.session.clientCounter)
    (released : after.released = shared.released) : after.Numbered codecs keys where
  sameKeys := unmoved.trans numbered.sameKeys
  sealed sealing member := by
    rw [released] at member
    obtain ⟨number, below, made⟩ := numbered.sealed sealing member
    exact ⟨number, UInt64.lt_of_lt_of_le below counter, made⟩
  distinct := by
    rw [released]
    exact numbered.distinct

theorem Numbered.release (numbered : shared.Numbered codecs keys)
    (unmoved : after.session.keys = shared.session.keys)
    (below : shared.session.clientCounter ≠ u64Max)
    (counter : after.session.clientCounter = shared.session.clientCounter + 1) {sealing : Sealing}
    (released : after.released = sealing :: shared.released)
    (nonce : sealing.nonce =
      counterNonce shared.session.keys.clientWriteIv shared.session.clientCounter)
    (made : codecs.cipher.encrypt ⟨shared.session.keys.clientWriteKey, .Aes256Gcm⟩ sealing.nonce
      sealing.aad sealing.plaintext = some sealing.ciphertext) : after.Numbered codecs keys := by
  have next : shared.session.clientCounter < after.session.clientCounter := by
    rw [counter, UInt64.lt_iff_toNat_lt, toNat_succ below]
    omega
  rw [numbered.sameKeys] at nonce made
  refine ⟨unmoved.trans numbered.sameKeys, ?_, ?_⟩
  · rw [released]
    intro one member
    rcases List.mem_cons.mp member with rfl | old
    · exact ⟨shared.session.clientCounter, next, nonce, made⟩
    · obtain ⟨number, lower, earlier⟩ := numbered.sealed one old
      exact ⟨number, UInt64.lt_trans lower next, earlier⟩
  · rw [released, List.map_cons, List.nodup_cons]
    refine ⟨?_, numbered.distinct⟩
    intro used
    obtain ⟨one, old, same⟩ := List.mem_map.mp used
    obtain ⟨number, lower, other, _⟩ := numbered.sealed one old
    have equal := counterNonce_injective (other.symm.trans (same.trans nonce))
    rw [equal] at lower
    exact absurd lower (UInt64.lt_irrefl _)

theorem step_numbered (moved : Moved codecs shared attempted after)
    (numbered : shared.Numbered codecs keys) : after.Numbered codecs keys := by
  have unmoved := moved.keys
  have forward := moved.counter_le
  cases moved with
  | idle | panicked | unsealed | headers => exact numbered.keep unmoved forward rfl
  | request calls body data call sealed =>
    obtain ⟨below, counter⟩ := call.counter_of_ok
    exact numbered.release unmoved below counter rfl rfl sealed
  | chunk chunk frame found number call sealed =>
    obtain ⟨below, counter⟩ := call.counter_of_ok
    refine numbered.release unmoved below counter rfl ?_ sealed
    rw [number]

end Numbers

end SharedSession

open SharedSession

/-- Whatever calls run on a new session, however their steps fall and whatever numbers are drawn for
their chunks: no sealing is refused as a replay with the counter below its end exactly when every
sealing is attempted under a number that those before leave room for. -/
theorem sealing_never_refused_iff (codecs : RequestCodecs) (id : AtbId) (suite : CipherSuite)
    (version : ProtocolVersion) (keys : SessionKeys) (expiresAt : Nat) (strategy : ReplayStrategy)
    (result : Option VerificationResult) (events : List SharedEvent) :
    (run (step codecs) (new (.new id suite version keys expiresAt strategy result))
        events).history.refused = [] ↔
      Along (step codecs) Roomy (new (.new id suite version keys expiresAt strategy result)) events := by
  have start : (new (.new id suite version keys expiresAt strategy result)).history.Held
      (new (.new id suite version keys expiresAt strategy result)).session := by
    cases strategy with
    | SlidingWindow w => exact ⟨ReplayGuard.new_tracks, rfl⟩
    | StrictMonotonic => rfl
  have kept : ∀ shared event, shared.history.Held shared.session → True →
      (step codecs shared event).history.Held (step codecs shared event).session :=
    fun shared event held _ => step_held (step_moved codecs shared event) held
  have whole := run_iff_along (fun shared : SharedSession => shared.history.refused = []) kept
    (fun shared event held _ => step_refused_iff codecs held event) start
    (along_of_forall (fun _ _ => trivial) _ events)
  rw [whole]
  exact and_iff_right rfl

def overtaken : List SharedEvent :=
  [.call 0 (.upload chatLine), .advance 0 0, .advance 0 0, .chunk 0 0 0x8000000000000000 [7],
    .call 0 (.request chatLine [8] none), .advance 1 0, .advance 1 0]

def sideBySide : List SharedEvent :=
  [.call 0 (.request chatLine [7] none), .call 0 (.request chatLine [8] none), .advance 0 0,
    .advance 1 0, .advance 0 0, .advance 1 0]

/-- A request after a streamed one is refused as a replay, because the number drawn for a chunk has
moved the window past it. The second of two requests that read the same number is refused too. -/
theorem next_request_refused :
    (run (step plainCodecs) (new (.zeroSession .default)) overtaken).history.refused = [3] ∧
      (run (step plainCodecs) (new (.zeroSession .default)) sideBySide).history.refused = [1] := by
  decide +kernel

/-- Whatever calls run on a session, however their steps fall and whichever of them fail: everything
that was given to the transport was encrypted under the client's write key, and no two under the same
nonce. -/
theorem released_nonces_distinct (codecs : RequestCodecs) (session : AttestSession)
    (events : List SharedEvent) :
    ((run (step codecs) (new session) events).released.map (·.nonce)).Nodup ∧
      ∀ sealing ∈ (run (step codecs) (new session) events).released,
        codecs.cipher.encrypt ⟨session.keys.clientWriteKey, .Aes256Gcm⟩ sealing.nonce sealing.aad
          sealing.plaintext = some sealing.ciphertext := by
  have start : (new session).Numbered codecs session.keys :=
    ⟨rfl, by simp [new], by simp [new]⟩
  have numbered := run_invariant (fun shared => shared.Numbered codecs session.keys)
    (fun shared event held => step_numbered (step_moved codecs shared event) held) start events
  refine ⟨numbered.distinct, ?_⟩
  intro sealing member
  obtain ⟨_, _, _, made⟩ := numbered.sealed sealing member
  exact made

end OpenHttpa.Client
