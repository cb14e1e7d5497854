import OpenHttpa.Core.Session
import OpenHttpa.Core.Wire
import OpenHttpa.Crypto.Aead

/-!
# Trusted requests and responses on the server

`openhttpa-server/src/extractors.rs`. `OpenHttpaSession::seal` and `seal_stream` encrypt under
the server write key with the nonce of the session's response counter; `EncryptedJson` and
`EncryptedStream` decrypt under the client write key with the nonce the message itself names,
inside `with_keys_for_trr`. A response carries the session's associated data alone, a stream
chunk also the hash chained over the ciphertexts before it.
-/
namespace OpenHttpa.Server

open OpenHttpa.Core Crypto Proto

structure Rejection where
  status : Nat
  message : String
deriving DecidableEq

structure SealedResponse where
  baseId : AtbId
  body : Bytes

/-- The encryption the closure of `with_keys_for_trs` performs; it runs exactly when the session
has not expired. -/
def trsEncryption (now : Nat) (session : AttestSession) : List Encryption :=
  if session.expiresAt ≤ now then []
  else [⟨session.keys.serverWriteKey, counterNonce session.keys.serverWriteIv session.serverCounter⟩]

/-- The closure of `seal` and `seal_stream`: encrypt under the server write key. -/
def sealWith (cipher : Cipher) (aad plaintext : Bytes) (keys : SessionKeys) (counter : UInt64) :
    Option Bytes :=
  cipher.encrypt ⟨keys.serverWriteKey, .Aes256Gcm⟩ (counterNonce keys.serverWriteIv counter) aad
    plaintext

/-- `OpenHttpaSession::seal`; `value` is the outcome of `serde_json::to_vec`. The second component
is the encryption performed. -/
def sealResponse (cipher : Cipher) (codec : BodyCodec) (now : Nat) (aad : Bytes)
    (value : Except String Bytes) (session : AttestSession) :
    Except Rejection SealedResponse × List Encryption × AttestSession :=
  match value with
  | .error reason => (.error ⟨500, "Serialisation error: " ++ reason⟩, [], session)
  | .ok plaintext =>
    let performed := trsEncryption now session
    match session.withKeysForTrs now (sealWith cipher aad plaintext) with
    | (.error failure, left) => (.error ⟨401, sessionErrorText failure⟩, performed, left)
    | (.ok none, left) => (.error ⟨500, "Encryption failed"⟩, performed, left)
    | (.ok (some data), left) => (.ok ⟨session.id, codec.render data⟩, performed, left)

variable {now : Nat} {session : AttestSession} {cipher : Cipher} {aad : Bytes}

variable (cipher) (codec : BodyCodec)

theorem sealResponse_live (aad plaintext : Bytes) (alive : now < session.expiresAt)
    (below : session.serverCounter ≠ u64Max) :
    (sealResponse cipher codec now aad (.ok plaintext) session).2 = ([⟨session.keys.serverWriteKey,
          counterNonce session.keys.serverWriteIv session.serverCounter⟩],
        { session with serverCounter := session.serverCounter + 1 }) := by
  have performed : trsEncryption now session =
      [⟨session.keys.serverWriteKey,
        counterNonce session.keys.serverWriteIv session.serverCounter⟩] :=
    if_neg (Nat.not_le.mpr alive)
  simp only [sealResponse, performed, AttestSession.withKeysForTrs_live _ alive below]
  cases sealWith cipher aad plaintext session.keys session.serverCounter <;> rfl

theorem sealResponse_expired (aad : Bytes) (value : Except String Bytes)
    (expired : session.expiresAt ≤ now) :
    (sealResponse cipher codec now aad value session).2 = ([], session) := by
  cases value with
  | error reason => rfl
  | ok plaintext =>
    have performed : trsEncryption now session = [] := if_pos expired
    simp only [sealResponse, performed, AttestSession.withKeysForTrs_expired _ expired]

theorem sealResponse_keeps (now : Nat) (aad : Bytes) (value : Except String Bytes)
    (session : AttestSession) : ∃ counter, (sealResponse cipher codec now aad value session).2.2 =
      { session with serverCounter := counter } ∧ session.serverCounter.toNat ≤ counter.toNat := by
  cases value with
  | error reason => exact ⟨session.serverCounter, rfl, Nat.le_refl _⟩
  | ok plaintext =>
    obtain ⟨counter, kept, forward⟩ :=
      session.withKeysForTrs_keeps now (sealWith cipher aad plaintext)
    refine ⟨counter, ?_, forward⟩
    rw [← kept]
    simp only [sealResponse]
    split <;> simp_all

theorem sealResponse_counter (now : Nat) (aad plaintext : Bytes) (session : AttestSession) :
    (sealResponse cipher codec now aad (.ok plaintext) session).2.2.serverCounter.toNat =
      min (session.serverCounter.toNat + if now < session.expiresAt then 1 else 0) (2 ^ 64 - 1) := by
  rw [← session.withKeysForTrs_counter now (sealWith cipher aad plaintext)]
  simp only [sealResponse]
  split <;> simp_all

variable {cipher}

theorem sealResponse_ok {codec : BodyCodec} {value : Except String Bytes} {response : SealedResponse}
    (sealed : (sealResponse cipher codec now aad value session).1 = .ok response) :
    ∃ plaintext ciphertext, value = .ok plaintext ∧
      sealWith cipher aad plaintext session.keys session.serverCounter = some ciphertext ∧
      response.body = codec.render ciphertext ∧ session.serverCounter ≠ u64Max ∧
      (sealResponse cipher codec now aad value session).2.2 =
        { session with serverCounter := session.serverCounter + 1 } := by
  cases value with
  | error reason => cases sealed
  | ok plaintext =>
    simp only [sealResponse] at sealed ⊢
    cases returned : session.withKeysForTrs now (sealWith cipher aad plaintext) with
    | mk result left =>
      rw [returned] at sealed
      rcases result with failure | _ | data
      · cases sealed
      · cases sealed
      · obtain ⟨_, below, encrypted, moved⟩ := AttestSession.withKeysForTrs_ok returned
        cases sealed
        exact ⟨plaintext, data, rfl, encrypted.symm, rfl, below, moved⟩

variable (cipher)

/-- The state `seal_stream` keeps between chunks. -/
structure SealStream where
  aad : Bytes
  cumulativeHash : Octets 48

def SealStream.start (aad : Bytes) : SealStream := ⟨aad, Octets.zero 48⟩

def SealStream.chunkAad (stream : SealStream) : Bytes := stream.aad ++ stream.cumulativeHash.bytes

variable (sha384 : Bytes → Octets 48)

/-- The stream after the closure of `seal_stream` ran on a chunk: the chain moves as soon as the
chunk is encrypted. -/
def SealStream.advance (now : Nat) (plaintext : Bytes) (session : AttestSession)
    (stream : SealStream) : SealStream :=
  if session.expiresAt ≤ now then stream
  else
    match sealWith cipher stream.chunkAad plaintext session.keys session.serverCounter with
    | none => stream
    | some data => { stream with cumulativeHash := chainHash sha384 stream.cumulativeHash data }

/-- What sealing one item of a stream comes to. A chunk whose length does not fit its field makes
the closure panic, which poisons the session. -/
inductive ChunkOutcome where
  | sealed (frame : StreamFrame)
  | failed (message : String)
  | panicked
deriving DecidableEq

/-- One item of `seal_stream`; `item` is the item after `serde_json::to_vec`. -/
def sealChunk (now : Nat) (stream : SealStream) (item : Except String Bytes)
    (session : AttestSession) : ChunkOutcome × List Encryption × AttestSession × SealStream :=
  match item with
  | .error reason => (.failed reason, [], session, stream)
  | .ok plaintext =>
    let performed := trsEncryption now session
    let after := stream.advance cipher sha384 now plaintext session
    match session.withKeysForTrs now (sealWith cipher stream.chunkAad plaintext) with
    | (.error _, left) => (.failed "Seal fail", performed, left, after)
    | (.ok none, left) => (.failed "Seal fail", performed, left, after)
    | (.ok (some data), left) =>
      if 2 ^ 32 ≤ data.length then (.panicked, performed, session, after)
      else (.sealed ⟨session.serverCounter, data⟩, performed, left, after)

theorem sealChunk_live (stream : SealStream) (plaintext : Bytes) (alive : now < session.expiresAt)
    (below : session.serverCounter ≠ u64Max) :
    ∃ outcome left after, sealChunk cipher sha384 now stream (.ok plaintext) session =
        (outcome, [⟨session.keys.serverWriteKey,
          counterNonce session.keys.serverWriteIv session.serverCounter⟩], left, after) ∧
      ((outcome = .panicked ∧ left = session) ∨ (outcome ≠ .panicked ∧
          left = { session with serverCounter := session.serverCounter + 1 })) := by
  have performed : trsEncryption now session =
      [⟨session.keys.serverWriteKey,
        counterNonce session.keys.serverWriteIv session.serverCounter⟩] :=
    if_neg (Nat.not_le.mpr alive)
  simp only [sealChunk, performed, AttestSession.withKeysForTrs_live _ alive below]
  cases sealWith cipher stream.chunkAad plaintext session.keys session.serverCounter with
  | none => exact ⟨_, _, _, rfl, .inr ⟨by simp, rfl⟩⟩
  | some data =>
    by_cases large : 2 ^ 32 ≤ data.length
    · simp only [if_pos large]
      exact ⟨_, _, _, rfl, .inl ⟨rfl, rfl⟩⟩
    · simp only [if_neg large]
      exact ⟨_, _, _, rfl, .inr ⟨by simp, rfl⟩⟩

theorem sealChunk_expired (stream : SealStream) (item : Except String Bytes)
    (expired : session.expiresAt ≤ now) :
    ∃ message, sealChunk cipher sha384 now stream item session =
      (.failed message, [], session, stream) := by
  cases item with
  | error reason => exact ⟨reason, rfl⟩
  | ok plaintext =>
    have performed : trsEncryption now session = [] := if_pos expired
    have unmoved : stream.advance cipher sha384 now plaintext session = stream := if_pos expired
    refine ⟨"Seal fail", ?_⟩
    simp only [sealChunk, performed, unmoved, AttestSession.withKeysForTrs_expired _ expired]

theorem sealChunk_keeps (now : Nat) (stream : SealStream) (item : Except String Bytes)
    (session : AttestSession) : ∃ counter, (sealChunk cipher sha384 now stream item session).2.2.1 =
      { session with serverCounter := counter } ∧ session.serverCounter.toNat ≤ counter.toNat := by
  cases item with
  | error reason => exact ⟨session.serverCounter, rfl, Nat.le_refl _⟩
  | ok plaintext =>
    obtain ⟨counter, kept, forward⟩ :=
      session.withKeysForTrs_keeps now (sealWith cipher stream.chunkAad plaintext)
    simp only [sealChunk]
    cases returned : session.withKeysForTrs now (sealWith cipher stream.chunkAad plaintext) with
    | mk result left =>
      rw [returned] at kept
      rcases result with failure | _ | data
      · exact ⟨counter, kept, forward⟩
      · exact ⟨counter, kept, forward⟩
      · dsimp only
        split
        · exact ⟨session.serverCounter, rfl, Nat.le_refl _⟩
        · exact ⟨counter, kept, forward⟩

theorem sealChunk_counter (now : Nat) (stream : SealStream) (plaintext : Bytes)
    (session : AttestSession) :
    (sealChunk cipher sha384 now stream (.ok plaintext) session).1 = .panicked ∨
    (sealChunk cipher sha384 now stream (.ok plaintext) session).2.2.1.serverCounter.toNat =
      min (session.serverCounter.toNat + if now < session.expiresAt then 1 else 0) (2 ^ 64 - 1) := by
  rw [← session.withKeysForTrs_counter now (sealWith cipher stream.chunkAad plaintext)]
  simp only [sealChunk]
  cases session.withKeysForTrs now (sealWith cipher stream.chunkAad plaintext) with
  | mk result left =>
    rcases result with failure | _ | data
    · exact .inr rfl
    · exact .inr rfl
    · by_cases large : 2 ^ 32 ≤ data.length
      · exact .inl (by simp only [if_pos large])
      · exact .inr (by simp only [if_neg large])

variable {sha384} {stream : SealStream} {item : Except String Bytes}
  {hmac : Octets 32 → Bytes → Bytes} {request : JsonRequest} {spent : List UInt64}

variable {cipher} (hmac)

theorem sealChunk_sealed {frame : StreamFrame}
    (sealed : (sealChunk cipher sha384 now stream item session).1 = .sealed frame) :
    ∃ plaintext, item = .ok plaintext ∧
      sealWith cipher stream.chunkAad plaintext session.keys session.serverCounter =
        some frame.ciphertext ∧
      frame.counter = session.serverCounter ∧ session.serverCounter ≠ u64Max ∧
      (sealChunk cipher sha384 now stream item session).2.2 =
        ({ session with serverCounter := session.serverCounter + 1 },
          { stream with
            cumulativeHash := chainHash sha384 stream.cumulativeHash frame.ciphertext }) := by
  cases item with
  | error reason => cases sealed
  | ok plaintext =>
    simp only [sealChunk] at sealed ⊢
    cases returned : session.withKeysForTrs now (sealWith cipher stream.chunkAad plaintext) with
    | mk result left =>
      rw [returned] at sealed
      rcases result with failure | _ | data
      · cases sealed
      · cases sealed
      · obtain ⟨alive, below, encrypted, moved⟩ := AttestSession.withKeysForTrs_ok returned
        dsimp only at sealed ⊢
        split at sealed
        · cases sealed
        · rename_i small
          cases sealed
          refine ⟨plaintext, rfl, encrypted.symm, rfl, below, ?_⟩
          rw [if_neg small, moved, SealStream.advance, if_neg (Nat.not_le.mpr alive), ← encrypted]

theorem sealChunk_aad (cipher : Cipher) (sha384 : Bytes → Octets 48) (now : Nat)
    (stream : SealStream) (item : Except String Bytes) (session : AttestSession) :
    (sealChunk cipher sha384 now stream item session).2.2.2.aad = stream.aad := by
  cases item with
  | error reason => rfl
  | ok plaintext =>
    have advanced : (stream.advance cipher sha384 now plaintext session).aad = stream.aad := by
      unfold SealStream.advance
      split
      · rfl
      · split <;> rfl
    simp only [sealChunk]
    split
    · exact advanced
    · exact advanced
    · split <;> exact advanced

theorem sealChunk_failed {message : String}
    (failed : (sealChunk cipher sha384 now stream item session).1 = .failed message)
    (below : session.serverCounter ≠ u64Max) :
    (sealChunk cipher sha384 now stream item session).2.2.2 = stream := by
  cases item with
  | error reason => rfl
  | ok plaintext =>
    by_cases expired : session.expiresAt ≤ now
    · obtain ⟨text, nothing⟩ := sealChunk_expired cipher sha384 stream (.ok plaintext) expired
      rw [nothing]
    · have alive := Nat.not_le.mp expired
      simp only [sealChunk, AttestSession.withKeysForTrs_live _ alive below] at failed ⊢
      cases encrypted :
          sealWith cipher stream.chunkAad plaintext session.keys session.serverCounter with
      | none => simp [SealStream.advance, expired, encrypted]
      | some data =>
        rw [encrypted] at failed
        dsimp only at failed
        split at failed <;> cases failed

variable (cipher)

/-- The parts of a trusted request that `EncryptedJson` reads. -/
structure JsonRequest where
  nonce : UInt64
  mac : Bytes
  authority : String
  /-- The attested header list, as `update_ahl` feeds it to the MAC. -/
  ahl : Except String Bytes
  ciphertext : Bytes

/-- The closure of `EncryptedJson::from_request`: verify the header MAC, then decrypt. -/
def openJson (aad : Bytes) (request : JsonRequest) (keys : SessionKeys)
    (_counter : UInt64) : Except Rejection Bytes :=
  if request.authority.isEmpty then
    .error ⟨400, "Missing Host / authority header — required for AHL integrity"⟩
  else
    match request.ahl with
    | .error reason => .error ⟨400, "AHL error: " ++ reason⟩
    | .ok ahl =>
      if hmac keys.clientMacKey (u64Be request.nonce ++ ahl) ≠ request.mac then
        .error ⟨401, "Invalid header MAC"⟩
      else
        match cipher.decrypt ⟨keys.clientWriteKey, .Aes256Gcm⟩
            (counterNonce keys.clientWriteIv request.nonce) aad request.ciphertext with
        | none => .error ⟨400, "Decryption failed"⟩
        | some plaintext => .ok plaintext

/-- `EncryptedJson::from_request` up to the plaintext, which is then parsed as JSON. -/
def encryptedJson (now : Nat) (aad : Bytes) (request : JsonRequest)
    (session : AttestSession) : Except Rejection Bytes × AttestSession :=
  match session.withKeysForTrr now request.nonce (openJson cipher hmac aad request) with
  | (.error failure, left) => (.error ⟨401, sessionErrorText failure⟩, left)
  | (.ok (.error rejection), left) => (.error rejection, left)
  | (.ok (.ok plaintext), left) => (.ok plaintext, left)

/-- The closure of `EncryptedStream`: decrypt under the counter of the frame and the chain. -/
def openChunk (aad : Bytes) (previous : Octets 48) (frame : StreamFrame) (keys : SessionKeys)
    (_counter : UInt64) : Except String Bytes :=
  match cipher.decrypt ⟨keys.clientWriteKey, .Aes256Gcm⟩
      (counterNonce keys.clientWriteIv frame.counter) (aad ++ previous.bytes)
      frame.ciphertext with
  | none => .error "Stream dec fail: OpenFailed"
  | some plaintext => .ok plaintext

/-- One frame of `EncryptedStream`: the chunk and the chain after it, or an error that leaves the
chain as it was. -/
def encryptedStreamFrame (sha384 : Bytes → Octets 48) (now : Nat) (aad : Bytes)
    (previous : Octets 48) (frame : StreamFrame) (session : AttestSession) :
    Except String Bytes × Octets 48 × AttestSession :=
  match session.withKeysForTrr now frame.counter (openChunk cipher aad previous frame) with
  | (.error failure, left) => (.error (sessionErrorText failure), previous, left)
  | (.ok (.error reason), left) => (.error reason, previous, left)
  | (.ok (.ok plaintext), left) =>
    (.ok plaintext, chainHash sha384 previous frame.ciphertext, left)

variable {cipher} {hmac}

theorem encryptedJson_ok_iff {plaintext : Bytes} :
    (encryptedJson cipher hmac now aad request session).1 = .ok plaintext ↔
      (session.withKeysForTrr now request.nonce (openJson cipher hmac aad request)).1 =
        .ok (.ok plaintext) := by
  unfold encryptedJson
  rcases session.withKeysForTrr now request.nonce (openJson cipher hmac aad request) with
    ⟨failure | rejection | found, left⟩ <;> simp

theorem encryptedJson_left :
    (encryptedJson cipher hmac now aad request session).2 =
      (session.withKeysForTrr now request.nonce (openJson cipher hmac aad request)).2 := by
  unfold encryptedJson
  rcases session.withKeysForTrr now request.nonce (openJson cipher hmac aad request) with
    ⟨failure | rejection | found, left⟩ <;> rfl

theorem encryptedJson_spent (cipher : Cipher) (hmac : Octets 32 → Bytes → Bytes) (now : Nat)
    (aad : Bytes) (request : JsonRequest) (held : session.Spent spent) :
    ∃ spent', (encryptedJson cipher hmac now aad request session).2.Spent spent' ∧
      spent ⊆ spent' ∧ (encryptedJson cipher hmac now aad request session).2.keys = session.keys ∧
      ∀ plaintext, (encryptedJson cipher hmac now aad request session).1 = .ok plaintext →
        request.nonce ∉ spent ∧ request.nonce ∈ spent' ∧
          cipher.OpensAt (counterNonce session.keys.clientWriteIv request.nonce)
            request.ciphertext := by
  obtain ⟨spent', after, more, keys, admitted⟩ :=
    session.withKeysForTrr_spent now request.nonce (openJson cipher hmac aad request) held
  rw [encryptedJson_left]
  refine ⟨spent', after, more, keys, ?_⟩
  intro plaintext accepted
  obtain ⟨fresh, committed, counter, opened⟩ :=
    admitted plaintext (encryptedJson_ok_iff.mp accepted)
  refine ⟨fresh, committed, ⟨session.keys.clientWriteKey, .Aes256Gcm⟩, aad, plaintext, ?_⟩
  unfold openJson at opened
  repeat' split at opened
  all_goals simp_all

section Frame

variable {cipher : Cipher} {sha384 : Bytes → Octets 48} {now : Nat} {aad : Bytes}
  {previous : Octets 48} {frame : StreamFrame} {session : AttestSession}

theorem encryptedStreamFrame_ok_iff {plaintext : Bytes} :
    (encryptedStreamFrame cipher sha384 now aad previous frame session).1 = .ok plaintext ↔
      (session.withKeysForTrr now frame.counter (openChunk cipher aad previous frame)).1 =
        .ok (.ok plaintext) := by
  unfold encryptedStreamFrame
  rcases session.withKeysForTrr now frame.counter (openChunk cipher aad previous frame) with
    ⟨failure | reason | chunk, left⟩ <;> simp

theorem encryptedStreamFrame_left :
    (encryptedStreamFrame cipher sha384 now aad previous frame session).2.2 =
      (session.withKeysForTrr now frame.counter (openChunk cipher aad previous frame)).2 := by
  unfold encryptedStreamFrame
  rcases session.withKeysForTrr now frame.counter (openChunk cipher aad previous frame) with
    ⟨failure | reason | chunk, left⟩ <;> rfl

end Frame

theorem encryptedStreamFrame_spent (cipher : Cipher) (sha384 : Bytes → Octets 48) (now : Nat)
    (aad : Bytes) (previous : Octets 48) (frame : StreamFrame) (held : session.Spent spent) :
    ∃ spent', (encryptedStreamFrame cipher sha384 now aad previous frame session).2.2.Spent spent' ∧
      spent ⊆ spent' ∧ (encryptedStreamFrame cipher sha384 now aad previous frame session).2.2.keys =
        session.keys ∧
      ∀ plaintext,
        (encryptedStreamFrame cipher sha384 now aad previous frame session).1 = .ok plaintext →
        frame.counter ∉ spent ∧ frame.counter ∈ spent' ∧
          cipher.OpensAt (counterNonce session.keys.clientWriteIv frame.counter)
            frame.ciphertext := by
  obtain ⟨spent', after, more, keys, admitted⟩ :=
    session.withKeysForTrr_spent now frame.counter (openChunk cipher aad previous frame) held
  rw [encryptedStreamFrame_left]
  refine ⟨spent', after, more, keys, ?_⟩
  intro plaintext accepted
  obtain ⟨fresh, committed, counter, opened⟩ :=
    admitted plaintext (encryptedStreamFrame_ok_iff.mp accepted)
  refine ⟨fresh, committed, ⟨session.keys.clientWriteKey, .Aes256Gcm⟩, aad ++ previous.bytes,
    plaintext, ?_⟩
  unfold openChunk at opened
  split at opened <;> simp_all

end OpenHttpa.Server
