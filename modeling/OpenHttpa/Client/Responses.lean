import OpenHttpa.Core.Session
import OpenHttpa.Core.Wire
import OpenHttpa.Crypto.Aead

/-!
# Responses at the client

The receiving half of `trusted_request_ext` and `trusted_request_streaming` in
`openhttpa-client/src/client.rs`. A whole response carries no number: the client opens it under its
own response counter, which moves whenever the body could be parsed. A stream frame carries its
number on the wire; the client opens it under that number and the hash chained over the frames it
has opened, and moves its own counter once for every frame.
-/
namespace OpenHttpa.Client

open OpenHttpa.Core Crypto Proto

inductive ClientError where
  | Handshake (message : String)
  | Transport (message : String)
  | Attestation (message : String)
  | NotAttested
  | Serialisation (message : String)
  | KeyExchange (message : String)

def ClientError.display : ClientError → String
  | Handshake message => "handshake error: " ++ message
  | Transport message => "transport error: " ++ message
  | Attestation message => "attestation verification failed: " ++ message
  | NotAttested => "session not attested"
  | Serialisation message => "serialisation error: " ++ message
  | KeyExchange message => "key exchange error: " ++ message

variable (cipher : Cipher)

/-- The closure of `unseal_response_body`. -/
def openResponse (aad ciphertext : Bytes) (keys : SessionKeys)
    (counter : UInt64) : Except ClientError Bytes :=
  match cipher.decrypt ⟨keys.serverWriteKey, .Aes256Gcm⟩ (counterNonce keys.serverWriteIv counter)
      aad ciphertext with
  | none => .error (.Handshake "Decryption failed: OpenFailed")
  | some plaintext => .ok plaintext

/-- `unseal_response_body` from the parsed ciphertext on. -/
def unsealCiphertext (now : Nat) (ciphertext aad : Bytes)
    (session : AttestSession) : Except ClientError Bytes × AttestSession :=
  match session.withKeysForTrs now (openResponse cipher aad ciphertext) with
  | (.error failure, left) => (.error (.Handshake (sessionErrorText failure)), left)
  | (.ok outcome, left) => (outcome, left)

/-- `unseal_response_body`; nothing moves unless the body parses. -/
def unsealResponseBody (codec : BodyCodec) (now : Nat) (respBody aad : Bytes)
    (session : AttestSession) : Except ClientError Bytes × AttestSession :=
  match codec.parse respBody with
  | .error reason => (.error (.Serialisation reason), session)
  | .ok ciphertext => unsealCiphertext cipher now ciphertext aad session

/-- What the transport returns: the status, and the body or the reason it could not be read. -/
structure Reply where
  status : Nat
  body : Except String Bytes

def Reply.isSuccess (reply : Reply) : Bool := 200 ≤ reply.status ∧ reply.status < 300

/-- `DEFAULT_MAX_RESPONSE_SIZE` of the builder. -/
def defaultMaxResponseSize : Nat := 16 * 1024 * 1024

/-- What a client reads whole responses with. -/
structure ResponseReader where
  cipher : Cipher
  codec : BodyCodec
  /-- How a status is printed, its number with its reason. -/
  statusText : Nat → String
  maxResponseSize : Nat := defaultMaxResponseSize

/-- `to_bytes`: the whole body, unless it is longer than the limit. -/
def toBytes (body : Except String Bytes) (limit : Nat) : Except String Bytes :=
  body.bind fun bytes => if bytes.length ≤ limit then .ok bytes else .error "length limit exceeded"

variable (client : ResponseReader)

/-- `trusted_request_ext` from the answer of the transport on. -/
def finishRequest (now : Nat) (aad : Bytes) (reply : Except String Reply)
    (session : AttestSession) : Except ClientError Bytes × AttestSession :=
  match reply with
  | .error reason => (.error (.Transport reason), session)
  | .ok reply =>
    if reply.isSuccess = false then
      (.error (.Transport ("Server returned error: " ++ client.statusText reply.status)), session)
    else
      match toBytes reply.body client.maxResponseSize with
      | .error reason => (.error (.Transport reason), session)
      | .ok bytes => unsealResponseBody client.cipher client.codec now bytes aad session

/-- The ciphertext the client comes to, if it gets that far. -/
def Reply.ciphertext? : Except String Reply → Option Bytes
  | .error _ => none
  | .ok reply =>
    if reply.isSuccess = false then none
    else
      match toBytes reply.body client.maxResponseSize with
      | .error _ => none
      | .ok bytes => (client.codec.parse bytes).toOption

/-- A rendered ciphertext comes through if the body is within the limit. -/
theorem Reply.ciphertext?_render (ciphertext : Bytes) :
    Reply.ciphertext? client (.ok ⟨200, .ok (client.codec.render ciphertext)⟩) =
      if (client.codec.render ciphertext).length ≤ client.maxResponseSize then some ciphertext
      else none := by
  by_cases within : (client.codec.render ciphertext).length ≤ client.maxResponseSize
  · simp [Reply.ciphertext?, Reply.isSuccess, toBytes, Except.bind, within,
      client.codec.parse_render, Except.toOption]
  · simp [Reply.ciphertext?, Reply.isSuccess, toBytes, Except.bind, within]

structure ResponseStream where
  reader : StreamFrameReader
  prevHash : Octets 48

def ResponseStream.start (body : List (Except String Bytes)) : ResponseStream :=
  ⟨⟨[], body⟩, Octets.zero 48⟩

/-- The closure of the response stream: open under the frame's number and the chain. -/
def openFrame (aad : Bytes) (prevHash : Octets 48) (frame : StreamFrame) (keys : SessionKeys)
    (_counter : UInt64) : Except ClientError Bytes :=
  match cipher.decrypt ⟨keys.serverWriteKey, .Aes256Gcm⟩
      (counterNonce keys.serverWriteIv frame.counter) (aad ++ prevHash.bytes)
      frame.ciphertext with
  | none => .error (.Handshake "Stream dec fail: OpenFailed")
  | some plaintext => .ok plaintext

def frameErrorText : FrameError → String
  | .TooLarge len => toString len
  | .Transport reason => reason
  | .Incomplete => "Incomplete frame at end of stream"

/-- What the client makes of one frame; errors leave the chain where it was. -/
def receiveFrame (sha384 : Bytes → Octets 48) (now : Nat) (aad : Bytes) (prevHash : Octets 48)
    (frame : StreamFrame) (session : AttestSession) :
    Except ClientError Bytes × Octets 48 × AttestSession :=
  match session.withKeysForTrs now (openFrame cipher aad prevHash frame) with
  | (.error failure, left) => (.error (.Handshake (sessionErrorText failure)), prevHash, left)
  | (.ok (.error failure), left) => (.error failure, prevHash, left)
  | (.ok (.ok plaintext), left) =>
    (.ok plaintext, chainHash sha384 prevHash frame.ciphertext, left)

/-- One poll of the stream `trusted_request_streaming` returns; `none` is its end. The client sets
no limit on the length of a frame. -/
def pollStream (sha384 : Bytes → Octets 48) (now : Nat) (aad : Bytes) (stream : ResponseStream)
    (session : AttestSession) :
    Option (Except ClientError Bytes) × ResponseStream × AttestSession :=
  match StreamFrameReader.nextFrame none stream.reader.buffer stream.reader.stream with
  | (.ok none, reader) => (none, { stream with reader }, session)
  | (.error failure, reader) =>
    (some (.error (.Transport (frameErrorText failure))), { stream with reader }, session)
  | (.ok (some frame), reader) =>
    match receiveFrame cipher sha384 now aad stream.prevHash frame session with
    | (outcome, prevHash, left) => (some outcome, ⟨reader, prevHash⟩, left)

def polledFrame (stream : ResponseStream) : Option StreamFrame :=
  match StreamFrameReader.nextFrame none stream.reader.buffer stream.reader.stream with
  | (.ok frame, _) => frame
  | (.error _, _) => none

theorem finishRequest_cases (now : Nat) (aad : Bytes) (reply : Except String Reply)
    (session : AttestSession) : (Reply.ciphertext? client reply = none ∧
      ∃ failure, finishRequest client now aad reply session = (.error failure, session)) ∨
    ∃ ciphertext, Reply.ciphertext? client reply = some ciphertext ∧
      finishRequest client now aad reply session =
        unsealCiphertext client.cipher now ciphertext aad session := by
  cases reply with
  | error reason => exact .inl ⟨rfl, _, rfl⟩
  | ok reply =>
    simp only [finishRequest, Reply.ciphertext?]
    by_cases failed : reply.isSuccess = false
    · rw [if_pos failed, if_pos failed]
      exact .inl ⟨rfl, _, rfl⟩
    · rw [if_neg failed, if_neg failed]
      cases toBytes reply.body client.maxResponseSize with
      | error reason => exact .inl ⟨rfl, _, rfl⟩
      | ok bytes =>
        simp only [unsealResponseBody]
        cases client.codec.parse bytes with
        | error reason => exact .inl ⟨rfl, _, rfl⟩
        | ok ciphertext => exact .inr ⟨ciphertext, rfl, rfl⟩

theorem unsealCiphertext_ok_iff (now : Nat) (ciphertext aad body : Bytes)
    (session : AttestSession) : (unsealCiphertext cipher now ciphertext aad session).1 = .ok body ↔
      now < session.expiresAt ∧ session.serverCounter ≠ u64Max ∧
        cipher.decrypt ⟨session.keys.serverWriteKey, .Aes256Gcm⟩
          (counterNonce session.keys.serverWriteIv session.serverCounter) aad ciphertext =
            some body := by
  unfold unsealCiphertext
  by_cases expired : session.expiresAt ≤ now
  · simp [AttestSession.withKeysForTrs_expired _ expired, Nat.not_lt.mpr expired]
  · have alive := Nat.not_le.mp expired
    by_cases last : session.serverCounter = u64Max
    · simp [AttestSession.withKeysForTrs, checkedSucc, expired, last]
    · simp only [AttestSession.withKeysForTrs_live _ alive last, openResponse]
      cases cipher.decrypt ⟨session.keys.serverWriteKey, .Aes256Gcm⟩
          (counterNonce session.keys.serverWriteIv session.serverCounter) aad ciphertext <;>
        simp [alive, last]

theorem unsealCiphertext_left (now : Nat) (ciphertext aad : Bytes) (session : AttestSession) :
    (unsealCiphertext cipher now ciphertext aad session).2 =
      (session.withKeysForTrs now (openResponse cipher aad ciphertext)).2 := by
  unfold unsealCiphertext
  split <;> simp_all

variable {cipher} {now : Nat} {aad : Bytes} {session : AttestSession}

theorem finishRequest_ok {client : ResponseReader} {reply : Except String Reply} {body : Bytes}
    (accepted : (finishRequest client now aad reply session).1 = .ok body) :
    ∃ ciphertext, Reply.ciphertext? client reply = some ciphertext ∧
      client.cipher.decrypt ⟨session.keys.serverWriteKey, .Aes256Gcm⟩
        (counterNonce session.keys.serverWriteIv session.serverCounter) aad ciphertext =
          some body := by
  rcases finishRequest_cases client now aad reply session with
    ⟨_, failure, refused⟩ | ⟨ciphertext, carried, opened⟩
  · rw [refused] at accepted
    cases accepted
  · rw [opened, unsealCiphertext_ok_iff] at accepted
    exact ⟨ciphertext, carried, accepted.2.2⟩

variable {sha384 : Bytes → Octets 48} {prevHash : Octets 48} {frame : StreamFrame}

theorem receiveFrame_ok {plaintext : Bytes}
    (accepted : (receiveFrame cipher sha384 now aad prevHash frame session).1 = .ok plaintext) :
    cipher.decrypt ⟨session.keys.serverWriteKey, .Aes256Gcm⟩
      (counterNonce session.keys.serverWriteIv frame.counter) (aad ++ prevHash.bytes)
      frame.ciphertext = some plaintext ∧
    (receiveFrame cipher sha384 now aad prevHash frame session).2.1 =
      chainHash sha384 prevHash frame.ciphertext := by
  unfold receiveFrame at accepted ⊢
  cases returned : session.withKeysForTrs now (openFrame cipher aad prevHash frame) with
  | mk result left =>
    rw [returned] at accepted
    rcases result with failure | failure | found
    · cases accepted
    · cases accepted
    · obtain rfl : found = plaintext := by simpa using accepted
      have opened := (AttestSession.withKeysForTrs_ok returned).2.2.1
      refine ⟨?_, rfl⟩
      unfold openFrame at opened
      split at opened <;> simp_all

theorem receiveFrame_error {failure : ClientError}
    (refused : (receiveFrame cipher sha384 now aad prevHash frame session).1 = .error failure) :
    (receiveFrame cipher sha384 now aad prevHash frame session).2.1 = prevHash := by
  unfold receiveFrame at refused ⊢
  cases returned : session.withKeysForTrs now (openFrame cipher aad prevHash frame) with
  | mk result left =>
    rw [returned] at refused
    rcases result with other | other | found
    · rfl
    · rfl
    · cases refused

variable (cipher) (sha384)

theorem finishRequest_keeps (now : Nat) (aad : Bytes) (reply : Except String Reply)
    (session : AttestSession) : ∃ counter, (finishRequest client now aad reply session).2 =
      { session with serverCounter := counter } := by
  rcases finishRequest_cases client now aad reply session with
    ⟨_, failure, refused⟩ | ⟨ciphertext, _, opened⟩
  · exact ⟨session.serverCounter, by rw [refused]⟩
  · obtain ⟨counter, kept, _⟩ :=
      session.withKeysForTrs_keeps now (openResponse client.cipher aad ciphertext)
    exact ⟨counter, by rw [opened, unsealCiphertext_left, kept]⟩

theorem receiveFrame_keeps (now : Nat) (aad : Bytes) (prevHash : Octets 48) (frame : StreamFrame)
    (session : AttestSession) :
    ∃ counter, (receiveFrame cipher sha384 now aad prevHash frame session).2.2 =
      { session with serverCounter := counter } := by
  obtain ⟨counter, kept, _⟩ :=
    session.withKeysForTrs_keeps now (openFrame cipher aad prevHash frame)
  refine ⟨counter, ?_⟩
  rw [← kept]
  unfold receiveFrame
  split <;> simp_all

theorem pollStream_cases (cipher : Cipher) (sha384 : Bytes → Octets 48) (now : Nat) (aad : Bytes)
    (stream : ResponseStream) (session : AttestSession) :
    (polledFrame stream = none ∧ ∃ outcome reader,
      pollStream cipher sha384 now aad stream session = (outcome, { stream with reader }, session) ∧
      ∀ plaintext, outcome ≠ some (.ok plaintext)) ∨
    ∃ frame reader, polledFrame stream = some frame ∧
      pollStream cipher sha384 now aad stream session =
        (some (receiveFrame cipher sha384 now aad stream.prevHash frame session).1,
          ⟨reader, (receiveFrame cipher sha384 now aad stream.prevHash frame session).2.1⟩,
          (receiveFrame cipher sha384 now aad stream.prevHash frame session).2.2) := by
  unfold polledFrame pollStream
  rcases StreamFrameReader.nextFrame none stream.reader.buffer stream.reader.stream with
    ⟨failure | _ | frame, reader⟩
  · exact .inl ⟨rfl, _, reader, rfl, by simp⟩
  · exact .inl ⟨rfl, _, reader, rfl, by simp⟩
  · exact .inr ⟨frame, reader, rfl, rfl⟩

theorem pollStream_chain (cipher : Cipher) (sha384 : Bytes → Octets 48) (now : Nat) (aad : Bytes)
    (stream : ResponseStream) (session : AttestSession) :
    ((pollStream cipher sha384 now aad stream session).2.1.prevHash = stream.prevHash ∧
      ∀ plaintext, (pollStream cipher sha384 now aad stream session).1 ≠ some (.ok plaintext)) ∨
    ∃ frame plaintext, polledFrame stream = some frame ∧
      (pollStream cipher sha384 now aad stream session).1 = some (.ok plaintext) ∧
      cipher.decrypt ⟨session.keys.serverWriteKey, .Aes256Gcm⟩
        (counterNonce session.keys.serverWriteIv frame.counter) (aad ++ stream.prevHash.bytes)
        frame.ciphertext = some plaintext ∧
      (pollStream cipher sha384 now aad stream session).2.1.prevHash =
        chainHash sha384 stream.prevHash frame.ciphertext := by
  rcases pollStream_cases cipher sha384 now aad stream session with
    ⟨_, outcome, reader, polled, silent⟩ | ⟨frame, reader, read, polled⟩
  · rw [polled]
    exact .inl ⟨rfl, silent⟩
  · rw [polled]
    cases received : (receiveFrame cipher sha384 now aad stream.prevHash frame session).1 with
    | error failure => exact .inl ⟨receiveFrame_error received, by simp⟩
    | ok plaintext =>
      obtain ⟨opened, moved⟩ := receiveFrame_ok received
      exact .inr ⟨frame, plaintext, read, rfl, opened, moved⟩

theorem pollStream_keeps (now : Nat) (aad : Bytes) (stream : ResponseStream)
    (session : AttestSession) : ∃ counter, (pollStream cipher sha384 now aad stream session).2.2 =
      { session with serverCounter := counter } := by
  rcases pollStream_cases cipher sha384 now aad stream session with
    ⟨_, outcome, reader, polled, _⟩ | ⟨frame, reader, _, polled⟩
  · exact ⟨session.serverCounter, by rw [polled]⟩
  · rw [polled]
    exact receiveFrame_keeps ..

theorem finishRequest_counter (now : Nat) (aad : Bytes) (reply : Except String Reply)
    (session : AttestSession) : (finishRequest client now aad reply session).2.serverCounter.toNat =
      min (session.serverCounter.toNat +
        if (Reply.ciphertext? client reply).isSome ∧ now < session.expiresAt then 1 else 0)
        (2 ^ 64 - 1) := by
  rcases finishRequest_cases client now aad reply session with
    ⟨nothing, failure, refused⟩ | ⟨ciphertext, carried, opened⟩
  · have small := session.serverCounter.toNat_lt
    simp only [nothing, refused, Option.isSome_none, Bool.false_eq_true, false_and, if_false]
    omega
  · simp only [carried, opened, Option.isSome_some, true_and, unsealCiphertext_left,
      AttestSession.withKeysForTrs_counter]

theorem receiveFrame_counter (now : Nat) (aad : Bytes) (prevHash : Octets 48) (frame : StreamFrame)
    (session : AttestSession) :
    (receiveFrame cipher sha384 now aad prevHash frame session).2.2.serverCounter.toNat =
      min (session.serverCounter.toNat + if now < session.expiresAt then 1 else 0) (2 ^ 64 - 1) := by
  rw [← session.withKeysForTrs_counter now (openFrame cipher aad prevHash frame)]
  unfold receiveFrame
  split <;> simp_all

theorem pollStream_counter (now : Nat) (aad : Bytes) (stream : ResponseStream)
    (session : AttestSession) :
    (pollStream cipher sha384 now aad stream session).2.2.serverCounter.toNat =
      min (session.serverCounter.toNat +
        if (polledFrame stream).isSome ∧ now < session.expiresAt then 1 else 0) (2 ^ 64 - 1) := by
  rcases pollStream_cases cipher sha384 now aad stream session with
    ⟨nothing, outcome, reader, polled, _⟩ | ⟨frame, reader, read, polled⟩
  · have small := session.serverCounter.toNat_lt
    simp only [nothing, polled, Option.isSome_none, Bool.false_eq_true, false_and, if_false]
    omega
  · simp only [read, polled, Option.isSome_some, true_and, receiveFrame_counter]

end OpenHttpa.Client
