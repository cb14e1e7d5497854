import OpenHttpa.Client.Responses
import OpenHttpa.Core.SessionCalls
import OpenHttpa.Headers.Ahl
import OpenHttpa.Headers.PlainCodecs

/-!
# Requests at the client

The sending half of `trusted_request_ext` and `trusted_request_streaming` in
`openhttpa-client/src/client.rs`. Both seal a body and compute the MAC of the request with
`seal_request_body`, under the next request counter. A streamed request seals an empty body, which
is thrown away, to get its headers; its chunks are then sealed one by one under later counters, with
nothing of the request they belong to.
-/
namespace OpenHttpa.Client

open OpenHttpa.Core Crypto Proto Headers

/-- The libraries the client seals with. -/
structure RequestCodecs where
  cipher : Cipher
  /-- HMAC-SHA-384. -/
  hmac : Octets 32 → Bytes → Bytes
  sha384 : Bytes → Octets 48
  uuid : UuidText
  base64 : Base64

/-- What a request is for: the arguments of `seal_request_body` that the MAC covers. -/
structure RequestLine where
  method : String
  path : String
  query : Option String
  /-- `ahl_authority` of the full URI. -/
  authority : String

/-- What `seal_request_body` returns. -/
structure SealedRequest where
  headers : HeaderMap
  data : Bytes
  counter : UInt64

variable (codecs : RequestCodecs)

def requestAad (session : AttestSession) : Bytes :=
  sessionAad (utf8 (codecs.uuid.display session.id))

/-- The headers the MAC covers: those of the caller, and `Attest-Base-ID`. -/
def coveredHeaders (id : AtbId) (extra : Option HeaderMap) : HeaderMap :=
  (extra.getD .new).insert hdrAttestBaseId (.ofText (codecs.uuid.display id))

def RequestLine.ahl (line : RequestLine) (map : HeaderMap) : Except HeaderError AttestedHeaderList :=
  attestedHeaderList line.method line.path line.query line.authority map

def ticketMessage (nonce : UInt64) (list : AttestedHeaderList) : Bytes := u64Be nonce ++ list.encode

def ticketedHeaders (keys : SessionKeys) (counter : UInt64) (list : AttestedHeaderList)
    (map : HeaderMap) : HeaderMap :=
  let mac := codecs.hmac keys.clientMacKey (ticketMessage counter list)
  map.insert hdrAttestTicket
    (.ofText (encodeAttestTicket codecs.base64 counter mac none))

/-- The closure of `seal_request_body`. -/
def sealBody (line : RequestLine) (body aad : Bytes) (covered : HeaderMap) (keys : SessionKeys)
    (counter : UInt64) : Except ClientError SealedRequest :=
  match codecs.cipher.encrypt ⟨keys.clientWriteKey, .Aes256Gcm⟩
      (counterNonce keys.clientWriteIv counter) aad body with
  | none => .error (.Handshake "Encryption failed: SealFailed")
  | some data =>
    match line.ahl covered with
    | .error failure => .error (.Handshake ("AHL error: " ++ failure.display))
    | .ok list => .ok ⟨ticketedHeaders codecs keys counter list covered, data, counter⟩

def sealRequestBody (now : Nat) (line : RequestLine) (body aad : Bytes) (extra : Option HeaderMap)
    (session : AttestSession) : Except ClientError SealedRequest × AttestSession :=
  match session.withKeysForNextTrr now
      (sealBody codecs line body aad (coveredHeaders codecs session.id extra)) with
  | (.error failure, left) => (.error (.Handshake (sessionErrorText failure)), left)
  | (.ok outcome, left) => (outcome, left)

def contentType : HeaderName := ⟨"content-type", by decide +kernel⟩

/-- `trusted_request_ext` up to the request it sends: the headers and the sealed body. -/
def sendRequest (now : Nat) (line : RequestLine) (body : Bytes) (extra : Option HeaderMap)
    (session : AttestSession) : Except ClientError SealedRequest × AttestSession :=
  if session.isAlive now = false then
    (.error .NotAttested, session)
  else
    match sealRequestBody codecs now line body (requestAad codecs session) extra session with
    | (.error failure, left) => (.error failure, left)
    | (.ok sealed, left) =>
      (.ok { sealed with
        headers := sealed.headers.insert contentType (.ofText "application/json") },
        left)

/-- The state of the encrypting stream of `trusted_request_streaming`. -/
structure UploadStream where
  aad : Bytes
  cumulativeHash : Octets 48

def UploadStream.chunkAad (stream : UploadStream) : Bytes := stream.aad ++ stream.cumulativeHash.bytes

/-- `trusted_request_streaming` up to the request it sends: its headers and the stream of its body.
The body sealed with the headers is empty and dropped. -/
def beginUpload (now : Nat) (line : RequestLine) (session : AttestSession) :
    Except ClientError (SealedRequest × UploadStream) × AttestSession :=
  if session.isAlive now = false then
    (.error .NotAttested, session)
  else
    match sealRequestBody codecs now line [] (requestAad codecs session) none session with
    | (.error failure, left) => (.error failure, left)
    | (.ok sealed, left) =>
      (.ok ({ sealed with
          headers := sealed.headers.insert contentType
            (.ofText "application/x-openhttpa-stream") },
        ⟨requestAad codecs session, Octets.zero 48⟩), left)

/-- What ends the closure of the encrypting stream without a frame. -/
inductive UploadFailure where
  | failed (failure : ClientError)
  /-- A frame whose length does not fit its field: the closure panics, which poisons the session. -/
  | panicked

def sealUpload (stream : UploadStream) (chunk : Bytes) (keys : SessionKeys)
    (counter : UInt64) : Except UploadFailure StreamFrame :=
  match codecs.cipher.encrypt ⟨keys.clientWriteKey, .Aes256Gcm⟩
      (counterNonce keys.clientWriteIv counter) stream.chunkAad chunk with
  | none => .error (.failed (.Handshake "Stream enc fail: SealFailed"))
  | some data => if 2 ^ 32 ≤ data.length then .error .panicked else .ok ⟨counter, data⟩

inductive UploadOutcome where
  | sealed (frame : StreamFrame)
  | failed (message : String)
  | panicked

def UploadStream.advance (chunk : Bytes) (session : AttestSession)
    (stream : UploadStream) : UploadStream :=
  match sealUpload codecs stream chunk session.keys session.clientCounter with
  | .error _ => stream
  | .ok frame =>
    { stream with cumulativeHash := chainHash codecs.sha384 stream.cumulativeHash frame.ciphertext }

/-- One chunk of the encrypting stream; `nonce` is the random number it is admitted under. The
chain moves inside the closure, so also when the counter then overflows. -/
def uploadChunk (now : Nat) (nonce : UInt64) (chunk : Bytes) (stream : UploadStream)
    (session : AttestSession) : UploadOutcome × UploadStream × AttestSession :=
  match session.withKeysForTrr now nonce (sealUpload codecs stream chunk) with
  | (.error .Overflow, left) =>
    (.failed (sessionErrorText .Overflow), stream.advance codecs chunk session, left)
  | (.error failure, left) => (.failed (sessionErrorText failure), stream, left)
  | (.ok (.error (.failed failure)), left) => (.failed failure.display, stream, left)
  | (.ok (.error .panicked), _) => (.panicked, stream, session)
  | (.ok (.ok frame), left) => (.sealed frame, stream.advance codecs chunk session, left)

variable {codecs} {line : RequestLine} {body aad : Bytes} {sealed : SealedRequest}
  {now : Nat} {extra : Option HeaderMap} {session : AttestSession}

theorem sealBody_ok {covered : HeaderMap} {keys : SessionKeys} {counter : UInt64}
    (made : sealBody codecs line body aad covered keys counter = .ok sealed) :
    sealed.counter = counter ∧
      codecs.cipher.encrypt ⟨keys.clientWriteKey, .Aes256Gcm⟩
        (counterNonce keys.clientWriteIv counter) aad body = some sealed.data ∧
      ∃ list, line.ahl covered = .ok list ∧
        sealed.headers = ticketedHeaders codecs keys counter list covered := by
  unfold sealBody at made
  split at made
  · cases made
  · rename_i data encrypted
    split at made
    · cases made
    · rename_i list listed
      cases made
      exact ⟨rfl, encrypted, list, listed, rfl⟩

theorem sealRequestBody_closure
    (sent : (sealRequestBody codecs now line body aad extra session).1 = .ok sealed) :
    sealBody codecs line body aad (coveredHeaders codecs session.id extra) session.keys
        session.clientCounter = .ok sealed ∧ session.clientCounter ≠ u64Max := by
  unfold sealRequestBody at sent
  cases returned : session.withKeysForNextTrr now
      (sealBody codecs line body aad (coveredHeaders codecs session.id extra)) with
  | mk result left =>
    rw [returned] at sent
    rcases result with failure | outcome
    · cases sent
    · obtain rfl : outcome = .ok sealed := sent
      have accepted : (session.withKeysForTrr now session.clientCounter
          (sealBody codecs line body aad (coveredHeaders codecs session.id extra))).1 =
          .ok (.ok sealed) := congrArg Prod.fst returned
      obtain ⟨_, _, _, made, below⟩ := AttestSession.withKeysForTrr_ok_iff.mp accepted
      exact ⟨made, below⟩

def CarriesMac (codecs : RequestCodecs) (keys : SessionKeys) (headers : HeaderMap) (counter : UInt64)
    (list : AttestedHeaderList) : Prop :=
  headers.ticket codecs.base64 =
    .ok ⟨counter, codecs.hmac keys.clientMacKey (ticketMessage counter list), none⟩

theorem carriesMac_contentType (codecs : RequestCodecs) (keys : SessionKeys) (counter : UInt64)
    (list : AttestedHeaderList) (covered : HeaderMap) (value : HeaderValue) :
    CarriesMac codecs keys
      ((ticketedHeaders codecs keys counter list covered).insert contentType value) counter list := by
  have other : hdrAttestTicket ≠ contentType := by decide +kernel
  exact HeaderMap.ticket_insert (HeaderMap.getAll_insert_of_ne _ value other)

theorem sealRequestBody_carriesMac
    (sent : (sealRequestBody codecs now line body aad extra session).1 = .ok sealed)
    (value : HeaderValue) :
    ∃ list, line.ahl (coveredHeaders codecs session.id extra) = .ok list ∧
      CarriesMac codecs session.keys (sealed.headers.insert contentType value) sealed.counter
        list := by
  obtain ⟨number, _, list, listed, headers⟩ := sealBody_ok (sealRequestBody_closure sent).1
  refine ⟨list, listed, ?_⟩
  rw [headers, number]
  exact carriesMac_contentType ..

theorem sendRequest_ok (sent : (sendRequest codecs now line body extra session).1 = .ok sealed) :
    ∃ list, line.ahl (coveredHeaders codecs session.id extra) = .ok list ∧
      CarriesMac codecs session.keys sealed.headers sealed.counter list := by
  unfold sendRequest at sent
  split at sent
  · cases sent
  · split at sent
    · cases sent
    · rename_i inner left returned
      cases sent
      exact sealRequestBody_carriesMac (congrArg Prod.fst returned) _

theorem beginUpload_ok {sealed : SealedRequest × UploadStream}
    (sent : (beginUpload codecs now line session).1 = .ok sealed) :
    ∃ list, line.ahl (coveredHeaders codecs session.id none) = .ok list ∧
      CarriesMac codecs session.keys sealed.1.headers sealed.1.counter list := by
  unfold beginUpload at sent
  split at sent
  · cases sent
  · split at sent
    · cases sent
    · rename_i inner left returned
      cases sent
      exact sealRequestBody_carriesMac (congrArg Prod.fst returned) _

/-- One client on one session, with what it has put on the wire. -/
structure Sender where
  session : AttestSession
  poisoned : Bool
  uploads : List UploadStream
  /-- The numbers and lists whose MAC was sent, newest first. -/
  macs : List (UInt64 × AttestedHeaderList)
  /-- The bodies and chunks that were sent, newest first. -/
  sealings : List Sealing

/-- What a client can send. Answers move the response counter alone, which nothing here reads. -/
inductive SenderEvent where
  | request (now : Nat) (line : RequestLine) (body : Bytes) (extra : Option HeaderMap)
  | upload (now : Nat) (line : RequestLine)
  /-- The next chunk of a streamed request, admitted under a random nonce. -/
  | chunk (upload now : Nat) (nonce : UInt64) (chunk : Bytes)

def sentMac {α : Type} (line : RequestLine) (covered : HeaderMap) (number : α → UInt64) :
    Except ClientError α → List (UInt64 × AttestedHeaderList)
  | .error _ => []
  | .ok sent =>
    match line.ahl covered with
    | .error _ => []
    | .ok list => [(number sent, list)]

namespace Sender

def new (session : AttestSession) : Sender := ⟨session, false, [], [], []⟩

def step (codecs : RequestCodecs) (sender : Sender) (event : SenderEvent) : Sender :=
  if sender.poisoned then
    sender
  else
    let session := sender.session
    match event with
    | .request now line body extra =>
      let sent := sendRequest codecs now line body extra session
      { sender with
        session := sent.2
        macs := sentMac line (coveredHeaders codecs session.id extra) (·.counter) sent.1 ++ sender.macs
        sealings :=
          match sent.1 with
          | .error _ => sender.sealings
          | .ok sealed =>
            ⟨counterNonce session.keys.clientWriteIv sealed.counter, requestAad codecs session, body,
              sealed.data⟩ :: sender.sealings }
    | .upload now line =>
      let sent := beginUpload codecs now line session
      { sender with
        session := sent.2
        macs := sentMac line (coveredHeaders codecs session.id none) (·.1.counter) sent.1 ++ sender.macs
        uploads :=
          match sent.1 with
          | .error _ => sender.uploads
          | .ok (_, stream) => sender.uploads ++ [stream] }
    | .chunk index now nonce chunk =>
      match sender.uploads[index]? with
      | none => sender
      | some stream =>
        match uploadChunk codecs now nonce chunk stream session with
        | (.sealed frame, after, left) =>
          { sender with
            session := left
            uploads := sender.uploads.set index after
            sealings := ⟨counterNonce session.keys.clientWriteIv frame.counter, stream.chunkAad,
              chunk, frame.ciphertext⟩ :: sender.sealings }
        | (.failed _, after, left) =>
          { sender with session := left, uploads := sender.uploads.set index after }
        | (.panicked, _, _) => { sender with poisoned := true }

variable {line : RequestLine} {codecs : RequestCodecs} {sender : Sender} {now : Nat}

theorem mem_sentMac {α : Type} {covered : HeaderMap} {number : α → UInt64}
    {result : Except ClientError α} {sent : α} {list : AttestedHeaderList}
    (succeeded : result = .ok sent) (listed : line.ahl covered = .ok list) :
    (number sent, list) ∈ sentMac line covered number result := by
  rw [succeeded, sentMac, listed]
  exact List.mem_singleton_self _

theorem macs_subset (codecs : RequestCodecs) (sender : Sender) (event : SenderEvent) :
    sender.macs ⊆ (sender.step codecs event).macs := by
  unfold step
  split
  · exact List.Subset.refl _
  · cases event with
    | request | upload => exact List.subset_append_right _ _
    | chunk index now nonce chunk =>
      dsimp only
      split
      · exact List.Subset.refl _
      · split <;> exact List.Subset.refl _

theorem request_recorded {body : Bytes} (working : sender.poisoned = false)
    (sent : (sendRequest codecs now line body extra sender.session).1 = .ok sealed) :
    ∃ list, CarriesMac codecs sender.session.keys sealed.headers sealed.counter list ∧
      (sealed.counter, list) ∈ (sender.step codecs (.request now line body extra)).macs := by
  obtain ⟨list, listed, carries⟩ := sendRequest_ok sent
  refine ⟨list, carries, ?_⟩
  rw [step, if_neg (by simp [working])]
  exact List.mem_append_left _ (mem_sentMac sent listed)

theorem upload_recorded {sealed : SealedRequest × UploadStream} (working : sender.poisoned = false)
    (sent : (beginUpload codecs now line sender.session).1 = .ok sealed) :
    ∃ list, CarriesMac codecs sender.session.keys sealed.1.headers sealed.1.counter list ∧
      (sealed.1.counter, list) ∈ (sender.step codecs (.upload now line)).macs := by
  obtain ⟨list, listed, carries⟩ := beginUpload_ok sent
  refine ⟨list, carries, ?_⟩
  rw [step, if_neg (by simp [working])]
  exact List.mem_append_left _ (mem_sentMac sent listed)

end Sender

def plainCodecs : RequestCodecs :=
  ⟨plainCipher, fun _ message => message, fun _ => .zero 48, .plain, .plain⟩

def chatLine : RequestLine := ⟨"POST", "/chat", none, "host"⟩

end OpenHttpa.Client
