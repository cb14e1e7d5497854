import OpenHttpa.Client.Requests
import OpenHttpa.Server.Requests

/-!
# Authenticity of requests

Between one client and the extractors of the server stands an adversary who builds requests from
anything, but computes no MAC and seals nothing under the keys of the session. A request is
authentic when the client has sent a MAC over the number in its ticket and over its own header list.
Whatever `EncryptedJson` delivers is authentic, because the bytes under the MAC determine the number
and the list. `EncryptedStream` checks no MAC: as soon as the session opens one frame of the client,
that frame can be delivered with any request that names the session (`delivered_authentic_iff`).
-/
namespace OpenHttpa.Channel

open OpenHttpa.Core Crypto Proto Headers Server Client

/-- How a handler takes a trusted request. -/
inductive Extractor where
  | EncryptedJson
  | EncryptedStream
deriving DecidableEq

/-- What a handler gets of a request that arrives at `now`; a stream is polled at the given times. -/
def delivered {T : Type} (readers : RequestReaders) (fromSlice : Bytes → Except String T)
    (found : AtbId → Option AttestSession) (now : Nat) (polls : List Nat) (request : Request) :
    Extractor → List Sealing
  | .EncryptedJson => EncryptedJson.opened readers fromSlice now found request
  | .EncryptedStream => EncryptedStream.opened readers found polls request

variable (readers : RequestReaders)

/-- The request carries the identifier in `Attest-Base-ID`. -/
def Names (id : AtbId) (request : Request) : Prop :=
  ∃ text, request.headers.getText hdrAttestBaseId = some text ∧ readers.uuid.fromStr text = .ok id

/-- Nothing in the request was forged under the keys of the client: a MAC that verifies on a message
is one the client sent for it, and what was opened is what the client sealed. -/
structure Unforged (readers : RequestReaders) (sender : Sender) (request : Request)
    (opened : List Sealing) : Prop where
  mac : ∀ ticket, request.ticket readers.base64 = .ok ticket → ∀ message,
    readers.hmac sender.session.keys.clientMacKey message = ticket.mac →
    ∃ sent ∈ sender.macs, message = ticketMessage sent.1 sent.2
  body : opened ⊆ sender.sealings

/-- The client sent a MAC over the number in the request's ticket and over its header list. -/
def Authentic (sender : Sender) (request : Request) : Prop :=
  ∃ ticket list, request.ticket readers.base64 = .ok ticket ∧ request.ahl = .ok list ∧
    (ticket.nonce, list) ∈ sender.macs

/-- The client sealed a chunk at the head of a streamed request that the session still opens, at some
time from `now` on and under some name of it: it is alive, serves requests, takes the number of the frame
for no replay and can count on, and the frame is within the limit. -/
def OpensUpload (sender : Sender) (id : AtbId) (session : AttestSession) (now : Nat) : Prop :=
  ∃ text, ∃ frame : StreamFrame, ∃ plaintext later, readers.uuid.fromStr text = .ok id ∧ now ≤ later ∧
    frame.ciphertext.length ≤ maxFrameSize ∧
    (later < session.expiresAt ∧ session.phase.allowsTrustedRequest = true ∧
      session.Admits frame.counter ∧
      readers.cipher.decrypt ⟨session.keys.clientWriteKey, .Aes256Gcm⟩
        (counterNonce session.keys.clientWriteIv frame.counter)
        (sessionAad (utf8 text) ++ (Octets.zero 48).bytes) frame.ciphertext = some plaintext ∧
      session.clientCounter ≠ u64Max) ∧
    ⟨counterNonce session.keys.clientWriteIv frame.counter,
      sessionAad (utf8 text) ++ (Octets.zero 48).bytes, plaintext, frame.ciphertext⟩ ∈
      sender.sealings

theorem ticketMessage_injective {nonce other : UInt64} {list second : AttestedHeaderList}
    (same : ticketMessage nonce list = ticketMessage other second) :
    nonce = other ∧ list = second := by
  have lengths : (u64Be nonce).length = (u64Be other).length := by
    rw [u64Be_length, u64Be_length]
  obtain ⟨numbers, lists⟩ := List.append_inj same lengths
  refine ⟨?_, AttestedHeaderList.encode_injective lists⟩
  rw [← u64OfBe_u64Be nonce, numbers, u64OfBe_u64Be]

section Extractors

variable {readers : RequestReaders} {found : AtbId → Option AttestSession} {id : AtbId}
  {session : AttestSession} {sender : Sender} {request : Request}

theorem json_authentic {T : Type} {fromSlice : Bytes → Except String T} {now : Nat}
    {opened : List Sealing} (registered : found id = some session)
    (shared : sender.session.keys = session.keys) (named : Names readers id request)
    (unforged : Unforged readers sender request opened)
    (reached : EncryptedJson.opened readers fromSlice now found request ≠ []) :
    Authentic readers sender request := by
  obtain ⟨text, carried, read⟩ := named
  obtain ⟨served, aad, ticket, list, parts, ticketed, listed, verified⟩ :=
    EncryptedJson.opened_verified reached
  have same := (fromRequestParts_named carried read registered).symm.trans parts
  cases same
  rw [← shared] at verified
  obtain ⟨sent, member, message⟩ := unforged.mac ticket ticketed _ verified
  obtain ⟨numbers, lists⟩ := ticketMessage_injective message
  refine ⟨ticket, list, ticketed, listed, ?_⟩
  rw [numbers, lists]
  exact member

theorem stream_opens {now : Nat} {polls : List Nat} (registered : found id = some session)
    (later : ∀ poll ∈ polls, now ≤ poll) (named : Names readers id request)
    (unforged : Unforged readers sender request (EncryptedStream.opened readers found polls request))
    (reached : EncryptedStream.opened readers found polls request ≠ []) :
    OpensUpload readers sender id session now := by
  obtain ⟨text, carried, read⟩ := named
  have parts := fromRequestParts_named carried read registered
  have sealed := unforged.body
  simp only [EncryptedStream.opened, EncryptedStream.fromRequest, parts] at reached sealed
  obtain ⟨poll, member, frame, plaintext, within, opens, kept⟩ :=
    EncryptedStream.run_first readers _ polls rfl reached
  exact ⟨text, frame, plaintext, poll, read, later poll member, within,
    encryptedStreamFrame_opens_iff.mp opens, sealed kept⟩

def bareRequest (text : String) (frame : StreamFrame) : Request where
  method := "POST"
  uri := ⟨"/", none, none⟩
  originalUri := none
  headers := ⟨[(hdrAttestBaseId, .ofText text)]⟩
  body := [.ok frame.encode]

theorem bareRequest_ticket (base64 : Base64) (text : String) (frame : StreamFrame) :
    (bareRequest text frame).ticket base64 = .error (.Missing strAttestTicket) := by
  have other : hdrAttestBaseId ≠ hdrAttestTicket := by decide +kernel
  simp [Request.ticket, bareRequest, HeaderMap.ticket, HeaderMap.get, HeaderMap.getAll, other,
    decodeAttestTicket]

theorem bareRequest_names (text : String) (frame : StreamFrame) :
    (bareRequest text frame).headers.getText hdrAttestBaseId = some text := by
  simp [bareRequest, HeaderMap.getText, HeaderMap.get, HeaderMap.getAll]

end Extractors

/-- With an adversary who forges nothing, everything a handler gets is authentic exactly when the
handler takes its requests with `EncryptedJson`, or the session opens no chunk at the head of a
request that the client streamed. -/
theorem delivered_authentic_iff {T : Type} (readers : RequestReaders)
    (fromSlice : Bytes → Except String T) (found : AtbId → Option AttestSession) (id : AtbId)
    (session : AttestSession) (registered : found id = some session) (sender : Sender)
    (shared : sender.session.keys = session.keys) (now : Nat) (extractor : Extractor) :
    (∀ request polls, (∀ poll ∈ polls, now ≤ poll) → Names readers id request →
        Unforged readers sender request
          (delivered readers fromSlice found now polls request extractor) →
        delivered readers fromSlice found now polls request extractor ≠ [] →
        Authentic readers sender request) ↔
      extractor = .EncryptedJson ∨ ¬ OpensUpload readers sender id session now := by
  constructor
  · intro authentic
    by_contra neither
    obtain ⟨stream, opensUpload⟩ := not_or.mp neither
    cases extractor with
    | EncryptedJson => exact stream rfl
    | EncryptedStream =>
      obtain ⟨text, frame, plaintext, later, read, after, within, opens, sealed⟩ :=
        not_not.mp opensUpload
      have carried := bareRequest_names text frame
      have parts := fromRequestParts_named carried read registered
      have reached := EncryptedStream.opened_frame parts rfl within
        (encryptedStreamFrame_opens_iff.mpr opens)
      have missing := bareRequest_ticket readers.base64 text frame
      have unforged : Unforged readers sender (bareRequest text frame)
          (EncryptedStream.opened readers found [later] (bareRequest text frame)) := by
        constructor
        · intro ticket ticketed
          rw [missing] at ticketed
          cases ticketed
        · rw [reached]
          exact List.cons_subset.mpr ⟨sealed, List.nil_subset _⟩
      obtain ⟨ticket, list, ticketed, _⟩ := authentic (bareRequest text frame) [later]
        (by simpa using after) ⟨text, carried, read⟩ unforged (by simp [delivered, reached])
      rw [missing] at ticketed
      cases ticketed
  · rintro (rfl | closed) request polls later named unforged reached
    · exact json_authentic registered shared named unforged reached
    · cases extractor with
      | EncryptedJson => exact json_authentic registered shared named unforged reached
      | EncryptedStream => exact absurd (stream_opens registered later named unforged reached) closed

def plainReaders : RequestReaders where
  cipher := plainCipher
  hmac _ message := message
  sha384 _ := .zero 48
  uuid := .plain
  base64 := .plain
  json request :=
    .ok ((request.body.flatMap fun chunk => chunk.toOption.getD []).map Char.ofUInt8)
  hexDecode text := some (text.map Char.toUInt8)

theorem plain_unforged {sender : Sender} {keys : SessionKeys} {request : Request} {counter : UInt64}
    {list : AttestedHeaderList} {opened : List Sealing}
    (carries : CarriesMac plainCodecs keys request.headers counter list)
    (sent : (counter, list) ∈ sender.macs) (body : opened ⊆ sender.sealings) :
    Unforged plainReaders sender request opened where
  mac := by
    intro ticket ticketed message verifies
    have same := carries.symm.trans ticketed
    cases same
    exact ⟨(counter, list), sent, verifies⟩
  body := body

def zeroShared : AttestSession := .zeroSession .default

def zeroFound : AtbId → Option AttestSession := fun _ => some zeroShared

def asking : Sender := (Sender.new zeroShared).step plainCodecs (.request 0 chatLine [7] none)

def asked : Except ClientError SealedRequest :=
  (sendRequest plainCodecs 0 chatLine [7] none zeroShared).1

def chatRequest : Request :=
  match asked with
  | .ok sealed => ⟨"POST", ⟨"/chat", none, some "host"⟩, none, sealed.headers, [.ok sealed.data]⟩
  | .error _ => bareRequest "" ⟨0, []⟩

/-- The whole request reaches a handler that takes it with `EncryptedJson`, and is authentic. -/
theorem whole_request_authentic :
    delivered plainReaders Except.ok zeroFound 0 [] chatRequest .EncryptedJson ≠ [] ∧
      Authentic plainReaders asking chatRequest := by
  have opened : delivered plainReaders Except.ok zeroFound 0 [] chatRequest .EncryptedJson =
      asking.sealings := by decide +kernel
  have reached : delivered plainReaders Except.ok zeroFound 0 [] chatRequest .EncryptedJson ≠ [] := by
    rw [opened]
    decide +kernel
  have named : Names plainReaders ⟨0⟩ chatRequest :=
    ⟨UuidText.plain.display ⟨0⟩, by decide +kernel, UuidText.plain.fromStr_display ⟨0⟩⟩
  have unforged : Unforged plainReaders asking chatRequest
      (delivered plainReaders Except.ok zeroFound 0 [] chatRequest .EncryptedJson) := by
    have working : (Sender.new zeroShared).poisoned = false := rfl
    have succeeds : asked.toBool = true := by decide +kernel
    cases sent : asked with
    | error failure =>
      rw [sent] at succeeds
      cases succeeds
    | ok sealed =>
      obtain ⟨list, carries, recorded⟩ := Sender.request_recorded working sent
      have headers : chatRequest.headers = sealed.headers := by rw [chatRequest, sent]
      rw [← headers] at carries
      rw [opened]
      exact plain_unforged carries recorded (List.Subset.refl _)
  exact ⟨reached, (delivered_authentic_iff plainReaders Except.ok zeroFound ⟨0⟩ zeroShared rfl asking
    (by decide +kernel) 0 .EncryptedJson).mpr (.inl rfl) chatRequest [] (by simp) named unforged
    reached⟩

/-- A client that has begun to stream a request to `/chat`. -/
def begun : Sender := (Sender.new zeroShared).step plainCodecs (.upload 0 chatLine)

def chatting : Sender := begun.step plainCodecs (.chunk 0 0 9 [7])

def uploaded : Except ClientError (SealedRequest × UploadStream) :=
  (beginUpload plainCodecs 0 chatLine zeroShared).1

def chatFrame : StreamFrame := ⟨2, (chatting.sealings.head?.map (·.ciphertext)).getD []⟩

/-- The same headers and the same frame, sent to `/admin`. -/
def adminRequest : Request :=
  match uploaded with
  | .ok sent =>
    ⟨"POST", ⟨"/admin", none, some "host"⟩, none, sent.1.headers, [.ok chatFrame.encode]⟩
  | .error _ => bareRequest "" chatFrame

/-- A handler of `/admin` that takes its requests with `EncryptedStream` gets the chunk that the
client streamed to `/chat`. Nothing in the request is forged, and the client has sent no MAC for
`/admin`. -/
theorem streamed_chunk_redirected :
    Names plainReaders ⟨0⟩ adminRequest ∧
      Unforged plainReaders chatting adminRequest
        (delivered plainReaders Except.ok zeroFound 0 [0] adminRequest .EncryptedStream) ∧
      (delivered plainReaders Except.ok zeroFound 0 [0] adminRequest .EncryptedStream).map
        (·.plaintext) = [[7]] ∧
      ¬ Authentic plainReaders chatting adminRequest := by
  have working : (Sender.new zeroShared).poisoned = false := rfl
  have succeeds : uploaded.toBool = true := by decide +kernel
  cases sent : uploaded with
  | error failure =>
    rw [sent] at succeeds
    cases succeeds
  | ok sealed =>
    obtain ⟨list, carries, recorded⟩ := Sender.upload_recorded working sent
    have headers : adminRequest.headers = sealed.1.headers := by rw [adminRequest, sent]
    have path : adminRequest.path = "/admin" := by
      rw [adminRequest, sent]
      rfl
    rw [← headers] at carries
    have kept := Sender.macs_subset plainCodecs begun (.chunk 0 0 9 [7]) recorded
    refine ⟨⟨UuidText.plain.display ⟨0⟩, by decide +kernel, UuidText.plain.fromStr_display ⟨0⟩⟩,
      plain_unforged carries kept (by decide +kernel), by decide +kernel, ?_⟩
    rintro ⟨ticket, other, _, listed, member⟩
    have admin : other.path = "/admin" := by rw [attestedHeaderList_ok listed, path]
    have chats : ∀ mac ∈ chatting.macs, mac.2.path = "/chat" := by decide +kernel
    have chat : other.path = "/chat" := chats _ member
    exact absurd (admin.symm.trans chat) (by decide)

end OpenHttpa.Channel
