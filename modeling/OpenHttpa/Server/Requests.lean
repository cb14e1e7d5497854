import OpenHttpa.Core.SessionCalls
import OpenHttpa.Headers.Ahl
import OpenHttpa.Server.Extractors

/-!
# The extractors of trusted requests

`from_request` of `EncryptedJson` and of `EncryptedStream` in `openhttpa-server/src/extractors.rs`,
from the request as it arrives. Both find the session by `Attest-Base-ID`. `EncryptedJson` then
reads `Attest-Ticket`, and its closure, `openJson`, checks the MAC over the request's own header
list before it decrypts. `EncryptedStream` goes straight to the frames of the body: it reads neither
the ticket nor any other part of the request.
-/
namespace OpenHttpa.Server

open OpenHttpa.Core Crypto Proto Headers

/-- `http::Uri`, as far as it is read. -/
structure Uri where
  path : String
  query : Option String
  authority : Option String

structure Request where
  method : String
  /-- The URI, relative to the route when the route is nested. -/
  uri : Uri
  originalUri : Option Uri
  headers : HeaderMap
  body : List (Except String Bytes)

namespace Request

def path (request : Request) : String := (request.originalUri.getD request.uri).path

def query (request : Request) : Option String := (request.originalUri.getD request.uri).query

def authority (request : Request) : String :=
  request.uri.authority.getD ((request.headers.getText host).getD "")

def ahl (request : Request) : Except HeaderError AttestedHeaderList :=
  attestedHeaderList request.method request.path request.query request.authority request.headers

/-- `decode_attest_ticket` on the headers of a request. -/
def ticket (base64 : Base64) (request : Request) : Except TrailerError DecodedTicket :=
  request.headers.ticket base64

end Request

/-- The libraries the server reads with. -/
structure RequestReaders where
  cipher : Cipher
  /-- HMAC-SHA-384. -/
  hmac : Octets 32 → Bytes → Bytes
  sha384 : Bytes → Octets 48
  uuid : UuidText
  base64 : Base64
  /-- `Json::<CiphertextBody>::from_request`: the characters of the ciphertext. -/
  json : Request → Except Rejection (List Char)
  hexDecode : List Char → Option Bytes

/-- `OpenHttpaSession::from_request_parts`; `found` is `AtbRegistry::get`, which finds live sessions
only. The result is the session and its associated data. -/
def fromRequestParts (readers : RequestReaders) (found : AtbId → Option AttestSession)
    (request : Request) : Except Rejection (AttestSession × Bytes) :=
  match request.headers.getText hdrAttestBaseId with
  | none => .error ⟨401, "Missing Attest-Base-ID"⟩
  | some baseIdStr =>
    match readers.uuid.fromStr baseIdStr with
    | .error _ => .error ⟨401, "Invalid Attest-Base-ID format"⟩
    | .ok id =>
      match found id with
      | none => .error ⟨403, "Session not found or expired"⟩
      | some session => .ok (session, sessionAad (utf8 baseIdStr))

theorem fromRequestParts_named {readers : RequestReaders} {found : AtbId → Option AttestSession}
    {request : Request} {text : String} {id : AtbId} {session : AttestSession}
    (named : request.headers.getText hdrAttestBaseId = some text)
    (read : readers.uuid.fromStr text = .ok id) (registered : found id = some session) :
    fromRequestParts readers found request = .ok (session, sessionAad (utf8 text)) := by
  simp only [fromRequestParts, named, read, registered]

def ticketStatus : TrailerError → Nat
  | .Missing _ => 401
  | .Invalid _ _ => 400

namespace EncryptedJson

variable (readers : RequestReaders)

/-- `from_request` until it awaits the body: the session that is found, its associated data and the
ticket. -/
def locate (found : AtbId → Option AttestSession) (request : Request) :
    Except Rejection (AttestSession × Bytes × DecodedTicket) :=
  match fromRequestParts readers found request with
  | .error rejection => .error rejection
  | .ok (session, aad) =>
    match request.ticket readers.base64 with
    | .error failure => .error ⟨ticketStatus failure, "Invalid Attest-Ticket format"⟩
    | .ok ticket => .ok (session, aad, ticket)

/-- What `from_request` makes of the body once it is there. -/
def readBody (request : Request) : Except Rejection Bytes :=
  match readers.json request with
  | .error rejection => .error rejection
  | .ok text =>
    match readers.hexDecode text with
    | none => .error ⟨400, "Invalid ciphertext hex"⟩
    | some ciphertext => .ok ciphertext

/-- What `from_request` does under the lock of the session, with what was opened. -/
def openLocked (now : Nat) (request : Request) (aad : Bytes) (ticket : DecodedTicket)
    (ciphertext : Bytes) (session : AttestSession) : Except Rejection Sealing × AttestSession :=
  let ahl := (request.ahl.map AttestedHeaderList.encode).mapError HeaderError.display
  match encryptedJson readers.cipher readers.hmac now aad
      ⟨ticket.nonce, ticket.mac, request.authority, ahl, ciphertext⟩ session with
  | (.error rejection, left) => (.error rejection, left)
  | (.ok plaintext, left) =>
    (.ok ⟨counterNonce session.keys.clientWriteIv ticket.nonce, aad, plaintext, ciphertext⟩, left)

/-- `from_request` up to the plaintext. The session is left as it was, which is shown as nothing,
unless the request came as far as its keys. -/
def decrypt (now : Nat) (found : AtbId → Option AttestSession)
    (request : Request) : Except Rejection Sealing × Option AttestSession :=
  match locate readers found request with
  | .error rejection => (.error rejection, none)
  | .ok (session, aad, ticket) =>
    match readBody readers request with
    | .error rejection => (.error rejection, none)
    | .ok ciphertext =>
      let taken := openLocked readers now request aad ticket ciphertext session
      (taken.1, some taken.2)

/-- The end of `from_request`; `fromSlice` is `serde_json::from_slice` at the handler's type. -/
def finish {T : Type} (fromSlice : Bytes → Except String T) :
    Except Rejection Sealing → Except Rejection T
  | .error rejection => .error rejection
  | .ok opened =>
    match fromSlice opened.plaintext with
    | .error reason => .error ⟨400, "Invalid plaintext JSON: " ++ reason⟩
    | .ok value => .ok value

/-- `EncryptedJson::from_request`, where nothing comes between its parts. -/
def fromRequest {T : Type} (readers : RequestReaders) (fromSlice : Bytes → Except String T)
    (now : Nat) (found : AtbId → Option AttestSession) (request : Request) :
    Except Rejection T × Option AttestSession :=
  let taken := decrypt readers now found request
  (finish fromSlice taken.1, taken.2)

def opened {T : Type} (readers : RequestReaders) (fromSlice : Bytes → Except String T)
    (now : Nat) (found : AtbId → Option AttestSession) (request : Request) : List Sealing :=
  match (fromRequest readers fromSlice now found request).1, (decrypt readers now found request).1 with
  | .ok _, .ok sealing => [sealing]
  | _, _ => []

theorem openJson_ok {cipher : Cipher} {hmac : Octets 32 → Bytes → Bytes} {aad plaintext : Bytes}
    {request : JsonRequest} {keys : SessionKeys} {counter : UInt64}
    (accepted : openJson cipher hmac aad request keys counter = .ok plaintext) :
    ∃ ahl, request.ahl = .ok ahl ∧ hmac keys.clientMacKey (u64Be request.nonce ++ ahl) = request.mac := by
  unfold openJson at accepted
  split at accepted
  · cases accepted
  split at accepted
  · cases accepted
  · rename_i ahl listed
    split at accepted
    · cases accepted
    · rename_i verified
      exact ⟨ahl, listed, not_not.mp verified⟩

theorem opened_verified {T : Type} {readers : RequestReaders} {fromSlice : Bytes → Except String T}
    {now : Nat} {found : AtbId → Option AttestSession} {request : Request}
    (delivered : opened readers fromSlice now found request ≠ []) :
    ∃ session aad ticket list, fromRequestParts readers found request = .ok (session, aad) ∧
      request.ticket readers.base64 = .ok ticket ∧ request.ahl = .ok list ∧
      readers.hmac session.keys.clientMacKey (u64Be ticket.nonce ++ list.encode) = ticket.mac := by
  have decrypted : ∃ sealing, (decrypt readers now found request).1 = .ok sealing := by
    unfold opened at delivered
    split at delivered
    · rename_i sealing _ decrypted
      exact ⟨sealing, decrypted⟩
    · exact absurd rfl delivered
  obtain ⟨sealing, decrypted⟩ := decrypted
  unfold decrypt locate at decrypted
  split at decrypted
  · cases decrypted
  rename_i session aad ticket located
  split at located
  · cases located
  rename_i named
  split at located
  · cases located
  rename_i read
  cases located
  split at decrypted
  · cases decrypted
  rename_i ciphertext _
  dsimp only at decrypted
  unfold openLocked at decrypted
  dsimp only at decrypted
  split at decrypted
  · cases decrypted
  rename_i plaintext left admitted
  refine ⟨session, aad, ticket, ?_⟩
  unfold encryptedJson at admitted
  split at admitted
  · cases admitted
  · cases admitted
  rename_i accepted
  obtain ⟨_, _, _, opens, _⟩ := AttestSession.withKeysForTrr_ok_iff.mp (congrArg Prod.fst accepted)
  obtain ⟨ahl, listed, verified⟩ := openJson_ok opens
  dsimp only at listed verified
  cases made : request.ahl with
  | error failure =>
    rw [made] at listed
    cases listed
  | ok list =>
    rw [made] at listed
    cases listed
    exact ⟨list, named, read, rfl, verified⟩

end EncryptedJson

/-- A frame is opened by a live session in a phase that serves requests, under a number that is no
replay and while the session can count on. -/
theorem encryptedStreamFrame_opens_iff {cipher : Cipher} {sha384 : Bytes → Octets 48} {now : Nat}
    {aad plaintext : Bytes} {previous : Octets 48} {frame : StreamFrame} {session : AttestSession} :
    (encryptedStreamFrame cipher sha384 now aad previous frame session).1 = .ok plaintext ↔
      now < session.expiresAt ∧ session.phase.allowsTrustedRequest = true ∧
        session.Admits frame.counter ∧
        cipher.decrypt ⟨session.keys.clientWriteKey, .Aes256Gcm⟩
          (counterNonce session.keys.clientWriteIv frame.counter) (aad ++ previous.bytes)
          frame.ciphertext = some plaintext ∧
        session.clientCounter ≠ u64Max := by
  rw [encryptedStreamFrame_ok_iff, AttestSession.withKeysForTrr_ok_iff, AttestSession.admitNonce_iff]
  unfold openChunk
  cases cipher.decrypt _ _ _ frame.ciphertext with
  | none | some => simp

/-- The state of the stream `EncryptedStream` holds. -/
structure RequestStream where
  reader : StreamFrameReader
  aad : Bytes
  prevHash : Octets 48

def maxFrameSize : Nat := 16 * 1024 * 1024

def frameErrorText : FrameError → String
  | .TooLarge len => "Frame size " ++ toString len ++ " exceeds maximum allowed (" ++
      toString maxFrameSize ++ " bytes)"
  | .Transport reason => reason
  | .Incomplete => "Incomplete frame"

/-- A request stream being read, with what it has given to the handler. -/
structure Intaking where
  stream : RequestStream
  session : AttestSession
  opened : List Sealing

namespace EncryptedStream

variable (readers : RequestReaders) (state : Intaking) (polls : List Nat)

/-- `EncryptedStream::from_request`: the session and the stream before its first frame. -/
def fromRequest (found : AtbId → Option AttestSession)
    (request : Request) : Except Rejection (AttestSession × RequestStream) :=
  match fromRequestParts readers found request with
  | .error rejection => .error rejection
  | .ok (session, aad) => .ok (session, ⟨⟨[], request.body⟩, aad, Octets.zero 48⟩)

/-- One poll of the stream; `none` is its end. -/
def poll (now : Nat) (stream : RequestStream) (session : AttestSession) :
    Option (Except String Bytes) × RequestStream × AttestSession :=
  match StreamFrameReader.nextFrame (some maxFrameSize) stream.reader.buffer stream.reader.stream with
  | (.ok none, reader) => (none, { stream with reader }, session)
  | (.error failure, reader) =>
    (some (.error (frameErrorText failure)), { stream with reader }, session)
  | (.ok (some frame), reader) =>
    match encryptedStreamFrame readers.cipher readers.sha384 now stream.aad stream.prevHash frame
        session with
    | (outcome, prevHash, left) => (some outcome, { stream with reader, prevHash }, left)

def polledFrame (stream : RequestStream) : Option StreamFrame :=
  match (StreamFrameReader.nextFrame (some maxFrameSize) stream.reader.buffer
      stream.reader.stream).1 with
  | .ok frame => frame
  | .error _ => none

def step (state : Intaking) (now : Nat) : Intaking :=
  let polled := poll readers now state.stream state.session
  { stream := polled.2.1
    session := polled.2.2
    opened :=
      match polledFrame state.stream, polled.1 with
      | some frame, some (.ok plaintext) =>
        ⟨counterNonce state.session.keys.clientWriteIv frame.counter,
          state.stream.aad ++ state.stream.prevHash.bytes, plaintext, frame.ciphertext⟩ ::
          state.opened
      | _, _ => state.opened }

/-- What the handler gets from a request when it polls its stream at the given times. -/
def opened (readers : RequestReaders) (found : AtbId → Option AttestSession) (polls : List Nat)
    (request : Request) : List Sealing :=
  match fromRequest readers found request with
  | .error _ => []
  | .ok (session, stream) => (run (step readers) ⟨stream, session, []⟩ polls).opened

section Frames

variable {cipher : Cipher} {sha384 : Bytes → Octets 48} {now : Nat} {aad : Bytes}
  {previous : Octets 48} {frame : StreamFrame} {session : AttestSession}

variable (refused : ∀ chunk,
  (encryptedStreamFrame cipher sha384 now aad previous frame session).1 ≠ .ok chunk)
include refused

theorem frame_chain :
    (encryptedStreamFrame cipher sha384 now aad previous frame session).2.1 = previous := by
  unfold encryptedStreamFrame at refused ⊢
  generalize session.withKeysForTrr now frame.counter (openChunk cipher aad previous frame) =
    received at refused ⊢
  rcases received with ⟨failure | reason | chunk, left⟩
  · rfl
  · rfl
  · exact absurd rfl (refused chunk)

theorem frame_narrows {later : Nat} {other : Bytes} {chain : Octets 48} {next : StreamFrame}
    {plaintext : Bytes}
    (opens : (encryptedStreamFrame cipher sha384 later other chain next
      (encryptedStreamFrame cipher sha384 now aad previous frame session).2.2).1 = .ok plaintext) :
    (encryptedStreamFrame cipher sha384 later other chain next session).1 = .ok plaintext := by
  rw [encryptedStreamFrame_left, encryptedStreamFrame_ok_iff] at opens
  rw [encryptedStreamFrame_ok_iff]
  exact AttestSession.withKeysForTrr_narrows (fun chunk => mt encryptedStreamFrame_ok_iff.mpr (refused chunk)) opens

end Frames

theorem step_cases (now : Nat) : (∃ frame plaintext, frame.ciphertext.length ≤ maxFrameSize ∧
      (encryptedStreamFrame readers.cipher readers.sha384 now state.stream.aad state.stream.prevHash
        frame state.session).1 = .ok plaintext ∧ (step readers state now).opened =
        ⟨counterNonce state.session.keys.clientWriteIv frame.counter,
          state.stream.aad ++ state.stream.prevHash.bytes, plaintext, frame.ciphertext⟩ ::
          state.opened) ∨ ((step readers state now).opened = state.opened ∧
      (step readers state now).stream.aad = state.stream.aad ∧
      (step readers state now).stream.prevHash = state.stream.prevHash ∧
      (step readers state now).session.keys = state.session.keys ∧
      ∀ later aad chain frame plaintext,
        (encryptedStreamFrame readers.cipher readers.sha384 later aad chain frame
          (step readers state now).session).1 = .ok plaintext →
        (encryptedStreamFrame readers.cipher readers.sha384 later aad chain frame
          state.session).1 = .ok plaintext) := by
  unfold step poll polledFrame
  cases read : StreamFrameReader.nextFrame (some maxFrameSize) state.stream.reader.buffer
      state.stream.reader.stream with
  | mk result reader =>
    rcases result with failure | _ | frame
    · exact .inr ⟨rfl, rfl, rfl, rfl, fun _ _ _ _ _ opens => opens⟩
    · exact .inr ⟨rfl, rfl, rfl, rfl, fun _ _ _ _ _ opens => opens⟩
    · have within : frame.ciphertext.length ≤ maxFrameSize :=
        StreamFrameReader.nextFrame_length (congrArg Prod.fst read)
      dsimp only
      cases outcome : (encryptedStreamFrame readers.cipher readers.sha384 now state.stream.aad
          state.stream.prevHash frame state.session).1 with
      | ok plaintext => exact .inl ⟨frame, plaintext, within, outcome, rfl⟩
      | error reason =>
        have refused : ∀ chunk, (encryptedStreamFrame readers.cipher readers.sha384 now
            state.stream.aad state.stream.prevHash frame state.session).1 ≠ .ok chunk := by
          intro chunk opened
          rw [outcome] at opened
          cases opened
        refine .inr ⟨rfl, rfl, frame_chain refused, ?_, fun _ _ _ _ _ => frame_narrows refused⟩
        rw [encryptedStreamFrame_left]
        exact (state.session.withKeysForTrr_keeps ..).2.1

theorem run_opened_subset : state.opened ⊆ (run (step readers) state polls).opened := by
  apply run_invariant (fun after : Intaking => state.opened ⊆ after.opened)
  · intro after now kept
    rcases step_cases readers after now with ⟨frame, plaintext, _, _, longer⟩ | ⟨same, _⟩
    · rw [longer]
      exact List.Subset.trans kept (List.subset_cons_self _ _)
    · rw [same]
      exact kept
  · exact List.Subset.refl _

theorem run_first
    (fresh : state.opened = []) (delivered : (run (step readers) state polls).opened ≠ []) :
    ∃ later ∈ polls, ∃ frame plaintext, frame.ciphertext.length ≤ maxFrameSize ∧
      (encryptedStreamFrame readers.cipher readers.sha384 later state.stream.aad
        state.stream.prevHash frame state.session).1 = .ok plaintext ∧
      ⟨counterNonce state.session.keys.clientWriteIv frame.counter,
        state.stream.aad ++ state.stream.prevHash.bytes, plaintext, frame.ciphertext⟩ ∈
        (run (step readers) state polls).opened := by
  induction polls generalizing state with
  | nil => exact absurd fresh delivered
  | cons now polls ih =>
    rw [run_cons] at delivered ⊢
    rcases step_cases readers state now with
      ⟨frame, plaintext, within, opens, given⟩ | ⟨same, aad, chain, keys, narrower⟩
    · refine ⟨now, List.mem_cons_self, frame, plaintext, within, opens, ?_⟩
      apply run_opened_subset
      rw [given]
      exact List.mem_cons_self
    · obtain ⟨later, member, frame, plaintext, within, opens, kept⟩ :=
        ih (step readers state now) (same.trans fresh) delivered
      rw [aad, chain] at opens kept
      rw [keys] at kept
      exact ⟨later, List.mem_cons_of_mem _ member, frame, plaintext, within,
        narrower _ _ _ _ _ opens, kept⟩

theorem opened_frame {readers : RequestReaders} {found : AtbId → Option AttestSession}
    {request : Request} {session : AttestSession} {aad plaintext : Bytes} {frame : StreamFrame}
    {now : Nat} (served : fromRequestParts readers found request = .ok (session, aad))
    (body : request.body = [.ok frame.encode])
    (within : frame.ciphertext.length ≤ maxFrameSize)
    (opens : (encryptedStreamFrame readers.cipher readers.sha384 now aad (Octets.zero 48) frame
      session).1 = .ok plaintext) :
    opened readers found [now] request =
      [⟨counterNonce session.keys.clientWriteIv frame.counter, aad ++ (Octets.zero 48).bytes,
        plaintext, frame.ciphertext⟩] := by
  have taken : StreamFrame.decode (some maxFrameSize) frame.encode = .ok (some (frame, [])) := by
    have fits : frame.Fits (some maxFrameSize) := by
      have small : maxFrameSize < 2 ^ 32 := by decide
      refine ⟨by omega, ?_⟩
      rintro max ⟨⟩
      exact within
    have whole := StreamFrame.decode_encode fits []
    rwa [List.append_nil] at whole
  have read : StreamFrameReader.nextFrame (some maxFrameSize) [] request.body =
      (.ok (some frame), ⟨[], []⟩) := by
    have empty : StreamFrame.decode (some maxFrameSize) [] = .ok none := rfl
    simp only [body, StreamFrameReader.nextFrame, StreamFrameReader.frameOr, empty,
      List.nil_append, taken]
  simp only [opened, fromRequest, served, run_cons, run_nil, step, poll, polledFrame, read, opens]

end EncryptedStream

end OpenHttpa.Server
