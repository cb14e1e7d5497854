import OpenHttpa.Client.Responses
import OpenHttpa.Server.Extractors

/-!
# The response direction of one session

Both ends of one session, with an adversary between them. The server seals whole responses and
frames of response streams, each under its next response number; the client opens whole responses
under a number of its own and frames under the number they carry. What reaches the client is
arbitrary, so replies may be lost, swapped, repeated, corrupted or refused. The link keeps what the
server sealed and what the client accepted.
-/
namespace OpenHttpa.Channel

open OpenHttpa.Core Crypto Proto Server Client

/-- What both ends compute with, and how the client reads a whole response. -/
structure Ends extends ResponseReader where
  sha384 : Bytes → Octets 48
  ids : IdCodec

/-- A sealed response. -/
structure Item where
  owner : Nat
  number : UInt64
  aad : Bytes
  plaintext : Bytes
  ciphertext : Bytes
deriving DecidableEq

structure Outgoing where
  owner : Nat
  state : SealStream
  /-- The frames that went on the wire, oldest first. -/
  items : List Item

structure Incoming where
  owner : Nat
  state : ResponseStream
  /-- The frames that yielded a chunk, with the chunk, oldest first. -/
  accepted : List (StreamFrame × Bytes)

/-- A server's session, a client's, and all they sent. -/
structure Link where
  server : AttestSession
  /-- A panic has poisoned the mutex of the server's session. -/
  poisoned : Bool
  client : AttestSession
  outgoing : List Outgoing
  incoming : List Incoming
  /-- Everything the server has sealed, newest first. -/
  items : List Item
  /-- The answers `trusted_request` has returned, with their requests, newest first. -/
  answers : List (Nat × Bytes)

/-- What can happen on the link. -/
inductive LinkEvent where
  /-- The client seals a request, under its next request counter or a nonce of its choice. -/
  | ask (now : Nat) (nonce : Option UInt64) (f : SessionKeys → UInt64 → Except String Bytes)
  /-- The server admits, or refuses, something under a request nonce. -/
  | receive (now : Nat) (nonce : UInt64) (f : SessionKeys → UInt64 → Except String Bytes)
  /-- The server seals a response for a request that names the session as `baseIdStr`. -/
  | respond (owner now : Nat) (baseIdStr : Bytes) (value : Except String Bytes)
  | openStream (owner : Nat) (baseIdStr : Bytes)
  | chunk (stream now : Nat) (item : Except String Bytes)
  | reply (owner now : Nat) (reply : Except String Reply)
  /-- The client begins to read the stream that answers a request. -/
  | readStream (owner : Nat) (body : List (Except String Bytes))
  | poll (stream now : Nat)

def responseItem (codec : BodyCodec) (owner : Nat) (number : UInt64) (aad : Bytes) :
    Except String Bytes → Except Rejection SealedResponse → List Item
  | .ok plaintext, .ok response =>
    match codec.parse response.body with
    | .ok ciphertext => [⟨owner, number, aad, plaintext, ciphertext⟩]
    | .error _ => []
  | _, _ => []

def chunkItem (out : Outgoing) : Except String Bytes → ChunkOutcome → List Item
  | .ok plaintext, .sealed frame =>
    [⟨out.owner, frame.counter, out.state.chunkAad, plaintext, frame.ciphertext⟩]
  | _, _ => []

def acceptedFrame : Option StreamFrame → Option (Except ClientError Bytes) →
    List (StreamFrame × Bytes)
  | some frame, some (.ok plaintext) => [(frame, plaintext)]
  | _, _ => []

def answer (owner : Nat) : Except ClientError Bytes → List (Nat × Bytes)
  | .ok body => [(owner, body)]
  | .error _ => []

namespace Link

def start (id : AtbId) (suite : CipherSuite) (version : ProtocolVersion) (keys : SessionKeys)
    (serverExpiry clientExpiry : Nat) (result : Option VerificationResult) : Link where
  server := .new id suite version keys serverExpiry .StrictMonotonic result
  poisoned := false
  client := .new id suite version keys clientExpiry .default none
  outgoing := []
  incoming := []
  items := []
  answers := []

def clientAad (ids : IdCodec) (link : Link) : Bytes := sessionAad (ids.print link.client.id)

/-- One event on the link. -/
def step (ends : Ends) (link : Link) : LinkEvent → Link
  | .ask now none f => { link with client := (link.client.withKeysForNextTrr now f).2 }
  | .ask now (some nonce) f => { link with client := (link.client.withKeysForTrr now nonce f).2 }
  | .receive now nonce f =>
    if link.poisoned then link
    else { link with server := (link.server.withKeysForTrr now nonce f).2 }
  | .respond owner now baseIdStr value =>
    if link.poisoned ∨ ends.ids.parse baseIdStr ≠ some link.server.id then link
    else
      let aad := sessionAad baseIdStr
      let sealed := sealResponse ends.cipher ends.codec now aad value link.server
      { link with
        server := sealed.2.2
        items := responseItem ends.codec owner link.server.serverCounter aad value sealed.1 ++
          link.items }
  | .openStream owner baseIdStr =>
    if link.poisoned ∨ ends.ids.parse baseIdStr ≠ some link.server.id then link
    else
      { link with outgoing := link.outgoing ++ [⟨owner, .start (sessionAad baseIdStr), []⟩] }
  | .chunk index now item =>
    if link.poisoned then link
    else
      match link.outgoing[index]? with
      | none => link
      | some out =>
        let sealed := sealChunk ends.cipher ends.sha384 now out.state item link.server
        let new := chunkItem out item sealed.1
        { link with
          server := sealed.2.2.1
          poisoned := decide (sealed.1 = .panicked)
          outgoing := link.outgoing.set index
            { out with state := sealed.2.2.2, items := out.items ++ new }
          items := new ++ link.items }
  | .reply owner now reply =>
    let finished := finishRequest ends.toResponseReader now (link.clientAad ends.ids) reply link.client
    { link with client := finished.2, answers := answer owner finished.1 ++ link.answers }
  | .readStream owner body =>
    if link.incoming.any fun stream => stream.owner = owner then link
    else { link with incoming := link.incoming ++ [⟨owner, .start body, []⟩] }
  | .poll index now =>
    match link.incoming[index]? with
    | none => link
    | some stream =>
      let polled := pollStream ends.cipher ends.sha384 now (link.clientAad ends.ids) stream.state
        link.client
      { link with
        client := polled.2.2
        incoming := link.incoming.set index
          { stream with
            state := polled.2.1
            accepted := stream.accepted ++ acceptedFrame (polledFrame stream.state) polled.1 } }

/-- What opens under the server write key of the session was sealed by the server. -/
def Genuine (cipher : Cipher) (link : Link) (ciphertext : Bytes) : Prop :=
  ∀ nonce aad plaintext,
    cipher.decrypt ⟨link.client.keys.serverWriteKey, .Aes256Gcm⟩ nonce aad ciphertext =
      some plaintext → ∃ item ∈ link.items, item.ciphertext = ciphertext

/-- The adversary forges nothing: whatever the client is given to open is genuine. -/
def Unforged (ends : Ends) (link : Link) : LinkEvent → Prop
  | .reply _ _ reply =>
    ∀ ciphertext, Reply.ciphertext? ends.toResponseReader reply = some ciphertext →
      link.Genuine ends.cipher ciphertext
  | .poll index _ =>
    ∀ stream frame, link.incoming[index]? = some stream →
      polledFrame stream.state = some frame → link.Genuine ends.cipher frame.ciphertext
  | _ => True

/-- What an event leaves alone, and the one item it may add: sealed under the server's keys and its
next response number, which is then used up. -/
structure Evolves (cipher : Cipher) (link after : Link) : Prop where
  serverKeys : after.server.keys = link.server.keys
  serverId : after.server.id = link.server.id
  clientKeys : after.client.keys = link.client.keys
  clientId : after.client.id = link.client.id
  forward : link.server.serverCounter.toNat ≤ after.server.serverCounter.toNat
  items : after.items = link.items ∨ ∃ item, after.items = item :: link.items ∧
    item.number = link.server.serverCounter ∧ link.server.serverCounter ≠ u64Max ∧
    after.server.serverCounter = link.server.serverCounter + 1 ∧
    sealWith cipher item.aad item.plaintext link.server.keys item.number = some item.ciphertext

section Steps

variable (ends : Ends) (link : Link)

theorem Evolves.ofClient {cipher : Cipher} {link after : Link} (server : after.server = link.server)
    (keys : after.client.keys = link.client.keys) (id : after.client.id = link.client.id)
    (items : after.items = link.items) : Evolves cipher link after where
  serverKeys := by rw [server]
  serverId := by rw [server]
  clientKeys := keys
  clientId := id
  forward := by rw [server]
  items := .inl items

theorem respond_evolves (owner now : Nat) (baseIdStr : Bytes) (value : Except String Bytes) :
    Evolves ends.cipher link (link.step ends (.respond owner now baseIdStr value)) := by
  simp only [step]
  by_cases refused : link.poisoned ∨ ends.ids.parse baseIdStr ≠ some link.server.id
  · rw [if_pos refused]
    exact .ofClient rfl rfl rfl rfl
  · rw [if_neg refused]
    obtain ⟨counter, kept, forward⟩ := sealResponse_keeps ends.cipher ends.codec now
      (sessionAad baseIdStr) value link.server
    refine ⟨by rw [kept], by rw [kept], rfl, rfl, by rw [kept]; exact forward, ?_⟩
    cases outcome : (sealResponse ends.cipher ends.codec now (sessionAad baseIdStr) value
        link.server).1 with
    | error rejection => exact .inl (by cases value <;> rfl)
    | ok response =>
      obtain ⟨plaintext, ciphertext, rfl, encrypted, body, below, moved⟩ := sealResponse_ok outcome
      refine .inr ⟨⟨owner, link.server.serverCounter, sessionAad baseIdStr, plaintext, ciphertext⟩,
        ?_, rfl, below, by rw [moved], encrypted⟩
      simp only [responseItem, body, ends.codec.parse_render, List.singleton_append]

theorem chunk_evolves (index now : Nat) (item : Except String Bytes) :
    Evolves ends.cipher link (link.step ends (.chunk index now item)) := by
  simp only [step]
  by_cases refused : link.poisoned
  · rw [if_pos refused]
    exact .ofClient rfl rfl rfl rfl
  · rw [if_neg refused]
    cases link.outgoing[index]? with
    | none => exact .ofClient rfl rfl rfl rfl
    | some out =>
      obtain ⟨counter, kept, forward⟩ :=
        sealChunk_keeps ends.cipher ends.sha384 now out.state item link.server
      refine ⟨by dsimp only; rw [kept], by dsimp only; rw [kept], rfl, rfl,
        by dsimp only; rw [kept]; exact forward, ?_⟩
      cases outcome : (sealChunk ends.cipher ends.sha384 now out.state item link.server).1 with
      | failed | panicked => exact .inl (by cases item <;> simp [outcome, chunkItem])
      | sealed frame =>
        obtain ⟨plaintext, rfl, encrypted, number, below, moved⟩ := sealChunk_sealed outcome
        refine .inr ⟨⟨out.owner, frame.counter, out.state.chunkAad, plaintext, frame.ciphertext⟩,
          ?_, number, below, ?_, ?_⟩
        · simp [outcome, chunkItem]
        · simp [moved]
        · rw [number]
          exact encrypted

theorem step_evolves (event : LinkEvent) : Evolves ends.cipher link (link.step ends event) := by
  cases event with
  | ask now nonce f =>
    cases nonce with
    | none =>
      obtain ⟨id, keys, _, _⟩ := link.client.withKeysForTrr_keeps now link.client.clientCounter f
      exact .ofClient rfl keys id rfl
    | some nonce =>
      obtain ⟨id, keys, _, _⟩ := link.client.withKeysForTrr_keeps now nonce f
      exact .ofClient rfl keys id rfl
  | receive now nonce f =>
    obtain ⟨id, keys, _, counter⟩ := link.server.withKeysForTrr_keeps now nonce f
    simp only [step]
    by_cases refused : link.poisoned
    · rw [if_pos refused]
      exact .ofClient rfl rfl rfl rfl
    · rw [if_neg refused]
      exact ⟨keys, id, rfl, rfl, Nat.le_of_eq (congrArg UInt64.toNat counter.symm), .inl rfl⟩
  | respond owner now baseIdStr value => exact respond_evolves ends link owner now baseIdStr value
  | openStream owner baseIdStr =>
    simp only [step]
    split <;> exact .ofClient rfl rfl rfl rfl
  | chunk index now item => exact chunk_evolves ends link index now item
  | reply owner now reply =>
    obtain ⟨counter, kept⟩ := finishRequest_keeps ends.toResponseReader now
      (link.clientAad ends.ids) reply link.client
    exact .ofClient rfl (by simp [step, kept]) (by simp [step, kept]) rfl
  | readStream owner body =>
    simp only [step]
    split <;> exact .ofClient rfl rfl rfl rfl
  | poll index now =>
    simp only [step]
    cases link.incoming[index]? with
    | none => exact .ofClient rfl rfl rfl rfl
    | some stream =>
      obtain ⟨counter, kept⟩ := pollStream_keeps ends.cipher ends.sha384 now
        (link.clientAad ends.ids) stream.state link.client
      exact .ofClient rfl (by dsimp only; rw [kept]) (by dsimp only; rw [kept]) rfl

end Steps

/-- The two ends share their keys, and every item was sealed under them. -/
structure Sealed (cipher : Cipher) (keys : SessionKeys) (link : Link) : Prop where
  serverKeys : link.server.keys = keys
  clientKeys : link.client.keys = keys
  encrypted : ∀ item ∈ link.items,
    sealWith cipher item.aad item.plaintext keys item.number = some item.ciphertext

theorem start_sealed (cipher : Cipher) (id : AtbId) (suite : CipherSuite)
    (version : ProtocolVersion) (keys : SessionKeys) (serverExpiry clientExpiry : Nat)
    (result : Option VerificationResult) :
    (start id suite version keys serverExpiry clientExpiry result).Sealed cipher keys :=
  ⟨rfl, rfl, by simp [start]⟩

theorem Evolves.sealed {cipher : Cipher} {keys : SessionKeys} {link after : Link}
    (evolves : Evolves cipher link after) (account : link.Sealed cipher keys) :
    after.Sealed cipher keys := by
  refine ⟨evolves.serverKeys.trans account.serverKeys, evolves.clientKeys.trans account.clientKeys,
    ?_⟩
  rcases evolves.items with same | ⟨item, added, _, _, _, encrypted⟩
  · rw [same]
    exact account.encrypted
  · rw [added, List.forall_mem_cons]
    rw [account.serverKeys] at encrypted
    exact ⟨encrypted, account.encrypted⟩

theorem Sealed.opens {cipher : Cipher} (ideal : cipher.Ideal) {keys : SessionKeys} {link : Link}
    (account : link.Sealed cipher keys) {ciphertext aad plaintext : Bytes} {number : UInt64}
    (genuine : link.Genuine cipher ciphertext)
    (opened : cipher.decrypt ⟨link.client.keys.serverWriteKey, .Aes256Gcm⟩
      (counterNonce link.client.keys.serverWriteIv number) aad ciphertext = some plaintext) :
    ∃ item ∈ link.items, item.ciphertext = ciphertext ∧ item.number = number ∧ item.aad = aad ∧
      item.plaintext = plaintext := by
  obtain ⟨item, member, same⟩ := genuine _ _ _ opened
  have encrypted := account.encrypted item member
  rw [same, sealWith] at encrypted
  rw [account.clientKeys] at opened
  obtain ⟨_, nonce, aads, plaintexts⟩ := (ideal.decrypt_iff encrypted).mp opened
  exact ⟨item, member, same, (counterNonce_injective nonce).symm, aads.symm, plaintexts.symm⟩

end Link

def plainEnds : Ends where
  cipher := plainCipher
  codec := .plain
  statusText := toString
  sha384 := fun _ => .zero 48
  ids := .padded

def zeroLink : Link := .start ⟨0⟩ .X25519MlKem768Aes256GcmSha384 .V2 .zero 10 10 none

def zeroId : Bytes := IdCodec.padded.print ⟨0⟩

def sealedUnder (number : UInt64) (plaintext : Bytes) : Bytes :=
  plainHeader ⟨.zero 32, .Aes256Gcm⟩ (counterNonce (.zero 12) number) (sessionAad zeroId) ++ plaintext

end OpenHttpa.Channel
