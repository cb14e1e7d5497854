import OpenHttpa.Channel.Authenticity
import OpenHttpa.Client.RequestUri
import OpenHttpa.Headers.Decoders
import OpenHttpa.Server.Handlers

/-!
# A request from the client to its handler

`trusted_request_ext` at one end and `EncryptedJson` at the other. Both make the header list that
the MAC covers for themselves: the client from the URI it sends the request to, the server from the
target and the host header of the request that arrives. The two lists differ at most in the
authority (`fromRequest_carried_iff`), so it depends on how the URI of the server is written whether
the request is accepted (`next_request_accepted_iff`). `InStep` ties the sessions of the two
together: the server has seen only numbers that the client has used.
-/
namespace OpenHttpa.Channel

open OpenHttpa.Core Crypto Proto Headers Server Client

/-- Both ends use the same libraries, and what is sealed opens. -/
structure Paired (codecs : RequestCodecs) (readers : RequestReaders) : Prop where
  cipher : readers.cipher = codecs.cipher
  hmac : readers.hmac = codecs.hmac
  uuid : readers.uuid = codecs.uuid
  base64 : readers.base64 = codecs.base64
  opens : ∀ key nonce aad plain data, codecs.cipher.encrypt key nonce aad plain = some data →
    codecs.cipher.decrypt key nonce aad data = some plain

/-- The HMAC of one header list is not that of another. -/
def Separates (codecs : RequestCodecs) (keys : SessionKeys) : Prop :=
  ∀ nonce left right, codecs.hmac keys.clientMacKey (ticketMessage nonce left) =
    codecs.hmac keys.clientMacKey (ticketMessage nonce right) → left = right

/-- The request arrives for the same method, path and query, with the same `Attest-*` headers. -/
structure CarriedHead (line : RequestLine) (sealed : SealedRequest) (request : Request) : Prop where
  method : request.method = line.method
  path : request.path = line.path
  query : request.query = line.query
  attested : ∀ name, isAttested name = true →
    request.headers.getAll name = sealed.headers.getAll name
  ticket : request.headers.getAll hdrAttestTicket = sealed.headers.getAll hdrAttestTicket

/-- The request arrives as it was sent, whatever host it names, and the extractor decodes its body. -/
structure Carried (readers : RequestReaders) (line : RequestLine) (sealed : SealedRequest)
    (request : Request) : Prop extends CarriedHead line sealed request where
  body : EncryptedJson.readBody readers request = .ok sealed.data

def SealedRequest.typed (sealed : SealedRequest) : SealedRequest :=
  { sealed with
    headers := sealed.headers.insert contentType (.ofText "application/json") }

section Acceptance

variable {codecs : RequestCodecs} {readers : RequestReaders} {line : RequestLine} {body : Bytes}
  {extra : Option HeaderMap} {client server : AttestSession} {sealed : SealedRequest}
  {request : Request} {counter : UInt64} {list : AttestedHeaderList}

theorem getAll_ticketedHeaders {covered : HeaderMap} {keys : SessionKeys} {value : HeaderValue}
    {name : HeaderName} (attested : isAttested name = true) :
    ((ticketedHeaders codecs keys counter list covered).insert contentType value).getAll name =
      covered.getAll name := by
  have ticket : name ≠ hdrAttestTicket := by
    rintro rfl
    revert attested
    decide +kernel
  have content : name ≠ contentType := by
    rintro rfl
    revert attested
    decide +kernel
  rw [HeaderMap.getAll_insert_of_ne _ _ content, ticketedHeaders,
    HeaderMap.getAll_insert_of_ne _ _ ticket]

def Made (codecs : RequestCodecs) (client : AttestSession) (line : RequestLine) (body : Bytes)
    (extra : Option HeaderMap) (counter : UInt64) (sealed : SealedRequest) : Prop :=
  ∃ bare, sealBody codecs line body (requestAad codecs client) (coveredHeaders codecs client.id extra)
    client.keys counter = .ok bare ∧ sealed = SealedRequest.typed bare

theorem sendRequest_made {now : Nat}
    (sent : (sendRequest codecs now line body extra client).1 = .ok sealed) :
    Made codecs client line body extra client.clientCounter sealed ∧ client.clientCounter ≠ u64Max := by
  unfold sendRequest at sent
  split at sent
  · cases sent
  · split at sent
    · cases sent
    · rename_i bare left returned
      cases sent
      obtain ⟨made, below⟩ := sealRequestBody_closure (congrArg Prod.fst returned)
      exact ⟨⟨bare, made, rfl⟩, below⟩

/-- What the extractor reads of a request that was made under a number and arrives as it was sent. -/
def arrived (codecs : RequestCodecs) (keys : SessionKeys) (counter : UInt64) (list : AttestedHeaderList)
    (sealed : SealedRequest) (request : Request) : JsonRequest where
  nonce := counter
  mac := codecs.hmac keys.clientMacKey (ticketMessage counter list)
  authority := request.authority
  ahl := .ok { list with authority := request.authority }.encode
  ciphertext := sealed.data

theorem CarriedHead.ahl (carried : CarriedHead line sealed request)
    (headers : sealed.headers = (ticketedHeaders codecs client.keys counter list
      (coveredHeaders codecs client.id extra)).insert contentType
        (.ofText "application/json"))
    (listed : line.ahl (coveredHeaders codecs client.id extra) = .ok list) :
    request.ahl = .ok { list with authority := request.authority } := by
  have same : ∀ name, isAttested name = true →
      request.headers.getAll name = (coveredHeaders codecs client.id extra).getAll name := by
    intro name attested
    rw [carried.attested name attested, headers]
    exact getAll_ticketedHeaders attested
  rw [Request.ahl, HeaderMap.attestedHeaderList_congr same, carried.method, carried.path, carried.query]
  exact HeaderMap.attestedHeaderList_authority listed _

/-- The ticket of a request that was made under a number. -/
def ticketOf (codecs : RequestCodecs) (keys : SessionKeys) (counter : UInt64)
    (list : AttestedHeaderList) : DecodedTicket :=
  ⟨counter, codecs.hmac keys.clientMacKey (ticketMessage counter list), none⟩

theorem CarriedHead.locate (paired : Paired codecs readers) (carried : CarriedHead line sealed request)
    (headers : sealed.headers = (ticketedHeaders codecs client.keys counter list
      (coveredHeaders codecs client.id extra)).insert contentType
        (.ofText "application/json"))
    {found : AtbId → Option AttestSession} (registered : found client.id = some server) :
    EncryptedJson.locate readers found request =
      .ok (server, requestAad codecs client, ticketOf codecs client.keys counter list) := by
  have attested : isAttested hdrAttestBaseId = true := by decide +kernel
  have named : request.headers.getText hdrAttestBaseId = some (codecs.uuid.display client.id) := by
    have held : request.headers.getAll hdrAttestBaseId =
        [.ofText (codecs.uuid.display client.id)] := by
      rw [carried.attested _ attested, headers, getAll_ticketedHeaders attested]
      exact HeaderMap.getAll_insert_self ..
    simp [HeaderMap.getText, HeaderMap.get, held]
  have read : readers.uuid.fromStr (codecs.uuid.display client.id) = .ok client.id := by
    rw [paired.uuid]
    exact codecs.uuid.fromStr_display _
  have ticket : request.ticket readers.base64 = .ok (ticketOf codecs client.keys counter list) := by
    rw [Request.ticket, paired.base64, HeaderMap.ticket, HeaderMap.get, carried.ticket, headers]
    exact carriesMac_contentType codecs client.keys counter list _ _
  simp only [EncryptedJson.locate, fromRequestParts_named named read registered, ticket]
  rfl

theorem Made.headers (made : Made codecs client line body extra counter sealed) :
    ∃ list, line.ahl (coveredHeaders codecs client.id extra) = .ok list ∧
      sealed.headers = (ticketedHeaders codecs client.keys counter list
        (coveredHeaders codecs client.id extra)).insert contentType
          (.ofText "application/json") := by
  obtain ⟨bare, closure, rfl⟩ := made
  obtain ⟨_, _, list, listed, headers⟩ := sealBody_ok closure
  refine ⟨list, listed, ?_⟩
  rw [← headers]
  rfl

variable (paired : Paired codecs readers) (separates : Separates codecs client.keys)
  (made : Made codecs client line body extra counter sealed)
include paired made

theorem decrypt_carried (carried : Carried readers line sealed request)
    {found : AtbId → Option AttestSession} (registered : found client.id = some server) (now : Nat) :
    ∃ list, line.ahl (coveredHeaders codecs client.id extra) = .ok list ∧
      EncryptedJson.decrypt readers now found request =
        match encryptedJson codecs.cipher codecs.hmac now (requestAad codecs client)
            (arrived codecs client.keys counter list sealed request) server with
        | (.error rejection, left) => (.error rejection, some left)
        | (.ok plaintext, left) =>
          (.ok ⟨counterNonce server.keys.clientWriteIv counter, requestAad codecs client, plaintext,
            sealed.data⟩, some left) := by
  obtain ⟨list, listed, headers⟩ := made.headers
  have ahl := carried.ahl headers listed
  refine ⟨list, listed, ?_⟩
  simp only [EncryptedJson.decrypt, carried.locate paired headers registered, carried.body,
    EncryptedJson.openLocked, ahl, paired.cipher, paired.hmac, ticketOf, arrived, Except.map,
    Except.mapError]
  generalize encryptedJson _ _ _ _ _ _ = taken
  obtain ⟨rejection | plaintext, left⟩ := taken
  · rfl
  · rfl

include separates

variable (listed : line.ahl (coveredHeaders codecs client.id extra) = .ok list)
include listed

theorem openJson_arrived (request : Request) (number : UInt64) :
    openJson codecs.cipher codecs.hmac (requestAad codecs client)
        (arrived codecs client.keys counter list sealed request) client.keys number =
      if request.authority = "" then
        .error ⟨400, "Missing Host / authority header — required for AHL integrity"⟩
      else if request.authority = line.authority then .ok body
      else .error ⟨401, "Invalid header MAC"⟩ := by
  obtain ⟨bare, closure, rfl⟩ := made
  obtain ⟨_, encrypted, _⟩ := sealBody_ok closure
  have authority : list.authority = line.authority := by rw [attestedHeaderList_ok listed]
  unfold openJson
  simp only [arrived, String.isEmpty_iff]
  by_cases empty : request.authority = ""
  · rw [if_pos empty, if_pos empty]
  rw [if_neg empty, if_neg empty]
  by_cases same : request.authority = line.authority
  · have whole : { list with authority := request.authority } = list := by rw [same, ← authority]
    have opened : codecs.cipher.decrypt ⟨client.keys.clientWriteKey, .Aes256Gcm⟩
        (counterNonce client.keys.clientWriteIv counter) (requestAad codecs client)
        (SealedRequest.typed bare).data = some body := paired.opens _ _ _ _ _ encrypted
    rw [if_pos same, whole]
    simp only [ticketMessage, ne_eq, not_true_eq_false, if_false, opened]
  · have differs : codecs.hmac client.keys.clientMacKey
        (u64Be counter ++ { list with authority := request.authority }.encode) ≠
        codecs.hmac client.keys.clientMacKey (ticketMessage counter list) := by
      intro collide
      have lists := separates counter { list with authority := request.authority } list collide
      rw [← authority, ← lists] at same
      exact same rfl
    exact (if_pos differs).trans (if_neg same).symm

theorem openJson_arrived_iff (request : Request) (number : UInt64) (plaintext : Bytes) :
    openJson codecs.cipher codecs.hmac (requestAad codecs client)
        (arrived codecs client.keys counter list sealed request) client.keys number = .ok plaintext ↔
      plaintext = body ∧ request.authority ≠ "" ∧ request.authority = line.authority := by
  rw [openJson_arrived paired separates made listed]
  split
  · rename_i empty
    simp [empty]
  · rename_i shown
    split
    · rename_i same
      rw [Except.ok.injEq]
      exact ⟨fun plain => ⟨plain.symm, shown, same⟩, fun plain => plain.1.symm⟩
    · rename_i differs
      simp [differs]

theorem encryptedJson_arrived_iff (request : Request) (keys : server.keys = client.keys) (now : Nat)
    (plaintext : Bytes) : (encryptedJson codecs.cipher codecs.hmac now (requestAad codecs client)
        (arrived codecs client.keys counter list sealed request) server).1 = .ok plaintext ↔
      plaintext = body ∧ server.Serves now ∧ (∃ admitted, server.admitNonce counter = .ok admitted) ∧
        server.clientCounter ≠ u64Max ∧ request.authority ≠ "" ∧
        request.authority = line.authority := by
  rw [encryptedJson_ok_iff, AttestSession.withKeysForTrr_ok_iff, keys,
    openJson_arrived_iff paired separates made listed, AttestSession.Serves]
  tauto

omit listed

section Handler

variable {T : Type} {fromSlice : Bytes → Except String T} {value : T}
  {found : AtbId → Option AttestSession} {now : Nat}

variable (carried : Carried readers line sealed request)
  (registered : found client.id = some server)
include carried registered

theorem fromRequest_carried_iff (keys : server.keys = client.keys) :
    (EncryptedJson.fromRequest readers fromSlice now found request).1 = .ok value ↔
      fromSlice body = .ok value ∧ server.Serves now ∧
        (∃ admitted, server.admitNonce counter = .ok admitted) ∧
        server.clientCounter ≠ u64Max ∧ request.authority ≠ "" ∧
        request.authority = line.authority := by
  obtain ⟨list, listed, decrypted⟩ := decrypt_carried paired made carried registered now
  have accepted := encryptedJson_arrived_iff paired separates made listed request keys now
  unfold EncryptedJson.fromRequest
  rw [decrypted]
  generalize encryptedJson codecs.cipher codecs.hmac now (requestAad codecs client)
    (arrived codecs client.keys counter list sealed request) server = received at accepted
  obtain ⟨result, left⟩ := received
  dsimp only at accepted ⊢
  cases result with
  | error rejection =>
    have refused := accepted body
    simp only [reduceCtorEq, true_and, false_iff] at refused
    simp [EncryptedJson.finish, refused]
  | ok plaintext =>
    have opened := (accepted plaintext).mp rfl
    obtain ⟨rfl, conditions⟩ := opened
    rw [and_iff_left conditions, EncryptedJson.finish]
    cases fromSlice plaintext with
    | error | ok => simp

theorem fromRequest_carried_left (fromSlice : Bytes → Except String T) (now : Nat) :
    ∃ f : SessionKeys → UInt64 → Except Rejection Bytes,
      (request.authority = line.authority → request.authority ≠ "" →
        ∀ number, f client.keys number = .ok body) ∧
      (EncryptedJson.fromRequest readers fromSlice now found request).2 =
        some (server.withKeysForTrr now counter f).2 := by
  obtain ⟨list, listed, decrypted⟩ := decrypt_carried paired made carried registered now
  refine ⟨openJson codecs.cipher codecs.hmac (requestAad codecs client)
    (arrived codecs client.keys counter list sealed request), ?_, ?_⟩
  · intro same shown number
    rw [openJson_arrived paired separates made listed request, if_neg shown, if_pos same]
  · have left : (encryptedJson codecs.cipher codecs.hmac now (requestAad codecs client)
        (arrived codecs client.keys counter list sealed request) server).2 =
        (server.withKeysForTrr now counter (openJson codecs.cipher codecs.hmac
          (requestAad codecs client)
          (arrived codecs client.keys counter list sealed request))).2 := encryptedJson_left
    rw [← left, EncryptedJson.fromRequest, decrypted]
    rcases encryptedJson codecs.cipher codecs.hmac now (requestAad codecs client)
      (arrived codecs client.keys counter list sealed request) server with ⟨rejection | plaintext, after⟩
    · rfl
    · rfl

end Handler

end Acceptance

/-- The server holds a session of the client that takes numbers in ascending order, and counts no more
requests than it has seen numbers. -/
structure Ready (client server : AttestSession) : Prop where
  id : server.id = client.id
  keys : server.keys = client.keys
  strict : server.replayStrategy = .StrictMonotonic
  phase : server.phase.allowsTrustedRequest = true
  counted : server.clientCounter.toNat ≤ server.strictLastSeen.toNat + 1

/-- The server is ready, and has seen no number that is still to come. -/
structure InStep (client server : AttestSession) : Prop extends Ready client server where
  seen : server.strictLastSeen < client.clientCounter

theorem inStep_new (out : ServerOutcome) (suite : CipherSuite) (version : ProtocolVersion)
    (expiresAt : Nat) (strategy : ReplayStrategy) (result : Option VerificationResult) :
    InStep (.new out.result.atbId suite version out.result.sessionKeys expiresAt strategy result)
      (sessionOf out) where
  id := rfl
  keys := rfl
  strict := rfl
  phase := rfl
  seen := show (0 : UInt64) < 1 by decide
  counted := show (1 : UInt64).toNat ≤ (0 : UInt64).toNat + 1 by decide

section Ready

variable {client server : AttestSession} {counter : UInt64}

theorem Ready.admits_iff (ready : Ready client server) :
    (∃ admitted, server.admitNonce counter = .ok admitted) ↔ server.strictLastSeen < counter := by
  rw [AttestSession.admitNonce_strict ready.strict, ← UInt64.not_le]
  by_cases stale : counter ≤ server.strictLastSeen
  · simp [stale]
  · simp [stale]

theorem Ready.room (ready : Ready client server) (above : server.strictLastSeen < counter)
    (below : counter ≠ u64Max) : server.clientCounter ≠ u64Max := by
  have counted := ready.counted
  have last := toNat_succ below
  have bound := (counter + 1).toNat_lt
  rw [UInt64.lt_iff_toNat_lt] at above
  intro full
  rw [full] at counted
  have top : u64Max.toNat = 2 ^ 64 - 1 := by decide
  omega

theorem Ready.after (ready : Ready client server) {T E : Type} {now : Nat}
    {f : SessionKeys → UInt64 → Except E T} {value : T} (above : server.strictLastSeen < counter)
    (accepted : (server.withKeysForTrr now counter f).1 = .ok (.ok value)) :
    Ready client (server.withKeysForTrr now counter f).2 ∧
      (server.withKeysForTrr now counter f).2.strictLastSeen = counter ∧
      (server.withKeysForTrr now counter f).2.expiresAt = server.expiresAt := by
  have counted := ready.counted
  rw [UInt64.lt_iff_toNat_lt] at above
  have call := server.withKeysForTrr_call now counter f
  generalize server.withKeysForTrr now counter f = returned at call accepted ⊢
  obtain ⟨result, left⟩ := returned
  obtain rfl : result = .ok (.ok value) := accepted
  cases call with
  | accepted serves admits outcome below =>
    obtain ⟨w, sliding, _⟩ | ⟨_, _, rfl⟩ := AttestSession.admitNonce_cases admits
    · rw [ready.strict] at sliding
      cases sliding
    · have same : { server with strictLastSeen := counter }.commitNonce counter =
          { server with strictLastSeen := counter } := by
        simp only [AttestSession.commitNonce, ready.strict]
      rw [same]
      refine ⟨⟨ready.id, ready.keys, ready.strict, ready.phase, ?_⟩, rfl, rfl⟩
      simp only [toNat_succ below]
      omega

end Ready

section Requests

variable {T : Type} {codecs : RequestCodecs} {readers : RequestReaders} {line : RequestLine}
  {body : Bytes} {extra : Option HeaderMap} {client server : AttestSession} {sealed : SealedRequest}
  {request : Request} {counter : UInt64} {found : AtbId → Option AttestSession}
  {fromSlice : Bytes → Except String T} {value : T}

variable (paired : Paired codecs readers) (separates : Separates codecs client.keys)
  (made : Made codecs client line body extra counter sealed)
  (carried : Carried readers line sealed request) (registered : found client.id = some server)
include paired separates made carried registered

theorem Ready.fromRequest_iff (ready : Ready client server) (below : counter ≠ u64Max) (now : Nat) :
    (EncryptedJson.fromRequest readers fromSlice now found request).1 = .ok value ↔
      fromSlice body = .ok value ∧ now < server.expiresAt ∧ server.strictLastSeen < counter ∧
        request.authority ≠ "" ∧ request.authority = line.authority := by
  rw [fromRequest_carried_iff paired separates made carried registered ready.keys,
    ready.admits_iff, AttestSession.Serves]
  constructor
  · rintro ⟨same, ⟨alive, _⟩, above, _, authority⟩
    exact ⟨same, alive, above, authority⟩
  · rintro ⟨same, alive, above, authority⟩
    exact ⟨same, ⟨alive, ready.phase⟩, above, ready.room above below, authority⟩

theorem Ready.fromRequest_left (ready : Ready client server) (below : counter ≠ u64Max) {now : Nat}
    (accepted : (EncryptedJson.fromRequest readers fromSlice now found request).1 = .ok value) :
    ∃ left, (EncryptedJson.fromRequest readers fromSlice now found request).2 = some left ∧
      Ready client left ∧ left.strictLastSeen = counter ∧ left.expiresAt = server.expiresAt := by
  obtain ⟨_, alive, above, shown, same⟩ := (ready.fromRequest_iff paired separates made carried
    registered below now).mp accepted
  obtain ⟨f, opens, left⟩ := fromRequest_carried_left paired separates made carried registered
    fromSlice now
  have opened : f server.keys server.clientCounter = .ok body := by
    rw [ready.keys]
    exact opens same shown _
  exact ⟨_, left, ready.after above (AttestSession.withKeysForTrr_ok_iff.mpr
    ⟨alive, ready.phase, ready.admits_iff.mpr above, opened, ready.room above below⟩)⟩

end Requests

def wholeBody (body : List (Except String Bytes)) : Option Bytes :=
  (body.mapM Except.toOption).map List.flatten

/-- `Json::<CiphertextBody>::from_request` and `hex::decode` read what the client writes, up to the
limit that the router sets for a body. -/
structure ReadsWire (readers : RequestReaders) (wire : Bytes → Bytes) (limit : Option Nat) : Prop where
  reads : ∀ request data, request.headers.getText contentType = some "application/json" →
    wholeBody request.body = some (wire data) → (∀ most, limit = some most → (wire data).length ≤ most) →
      ∃ text, readers.json request = .ok text ∧ readers.hexDecode text = some data
  refuses : ∀ request data most, wholeBody request.body = some (wire data) → limit = some most →
    most < (wire data).length → ∃ rejection, readers.json request = .error rejection

theorem ReadsWire.readBody {readers : RequestReaders} {wire : Bytes → Bytes} {limit : Option Nat}
    (reads : ReadsWire readers wire limit) {request : Request} {data : Bytes}
    (typed : request.headers.getText contentType = some "application/json")
    (whole : wholeBody request.body = some (wire data))
    (within : ∀ most, limit = some most → (wire data).length ≤ most) :
    EncryptedJson.readBody readers request = .ok data := by
  obtain ⟨text, json, hex⟩ := reads.reads request data typed whole within
  simp only [EncryptedJson.readBody, json, hex]

theorem ReadsWire.refused {readers : RequestReaders} {wire : Bytes → Bytes} {limit : Option Nat}
    (reads : ReadsWire readers wire limit) {request : Request} {data : Bytes}
    (whole : wholeBody request.body = some (wire data))
    (longer : ¬ ∀ most, limit = some most → (wire data).length ≤ most) :
    ∃ rejection, EncryptedJson.readBody readers request = .error rejection := by
  push Not at longer
  obtain ⟨most, limited, exceeded⟩ := longer
  obtain ⟨rejection, refused⟩ := reads.refuses request data most whole limited exceeded
  exact ⟨rejection, by simp only [EncryptedJson.readBody, refused]⟩

/-- The request arrives unmodified, with a target in origin form and the given host header. Headers
of the HTTP library may be added to it, and the route may be nested. -/
structure Delivered (sent : TransportRequest) (hostText : List Char) (request : Request) : Prop where
  method : request.method = sent.method
  path : request.path = String.ofList sent.uri.path
  query : request.query = sent.uri.query.map String.ofList
  originForm : request.uri.authority = none
  host : request.headers.getText host = some (String.ofList hostText)
  headers : ∀ name, isAttested name = true ∨ name = hdrAttestTicket ∨ name = contentType →
    request.headers.getAll name = sent.headers.getAll name
  body : wholeBody request.body = some sent.body

section Delivered

variable {writer : RequestWriter} {readers : RequestReaders} {limit : Option Nat}
  {sent : TransportRequest} {hostText : List Char} {request : Request} {line : RequestLine}
  {sealed : SealedRequest}

theorem Delivered.carried (delivered : Delivered sent hostText request)
    (reads : ReadsWire readers writer.wire limit) {method : String} (named : sent.method = method)
    (line_eq : line = requestLine method sent.uri) (headers : sent.headers = sealed.headers)
    (content : sealed.headers.getAll contentType =
      [.ofText "application/json"])
    (body : sent.body = writer.wire sealed.data)
    (within : ∀ most, limit = some most → sent.body.length ≤ most) :
    Carried readers line sealed request := by
  subst line_eq
  have typed : request.headers.getText contentType = some "application/json" := by
    have held := delivered.headers contentType (.inr (.inr rfl))
    rw [headers, content] at held
    simp [HeaderMap.getText, HeaderMap.get, held]
  refine ⟨⟨delivered.method.trans named, delivered.path, delivered.query, ?_, ?_⟩, ?_⟩
  · intro name attested
    rw [delivered.headers name (.inl attested), headers]
  · rw [delivered.headers _ (.inr (.inl rfl)), headers]
  · have whole := delivered.body
    rw [body] at whole within
    exact reads.readBody typed whole within

end Delivered

theorem fromRequest_unread {T : Type} {readers : RequestReaders} {fromSlice : Bytes → Except String T}
    {now : Nat} {found : AtbId → Option AttestSession} {request : Request} {rejection : Rejection}
    (refused : EncryptedJson.readBody readers request = .error rejection) (value : T) :
    (EncryptedJson.fromRequest readers fromSlice now found request).1 ≠ .ok value := by
  unfold EncryptedJson.fromRequest EncryptedJson.decrypt
  rw [refused]
  cases EncryptedJson.locate readers found request with
  | error | ok => simp [EncryptedJson.finish]

/-- The next request of a client, delivered unmodified to a server in step with it, reaches the
handler with exactly the body that was given to `trusted_request_ext`, if and only if the authority of
the server is written as the HTTP library sends it and the body is within the limit of the router. -/
theorem next_request_accepted_iff {T : Type} {writer : RequestWriter} {readers : RequestReaders}
    {limit : Option Nat} (paired : Paired writer.codecs readers)
    (reads : ReadsWire readers writer.wire limit) {client server : AttestSession}
    (inStep : InStep client server) (separates : Separates writer.codecs client.keys)
    {found : AtbId → Option AttestSession} (registered : found client.id = some server)
    {text : List Char} {scheme : Scheme} {serverUri : HttpUri} {authority : Authority}
    (built : writer.uris.parse text = .ok serverUri) (schemed : serverUri.scheme = some scheme)
    (web : scheme.defaultPort ≠ none) (named : serverUri.authority = some authority)
    {now later : Nat} {method : String} {path : List Char} {body : Bytes} {extra : Option HeaderMap}
    {sent : TransportRequest}
    (sends : (trustedRequestExt writer now serverUri method path body extra client).1 = .ok sent)
    {hostText : List Char} (url : hostValue sent.uri = some hostText) {request : Request}
    (delivered : Delivered sent hostText request) (live : later < server.expiresAt)
    {fromSlice : Bytes → Except String T} {value : T} (json : fromSlice body = .ok value) :
    (EncryptedJson.fromRequest readers fromSlice later found request).1 = .ok value ↔
      authority.Normal ∧ ∀ most, limit = some most → sent.body.length ≤ most := by
  obtain ⟨located, methods, sealed, sealing, headers, wired⟩ := trustedRequestExt_ok sends
  by_cases within : ∀ most, limit = some most → sent.body.length ≤ most
  · obtain ⟨made, below⟩ := sendRequest_made sealing
    have content : sealed.headers.getAll contentType =
        [.ofText "application/json"] := by
      obtain ⟨bare, _, rfl⟩ := made
      exact HeaderMap.getAll_insert_self ..
    have carried := delivered.carried reads methods rfl headers content wired within
    have seen : request.authority = String.ofList hostText := by
      rw [Request.authority, delivered.originForm, delivered.host]
      rfl
    obtain ⟨sameScheme, sameAuthority⟩ := requestUri_authority built schemed web named located
    have shown : request.authority ≠ "" := by
      obtain ⟨port, _, nonempty, rfl⟩ := hostValue_some sameScheme sameAuthority url
      rw [seen]
      intro empty
      have nothing : authority.host.map Char.toLower ++ shownPort scheme port = [] :=
        String.ofList_injective empty
      simp [nonempty] at nothing
    have bound := ahlAuthority_eq_hostValue_iff sameScheme sameAuthority web url
    rw [inStep.toReady.fromRequest_iff paired separates made carried registered below, seen,
      and_iff_left within, ← bound]
    have line : (requestLine method sent.uri).authority = String.ofList (ahlAuthority sent.uri) := rfl
    rw [line, String.ofList_inj, eq_comm (a := hostText)]
    rw [seen] at shown
    exact ⟨fun conditions => conditions.2.2.2.2, fun same => ⟨json, live, inStep.seen, shown, same⟩⟩
  · refine iff_of_false ?_ fun conditions => within conditions.2
    have whole := delivered.body
    rw [wired] at whole within
    obtain ⟨rejection, refused⟩ := reads.refused whole within
    exact fromRequest_unread refused value

def arrive (sent : TransportRequest) (hostText : List Char) : Request where
  method := sent.method
  uri := ⟨String.ofList sent.uri.path, sent.uri.query.map String.ofList, none⟩
  originalUri := none
  headers := sent.headers.insert host (.ofText (String.ofList hostText))
  body := [.ok sent.body]

theorem arrive_delivered (sent : TransportRequest) (hostText : List Char) :
    Delivered sent hostText (arrive sent hostText) where
  method := rfl
  path := rfl
  query := rfl
  originForm := rfl
  host := by simp [arrive, HeaderMap.getText, HeaderMap.get]
  headers := by
    intro name read
    refine HeaderMap.getAll_insert_of_ne _ _ ?_
    rintro rfl
    revert read
    decide +kernel
  body := by simp [arrive, wholeBody, Except.toOption]

/-- The host alone is an authority, if no character of it stands for something else. -/
def PlainHost (host : List Char) : Prop :=
  ∀ char ∈ host, char ≠ '@' ∧ char ≠ ':'

instance (host : List Char) : Decidable (PlainHost host) := List.decidableBAll _ host

theorem PlainHost.bracketed {host : List Char} (plain : PlainHost host) (front back : List Char)
    (split : host = front ++ ':' :: back) : ']' ∈ back := by
  have member : ':' ∈ host := by simp [split]
  exact absurd rfl (plain _ member).2

def PlainHost.authority {host : List Char} (plain : PlainHost host) : Authority where
  userinfo := none
  host := host
  port := none
  host_plain member := (plain _ member).1 rfl
  host_bracketed := plain.bracketed
  port_plain := nofun

def plainAuthority (text : List Char) : Option Authority :=
  if plain : PlainHost text then some plain.authority else none

theorem text_plainAuthority {text : List Char} {value : Authority}
    (parsed : plainAuthority text = some value) : value.text = text := by
  unfold plainAuthority at parsed
  split at parsed
  · cases parsed
    simp [PlainHost.authority, AuthorityParts.text]
  · cases parsed

/-- The host up to the first slash, behind `https://`. -/
def plainUri (text : List Char) : Except String HttpUri :=
  match plainAuthority ((text.drop 8).takeWhile (· ≠ '/')) with
  | some authority =>
    if text.take 8 = "https://".toList then
      .ok ⟨some .Https, some authority, '/' :: ((text.drop 8).dropWhile (· ≠ '/')).tail, none⟩
    else .error "invalid scheme"
  | none => .error "invalid authority"

theorem plainUri_ok {text : List Char} {uri : HttpUri} (parsed : plainUri text = .ok uri) :
    ∃ authority more, uri = ⟨some .Https, some authority, '/' :: more, none⟩ ∧
      plainAuthority ((text.drop 8).takeWhile (· ≠ '/')) = some authority := by
  unfold plainUri at parsed
  split at parsed
  · rename_i authority found
    split at parsed
    · cases parsed
      exact ⟨authority, _, rfl, found⟩
    · cases parsed
  · cases parsed

theorem plainUri_origin {text behind : List Char} {authority : Authority} {full : HttpUri}
    (found : plainAuthority ((text.drop 8).takeWhile (· ≠ '/')) = some authority)
    (parsed : plainUri ("https://".toList ++ authority.text ++ '/' :: behind) = .ok full) :
    full.scheme = some .Https ∧ full.authority = some authority := by
  obtain ⟨other, more, rfl, again⟩ := plainUri_ok parsed
  have front : ∀ char ∈ authority.text, decide (char ≠ '/') = true := by
    rw [text_plainAuthority found]
    intro char member
    have inside := List.mem_takeWhile_imp member
    exact inside
  have behindScheme : ("https://".toList ++ authority.text ++ '/' :: behind).drop 8 =
      authority.text ++ '/' :: behind := by
    rw [List.append_assoc]
    rfl
  have host : (authority.text ++ '/' :: behind).takeWhile (· ≠ '/') = authority.text := by
    rw [List.takeWhile_append_of_pos front]
    simp
  rw [behindScheme, host, text_plainAuthority found, found] at again
  exact ⟨rfl, again.symm⟩

def plainWriter : RequestWriter where
  codecs := plainCodecs
  uris := {
    parse := plainUri
    parse_rooted := by
      intro _ _ _ parsed _ _
      obtain ⟨_, more, rfl, _⟩ := plainUri_ok parsed
      exact ⟨more, rfl⟩
    parse_origin := by
      intro _ _ _ _ parsed schemed _ named _ _ again
      obtain ⟨_, _, rfl, found⟩ := plainUri_ok parsed
      cases schemed
      cases named
      exact plainUri_origin found again }
  methodError _ := none
  wire data := data

theorem plain_paired : Paired plainCodecs plainReaders :=
  ⟨rfl, rfl, rfl, rfl, plainCipher_ideal.opens⟩

theorem flatMap_of_wholeBody {body : List (Except String Bytes)} {data : Bytes}
    (whole : wholeBody body = some data) :
    (body.flatMap fun chunk => chunk.toOption.getD []) = data := by
  obtain ⟨chunks, read, rfl⟩ := Option.map_eq_some_iff.mp whole
  clear whole
  induction body generalizing chunks with
  | nil =>
    cases read
    rfl
  | cons chunk body ih =>
    rw [List.mapM_cons] at read
    cases chunk with
    | error reason => cases read
    | ok bytes =>
      cases behind : body.mapM Except.toOption with
      | none =>
        rw [behind] at read
        cases read
      | some more =>
        rw [behind] at read
        cases read
        rw [List.flatMap_cons, ih more behind]
        rfl

theorem plainReaders_body {request : Request} {data : Bytes}
    (whole : wholeBody request.body = some data) :
    ∃ text, plainReaders.json request = .ok text ∧ plainReaders.hexDecode text = some data := by
  have bytes : Char.toUInt8 ∘ Char.ofUInt8 = id := by
    funext byte
    exact UInt8.toUInt8_toUInt32 byte
  refine ⟨_, rfl, ?_⟩
  simp only [plainReaders, flatMap_of_wholeBody whole, List.map_map, bytes, List.map_id]

theorem plain_readsWire : ReadsWire plainReaders plainWriter.wire none where
  reads _ _ _ whole _ := plainReaders_body whole
  refuses _ _ _ _ limited := by cases limited

theorem plain_separates (keys : SessionKeys) : Separates plainCodecs keys :=
  fun _ _ _ same => (ticketMessage_injective same).2

def strictShared : AttestSession := .zeroSession .StrictMonotonic

theorem zero_inStep : InStep zeroShared strictShared :=
  ⟨⟨rfl, rfl, rfl, rfl, by decide⟩, by decide⟩

theorem host_plain : PlainHost "host".toList := by decide

def hostUri : HttpUri := ⟨some .Https, some host_plain.authority, ['/'], none⟩

/-- What a client sends that posts to `/chat` of a server. -/
def posted (server : HttpUri) : Except ClientError TransportRequest :=
  (trustedRequestExt plainWriter 0 server "POST" "/chat".toList [7] none zeroShared).1

/-- What the extractor makes of it, in the session as the handler registers it. -/
def serverAnswer (sent : TransportRequest) (hostText : List Char) : Except Rejection Bytes :=
  (EncryptedJson.fromRequest plainReaders Except.ok 0 (fun _ => some strictShared)
    (arrive sent hostText)).1

/-- A request to a host in lower case is accepted. -/
theorem lower_host_accepted :
    ∃ sent, posted hostUri = .ok sent ∧ hostValue sent.uri = some "host".toList ∧
      serverAnswer sent "host".toList = .ok [7] := by
  have succeeds : (posted hostUri).toBool = true := by decide +kernel
  cases sends : posted hostUri with
  | error failure =>
    rw [sends] at succeeds
    cases succeeds
  | ok sent =>
    have url : (posted hostUri).toOption.bind (hostValue ·.uri) = some "host".toList := by
      decide +kernel
    rw [sends] at url
    have built : plainWriter.uris.parse "https://host".toList = .ok hostUri := by rfl
    have normal : host_plain.authority.Normal := ⟨rfl, by decide, nofun⟩
    exact ⟨sent, rfl, url, (next_request_accepted_iff plain_paired plain_readsWire zero_inStep
      (plain_separates _) rfl built rfl nofun rfl sends url (arrive_delivered sent _) (by decide)
        rfl).mpr ⟨normal, nofun⟩⟩

def capitalUri : HttpUri := ⟨some .Https, plainAuthority "Host".toList, ['/'], none⟩

/-- Written with a capital letter, the server refuses the MAC of the first request, which the HTTP
library sends with the host in lower case. -/
theorem capital_host_refused :
    plainWriter.uris.parse "https://Host".toList = .ok capitalUri ∧
      ∃ sent, posted capitalUri = .ok sent ∧ hostValue sent.uri = some "host".toList ∧
        serverAnswer sent "host".toList = .error ⟨401, "Invalid header MAC"⟩ := by
  have answers : (posted capitalUri).toOption.map
      (fun sent => (hostValue sent.uri, serverAnswer sent "host".toList)) =
      some (some "host".toList, .error ⟨401, "Invalid header MAC"⟩) := by decide +kernel
  refine ⟨by rfl, ?_⟩
  cases sends : posted capitalUri with
  | error failure =>
    rw [sends] at answers
    cases answers
  | ok sent =>
    rw [sends] at answers
    obtain ⟨url, refused⟩ := Prod.mk.inj (Option.some.inj answers)
    exact ⟨sent, rfl, url, refused⟩

end OpenHttpa.Channel
