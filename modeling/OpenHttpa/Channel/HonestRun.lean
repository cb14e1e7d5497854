import OpenHttpa.Client.Handshake
import OpenHttpa.Server.Handlers

/-!
# A handshake nobody tampers with

The client with a preflight against the server's two handlers, over a network that delivers. The
request that the server runs is the client's with its quotes as far as they travel, so the server's
outcome can be written down from the values both sides drew, and with it the answer the client reads.
Both sides then hash one transcript and combine one secret.
-/
namespace OpenHttpa.Channel

open Client OpenHttpa.Core Crypto Headers Proto Server

/-- A handshake of a client with a server over an honest wire. -/
structure HonestRun (Secret Decap Coins Signer : Type) where
  /-- The client; its transport is the one of the run. -/
  client : OpenHttpaClient
  server : AtHsHandlerState Decap Signer
  preflight : PreflightHandlerState
  clientDraws : ClientDraws Secret Decap
  serverDraws : ServerDraws Secret Decap Coins
  issued : Nat
  rand : Octets 8
  clock : Clock
  instant : Nat
  registry : AtbRegistry
  handle : Nat

namespace HonestRun

section Run

variable {Secret Decap Coins Signer : Type} (prim : Primitives Secret Decap Coins Signer)
  (codecs : Codecs) (run : HonestRun Secret Decap Coins Signer)

def handleMap (map : HeaderMap) : Handled :=
  athsHandler prim codecs run.server run.clock run.serverDraws run.registry run.handle map

/-- The client over the transport of the run. -/
def connected : OpenHttpaClient :=
  { run.client with
    requirePreflight := true
    transport := some {
      options := .ok (preflightHandler prim codecs run.preflight run.issued run.rand)
      attest map :=
        match (run.handleMap prim codecs map).response with
        | none => .error "connection closed"
        | some response => .ok response } }

def challenge : Bytes := issueChallenge prim run.preflight.challengeKey run.issued run.rand

def share : ClientKeyShare := ownShare prim run.clientDraws.pair

def reportData : Octets 64 :=
  quoteReportData prim run.clientDraws.clientRandom (run.share prim) (some (run.challenge prim))

def clientQuotes : List AttestQuote :=
  (generateClientQuote prim run.client run.clientDraws.clientRandom (run.share prim)
    (some (run.challenge prim))).toOption.getD []

def requestHeaders : AtHsRequestHeaders :=
  attestRequestHeaders run.clientDraws.date run.clientDraws.clientRandom
    (codecs.clientShares.render (run.share prim)) (run.clientQuotes prim) (some (run.challenge prim))

def requestMap : HeaderMap := ((run.requestHeaders prim codecs).encode codecs.toHeaderCodecs).getD .new

def handled : Handled := run.handleMap prim codecs (run.requestMap prim codecs)

def request : AtHsRequest where
  clientSuites := offeredSuites
  clientVersions := offeredVersions
  clientRandom := run.clientDraws.clientRandom
  clientChallenge := challengeBytes (some (run.challenge prim))
  clientShare := run.share prim
  clientQuotes := (run.clientQuotes prim).map quoteOnWire
  atbTtlSecs := run.server.atbTtl

def serverPubShare : KeyShare := run.serverDraws.pair.publicKeyShare prim.ecdh prim.kem

def ciphertext : Bytes :=
  match run.serverDraws.pair.serverCombine prim.hkdf256 prim.ecdh prim.kem run.serverDraws.coins
      (run.clientDraws.pair.publicKeyShare prim.ecdh prim.kem) with
  | some (.ok (_, ctBytes)) => ctBytes
  | _ => []

def transcript : Octets 48 :=
  computeTranscriptHash prim.sha384 (run.request prim) .X25519MlKem768Aes256GcmSha384 .V2
    run.serverDraws.serverRandom (run.serverPubShare prim) (run.ciphertext prim)

def serverQuotes : List AttestQuote :=
  (run.server.executor.generateServerQuotes (some run.server.teeProvider)
    (serverReportData prim.sha512 (run.transcript prim))).toOption.getD []

/-- The clocks and the key agree about the challenge. -/
structure Timely : Prop where
  sameKey : run.preflight.challengeKey = run.server.challengeKey
  word : run.issued < 2 ^ 64
  past : run.issued ≤ run.clock.unix
  fresh : run.clock.unix ≤ run.issued + 300

/-- Each side accepts the other: what they offer overlaps, their providers make quotes, their verifiers
accept these as they travel, a key that the client pins is the server's, and the registry has room. -/
structure Welcomed : Prop where
  timely : run.Timely
  suite : .X25519MlKem768Aes256GcmSha384 ∈ run.server.executor.supportedSuites
  version : .V2 ∈ run.server.executor.supportedVersions
  clientQuoted : generateClientQuote prim run.client run.clientDraws.clientRandom (run.share prim)
    (some (run.challenge prim)) = .ok (run.clientQuotes prim)
  clientAccepted : ∃ result, run.server.executor.verifyClientQuotes prim.sha384 prim.sha512
    run.clock.unix (run.request prim) run.server.verifier = .ok result
  serverQuoted : run.server.executor.generateServerQuotes (some run.server.teeProvider)
    (serverReportData prim.sha512 (run.transcript prim)) = .ok (run.serverQuotes prim)
  serverAccepted : ∃ result, appraiseServerQuotes prim run.client
    ((run.serverQuotes prim).map quoteOnWire) (run.transcript prim) = .ok result
  pinned : ∀ pin, run.client.serverIdentityPub = some pin →
    ∃ key, run.server.identityKey = some key ∧ prim.dsa.publicKey key = pin
  room : run.registry.liveCount < run.registry.maxSessions

/-- Each side accepts the other, and the quotes of both can be written into headers. -/
structure Accepted : Prop extends run.Welcomed prim where
  clientSent : ∀ quote ∈ run.clientQuotes prim, codecs.sfv.Writable quote
  serverSent : ∀ quote ∈ run.serverQuotes prim, codecs.sfv.Writable quote

end Run

section Answer

variable {Secret Decap Coins Signer : Type} {prim : Primitives Secret Decap Coins Signer}
  {codecs : Codecs} {run : HonestRun Secret Decap Coins Signer} {out : ServerOutcome}

theorem encode_requestHeaders (codecs : Codecs)
    (sent : ∀ quote ∈ run.clientQuotes prim, codecs.sfv.Writable quote) :
    (run.requestHeaders prim codecs).encode codecs.toHeaderCodecs =
      some (run.requestMap prim codecs) := by
  obtain ⟨map, written⟩ := Option.isSome_iff_exists.mp
    ((AtHsRequestHeaders.isSome_encode codecs.toHeaderCodecs (run.requestHeaders prim codecs)).mpr sent)
  rw [requestMap, written, Option.getD_some]

theorem admitChallenge_challenge (prim : Primitives Secret Decap Coins Signer) (timely : run.Timely) :
    admitChallenge prim run.server.challengeKey run.clock.unix (some (run.challenge prim)) =
      .ok (challengeBytes (some (run.challenge prim))) := by
  obtain ⟨octets, verified, bytes⟩ := verifyChallenge_issued prim run.preflight.challengeKey run.rand
    timely.word timely.past timely.fresh
  have long : 48 ≤ (run.challenge prim).length := by
    have length := octets.length_eq
    rw [bytes] at length
    exact Nat.le_of_eq length.symm
  have kept : (some (run.challenge prim)).filter (fun c => 48 ≤ c.length) =
      some (run.challenge prim) := by
    simp [Option.filter, long]
  have same : challengeBytes (some (run.challenge prim)) = octets := by
    rw [challenge, ← bytes, challengeBytes_of_length]
  rw [admitChallenge, kept, same, ← timely.sameKey]
  show (verifyChallenge prim run.preflight.challengeKey run.clock.unix
    (issueChallenge prim run.preflight.challengeKey run.issued run.rand)).mapError _ = _
  rw [verified]
  rfl

theorem admitRequest_requestMap (codecs : Codecs) (timely : run.Timely)
    (sent : ∀ quote ∈ run.clientQuotes prim, codecs.sfv.Writable quote) :
    admitRequest prim codecs run.server run.clock.unix run.serverDraws.atbId
      (run.requestMap prim codecs) = .ok (run.request prim) := by
  have written := encode_requestHeaders codecs sent
  obtain ⟨date, _, decoded⟩ := AtHsRequestHeaders.decode_encode run.server.allowDeprecated written
    (by simp [requestHeaders, attestRequestHeaders, offeredSuites])
    (by simp [requestHeaders, attestRequestHeaders, offeredSuites])
    (by simp [requestHeaders, attestRequestHeaders, offeredVersions])
    (JsonCodec.readsBack_none _) (JsonCodec.readsBack_none _)
  have parsed := codecs.clientShares.parse_render (run.share prim)
  have challenge := admitChallenge_challenge prim timely
  simp only [admitRequest, decoded, requestHeaders, attestRequestHeaders, readEncryptedHello, parsed,
    challenge, Except.mapError, bind, Except.bind, Octets.ofBytes?_bytes, Bool.false_eq_true, if_false]
  rfl

theorem clientReportData_request :
    clientReportData prim.sha384 prim.sha512 (run.request prim) = run.reportData prim := rfl

variable (prim) (run) in
theorem combine_ciphertext :
    ∃ secret, run.serverDraws.pair.serverCombine prim.hkdf256 prim.ecdh prim.kem
        run.serverDraws.coins ⟨(run.share prim).ecdhePublic, (run.share prim).mlkemPublic⟩ =
          some (.ok (secret, run.ciphertext prim)) ∧
      run.clientDraws.pair.clientCombine prim.hkdf256 prim.ecdh prim.kem
        ⟨(run.serverPubShare prim).ecdhePublic, []⟩ (run.ciphertext prim) = some (.ok secret) := by
  obtain ⟨secret, ctBytes, _, server, client⟩ := HybridKemPair.combine_agrees prim.hkdf256 prim.ecdh
    prim.kem run.clientDraws.pair run.serverDraws.pair run.serverDraws.coins
  have same : run.ciphertext prim = ctBytes := by
    simp only [ciphertext, server]
  rw [same]
  exact ⟨secret, server, client []⟩

theorem signed_transcript (accepted : run.Welcomed prim) (respHdrs : AtHsResponseHeaders) :
    ∃ signatures, AtHsExecutor.signTranscript prim.dsa run.server.identityKey (run.transcript prim) =
        .ok signatures ∧
      verifyPqcServerSig prim (run.connected prim codecs)
        { respHdrs with serverSignatures := signatures } (run.transcript prim) = .ok () := by
  have pinned := accepted.pinned
  cases identity : run.server.identityKey with
  | none =>
    have unpinned : run.client.serverIdentityPub = none := by
      cases pin : run.client.serverIdentityPub with
      | none => rfl
      | some pin' =>
        obtain ⟨key, present, _⟩ := pinned pin' pin
        rw [identity] at present
        cases present
    refine ⟨[], rfl, ?_⟩
    simp only [verifyPqcServerSig, connected, unpinned]
  | some key =>
    obtain ⟨signature, signed, verified⟩ := prim.dsa.correct key (run.transcript prim).bytes
    refine ⟨[signature], by simp only [AtHsExecutor.signTranscript, signed], ?_⟩
    cases pin : run.client.serverIdentityPub with
    | none => simp only [verifyPqcServerSig, connected, pin]
    | some pin' =>
      obtain ⟨other, present, rfl⟩ := pinned pin' pin
      obtain rfl : key = other := Option.some.inj (identity.symm.trans present)
      simp only [verifyPqcServerSig, connected, pin, verified]
      rfl

def serverShare (prim : Primitives Secret Decap Coins Signer)
    (run : HonestRun Secret Decap Coins Signer) :
    ServerKeyShare where
  ecdhePublic := (run.serverPubShare prim).ecdhePublic
  mlkemPublic := (run.serverPubShare prim).mlkemPublic
  mlkemCiphertext := run.ciphertext prim
  signatureAlg := run.server.identityKey.map fun _ => .MlDsa65

/-- The server's executor returns `out`, with what the client offers and the values both sides drew. -/
structure Outcome (prim : Primitives Secret Decap Coins Signer)
    (run : HonestRun Secret Decap Coins Signer)
    (out : ServerOutcome) : Prop where
  executed : run.server.executor.executeServer prim run.clock (run.request prim)
    (some run.server.teeProvider) run.server.verifier run.server.identityKey run.serverDraws =
      some (.ok out)
  suite : out.suite = .X25519MlKem768Aes256GcmSha384
  version : out.version = .V2
  share : out.share = run.serverShare prim
  transcript : out.result.transcriptHash = run.transcript prim
  quotes : out.result.serverQuotes = run.serverQuotes prim

theorem exists_outcome (accepted : run.Welcomed prim) : ∃ out, run.Outcome prim out := by
  obtain ⟨secret, combined, _⟩ := combine_ciphertext prim run
  obtain ⟨keys, derived, _⟩ := SessionKeys.derive_ok prim.hkdf384 secret.bytes (run.transcript prim)
  obtain ⟨attestation, attested⟩ := accepted.clientAccepted
  obtain ⟨signatures, signed⟩ : ∃ signatures, AtHsExecutor.signTranscript prim.dsa
      run.server.identityKey (run.transcript prim) = .ok signatures := by
    cases run.server.identityKey with
    | none => exact ⟨[], rfl⟩
    | some key =>
      obtain ⟨signature, made, _⟩ := prim.dsa.correct key (run.transcript prim).bytes
      exact ⟨[signature], by simp only [AtHsExecutor.signTranscript, made]⟩
  let out : ServerOutcome := {
    suite := .X25519MlKem768Aes256GcmSha384
    version := .V2
    share := run.serverShare prim
    result := {
      atbId := run.serverDraws.atbId
      sessionKeys := keys
      expiresAt := run.clock.instant + run.server.atbTtl
      serverQuotes := run.serverQuotes prim
      serverRandom := run.serverDraws.serverRandom
      transcriptHash := run.transcript prim
      serverSignatures := signatures
      clientAttestationResult := attestation } }
  refine ⟨out, (AtHsExecutor.executeServer_ok_iff ..).mpr ?_, rfl, rfl, rfl, rfl, rfl⟩
  exact {
    suite := AtHsExecutor.selectSuite_singleton accepted.suite
    version := AtHsExecutor.selectVersion_singleton accepted.version
    transcript := rfl
    combined := ⟨secret, combined, derived⟩
    attested := attested
    quoted := accepted.serverQuoted
    signed := signed
    share := rfl
    id := rfl
    random := rfl
    expires := rfl }

variable (prim) in
theorem fetchChallenge_connected (codecs : Codecs) (run : HonestRun Secret Decap Coins Signer) :
    fetchChallenge codecs (run.connected prim codecs) = .ok (some (run.challenge prim)) := by
  obtain ⟨read, decoded, challenge⟩ := PreflightResponseHeaders.decode_encode codecs.sfv
    run.client.allowDeprecated ⟨run.preflight.cipherSuites, run.preflight.versions,
      run.challenge prim, run.preflight.obliviousSupported⟩
  have success : (preflightHandler prim codecs run.preflight run.issued run.rand).isSuccess = true := rfl
  have fetched : performPreflight codecs (run.connected prim codecs) = .ok (run.challenge prim) := by
    simp only [performPreflight, connected, success, Bool.true_eq_false, if_false]
    simp only [preflightHandler, Response.ofHeaders]
    rw [show issueChallenge prim run.preflight.challengeKey run.issued run.rand = run.challenge prim
      from rfl, decoded]
    simp only [challenge]
  have preflight : (run.connected prim codecs).requirePreflight = true := rfl
  simp only [fetchChallenge, preflight, if_true, fetched]
  rfl

def received (codecs : Codecs) (ttl : Nat) (out : ServerOutcome) : AtHsResponseHeaders :=
  { responseHeaders codecs ttl out with
    quotes := out.result.serverQuotes.map quoteOnWire
    expiresSecs := min ttl 999999999999999 }

/-- The client sends its headers if they can be written, and the answer is the handler's. -/
theorem exchange_connected (codecs : Codecs) (accepted : run.Welcomed prim) :
    exchange prim codecs (run.connected prim codecs) run.clientDraws =
      ((run.requestHeaders prim codecs).encode codecs.toHeaderCodecs).map fun map =>
        match (run.handleMap prim codecs map).response with
        | none => .error (.Handshake "connection closed")
        | some response => .ok (some (run.challenge prim), response) := by
  have fetched := fetchChallenge_connected prim codecs run
  have produced : generateClientQuote prim (run.connected prim codecs) run.clientDraws.clientRandom
      (ownShare prim run.clientDraws.pair) (some (run.challenge prim)) =
        .ok (run.clientQuotes prim) := accepted.clientQuoted
  have headers : attestRequestHeaders run.clientDraws.date run.clientDraws.clientRandom
      (codecs.clientShares.render (ownShare prim run.clientDraws.pair)) (run.clientQuotes prim)
        (some (run.challenge prim)) = run.requestHeaders prim codecs := rfl
  simp only [exchange, fetched, produced, sendAttestRequest, headers]
  cases (run.requestHeaders prim codecs).encode codecs.toHeaderCodecs with
  | none => rfl
  | some map =>
    simp only [connected, Option.map_some]
    cases (run.handleMap prim codecs map).response <;> rfl

/-- The server registers a session and then writes its answer, if that can be done. -/
theorem handled_connected (codecs : Codecs) (accepted : run.Welcomed prim)
    (sent : ∀ quote ∈ run.clientQuotes prim, codecs.sfv.Writable quote) (outcome : run.Outcome prim out) :
    (run.handled prim codecs).registered = some (sessionOf out) ∧
      (run.handled prim codecs).response =
        ((responseHeaders codecs run.server.atbTtl out).encode codecs.toHeaderCodecs).map .ofHeaders := by
  have admitted := admitRequest_requestMap codecs accepted.timely sent
  constructor
  · exact athsHandler_registered_iff.mpr ⟨_, out, admitted, outcome.executed, accepted.room, rfl⟩
  · simp only [handled, handleMap, athsHandler, athsHandlerUnder, admitted, outcome.executed,
      AtbRegistry.insert, if_pos accepted.room]

theorem view_connected (codecs : Codecs) (accepted : run.Accepted prim codecs)
    (outcome : run.Outcome prim out) :
    view prim codecs (run.connected prim codecs) run.clientDraws =
      some ⟨some (run.challenge prim), received codecs run.server.atbTtl out, out.share⟩ := by
  have sent : ∀ quote ∈ (responseHeaders codecs run.server.atbTtl out).quotes,
      codecs.sfv.Writable quote := by
    rw [show (responseHeaders codecs run.server.atbTtl out).quotes = out.result.serverQuotes from rfl,
      outcome.quotes]
    exact accepted.serverSent
  obtain ⟨map, written⟩ := Option.isSome_iff_exists.mp
    ((AtHsResponseHeaders.isSome_encode codecs.toHeaderCodecs _).mpr sent)
  have decoded := AtHsResponseHeaders.decode_encode run.client.allowDeprecated written
    (by simp [responseHeaders, outcome.suite]) (JsonCodec.readsBack_none _)
  have answer : (run.handleMap prim codecs (run.requestMap prim codecs)).response =
      some (.ofHeaders map) := by
    have response := (handled_connected codecs accepted.toWelcomed accepted.clientSent outcome).2
    rw [written, Option.map_some] at response
    exact response
  apply view_eq_some_iff.mpr
  refine ⟨.ofHeaders map, ?_, ?_⟩
  · rw [exchange_connected codecs accepted.toWelcomed, encode_requestHeaders codecs accepted.clientSent,
      Option.map_some]
    simp only [answer]
  · have success : (Response.ofHeaders map).isSuccess = true := rfl
    have headers : (Response.ofHeaders map).headers = map := rfl
    have lenient : (run.connected prim codecs).allowDeprecated = run.client.allowDeprecated := rfl
    simp only [readResponse, success, Bool.true_eq_false, if_false, headers, lenient, decoded,
      Except.mapError, bind, Except.bind]
    simp only [responseHeaders, codecs.serverShares.parse_render]
    rfl

theorem transcriptInput_received (codecs : Codecs) (outcome : run.Outcome prim out) :
    View.transcriptInput prim run.clientDraws
      ⟨some (run.challenge prim), received codecs run.server.atbTtl out, out.share⟩ =
        transcriptInput (run.request prim) .X25519MlKem768Aes256GcmSha384 .V2
          run.serverDraws.serverRandom (run.serverPubShare prim) (run.ciphertext prim) := by
  rw [transcriptInput_eq run.clientDraws _ (run.request prim) rfl rfl rfl]
  have random := ((AtHsExecutor.executeServer_ok_iff ..).mp outcome.executed).random
  simp only [received, responseHeaders, outcome.suite, outcome.version, outcome.share, serverShare,
    random, serverRandomBytes_bytes]

theorem completes (codecs : Codecs) (accepted : run.Accepted prim codecs) :
    ∃ out session, (run.handled prim codecs).registered = some (sessionOf out) ∧
      Attested prim codecs (run.connected prim codecs) run.instant run.clientDraws
        ⟨some (run.challenge prim), received codecs run.server.atbTtl out, out.share⟩ session ∧
      session.keys = out.result.sessionKeys := by
  obtain ⟨out, outcome⟩ := exists_outcome accepted.toWelcomed
  have ran := (AtHsExecutor.executeServer_ok_iff ..).mp outcome.executed
  have hashed : prim.sha384 (View.transcriptInput prim run.clientDraws ⟨some (run.challenge prim),
      received codecs run.server.atbTtl out, out.share⟩) = run.transcript prim := by
    rw [transcriptInput_received codecs outcome]
    rfl
  obtain ⟨signatures, signed, verified⟩ := signed_transcript accepted.toWelcomed
    (received codecs run.server.atbTtl out)
  have signatures_eq : out.result.serverSignatures = signatures := by
    have made := ran.signed
    rw [outcome.transcript, signed] at made
    exact (Except.ok.inj made).symm
  obtain ⟨attestation, attested⟩ := accepted.serverAccepted
  obtain ⟨secret, serverCombined, clientCombined⟩ := combine_ciphertext prim run
  -- The executor's own combination is the run's, so both sides derive from one secret.
  obtain ⟨own, ownCombined, derived⟩ := ran.combined
  rw [outcome.share] at ownCombined
  have sameSecret : own = secret := by
    have same := ownCombined.symm.trans serverCombined
    simp only [Option.some.injEq, Except.ok.injEq, Prod.mk.injEq] at same
    exact same.1
  rw [outcome.transcript, sameSecret] at derived
  have registered := (handled_connected codecs accepted.toWelcomed accepted.clientSent outcome).1
  refine ⟨out, .new out.result.atbId .X25519MlKem768Aes256GcmSha384 .V2 out.result.sessionKeys
    (run.instant + min run.server.atbTtl 999999999999999) .default attestation, registered, ?_, rfl⟩
  exact {
    viewed := view_connected codecs accepted outcome
    signed := by
      rw [hashed, ← verified, ← signatures_eq]
      rfl
    attested := by
      rw [hashed]
      show appraiseServerQuotes prim run.client (out.result.serverQuotes.map quoteOnWire) _ = _
      rw [outcome.quotes]
      exact attested
    combined := by
      refine ⟨secret, ?_, ?_⟩
      · rw [outcome.share]
        exact clientCombined
      · rw [hashed]
        exact derived
    session := rfl }

end Answer

end HonestRun

def mockQuote (reportData : Octets 64) : AttestQuote := ⟨.Mock, .Raw, [], reportData.bytes, []⟩

theorem mockQuotes_writable (reportData : Octets 64) :
    ∀ quote ∈ [mockQuote reportData], Codecs.plain.sfv.Writable quote := by
  intro quote member
  rw [List.mem_singleton.mp member]
  exact ⟨nofun, nofun, nofun⟩

def noFindings : VerificationResult := .default

/-- A mutual handshake: each side shows one quote and accepts any, and the client pins the server's
key. -/
def mutualRun : HonestRun Unit Unit Unit Unit where
  client := {
    teeProvider := fun reportData => .ok [mockQuote reportData]
    verifier := fun _ _ => .ok noFindings
    transport := none
    strictAttestation := true
    requirePreflight := true
    serverIdentityPub := some []
    allowDeprecated := false }
  server := {
    executor := .withAll [] [] true false none none
    teeProvider := fun reportData => .ok [mockQuote reportData]
    verifier := some fun _ _ => .ok noFindings
    atbTtl := 60
    challengeKey := .zero 32
    identityKey := some ()
    hpkeKey := none
    allowDeprecated := false }
  preflight := ⟨[], [], .zero 32, false⟩
  clientDraws := ⟨⟨(), ()⟩, .zero 32, "2026-04-27T00:00:00Z"⟩
  serverDraws := ⟨⟨(), ()⟩, (), .zero 32, ⟨1⟩⟩
  issued := 0
  rand := .zero 8
  clock := ⟨0, 0⟩
  instant := 0
  registry := .withCapacity 1
  handle := 0

theorem mutualRun_timely : mutualRun.Timely where
  sameKey := rfl
  word := by decide
  past := by decide
  fresh := by decide

theorem mutualRun_accepted : mutualRun.Accepted .plain .plain where
  timely := mutualRun_timely
  suite := by decide
  version := by decide
  clientQuoted := rfl
  clientAccepted := ⟨_, rfl⟩
  serverQuoted := rfl
  serverAccepted := ⟨_, rfl⟩
  pinned := fun _ pinned => ⟨(), rfl, Option.some.inj pinned⟩
  room := by decide
  clientSent := mockQuotes_writable _
  serverSent := mockQuotes_writable _

end OpenHttpa.Channel
