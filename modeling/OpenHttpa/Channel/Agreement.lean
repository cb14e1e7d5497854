import OpenHttpa.Channel.HonestRun

/-!
# Agreement under tampering

One client run and one server run with equal keys, whatever the network did to the headers between
them. The keys carry the transcript, and the transcript ends with the suite and the version, so both
runs have hashed the same suite and version. The client, however, enters constants of its own into its
session, and the identifier of the session is hashed by neither side.
-/
namespace OpenHttpa.Channel

open Client OpenHttpa.Core Crypto Headers Proto Server

section Agreement

variable {Secret Decap Coins Signer : Type} (prim : Primitives Secret Decap Coins Signer)
  (codecs : Codecs)

/-- What a server run hashes into its transcript; none for a run that refuses. -/
def serverTranscript (state : AtHsHandlerState Decap Signer) (clock : Clock)
    (draws : ServerDraws Secret Decap Coins) (map : HeaderMap) : Option Bytes :=
  match admitRequest prim codecs state clock.unix draws.atbId map with
  | .error _ => none
  | .ok req =>
    match state.executor.executeServer prim clock req (some state.teeProvider) state.verifier
        state.identityKey draws with
    | some (.ok out) => some (transcriptInput req out.suite out.version draws.serverRandom
        (draws.pair.publicKeyShare prim.ecdh prim.kem) out.share.mlkemCiphertext)
    | _ => none

/-- What a client run hashes into its transcript; none for a run that is not answered. -/
def clientTranscript (client : OpenHttpaClient) (draws : ClientDraws Secret Decap) : Option Bytes :=
  (view prim codecs client draws).map (·.transcriptInput prim draws)

/-- Two sessions agree on what was negotiated, and it is what the executor picks from the client's
offer. -/
structure Agree (executor : AtHsExecutor) (client server : AttestSession) : Prop where
  id : client.id = server.id
  suite : client.cipherSuite = server.cipherSuite
  version : client.version = server.version
  suiteChosen : executor.selectSuite offeredSuites = some client.cipherSuite
  versionChosen : executor.selectVersion offeredVersions = some client.version

variable {prim} {codecs}

theorem negotiated_of_keys {client : OpenHttpaClient} {clientDraws : ClientDraws Secret Decap}
    {instant : Nat} {seen : View} {session : AttestSession}
    (attested : Attested prim codecs client instant clientDraws seen session)
    {state : AtHsHandlerState Decap Signer} {clock : Clock}
    {serverDraws : ServerDraws Secret Decap Coins} {map : HeaderMap} {req : AtHsRequest}
    {out : ServerOutcome}
    (admitted : admitRequest prim codecs state clock.unix serverDraws.atbId map = .ok req)
    (executed : state.executor.executeServer prim clock req (some state.teeProvider) state.verifier
      state.identityKey serverDraws = some (.ok out))
    (sameKeys : session.keys = out.result.sessionKeys)
    (collisionFree : ∀ left ∈ clientTranscript prim codecs client clientDraws,
      ∀ right ∈ serverTranscript prim codecs state clock serverDraws map,
        prim.sha384 left = prim.sha384 right → left = right) :
    seen.respHdrs.cipherSuite = out.suite ∧ seen.respHdrs.version = out.version := by
  have run := (AtHsExecutor.executeServer_ok_iff ..).mp executed
  obtain ⟨_, _, clientDerived⟩ := attested.combined
  obtain ⟨_, _, serverDerived⟩ := run.combined
  have clientHash := SessionKeys.derive_transcript clientDerived
  have serverHash := SessionKeys.derive_transcript serverDerived
  have sameHash : prim.sha384 (seen.transcriptInput prim clientDraws) = prim.sha384 (transcriptInput req
      out.suite out.version serverDraws.serverRandom
      (serverDraws.pair.publicKeyShare prim.ecdh prim.kem) out.share.mlkemCiphertext) := by
    rw [← clientHash, sameKeys, serverHash, run.transcript]
    rfl
  have sameInput := collisionFree _ (by simp [clientTranscript, attested.viewed]) _
    (by simp [serverTranscript, admitted, executed]) sameHash
  -- The suite and the version come last on both sides, whatever request the client's fields stand in.
  rw [transcriptInput_eq clientDraws seen ⟨offeredSuites, offeredVersions, clientDraws.clientRandom,
    challengeBytes seen.challenge, ownShare prim clientDraws.pair, [], 0⟩ rfl rfl rfl] at sameInput
  exact transcriptInput_negotiated sameInput

/-- A client run and a server run with equal keys agree on identifier, suite and version exactly when
the answer that reached the client carries the identifier the server drew and names the suite and the
version that the client enters on its own. -/
theorem sessions_agree_iff {client : OpenHttpaClient} {clientDraws : ClientDraws Secret Decap}
    {instant : Nat} {session : AttestSession}
    (finished : attestHandshake prim codecs client instant clientDraws = some (.ok session))
    {state : AtHsHandlerState Decap Signer} {clock : Clock}
    {serverDraws : ServerDraws Secret Decap Coins} {registry : AtbRegistry} {handle : Nat}
    {map : HeaderMap} {registered : AttestSession}
    (handled : (athsHandler prim codecs state clock serverDraws registry handle map).registered =
      some registered)
    (sameKeys : session.keys = registered.keys)
    (collisionFree : ∀ left ∈ clientTranscript prim codecs client clientDraws,
      ∀ right ∈ serverTranscript prim codecs state clock serverDraws map,
        prim.sha384 left = prim.sha384 right → left = right) :
    Agree state.executor session registered ↔
      ∃ seen ∈ view prim codecs client clientDraws, seen.respHdrs.baseId = serverDraws.atbId ∧
        seen.respHdrs.cipherSuite = .X25519MlKem768Aes256GcmSha384 ∧
        seen.respHdrs.version = .V2 := by
  obtain ⟨seen, attested⟩ := (attestHandshake_ok_iff ..).mp finished
  obtain ⟨req, out, admitted, executed, _, rfl⟩ := athsHandler_registered_iff.mp handled
  have run := (AtHsExecutor.executeServer_ok_iff ..).mp executed
  -- Equal keys come from equal transcripts, and these name what the server negotiated.
  obtain ⟨suite, version⟩ := negotiated_of_keys attested admitted executed sameKeys collisionFree
  have clientId : session.id = seen.respHdrs.baseId := by rw [attested.session]; rfl
  have clientSuite : session.cipherSuite = .X25519MlKem768Aes256GcmSha384 := by
    rw [attested.session]; rfl
  have clientVersion : session.version = .V2 := by rw [attested.session]; rfl
  have serverId : (sessionOf out).id = serverDraws.atbId := run.id
  constructor
  · intro agree
    refine ⟨seen, attested.viewed, ?_, ?_, ?_⟩
    · rw [← clientId, agree.id, serverId]
    · rw [suite, ← clientSuite, agree.suite]
      rfl
    · rw [version, ← clientVersion, agree.version]
      rfl
  · rintro ⟨other, viewed, sameId, sameSuite, sameVersion⟩
    obtain rfl : seen = other := Option.some.inj (attested.viewed.symm.trans viewed)
    have outSuite : out.suite = .X25519MlKem768Aes256GcmSha384 := suite.symm.trans sameSuite
    have outVersion : out.version = .V2 := version.symm.trans sameVersion
    have suiteSupported := List.mem_of_find?_eq_some run.suite
    have versionSupported := AtHsExecutor.selectVersion_mem run.version
    rw [outSuite] at suiteSupported
    rw [outVersion] at versionSupported
    exact {
      id := by rw [clientId, sameId, serverId]
      suite := clientSuite.trans outSuite.symm
      version := clientVersion.trans outVersion.symm
      suiteChosen := by rw [clientSuite]; exact AtHsExecutor.selectSuite_singleton suiteSupported
      versionChosen := by
        rw [clientVersion]; exact AtHsExecutor.selectVersion_singleton versionSupported }

end Agreement

namespace HonestRun

variable {Secret Decap Coins Signer : Type} {prim : Primitives Secret Decap Coins Signer}
  {run : HonestRun Secret Decap Coins Signer}

theorem view_honest (codecs : Codecs) (accepted : run.Accepted prim codecs) :
    (∃ seen ∈ view prim codecs (run.connected prim codecs) run.clientDraws,
      seen.respHdrs.baseId = run.serverDraws.atbId ∧
      seen.respHdrs.cipherSuite = .X25519MlKem768Aes256GcmSha384 ∧ seen.respHdrs.version = .V2) ∧
    ∀ left ∈ clientTranscript prim codecs (run.connected prim codecs) run.clientDraws,
      ∀ right ∈ serverTranscript prim codecs run.server run.clock run.serverDraws
        (run.requestMap prim codecs), left = right := by
  obtain ⟨out, outcome⟩ := exists_outcome accepted.toWelcomed
  have ran := (AtHsExecutor.executeServer_ok_iff ..).mp outcome.executed
  have admitted := admitRequest_requestMap codecs accepted.timely accepted.clientSent
  have viewed := view_connected codecs accepted outcome
  have input := transcriptInput_received codecs outcome
  refine ⟨⟨_, viewed, ran.id, outcome.suite, outcome.version⟩, ?_⟩
  intro left leftHashed right rightHashed
  simp only [clientTranscript, viewed, Option.map_some, input, Option.mem_some_iff] at leftHashed
  simp only [serverTranscript, admitted, outcome.executed, outcome.suite, outcome.version,
    outcome.share, Option.mem_some_iff] at rightHashed
  rw [← leftHashed, ← rightHashed]
  rfl

end HonestRun

theorem untouched_headers_agree :
    ∃ session registered,
      attestHandshake .plain .plain (mutualRun.connected .plain .plain) 0 mutualRun.clientDraws =
        some (.ok session) ∧
      (mutualRun.handled .plain .plain).registered = some registered ∧
      Agree mutualRun.server.executor session registered := by
  -- The run stays a variable, so that nothing of it is evaluated.
  have agree : ∀ run : HonestRun Unit Unit Unit Unit, run.Accepted .plain .plain → ∃ session registered,
      attestHandshake .plain .plain (run.connected .plain .plain) run.instant run.clientDraws =
        some (.ok session) ∧
      (run.handled .plain .plain).registered = some registered ∧
      Agree run.server.executor session registered := by
    intro run accepted
    obtain ⟨out, session, handled, attested, sameKeys⟩ := HonestRun.completes .plain accepted
    obtain ⟨delivered, hashed⟩ := HonestRun.view_honest .plain accepted
    have finished := (attestHandshake_ok_iff ..).mpr ⟨_, attested⟩
    refine ⟨session, sessionOf out, finished, handled, ?_⟩
    apply (sessions_agree_iff finished handled sameKeys ?_).mpr delivered
    intro left leftHashed right rightHashed _
    exact hashed left leftHashed right rightHashed
  exact agree mutualRun mutualRun_accepted

def rewrittenRequest (map : HeaderMap) : HeaderMap :=
  (map.insert hdrAttestCipherSuites
      (Sfv.plain.encodeTokenList [CipherSuite.P384MlKem1024Aes256GcmSha384.display])).insert
    hdrAttestVersions (Sfv.plain.encodeTokenList [ProtocolVersion.V1.display])

def rewrittenResponse (map : HeaderMap) : HeaderMap :=
  map.insert hdrAttestBaseId (.ofText (UuidText.plain.display ⟨2⟩))

def bareRun : HonestRun Unit Unit Unit Unit :=
  { mutualRun with
    client := { mutualRun.client with
      teeProvider := fun _ => .ok []
      strictAttestation := false
      serverIdentityPub := none }
    server := { mutualRun.server with
      teeProvider := fun _ => .ok []
      identityKey := none } }

def rewrittenClient : OpenHttpaClient :=
  { bareRun.connected .plain .plain with
    transport := some {
      options := .ok (preflightHandler .plain .plain bareRun.preflight 0 bareRun.rand)
      attest map :=
        match (bareRun.handleMap .plain .plain (rewrittenRequest map)).response with
        | none => .error "connection closed"
        | some answer => .ok { answer with headers := rewrittenResponse answer.headers } } }

def rewrittenMap : HeaderMap := rewrittenRequest (bareRun.requestMap .plain .plain)

def negotiated (session : AttestSession) : AtbId × CipherSuite × ProtocolVersion × SessionKeys :=
  (session.id, session.cipherSuite, session.version, session.keys)

/-- With the offer and the identifier rewritten on the way, the client and the server have the same
keys, and differ in identifier, suite and version. -/
theorem rewritten_headers_disagree :
    ∃ session registered,
      attestHandshake .plain .plain rewrittenClient 0 bareRun.clientDraws = some (.ok session) ∧
      (bareRun.handleMap .plain .plain rewrittenMap).registered = some registered ∧
      session.keys = registered.keys ∧
      (∀ left ∈ clientTranscript .plain .plain rewrittenClient bareRun.clientDraws,
        ∀ right ∈ serverTranscript .plain .plain bareRun.server bareRun.clock bareRun.serverDraws
            rewrittenMap,
          Primitives.plain.sha384 left = Primitives.plain.sha384 right → left = right) ∧
      session.id ≠ registered.id ∧ session.cipherSuite ≠ registered.cipherSuite ∧
      session.version ≠ registered.version := by
  -- The two runs are evaluated together, so that the headers are written and read once.
  obtain ⟨clientRan, serverRan, transcripts⟩ :
      (attestHandshake .plain .plain rewrittenClient 0 bareRun.clientDraws).map
          (fun outcome => outcome.toOption.map negotiated) =
        some (some (⟨2⟩, .X25519MlKem768Aes256GcmSha384, .V2, .zero)) ∧
      (bareRun.handleMap .plain .plain rewrittenMap).registered.map negotiated =
        some (⟨1⟩, .P384MlKem1024Aes256GcmSha384, .V1, .zero) ∧
      clientTranscript .plain .plain rewrittenClient bareRun.clientDraws =
        serverTranscript .plain .plain bareRun.server bareRun.clock bareRun.serverDraws
          rewrittenMap := by
    decide +kernel
  obtain ⟨outcome, finished, returned⟩ := Option.map_eq_some_iff.mp clientRan
  obtain ⟨session, ok, client⟩ := Option.map_eq_some_iff.mp returned
  obtain ⟨registered, handled, server⟩ := Option.map_eq_some_iff.mp serverRan
  simp only [negotiated, Prod.mk.injEq] at client server
  obtain ⟨clientId, clientSuite, clientVersion, clientKeys⟩ := client
  obtain ⟨serverId, serverSuite, serverVersion, serverKeys⟩ := server
  refine ⟨session, registered, ?_, handled, clientKeys.trans serverKeys.symm, ?_, ?_, ?_, ?_⟩
  · cases outcome with
    | error failure => cases ok
    | ok value =>
      cases ok
      exact finished
  · intro left leftHashed right rightHashed _
    rw [transcripts] at leftHashed
    exact Option.mem_unique leftHashed rightHashed
  · rw [clientId, serverId]
    decide
  · rw [clientSuite, serverSuite]
    decide
  · rw [clientVersion, serverVersion]
    decide

end OpenHttpa.Channel
