import OpenHttpa.Client.Responses
import OpenHttpa.Core.Handshake

/-!
# The client side of the handshake

`attest_handshake` of `openhttpa-client/src/client.rs` with the methods it calls. The transport is
whatever the network makes of the two requests: one answer to the preflight, and one answer for each
set of headers sent with `ATTEST`. The transcript and the report data are hashed here once more,
field by field, from the client's own values and the headers of the answer.
-/
namespace OpenHttpa.Client

open OpenHttpa.Core Crypto Headers Proto

/-- `AttestTransport::send` for the two requests of a handshake. -/
structure Transport where
  options : Except String Response
  attest : HeaderMap → Except String Response

/-- `OpenHttpaClient`, the fields the handshake reads. -/
structure OpenHttpaClient where
  teeProvider : TeeProvider
  verifier : QuoteVerifier
  transport : Option Transport
  strictAttestation : Bool
  requirePreflight : Bool
  serverIdentityPub : Option Bytes
  /-- Whether the environment allows the deprecated suite. -/
  allowDeprecated : Bool

structure ClientDraws (Secret Decap : Type) where
  pair : HybridKemPair Secret Decap
  clientRandom : Octets 32
  /-- The time as `to_rfc3339` writes it. -/
  date : String

def challengeBytes (challenge : Option Bytes) : Octets 48 where
  bytes := (challenge.getD [] ++ List.replicate 48 0).take 48
  length_eq := by simp

/-- The first 32 bytes of the server's random; zeros when there are fewer. -/
def serverRandomBytes (random : Bytes) : Octets 32 :=
  if long : 32 ≤ random.length then ⟨random.take 32, by simp [long]⟩ else .zero 32

section Handshake

variable {Secret Decap Coins Signer : Type} (prim : Primitives Secret Decap Coins Signer)
  (codecs : Codecs) (client : OpenHttpaClient)

def performPreflight : Except ClientError Bytes :=
  match client.transport with
  | none => .error (.Transport "No transport")
  | some transport =>
    match transport.options with
    | .error reason => .error (.Handshake ("preflight failed: " ++ reason))
    | .ok response =>
      if response.isSuccess = false then
        .error (.Handshake ("preflight returned error " ++ codecs.statusDisplay response.status))
      else
        match response.body with
        | .error reason => .error (.Handshake ("preflight body error: " ++ reason))
        | .ok _ =>
          match PreflightResponseHeaders.decode codecs.sfv.toParser client.allowDeprecated
              response.headers with
          | .error failure => .error (.Handshake ("invalid preflight headers: " ++ failure.display))
          | .ok headers => .ok headers.challenge

/-- The report data of `generate_client_quote`. -/
def quoteReportData (clientRandom : Octets 32) (clientShare : ClientKeyShare)
    (challenge : Option Bytes) : Octets 64 :=
  let clientBinding := prim.sha384 (lengthed clientRandom.bytes ++
    lengthed (challengeBytes challenge).bytes ++ lengthed clientShare.ecdhePublic ++
    lengthed clientShare.mlkemPublic)
  prim.sha512 (utf8 "openhttpa hs client" ++ clientBinding.bytes)

def generateClientQuote (clientRandom : Octets 32) (clientShare : ClientKeyShare)
    (challenge : Option Bytes) : Except ClientError (List AttestQuote) :=
  match client.teeProvider (quoteReportData prim clientRandom clientShare challenge) with
  | .ok quotes => .ok quotes
  | .error reason => if client.strictAttestation then .error (.Attestation reason) else .ok []

def offeredSuites : List CipherSuite := [.X25519MlKem768Aes256GcmSha384]

def offeredVersions : List ProtocolVersion := [.V2]

/-- The headers `send_attest_request` sends. -/
def attestRequestHeaders (date : String) (clientRandom : Octets 32) (clientShareBytes : Bytes)
    (clientQuotes : List AttestQuote) (challenge : Option Bytes) : AtHsRequestHeaders where
  cipherSuites := offeredSuites
  random := clientRandom.bytes
  versions := offeredVersions
  keySharesJson := clientShareBytes
  date
  baseCreation := .New
  directAttestation := true
  allowUntrustedRequests := false
  clientQuotes
  challenge
  signatures := []
  ticket := none
  provenance := none
  encryptedHello := none

/-- `send_attest_request`; nothing when the headers cannot be encoded. -/
def sendAttestRequest (headers : AtHsRequestHeaders) : Option (Except ClientError Response) :=
  match client.transport with
  | none => some (.error (.Transport "No transport"))
  | some transport =>
    match headers.encode codecs.toHeaderCodecs with
    | none => none
    | some map => some ((transport.attest map).mapError .Handshake)

/-- What `attest_handshake` hashes into the transcript. -/
def clientTranscriptInput (clientRandom : Octets 32) (challenge : Option Bytes)
    (clientShare : ClientKeyShare) (respHdrs : AtHsResponseHeaders)
    (serverShare : ServerKeyShare) : Bytes :=
  lengthed clientRandom.bytes ++ lengthed (challengeBytes challenge).bytes ++
    lengthed clientShare.ecdhePublic ++ lengthed clientShare.mlkemPublic ++
    lengthed (serverRandomBytes respHdrs.random).bytes ++ lengthed serverShare.ecdhePublic ++
    lengthed serverShare.mlkemCiphertext ++ lengthed serverShare.mlkemPublic ++
    beBytes 2 respHdrs.cipherSuite.numericId.toNat ++ [respHdrs.version.numericId]

def verifyPqcServerSig (respHdrs : AtHsResponseHeaders) (transcriptHash : Octets 48) :
    Except ClientError Unit :=
  match client.serverIdentityPub with
  | none => .ok ()
  | some pubKeyBytes =>
    match respHdrs.serverSignatures with
    | [] => .error (.Attestation "server did not provide PQC signature but identity key is pinned")
    | signature :: _ =>
      (prim.dsa.verify pubKeyBytes transcriptHash.bytes signature).mapError
        fun reason => .Attestation ("PQC signature verification failed: " ++ reason)

/-- One turn of the loop of `verify_server_quotes`: the user data is put back first. -/
def appraiseServerQuote (reportData : Octets 64) (composite : Option VerificationResult)
    (quote : AttestQuote) : Except ClientError (Option VerificationResult) := do
  let boundQuote := { quote with qudd := reportData.bytes }
  let result ← (client.verifier boundQuote reportData).mapError .Attestation
  return some (match composite with
    | none => result
    | some primary => primary.push result)

/-- The quotes `verify_server_quotes` is about: none at all is an error under strict attestation. -/
def appraiseServerQuotes (quotes : List AttestQuote) (transcriptHash : Octets 48) :
    Except ClientError (Option VerificationResult) :=
  if quotes.isEmpty then
    if client.strictAttestation then
      .error (.Attestation "server attestation required but missing")
    else .ok none
  else
    quotes.foldlM (appraiseServerQuote client
      (prim.sha512 (utf8 "openhttpa hs server" ++ transcriptHash.bytes))) none

def verifyServerQuotes (respHdrs : AtHsResponseHeaders) (transcriptHash : Octets 48) :
    Except ClientError (Option VerificationResult) :=
  appraiseServerQuotes prim client respHdrs.quotes transcriptHash

def readResponse (response : Response) : Except ClientError (AtHsResponseHeaders × ServerKeyShare) :=
  if response.isSuccess = false then
    .error (.Handshake ("server returned error " ++ codecs.statusDisplay response.status ++ ": " ++
      codecs.fromUtf8Lossy (response.body.toOption.getD [])))
  else do
    let respHdrs ← (AtHsResponseHeaders.decode codecs.toHeaderCodecs client.allowDeprecated
      response.headers).mapError fun failure =>
        ClientError.Handshake ("invalid response headers: " ++ failure.display)
    let serverShare ← (codecs.serverShares.parse respHdrs.keyShareJson).mapError
      fun reason => ClientError.Handshake ("invalid server key share: " ++ reason)
    return (respHdrs, serverShare)

/-- The session `attest_handshake` builds from an accepted answer. -/
def deriveSession (instant : Nat) (pair : HybridKemPair Secret Decap)
    (respHdrs : AtHsResponseHeaders) (serverShare : ServerKeyShare) (transcriptHash : Octets 48)
    (attestationResult : Option VerificationResult) : Option (Except ClientError AttestSession) :=
  match pair.clientCombine prim.hkdf256 prim.ecdh prim.kem ⟨serverShare.ecdhePublic, []⟩
      serverShare.mlkemCiphertext with
  | none => none
  | some (.error failure) => some (.error (.KeyExchange failure.display))
  | some (.ok hybridSs) =>
    match SessionKeys.derive prim.hkdf384 hybridSs.bytes transcriptHash with
    | .error failure =>
      some (.error (.Handshake ("key derivation failed: " ++ AtHsExecutor.hkdfErrorText failure)))
    | .ok sessionKeys =>
      some (.ok (.new respHdrs.baseId .X25519MlKem768Aes256GcmSha384 .V2 sessionKeys
        (instant + respHdrs.expiresSecs) .default attestationResult))

def ownShare (pair : HybridKemPair Secret Decap) : ClientKeyShare where
  ecdhePublic := (pair.publicKeyShare prim.ecdh prim.kem).ecdhePublic
  mlkemPublic := (pair.publicKeyShare prim.ecdh prim.kem).mlkemPublic
  signatureAlg := some .MlDsa65

def fetchChallenge : Except ClientError (Option Bytes) :=
  if client.requirePreflight then (performPreflight codecs client).map some else .ok none

variable (draws : ClientDraws Secret Decap)

/-- `attest_handshake` up to the answer to `ATTEST`: the challenge and the answer. -/
def exchange : Option (Except ClientError (Option Bytes × Response)) :=
  match fetchChallenge codecs client with
  | .error failure => some (.error failure)
  | .ok challenge =>
    let clientShare := ownShare prim draws.pair
    match generateClientQuote prim client draws.clientRandom clientShare challenge with
    | .error failure => some (.error failure)
    | .ok clientQuotes =>
      (sendAttestRequest codecs client (attestRequestHeaders draws.date draws.clientRandom
        (codecs.clientShares.render clientShare) clientQuotes challenge)).map (·.map (challenge, ·))

/-- `attest_handshake` from the answer on. -/
def finishHandshake (instant : Nat) (draws : ClientDraws Secret Decap) (challenge : Option Bytes)
    (response : Response) : Option (Except ClientError AttestSession) :=
  match readResponse codecs client response with
  | .error failure => some (.error failure)
  | .ok (respHdrs, serverShare) =>
    let transcriptHash := prim.sha384 (clientTranscriptInput draws.clientRandom challenge
      (ownShare prim draws.pair) respHdrs serverShare)
    match verifyPqcServerSig prim client respHdrs transcriptHash,
        verifyServerQuotes prim client respHdrs transcriptHash with
    | .error failure, _ => some (.error failure)
    | .ok _, .error failure => some (.error failure)
    | .ok _, .ok attestationResult =>
      deriveSession prim instant draws.pair respHdrs serverShare transcriptHash attestationResult

/-- `attest_handshake`; nothing when it panics. -/
def attestHandshake (instant : Nat) (draws : ClientDraws Secret Decap) :
    Option (Except ClientError AttestSession) :=
  match exchange prim codecs client draws with
  | none => none
  | some (.error failure) => some (.error failure)
  | some (.ok (challenge, response)) =>
    finishHandshake prim codecs client instant draws challenge response

/-- What a client run goes by: the challenge it answered, and the headers and key share it was
answered with. -/
structure View where
  challenge : Option Bytes
  respHdrs : AtHsResponseHeaders
  serverShare : ServerKeyShare

def view : Option View :=
  match exchange prim codecs client draws with
  | some (.ok (challenge, response)) =>
    (readResponse codecs client response).toOption.map fun read => ⟨challenge, read.1, read.2⟩
  | _ => none

def View.transcriptInput (view : View) : Bytes :=
  clientTranscriptInput draws.clientRandom view.challenge (ownShare prim draws.pair) view.respHdrs
    view.serverShare

def View.reportData (view : View) : Octets 64 :=
  prim.sha512 (utf8 "openhttpa hs server" ++ (prim.sha384 (view.transcriptInput prim draws)).bytes)

/-- A run of `attest_handshake` that returns, step by step from its view. -/
structure Attested (instant : Nat) (draws : ClientDraws Secret Decap) (seen : View)
    (session : AttestSession) : Prop where
  viewed : view prim codecs client draws = some seen
  signed : verifyPqcServerSig prim client seen.respHdrs
    (prim.sha384 (seen.transcriptInput prim draws)) = .ok ()
  attested : verifyServerQuotes prim client seen.respHdrs
    (prim.sha384 (seen.transcriptInput prim draws)) = .ok session.attestationResult
  combined : ∃ hybridSs, draws.pair.clientCombine prim.hkdf256 prim.ecdh prim.kem
      ⟨seen.serverShare.ecdhePublic, []⟩ seen.serverShare.mlkemCiphertext = some (.ok hybridSs) ∧
    SessionKeys.derive prim.hkdf384 hybridSs.bytes (prim.sha384 (seen.transcriptInput prim draws)) =
      .ok session.keys
  /-- The session has the identifier of the answer, and a suite and version of the client's own. -/
  session : session = .new seen.respHdrs.baseId .X25519MlKem768Aes256GcmSha384 .V2 session.keys
    (instant + seen.respHdrs.expiresSecs) .default session.attestationResult

/-- What the quotes of an answer say, under the report data of the transcript: there is one, each of them
is verified, and the claims and the status of the whole are those of the first. -/
structure Evidence (draws : ClientDraws Secret Decap) (seen : View) (composite : VerificationResult) :
    Prop where
  first : ∃ quote rest result, seen.respHdrs.quotes = quote :: rest ∧
    client.verifier { quote with qudd := (seen.reportData prim draws).bytes }
      (seen.reportData prim draws) = .ok result ∧
    composite.claims = result.claims ∧ composite.tcbStatus = result.tcbStatus
  each : ∀ quote ∈ seen.respHdrs.quotes, ∃ result,
    client.verifier { quote with qudd := (seen.reportData prim draws).bytes }
      (seen.reportData prim draws) = .ok result

end Handshake

section Runs

variable {Secret Decap Coins Signer : Type} {prim : Primitives Secret Decap Coins Signer}
  {codecs : Codecs} {client : OpenHttpaClient}

theorem transcriptInput_eq (draws : ClientDraws Secret Decap) (seen : View) (req : AtHsRequest)
    (random : req.clientRandom = draws.clientRandom)
    (challenge : req.clientChallenge = challengeBytes seen.challenge)
    (share : req.clientShare = ownShare prim draws.pair) :
    seen.transcriptInput prim draws = Core.transcriptInput req seen.respHdrs.cipherSuite
      seen.respHdrs.version (serverRandomBytes seen.respHdrs.random)
      ⟨seen.serverShare.ecdhePublic, seen.serverShare.mlkemPublic⟩ seen.serverShare.mlkemCiphertext := by
  rw [Core.transcriptInput, random, challenge, share]
  rfl

theorem view_eq_some_iff {draws : ClientDraws Secret Decap} {seen : View} :
    view prim codecs client draws = some seen ↔
      ∃ response, exchange prim codecs client draws = some (.ok (seen.challenge, response)) ∧
        readResponse codecs client response = .ok (seen.respHdrs, seen.serverShare) := by
  obtain ⟨challenge, respHdrs, serverShare⟩ := seen
  unfold view
  constructor
  · intro viewed
    split at viewed
    · rename_i answered response exchanged
      cases read : readResponse codecs client response with
      | error failure => simp [read, Except.toOption] at viewed
      | ok value =>
        simp only [read, Except.toOption, Option.map_some, Option.some.injEq, View.mk.injEq] at viewed
        obtain ⟨rfl, rfl, rfl⟩ := viewed
        exact ⟨response, exchanged, read⟩
    · cases viewed
  · rintro ⟨response, exchanged, read⟩
    simp [exchanged, read, Except.toOption]

theorem attestHandshake_ok_iff (instant : Nat) (draws : ClientDraws Secret Decap)
    (session : AttestSession) :
    attestHandshake prim codecs client instant draws = some (.ok session) ↔
      ∃ seen, Attested prim codecs client instant draws seen session := by
  constructor
  · intro returned
    unfold attestHandshake at returned
    split at returned
    · cases returned
    · cases returned
    · rename_i challenge response exchanged
      unfold finishHandshake at returned
      split at returned
      · cases returned
      · rename_i respHdrs serverShare read
        dsimp only at returned
        split at returned
        · cases returned
        · cases returned
        · rename_i signed verified
          unfold deriveSession at returned
          split at returned
          · cases returned
          · cases returned
          · rename_i hybridSs combined
            split at returned
            · cases returned
            · rename_i keys derived
              cases returned
              have viewed : view prim codecs client draws = some ⟨challenge, respHdrs, serverShare⟩ :=
                view_eq_some_iff.mpr ⟨response, exchanged, read⟩
              exact ⟨_, viewed, signed, verified, ⟨hybridSs, combined, derived⟩, rfl⟩
  · rintro ⟨seen, run⟩
    obtain ⟨response, exchanged, read⟩ := view_eq_some_iff.mp run.viewed
    obtain ⟨hybridSs, combined, derived⟩ := run.combined
    have signed := run.signed
    have attested := run.attested
    unfold View.transcriptInput at signed attested derived
    simp only [attestHandshake, exchanged, finishHandshake, read, signed, attested, deriveSession,
      combined, derived]
    rw [← run.session]

theorem appraiseServerQuote_ok {reportData : Octets 64} {composite next : Option VerificationResult}
    {quote : AttestQuote} (turn : appraiseServerQuote client reportData composite quote = .ok next) :
    ∃ result, client.verifier { quote with qudd := reportData.bytes } reportData = .ok result ∧
      next = some (composite.elim result fun primary => primary.push result) := by
  obtain ⟨result, verified, rest⟩ := bind_ok turn
  refine ⟨result, mapError_ok verified, ?_⟩
  cases composite
  all_goals exact (Except.ok.inj rest).symm

theorem Attested.evidence {instant : Nat} {draws : ClientDraws Secret Decap} {seen : View}
    {session : AttestSession} (strict : client.strictAttestation = true)
    (run : Attested prim codecs client instant draws seen session) :
    ∃ composite, session.attestationResult = some composite ∧
      Evidence prim client draws seen composite := by
  have attested := run.attested
  unfold verifyServerQuotes appraiseServerQuotes at attested
  cases quotes : seen.respHdrs.quotes with
  | nil =>
    rw [quotes, List.isEmpty_nil, if_pos rfl, if_pos strict] at attested
    cases attested
  | cons quote rest =>
    rw [quotes, List.isEmpty_cons, if_neg Bool.false_ne_true] at attested
    obtain ⟨next, turn, later⟩ := bind_ok attested
    obtain ⟨result, verified, rfl⟩ := appraiseServerQuote_ok turn
    obtain ⟨composite, found, claims, status, others⟩ :=
      foldlM_push later fun _ _ _ => appraiseServerQuote_ok
    refine ⟨composite, found, ⟨quote, rest, result, quotes, verified, claims, status⟩, ?_⟩
    rw [quotes]
    exact List.forall_mem_cons.mpr ⟨⟨result, verified⟩, others⟩

theorem challengeBytes_of_length {challenge : Octets 48} :
    challengeBytes (some challenge.bytes) = challenge := by
  apply Octets.ext
  have length := challenge.length_eq
  simp only [challengeBytes, Option.getD_some]
  rw [List.take_left' length]

theorem serverRandomBytes_bytes (random : Octets 32) : serverRandomBytes random.bytes = random := by
  have length := random.length_eq
  unfold serverRandomBytes
  rw [dif_pos (by omega)]
  apply Octets.ext
  show random.bytes.take 32 = random.bytes
  rw [List.take_of_length_le (by omega)]

end Runs

end OpenHttpa.Client
