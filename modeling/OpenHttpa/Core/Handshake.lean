import OpenHttpa.Crypto.KeyExchange
import OpenHttpa.Headers.PlainCodecs

/-!
# The server side of the handshake

`openhttpa-core/src/handshake.rs`. The executor chooses suite and version, combines its key pair
with the client's share, hashes the public values into the transcript, verifies the client's quotes,
derives the session keys, and has its own quotes and signature made over the transcript. Random
values and clocks are inputs; primitives, providers and verifiers are parameters. A panic of the
combiner is shown as nothing.
-/
namespace OpenHttpa.Core

open Crypto Proto

inductive HandshakeError where
  | NoCipherSuiteOverlap
  | NoVersionOverlap
  | KeyExchange (message : String)
  | KeyDerivation (message : String)
  | Serialisation (message : String)
  | AttestationRequired
  | Attestation (message : String)
  | Revoked (message : String)
  | Policy (message : String)
  | Internal (message : String)

def HandshakeError.display : HandshakeError → String
  | NoCipherSuiteOverlap => "no mutually supported cipher suite"
  | NoVersionOverlap => "no mutually supported protocol version"
  | KeyExchange message => "key exchange error: " ++ message
  | KeyDerivation message => "key derivation error: " ++ message
  | Serialisation message => "serialisation error: " ++ message
  | AttestationRequired => "attestation required but not provided"
  | Attestation message => "attestation failed: " ++ message
  | Revoked message => "revocation check failed: " ++ message
  | Policy message => "policy violation: " ++ message
  | Internal message => "internal protocol error: " ++ message

theorem bind_ok {ε α β : Type} {step : Except ε α} {next : α → Except ε β} {result : β}
    (returned : (step >>= next) = .ok result) : ∃ value, step = .ok value ∧ next value = .ok result := by
  cases step with
  | error failure => cases returned
  | ok value => exact ⟨value, rfl, returned⟩

theorem mapError_ok {ε δ α : Type} {step : Except ε α} {rename : ε → δ} {value : α}
    (returned : step.mapError rename = .ok value) : step = .ok value := by
  cases step with
  | error failure => cases returned
  | ok other => cases returned; rfl

theorem foldlM_push {ε : Type}
    {turn : Option VerificationResult → AttestQuote → Except ε (Option VerificationResult)}
    {verified : AttestQuote → VerificationResult → Prop}
    {quotes : List AttestQuote} {primary : VerificationResult} {last : Option VerificationResult}
    (folded : quotes.foldlM turn (some primary) = .ok last)
    (adds : ∀ composite quote next, turn composite quote = .ok next →
      ∃ result, verified quote result ∧
        next = some (composite.elim result fun primary => primary.push result)) :
    ∃ composite, last = some composite ∧ composite.claims = primary.claims ∧
      composite.tcbStatus = primary.tcbStatus ∧ ∀ quote ∈ quotes, ∃ result, verified quote result := by
  induction quotes generalizing primary with
  | nil =>
    cases folded
    exact ⟨primary, rfl, rfl, rfl, nofun⟩
  | cons quote rest ih =>
    obtain ⟨next, first, later⟩ := bind_ok folded
    obtain ⟨result, held, rfl⟩ := adds _ _ _ first
    obtain ⟨composite, found, claims, status, others⟩ := ih later
    have same : (primary.push result).claims = primary.claims ∧
        (primary.push result).tcbStatus = primary.tcbStatus := by
      cases primary
      exact ⟨rfl, rfl⟩
    refine ⟨composite, found, claims.trans same.1, status.trans same.2, ?_⟩
    exact List.forall_mem_cons.mpr ⟨⟨result, held⟩, others⟩

inductive SigAlg where
  | MlDsa65
deriving DecidableEq

structure ClientKeyShare where
  ecdhePublic : Bytes
  mlkemPublic : Bytes
  signatureAlg : Option SigAlg

structure ServerKeyShare where
  ecdhePublic : Bytes
  mlkemPublic : Bytes
  mlkemCiphertext : Bytes
  signatureAlg : Option SigAlg

/-- How `serde_json` writes and reads a value. -/
structure Json (α : Type) where
  render : α → Bytes
  /-- `from_slice`, with the reason it refuses. -/
  parse : Bytes → Except String α
  parse_render : ∀ value, parse (render value) = .ok value

/-- How the two sides write what they exchange. -/
structure Codecs extends Headers.HeaderCodecs where
  clientShares : Json ClientKeyShare
  serverShares : Json ServerKeyShare
  /-- The field `is_cover_traffic` of an `EncryptedHelloPayload`, when the text is one. -/
  isCoverTraffic : Bytes → Option Bool
  statusDisplay : Nat → String
  fromUtf8Lossy : Bytes → String

/-- `AtHsRequest`; the provenance chain is not read. -/
structure AtHsRequest where
  clientSuites : List CipherSuite
  /-- The versions the client offers, the preferred one first. -/
  clientVersions : List ProtocolVersion
  clientRandom : Octets 32
  clientChallenge : Octets 48
  clientShare : ClientKeyShare
  clientQuotes : List AttestQuote
  atbTtlSecs : Nat

def lengthed (field : Bytes) : Bytes := beBytes 8 field.length ++ field

/-- What `compute_transcript_hash` hashes. -/
def transcriptInput (req : AtHsRequest) (suite : CipherSuite) (version : ProtocolVersion)
    (serverRandom : Octets 32) (serverPubShare : KeyShare) (ctBytes : Bytes) : Bytes :=
  lengthed req.clientRandom.bytes ++ lengthed req.clientChallenge.bytes ++
    lengthed req.clientShare.ecdhePublic ++ lengthed req.clientShare.mlkemPublic ++
    lengthed serverRandom.bytes ++ lengthed serverPubShare.ecdhePublic ++ lengthed ctBytes ++
    lengthed serverPubShare.mlkemPublic ++ beBytes 2 suite.numericId.toNat ++ [version.numericId]

variable (sha384 : Bytes → Octets 48)

/-- `compute_transcript_hash`. -/
def computeTranscriptHash (req : AtHsRequest) (suite : CipherSuite) (version : ProtocolVersion)
    (serverRandom : Octets 32) (serverPubShare : KeyShare) (ctBytes : Bytes) : Octets 48 :=
  sha384 (transcriptInput req suite version serverRandom serverPubShare ctBytes)

/-- `QuoteVerifier::verify`. -/
abbrev QuoteVerifier := AttestQuote → Octets 64 → Except String VerificationResult

/-- `TeeProvider::generate_quotes`. -/
abbrev TeeProvider := Octets 64 → Except String (List AttestQuote)

/-- `AtHsExecutor`. -/
structure AtHsExecutor where
  supportedSuites : List CipherSuite
  supportedVersions : List ProtocolVersion
  /-- Whether the server must produce quotes of its own. -/
  strictAttestation : Bool
  allowDebug : Bool
  /-- `PolicyEngine::evaluate`. -/
  policyEngine : Option (VerificationResult → Except String Unit)
  /-- `RevocationProvider::check_revocation`. -/
  revocationProvider : Option (VerificationResult → Except String Unit)
  /-- The types the client must present, each once; none when attestation is optional. -/
  requiredClientQuoteTypes : List QuoteType

namespace AtHsExecutor

/-- `with_all`: empty lists stand for the defaults. -/
def withAll (supportedSuites : List CipherSuite) (supportedVersions : List ProtocolVersion)
    (strictAttestation allowDebug : Bool)
    (policyEngine revocationProvider : Option (VerificationResult → Except String Unit)) :
    AtHsExecutor where
  supportedSuites :=
    if supportedSuites.isEmpty then CipherSuite.preferredList else supportedSuites
  supportedVersions := if supportedVersions.isEmpty then [.V2, .V1] else supportedVersions
  strictAttestation
  allowDebug
  policyEngine
  revocationProvider
  requiredClientQuoteTypes := []

/-- The suite: the first the server supports that the client offers. -/
def selectSuite (executor : AtHsExecutor) (clientSuites : List CipherSuite) : Option CipherSuite :=
  executor.supportedSuites.find? (clientSuites.contains ·)

/-- The version: the first the client offers that the server supports. -/
def selectVersion (executor : AtHsExecutor) (clientVersions : List ProtocolVersion) :
    Option ProtocolVersion :=
  clientVersions.find? (executor.supportedVersions.contains ·)

/-- The loop over the quotes in `check_required_client_quote_types`. -/
def seenQuoteTypes (required seen : List QuoteType) :
    List AttestQuote → Except HandshakeError (List QuoteType)
  | [] => .ok seen
  | quote :: rest =>
    if required.contains quote.quoteType = false then
      .error (.Attestation ("unexpected client quote type " ++ quote.quoteType.debug))
    else if seen.contains quote.quoteType then
      .error (.Attestation ("duplicate client quote type " ++ quote.quoteType.debug))
    else seenQuoteTypes required (seen ++ [quote.quoteType]) rest

def checkRequiredClientQuoteTypes (executor : AtHsExecutor) (quotes : List AttestQuote) :
    Except HandshakeError Unit :=
  if executor.requiredClientQuoteTypes.isEmpty then .ok ()
  else if quotes.isEmpty then .error .AttestationRequired
  else do
    let seen ← seenQuoteTypes executor.requiredClientQuoteTypes [] quotes
    match executor.requiredClientQuoteTypes.find? fun type => !seen.contains type with
    | some missing =>
      .error (.Attestation ("missing required client quote type " ++ missing.debug))
    | none => .ok ()

end AtHsExecutor

def hsServerPrefix : Bytes := utf8 "openhttpa hs server"

def hsClientPrefix : Bytes := utf8 "openhttpa hs client"

variable (sha512 : Bytes → Octets 64)

/-- The report data `verify_client_quotes` expects in the client's quotes. -/
def clientReportData (req : AtHsRequest) : Octets 64 :=
  let clientBinding := sha384 (lengthed req.clientRandom.bytes ++
    lengthed req.clientChallenge.bytes ++ lengthed req.clientShare.ecdhePublic ++
    lengthed req.clientShare.mlkemPublic)
  sha512 (hsClientPrefix ++ clientBinding.bytes)

namespace AtHsExecutor

def isStale (unix : Nat) (result : VerificationResult) : Bool :=
  match result.claims.iat with
  | none => false
  | some iat => iat.toNat < unix ∧ 86400 < unix - iat.toNat

/-- One turn of the loop of `verify_client_quotes`. -/
def appraiseQuote (executor : AtHsExecutor) (unix : Nat) (verify : QuoteVerifier)
    (reportData : Octets 64) (composite : Option VerificationResult) (quote : AttestQuote) :
    Except HandshakeError (Option VerificationResult) := do
  let result ← (verify quote reportData).mapError
    fun reason => .Attestation ("client evidence rejected: " ++ reason)
  if isStale unix result then
    .error (.Attestation "client evidence rejected: quote has expired (older than 24h)")
  else
    (result.rejectDebugBuilds executor.allowDebug).mapError
      fun reason => HandshakeError.Attestation ("client evidence rejected: " ++ reason)
    match executor.policyEngine with
    | none => .ok ()
    | some evaluate => (evaluate result).mapError .Policy
    match executor.revocationProvider with
    | none => .ok ()
    | some check => (check result).mapError .Revoked
    return some (match composite with
      | none => result
      | some primary => primary.push result)

def verifyClientQuotes (executor : AtHsExecutor) (sha384 : Bytes → Octets 48)
    (sha512 : Bytes → Octets 64) (unix : Nat) (req : AtHsRequest)
    (verifier : Option QuoteVerifier) : Except HandshakeError (Option VerificationResult) := do
  executor.checkRequiredClientQuoteTypes req.clientQuotes
  if req.clientQuotes.isEmpty then return none
  else
    match verifier with
    | none => .error .AttestationRequired
    | some verify =>
      req.clientQuotes.foldlM
        (executor.appraiseQuote unix verify (clientReportData sha384 sha512 req)) none

end AtHsExecutor

/-- What the server draws at random. -/
structure ServerDraws (Secret Decap Coins : Type) where
  pair : HybridKemPair Secret Decap
  coins : Coins
  serverRandom : Octets 32
  atbId : AtbId

/-- The monotonic and the calendar time. -/
structure Clock where
  instant : Nat
  unix : Nat

structure AtHsResult where
  atbId : AtbId
  sessionKeys : SessionKeys
  expiresAt : Nat
  serverQuotes : List AttestQuote
  serverRandom : Octets 32
  transcriptHash : Octets 48
  serverSignatures : List Bytes
  clientAttestationResult : Option VerificationResult

/-- What the server's handshake returns. -/
structure ServerOutcome where
  suite : CipherSuite
  version : ProtocolVersion
  share : ServerKeyShare
  result : AtHsResult

def serverReportData (transcriptHash : Octets 48) : Octets 64 :=
  sha512 (hsServerPrefix ++ transcriptHash.bytes)

namespace AtHsExecutor

variable {Secret Decap Coins Signer : Type}

def generateServerQuotes (executor : AtHsExecutor) (teeProvider : Option TeeProvider)
    (reportData : Octets 64) : Except HandshakeError (List AttestQuote) :=
  match teeProvider with
  | none => if executor.strictAttestation then .error .AttestationRequired else .ok []
  | some generateQuotes =>
    match generateQuotes reportData with
    | .ok quotes => .ok quotes
    | .error reason =>
      if executor.strictAttestation then
        .error (.Attestation ("server evidence generation failed: " ++ reason))
      else .ok []

def signTranscript (dsa : MlDsa Signer) (identityKey : Option Signer) (transcriptHash : Octets 48) :
    Except HandshakeError (List Bytes) :=
  match identityKey with
  | none => .ok []
  | some key =>
    match dsa.sign key transcriptHash.bytes with
    | .ok signature => .ok [signature]
    | .error reason => .error (.Internal ("ML-DSA sign failed: " ++ reason))

/-- `Display` for `HkdfError`. -/
def hkdfErrorText : HkdfError → String
  | .ExtractFailed => "HKDF extract failed"
  | .ExpandFailed => "HKDF expand failed (requested too many bytes)"

variable (prim : Primitives Secret Decap Coins Signer)

/-- `execute_server` once the key exchange is done. -/
def completeServer (executor : AtHsExecutor) (clock : Clock) (req : AtHsRequest)
    (teeProvider : Option TeeProvider) (verifier : Option QuoteVerifier)
    (identityKey : Option Signer) (draws : ServerDraws Secret Decap Coins) (suite : CipherSuite)
    (version : ProtocolVersion) (hybridSs : Octets 32)
    (ctBytes : Bytes) : Except HandshakeError ServerOutcome := do
  let serverPubShare := draws.pair.publicKeyShare prim.ecdh prim.kem
  let transcriptHash :=
    computeTranscriptHash prim.sha384 req suite version draws.serverRandom serverPubShare ctBytes
  let clientAttestationResult ←
    executor.verifyClientQuotes prim.sha384 prim.sha512 clock.unix req verifier
  let sessionKeys ← (SessionKeys.derive prim.hkdf384 hybridSs.bytes transcriptHash).mapError
    fun failure => .KeyDerivation (hkdfErrorText failure)
  let serverQuotes ←
    executor.generateServerQuotes teeProvider (serverReportData prim.sha512 transcriptHash)
  let serverSignatures ← signTranscript prim.dsa identityKey transcriptHash
  return {
    suite
    version
    share := {
      ecdhePublic := serverPubShare.ecdhePublic
      mlkemPublic := serverPubShare.mlkemPublic
      mlkemCiphertext := ctBytes
      signatureAlg := identityKey.map fun _ => .MlDsa65 }
    result := {
      atbId := draws.atbId
      sessionKeys
      expiresAt := clock.instant + req.atbTtlSecs
      serverQuotes
      serverRandom := draws.serverRandom
      transcriptHash
      serverSignatures
      clientAttestationResult } }

/-- `execute_server`. -/
def executeServer (executor : AtHsExecutor) (clock : Clock) (req : AtHsRequest)
    (teeProvider : Option TeeProvider) (verifier : Option QuoteVerifier)
    (identityKey : Option Signer)
    (draws : ServerDraws Secret Decap Coins) : Option (Except HandshakeError ServerOutcome) :=
  match executor.selectSuite req.clientSuites, executor.selectVersion req.clientVersions with
  | none, _ => some (.error .NoCipherSuiteOverlap)
  | some _, none => some (.error .NoVersionOverlap)
  | some suite, some version =>
    let clientKeyShare : KeyShare := ⟨req.clientShare.ecdhePublic, req.clientShare.mlkemPublic⟩
    match draws.pair.serverCombine prim.hkdf256 prim.ecdh prim.kem draws.coins clientKeyShare with
    | none => none
    | some (.error failure) => some (.error (.KeyExchange failure.display))
    | some (.ok (hybridSs, ctBytes)) =>
      some (executor.completeServer prim clock req teeProvider verifier identityKey draws suite
        version hybridSs ctBytes)

/-- The calls `verify_client_quotes` makes to the verifier, as long as it accepts. -/
def handedQuotes (req : AtHsRequest) : List (AttestQuote × Octets 64) :=
  req.clientQuotes.map (·, clientReportData sha384 sha512 req)

variable {executor : AtHsExecutor}

theorem appraiseQuote_ok {unix : Nat} {verify : QuoteVerifier}
    {reportData : Octets 64} {composite next : Option VerificationResult} {quote : AttestQuote}
    (turn : executor.appraiseQuote unix verify reportData composite quote = .ok next) :
    ∃ result, verify quote reportData = .ok result ∧
      next = some (composite.elim result fun primary => primary.push result) := by
  obtain ⟨result, verified, rest⟩ := bind_ok turn
  refine ⟨result, mapError_ok verified, ?_⟩
  split at rest
  · cases rest
  · obtain ⟨_, -, rest⟩ := bind_ok rest
    dsimp only at rest
    split at rest
    all_goals obtain ⟨_, -, rest⟩ := bind_ok rest
    all_goals split at rest
    all_goals obtain ⟨_, -, rest⟩ := bind_ok rest
    all_goals cases composite
    all_goals exact (Except.ok.inj rest).symm

theorem verifyClientQuotes_ok {sha384 : Bytes → Octets 48}
    {sha512 : Bytes → Octets 64} {unix : Nat} {req : AtHsRequest} {verifier : Option QuoteVerifier}
    {attestation : Option VerificationResult}
    (passed : executor.verifyClientQuotes sha384 sha512 unix req verifier = .ok attestation) :
    (req.clientQuotes = [] ∧ attestation = none) ∨
      ∃ first rest verify result composite, req.clientQuotes = first :: rest ∧
        verifier = some verify ∧
        verify first (clientReportData sha384 sha512 req) = .ok result ∧
        attestation = some composite ∧ composite.claims = result.claims := by
  obtain ⟨_, -, passed⟩ := bind_ok passed
  cases quotes : req.clientQuotes with
  | nil =>
    rw [quotes] at passed
    cases passed
    exact .inl ⟨rfl, rfl⟩
  | cons first rest =>
    rw [quotes, List.isEmpty_cons, if_neg Bool.false_ne_true] at passed
    cases verifier with
    | none => cases passed
    | some verify =>
      obtain ⟨next, turn, later⟩ := bind_ok passed
      obtain ⟨result, verified, rfl⟩ := appraiseQuote_ok turn
      obtain ⟨composite, found, same, -, -⟩ := foldlM_push later fun _ _ _ => appraiseQuote_ok
      exact .inr ⟨first, rest, verify, result, composite, rfl, rfl, verified, found, same⟩

theorem foldlM_appraiseQuote_ok {unix : Nat} {verify : QuoteVerifier} {reportData : Octets 64}
    {quotes : List AttestQuote} {composite attestation : Option VerificationResult}
    (passed : quotes.foldlM (executor.appraiseQuote unix verify reportData) composite =
      .ok attestation) :
    ∀ quote ∈ quotes, ∃ result, verify quote reportData = .ok result := by
  induction quotes generalizing composite with
  | nil => simp
  | cons first rest ih =>
    rw [List.foldlM_cons] at passed
    obtain ⟨next, turn, later⟩ := bind_ok passed
    obtain ⟨result, verified, -⟩ := appraiseQuote_ok turn
    exact List.forall_mem_cons.mpr ⟨⟨result, verified⟩, ih later⟩

/-- The client's quotes pass only if the verifier accepts every one that it is handed. -/
theorem handedQuotes_verified {sha384 : Bytes → Octets 48} {sha512 : Bytes → Octets 64} {unix : Nat}
    {req : AtHsRequest} {verify : QuoteVerifier} {attestation : Option VerificationResult}
    (passed : executor.verifyClientQuotes sha384 sha512 unix req (some verify) = .ok attestation) :
    ∀ call ∈ handedQuotes sha384 sha512 req, ∃ result, verify call.1 call.2 = .ok result := by
  obtain ⟨_, -, passed⟩ := bind_ok passed
  intro call member
  obtain ⟨quote, shown, rfl⟩ := List.mem_map.mp member
  rw [if_neg (by simp [List.ne_nil_of_mem shown])] at passed
  exact foldlM_appraiseQuote_ok passed quote shown

theorem selectVersion_mem {clientVersions : List ProtocolVersion}
    {version : ProtocolVersion} (chosen : executor.selectVersion clientVersions = some version) :
    version ∈ executor.supportedVersions := by
  have found := List.find?_some chosen
  simpa using found

theorem selectSuite_singleton {suite : CipherSuite}
    (supported : suite ∈ executor.supportedSuites) : executor.selectSuite [suite] = some suite := by
  unfold selectSuite
  obtain ⟨chosen, found⟩ : ∃ chosen,
      executor.supportedSuites.find? ([suite].contains ·) = some chosen := by
    apply Option.isSome_iff_exists.mp
    rw [List.find?_isSome]
    exact ⟨suite, supported, by simp⟩
  have same : chosen = suite := by
    have offered := List.find?_some found
    simpa using offered
  rw [found, same]

theorem selectVersion_singleton {version : ProtocolVersion}
    (supported : version ∈ executor.supportedVersions) :
    executor.selectVersion [version] = some version := by
  simp [selectVersion, supported]

/-- A run of `execute_server` that returns, step by step. -/
structure Executed (prim : Primitives Secret Decap Coins Signer) (executor : AtHsExecutor)
    (clock : Clock) (req : AtHsRequest) (teeProvider : Option TeeProvider)
    (verifier : Option QuoteVerifier) (identityKey : Option Signer)
    (draws : ServerDraws Secret Decap Coins) (out : ServerOutcome) : Prop where
  suite : executor.selectSuite req.clientSuites = some out.suite
  version : executor.selectVersion req.clientVersions = some out.version
  transcript : out.result.transcriptHash = computeTranscriptHash prim.sha384 req out.suite out.version
    draws.serverRandom (draws.pair.publicKeyShare prim.ecdh prim.kem) out.share.mlkemCiphertext
  combined : ∃ hybridSs, draws.pair.serverCombine prim.hkdf256 prim.ecdh prim.kem draws.coins
      ⟨req.clientShare.ecdhePublic, req.clientShare.mlkemPublic⟩ =
        some (.ok (hybridSs, out.share.mlkemCiphertext)) ∧
    SessionKeys.derive prim.hkdf384 hybridSs.bytes out.result.transcriptHash =
      .ok out.result.sessionKeys
  attested : executor.verifyClientQuotes prim.sha384 prim.sha512 clock.unix req verifier =
    .ok out.result.clientAttestationResult
  quoted : executor.generateServerQuotes teeProvider
    (serverReportData prim.sha512 out.result.transcriptHash) = .ok out.result.serverQuotes
  signed : signTranscript prim.dsa identityKey out.result.transcriptHash =
    .ok out.result.serverSignatures
  share : out.share = {
    ecdhePublic := (draws.pair.publicKeyShare prim.ecdh prim.kem).ecdhePublic
    mlkemPublic := (draws.pair.publicKeyShare prim.ecdh prim.kem).mlkemPublic
    mlkemCiphertext := out.share.mlkemCiphertext
    signatureAlg := identityKey.map fun _ => .MlDsa65 }
  id : out.result.atbId = draws.atbId
  random : out.result.serverRandom = draws.serverRandom
  expires : out.result.expiresAt = clock.instant + req.atbTtlSecs

theorem executeServer_ok_iff (executor : AtHsExecutor) (clock : Clock) (req : AtHsRequest)
    (teeProvider : Option TeeProvider) (verifier : Option QuoteVerifier)
    (identityKey : Option Signer) (draws : ServerDraws Secret Decap Coins) (out : ServerOutcome) :
    executor.executeServer prim clock req teeProvider verifier identityKey draws = some (.ok out) ↔
      Executed prim executor clock req teeProvider verifier identityKey draws out := by
  constructor
  · intro returned
    unfold executeServer at returned
    split at returned
    · cases returned
    · cases returned
    · rename_i suite version suiteChosen versionChosen
      dsimp only at returned
      split at returned
      · cases returned
      · cases returned
      · rename_i hybridSs ctBytes combined
        have completed := Option.some.inj returned
        obtain ⟨attestation, attested, completed⟩ := bind_ok completed
        obtain ⟨keys, derived, completed⟩ := bind_ok completed
        obtain ⟨quotes, quoted, completed⟩ := bind_ok completed
        obtain ⟨signatures, signed, completed⟩ := bind_ok completed
        cases completed
        exact ⟨suiteChosen, versionChosen, rfl, ⟨hybridSs, combined, mapError_ok derived⟩, attested,
          quoted, signed, rfl, rfl, rfl, rfl⟩
  · intro run
    obtain ⟨suite, version, ⟨ecdhe, mlkem, ct, alg⟩, result⟩ := out
    obtain ⟨atbId, keys, expiresAt, quotes, random, transcript, signatures, attestation⟩ := result
    obtain ⟨suiteChosen, versionChosen, hashed, ⟨hybridSs, combined, derived⟩, attested, quoted,
      signed, share, named, drawn, expires⟩ := run
    dsimp only at *
    subst hashed named drawn expires
    cases share
    simp only [executeServer, suiteChosen, versionChosen, combined, completeServer, attested, derived,
      quoted, signed, Except.mapError, bind, Except.bind]
    rfl

end AtHsExecutor

theorem transcriptInput_negotiated {left right : AtHsRequest} {leftSuite rightSuite : CipherSuite}
    {leftVersion rightVersion : ProtocolVersion} {leftRandom rightRandom : Octets 32}
    {leftShare rightShare : KeyShare} {leftCt rightCt : Bytes}
    (same : transcriptInput left leftSuite leftVersion leftRandom leftShare leftCt =
      transcriptInput right rightSuite rightVersion rightRandom rightShare rightCt) :
    leftSuite = rightSuite ∧ leftVersion = rightVersion := by
  unfold transcriptInput at same
  obtain ⟨front, last⟩ := List.append_inj' same rfl
  obtain ⟨_, ids⟩ := List.append_inj' front (by simp)
  have suiteIds : leftSuite.numericId.toNat = rightSuite.numericId.toNat := by
    apply beBytes_injective _ _ ids
    · exact leftSuite.numericId.toNat_lt
    · exact rightSuite.numericId.toNat_lt
  have versionIds : leftVersion.numericId = rightVersion.numericId := (List.cons.inj last).1
  constructor
  · exact CipherSuite.numericId_injective (UInt16.toNat_inj.mp suiteIds)
  · exact ProtocolVersion.numericId_injective versionIds

/-- The fields that the transcript hash covers. -/
def transcriptFields (req : AtHsRequest) (serverRandom : Octets 32) (serverPubShare : KeyShare)
    (ctBytes : Bytes) : List Bytes :=
  [req.clientRandom.bytes, req.clientChallenge.bytes, req.clientShare.ecdhePublic,
    req.clientShare.mlkemPublic, serverRandom.bytes, serverPubShare.ecdhePublic, ctBytes,
    serverPubShare.mlkemPublic]

theorem transcriptInput_eq (req : AtHsRequest) (suite : CipherSuite) (version : ProtocolVersion)
    (serverRandom : Octets 32) (serverPubShare : KeyShare) (ctBytes : Bytes) :
    transcriptInput req suite version serverRandom serverPubShare ctBytes =
      (transcriptFields req serverRandom serverPubShare ctBytes).flatMap (Delimited.prefixed 8) ++
        (beBytes 2 suite.numericId.toNat ++ [version.numericId]) := by
  simp only [transcriptInput, transcriptFields, lengthed, Delimited.prefixed, List.flatMap_cons,
    List.flatMap_nil, List.append_nil, List.append_assoc]

/-- The key material of the combiner determines its six inputs, and what the transcript hash is fed
determines its ten fields; eight bytes hold the length of every slice of the source. -/
theorem hashed_bytes_determine_inputs :
    (∀ (hkdf : Hkdf 32) (ecdhe mlkem : Octets 32)
        (ecdhePkClient ecdhePkServer mlkemEkClient mlkemCt : Bytes),
        (∀ value ∈ [ecdhePkClient, ecdhePkServer, mlkemEkClient, mlkemCt], value.length ≤ 65535) →
        HybridSharedSecret.combine hkdf ecdhe.bytes mlkem.bytes ecdhePkClient ecdhePkServer
          mlkemEkClient mlkemCt = some (HybridSharedSecret.expandIkm hkdf (HybridSharedSecret.ikm
            ecdhe.bytes mlkem.bytes [ecdhePkClient, ecdhePkServer, mlkemEkClient, mlkemCt]))) ∧
      (∀ (leftEcdhe rightEcdhe leftMlkem rightMlkem : Octets 32) (left right : List Bytes),
        left.length = right.length → (∀ value ∈ left, value.length ≤ 65535) →
        (∀ value ∈ right, value.length ≤ 65535) →
        HybridSharedSecret.ikm leftEcdhe.bytes leftMlkem.bytes left =
          HybridSharedSecret.ikm rightEcdhe.bytes rightMlkem.bytes right →
        leftEcdhe = rightEcdhe ∧ leftMlkem = rightMlkem ∧ left = right) ∧
      (∀ (sha384 : Bytes → Octets 48) (req : AtHsRequest) (suite : CipherSuite)
        (version : ProtocolVersion) (serverRandom : Octets 32) (serverPubShare : KeyShare)
        (ctBytes : Bytes),
        computeTranscriptHash sha384 req suite version serverRandom serverPubShare ctBytes =
          sha384 (transcriptInput req suite version serverRandom serverPubShare ctBytes)) ∧
      ∀ (left right : AtHsRequest) (leftSuite rightSuite : CipherSuite)
        (leftVersion rightVersion : ProtocolVersion) (leftRandom rightRandom : Octets 32)
        (leftShare rightShare : KeyShare) (leftCt rightCt : Bytes),
        (∀ field ∈ transcriptFields left leftRandom leftShare leftCt, field.length < 2 ^ 64) →
        (∀ field ∈ transcriptFields right rightRandom rightShare rightCt, field.length < 2 ^ 64) →
        transcriptInput left leftSuite leftVersion leftRandom leftShare leftCt =
          transcriptInput right rightSuite rightVersion rightRandom rightShare rightCt →
        left.clientRandom = right.clientRandom ∧ left.clientChallenge = right.clientChallenge ∧
          left.clientShare.ecdhePublic = right.clientShare.ecdhePublic ∧
          left.clientShare.mlkemPublic = right.clientShare.mlkemPublic ∧
          leftRandom = rightRandom ∧ leftShare = rightShare ∧ leftCt = rightCt ∧
          leftSuite = rightSuite ∧ leftVersion = rightVersion := by
  refine ⟨?_, ?_, fun _ _ _ _ _ _ _ => rfl, ?_⟩
  · intro hkdf ecdhe mlkem _ _ _ _ sized
    simp only [← Nat.lt_succ_iff, List.forall_mem_cons] at sized
    exact HybridSharedSecret.combine_eq hkdf _ _ sized.1 sized.2.1 sized.2.2.1 sized.2.2.2.1
  · intro _ _ _ _ left right count leftSized rightSized same
    simp only [← Nat.lt_succ_iff] at leftSized rightSized
    exact HybridSharedSecret.ikm_inj count leftSized rightSized same
  · intro left right _ _ _ _ leftRandom rightRandom leftShare rightShare leftCt rightCt leftFits
      rightFits same
    -- The last three bytes are the suite and the version; the fields before them carry their lengths.
    have negotiated := transcriptInput_negotiated same
    rw [transcriptInput_eq, transcriptInput_eq] at same
    have count : (transcriptFields left leftRandom leftShare leftCt).length =
        (transcriptFields right rightRandom rightShare rightCt).length := rfl
    have fields := (Delimited.flatMap_prefixed_inj count leftFits rightFits same).1
    simp only [transcriptFields, List.cons.injEq, and_true] at fields
    obtain ⟨random, challenge, ecdhe, mlkem, serverRandom, serverEcdhe, ct, serverMlkem⟩ := fields
    have share : leftShare = rightShare := by
      cases leftShare
      cases rightShare
      exact congrArg₂ KeyShare.mk serverEcdhe serverMlkem
    exact ⟨Octets.ext random, Octets.ext challenge, ecdhe, mlkem, Octets.ext serverRandom, share, ct,
      negotiated⟩

/-- A positional format that leaves nothing out, as a text. -/
def Json.ofPositional {α : Type} (format : Positional α) (whole : format.Whole) : Json α where
  render := format.write
  parse bytes := (format.read bytes).elim (.error "unexpected end of input") fun found => .ok found.1
  parse_render value := by simp [whole.read_write]

/-- `ClientKeyShare` in positional form. -/
def clientShareFormat : Positional ClientKeyShare :=
  (Headers.compact.pair (Headers.compact.pair Postcard.flag)).converted
    (fun share => (share.ecdhePublic, share.mlkemPublic, share.signatureAlg.isSome))
    (fun (ecdhe, mlkem, signed) => some ⟨ecdhe, mlkem, if signed then some .MlDsa65 else none⟩)
    (by rintro ⟨_, _, _ | _ | _⟩ <;> rfl)

/-- `ServerKeyShare` in positional form. -/
def serverShareFormat : Positional ServerKeyShare :=
  (Headers.compact.pair (Headers.compact.pair (Headers.compact.pair Postcard.flag))).converted
    (fun share => (share.ecdhePublic, share.mlkemPublic, share.mlkemCiphertext,
      share.signatureAlg.isSome))
    (fun (ecdhe, mlkem, ciphertext, signed) =>
      some ⟨ecdhe, mlkem, ciphertext, if signed then some .MlDsa65 else none⟩)
    (by rintro ⟨_, _, _, _ | _ | _⟩ <;> rfl)

def Codecs.plain : Codecs where
  toHeaderCodecs := .plain
  clientShares := .ofPositional clientShareFormat
    ((Headers.compact_whole.pair (Headers.compact_whole.pair Postcard.flag_whole)).converted _ _ _)
  serverShares := .ofPositional serverShareFormat
    ((Headers.compact_whole.pair (Headers.compact_whole.pair
      (Headers.compact_whole.pair Postcard.flag_whole))).converted _ _ _)
  isCoverTraffic _ := none
  statusDisplay _ := ""
  fromUtf8Lossy _ := ""

end OpenHttpa.Core
