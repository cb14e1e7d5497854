import OpenHttpa.Core.Handshake
import OpenHttpa.Server.Registry

/-!
# The handlers of a handshake

`aths_handler` and `preflight_handler` of `openhttpa-server/src/handlers.rs`. A preflight issues a
challenge that carries its own time and an authentication code; the handshake handler reads the
request headers, refuses a challenge it did not issue or issued too long ago, runs the executor, and
registers a session before it answers. This is the handler of the default features; with `mesh` a
policy engine is asked as well (`Mesh/Admission`).
-/
namespace OpenHttpa.Server

open OpenHttpa.Core Crypto Headers Proto

/-- `AtHsHandlerState` without the registry. -/
structure AtHsHandlerState (Decap Signer : Type) where
  executor : AtHsExecutor
  teeProvider : TeeProvider
  /-- The verifier of the client's evidence, if there is one. -/
  verifier : Option QuoteVerifier
  atbTtl : Nat
  challengeKey : Octets 32
  identityKey : Option Signer
  hpkeKey : Option Decap
  allowDeprecated : Bool

structure PreflightHandlerState where
  cipherSuites : List CipherSuite
  versions : List ProtocolVersion
  challengeKey : Octets 32
  obliviousSupported : Bool

section Handlers

variable {Secret Decap Coins Signer : Type} (prim : Primitives Secret Decap Coins Signer)
  (codecs : Codecs)

/-- The challenge of a preflight: its time, eight random bytes, and the code over both. -/
def issueChallenge (key : Octets 32) (unix : Nat) (rand : Octets 8) : Bytes :=
  beBytes 8 unix ++ rand.bytes ++ (prim.hmac key (beBytes 8 unix ++ rand.bytes)).bytes

/-- `preflight_handler`, given the time and the random bytes. -/
def preflightHandler (state : PreflightHandlerState) (unix : Nat) (rand : Octets 8) : Response :=
  let headers : PreflightResponseHeaders := {
    cipherSuites := state.cipherSuites
    versions := state.versions
    challenge := issueChallenge prim state.challengeKey unix rand
    obliviousSupported := state.obliviousSupported }
  .ofHeaders (headers.encode codecs.sfv)

def verifyChallenge (key : Octets 32) (unix : Nat) (c : Bytes) : Except String (Octets 48) :=
  let tsBytes := c.take 8
  let randBytes := (c.drop 8).take 8
  let sig := c.drop 16
  if (prim.hmac key (tsBytes ++ randBytes)).bytes ≠ sig then
    .error "Attest-Challenge signature invalid"
  else if unix < ofBe tsBytes ∨ 300 < unix - ofBe tsBytes then
    .error "Attest-Challenge expired. Please refresh preflight."
  else
    match Octets.ofBytes? 48 c with
    | none => .error "Attest-Challenge must be exactly 48 bytes"
    | some arr => .ok arr

def readEncryptedHello (hpkeKey : Option Decap) (hello : Option Bytes) : Except Response Bool :=
  match hello, hpkeKey with
  | none, _ => .ok false
  | some _, none => .error (.text 400 "Encrypted Hello not supported by this server")
  | some payload, some key =>
    if payload.length < 1088 + 16 then .error (.text 400 "Encrypted hello payload too short")
    else
      let rest := payload.drop 1088
      let payloadCt := rest.take (rest.length - 16)
      let tag := rest.drop (rest.length - 16)
      match hpkeOpen prim key (payload.take 1088) payloadCt tag with
      | none => .error (.text 400 "Failed to decrypt Encrypted Hello")
      | some decrypted => .ok ((codecs.isCoverTraffic decrypted).getD false)

def coverResponse (atbId : AtbId) : Option Response :=
  let dummy : AtHsResponseHeaders := {
    cipherSuite := .X25519MlKem768Aes256GcmSha384
    random := List.replicate 32 0
    keyShareJson := List.replicate 256 0
    baseId := atbId
    version := .V2
    expiresSecs := 0
    quotes := []
    secrets := []
    cargo := none
    ticketResumption := none
    serverSignatures := []
    zkProof := none }
  (dummy.encode codecs.toHeaderCodecs).map .ofHeaders

def admitChallenge (key : Octets 32) (unix : Nat) (challenge : Option Bytes) :
    Except Response (Octets 48) :=
  match challenge.filter fun c => 48 ≤ c.length with
  | none => .error (.text 401
      "Attest-Challenge missing, too short, or invalid. Please perform preflight.")
  | some c => (verifyChallenge prim key unix c).mapError (.text 401)

/-- `aths_handler` up to the request it runs; otherwise the answer it gives at once. -/
def admitRequest (state : AtHsHandlerState Decap Signer) (unix : Nat) (atbId : AtbId)
    (map : HeaderMap) : Except (Option Response) AtHsRequest := do
  let headers ← (AtHsRequestHeaders.decode codecs.toHeaderCodecs state.allowDeprecated map).mapError
    fun failure => some (.text 400 ("bad AtHS headers: " ++ failure.display))
  let isCoverTraffic ← (readEncryptedHello prim codecs state.hpkeKey headers.encryptedHello).mapError
    some
  if isCoverTraffic then .error (coverResponse codecs atbId) else
  let clientShare ← (codecs.clientShares.parse headers.keySharesJson).mapError
    fun reason => some (.text 400 ("bad key-share JSON: " ++ reason))
  let clientRandom ← match Octets.ofBytes? 32 headers.random with
    | none => .error (some (.text 400 "Attest-Random must be exactly 32 bytes"))
    | some random => .ok random
  let clientChallenge ← (admitChallenge prim state.challengeKey unix headers.challenge).mapError some
  return {
    clientSuites := headers.cipherSuites
    clientVersions := headers.versions
    clientRandom
    clientChallenge
    clientShare
    clientQuotes := headers.clientQuotes
    atbTtlSecs := state.atbTtl }

structure Handled where
  response : Option Response
  registry : AtbRegistry
  registered : Option AttestSession

def sessionOf (out : ServerOutcome) : AttestSession :=
  .new out.result.atbId out.suite out.version out.result.sessionKeys out.result.expiresAt
    .StrictMonotonic out.result.clientAttestationResult

def responseHeaders (ttl : Nat) (out : ServerOutcome) : AtHsResponseHeaders where
  cipherSuite := out.suite
  random := out.result.serverRandom.bytes
  keyShareJson := codecs.serverShares.render out.share
  baseId := out.result.atbId
  version := out.version
  expiresSecs := ttl
  quotes := out.result.serverQuotes
  secrets := []
  cargo := none
  ticketResumption := none
  serverSignatures := out.result.serverSignatures
  zkProof := none

/-- `aths_handler` on request headers; the new session object gets the handle. Between the executor and
the registration the handler may refuse, which `refusal` says for an outcome. -/
def athsHandlerUnder (refusal : ServerOutcome → Option Response) (state : AtHsHandlerState Decap Signer)
    (clock : Clock) (draws : ServerDraws Secret Decap Coins) (registry : AtbRegistry) (handle : Nat)
    (map : HeaderMap) : Handled :=
  match admitRequest prim codecs state clock.unix draws.atbId map with
  | .error response => ⟨response, registry, none⟩
  | .ok req =>
    match state.executor.executeServer prim clock req (some state.teeProvider) state.verifier
        state.identityKey draws with
    | none => ⟨none, registry, none⟩
    | some (.error failure) => ⟨some (.text 400 ("AtHS failed: " ++ failure.display)), registry, none⟩
    | some (.ok out) =>
      match refusal out with
      | some response => ⟨some response, registry, none⟩
      | none =>
        match registry.insert out.result.atbId handle with
        | .error full => ⟨some (.text 503 full), registry, none⟩
        | .ok registry =>
          ⟨((responseHeaders codecs state.atbTtl out).encode codecs.toHeaderCodecs).map .ofHeaders,
            registry, some (sessionOf out)⟩

/-- `aths_handler` of the default features, which asks no policy. -/
def athsHandler (state : AtHsHandlerState Decap Signer) (clock : Clock)
    (draws : ServerDraws Secret Decap Coins) (registry : AtbRegistry) (handle : Nat)
    (map : HeaderMap) : Handled :=
  athsHandlerUnder prim codecs (fun _ => none) state clock draws registry handle map

end Handlers

section Runs

variable {Secret Decap Coins Signer : Type} {prim : Primitives Secret Decap Coins Signer}
  {codecs : Codecs}

variable {state : AtHsHandlerState Decap Signer} {clock : Clock}
  {draws : ServerDraws Secret Decap Coins} {registry : AtbRegistry} {handle : Nat} {map : HeaderMap}
  {session : AttestSession}

/-- A session is registered exactly if the request is admitted, the executor returns, nothing refuses and
there is room. -/
theorem athsHandlerUnder_registered_iff {refusal : ServerOutcome → Option Response} :
    (athsHandlerUnder prim codecs refusal state clock draws registry handle map).registered =
        some session ↔
      ∃ req out, admitRequest prim codecs state clock.unix draws.atbId map = .ok req ∧
        state.executor.executeServer prim clock req (some state.teeProvider) state.verifier
          state.identityKey draws = some (.ok out) ∧
        refusal out = none ∧ registry.liveCount < registry.maxSessions ∧ session = sessionOf out := by
  unfold athsHandlerUnder AtbRegistry.insert
  constructor
  · intro registered
    split at registered
    · cases registered
    · rename_i req admitted
      split at registered
      · cases registered
      · cases registered
      · rename_i out executed
        split at registered
        · cases registered
        · rename_i goesOn
          by_cases room : registry.liveCount < registry.maxSessions
          · rw [if_pos room] at registered
            cases registered
            exact ⟨req, out, admitted, executed, goesOn, room, rfl⟩
          · rw [if_neg room] at registered
            cases registered
  · rintro ⟨req, out, admitted, executed, goesOn, room, rfl⟩
    simp only [admitted, executed, goesOn, if_pos room]

theorem athsHandler_registered_iff :
    (athsHandler prim codecs state clock draws registry handle map).registered = some session ↔
      ∃ req out, admitRequest prim codecs state clock.unix draws.atbId map = .ok req ∧
        state.executor.executeServer prim clock req (some state.teeProvider) state.verifier
          state.identityKey draws = some (.ok out) ∧
        registry.liveCount < registry.maxSessions ∧ session = sessionOf out := by
  simp only [athsHandler, athsHandlerUnder_registered_iff, true_and]

variable (prim)

theorem verifyChallenge_issued (key : Octets 32) (rand : Octets 8) {issued unix : Nat}
    (word : issued < 2 ^ 64) (past : issued ≤ unix) (fresh : unix ≤ issued + 300) :
    ∃ challenge, verifyChallenge prim key unix (issueChallenge prim key issued rand) =
        .ok challenge ∧ challenge.bytes = issueChallenge prim key issued rand := by
  have ts : (issueChallenge prim key issued rand).take 8 = beBytes 8 issued := by
    simp [issueChallenge]
  have random : ((issueChallenge prim key issued rand).drop 8).take 8 = rand.bytes := by
    simp [issueChallenge, rand.length_eq]
  have code : (issueChallenge prim key issued rand).drop 16 =
      (prim.hmac key (beBytes 8 issued ++ rand.bytes)).bytes := by
    rw [issueChallenge, List.drop_left']
    simp [rand.length_eq]
  have time : ofBe (beBytes 8 issued) = issued := ofBe_beBytes (by omega)
  have length : (issueChallenge prim key issued rand).length = 48 := by
    simp [issueChallenge, rand.length_eq, Octets.length_eq]
  have current : ¬ (unix < issued ∨ 300 < unix - issued) := by omega
  refine ⟨⟨issueChallenge prim key issued rand, length⟩, ?_, rfl⟩
  simp [verifyChallenge, ts, random, code, time, current, Octets.ofBytes?, length]

end Runs

end OpenHttpa.Server
