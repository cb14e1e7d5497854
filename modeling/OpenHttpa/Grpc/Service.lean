import OpenHttpa.Core.Handshake

/-!
# The gRPC service

`openhttpa-grpc/src/service.rs`; `trusted_call` is not implemented there. The answer of
`attest_handshake` has a field for the random of the server, which the transcript covers, and the service
fills it with zeros. So a client that hashes what it sent and what it was answered hashes what the server
did only if the server drew zeros (`grpc_transcript_iff`).
-/
namespace OpenHttpa.Grpc

open OpenHttpa.Core Crypto Proto

/-- `AtHsRequest` of `openhttpa.proto`, the fields that the service reads. -/
structure AtHsRequest where
  keyShare : Bytes
  random : Bytes
  cipherSuites : List String
  versions : List String
  challenge : Bytes

structure AtHsResponse where
  cipherSuite : String
  random : Bytes
  keyShare : Bytes
  baseId : String
  version : String
  expiresSecs : Nat
  quotes : List AttestQuote

inductive Status where
  | InvalidArgument (message : String)
  | Internal (message : String)

/-- The request that `attest_handshake` runs; a random that is too short counts as zeros. -/
def coreRequest (codecs : Codecs) (allowDeprecated : Bool) (req : AtHsRequest) :
    Except Status Core.AtHsRequest :=
  match codecs.clientShares.parse req.keyShare with
  | .error reason => .error (.InvalidArgument ("invalid key_share: " ++ reason))
  | .ok clientShare =>
    match Octets.ofBytes? 48 req.challenge with
    | none => .error (.InvalidArgument
        ("challenge must be exactly 48 bytes, got " ++ toString req.challenge.length))
    | some clientChallenge => .ok {
        clientSuites := req.cipherSuites.filterMap (CipherSuite.fromStr allowDeprecated)
        clientVersions := req.versions.filterMap ProtocolVersion.fromStr
        clientRandom := (Octets.ofBytes? 32 (req.random.take 32)).getD (.zero 32)
        clientChallenge
        clientShare
        clientQuotes := []
        atbTtlSecs := 3600 }

def response (codecs : Codecs) (out : ServerOutcome) : AtHsResponse where
  cipherSuite := out.suite.display
  random := (Octets.zero 32).bytes
  keyShare := codecs.serverShares.render out.share
  baseId := codecs.uuid.display out.result.atbId
  version := out.version.display
  expiresSecs := 3600
  quotes := []

section Handshake

variable {Secret Decap Coins Signer : Type} (prim : Primitives Secret Decap Coins Signer)
  (codecs : Codecs) (allowDeprecated : Bool) (executor : AtHsExecutor) (clock : Clock)
  (draws : ServerDraws Secret Decap Coins)

/-- `AttestHandshakeService::attest_handshake`; the service has no provider, no verifier and no key. -/
def attestHandshake (req : AtHsRequest) : Option (Except Status AtHsResponse) :=
  match coreRequest codecs allowDeprecated req with
  | .error status => some (.error status)
  | .ok hsReq =>
    match executor.executeServer prim clock hsReq none none none draws with
    | none => none
    | some (.error failure) => some (.error (.Internal failure.display))
    | some (.ok out) => some (.ok (response codecs out))

/-- What is hashed for the transcript of an outcome, with some random for the server's. -/
def hashedWith (hsReq : Core.AtHsRequest) (out : ServerOutcome) (random : Octets 32) : Bytes :=
  transcriptInput hsReq out.suite out.version random ⟨out.share.ecdhePublic, out.share.mlkemPublic⟩
    out.share.mlkemCiphertext

theorem hashedWith_eq_iff (hsReq : Core.AtHsRequest) (out : ServerOutcome) (left right : Octets 32) :
    hashedWith hsReq out left = hashedWith hsReq out right ↔ left = right := by
  constructor
  · intro same
    simp only [hashedWith, transcriptInput, lengthed, left.length_eq, right.length_eq,
      List.append_assoc, List.append_cancel_left_eq] at same
    exact Octets.ext (List.append_inj same (left.length_eq.trans right.length_eq.symm)).1
  · rintro rfl
    rfl

variable {prim codecs allowDeprecated executor clock draws}

theorem attestHandshake_ok_iff {req : AtHsRequest} {resp : AtHsResponse} :
    attestHandshake prim codecs allowDeprecated executor clock draws req = some (.ok resp) ↔
      ∃ hsReq out, coreRequest codecs allowDeprecated req = .ok hsReq ∧ resp = response codecs out ∧
        AtHsExecutor.Executed prim executor clock hsReq none none none draws out := by
  constructor
  · intro answered
    unfold attestHandshake at answered
    split at answered
    · cases answered
    rename_i hsReq received
    split at answered
    · cases answered
    · cases answered
    rename_i out returned
    cases answered
    exact ⟨hsReq, out, received, rfl, (AtHsExecutor.executeServer_ok_iff ..).mp returned⟩
  · rintro ⟨hsReq, out, received, rfl, ran⟩
    have returned := (AtHsExecutor.executeServer_ok_iff ..).mpr ran
    simp only [attestHandshake, received, returned]

/-- **gRPC.** Behind every answer of the service stands a handshake without evidence, whose transcript is
over the random that the server drew; with the random of the answer in its place a client hashes the same
bytes exactly if the server drew thirty-two zeros. -/
theorem grpc_transcript_iff {req : AtHsRequest} {resp : AtHsResponse}
    (answered : attestHandshake prim codecs allowDeprecated executor clock draws req =
      some (.ok resp)) :
    ∃ hsReq out, coreRequest codecs allowDeprecated req = .ok hsReq ∧ resp = response codecs out ∧
      AtHsExecutor.Executed prim executor clock hsReq none none none draws out ∧
      out.result.transcriptHash = prim.sha384 (hashedWith hsReq out draws.serverRandom) ∧
      ∀ random : Octets 32, resp.random = random.bytes →
        (hashedWith hsReq out random = hashedWith hsReq out draws.serverRandom ↔
          draws.serverRandom = .zero 32) := by
  obtain ⟨hsReq, out, received, rfl, ran⟩ := attestHandshake_ok_iff.mp answered
  refine ⟨hsReq, out, received, rfl, ran, ?_, ?_⟩
  · rw [ran.transcript, hashedWith, ran.share]
    rfl
  · intro random same
    have zeros : random = .zero 32 := Octets.ext same.symm
    rw [hashedWith_eq_iff, zeros]
    exact eq_comm

end Handshake

def plainShare : ClientKeyShare :=
  ⟨(Primitives.plain.ecdh.publicKey ()).bytes, (Primitives.plain.kem.encapKey ()).bytes, none⟩

def plainRequest : AtHsRequest where
  keyShare := Codecs.plain.clientShares.render plainShare
  random := (Octets.zero 32).bytes
  cipherSuites := ["X25519_ML_KEM768_AES256GCM_SHA384"]
  versions := ["openhttpa"]
  challenge := (Octets.zero 48).bytes

/-- A server that draws a random of ones. -/
def drawsOnes : ServerDraws Unit Unit Unit := ⟨⟨(), ()⟩, (), .repeated 32 1, ⟨1⟩⟩

def plainAnswer : Option (Except Status AtHsResponse) :=
  attestHandshake .plain .plain false (.withAll [] [] false false none none) ⟨0, 0⟩ drawsOnes
    plainRequest

/-- It answers, and a client that takes the random of the answer hashes other bytes. -/
theorem answered_random_unhashed :
    ∃ resp hsReq out, plainAnswer = some (.ok resp) ∧ resp.random = (Octets.zero 32).bytes ∧
      out.result.transcriptHash = Primitives.plain.sha384 (hashedWith hsReq out drawsOnes.serverRandom) ∧
      hashedWith hsReq out (.zero 32) ≠ hashedWith hsReq out drawsOnes.serverRandom := by
  have succeeds : (plainAnswer.any Except.isOk) = true := by decide +kernel
  cases ran : plainAnswer with
  | none => simp [ran] at succeeds
  | some answer =>
    cases answer with
    | error status =>
      rw [ran] at succeeds
      cases succeeds
    | ok resp =>
      obtain ⟨hsReq, out, _, same, _, hashed, agrees⟩ := grpc_transcript_iff ran
      have zeros : resp.random = (Octets.zero 32).bytes := by rw [same]; rfl
      refine ⟨resp, hsReq, out, rfl, zeros, hashed, fun equal => ?_⟩
      have drawn := (agrees _ zeros).mp equal
      revert drawn
      decide

end OpenHttpa.Grpc
