import OpenHttpa.Attestation.Bundles
import OpenHttpa.Zk.Binding
import OpenHttpa.Zk.Journal

/-!
# Compressed quotes

`ZkCompressedTeeProvider` of `openhttpa-tee/src/provider.rs` wraps a provider: it hands the quote of
the other one to the guest and returns the receipt in its place, and `DcapZkVerifier` of
`openhttpa-zk/src/dcap_zk_verifier.rs` verifies such a receipt. The provider and the verifier take
the first 48 bytes of the report data for the transcript hash, and so agree with each other; but the
guest hashes what it is given once more, and finds the report data only if the transcript hash is a
fixed point of the whole (`compressed_binding_iff`). For any other transcript the guest panics and
the server has no quote (`compressed_executeServer`).
-/
namespace OpenHttpa.Zk

open Attestation OpenHttpa.Core Crypto Guest Proto

inductive TeeProviderError where
  | NotAvailable (message : String)
  | QuoteGeneration (message : String)
  | NotInitialised
  | Enclave (message : String)
  | Driver (message : String)
  | Config (message : String)

def TeeProviderError.display : TeeProviderError → String
  | NotAvailable message => "TEE SDK not available: " ++ message
  | QuoteGeneration message => "quote generation failed: " ++ message
  | NotInitialised => "TEE not initialised"
  | Enclave message => "enclave error: " ++ message
  | Driver message => "hardware driver error: " ++ message
  | Config message => "platform configuration error: " ++ message

def ZkError.display : ZkError → String
  | Prover message => "prover error: " ++ message
  | Verification message => "verification error: " ++ message
  | Serialization message => "serialization error: " ++ message

/-- `Receipt`: the journal and what proves it. -/
structure Receipt where
  journal : Bytes
  proof : Bytes

/-- The prover. -/
structure ProofSystem where
  words : WordCodec
  /-- What the prover says of a guest that panics. -/
  panicText : Panic → String
  proofOf : Bytes → Bytes
  /-- `Receipt::verify` against the identity of the guest. -/
  verifyReceipt : Receipt → Except String Unit
  serialize : Receipt → Except String Bytes
  deserialize : Bytes → Except String Receipt
  /-- What `postcard` says of bytes it cannot read. -/
  reason : Bytes → String

section Program

variable {Certificate Key Signature : Type} (prim : GuestPrimitives Certificate Key Signature)
  (system : ProofSystem) (mock : Bool)

/-- `ZkProver::prove`, in builds with the feature `zk` and the guest built in. -/
def prove (input : ZkInput) : Except ZkError Receipt := do
  let journal ← (Guest.main prim system.words mock
    (system.words.write (zkInput.write input))).mapError fun panic => .Prover (system.panicText panic)
  let receipt : Receipt := ⟨journal, system.proofOf journal⟩
  (system.verifyReceipt receipt).mapError .Verification
  return receipt

/-- `report_data[..48]`. -/
def transcriptPart (reportData : Octets 64) : Octets 48 :=
  ⟨reportData.bytes.take 48, by simp [reportData.length_eq]⟩

def builtInCollateral : DcapCollateral where
  pckCert := utf8 "-----BEGIN CERTIFICATE-----\nMIIC...PCK...=\n-----END CERTIFICATE-----"
  intermediateCa := utf8 "-----BEGIN CERTIFICATE-----\nMIIC...INT...=\n-----END CERTIFICATE-----"
  rootCa := utf8 "-----BEGIN CERTIFICATE-----\nMIIC...ROOT...=\n-----END CERTIFICATE-----"
  tcbInfo := utf8 "\x7b\"tcbInfo\": \x7b\"version\": 3\x7d\x7d"
  qeIdentity := utf8 "\x7b\"qeIdentity\": \x7b\"id\": \"QE\"\x7d\x7d"

/-- The input that `generate_quote` builds from the quote of the other provider. -/
def compressionInput (rawQuote : Bytes) (reportData : Octets 64) : ZkInput where
  mode := .DcapCompression
  transcriptHash := transcriptPart reportData
  quoteBytes := rawQuote
  reportData
  oracleData := none
  vaiData := none
  dcapCollateral := some builtInCollateral

/-- `ZkCompressedTeeProvider::generate_quote` over the provider it wraps. -/
def generateQuote (inner : Octets 64 → Except TeeProviderError AttestQuote) (reportData : Octets 64) :
    Except TeeProviderError AttestQuote := do
  let rawQuote ← inner reportData
  let receipt ← (prove prim system mock (compressionInput rawQuote.raw reportData)).mapError
    fun failure => .Enclave ("ZK-proving failed: " ++ failure.display)
  let receiptBytes ← (system.serialize receipt).mapError
    fun failure => .Enclave ("Serialization failed: " ++ failure)
  return {
    quoteType := .ZkCompressed
    format := .Raw
    raw := receiptBytes
    qudd := reportData.bytes
    collateralUris := rawQuote.collateralUris }

/-- `generate_quotes`, the default of the trait, as the handshake sees it. -/
def compressedProvider (inner : Octets 64 → Except TeeProviderError AttestQuote) : TeeProvider :=
  fun reportData =>
    ((generateQuote prim system mock inner reportData).map fun quote => [quote]).mapError
      TeeProviderError.display

/-- `DcapZkVerifier::verify`. -/
def dcapVerify (allowFallback : Bool) (quote : AttestQuote) (reportData : Octets 64) :
    Except AttestError VerificationResult :=
  if quote.quoteType ≠ .ZkCompressed then
    if allowFallback then .error (.Malformed "Raw DCAP fallback not implemented")
    else .error (.Malformed "Expected ZkCompressed quote type")
  else do
    let receipt ← (system.deserialize quote.raw).mapError
      fun failure => .Malformed ("Failed to deserialize ZK receipt: " ++ failure)
    let output ← (verify system.words system.reason (system.verifyReceipt receipt) receipt.journal
      (transcriptPart reportData)).mapError fun _ => .SignatureInvalid
    if output.mode ≠ .DcapCompression ∨ output.dcapVerified = false then .error .SignatureInvalid
    else
      return .mk none
        { EatClaims.default with
          hwmodel := some "Intel SGX (ZK-Compressed)"
          hwversion := some "v3.0 (ZAA)"
          dbgstat := some 0
          securityVersion := some 3
          iat := some output.iat }
        "UpToDate" (some (hexEncode output.transcriptHash.bytes)) none []

end Program

section Runs

variable {Certificate Key Signature : Type} {prim : GuestPrimitives Certificate Key Signature}

theorem checkBinding_compressionInput {rawQuote : Bytes} {reportData : Octets 64} :
    checkBinding prim (compressionInput rawQuote reportData) = .ok () ↔
      reportData = prim.sha512 (handshakeMessage (transcriptPart reportData)) := by
  rw [checkBinding_iff]
  constructor
  · rintro ⟨bound, bounds, hash⟩
    cases bounds
    exact hash
  · intro hash
    exact ⟨.transcript (transcriptPart reportData), rfl, hash⟩

theorem verify_ok {words : WordCodec} {reason : Bytes → String} {proof : Except String Unit}
    {journal : Bytes} {expected : Octets 48} {output : ZkOutput}
    (verified : verify words reason proof journal expected = .ok output) :
    extractOutput words reason journal = .ok output ∧ output.transcriptHash = expected := by
  unfold verify at verified
  obtain ⟨⟨⟩, -, verified⟩ := bind_ok verified
  obtain ⟨read, extracted, verified⟩ := bind_ok verified
  split at verified
  · cases verified
  · split at verified
    · cases verified
    · next same =>
      cases verified
      exact ⟨extracted, not_not.mp same⟩

theorem dcapVerify_ok {system : ProofSystem} {allowFallback : Bool} {quote : AttestQuote}
    {reportData : Octets 64} {result : VerificationResult}
    (accepted : dcapVerify system allowFallback quote reportData = .ok result) :
    ∃ receipt output, system.deserialize quote.raw = .ok receipt ∧
      extractOutput system.words system.reason receipt.journal = .ok output ∧
      output.transcriptHash = transcriptPart reportData := by
  unfold dcapVerify at accepted
  split at accepted
  · split at accepted <;> cases accepted
  · obtain ⟨receipt, read, accepted⟩ := bind_ok accepted
    obtain ⟨output, verified, -⟩ := bind_ok accepted
    exact ⟨receipt, output, mapError_ok read, verify_ok (mapError_ok verified)⟩

/-- **Compressed quotes.** The report data that the server has for a transcript hash binds the input that
the provider builds exactly if the transcript hash is the first part of that report data, with no
collision between the two. What the guest commits is what the verifier compares the journal of a quote
with. -/
theorem compressed_binding_iff (prim : GuestPrimitives Certificate Key Signature) (mock : Bool)
    (rawQuote : Bytes) (transcriptHash : Octets 48)
    (free : prim.sha512 (handshakeMessage transcriptHash) =
        prim.sha512 (handshakeMessage
          (transcriptPart (serverReportData prim.sha512 transcriptHash))) →
      transcriptHash = transcriptPart (serverReportData prim.sha512 transcriptHash)) :
    (checkBinding prim (compressionInput rawQuote (serverReportData prim.sha512 transcriptHash)) =
        .ok () ↔
      transcriptHash = transcriptPart (serverReportData prim.sha512 transcriptHash)) ∧
    ∀ output, execute prim mock
        (compressionInput rawQuote (serverReportData prim.sha512 transcriptHash)) = .ok output →
      ∀ (system : ProofSystem) (allowFallback : Bool) (quote : AttestQuote)
        (result : VerificationResult),
      dcapVerify system allowFallback quote (serverReportData prim.sha512 transcriptHash) =
        .ok result →
      ∃ receipt read, system.deserialize quote.raw = .ok receipt ∧
        extractOutput system.words system.reason receipt.journal = .ok read ∧
        read.transcriptHash = output.transcriptHash := by
  constructor
  · rw [checkBinding_compressionInput]
    constructor
    · exact free
    · intro fixed
      rw [← fixed]
      rfl
  · intro output committed system allowFallback quote result accepted
    obtain ⟨-, -, written⟩ := execute_ok committed
    obtain ⟨receipt, read, deserialized, extracted, hash⟩ := dcapVerify_ok accepted
    refine ⟨receipt, read, deserialized, extracted, ?_⟩
    rw [hash, written]
    rfl

theorem prove_refused {system : ProofSystem} {mock : Bool} {input : ZkInput}
    (unbound : checkBinding prim input ≠ .ok ()) :
    ∃ failure, prove prim system mock input = .error (.Prover failure) := by
  unfold prove
  rw [main_written]
  cases executed : execute prim mock input with
  | error panic => exact ⟨_, rfl⟩
  | ok output => exact absurd (execute_ok executed).1 unbound

theorem compressedProvider_refused (system : ProofSystem) (mock : Bool)
    (inner : Octets 64 → Except TeeProviderError AttestQuote) {reportData : Octets 64}
    (unbound : reportData ≠ prim.sha512 (handshakeMessage (transcriptPart reportData))) :
    ∃ failure, compressedProvider prim system mock inner reportData = .error failure := by
  unfold compressedProvider generateQuote
  cases inner reportData with
  | error failure => exact ⟨_, rfl⟩
  | ok rawQuote =>
    obtain ⟨failure, unproved⟩ := @prove_refused _ _ _ prim system mock
      (compressionInput rawQuote.raw reportData)
      (fun bound => unbound (checkBinding_compressionInput.mp bound))
    simp only [bind, Except.bind, unproved]
    exact ⟨_, rfl⟩

theorem generateServerQuotes_refused {executor : AtHsExecutor} {teeProvider : Option TeeProvider}
    {reportData : Octets 64}
    (refused : ∀ provider ∈ teeProvider, ∃ failure, provider reportData = .error failure)
    (quotes : List AttestQuote) :
    executor.generateServerQuotes teeProvider reportData = .ok quotes ↔
      executor.strictAttestation = false ∧ quotes = [] := by
  unfold AtHsExecutor.generateServerQuotes
  cases teeProvider with
  | none => cases executor.strictAttestation <;> simp [eq_comm]
  | some provider =>
    obtain ⟨failure, failed⟩ := refused provider rfl
    simp only [failed]
    cases executor.strictAttestation <;> simp [eq_comm]

/-- **No evidence.** Whatever provider is wrapped and whatever proves the guest, a handshake with the
compressing provider is one without any provider, but for a transcript hash whose report data is such a
fixed point of the hash: a strict server fails, and any other goes on without evidence. -/
theorem compressed_executeServer (system : ProofSystem) (mock : Bool)
    (inner : Octets 64 → Except TeeProviderError AttestQuote) {Secret Decap Coins Signer : Type}
    (primitives : Primitives Secret Decap Coins Signer) (executor : AtHsExecutor) (clock : Clock)
    (req : AtHsRequest) (verifier : Option QuoteVerifier) (identityKey : Option Signer)
    (draws : ServerDraws Secret Decap Coins) (out : ServerOutcome) :
    serverReportData primitives.sha512 out.result.transcriptHash = prim.sha512 (handshakeMessage
        (transcriptPart (serverReportData primitives.sha512 out.result.transcriptHash))) ∨
      (executor.executeServer primitives clock req
          (some (compressedProvider prim system mock inner)) verifier identityKey draws =
            some (.ok out) ↔
        executor.strictAttestation = false ∧ out.result.serverQuotes = [] ∧
          executor.executeServer primitives clock req none verifier identityKey draws =
            some (.ok out)) := by
  refine or_iff_not_imp_left.mpr fun unbound => ?_
  have quoted := @generateServerQuotes_refused executor (some (compressedProvider prim system mock inner))
    (serverReportData primitives.sha512 out.result.transcriptHash) (by
      rintro _ ⟨⟩
      exact compressedProvider_refused system mock inner unbound)
  have bare := @generateServerQuotes_refused executor none
    (serverReportData primitives.sha512 out.result.transcriptHash) nofun
  rw [AtHsExecutor.executeServer_ok_iff, AtHsExecutor.executeServer_ok_iff]
  constructor
  · intro executed
    obtain ⟨strict, empty⟩ := (quoted _).mp executed.quoted
    exact ⟨strict, empty, { executed with quoted := (bare _).mpr ⟨strict, empty⟩ }⟩
  · rintro ⟨strict, empty, executed⟩
    exact { executed with quoted := (quoted _).mpr ⟨strict, empty⟩ }

end Runs

theorem length_backwards (message : Bytes) :
    ((message.reverse ++ List.replicate 64 0).take 64).length = 64 := by simp

def backwards (message : Bytes) : Octets 64 :=
  ⟨(message.reverse ++ List.replicate 64 0).take 64, length_backwards message⟩

def backwardsPrimitives : GuestPrimitives Unit Unit Unit := { Guest.plain with sha512 := backwards }

def skewTranscript : Octets 48 := ⟨1 :: List.replicate 47 0, rfl⟩

/-- A transcript hash that reads the same backwards is a fixed point of it. -/
theorem even_transcript_bound :
    checkBinding backwardsPrimitives (compressionInput []
      (serverReportData backwardsPrimitives.sha512 (.zero 48))) = .ok () :=
  (compressed_binding_iff backwardsPrimitives false [] (.zero 48) fun _ => by decide +kernel).1.mpr
    (by decide +kernel)

/-- The messages of handshakes have no collision under it, and the input for a transcript hash that reads
differently backwards is not bound. -/
theorem skew_transcript_unbound :
    (∀ left right : Octets 48, backwardsPrimitives.sha512 (handshakeMessage left) =
      backwardsPrimitives.sha512 (handshakeMessage right) → left = right) ∧
    checkBinding backwardsPrimitives (compressionInput []
      (serverReportData backwardsPrimitives.sha512 skewTranscript)) =
        .error (.assertion "Transcript hash mismatch in compressed quote") := by
  refine ⟨?_, by decide +kernel⟩
  intro left right same
  have heads : ∀ hash : Octets 48,
      (backwards (handshakeMessage hash)).bytes.take 48 = hash.bytes.reverse := by
    intro hash
    have length : hash.bytes.reverse.length = 48 := by rw [List.length_reverse, hash.length_eq]
    unfold backwards handshakeMessage
    rw [List.take_take, List.reverse_append, List.append_assoc, List.take_append_of_le_length]
    · exact List.take_of_length_le (by omega)
    · omega
  have parts := congrArg (fun hash : Octets 64 => hash.bytes.take 48) same
  change (backwards (handshakeMessage left)).bytes.take 48 =
    (backwards (handshakeMessage right)).bytes.take 48 at parts
  rw [heads left, heads right] at parts
  exact Octets.ext (List.reverse_injective parts)

end OpenHttpa.Zk
