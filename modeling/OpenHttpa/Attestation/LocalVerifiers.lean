import OpenHttpa.Attestation.Bundles
import OpenHttpa.Fabric.Replication

/-!
# The local verifiers

The verifiers that look at the evidence themselves: `snp_verifier.rs` with `azure_hcl.rs`,
`tpm_verifier.rs` with `collateral_fetcher.rs`, `nvidia_verifier.rs` and `mock_verifier.rs`. A verifier
is to accept a quote for the report data it was made for and for no other, and all but one compare
something in the quote with it. The TPM verifier checks a signature over it, but goes on when the check
fails. So it accepts a quote for any report data as soon as a certificate can be fetched
(`no_quote_for_two_iff`).
-/
namespace OpenHttpa.Attestation

open Proto

def ensure (condition : Prop) [Decidable condition] (failure : AttestError) :
    Except AttestError Unit :=
  if condition then .ok () else .error failure

theorem ensure_ok {condition : Prop} [Decidable condition] {failure : AttestError} {done : Unit}
    (passed : ensure condition failure = .ok done) : condition := by
  unfold ensure at passed
  split at passed
  · assumption
  · cases passed

/-! ## Fetching collateral -/

/-- `FetchError`; a timeout is reported as a network error by the client. -/
inductive FetchError where
  | Network (message : String)
  | UnauthorizedUri (message : String)
  | TooLarge (size : Nat)
  | Status (code : String)

def FetchError.display : FetchError → String
  | Network message => "network error: " ++ message
  | UnauthorizedUri message => "SSRF protection: unauthorized URI: " ++ message
  | TooLarge size => "artifact too large: " ++ toString size ++ " bytes"
  | Status code => "unexpected status code: " ++ code

structure Url where
  scheme : String
  host : Option String

structure Response where
  status : Nat
  contentLength : Option UInt64
  chunks : List (Except String Bytes)

structure Web where
  parse : String → Option Url
  /-- Sending a GET request, with the text of its error. -/
  get : String → Except String Response
  statusDisplay : Nat → String

/-- The features and the profile of a build. -/
structure Build where
  amdSnp : Bool
  mock : Bool
  debugAssertions : Bool
  test : Bool

namespace CollateralFetcher

def maxCollateralSize : Nat := 1024 * 1024

/-- The domains of `CollateralFetcher::new`. -/
def allowedDomains (build : Build) : List String :=
  [".trustauthority.intel.com", ".kdsintpk.amd.com", ".nras.nvidia.com"] ++
    if build.test || build.mock then ["127.0.0.1"] else []

def isAllowed (build : Build) (host : String) : Bool :=
  (allowedDomains build).any fun domain =>
    host.toList = domain.toList.dropWhile (· = '.') || domain.toList.isSuffixOf host.toList

def accumulate (body : Bytes) : List (Except String Bytes) → Except FetchError Bytes
  | [] => .ok body
  | .error message :: _ => .error (.Network message)
  | .ok chunk :: rest =>
    if body.length + chunk.length > maxCollateralSize then
      .error (.TooLarge (body.length + chunk.length))
    else accumulate (body ++ chunk) rest

def fetch (build : Build) (web : Web) (uri : String) : Except FetchError Bytes :=
  match web.parse uri with
  | none => .error (.UnauthorizedUri uri)
  | some url =>
    if url.scheme ≠ "https" ∧ url.host ≠ some "127.0.0.1" then
      .error (.UnauthorizedUri "only HTTPS URIs are allowed")
    else
      match url.host.filter fun host => !isAllowed build host with
      | some host => .error (.UnauthorizedUri ("domain " ++ host ++ " is not in allowlist"))
      | none =>
        match web.get uri with
        | .error message => .error (.Network message)
        | .ok response =>
          if response.status ≠ 200 then .error (.Status (web.statusDisplay response.status))
          else
            match response.contentLength.filter fun length => maxCollateralSize < length.toNat with
            | some length => .error (.TooLarge length.toNat)
            | none => accumulate [] response.chunks

end CollateralFetcher

/-! ## What the verifiers are built on -/

inductive SevSnpCertificateType where
  | Ark
  | Ask
  | Vcek
  | Vlek
  | Crl
  | Other (name : String)

/-- `sev::firmware::host::CertType`, as far as it is used. -/
inductive CertType where
  | ARK
  | ASK
  | VCEK
  | VLEK

def SevSnpCertificateType.certType : SevSnpCertificateType → Option CertType
  | Ark => some .ARK
  | Ask => some .ASK
  | Vcek => some .VCEK
  | Vlek => some .VLEK
  | Crl => none
  | Other _ => none

structure SevSnpQuoteBundleV1 where
  report : Bytes
  certificateTable : List (SevSnpCertificateType × Bytes)
  /-- The claims of the paravisor that the report covers in the place of the report data. -/
  hclRuntimeData : Option Bytes

/-- The fields of an `AttestationReport` that are read. -/
structure AttestationReport where
  reportData : Octets 64
  measurement : Octets 48
  debugAllowed : Bool
  microcode : UInt8

structure AmdCertificate where
  toDer : Except String Bytes

structure AmdChain where
  ark : AmdCertificate
  /-- `(&chain, &report).verify()`: the chain, and the signature of the report under it. -/
  verifies : AttestationReport → Bool

/-- The hashes, signatures and parsers the verifiers use; errors are shown as their texts. -/
structure VerifierPrimitives where
  sha256 : Bytes → Octets 32
  sha384 : Bytes → Octets 48
  /-- `UnparsedPublicKey::verify` for ECDSA P-256, of a message and a signature. -/
  ecdsaP256 : Bytes → Bytes → Bytes → Bool
  /-- `serde_json::from_slice` for the bundle. -/
  parseBundle : Bytes → Except String SevSnpQuoteBundleV1
  /-- `AttestationReport::from_bytes`. -/
  parseReport : Bytes → Except String AttestationReport
  /-- `Chain::from_cert_table_der`. -/
  buildChain : List (CertType × Bytes) → Except String AmdChain
  /-- The roots for Milan, Genoa and Turin in the `sev` crate, in DER. -/
  builtinArks : List (Except String Bytes)
  fromPem : Bytes → Except String AmdCertificate
  fromDer : Bytes → Except String AmdCertificate
  /-- The claims of the paravisor: the text of `user-data`, if it has one. -/
  hclUserData : Bytes → Except String (Option String)

/-- What a verifier reads beside the quote. -/
structure World where
  web : Web
  readFile : String → Except String Bytes
  now : UInt64

/-! ## AMD SEV-SNP -/

variable (prim : VerifierPrimitives)

def verifyAzureHclBinding (embedded : Octets 64) (runtimeData : Bytes)
    (expected : Octets 64) : Except AttestError Unit := do
  ensure ((prim.sha256 runtimeData).bytes = embedded.bytes.take 32)
    (.PolicyViolation "Azure HCL runtime data does not match hardware report_data")
  let claims ← (prim.hclUserData runtimeData).mapError fun error =>
    .MalformedQuote ("invalid HCL runtime data: " ++ error)
  match claims with
  | none => .error (.PolicyViolation "Azure HCL runtime data is missing user-data")
  | some userData =>
    ensure (eqIgnoreAsciiCase userData (hexEncode expected.bytes) = true)
      (.PolicyViolation "Azure HCL user-data does not match the expected report_data")

inductive AmdCaSource where
  | Builtin
  | Static (derOrPem : Bytes)
  | File (path : String)
  | FetchFromKDS

structure SevSnpVerifier where
  minSvn : Option UInt16
  expectedMeasurement : Option (Octets 48)
  allowDebug : Bool
  caSource : AmdCaSource

def parseAmdCertificate (derOrPem : Bytes) : Except AttestError AmdCertificate :=
  let parsed :=
    if utf8 "-----BEGIN CERTIFICATE-----" <+: derOrPem then prim.fromPem derOrPem
    else prim.fromDer derOrPem
  parsed.mapError fun error => .PolicyViolation ("invalid pinned AMD ARK: " ++ error)

namespace SevSnpVerifier

variable (prim : VerifierPrimitives) (world : World) (verifier : SevSnpVerifier)

def pinnedArk (derOrPem : Bytes) : Except AttestError (List Bytes) := do
  let certificate ← parseAmdCertificate prim derOrPem
  let der ← certificate.toDer.mapError .PolicyViolation
  return [der]

def trustedArkDer : Except AttestError (List Bytes) :=
  match verifier.caSource with
  | .Builtin => prim.builtinArks.mapM fun certificate =>
      certificate.mapError fun error => .PolicyViolation ("invalid bundled AMD ARK: " ++ error)
  | .Static derOrPem => pinnedArk prim derOrPem
  | .File path => do
    let bytes ← (world.readFile path).mapError fun error =>
      .PolicyViolation ("cannot read pinned AMD ARK: " ++ error)
    pinnedArk prim bytes
  | .FetchFromKDS => .error (.PolicyViolation ("fetching an AMD root certificate at verification " ++
      "time is not a trust anchor; configure a pinned ARK"))

def checkExpectedMeasurement (report : AttestationReport) : Except AttestError Unit :=
  match verifier.expectedMeasurement with
  | none => .error (.PolicyViolation "expected SNP launch measurement must be configured")
  | some expected => ensure (report.measurement = expected)
      (.PolicyViolation "SNP launch measurement does not match the pinned value")

def checkReportData (bundle : SevSnpQuoteBundleV1) (report : AttestationReport)
    (reportData : Octets 64) : Except AttestError Unit :=
  match bundle.hclRuntimeData with
  | some runtimeData => verifyAzureHclBinding prim report.reportData runtimeData reportData
  | none => ensure (report.reportData = reportData) (.PolicyViolation
      "SNP report_data mismatch: the embedded nonce does not match the expected value")

/-- The chain of the bundle ends at a trusted root and the report is signed under it. -/
def checkChain (bundle : SevSnpQuoteBundleV1) (report : AttestationReport) :
    Except AttestError Unit := do
  let entries := bundle.certificateTable.filterMap fun (type, der) =>
    type.certType.map fun certType => (certType, der)
  let chain ← (prim.buildChain entries).mapError fun error =>
    .MalformedQuote ("invalid AMD certificate table: " ++ error)
  let reportArk ← chain.ark.toDer.mapError .MalformedQuote
  let trustedArks ← verifier.trustedArkDer prim world
  ensure (trustedArks.any fun trustedArk => trustedArk == reportArk) (.PolicyViolation
    "SEV-SNP certificate chain does not terminate at a trusted AMD ARK")
  ensure (chain.verifies report = true) .SignatureInvalid

def checkSvn (svn : UInt16) : Except AttestError Unit :=
  match verifier.minSvn with
  | none => .error (.PolicyViolation "minimum SNP microcode SVN must be configured")
  | some minSvn => ensure (minSvn ≤ svn) (.PolicyViolation ("SNP reported_tcb.microcode SVN " ++
      toString svn ++ " is below minimum " ++ toString minSvn))

def resultOf (report : AttestationReport) : VerificationResult :=
  let svn := report.microcode.toUInt16
  let measurementHex := hexEncode report.measurement.bytes
  .mk none
    { EatClaims.default with
      teeClass := some .AmdSevSnp
      hwmodel := some "AMD SEV-SNP"
      oemid := some "AMD"
      bootProgress := some measurementHex
      securityVersion := some svn
      dbgstat := some (if report.debugAllowed then 1 else 0) }
    ("SVN=" ++ toString svn) (some measurementHex) none []

def verifySnpReport (quote : AttestQuote) (reportData : Octets 64) :
    Except AttestError VerificationResult := do
  ensure (quote.qudd = reportData.bytes) (.PolicyViolation "SEV-SNP quote QUDD mismatch")
  ensure (quote.format = .SevSnpBundleV1 ∧ quote.collateralUris = []) (.MalformedQuote
    "SEV-SNP quotes must use the certificate-bearing sev_snp_bundle_v1 format")
  let bundle ← (prim.parseBundle quote.raw).mapError fun error =>
    .MalformedQuote ("invalid SNP bundle: " ++ error)
  ensure (bundle.certificateTable ≠ [])
    (.MalformedQuote "SEV-SNP bundle is missing its certificate table")
  ensure (bundle.report.length = 1184) (.MalformedQuote ("SNP report has invalid length: " ++
    toString bundle.report.length ++ " bytes (expected 1184)"))
  let report ← (prim.parseReport bundle.report).mapError fun error =>
    .MalformedQuote ("invalid SNP report: " ++ error)
  checkReportData prim bundle report reportData
  verifier.checkExpectedMeasurement report
  ensure (report.debugAllowed = false ∨ verifier.allowDebug = true) (.PolicyViolation
    "SNP report: debug-mode reports are not accepted in production")
  verifier.checkChain prim world bundle report
  verifier.checkSvn report.microcode.toUInt16
  return resultOf report

def verify (build : Build) : Verify := fun quote reportData =>
  if quote.quoteType ≠ .SevSnp then
    .error (.PolicyViolation ("SevSnpVerifier: unexpected quote type '" ++ quote.quoteType.debug ++
      "'; expected SevSnp"))
  else if build.amdSnp then verifier.verifySnpReport prim world quote reportData
  else .error (.PolicyViolation ("SevSnpVerifier: the 'amd_snp' feature is not enabled in this " ++
    "build. Recompile with --features amd_snp to enable AMD SEV-SNP verification."))

end SevSnpVerifier

/-! ## TPM, NVIDIA and mock quotes -/

def tpmVerify (build : Build) (world : World) : Verify :=
  fun quote reportData =>
    if quote.quoteType ≠ .Tpm then
      .error (.PolicyViolation "TpmVerifier only accepts Tpm quotes")
    else
      match quote.collateralUris with
      | [] => .error (.MalformedQuote "missing AIK certificate URI")
      | uri :: _ =>
        match CollateralFetcher.fetch build world.web uri with
        | .error failure =>
          .error (.NetworkError ("failed to fetch AIK collateral: " ++ failure.display))
        | .ok aikCert =>
          -- The outcome of the check is logged and nothing else.
          let _verified := prim.ecdsaP256 aikCert reportData.bytes quote.raw
          .ok (.mk none { EatClaims.default with teeClass := some .Tpm } "UpToDate" none none [])

def nvidiaGpuVerify (build : Build) : Verify := fun quote reportData =>
  if quote.quoteType ≠ .NvidiaGpu then .error (.MalformedQuote "not an nvidia_gpu quote")
  else if quote.qudd ≠ reportData.bytes then .error (.PolicyViolation "QUDD mismatch")
  else if utf8 "NVIDIA-HOPPER-ATTESTATION-REPORT-SIM" <+: quote.raw then
    if build.mock && build.debugAssertions then
      .ok (.mk none
        { EatClaims.default with
          hwmodel := some "NVIDIA H100"
          hwversion := some "hopper_v1"
          oemid := some "NVIDIA"
          dbgstat := some 0
          bootProgress := some "simulated_gpu_measurement" }
        "UpToDate" (some "simulated_gpu_measurement") (some "nvidia_mock_signer") [])
    else .error .SignatureInvalid
  else .error .SignatureInvalid

def mockModel : QuoteType → String × String × TeeClass
  | .Tdx => ("Intel TDX", "v1.0", .IntelTdx)
  | .SevSnp => ("AMD SEV-SNP", "v2.0", .AmdSevSnp)
  | .Tpm => ("TPM 2.0", "v1.0", .Tpm)
  | .NvidiaGpu => ("NVIDIA H100", "v1.0", .NvidiaGpu)
  | _ => ("Mock TEE", "v0.0", .Mock)

/-- `MockVerifier::verify`, with `verify_mock_quote`. -/
def mockVerify (build : Build) (world : World)
    (configured : Option VerificationResult) : Verify := fun quote reportData =>
  if build.debugAssertions || build.test then
    if quote.raw ≠ (prim.sha384 reportData.bytes).bytes then .error .SignatureInvalid
    else
      match configured with
      | some result => .ok result
      | none =>
        let (model, version, teeClass) := mockModel quote.quoteType
        .ok (.mk none
          { EatClaims.default with
            hwmodel := some model
            hwversion := some version
            dbgstat := some 1
            bootProgress := some "mock-measurement"
            securityVersion := some 1
            teeClass := some teeClass
            iat := some world.now }
          "UpToDate" (some "mock-measurement") (some "mock-signer") [])
  else .error (.PolicyViolation "MockVerifier is forbidden in release builds")

inductive LocalVerifier where
  | sevSnp (verifier : SevSnpVerifier)
  | tpm
  | nvidiaGpu
  | mock (configured : Option VerificationResult)

/-- The `verify` of each. -/
def LocalVerifier.verify (prim : VerifierPrimitives) (build : Build) (world : World) :
    LocalVerifier → Verify
  | sevSnp verifier => verifier.verify prim world build
  | tpm => tpmVerify prim build world
  | nvidiaGpu => nvidiaGpuVerify build
  | mock configured => mockVerify prim build world configured

/-! ## What an accepted quote is bound to -/

/-- The verifier returns a result. -/
def Verify.Accepts (verify : Verify) (quote : AttestQuote) (reportData : Octets 64) : Prop :=
  (verify quote reportData).isOk = true

instance (verify : Verify) (quote : AttestQuote) (reportData : Octets 64) :
    Decidable (verify.Accepts quote reportData) := inferInstanceAs (Decidable (_ = true))

theorem Verify.accepts_iff {verify : Verify} {quote : AttestQuote} {reportData : Octets 64} :
    verify.Accepts quote reportData ↔ ∃ result, verify quote reportData = .ok result := by
  unfold Accepts
  cases verify quote reportData with
  | error | ok => simp [Except.isOk, Except.toBool]

variable {prim} {build : Build} {world : World} {quote : AttestQuote}
  {reportData : Octets 64}

namespace SevSnpVerifier

variable {verifier : SevSnpVerifier}

/-- What an accepted AMD quote has passed, as far as it ties the quote to the report data. -/
structure Bound (prim : VerifierPrimitives) (quote : AttestQuote) (reportData : Octets 64) : Prop where
  qudd : quote.qudd = reportData.bytes
  evidence : ∃ bundle report, prim.parseBundle quote.raw = .ok bundle ∧
    prim.parseReport bundle.report = .ok report ∧
      checkReportData prim bundle report reportData = .ok ()

theorem bound_of_accepts (accepted : (verifier.verify prim world build).Accepts quote reportData) :
    Bound prim quote reportData := by
  obtain ⟨result, returned⟩ := Verify.accepts_iff.mp accepted
  unfold verify at returned
  split at returned
  · cases returned
  · split at returned
    · obtain ⟨_, qudd, rest⟩ := Core.bind_ok returned
      obtain ⟨_, -, rest⟩ := Core.bind_ok rest
      obtain ⟨bundle, parsed, rest⟩ := Core.bind_ok rest
      obtain ⟨_, -, rest⟩ := Core.bind_ok rest
      obtain ⟨_, -, rest⟩ := Core.bind_ok rest
      obtain ⟨report, read, rest⟩ := Core.bind_ok rest
      obtain ⟨⟨⟩, covered, -⟩ := Core.bind_ok rest
      exact ⟨ensure_ok qudd, bundle, report, Core.mapError_ok parsed, Core.mapError_ok read, covered⟩
    · cases returned

end SevSnpVerifier

theorem qudd_of_nvidiaGpu_accepts (accepted : (nvidiaGpuVerify build).Accepts quote reportData) :
    quote.qudd = reportData.bytes := by
  obtain ⟨result, returned⟩ := Verify.accepts_iff.mp accepted
  unfold nvidiaGpuVerify at returned
  split at returned
  · cases returned
  · split at returned
    · cases returned
    · rename_i same
      exact not_not.mp same

theorem raw_of_mock_accepts {configured : Option VerificationResult}
    (accepted : (mockVerify prim build world configured).Accepts quote reportData) :
    quote.raw = (prim.sha384 reportData.bytes).bytes := by
  obtain ⟨result, returned⟩ := Verify.accepts_iff.mp accepted
  unfold mockVerify at returned
  split at returned
  · split at returned
    · cases returned
    · rename_i same
      exact not_not.mp same
  · cases returned

/-- The first collateral URI answers. -/
def Fetchable (build : Build) (web : Web) (quote : AttestQuote) : Prop :=
  ∃ uri, quote.collateralUris.head? = some uri ∧ (CollateralFetcher.fetch build web uri).isOk = true

theorem tpm_accepts_iff : (tpmVerify prim build world).Accepts quote reportData ↔
    quote.quoteType = .Tpm ∧ Fetchable build world.web quote := by
  unfold Verify.Accepts tpmVerify Fetchable
  by_cases type : quote.quoteType = .Tpm
  · rw [if_neg (not_not.mpr type)]
    cases quote.collateralUris with
    | nil => simp [Except.isOk, Except.toBool]
    | cons uri rest =>
      cases fetched : CollateralFetcher.fetch build world.web uri with
      | error failure => simp [fetched, Except.isOk, Except.toBool]
      | ok body => simp [type, fetched, Except.isOk, Except.toBool]
  · simp [type, Except.isOk, Except.toBool]

/-- **Binding.** For every local verifier in every build, every quote and every two different report
data between whose hashes there is no collision: the verifier does not accept the quote for one and,
whatever the network, the files and the clock are then, for the other, exactly if it is not the TPM
verifier with a TPM quote for which a certificate can be fetched both times. -/
theorem no_quote_for_two_iff (prim : VerifierPrimitives) (build : Build) (verifier : LocalVerifier)
    (quote : AttestQuote) (before after : World) {left right : Octets 64} (apart : left ≠ right)
    (collisionFree : prim.sha384 left.bytes = prim.sha384 right.bytes → left = right) :
    ¬ ((verifier.verify prim build before).Accepts quote left ∧
        (verifier.verify prim build after).Accepts quote right) ↔
      ¬ (verifier = .tpm ∧ quote.quoteType = .Tpm ∧ Fetchable build before.web quote ∧
        Fetchable build after.web quote) := by
  have byQudd : quote.qudd = left.bytes → quote.qudd = right.bytes → False := by
    intro one other
    exact apart (Octets.ext (one.symm.trans other))
  cases verifier with
  | sevSnp verifier =>
    refine iff_of_true ?_ (by simp)
    rintro ⟨one, other⟩
    exact byQudd (SevSnpVerifier.bound_of_accepts one).qudd (SevSnpVerifier.bound_of_accepts other).qudd
  | nvidiaGpu =>
    refine iff_of_true ?_ (by simp)
    rintro ⟨one, other⟩
    exact byQudd (qudd_of_nvidiaGpu_accepts one) (qudd_of_nvidiaGpu_accepts other)
  | mock configured =>
    refine iff_of_true ?_ (by simp)
    rintro ⟨one, other⟩
    have hashes := (raw_of_mock_accepts one).symm.trans (raw_of_mock_accepts other)
    exact apart (collisionFree (Octets.ext hashes))
  | tpm =>
    refine not_congr ?_
    simp only [LocalVerifier.verify, tpm_accepts_iff]
    constructor
    · rintro ⟨⟨type, first⟩, -, second⟩
      exact ⟨trivial, type, first, second⟩
    · rintro ⟨-, type, first, second⟩
      exact ⟨⟨type, first⟩, type, second⟩

def Build.development : Build := ⟨false, true, true, false⟩

def VerifierPrimitives.refusing : VerifierPrimitives where
  sha256 _ := .zero 32
  sha384 := Fabric.firstBytes
  ecdsaP256 _ _ _ := false
  parseBundle _ := .error "no bundle"
  parseReport _ := .error "no report"
  buildChain _ := .error "no chain"
  builtinArks := []
  fromPem _ := .error "no certificate"
  fromDer _ := .error "no certificate"
  hclUserData _ := .error "no claims"

def World.answering : World where
  web :=
    { parse := fun _ => some ⟨"https", some "aik.nras.nvidia.com"⟩
      get := fun _ => .ok ⟨200, some 4, [.ok [1, 2, 3, 4]]⟩
      statusDisplay := fun status => toString status }
  readFile _ := .error "no such file"
  now := 0

def simulatedGpuQuote : AttestQuote :=
  ⟨.NvidiaGpu, .Raw, utf8 "NVIDIA-HOPPER-ATTESTATION-REPORT-SIM-001", List.replicate 64 0, []⟩

/-- The simulated quote is accepted for the report data it was made for, and then for no other. -/
theorem simulated_gpu_quote_bound :
    (LocalVerifier.nvidiaGpu.verify .refusing .development .answering).Accepts simulatedGpuQuote
        (.zero 64) ∧
      ¬ ((LocalVerifier.nvidiaGpu.verify .refusing .development .answering).Accepts simulatedGpuQuote
          (.zero 64) ∧
        (LocalVerifier.nvidiaGpu.verify .refusing .development .answering).Accepts simulatedGpuQuote
          (.repeated 64 1)) :=
  ⟨by decide +kernel,
    (no_quote_for_two_iff .refusing .development .nvidiaGpu simulatedGpuQuote .answering .answering
      (by decide +kernel) (by decide +kernel)).mpr (by simp)⟩

def unsignedTpmQuote : AttestQuote :=
  ⟨.Tpm, .Raw, [0], [], ["https://aik.nras.nvidia.com/aik.der"]⟩

/-- The TPM verifier accepts it for two different report data in a release build. -/
theorem unsigned_tpm_quote_accepted :
    (LocalVerifier.tpm.verify .refusing ⟨true, false, false, false⟩ .answering).Accepts
        unsignedTpmQuote (.zero 64) ∧
      (LocalVerifier.tpm.verify .refusing ⟨true, false, false, false⟩ .answering).Accepts
        unsignedTpmQuote (.repeated 64 1) := by
  decide +kernel

/-! ## Evidence alone -/

theorem toLower_hexDigit : ∀ value < 16, (hexDigit value).toLower = hexDigit value := by decide

theorem map_toLower_hexEncode (bytes : Bytes) :
    (hexEncode bytes).toList.map Char.toLower = (hexEncode bytes).toList := by
  rw [hexEncode, String.toList_ofList]
  induction bytes with
  | nil => rfl
  | cons byte bytes ih =>
    have bound := byte.toNat_lt
    have high := toLower_hexDigit (byte.toNat / 16) (by omega)
    have low := toLower_hexDigit (byte.toNat % 16) (by omega)
    simp only [List.flatMap_cons, List.cons_append, List.nil_append, List.map_cons, high, low, ih]

theorem eq_of_eqIgnoreAsciiCase_hexEncode {text : String} {left right : Bytes}
    (first : eqIgnoreAsciiCase text (hexEncode left) = true)
    (second : eqIgnoreAsciiCase text (hexEncode right) = true) : left = right := by
  unfold eqIgnoreAsciiCase at first second
  rw [decide_eq_true_eq, map_toLower_hexEncode] at first second
  have texts : hexEncode left = hexEncode right :=
    String.toList_injective (first.symm.trans second)
  have decoded := congrArg hexDecode texts
  rw [hexDecode_hexEncode, hexDecode_hexEncode] at decoded
  exact Option.some.inj decoded

theorem verifyAzureHclBinding_unique {embedded left right : Octets 64} {runtimeData : Bytes}
    (first : verifyAzureHclBinding prim embedded runtimeData left = .ok ())
    (second : verifyAzureHclBinding prim embedded runtimeData right = .ok ()) : left = right := by
  have userData : ∀ expected, verifyAzureHclBinding prim embedded runtimeData expected = .ok () →
      ∃ text, prim.hclUserData runtimeData = .ok (some text) ∧
        eqIgnoreAsciiCase text (hexEncode expected.bytes) = true := by
    intro expected verified
    obtain ⟨_, -, rest⟩ := Core.bind_ok verified
    obtain ⟨claims, parsed, rest⟩ := Core.bind_ok rest
    cases claims with
    | none => cases rest
    | some text => exact ⟨text, Core.mapError_ok parsed, ensure_ok rest⟩
  obtain ⟨text, parsed, matched⟩ := userData left first
  obtain ⟨again, parsedAgain, matchedAgain⟩ := userData right second
  rw [parsed] at parsedAgain
  cases parsedAgain
  exact Octets.ext (eq_of_eqIgnoreAsciiCase_hexEncode matched matchedAgain)

/-- **Evidence for one handshake.** At any time, with any collateral and whatever the unsigned part of
the quote says, the AMD verifier accepts a piece of evidence for one report data at most. -/
theorem sevSnp_evidence_binds (verifier : SevSnpVerifier) (raw : Bytes) :
    {reportData | ∃ world quote, quote.raw = raw ∧
      (verifier.verify prim world build).Accepts quote reportData}.Subsingleton := by
  rintro left ⟨before, first, rfl, one⟩ right ⟨after, second, same, other⟩
  obtain ⟨bundle, report, parsed, read, covered⟩ := (SevSnpVerifier.bound_of_accepts one).evidence
  obtain ⟨bundle', report', parsed', read', covered'⟩ :=
    (SevSnpVerifier.bound_of_accepts other).evidence
  rw [same, parsed] at parsed'
  cases parsed'
  rw [read] at read'
  cases read'
  unfold SevSnpVerifier.checkReportData at covered covered'
  cases hcl : bundle.hclRuntimeData with
  | some runtimeData =>
    rw [hcl] at covered covered'
    exact verifyAzureHclBinding_unique covered covered'
  | none =>
    rw [hcl] at covered covered'
    exact (ensure_ok covered).symm.trans (ensure_ok covered')

end OpenHttpa.Attestation
