import OpenHttpa.Lib.Bytes

/-!
# Protocol data types

The enumerations that are negotiated in a handshake, with the numbers and the names they have on
the wire, the quote a trusted execution environment produces, and the result of its
verification. Names are read back by the source's own match on the known names; only a quote
type and a quote format have a catch-all case, so these are the two that a text can be read as
something other than what it was written from.
-/
namespace OpenHttpa.Proto

def displayBool (value : Bool) : String := if value then "true" else "false"

theorem displayBool_injective : Function.Injective displayBool := by
  unfold Function.Injective
  decide

inductive ProtocolVersion where
  | V1
  | V2
deriving DecidableEq

namespace ProtocolVersion

/-- `ProtocolVersion::numeric_id` — the byte hashed into the transcript. -/
def numericId : ProtocolVersion → UInt8
  | V1 => 0x01
  | V2 => 0x02

def display : ProtocolVersion → String
  | V1 => "httpa/1"
  | V2 => "openhttpa"

def fromStr (text : String) : Option ProtocolVersion :=
  if text = "httpa/1" then some V1
  else if text = "openhttpa" then some V2
  else none

theorem numericId_injective {left right : ProtocolVersion}
    (same : left.numericId = right.numericId) : left = right := by
  cases left <;> cases right <;> simp_all [numericId]

@[simp]
theorem fromStr_display (version : ProtocolVersion) : fromStr version.display = some version := by
  cases version <;> decide

end ProtocolVersion

inductive CipherSuite where
  | X25519MlKem768Aes256GcmSha384
  | P384MlKem1024Aes256GcmSha384
  | X25519Aes256GcmSha384
  | P256Aes256GcmSha256
  | X25519ChaCha20Poly1305Sha256
deriving DecidableEq

namespace CipherSuite

def preferredList : List CipherSuite :=
  [X25519MlKem768Aes256GcmSha384, P384MlKem1024Aes256GcmSha384]

/-- `CipherSuite::numeric_id` — the two bytes hashed into the transcript. -/
def numericId : CipherSuite → UInt16
  | X25519MlKem768Aes256GcmSha384 => 0x0001
  | P384MlKem1024Aes256GcmSha384 => 0x0002
  | X25519Aes256GcmSha384 => 0x0101
  | P256Aes256GcmSha256 => 0x0102
  | X25519ChaCha20Poly1305Sha256 => 0x0103

def display : CipherSuite → String
  | X25519MlKem768Aes256GcmSha384 => "X25519_ML_KEM768_AES256GCM_SHA384"
  | P384MlKem1024Aes256GcmSha384 => "P384_ML_KEM1024_AES256GCM_SHA384"
  | X25519Aes256GcmSha384 => "X25519_AES256GCM_SHA384"
  | P256Aes256GcmSha256 => "P256_AES256GCM_SHA256"
  | X25519ChaCha20Poly1305Sha256 => "X25519_CHACHA20POLY1305_SHA256"

def isPostQuantum : CipherSuite → Bool
  | X25519MlKem768Aes256GcmSha384 | P384MlKem1024Aes256GcmSha384 => true
  | _ => false

/-- `FromStr` for `CipherSuite`; the deprecated suite is read only where the environment
variable `OPENHTTPA_ALLOW_DEPRECATED_CIPHERS` is `1`. -/
def fromStr (allowDeprecated : Bool) (text : String) : Option CipherSuite :=
  if text = "X25519_ML_KEM768_AES256GCM_SHA384" then some X25519MlKem768Aes256GcmSha384
  else if text = "P384_ML_KEM1024_AES256GCM_SHA384" then some P384MlKem1024Aes256GcmSha384
  else if text = "X25519_AES256GCM_SHA384" then some X25519Aes256GcmSha384
  else if text = "P256_AES256GCM_SHA256" then
    if allowDeprecated then some P256Aes256GcmSha256 else none
  else if text = "X25519_CHACHA20POLY1305_SHA256" then some X25519ChaCha20Poly1305Sha256
  else none

theorem numericId_injective {left right : CipherSuite}
    (same : left.numericId = right.numericId) : left = right := by
  cases left <;> cases right <;> simp_all [numericId]

theorem fromStr_display (allowDeprecated : Bool) {suite : CipherSuite}
    (current : suite ≠ P256Aes256GcmSha256) :
    fromStr allowDeprecated suite.display = some suite := by
  cases suite <;> first | exact absurd rfl current | (cases allowDeprecated <;> decide)

end CipherSuite

/-- `AAD_PREFIX`, the bytes of `openhttpa:`. -/
def aadPrefix : Bytes := utf8 "openhttpa:"

/-- The associated data of a session: the prefix and the text of its identifier. -/
def sessionAad (baseId : Bytes) : Bytes := aadPrefix ++ baseId

inductive QuoteType where
  | Sgx
  | Tdx
  | SevSnp
  | TrustZone
  | Tpm
  | NvidiaGpu
  | AwsNitro
  | ZkCompressed
  | Mock
  | Unknown (name : String)
deriving DecidableEq

namespace QuoteType

def display : QuoteType → String
  | Sgx => "sgx"
  | Tdx => "tdx"
  | SevSnp => "sev_snp"
  | TrustZone => "trustzone"
  | Tpm => "tpm"
  | NvidiaGpu => "nvidia_gpu"
  | AwsNitro => "aws_nitro"
  | ZkCompressed => "zk_compressed"
  | Mock => "mock"
  | Unknown name => name

/-- `Debug` for `QuoteType`, without the escapes of a text that needs them. -/
def debug : QuoteType → String
  | Sgx => "Sgx"
  | Tdx => "Tdx"
  | SevSnp => "SevSnp"
  | TrustZone => "TrustZone"
  | Tpm => "Tpm"
  | NvidiaGpu => "NvidiaGpu"
  | AwsNitro => "AwsNitro"
  | ZkCompressed => "ZkCompressed"
  | Mock => "Mock"
  | Unknown name => "Unknown(\"" ++ name ++ "\")"

/-- `FromStr` for `QuoteType`; it never fails. -/
def fromStr (text : String) : QuoteType :=
  if text = "sgx" then Sgx
  else if text = "tdx" then Tdx
  else if text = "sev_snp" then SevSnp
  else if text = "trustzone" then TrustZone
  else if text = "tpm" then Tpm
  else if text = "nvidia_gpu" then NvidiaGpu
  else if text = "aws_nitro" then AwsNitro
  else if text = "zk_compressed" then ZkCompressed
  else if text = "mock" then Mock
  else Unknown text

end QuoteType

inductive QuoteFormat where
  | Raw
  | Eat
  | SevSnpBundleV1
  | TdxBundleV1
  | Unknown (name : String)
deriving DecidableEq

namespace QuoteFormat

def display : QuoteFormat → String
  | Raw => "raw"
  | Eat => "eat"
  | SevSnpBundleV1 => "sev_snp_bundle_v1"
  | TdxBundleV1 => "tdx_bundle_v1"
  | Unknown name => name

/-- `FromStr` for `QuoteFormat`; it never fails. -/
def fromStr (text : String) : QuoteFormat :=
  if text = "raw" then Raw
  else if text = "eat" then Eat
  else if text = "sev_snp_bundle_v1" then SevSnpBundleV1
  else if text = "tdx_bundle_v1" then TdxBundleV1
  else Unknown text

end QuoteFormat

/-- `AtbId`, a version 4 UUID. -/
structure AtbId where
  uuid : BitVec 128
deriving DecidableEq

/-- The text forms of a UUID: the hyphenated one is written, and longer ones are read too. -/
structure IdCodec where
  /-- `Uuid`'s `Display`. -/
  print : AtbId → Bytes
  /-- `Uuid::parse_str`. -/
  parse : Bytes → Option AtbId
  print_length : ∀ id, (print id).length = 36
  parse_print : ∀ id, parse (print id) = some id
  parse_length : ∀ text id, parse text = some id → text.length ≤ 45

/-- Identifiers as their sixteen bytes, padded to the length of the hyphenated form. -/
def IdCodec.padded : IdCodec where
  print id := beBytes 16 id.uuid.toNat ++ List.replicate 20 0
  parse text := if text.length = 36 then some ⟨BitVec.ofNat 128 (ofBe (text.take 16))⟩ else none
  print_length id := by simp
  parse_print id := by
    have fits : id.uuid.toNat < 256 ^ 16 := id.uuid.isLt
    have front : (beBytes 16 id.uuid.toNat ++ List.replicate 20 0).take 16 =
        beBytes 16 id.uuid.toNat := List.take_left' (beBytes_length ..)
    rw [if_pos (by simp), front, ofBe_beBytes fits, BitVec.ofNat_toNat, BitVec.setWidth_eq]
  parse_length text id read := by
    by_cases long : text.length = 36
    · omega
    · simp [long] at read

@[ext]
structure AttestQuote where
  quoteType : QuoteType
  format : QuoteFormat
  raw : Bytes
  qudd : Bytes
  collateralUris : List String
deriving DecidableEq

structure AgentMetadata where
  id : BitVec 128
  name : String
  capabilities : List String
  endpoint : String
  publicKey : Bytes
  lastQuote : Option AttestQuote
  signature : Bytes
  prevHash : Option Bytes
deriving DecidableEq

structure ProvenanceChain where
  hops : List AgentMetadata
deriving DecidableEq

inductive TeeClass where
  | IntelSgx
  | IntelTdx
  | AmdSevSnp
  | ArmTrustZone
  | NvidiaGpu
  | AwsNitro
  | Tpm
  | Mock
  | Unknown
deriving DecidableEq

namespace TeeClass

def display : TeeClass → String
  | IntelSgx => "intel_sgx"
  | IntelTdx => "intel_tdx"
  | AmdSevSnp => "amd_sev_snp"
  | ArmTrustZone => "arm_trustzone"
  | NvidiaGpu => "nvidia_gpu"
  | AwsNitro => "aws_nitro"
  | Tpm => "tpm"
  | Mock => "mock"
  | Unknown => "unknown"

/-- `From<&QuoteType>` for `TeeClass`. -/
def ofQuoteType : QuoteType → TeeClass
  | .Sgx => IntelSgx
  | .Tdx => IntelTdx
  | .SevSnp => AmdSevSnp
  | .TrustZone => ArmTrustZone
  | .NvidiaGpu => NvidiaGpu
  | .AwsNitro => AwsNitro
  | .Tpm => Tpm
  | .Mock => Mock
  | .ZkCompressed => Unknown
  | .Unknown _ => Unknown

end TeeClass

/-- `EatClaims`; times are in seconds. -/
structure EatClaims where
  ueid : Option Bytes
  hwmodel : Option String
  hwversion : Option String
  oemid : Option String
  dbgstat : Option UInt8
  bootProgress : Option String
  securityVersion : Option UInt16
  iat : Option UInt64
  exp : Option UInt64
  teeClass : Option TeeClass
deriving DecidableEq

def EatClaims.default : EatClaims :=
  ⟨none, none, none, none, none, none, none, none, none, none⟩

/-- What is verified of a quote and those bundled with it. -/
inductive VerificationResult where
  | mk (eatToken : Option Bytes) (claims : EatClaims) (tcbStatus : String)
      (measurement signerId : Option String) (secondary : List VerificationResult)

namespace VerificationResult

def default : VerificationResult := mk none .default "" none none []

def claims : VerificationResult → EatClaims
  | mk _ claims _ _ _ _ => claims

def tcbStatus : VerificationResult → String
  | mk _ _ tcbStatus _ _ _ => tcbStatus

def measurement : VerificationResult → Option String
  | mk _ _ _ measurement _ _ => measurement

def secondary : VerificationResult → List VerificationResult
  | mk _ _ _ _ _ secondary => secondary

/-- `result.claims.tee_class = Some(class)`. -/
def withTeeClass (result : VerificationResult) (teeClass : TeeClass) : VerificationResult :=
  match result with
  | mk eatToken claims tcbStatus measurement signerId secondary =>
    mk eatToken { claims with teeClass := some teeClass } tcbStatus measurement signerId secondary

/-- `primary.secondary = results`. -/
def withSecondary (primary : VerificationResult) (results : List VerificationResult) :
    VerificationResult :=
  match primary with
  | mk eatToken claims tcbStatus measurement signerId _ =>
    mk eatToken claims tcbStatus measurement signerId results

/-- `primary.secondary.push(result)`. -/
def push : VerificationResult → VerificationResult → VerificationResult
  | mk eatToken claims tcbStatus measurement signerId secondary, result =>
    mk eatToken claims tcbStatus measurement signerId (secondary ++ [result])

/-- `VerificationResult::reject_debug_builds`, with the text of its error. -/
def rejectDebugBuilds (result : VerificationResult) (allowDebug : Bool) : Except String Unit :=
  if result.claims.dbgstat.getD 0 ≠ 0 ∧ allowDebug = false then
    .error "policy violation: debug-mode enclave quotes are not accepted in production"
  else
    .ok ()

end VerificationResult

end OpenHttpa.Proto
