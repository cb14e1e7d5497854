import OpenHttpa.Core.Handshake
import OpenHttpa.Lib.Verdict

/-!
# The guest program

`openhttpa-zk/methods/guest/src/main.rs`. The guest reads its input, checks that the report data
binds what the mode says, hashes the oracle data, in one mode verifies the quote, and commits a
journal; where it panics nothing is committed. The certificates and signatures are parameters. The
TCB check takes the 384 bytes of the enclave report and reads the two bytes behind them, so it
panics on every quote (`verifyTcbStatus_panics`).
-/
namespace OpenHttpa.Zk

open OpenHttpa.Core Positional

/-- `ZkMode`, as guest and host declare it. -/
inductive ZkMode where
  | Handshake
  | VerifiedAi
  | Oracle
  | DcapCompression
deriving DecidableEq

structure VaiInput where
  modelId : Octets 32
  inputHash : Octets 32
  outputHash : Octets 32

/-- `VaiOutput`, as guest and host declare it. -/
structure VaiOutput where
  modelId : Octets 32
  inputHash : Octets 32
  outputHash : Octets 32
  verifiedAtSecs : UInt64
deriving DecidableEq

structure DcapCollateral where
  pckCert : Bytes
  intermediateCa : Bytes
  rootCa : Bytes
  tcbInfo : Bytes
  qeIdentity : Bytes

structure ZkInput where
  mode : ZkMode
  transcriptHash : Octets 48
  quoteBytes : Bytes
  reportData : Octets 64
  oracleData : Option Bytes
  vaiData : Option VaiInput
  dcapCollateral : Option DcapCollateral

/-! ## In postcard -/

def zkMode : Positional ZkMode :=
  enumeration [.Handshake, .VerifiedAi, .Oracle, .DcapCompression] (by decide)
    (by intro mode; cases mode <;> decide)

def vaiInput : Positional VaiInput :=
  ((block 32).pair ((block 32).pair (block 32))).renamed {
    toFun vai := (vai.modelId, vai.inputHash, vai.outputHash)
    invFun := fun (modelId, inputHash, outputHash) => ⟨modelId, inputHash, outputHash⟩
    left_inv _ := rfl
    right_inv _ := rfl }

def vaiOutput : Positional VaiOutput :=
  ((block 32).pair ((block 32).pair ((block 32).pair Postcard.word64))).renamed {
    toFun vai := (vai.modelId, vai.inputHash, vai.outputHash, vai.verifiedAtSecs)
    invFun := fun (modelId, inputHash, outputHash, secs) => ⟨modelId, inputHash, outputHash, secs⟩
    left_inv _ := rfl
    right_inv _ := rfl }

def dcapCollateral : Positional DcapCollateral :=
  (Postcard.blob.pair (Postcard.blob.pair (Postcard.blob.pair
    (Postcard.blob.pair Postcard.blob)))).renamed {
    toFun col := (col.pckCert, col.intermediateCa, col.rootCa, col.tcbInfo, col.qeIdentity)
    invFun := fun (pckCert, intermediateCa, rootCa, tcbInfo, qeIdentity) =>
      ⟨pckCert, intermediateCa, rootCa, tcbInfo, qeIdentity⟩
    left_inv _ := rfl
    right_inv _ := rfl }

def zkInput : Positional ZkInput :=
  (zkMode.pair ((block 48).pair (Postcard.blob.pair ((block 64).pair (Postcard.blob.optional.pair
    (vaiInput.optional.pair dcapCollateral.optional)))))).renamed {
    toFun input := (input.mode, input.transcriptHash, input.quoteBytes, input.reportData,
      input.oracleData, input.vaiData, input.dcapCollateral)
    invFun := fun (mode, transcriptHash, quoteBytes, reportData, oracleData, vaiData, collateral) =>
      ⟨mode, transcriptHash, quoteBytes, reportData, oracleData, vaiData, collateral⟩
    left_inv _ := rfl
    right_inv _ := rfl }

theorem zkMode_whole : zkMode.Whole := enumeration_whole _ _ _

theorem vaiOutput_whole : vaiOutput.Whole :=
  ((block_whole 32).pair ((block_whole 32).pair ((block_whole 32).pair
    Postcard.word64_whole))).renamed _

theorem zkInput_whole : zkInput.Whole := by
  have provenance : vaiInput.Whole :=
    ((block_whole 32).pair ((block_whole 32).pair (block_whole 32))).renamed _
  have collateral : dcapCollateral.Whole :=
    (Postcard.blob_whole.pair (Postcard.blob_whole.pair (Postcard.blob_whole.pair
      (Postcard.blob_whole.pair Postcard.blob_whole)))).renamed _
  exact (zkMode_whole.pair ((block_whole 48).pair (Postcard.blob_whole.pair ((block_whole 64).pair
    (Postcard.blob_whole.optional.pair (provenance.optional.pair collateral.optional)))))).renamed _

namespace Guest

/-- `ZkOutput`, as the guest declares it. -/
structure ZkOutput where
  mode : ZkMode
  transcriptHash : Octets 48
  isValid : Bool
  oraclePayloadHash : Octets 32
  vaiOutput : Option VaiOutput
  dcapVerified : Bool
deriving DecidableEq

def zkOutput : Positional ZkOutput :=
  (zkMode.pair ((block 48).pair (Postcard.flag.pair ((block 32).pair
    (vaiOutput.optional.pair Postcard.flag))))).renamed {
    toFun out := (out.mode, out.transcriptHash, out.isValid, out.oraclePayloadHash, out.vaiOutput,
      out.dcapVerified)
    invFun := fun (mode, transcriptHash, isValid, oraclePayloadHash, vaiOutput, dcapVerified) =>
      ⟨mode, transcriptHash, isValid, oraclePayloadHash, vaiOutput, dcapVerified⟩
    left_inv _ := rfl
    right_inv _ := rfl }

/-! ## The program -/

/-- Why the guest panics. -/
inductive Panic where
  | read
  /-- `expect` on nothing. -/
  | expect (message : String)
  /-- `assert_eq!` on different values. -/
  | assertion (message : String)
  | slice (start stop length : Nat)
deriving DecidableEq

def expect {α : Type} (value : Option α) (message : String) : Except Panic α :=
  match value with
  | none => .error (.expect message)
  | some value => .ok value

/-- `&bytes[start..stop]`, which panics out of range. -/
def slice (bytes : Bytes) (start stop : Nat) : Except Panic Bytes :=
  match slice? bytes start stop with
  | none => .error (.slice start stop bytes.length)
  | some part => .ok part

/-- `from_le_bytes`. -/
def ofLe (bytes : Bytes) : Nat := ofBe bytes.reverse

structure TcbLevel where
  pcesvn : UInt16
  tcbStatus : String

/-- The libraries the guest calls. -/
structure GuestPrimitives (Certificate Key Signature : Type) where
  sha512 : Bytes → Octets 64
  sha256 : Bytes → Octets 32
  fromDer : Bytes → Option Certificate
  /-- `signature.as_bytes()`; nothing for a bit string that is not made of bytes. -/
  signatureBytes : Certificate → Option Bytes
  /-- `tbs_certificate.to_der().unwrap_or_default()`. -/
  tbsBytes : Certificate → Bytes
  subjectPublicKey : Certificate → Option Bytes
  fromSec1Bytes : Bytes → Option Key
  signatureFromDer : Bytes → Option Signature
  signatureFromSlice : Bytes → Option Signature
  verify : Key → Bytes → Signature → Bool
  /-- The check with the other curve: key, message and signature. -/
  k256Verify : Bytes → Bytes → Bytes → Option Bool
  /-- `serde_json::from_slice` for `TcbInfo`. -/
  tcbInfo : Bytes → Option (List TcbLevel)

/-- The words in which the machine hands byte strings over: `env::read` and `env::commit` in the guest,
`risc0_zkvm::serde` on the host. -/
structure WordCodec where
  write : Bytes → Bytes
  /-- The byte string of words, or why there is none. -/
  read : Bytes → Except String Bytes
  read_write : ∀ bytes, read (write bytes) = .ok bytes

section Program

variable {Certificate Key Signature : Type} (prim : GuestPrimitives Certificate Key Signature)

def extractVerifyingKey (cert : Certificate) : Option Key :=
  (prim.subjectPublicKey cert).bind prim.fromSec1Bytes

def verifyCert (cert : Certificate) (issuerPub : Key) : Except Panic Bool := do
  let sigBytes ← expect (prim.signatureBytes cert) "Signature bytes present"
  match prim.signatureFromDer sigBytes with
  | none => .ok false
  | some sig => .ok (prim.verify issuerPub (prim.tbsBytes cert) sig)

/-- `verify_cert_chain` from the three certificates on. -/
def verifyParsedChain (root inter pck : Certificate) : Except Panic Bool :=
  match extractVerifyingKey prim root with
  | none => .ok false
  | some rootPub => do
    let interOk ← verifyCert prim inter rootPub
    if interOk = false then .ok false
    else
      match extractVerifyingKey prim inter with
      | none => .ok false
      | some interPub => verifyCert prim pck interPub

def verifyCertChain (root inter pck : Bytes) : Except Panic Bool :=
  match prim.fromDer root, prim.fromDer inter, prim.fromDer pck with
  | some rootCert, some interCert, some pckCert => verifyParsedChain prim rootCert interCert pckCert
  | _, _, _ => .ok false

/-- `verify_quote` from the check of the report data on. -/
def verifySignature (quote pckCert signatureBytes : Bytes) : Except Panic Bool :=
  match prim.fromDer pckCert with
  | none => .ok false
  | some cert =>
    match extractVerifyingKey prim cert, prim.signatureFromSlice signatureBytes with
    | some pckPub, some sig => do
      let signedData ← slice quote 0 432
      .ok (prim.verify pckPub signedData sig)
    | _, _ => .ok false

/-- `verify_quote` once the chain is verified. An end that does not fit the words of the guest lies
behind every quote, so that the sum does not wrap makes no difference. -/
def verifyBody (quote : Bytes) (reportData : Octets 64) (pckCert : Bytes) : Except Panic Bool := do
  let body ← slice quote 48 432
  let lengthBytes ← slice quote 432 436
  let signatureBytes ← slice quote 436 (436 + ofLe lengthBytes)
  let quoteReportData ← slice body 320 384
  if quoteReportData ≠ reportData.bytes then .ok false
  else verifySignature prim quote pckCert signatureBytes

def verifyQuote (quote : Bytes) (reportData : Octets 64) (collateral : Option DcapCollateral) :
    Except Panic Bool :=
  match collateral with
  | none => .ok false
  | some col =>
    if quote.length < 1024 then .ok false
    else do
      let chained ← verifyCertChain prim col.rootCa col.intermediateCa col.pckCert
      if chained = false then .ok false else verifyBody prim quote reportData col.pckCert

def goodLevel (pcesvn : Nat) : List TcbLevel → Bool
  | [] => false
  | level :: rest =>
    if level.pcesvn.toNat ≤ pcesvn then
      level.tcbStatus = "UpToDate" || level.tcbStatus = "SWHardeningNeeded"
    else goodLevel pcesvn rest

def verifyTcbStatus (quote tcbInfoJson : Bytes) : Except Panic Bool := do
  let body ← slice quote 48 432
  let svnBytes ← slice body 384 386
  match prim.tcbInfo tcbInfoJson with
  | none => .ok false
  | some levels => .ok (goodLevel (ofLe svnBytes) levels)

/-- The check of the quote with the other curve, in builds without the feature `mock`. What it finds is
not used. -/
def checkQuoteSignature (mock : Bool) (input : ZkInput) : Except Panic (Option Bool) :=
  if mock = false ∧ 97 < input.quoteBytes.length then do
    let sigOffset := input.quoteBytes.length - 64
    let vkOffset := sigOffset - 33
    let vkBytes ← slice input.quoteBytes vkOffset sigOffset
    let sigBytes ← slice input.quoteBytes sigOffset input.quoteBytes.length
    .ok (prim.k256Verify vkBytes input.reportData.bytes sigBytes)
  else .ok none

variable (input : ZkInput)

def assertBinding (message : Bytes) (text : String) : Except Panic Unit :=
  if input.reportData = prim.sha512 message then .ok () else .error (.assertion text)

def handshakeMessage (transcriptHash : Octets 48) : Bytes :=
  utf8 "openhttpa hs server" ++ transcriptHash.bytes

def vaiMessage (vai : VaiInput) : Bytes :=
  utf8 "openhttpa vai v1" ++ (vai.modelId.bytes ++ (vai.inputHash.bytes ++ vai.outputHash.bytes))

def oracleMessage (transcriptHash : Octets 48) (oracleData : Bytes) : Bytes :=
  utf8 "openhttpa oracle v1" ++ (transcriptHash.bytes ++ oracleData)

def checkBinding : Except Panic Unit :=
  match input.mode with
  | .Handshake =>
    assertBinding prim input (handshakeMessage input.transcriptHash)
      "Handshake binding mismatch in report_data"
  | .VerifiedAi => do
    let vai ← expect input.vaiData "VerifiedAi mode requires vai_data"
    assertBinding prim input (vaiMessage vai) "AI provenance binding mismatch in report_data"
  | .Oracle => do
    let oracleData ← expect input.oracleData "Oracle mode requires oracle_data"
    assertBinding prim input (oracleMessage input.transcriptHash oracleData)
      "Oracle binding mismatch in report_data"
  | .DcapCompression =>
    assertBinding prim input (handshakeMessage input.transcriptHash)
      "Transcript hash mismatch in compressed quote"

def verifyDcap : Except Panic Bool :=
  if input.mode = .DcapCompression then do
    let verified ← verifyQuote prim input.quoteBytes input.reportData input.dcapCollateral
    match verified, input.dcapCollateral with
    | true, some collateral => verifyTcbStatus prim input.quoteBytes collateral.tcbInfo
    | verified, _ => .ok verified
  else .ok false

def outputOf (dcapVerified : Bool) : ZkOutput where
  mode := input.mode
  transcriptHash := input.transcriptHash
  isValid := true
  oraclePayloadHash := prim.sha256 (input.oracleData.getD [])
  vaiOutput := input.vaiData.map fun vai => ⟨vai.modelId, vai.inputHash, vai.outputHash, 0⟩
  dcapVerified

/-- `main` from the input to the journal. -/
def execute (mock : Bool) (input : ZkInput) : Except Panic ZkOutput := do
  let _ ← checkQuoteSignature prim mock input
  checkBinding prim input
  let dcapVerified ← verifyDcap prim input
  .ok (outputOf prim input dcapVerified)

/-- `main`, from the input stream to the journal. -/
def main (words : WordCodec) (mock : Bool) (stream : Bytes) : Except Panic Bytes := do
  let inputBytes ← (words.read stream).mapError fun _ => .read
  let input ← expect ((zkInput.read inputBytes).map Prod.fst) "failed to deserialize input"
  let output ← execute prim mock input
  .ok (words.write (zkOutput.write output))

end Program

/-! ## What it does -/

section Runs

variable {Certificate Key Signature : Type} {prim : GuestPrimitives Certificate Key Signature}
  {bytes : Bytes} {start stop : Nat} {quote : Bytes} {input : ZkInput}

variable (prim) (quote)

theorem slice_inside (ordered : start ≤ stop)
    (inside : stop ≤ bytes.length) :
    slice bytes start stop = .ok ((bytes.take stop).drop start) := by
  rw [slice, slice?, if_pos ⟨ordered, inside⟩]

theorem slice_behind (behind : bytes.length < stop) :
    slice bytes start stop = .error (.slice start stop bytes.length) := by
  rw [slice, slice?, if_neg (by omega)]

theorem checkQuoteSignature_ok (mock : Bool)
    (input : ZkInput) : ∃ found, checkQuoteSignature prim mock input = .ok found := by
  unfold checkQuoteSignature
  split
  · rename_i long
    have length := long.2
    have key : slice input.quoteBytes (input.quoteBytes.length - 64 - 33)
        (input.quoteBytes.length - 64) = .ok _ := slice_inside (by omega) (by omega)
    have signature : slice input.quoteBytes (input.quoteBytes.length - 64)
        input.quoteBytes.length = .ok _ := slice_inside (by omega) (le_refl _)
    dsimp only
    rw [key, signature]
    exact ⟨_, rfl⟩
  · exact ⟨_, rfl⟩

/-! ## Certificates -/

def Certified (prim : GuestPrimitives Certificate Key Signature) (cert : Certificate)
    (issuerPub : Key) : Prop :=
  ∃ bytes, prim.signatureBytes cert = some bytes ∧ ∃ sig, prim.signatureFromDer bytes = some sig ∧
    prim.verify issuerPub (prim.tbsBytes cert) sig = true

theorem verifyCert_settles (cert : Certificate) (issuerPub : Key) :
    Settles (verifyCert prim cert issuerPub) (prim.signatureBytes cert = none)
      (Certified prim cert issuerPub) := by
  unfold verifyCert Certified expect
  cases present : prim.signatureBytes cert with
  | none => exact ⟨fun _ => ⟨_, rfl⟩, fun calm => absurd rfl calm⟩
  | some bytes =>
    cases parsed : prim.signatureFromDer bytes with
    | none =>
      simp only [bind, Except.bind, parsed]
      exact Settles.refusal.congr (by simp) (by simp [parsed])
    | some sig =>
      simp only [bind, Except.bind, parsed]
      exact (Settles.verdict _).congr (by simp) (by simp [parsed])

def ParsedChain (root inter pck : Certificate) : Prop :=
  ∃ rootPub, extractVerifyingKey prim root = some rootPub ∧ Certified prim inter rootPub ∧
    ∃ interPub, extractVerifyingKey prim inter = some interPub ∧ Certified prim pck interPub

def ParsedChainPanics (root inter pck : Certificate) : Prop :=
  ∃ rootPub, extractVerifyingKey prim root = some rootPub ∧
    (prim.signatureBytes inter = none ∨ Certified prim inter rootPub ∧
      ∃ interPub, extractVerifyingKey prim inter = some interPub ∧ prim.signatureBytes pck = none)

theorem verifyParsedChain_settles (root inter pck : Certificate) :
    Settles (verifyParsedChain prim root inter pck) (ParsedChainPanics prim root inter pck)
      (ParsedChain prim root inter pck) := by
  unfold verifyParsedChain ParsedChainPanics ParsedChain
  cases extractVerifyingKey prim root with
  | none => exact Settles.refusal.congr (by simp) (by simp)
  | some rootPub =>
    have last : Settles (match extractVerifyingKey prim inter with
        | none => .ok false
        | some interPub => verifyCert prim pck interPub)
        (∃ interPub, extractVerifyingKey prim inter = some interPub ∧ prim.signatureBytes pck = none)
        (∃ interPub, extractVerifyingKey prim inter = some interPub ∧
          Certified prim pck interPub) := by
      cases extractVerifyingKey prim inter with
      | none => exact Settles.refusal.congr (by simp) (by simp)
      | some interPub => exact (verifyCert_settles prim pck interPub).congr (by simp) (by simp)
    exact ((verifyCert_settles prim inter rootPub).andThen fun _ => last).congr (by simp) (by simp)

variable (col : DcapCollateral)

def Parsed (related : Certificate → Certificate → Certificate → Prop) : Prop :=
  ∃ root inter pck, prim.fromDer col.rootCa = some root ∧
    prim.fromDer col.intermediateCa = some inter ∧ prim.fromDer col.pckCert = some pck ∧
    related root inter pck

def ChainVerified : Prop :=
  Parsed prim col (ParsedChain prim)

def ChainPanics : Prop :=
  Parsed prim col (ParsedChainPanics prim)

theorem verifyCertChain_settles :
    Settles (verifyCertChain prim col.rootCa col.intermediateCa col.pckCert) (ChainPanics prim col)
      (ChainVerified prim col) := by
  unfold verifyCertChain ChainPanics ChainVerified Parsed
  cases prim.fromDer col.rootCa with
  | none => exact Settles.refusal.congr (by simp) (by simp)
  | some root =>
    cases prim.fromDer col.intermediateCa with
    | none => exact Settles.refusal.congr (by simp) (by simp)
    | some inter =>
      cases prim.fromDer col.pckCert with
      | none => exact Settles.refusal.congr (by simp) (by simp)
      | some pck => exact (verifyParsedChain_settles prim root inter pck).congr (by simp) (by simp)

/-! ## Quotes -/

def quoteReportData : Bytes := (quote.drop 368).take 64

def signatureLength : Nat := ofLe ((quote.drop 432).take 4)

def quoteSignature : Bytes := (quote.drop 436).take (signatureLength quote)

def pceSvn : Nat := ofLe ((quote.drop 432).take 2)

def QuoteSigned (pckCert : Bytes) : Prop :=
  ∃ cert key sig, prim.fromDer pckCert = some cert ∧ extractVerifyingKey prim cert = some key ∧
    prim.signatureFromSlice (quoteSignature quote) = some sig ∧
    prim.verify key (quote.take 432) sig = true

variable {quote}

theorem verifySignature_settles (prim : GuestPrimitives Certificate Key Signature)
    (long : 432 ≤ quote.length) (pckCert : Bytes) :
    Settles (verifySignature prim quote pckCert (quoteSignature quote)) False
      (QuoteSigned prim quote pckCert) := by
  unfold verifySignature QuoteSigned
  rw [slice_inside (Nat.zero_le _) long, List.drop_zero]
  cases prim.fromDer pckCert with
  | none => exact Settles.refusal.congr (by simp) (by simp)
  | some cert =>
    cases keyed : extractVerifyingKey prim cert with
    | none =>
      simp only [keyed]
      exact Settles.refusal.congr (by simp) (by simp [keyed])
    | some key =>
      simp only [keyed]
      cases prim.signatureFromSlice (quoteSignature quote) with
      | none => exact Settles.refusal.congr (by simp) (by simp)
      | some sig => exact (Settles.verdict _).congr (by simp) (by simp [keyed])

theorem verifyBody_settles (prim : GuestPrimitives Certificate Key Signature)
    (long : 1024 ≤ quote.length) (reportData : Octets 64) (pckCert : Bytes) :
    Settles (verifyBody prim quote reportData pckCert) (quote.length < 436 + signatureLength quote)
      (quoteReportData quote = reportData.bytes ∧ QuoteSigned prim quote pckCert) := by
  have body : slice quote 48 432 = .ok ((quote.take 432).drop 48) :=
    slice_inside (by omega) (by omega)
  have width : slice quote 432 436 = .ok ((quote.drop 432).take 4) := by
    rw [slice_inside (by omega) (by omega), List.drop_take]
  have data : slice ((quote.take 432).drop 48) 320 384 = .ok (quoteReportData quote) := by
    have inside : 384 ≤ ((quote.take 432).drop 48).length := by
      rw [List.length_drop, List.length_take]
      omega
    rw [slice_inside (by omega) inside, quoteReportData, List.drop_take, List.drop_drop,
      List.drop_take, List.take_take]
    rfl
  have stated : ofLe ((quote.drop 432).take 4) = signatureLength quote := rfl
  unfold verifyBody
  rw [body, width]
  simp only [bind, Except.bind, stated]
  by_cases behind : quote.length < 436 + signatureLength quote
  · rw [slice_behind behind]
    exact ⟨fun _ => ⟨_, rfl⟩, fun calm => absurd behind calm⟩
  · have signature : slice quote 436 (436 + signatureLength quote) = .ok (quoteSignature quote) := by
      rw [slice_inside (by omega) (by omega), List.drop_take, Nat.add_sub_cancel_left, quoteSignature]
    rw [signature]
    dsimp only
    rw [data]
    dsimp only
    by_cases same : quoteReportData quote = reportData.bytes
    · rw [if_neg (not_not.mpr same)]
      exact (verifySignature_settles prim (by omega) pckCert).congr (by simp [behind]) (by simp [same])
    · rw [if_pos same]
      exact Settles.refusal.congr (by simp [behind]) (by simp [same])

def Checkable (input : ZkInput) (good : DcapCollateral → Prop) : Prop :=
  1024 ≤ input.quoteBytes.length ∧ ∃ col, input.dcapCollateral = some col ∧ good col

/-- The quote passes `verify_quote`: its chain is verified, it has a signature in it, and it has the
report data and is signed. -/
def QuoteVerified (input : ZkInput) (col : DcapCollateral) : Prop :=
  ChainVerified prim col ∧
    436 + signatureLength input.quoteBytes ≤ input.quoteBytes.length ∧
    quoteReportData input.quoteBytes = input.reportData.bytes ∧
    QuoteSigned prim input.quoteBytes col.pckCert

/-- `verify_quote` panics on the quote: on a certificate, or on a signature longer than the rest. -/
def QuotePanics (input : ZkInput) (col : DcapCollateral) : Prop :=
  ChainPanics prim col ∨
    ChainVerified prim col ∧ input.quoteBytes.length < 436 + signatureLength input.quoteBytes

theorem verifyQuote_settles (prim : GuestPrimitives Certificate Key Signature)
    (long : 1024 ≤ input.quoteBytes.length) (col : DcapCollateral) :
    Settles (verifyQuote prim input.quoteBytes input.reportData (some col))
      (QuotePanics prim input col) (QuoteVerified prim input col) := by
  have settles := (verifyCertChain_settles prim col).andThen fun _ =>
    verifyBody_settles prim long input.reportData col.pckCert
  have unfolded : verifyQuote prim input.quoteBytes input.reportData (some col) = _ :=
    if_neg (Nat.not_lt.mpr long)
  rw [unfolded]
  refine settles.congr Iff.rfl fun calm => ?_
  unfold QuoteVerified
  constructor
  · rintro ⟨chain, passed⟩
    have inside : ¬ input.quoteBytes.length < 436 + signatureLength input.quoteBytes :=
      fun behind => calm (.inr ⟨chain, behind⟩)
    exact ⟨chain, Nat.not_lt.mp inside, passed⟩
  · rintro ⟨chain, -, passed⟩
    exact ⟨chain, passed⟩

theorem verifyTcbStatus_panics (quote tcbInfoJson : Bytes) :
    ∃ panic, verifyTcbStatus prim quote tcbInfoJson = .error panic := by
  unfold verifyTcbStatus
  by_cases long : 432 ≤ quote.length
  · have short : ((quote.take 432).drop 48).length < 386 := by
      rw [List.length_drop, List.length_take]
      omega
    rw [slice_inside (by omega) long]
    simp only [bind, Except.bind]
    rw [slice_behind short]
    exact ⟨_, rfl⟩
  · rw [slice_behind (by omega)]
    exact ⟨_, rfl⟩

/-- The guest panics on a quote on which `verify_quote` panics, and on one that passes it. -/
def Panics (input : ZkInput) : Prop :=
  Checkable input fun col => QuotePanics prim input col ∨ QuoteVerified prim input col

theorem verifyDcap_settles (prim : GuestPrimitives Certificate Key Signature)
    (mode : input.mode = .DcapCompression) :
    Settles (verifyDcap prim input) (Panics prim input) False := by
  unfold verifyDcap Panics Checkable
  rw [if_pos mode]
  cases present : input.dcapCollateral with
  | none => exact Settles.refusal.congr (by simp) (by simp)
  | some col =>
    by_cases long : 1024 ≤ input.quoteBytes.length
    · simp only [long, true_and, Option.some.injEq, exists_eq_left']
      rcases (verifyQuote_settles prim long col).cases with
        ⟨panics, panic, returned⟩ | ⟨passed, -, returned⟩ | ⟨failed, calm, returned⟩
      · rw [returned]
        exact ⟨fun _ => ⟨panic, rfl⟩, fun none => absurd (.inl panics) none⟩
      · rw [returned]
        exact ⟨fun _ => verifyTcbStatus_panics prim input.quoteBytes col.tcbInfo,
          fun none => absurd (.inr passed) none⟩
      · rw [returned]
        exact Settles.refusal.congr (by simp [calm, failed]) (by simp)
    · have returned : verifyQuote prim input.quoteBytes input.reportData (some col) = .ok false :=
        if_pos (Nat.not_le.mp long)
      rw [returned]
      exact Settles.refusal.congr (by simp [long]) (by simp)

variable {prim}

theorem execute_not_verified {mock : Bool} {output : ZkOutput}
    (committed : execute prim mock input = .ok output) : output.dcapVerified = false := by
  obtain ⟨_, -, committed⟩ := bind_ok committed
  obtain ⟨_, -, committed⟩ := bind_ok committed
  obtain ⟨verified, checked, committed⟩ := bind_ok committed
  cases committed
  show verified = false
  by_cases mode : input.mode = .DcapCompression
  · rcases (verifyDcap_settles prim mode).cases with
      ⟨-, panic, returned⟩ | ⟨⟨⟩, -⟩ | ⟨-, -, returned⟩
    · rw [returned] at checked
      cases checked
    · rw [returned] at checked
      exact (Except.ok.inj checked).symm
  · have returned : verifyDcap prim input = .ok false := if_neg mode
    rw [returned] at checked
    exact (Except.ok.inj checked).symm

variable (prim)

/-- The quote should be accepted: it is verified, and the status of the first TCB level that its version
reaches is good. -/
def Acceptable (input : ZkInput) : Prop :=
  Checkable input fun col => QuoteVerified prim input col ∧
    ∃ levels, prim.tcbInfo col.tcbInfo = some levels ∧
      goodLevel (pceSvn input.quoteBytes) levels = true

/-- **Compressed quotes.** With report data that binds the transcript, the guest commits a journal that
says whether the quote is acceptable exactly if it does not panic; it panics on every quote that passes
`verify_quote`, so on every acceptable one. -/
theorem dcap_outcome_iff (prim : GuestPrimitives Certificate Key Signature) (mock : Bool)
    (input : ZkInput) (mode : input.mode = .DcapCompression)
    (bound : input.reportData = prim.sha512 (handshakeMessage input.transcriptHash)) :
    (∃ output, execute prim mock input = .ok output ∧
      (output.dcapVerified = true ↔ Acceptable prim input)) ↔ ¬ Panics prim input := by
  obtain ⟨found, signature⟩ := checkQuoteSignature_ok prim mock input
  have binding : checkBinding prim input = .ok () := by
    unfold checkBinding
    rw [mode]
    exact if_pos bound
  have executed : execute prim mock input = verifyDcap prim input >>= fun verified =>
      .ok (outputOf prim input verified) := by
    unfold execute
    rw [signature, binding]
    rfl
  rcases (verifyDcap_settles prim mode).cases with
    ⟨panics, panic, returned⟩ | ⟨⟨⟩, -⟩ | ⟨-, calm, returned⟩
  · rw [executed, returned]
    constructor
    · rintro ⟨output, committed, -⟩
      cases committed
    · exact fun calm => absurd panics calm
  · have rejected : ¬ Acceptable prim input := by
      rintro ⟨long, col, present, passed, -⟩
      exact calm ⟨long, col, present, .inr passed⟩
    rw [executed, returned]
    constructor
    · exact fun _ => calm
    · intro _
      exact ⟨outputOf prim input false, rfl, by simp [outputOf, rejected]⟩

end Runs

/-- A library under which every certificate is the same, and every signature of the right length is
good. -/
def plain : GuestPrimitives Unit Unit Unit where
  sha512 _ := .zero 64
  sha256 _ := .zero 32
  fromDer _ := some ()
  signatureBytes _ := some []
  tbsBytes _ := []
  subjectPublicKey _ := some []
  fromSec1Bytes _ := some ()
  signatureFromDer _ := some ()
  signatureFromSlice bytes := if bytes.length = 64 then some () else none
  verify _ _ _ := true
  k256Verify _ _ _ := none
  tcbInfo _ := some [⟨0, "UpToDate"⟩]

theorem WordCodec.read_unchanged (bytes : Bytes) :
    (.ok (id bytes) : Except String Bytes) = .ok bytes := rfl

def WordCodec.plain : WordCodec := ⟨id, .ok, read_unchanged⟩

def compressed (quoteBytes : Bytes) : ZkInput where
  mode := .DcapCompression
  transcriptHash := .zero 48
  quoteBytes
  reportData := .zero 64
  oracleData := none
  vaiData := none
  dcapCollateral := some ⟨[], [], [], [], []⟩

theorem plain_chain : ChainVerified plain ⟨[], [], [], [], []⟩ :=
  ⟨(), (), (), rfl, rfl, rfl, (), rfl, ⟨[], rfl, (), rfl, rfl⟩, (), rfl, ⟨[], rfl, (), rfl, rfl⟩⟩

/-- A quote with a signature inside and with report data that is not that of the input. -/
def otherQuote : Bytes :=
  List.replicate 368 0 ++ List.replicate 64 1 ++ [64, 0, 0, 0] ++ List.replicate 588 0

/-- The journal says that it is not verified. -/
theorem other_report_committed :
    otherQuote.length = 1024 ∧ ChainVerified plain ⟨[], [], [], [], []⟩ ∧
      ∃ output, execute plain false (compressed otherQuote) = .ok output ∧
        (output.dcapVerified = true ↔ Acceptable plain (compressed otherQuote)) := by
  have calm : ¬ Panics plain (compressed otherQuote) := by
    intro panics
    obtain ⟨panic, returned⟩ := (verifyDcap_settles plain rfl).1 panics
    have unverified : verifyDcap plain (compressed otherQuote) = .ok false := by decide +kernel
    rw [unverified] at returned
    cases returned
  exact ⟨by decide +kernel, plain_chain,
    (dcap_outcome_iff plain false (compressed otherQuote) rfl rfl).mpr calm⟩

def goodQuote : Bytes := List.replicate 432 0 ++ [64, 0, 0, 0] ++ List.replicate 588 0

/-- It is acceptable, and the guest panics on it. -/
theorem good_quote_panics :
    (compressed goodQuote).mode = .DcapCompression ∧
      (compressed goodQuote).reportData =
        plain.sha512 (handshakeMessage (compressed goodQuote).transcriptHash) ∧
      Acceptable plain (compressed goodQuote) ∧
      execute plain false (compressed goodQuote) = .error (.slice 384 386 384) := by
  have inside : 436 + signatureLength goodQuote ≤ goodQuote.length := by decide +kernel
  have signed : QuoteSigned plain goodQuote [] := ⟨(), (), (), rfl, rfl, by decide +kernel, rfl⟩
  refine ⟨rfl, rfl, ⟨by decide +kernel, _, rfl, ⟨plain_chain, inside, by decide +kernel, signed⟩,
    _, rfl, ?_⟩, by decide +kernel⟩
  rfl

end Guest

end OpenHttpa.Zk
