import OpenHttpa.Fabric.Aiql
import OpenHttpa.Zk.Compression

/-!
# Oracle payloads and the contract

`fetch_and_prove` of `openhttpa-oracle/src/oracle.rs` fetches a body from the web and has a quote made
over the hash of a prefix, the transcript hash and the body. `verifyOraclePayload` of
`openhttpa-contract/src/OpenHttpaVerifier.sol` takes the report data apart instead: it asks for the first
sixteen bytes of another prefix and the transcript hash behind them, and never looks at the data. So it
accepts the payload of a node exactly if the hash happens to have this form, and binds the data exactly
if no payload is accepted at all (`oracle_payload_iff`).
-/
namespace OpenHttpa.Oracle

open OpenHttpa.Core Proto Zk

inductive OracleError where
  | FetchFailed (reason : String)
  | TeeError (message : String)
  | ZkError (message : String)
deriving DecidableEq

structure OracleResponse where
  data : Bytes
  quote : Bytes
  quoteType : String
  transcriptHash : Octets 48
  zkReceipt : Option Bytes
deriving DecidableEq

/-! ## Where a node may fetch from -/

inductive Host where
  | domain (name : String)
  | ipv4 (a b c d : UInt8)
  | ipv6 (segments : Vector UInt16 8)
deriving DecidableEq

structure Url where
  scheme : String
  host : Option Host
  hostStr : Option String

/-- An IPv4 address in a private or reserved range; 127.0.0.1 is the one loopback address that is not. -/
def blockedIpv4 (a b c d : UInt8) : Bool :=
  let isLoopback := a = 127 ∧ (a, b, c, d) ≠ (127, 0, 0, 1)
  let is10 := a = 10
  let is172_16 := a = 172 ∧ 16 ≤ b ∧ b ≤ 31
  let is192_168 := a = 192 ∧ b = 168
  let isLinkLocal := a = 169 ∧ b = 254
  let isUnspecified := (a, b, c, d) = (0, 0, 0, 0)
  let isCgnat := a = 100 ∧ 64 ≤ b ∧ b ≤ 127
  isLoopback ∨ is10 ∨ is172_16 ∨ is192_168 ∨ isLinkLocal ∨ isUnspecified ∨ isCgnat

theorem first_segment : 0 < 8 := by decide

def blockedIpv6 (segments : Vector UInt16 8) : Bool :=
  let isLoopback := segments.toList == [0, 0, 0, 0, 0, 0, 0, 1]
  let isUnspecified := segments.toList == List.replicate 8 0
  let first := segments.get ⟨0, first_segment⟩
  let isLinkLocal := first &&& 0xffc0 = 0xfe80
  let isUniqueLocal := first &&& 0xfe00 = 0xfc00
  isLoopback ∨ isUnspecified ∨ isLinkLocal ∨ isUniqueLocal

def validateUrlForSsrf (url : Url) : Except OracleError Unit :=
  match url.host with
  | none => .error (.TeeError "URL has no host")
  | some (.domain name) =>
    if Attestation.eqIgnoreAsciiCase name "localhost" then
      .error (.TeeError ("SSRF blocked: 'localhost' hostname is not permitted; use 127.0.0.1 " ++
        "only for local test endpoints"))
    else .ok ()
  | some (.ipv4 a b c d) =>
    if blockedIpv4 a b c d then
      .error (.TeeError "SSRF blocked: destination IP is in a private or reserved range")
    else .ok ()
  | some (.ipv6 segments) =>
    if blockedIpv6 segments then
      .error (.TeeError "SSRF blocked: destination IP is in a private or reserved range")
    else .ok ()

/-! ## The node -/

/-- The libraries and the network. -/
structure World where
  /-- `Url::parse`. -/
  parseUrl : String → Option Url
  /-- The body that a request to the address is answered with. -/
  get : String → Except String Bytes
  sha512 : Bytes → Octets 64
  generateQuote : Octets 64 → Except TeeProviderError AttestQuote
  prove : ZkInput → Except Zk.ZkError Receipt
  /-- `postcard::to_allocvec` for receipts. -/
  serialize : Receipt → Except String Bytes

def World.reportData (world : World) (transcriptHash : Octets 48) (body : Bytes) : Octets 64 :=
  world.sha512 (utf8 "openhttpa oracle v1" ++ transcriptHash.bytes ++ body)

/-- The receipt, if a proof is asked for; the refusal of a mock prover stands for four bytes. -/
def World.zkReceipt (world : World) (generateZkProof : Bool) (input : ZkInput) :
    Except OracleError (Option Bytes) :=
  if generateZkProof then
    match world.prove input with
    | .ok receipt => ((world.serialize receipt).map some).mapError .ZkError
    | .error failure =>
      if Fabric.contains failure.display "Mock Prover" then .ok (some [0xDE, 0xAD, 0xBE, 0xEF])
      else .error (.ZkError failure.display)
  else .ok none

/-- `fetch_and_prove` up to the request: the URL that is then fetched. -/
def admitUrl (world : World) (url : String) : Except OracleError Url :=
  match world.parseUrl url with
  | none => .error (.TeeError "Invalid URL format")
  | some parsedUrl => do
    let isExplicitLocalhost := parsedUrl.hostStr = some "127.0.0.1"
    validateUrlForSsrf parsedUrl
    if parsedUrl.scheme ≠ "https" ∧ ¬ isExplicitLocalhost then
      .error (.TeeError "HTTPS required for non-local URLs")
    else
      .ok parsedUrl

def fetchAndProve (world : World) (url : String) (transcriptHash : Octets 48)
    (generateZkProof : Bool) : Except OracleError OracleResponse := do
  let _ ← admitUrl world url
  let response ← (world.get url).mapError .FetchFailed
  let reportData := world.reportData transcriptHash response
  let quote ← (world.generateQuote reportData).mapError fun failure => .TeeError failure.display
  let zkReceiptBytes ← world.zkReceipt generateZkProof {
    mode := .Oracle
    transcriptHash
    quoteBytes := quote.raw
    reportData
    oracleData := some response
    vaiData := none
    dcapCollateral := none }
  return {
    data := response
    quote := quote.raw
    quoteType := quote.quoteType.debug
    transcriptHash
    zkReceipt := zkReceiptBytes }

/-! ## The contract -/

structure OraclePayload where
  transcriptHash : Bytes
  quote : Bytes
  reportData : Bytes
  data : Bytes
  zkReceipt : Bytes

structure PayloadVerified where
  transcriptHash : Bytes
  sender : BitVec 160
deriving DecidableEq

def require (condition : Prop) [Decidable condition] (message : String) : Except String Unit :=
  if condition then .ok () else .error message

/-- `expectedPrefix`, of which sixteen bytes are read. -/
def expectedPrefix : Bytes := utf8 "openhttpa hs server"

/-- `verifyOraclePayload`: the event that is emitted, or the message of the check that reverts. It does
nothing with a receipt. -/
def verifyOraclePayload (payload : OraclePayload) (sender : BitVec 160) :
    Except String PayloadVerified := do
  require (payload.transcriptHash.length = 48) "Invalid transcriptHash length (expected 48)"
  require (payload.reportData.length = 64) "Invalid reportData length (expected 64)"
  require (∀ i < 16, payload.reportData[i]? = expectedPrefix[i]?) "Invalid domain separation prefix"
  require (∀ i < 48, payload.reportData[16 + i]? = payload.transcriptHash[i]?)
    "Transcript hash mismatch in reportData"
  return ⟨payload.transcriptHash, sender⟩

/-- The payload that is formed from the answer of a node and the report data that was quoted. -/
def OracleResponse.payload (response : OracleResponse) (reportData : Octets 64) : OraclePayload where
  transcriptHash := response.transcriptHash.bytes
  quote := response.quote
  reportData := reportData.bytes
  data := response.data
  zkReceipt := response.zkReceipt.getD []

def expectedBytes : Bytes := expectedPrefix.take 16

/-- The payload verifies for every sender. -/
def Accepted (payload : OraclePayload) : Prop :=
  ∀ sender, ∃ event, verifyOraclePayload payload sender = .ok event

/-- The report data fix the transcript and the data. -/
def Bound (payload : OraclePayload) : Prop :=
  ∀ other : OraclePayload, other.reportData = payload.reportData → Accepted other →
    other.transcriptHash = payload.transcriptHash ∧ other.data = payload.data

/-! ## What is accepted -/

theorem require_ok {condition : Prop} [Decidable condition] {message : String} :
    require condition message = .ok () ↔ condition := by
  unfold require
  split <;> simp_all

theorem reportData_read {reportData transcriptHash : Bytes} (report : reportData.length = 64)
    (transcript : transcriptHash.length = 48) :
    ((∀ i < 16, reportData[i]? = expectedPrefix[i]?) ∧
      ∀ i < 48, reportData[16 + i]? = transcriptHash[i]?) ↔
    reportData = expectedBytes ++ transcriptHash := by
  have expected : expectedBytes.length = 16 := by decide
  constructor
  · rintro ⟨first, second⟩
    apply List.ext_getElem?
    intro i
    by_cases low : i < 16
    · rw [List.getElem?_append_left (by omega), first i low, expectedBytes, List.getElem?_take_of_lt low]
    · rw [List.getElem?_append_right (by omega), expected]
      by_cases high : i < 64
      · rw [← second (i - 16) (by omega)]
        congr 1
        omega
      · rw [List.getElem?_eq_none (by omega), List.getElem?_eq_none (by omega)]
  · rintro rfl
    constructor
    · intro i low
      rw [List.getElem?_append_left (by omega), expectedBytes, List.getElem?_take_of_lt low]
    · intro i high
      rw [List.getElem?_append_right (by omega), expected, Nat.add_sub_cancel_left]

theorem verifyOraclePayload_ok {payload : OraclePayload} {sender : BitVec 160}
    {event : PayloadVerified} :
    verifyOraclePayload payload sender = .ok event ↔
      payload.transcriptHash.length = 48 ∧
      payload.reportData = expectedBytes ++ payload.transcriptHash ∧
      event = ⟨payload.transcriptHash, sender⟩ := by
  have expected : expectedBytes.length = 16 := by decide
  constructor
  · intro verified
    unfold verifyOraclePayload at verified
    obtain ⟨⟨⟩, transcript, verified⟩ := bind_ok verified
    obtain ⟨⟨⟩, report, verified⟩ := bind_ok verified
    obtain ⟨⟨⟩, first, verified⟩ := bind_ok verified
    obtain ⟨⟨⟩, second, verified⟩ := bind_ok verified
    rw [require_ok] at transcript report first second
    cases verified
    exact ⟨transcript, (reportData_read report transcript).mp ⟨first, second⟩, rfl⟩
  · rintro ⟨transcript, read, rfl⟩
    have report : payload.reportData.length = 64 := by
      rw [read, List.length_append]
      omega
    obtain ⟨first, second⟩ := (reportData_read report transcript).mpr read
    unfold verifyOraclePayload
    rw [require_ok.mpr transcript, require_ok.mpr report, require_ok.mpr first, require_ok.mpr second]
    rfl

theorem accepted_iff {payload : OraclePayload} :
    Accepted payload ↔ payload.transcriptHash.length = 48 ∧
      payload.reportData = expectedBytes ++ payload.transcriptHash := by
  constructor
  · intro accepted
    obtain ⟨event, verified⟩ := accepted 0
    obtain ⟨transcript, read, -⟩ := verifyOraclePayload_ok.mp verified
    exact ⟨transcript, read⟩
  · rintro ⟨transcript, read⟩ sender
    exact ⟨_, verifyOraclePayload_ok.mpr ⟨transcript, read, rfl⟩⟩

theorem bound_iff {payload : OraclePayload} (report : payload.reportData.length = 64) :
    Bound payload ↔ payload.reportData.take 16 ≠ expectedBytes := by
  have expected : expectedBytes.length = 16 := by decide
  constructor
  · intro bound start
    let other : OraclePayload := { payload with
      transcriptHash := payload.reportData.drop 16, data := 0 :: payload.data }
    have accepted : Accepted other := by
      rw [accepted_iff]
      constructor
      · change (payload.reportData.drop 16).length = 48
        rw [List.length_drop]
        omega
      · change payload.reportData = expectedBytes ++ payload.reportData.drop 16
        rw [← start, List.take_append_drop]
    have same := (bound other rfl accepted).2
    exact List.cons_ne_self 0 payload.data same
  · intro start other same accepted
    rw [accepted_iff, same] at accepted
    rw [accepted.2, List.take_left' expected] at start
    exact absurd rfl start

theorem fetchAndProve_ok {world : World} {url : String} {transcriptHash : Octets 48}
    {generateZkProof : Bool} {response : OracleResponse}
    (returned : fetchAndProve world url transcriptHash generateZkProof = .ok response) :
    world.get url = .ok response.data ∧ response.transcriptHash = transcriptHash ∧
    ∃ quote, world.generateQuote (world.reportData transcriptHash response.data) = .ok quote ∧
      response.quote = quote.raw := by
  obtain ⟨-, -, returned⟩ := bind_ok returned
  obtain ⟨body, fetched, returned⟩ := bind_ok returned
  obtain ⟨quote, quoted, returned⟩ := bind_ok returned
  obtain ⟨receipt, -, returned⟩ := bind_ok returned
  cases returned
  exact ⟨mapError_ok fetched, rfl, quote, mapError_ok quoted, rfl⟩

/-- **Oracle payloads.** The contract accepts what a node returned, with the report data it had quoted,
exactly if the hash is sixteen bytes of the other prefix and the transcript hash; and the report data
stands for one transcript hash and one body exactly if it does not start with those sixteen bytes. The
two exclude each other. -/
theorem oracle_payload_iff (world : World) (url : String) (transcriptHash : Octets 48)
    (generateZkProof : Bool) (response : OracleResponse)
    (returned : fetchAndProve world url transcriptHash generateZkProof = .ok response) :
    ∃ reportData quote, reportData = world.reportData transcriptHash response.data ∧
      world.generateQuote reportData = .ok quote ∧ response.quote = quote.raw ∧
      (Accepted (response.payload reportData) ↔
        reportData.bytes = expectedBytes ++ transcriptHash.bytes) ∧
      (Bound (response.payload reportData) ↔ reportData.bytes.take 16 ≠ expectedBytes) ∧
      ¬ (Accepted (response.payload reportData) ∧ Bound (response.payload reportData)) := by
  obtain ⟨-, transcript, quote, quoted, raw⟩ := fetchAndProve_ok returned
  have expected : expectedBytes.length = 16 := by decide
  have accepted : Accepted (response.payload (world.reportData transcriptHash response.data)) ↔
      (world.reportData transcriptHash response.data).bytes =
        expectedBytes ++ transcriptHash.bytes := by
    rw [accepted_iff, ← transcript]
    exact and_iff_right response.transcriptHash.length_eq
  have bound : Bound (response.payload (world.reportData transcriptHash response.data)) ↔
      (world.reportData transcriptHash response.data).bytes.take 16 ≠ expectedBytes :=
    bound_iff (world.reportData transcriptHash response.data).length_eq
  refine ⟨_, quote, rfl, quoted, raw, accepted, bound, ?_⟩
  rintro ⟨isAccepted, isBound⟩
  apply bound.mp isBound
  rw [accepted.mp isAccepted, List.take_left' expected]

def fixedWorld (body : Bytes) : World where
  parseUrl _ := some ⟨"https", some (.domain "example.com"), some "example.com"⟩
  get _ := .ok body
  sha512 := backwards
  generateQuote reportData := .ok {
    quoteType := .Mock
    format := .Raw
    raw := reportData.bytes
    qudd := reportData.bytes
    collateralUris := [] }
  prove _ := .error (.Prover "Mock Prover")
  serialize _ := .ok []

def fixedResponse (body : Bytes) (transcriptHash : Octets 48) : OracleResponse where
  data := body
  quote := ((fixedWorld body).reportData transcriptHash body).bytes
  quoteType := "Mock"
  transcriptHash
  zkReceipt := none

def craftedBody : Bytes := (expectedBytes ++ List.replicate 48 0).reverse

/-- The crafted body is accepted, and so is not bound. -/
theorem crafted_unbound :
    Accepted ((fixedResponse craftedBody (.zero 48)).payload
      ((fixedWorld craftedBody).reportData (.zero 48) craftedBody)) ∧
    ¬ Bound ((fixedResponse craftedBody (.zero 48)).payload
      ((fixedWorld craftedBody).reportData (.zero 48) craftedBody)) := by
  obtain ⟨_, quote, rfl, -, -, accepted, bound, -⟩ := oracle_payload_iff (fixedWorld craftedBody)
    "https://example.com/" (.zero 48) false (fixedResponse craftedBody (.zero 48)) (by decide +kernel)
  constructor
  · apply accepted.mpr
    decide +kernel
  · intro isBound
    exact bound.mp isBound (by decide +kernel)

/-- The contract refuses what the service makes. -/
theorem honest_payload_refused :
    fetchAndProve (fixedWorld [1]) "https://example.com/" (.zero 48) false =
      .ok (fixedResponse [1] (.zero 48)) ∧
    verifyOraclePayload ((fixedResponse [1] (.zero 48)).payload
      ((fixedWorld [1]).reportData (.zero 48) [1])) 0 =
        .error "Invalid domain separation prefix" := by
  decide +kernel

end OpenHttpa.Oracle
