import OpenHttpa.Core.Session
import OpenHttpa.Lib.Positional

/-!
# Session state in postcard

The bytes `postcard` gives a `DurableSessionState` (`openhttpa-core/src/session/mod.rs`), field by
field in the order of the structs. The `tee_class` of a claims record is the one field that is left
out when it is absent, though the reader of a positional format expects its byte. A state is read back
exactly when no claims record in it, at whatever depth, lacks a class (`fromBytes_toAllocvec_iff`).
How `serde` writes a `SystemTime` is a parameter.
-/
namespace OpenHttpa.Core.Postcard

open Crypto Proto Positional

/-- `Vec<u8>`. -/
def blob : Positional Bytes := byte.many

theorem blob_whole : blob.Whole := byte_whole.many

/-- `String`; the reader checks that its bytes are UTF-8. -/
def text : Positional String :=
  blob.checked utf8 (fun bytes => String.fromUTF8? ⟨bytes.toArray⟩) (by
    intro value bytes
    unfold String.fromUTF8?
    constructor
    · intro found
      split at found
      · cases found
        rfl
      · cases found
    · rintro rfl
      exact dif_pos value.isValidUTF8)

theorem text_whole : text.Whole := blob_whole.checked _ _ _

def flag : Positional Bool :=
  byte.checked (fun value => if value then 1 else 0)
    (fun head => if head = 0 then some false else if head = 1 then some true else none) (by
    intro value head
    constructor
    · intro found
      split at found
      · rename_i zero
        cases found
        exact zero.symm
      · split at found
        · rename_i one
          cases found
          exact one.symm
        · cases found
    · rintro rfl
      cases value <;> rfl)

theorem flag_whole : flag.Whole := byte_whole.checked _ _ _

/-- `u16`. -/
def word16 : Positional UInt16 :=
  varint.checked UInt16.toNat (fun number => if number < 2 ^ 16 then some (.ofNat number) else none) (by
    intro value number
    constructor
    · intro found
      split at found
      · rename_i fits
        cases found
        exact UInt16.toNat_ofNat_of_lt' fits
      · cases found
    · rintro rfl
      rw [if_pos value.toNat_lt, UInt16.ofNat_toNat])

theorem word16_whole : word16.Whole := varint_whole.checked _ _ _

/-- `u64`. -/
def word64 : Positional UInt64 :=
  varint.checked UInt64.toNat (fun number => if number < 2 ^ 64 then some (.ofNat number) else none) (by
    intro value number
    constructor
    · intro found
      split at found
      · rename_i fits
        cases found
        exact UInt64.toNat_ofNat_of_lt' fits
      · cases found
    · rintro rfl
      rw [if_pos value.toNat_lt, UInt64.ofNat_toNat])

theorem word64_whole : word64.Whole := varint_whole.checked _ _ _

/-- Key material of a fixed length, written as `Vec<u8>`. -/
def material (n : Nat) : Positional (Octets n) :=
  blob.checked Octets.bytes (Octets.ofBytes? n) (by
    intro value bytes
    constructor
    · intro found
      exact Octets.bytes_of_ofBytes? found
    · rintro rfl
      exact Octets.ofBytes?_bytes value)

theorem material_whole (n : Nat) : (material n).Whole := blob_whole.checked _ _ _

/-- `AtbId`, the sixteen bytes of its UUID behind their number. -/
def atbId : Positional AtbId :=
  blob.checked (fun id => beBytes 16 id.uuid.toNat)
    (fun bytes => if bytes.length = 16 then some ⟨BitVec.ofNat 128 (ofBe bytes)⟩ else none) (by
    intro id bytes
    constructor
    · intro found
      split at found
      · rename_i sixteen
        cases found
        have fits : ofBe bytes < 2 ^ 128 := by
          have bound := ofBe_lt bytes
          rw [sixteen] at bound
          exact bound
        rw [BitVec.toNat_ofNat, Nat.mod_eq_of_lt fits, ← sixteen]
        exact beBytes_ofBe bytes
      · cases found
    · rintro rfl
      have fits : id.uuid.toNat < 256 ^ 16 := id.uuid.isLt
      rw [if_pos (beBytes_length ..), ofBe_beBytes fits, BitVec.ofNat_toNat, BitVec.setWidth_eq])

def cipherSuite : Positional CipherSuite :=
  enumeration [.X25519MlKem768Aes256GcmSha384, .P384MlKem1024Aes256GcmSha384,
    .X25519Aes256GcmSha384, .P256Aes256GcmSha256, .X25519ChaCha20Poly1305Sha256] (by decide)
    (by intro suite; cases suite <;> decide)

def protocolVersion : Positional ProtocolVersion :=
  enumeration [.V1, .V2] (by decide) (by intro version; cases version <;> decide)

def protocolPhase : Positional ProtocolPhase :=
  enumeration [.Init, .Preflight, .AtHsInProgress, .Attested, .AtSpInProgress, .SecretProvisioned,
    .Rtt0, .Terminated] (by decide) (by intro phase; cases phase <;> decide)

def teeClass : Positional TeeClass :=
  enumeration [.IntelSgx, .IntelTdx, .AmdSevSnp, .ArmTrustZone, .NvidiaGpu, .AwsNitro, .Tpm, .Mock,
    .Unknown] (by decide) (by intro tee; cases tee <;> decide)

/-- `QuoteType`, by its name. -/
def quoteType : Positional QuoteType :=
  (text.pair byte).converted
    (fun
      | .Unknown name => (name, 1)
      | known => (known.display, 0))
    (fun (name, mark) => some (if mark = 0 then .fromStr name else .Unknown name))
    (by rintro (_ | _ | _ | _ | _ | _ | _ | _ | _ | name) <;> rfl)

/-- `QuoteFormat`, by its name. -/
def quoteFormat : Positional QuoteFormat :=
  (text.pair byte).converted
    (fun
      | .Unknown name => (name, 1)
      | known => (known.display, 0))
    (fun (name, mark) => some (if mark = 0 then .fromStr name else .Unknown name))
    (by rintro (_ | _ | _ | _ | name) <;> rfl)

/-- `AttestQuote`. -/
def quote : Positional AttestQuote :=
  (quoteType.pair (quoteFormat.pair (blob.pair
    (blob.pair text.many)))).checked
    (fun quote => (quote.quoteType, quote.format, quote.raw, quote.qudd, quote.collateralUris))
    (fun (type, format, raw, qudd, uris) => some ⟨type, format, raw, qudd, uris⟩)
    (by
      intro value fields
      constructor
      · rintro ⟨⟩
        rfl
      · rintro rfl
        rfl)

/-- `AgentMetadata`. -/
def agent : Positional AgentMetadata :=
  (atbId.pair (text.pair (text.many.pair (text.pair
    (blob.pair (quote.optional.pair (blob.pair
      blob.optional))))))).checked
    (fun agent => (⟨agent.id⟩, agent.name, agent.capabilities, agent.endpoint, agent.publicKey,
      agent.lastQuote, agent.signature, agent.prevHash))
    (fun (id, name, capabilities, endpoint, publicKey, lastQuote, signature, prevHash) =>
      some ⟨id.uuid, name, capabilities, endpoint, publicKey, lastQuote, signature, prevHash⟩)
    (by
      intro value fields
      constructor
      · rintro ⟨⟩
        rfl
      · rintro rfl
        rfl)

/-- `ProvenanceChain`. -/
def chain : Positional ProvenanceChain :=
  agent.many.checked ProvenanceChain.hops (fun hops => some ⟨hops⟩)
    (by
      intro value fields
      constructor
      · rintro ⟨⟩
        rfl
      · rintro rfl
        rfl)

theorem quote_whole : quote.Whole :=
  (((text_whole.pair byte_whole).converted _ _ _ : quoteType.Whole).pair
    (((text_whole.pair byte_whole).converted _ _ _ : quoteFormat.Whole).pair
      (blob_whole.pair (blob_whole.pair text_whole.many)))).checked _ _ _

theorem agent_whole : agent.Whole :=
  ((blob_whole.checked _ _ _ : atbId.Whole).pair (text_whole.pair
    (text_whole.many.pair (text_whole.pair (blob_whole.pair
      (quote_whole.optional.pair (blob_whole.pair
        blob_whole.optional))))))).checked _ _ _

theorem chain_whole : chain.Whole := agent_whole.many.checked _ _ _

/-- `SealedSessionKeys`, a newtype of `SessionKeys`; `BigArray` writes the transcript hash without a
length. -/
def sessionKeys : Positional SessionKeys :=
  ((material 48).pair ((material 48).pair ((material 32).pair ((material 32).pair ((material 12).pair
    ((material 12).pair ((material 32).pair ((material 32).pair (block 48))))))))).checked
    (fun keys => (keys.masterSecret, keys.resumptionMasterSecret, keys.clientWriteKey,
      keys.serverWriteKey, keys.clientWriteIv, keys.serverWriteIv, keys.clientMacKey,
      keys.serverMacKey, keys.transcriptHash))
    (fun (master, resumption, clientKey, serverKey, clientIv, serverIv, clientMac, serverMac, hash) =>
      some ⟨master, resumption, clientKey, serverKey, clientIv, serverIv, clientMac, serverMac, hash⟩)
    (by
      intro keys fields
      constructor
      · rintro ⟨⟩
        rfl
      · rintro rfl
        rfl)

theorem sessionKeys_whole : sessionKeys.Whole :=
  ((material_whole 48).pair ((material_whole 48).pair ((material_whole 32).pair
    ((material_whole 32).pair ((material_whole 12).pair ((material_whole 12).pair
      ((material_whole 32).pair ((material_whole 32).pair (block_whole 48))))))))).checked _ _ _

/-- `EatClaims`; `tee_class` has `skip_serializing_if = "Option::is_none"`. -/
def eatClaims : Positional EatClaims :=
  (blob.optional.pair (text.optional.pair (text.optional.pair (text.optional.pair (byte.optional.pair
    (text.optional.pair (word16.optional.pair (word64.optional.pair (word64.optional.pair
      teeClass.skippable))))))))).checked
    (fun claims => (claims.ueid, claims.hwmodel, claims.hwversion, claims.oemid, claims.dbgstat,
      claims.bootProgress, claims.securityVersion, claims.iat, claims.exp, claims.teeClass))
    (fun (ueid, hwmodel, hwversion, oemid, dbgstat, bootProgress, securityVersion, iat, exp, tee) =>
      some ⟨ueid, hwmodel, hwversion, oemid, dbgstat, bootProgress, securityVersion, iat, exp, tee⟩)
    (by
      intro claims fields
      constructor
      · rintro ⟨⟩
        rfl
      · rintro rfl
        rfl)

theorem eatClaims_skipped_iff (claims : EatClaims) :
    eatClaims.skipped claims = 0 ↔ claims.teeClass ≠ none := by
  have last : eatClaims.skipped claims = teeClass.skippable.skipped claims.teeClass := by
    simp only [eatClaims, checked, blob_whole.optional.skipped_pair,
      text_whole.optional.skipped_pair, byte_whole.optional.skipped_pair,
      word16_whole.optional.skipped_pair, word64_whole.optional.skipped_pair]
  rw [last]
  cases claims.teeClass with
  | none => simp [skippable]
  | some tee => simp [skippable, teeClass, enumeration_whole _ _ _ tee]

/-- The fields of a `VerificationResult` before its secondary results. -/
def resultLabel :
    Positional (Option Bytes × EatClaims × String × Option String × Option String) :=
  blob.optional.pair (eatClaims.pair (text.pair (text.optional.pair text.optional)))

def resultEquiv :
    VerificationResult ≃ (Option Bytes × EatClaims × String × Option String × Option String) ×
      List VerificationResult where
  toFun := fun
    | .mk eatToken claims tcbStatus measurement signerId secondary =>
      ((eatToken, claims, tcbStatus, measurement, signerId), secondary)
  invFun := fun ((eatToken, claims, tcbStatus, measurement, signerId), secondary) =>
    .mk eatToken claims tcbStatus measurement signerId secondary
  left_inv := by
    rintro ⟨⟩
    rfl
  right_inv := fun _ => rfl

theorem resultEquiv_founded :
    WellFounded fun child result => child ∈ (resultEquiv result).2 := by
  apply Subrelation.wf _ (measure sizeOf).wf
  rintro child ⟨eatToken, claims, tcbStatus, measurement, signerId, secondary⟩ member
  have smaller : sizeOf child < sizeOf secondary := List.sizeOf_lt_of_mem member
  change sizeOf child < sizeOf (VerificationResult.mk _ _ _ _ _ _)
  rw [VerificationResult.mk.sizeOf_spec]
  omega

def resultShape :
    Branching VerificationResult (Option Bytes × EatClaims × String × Option String × Option String) :=
  ⟨resultEquiv, resultEquiv_founded⟩

def verificationResult : Positional VerificationResult := resultShape.positional resultLabel

theorem resultLabel_skipped_iff (eatToken : Option Bytes) (claims : EatClaims) (tcbStatus : String)
    (measurement signerId : Option String) :
    resultLabel.skipped (eatToken, claims, tcbStatus, measurement, signerId) = 0 ↔
      claims.teeClass ≠ none := by
  have texts : (text.pair (text.optional.pair text.optional)).skipped
      (tcbStatus, measurement, signerId) = 0 :=
    (text_whole.pair (text_whole.optional.pair text_whole.optional)) _
  rw [resultLabel, blob_whole.optional.skipped_pair, ← eatClaims_skipped_iff]
  change eatClaims.skipped claims + _ = 0 ↔ _
  rw [texts, Nat.add_zero]

mutual

/-- The claims of a result and of all below it. -/
def records : VerificationResult → List EatClaims
  | .mk _ claims _ _ _ secondary => claims :: recordsBelow secondary

def recordsBelow : List VerificationResult → List EatClaims
  | [] => []
  | result :: rest => records result ++ recordsBelow rest

end

theorem recordsBelow_eq (results : List VerificationResult) :
    recordsBelow results = results.flatMap records := by
  induction results with
  | nil => rfl
  | cons result rest ih => rw [recordsBelow, ih, List.flatMap_cons]

theorem verificationResult_skipped_iff (result : VerificationResult) :
    verificationResult.skipped result = 0 ↔ ∀ claims ∈ records result, claims.teeClass ≠ none := by
  induction result using resultShape.founded.induction with
  | _ result ih =>
    obtain ⟨eatToken, claims, tcbStatus, measurement, signerId, secondary⟩ := result
    have below : (secondary.map verificationResult.skipped).sum = 0 ↔
        ∀ record ∈ recordsBelow secondary, record.teeClass ≠ none := by
      rw [List.sum_eq_zero_iff_forall_eq_nat, List.forall_mem_map, recordsBelow_eq]
      simp only [List.mem_flatMap, forall_exists_index, and_imp]
      constructor
      · intro each record child member inside
        exact (ih child member).mp (each child member) record inside
      · intro each child member
        exact (ih child member).mpr fun record inside => each record child member inside
    have parts : verificationResult.skipped
        (.mk eatToken claims tcbStatus measurement signerId secondary) =
          resultLabel.skipped (eatToken, claims, tcbStatus, measurement, signerId) +
            (secondary.map verificationResult.skipped).sum :=
      resultShape.skipped_eq resultLabel _
    rw [parts, Nat.add_eq_zero_iff, resultLabel_skipped_iff, below, records, List.forall_mem_cons]

def front : Positional (AtbId × CipherSuite × ProtocolVersion × ProtocolPhase × SessionKeys × Bytes) :=
  atbId.pair (cipherSuite.pair (protocolVersion.pair (protocolPhase.pair (sessionKeys.pair blob))))

theorem front_whole : front.Whole :=
  (blob_whole.checked _ _ _ : atbId.Whole).pair ((enumeration_whole _ _ _ : cipherSuite.Whole).pair
    ((enumeration_whole _ _ _ : protocolVersion.Whole).pair
      ((enumeration_whole _ _ _ : protocolPhase.Whole).pair (sessionKeys_whole.pair blob_whole))))

def counters : Positional (UInt64 × UInt64 × UInt64 × List UInt64) :=
  word64.pair (word64.pair (word64.pair word64.many))

theorem counters_whole : counters.Whole :=
  word64_whole.pair (word64_whole.pair (word64_whole.pair word64_whole.many))

variable (time : Codec Nat)

/-- The fields of a state before its attestation result; `time` is how a `SystemTime` is written. -/
def header :
    Codec ((AtbId × CipherSuite × ProtocolVersion × ProtocolPhase × SessionKeys × Bytes) × Nat ×
      UInt64 × UInt64 × UInt64 × List UInt64) :=
  (front.codec front_whole).pair (time.pair (counters.codec counters_whole))

/-- `postcard::to_allocvec` of a `DurableSessionState`. -/
def toAllocvec (state : DurableSessionState) : Bytes :=
  (header time).write
      ((state.id, state.cipherSuite, state.version, state.phase, state.keys, state.resumptionSecret),
        state.expiresAt, state.clientCounter, state.serverCounter, state.replayHighest,
        state.replayWindow) ++
    verificationResult.optional.write state.attestationResult

/-- `postcard::from_bytes` of a `DurableSessionState`; what follows the state is ignored. -/
def fromBytes (bytes : Bytes) : Option DurableSessionState := do
  let (((id, suite, version, phase, keys, secret), expiresAt, client, server, highest, window),
    result) ← (header time).readBefore verificationResult.optional bytes
  some ⟨id, suite, version, phase, keys, secret, expiresAt, client, server, highest, window, result⟩

theorem fromBytes_toAllocvec_iff (state : DurableSessionState) :
    fromBytes time (toAllocvec time state) = some state ↔
      ∀ result, state.attestationResult = some result →
        ∀ claims ∈ records result, claims.teeClass ≠ none := by
  have skipped : verificationResult.optional.skipped state.attestationResult = 0 ↔
      ∀ result, state.attestationResult = some result →
        ∀ claims ∈ records result, claims.teeClass ≠ none := by
    cases state.attestationResult with
    | none => simp [Positional.optional]
    | some result =>
      simp only [Positional.optional, Option.elim_some, verificationResult_skipped_iff,
        Option.some.injEq, forall_eq']
  rw [← skipped, ← (header time).readBefore_iff verificationResult.optional
    ((state.id, state.cipherSuite, state.version, state.phase, state.keys, state.resumptionSecret),
      state.expiresAt, state.clientCounter, state.serverCounter, state.replayHighest,
      state.replayWindow)]
  unfold fromBytes toAllocvec
  generalize (header time).readBefore verificationResult.optional _ = found
  cases found with
  | none => simp
  | some parts =>
    obtain ⟨⟨⟨id, suite, version, phase, keys, secret⟩, expiresAt, client, server, highest, window⟩,
      result⟩ := parts
    constructor
    · rintro ⟨⟩
      rfl
    · rintro ⟨⟩
      rfl

end OpenHttpa.Core.Postcard
