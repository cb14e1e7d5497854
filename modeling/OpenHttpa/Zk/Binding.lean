import OpenHttpa.Zk.Guest

/-!
# What the report data binds

The journal of the guest has the transcript hash, the hash of the oracle data and the AI provenance
of its input in it, whatever the mode. The report data is the hash of a message that has only some
of the three in it: the transcript in a handshake and for a compressed quote, the provenance in the
mode for verified AI, the transcript and the oracle data in the mode for oracles. Nothing determines
the others: two journals with one report data agree exactly if the parts that their mode leaves out
do (`journals_agree_iff`).
-/
namespace OpenHttpa.Zk.Guest

open OpenHttpa.Core

/-- What a quote can be bound to. -/
inductive Bound where
  | transcript (transcriptHash : Octets 48)
  | provenance (vai : VaiInput)
  | oracle (transcriptHash : Octets 48) (oracleData : Bytes)

def Bound.message : Bound → Bytes
  | transcript transcriptHash => handshakeMessage transcriptHash
  | provenance vai => vaiMessage vai
  | oracle transcriptHash oracleData => oracleMessage transcriptHash oracleData

/-- What the quote of the input is bound to. -/
def boundBy (input : ZkInput) : Option Bound :=
  match input.mode with
  | .Handshake | .DcapCompression => some (.transcript input.transcriptHash)
  | .VerifiedAi => input.vaiData.map .provenance
  | .Oracle => input.oracleData.map (.oracle input.transcriptHash)

def Bound.HeldBy (input : ZkInput) : Bound → Prop
  | transcript transcriptHash => input.transcriptHash = transcriptHash
  | provenance vai => input.vaiData = some vai
  | oracle transcriptHash oracleData =>
    input.transcriptHash = transcriptHash ∧ input.oracleData = some oracleData

theorem boundBy_held {input : ZkInput} {bound : Bound} (bounds : boundBy input = some bound) :
    bound.HeldBy input := by
  unfold boundBy at bounds
  split at bounds
  · cases bounds
    rfl
  · cases bounds
    rfl
  · obtain ⟨vai, present, rfl⟩ := Option.map_eq_some_iff.mp bounds
    exact present
  · obtain ⟨data, present, rfl⟩ := Option.map_eq_some_iff.mp bounds
    exact ⟨rfl, present⟩

/-- The byte that tells the kind of a message: `h`, `v` or `o`. -/
def Bound.mark : Bound → UInt8
  | transcript _ => 104
  | provenance _ => 118
  | oracle _ _ => 111

theorem Bound.message_mark (bound : Bound) : bound.message[10]? = some bound.mark := by
  cases bound with
  | transcript transcriptHash =>
    rw [message, handshakeMessage, List.getElem?_append_left (by decide +kernel), mark]
    decide +kernel
  | provenance vai =>
    rw [message, vaiMessage, List.getElem?_append_left (by decide +kernel), mark]
    decide +kernel
  | oracle transcriptHash oracleData =>
    rw [message, oracleMessage, List.getElem?_append_left (by decide +kernel), mark]
    decide +kernel

theorem Bound.message_injective : Function.Injective Bound.message := by
  intro left right same
  have marks : left.mark = right.mark := by
    have marked := left.message_mark
    rw [same, right.message_mark] at marked
    exact (Option.some.inj marked).symm
  cases left with
  | transcript hash =>
    cases right with
    | transcript other => rw [Octets.ext (List.append_cancel_left same)]
    | provenance | oracle => exact absurd marks (by simp [mark])
  | provenance vai =>
    cases right with
    | transcript other => exact absurd marks (by simp [mark])
    | provenance other =>
      have rest := List.append_cancel_left same
      have models := List.append_inj rest (vai.modelId.length_eq.trans other.modelId.length_eq.symm)
      have hashes := List.append_inj models.2
        (vai.inputHash.length_eq.trans other.inputHash.length_eq.symm)
      cases vai
      cases other
      simp only [provenance.injEq, VaiInput.mk.injEq]
      exact ⟨Octets.ext models.1, Octets.ext hashes.1, Octets.ext hashes.2⟩
    | oracle other data => exact absurd marks (by simp [mark])
  | oracle hash data =>
    cases right with
    | transcript | provenance => exact absurd marks (by simp [mark])
    | oracle other data' =>
      have rest := List.append_cancel_left same
      have parts := List.append_inj rest (hash.length_eq.trans other.length_eq.symm)
      rw [Octets.ext parts.1, parts.2]

section Runs

variable {Certificate Key Signature : Type} {prim : GuestPrimitives Certificate Key Signature}

theorem checkBinding_iff {input : ZkInput} :
    checkBinding prim input = .ok () ↔
      ∃ bound, boundBy input = some bound ∧ input.reportData = prim.sha512 bound.message := by
  have asserted : ∀ message text, assertBinding prim input message text = .ok () ↔
      input.reportData = prim.sha512 message := by
    intro message text
    unfold assertBinding
    split <;> simp [*]
  unfold checkBinding boundBy
  cases input.mode with
  | Handshake => simp [asserted, Bound.message]
  | VerifiedAi =>
    cases input.vaiData with
    | none => simp [expect, bind, Except.bind]
    | some vai => simp [expect, bind, Except.bind, asserted, Bound.message]
  | Oracle =>
    cases input.oracleData with
    | none => simp [expect, bind, Except.bind]
    | some data => simp [expect, bind, Except.bind, asserted, Bound.message]
  | DcapCompression => simp [asserted, Bound.message]

theorem execute_ok {mock : Bool} {input : ZkInput} {output : ZkOutput}
    (committed : execute prim mock input = .ok output) :
    checkBinding prim input = .ok () ∧ verifyDcap prim input = .ok output.dcapVerified ∧
      output = outputOf prim input output.dcapVerified := by
  obtain ⟨_, -, committed⟩ := bind_ok committed
  obtain ⟨⟨⟩, binding, committed⟩ := bind_ok committed
  obtain ⟨verified, checked, committed⟩ := bind_ok committed
  cases committed
  exact ⟨binding, checked, rfl⟩

/-- The parts of the journal that the mode of the first input does not bind are the same. -/
def UnboundAgree (left right : ZkInput) : Prop :=
  match left.mode with
  | .Handshake | .DcapCompression =>
    left.oracleData.getD [] = right.oracleData.getD [] ∧ left.vaiData = right.vaiData
  | .VerifiedAi =>
    left.transcriptHash = right.transcriptHash ∧
      left.oracleData.getD [] = right.oracleData.getD []
  | .Oracle => left.vaiData = right.vaiData

theorem vaiOutput_eq_iff {left right : ZkInput} {verified other : Bool} :
    (outputOf prim left verified).vaiOutput = (outputOf prim right other).vaiOutput ↔
      left.vaiData = right.vaiData := by
  apply (Option.map_injective ?_).eq_iff
  rintro ⟨⟩ ⟨⟩ same
  cases same
  rfl

/-- **Binding.** Of two inputs with the same report data whose journals are committed, with no collision
between the messages they bind and between their oracle data, the transcript hash, the hash of the
oracle data and the provenance in the journals are the same exactly if the parts that the mode does not
bind are. -/
theorem journals_agree_iff (prim : GuestPrimitives Certificate Key Signature) (mock : Bool)
    (left right : ZkInput) (leftOutput rightOutput : ZkOutput)
    (leftCommitted : execute prim mock left = .ok leftOutput)
    (rightCommitted : execute prim mock right = .ok rightOutput)
    (same : left.reportData = right.reportData)
    (messages : ∀ one other, boundBy left = some one → boundBy right = some other →
      prim.sha512 one.message = prim.sha512 other.message → one.message = other.message)
    (payloads : prim.sha256 (left.oracleData.getD []) = prim.sha256 (right.oracleData.getD []) →
      left.oracleData.getD [] = right.oracleData.getD []) :
    (leftOutput.transcriptHash = rightOutput.transcriptHash ∧
      leftOutput.oraclePayloadHash = rightOutput.oraclePayloadHash ∧
      leftOutput.vaiOutput = rightOutput.vaiOutput) ↔ UnboundAgree left right := by
  obtain ⟨leftBinding, -, leftWritten⟩ := execute_ok leftCommitted
  obtain ⟨rightBinding, -, rightWritten⟩ := execute_ok rightCommitted
  obtain ⟨bound, leftBound, leftHash⟩ := checkBinding_iff.mp leftBinding
  obtain ⟨other, rightBound, rightHash⟩ := checkBinding_iff.mp rightBinding
  -- The report data is one, so both bind the same.
  have hashes : prim.sha512 bound.message = prim.sha512 other.message := by
    rw [← leftHash, ← rightHash, same]
  have one : bound = other :=
    Bound.message_injective (messages bound other leftBound rightBound hashes)
  rw [← one] at rightBound
  have payload : (outputOf prim left leftOutput.dcapVerified).oraclePayloadHash =
      (outputOf prim right rightOutput.dcapVerified).oraclePayloadHash ↔
        left.oracleData.getD [] = right.oracleData.getD [] :=
    ⟨payloads, congrArg prim.sha256⟩
  have held := boundBy_held rightBound
  rw [leftWritten, rightWritten, vaiOutput_eq_iff, payload]
  change left.transcriptHash = right.transcriptHash ∧ _ ↔ _
  unfold UnboundAgree
  unfold boundBy at leftBound
  cases mode : left.mode with
  | Handshake =>
    rw [mode] at leftBound
    cases leftBound
    exact and_iff_right held.symm
  | VerifiedAi =>
    rw [mode] at leftBound
    obtain ⟨vai, present, rfl⟩ := Option.map_eq_some_iff.mp leftBound
    have claims : left.vaiData = right.vaiData := present.trans held.symm
    simp only [claims, and_true]
  | Oracle =>
    rw [mode] at leftBound
    obtain ⟨data, present, rfl⟩ := Option.map_eq_some_iff.mp leftBound
    have transcripts : left.transcriptHash = right.transcriptHash := held.1.symm
    have data : left.oracleData = right.oracleData := present.trans held.2.symm
    simp only [transcripts, data, true_and]
  | DcapCompression =>
    rw [mode] at leftBound
    cases leftBound
    exact and_iff_right held.symm

theorem execute_exchanged {mock : Bool} {input other : ZkInput} {output : ZkOutput}
    (committed : execute prim mock input = .ok output) (mode : other.mode = input.mode)
    (quote : other.quoteBytes = input.quoteBytes)
    (collateral : other.dcapCollateral = input.dcapCollateral)
    (same : other.reportData = input.reportData) (bound : boundBy other = boundBy input) :
    execute prim mock other = .ok (outputOf prim other output.dcapVerified) := by
  obtain ⟨binding, checked, -⟩ := execute_ok committed
  obtain ⟨found, signature⟩ := checkQuoteSignature_ok prim mock other
  have otherBinding : checkBinding prim other = .ok () := by
    rw [checkBinding_iff] at binding ⊢
    rw [bound, same]
    exact binding
  have otherChecked : verifyDcap prim other = .ok output.dcapVerified := by
    rw [← checked]
    unfold verifyDcap
    rw [mode, quote, collateral, same]
  unfold execute
  rw [signature, otherBinding, otherChecked]
  rfl

end Runs

def handshake (vaiData : Option VaiInput) : ZkInput where
  mode := .Handshake
  transcriptHash := .zero 48
  quoteBytes := []
  reportData := .zero 64
  oracleData := none
  vaiData
  dcapCollateral := none

def someClaim : VaiInput := ⟨.repeated 32 1, .repeated 32 2, .repeated 32 3⟩

theorem handshake_journals_agree_iff :
    ((outputOf plain (handshake none) false).transcriptHash =
        (outputOf plain (handshake (some someClaim)) false).transcriptHash ∧
      (outputOf plain (handshake none) false).oraclePayloadHash =
        (outputOf plain (handshake (some someClaim)) false).oraclePayloadHash ∧
      (outputOf plain (handshake none) false).vaiOutput =
        (outputOf plain (handshake (some someClaim)) false).vaiOutput) ↔
      UnboundAgree (handshake none) (handshake (some someClaim)) :=
  journals_agree_iff plain false (handshake none) (handshake (some someClaim)) _ _ rfl rfl rfl
    (by
      intro one other bound again _
      cases bound
      cases again
      rfl) fun _ => rfl

/-- The claim is attached to report data that binds the transcript alone. -/
theorem claim_attached :
    (handshake none).reportData = (handshake (some someClaim)).reportData ∧
      boundBy (handshake none) = boundBy (handshake (some someClaim)) ∧
      execute plain false (handshake none) = .ok (outputOf plain (handshake none) false) ∧
      execute plain false (handshake (some someClaim)) =
        .ok (outputOf plain (handshake (some someClaim)) false) ∧
      (outputOf plain (handshake none) false).vaiOutput ≠
        (outputOf plain (handshake (some someClaim)) false).vaiOutput :=
  ⟨rfl, rfl, rfl, rfl, nofun⟩

end OpenHttpa.Zk.Guest
