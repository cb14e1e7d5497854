import OpenHttpa.Core.Handshake
import OpenHttpa.Fabric.Versions

/-!
# Replication between nodes

`openhttpa-fabric/src/replication.rs`. A node sends a state delta together with a quote whose
report data is the hash of the namespace and the key, joined by a colon, and a node that receives a
delta has the quote verified against the same hash before it puts the value into its store. Neither
the value nor the version vector goes into the hash, so a quote is good for every delta of the same
joined text.
-/
namespace OpenHttpa.Fabric

open OpenHttpa.Core Crypto Proto

structure SyncPayload where
  nspace : String
  key : String
  data : Bytes
  version : VersionVector
  provenance : Option ProvenanceChain
  quote : Option AttestQuote

namespace SyncPayload

/-- `format!("{}:{}", payload.namespace, payload.key)`. -/
def msg (payload : SyncPayload) : String := payload.nspace ++ ":" ++ payload.key

def binding (sha384 : Bytes → Octets 48) (payload : SyncPayload) : Octets 64 where
  bytes := (sha384 (utf8 payload.msg)).bytes ++ List.replicate 16 0
  length_eq := by simp [(sha384 (utf8 payload.msg)).length_eq]

end SyncPayload

def validateSync (sha384 : Bytes → Octets 48) (senderId : String) (payload : SyncPayload)
    (verify : QuoteVerifier) : Except String Unit :=
  match payload.quote with
  | none => .error ("Rejected state delta from " ++ senderId ++ ": missing attestation quote")
  | some quote =>
    match verify quote (payload.binding sha384) with
    | .error reason =>
      .error ("Rejected unauthenticated state delta from " ++ senderId ++ ": " ++ reason)
    | .ok _ => .ok ()

/-- No quote verifies for two report data. -/
def Binds (verify : QuoteVerifier) : Prop :=
  ∀ quote first second, (verify quote first).isOk = true → (verify quote second).isOk = true →
    first = second

variable {sha384 : Bytes → Octets 48}

theorem validateSync_ok_iff (senderId : String) (payload : SyncPayload) (verify : QuoteVerifier) :
    validateSync sha384 senderId payload verify = .ok () ↔
      ∃ quote, payload.quote = some quote ∧ (verify quote (payload.binding sha384)).isOk = true := by
  unfold validateSync
  cases payload.quote with
  | none => simp
  | some quote =>
    cases verified : verify quote (payload.binding sha384) with
    | error | ok => simp [verified, Except.isOk, Except.toBool]

theorem binding_eq_iff (first second : SyncPayload) :
    first.binding sha384 = second.binding sha384 ↔
      sha384 (utf8 first.msg) = sha384 (utf8 second.msg) := by
  constructor
  · intro same
    have bytes := congrArg Octets.bytes same
    exact Octets.ext (List.append_cancel_right bytes)
  · intro same
    unfold SyncPayload.binding
    simp only [same]

def acceptsOnly (reportData : Octets 64) : QuoteVerifier := fun _ given =>
  if given = reportData then .ok .default else .error "report data mismatch"

theorem acceptsOnly_binds (reportData : Octets 64) : Binds (acceptsOnly reportData) := by
  have only : ∀ quote given, (acceptsOnly reportData quote given).isOk = true →
      given = reportData := by
    intro quote given accepted
    by_contra apart
    simp [acceptsOnly, apart, Except.isOk, Except.toBool] at accepted
  intro quote first second one two
  rw [only quote first one, only quote second two]

/-- No quote is accepted for both of two deltas, by any verifier that accepts a quote for one report
data at most, exactly when their namespaces and keys differ as joined texts. -/
theorem no_quote_for_both_iff (first second : SyncPayload)
    (collisionFree : sha384 (utf8 first.msg) = sha384 (utf8 second.msg) →
      utf8 first.msg = utf8 second.msg) :
    (∀ verify, Binds verify → ∀ quote firstSender secondSender,
      ¬ (validateSync sha384 firstSender { first with quote := some quote } verify = .ok () ∧
        validateSync sha384 secondSender { second with quote := some quote } verify = .ok ())) ↔
    first.msg ≠ second.msg := by
  constructor
  · intro never same
    let reportData := first.binding sha384
    have shared : second.binding sha384 = reportData := by
      rw [binding_eq_iff, same]
    have accepted : ∀ quote, (acceptsOnly reportData quote reportData).isOk = true := by
      intro quote
      simp [acceptsOnly, Except.isOk, Except.toBool]
    let quote : AttestQuote := ⟨.Mock, .Raw, [], [], []⟩
    refine never (acceptsOnly reportData) (acceptsOnly_binds reportData) quote "" "" ⟨?_, ?_⟩
    · exact (validateSync_ok_iff ..).mpr ⟨quote, rfl, accepted quote⟩
    · refine (validateSync_ok_iff ..).mpr ⟨quote, rfl, ?_⟩
      exact shared ▸ accepted quote
  · rintro apart verify binds quote firstSender secondSender ⟨one, two⟩
    obtain ⟨used, here, acceptedFirst⟩ := (validateSync_ok_iff ..).mp one
    obtain ⟨again, there, acceptedSecond⟩ := (validateSync_ok_iff ..).mp two
    obtain rfl := Option.some_inj.mp here
    obtain rfl := Option.some_inj.mp there
    have same := binds quote _ _ acceptedFirst acceptedSecond
    have hashes : sha384 (utf8 first.msg) = sha384 (utf8 second.msg) :=
      (binding_eq_iff first second).mp same
    exact apart (utf8_injective (collisionFree hashes))

def firstBytes (bytes : Bytes) : Octets 48 where
  bytes := (bytes ++ List.replicate 48 0).take 48
  length_eq := by simp

def delta (nspace key : String) (data : Bytes) (clock : UInt64) : SyncPayload :=
  ⟨nspace, key, data, .single "node" clock, none, some ⟨.Mock, .Raw, [], [], []⟩⟩

theorem two_keys_share_no_quote :
    (delta "ns" "left" [1] 1).msg ≠ (delta "ns" "right" [1] 1).msg ∧
    ∀ verify, Binds verify → ∀ quote firstSender secondSender,
      ¬ (validateSync firstBytes firstSender { delta "ns" "left" [1] 1 with quote := some quote }
          verify = .ok () ∧
        validateSync firstBytes secondSender { delta "ns" "right" [1] 1 with quote := some quote }
          verify = .ok ()) :=
  ⟨by decide +kernel,
    (no_quote_for_both_iff _ _ (by decide +kernel)).mpr (by decide +kernel)⟩

/-- One quote is accepted for two deltas that differ in the value and the version vector, and for
two that differ in the namespace and the key. -/
theorem quote_accepted_for_both :
    Binds (acceptsOnly ((delta "ns" "key" [1] 1).binding firstBytes)) ∧
    validateSync firstBytes "peer" (delta "ns" "key" [1] 1)
      (acceptsOnly ((delta "ns" "key" [1] 1).binding firstBytes)) = .ok () ∧
    validateSync firstBytes "peer" (delta "ns" "key" [2] 9)
      (acceptsOnly ((delta "ns" "key" [1] 1).binding firstBytes)) = .ok () ∧
    Binds (acceptsOnly ((delta "a:b" "c" [1] 1).binding firstBytes)) ∧
    validateSync firstBytes "peer" (delta "a:b" "c" [1] 1)
      (acceptsOnly ((delta "a:b" "c" [1] 1).binding firstBytes)) = .ok () ∧
    validateSync firstBytes "peer" (delta "a" "b:c" [1] 1)
      (acceptsOnly ((delta "a:b" "c" [1] 1).binding firstBytes)) = .ok () := by
  refine ⟨acceptsOnly_binds _, ?_, ?_, acceptsOnly_binds _, ?_, ?_⟩
  all_goals decide +kernel

end OpenHttpa.Fabric
