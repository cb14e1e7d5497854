import Mathlib.Data.Finset.Card
import OpenHttpa.Attestation.Bundles

/-!
# Federation of verifiers

`openhttpa-attestation/src/federation.rs`. A federated verifier sends a quote to the verifier of its
TEE class and checks the result against a manifest, which is replaced while quotes are being verified
(`verify_after_updates_iff`). A manifest is admitted by its signatures. A quorum is counted over the
entries of the signature list, not over the keys in it, so a single validator can fill it
(`quorum_distinct_iff`). A bundle is checked quote by quote, and what the verifier of the first quote put
below its result is replaced by the results of the others (`bundle_overrides_iff`).
-/
namespace OpenHttpa.Attestation

open Proto

/-- `FederationEntry`; its label is not read. -/
structure FederationEntry where
  teeClass : TeeClass
  /-- The measurement in hexadecimal; the empty text stands for any. -/
  measurementHex : String
  minSvn : Option UInt16
  allowDebug : Bool

inductive ManifestSignature where
  | Operator (publicKey signature : Bytes)
  | Quorum (threshold : UInt32) (signatures : List (Bytes × Bytes))

/-- The keys that signed for a quorum. -/
def ManifestSignature.signers : ManifestSignature → List Bytes
  | Operator _ _ => []
  | Quorum _ signatures => signatures.map Prod.fst

/-- `FederationManifest`; its version and its time of issue are not read. -/
structure FederationManifest where
  expiresAt : UInt64
  entries : List FederationEntry
  signature : ManifestSignature

namespace FederationManifest

variable (manifest : FederationManifest)

/-- `FederationManifest::is_valid` at a time. -/
def isValid (now : UInt64) : Bool := now < manifest.expiresAt

def entriesFor (teeClass : TeeClass) : List FederationEntry :=
  manifest.entries.filter fun entry => entry.teeClass = teeClass

def allows (teeClass : TeeClass) (measurementHex : String) (svn : Option UInt16)
    (isDebug : Bool) : Bool :=
  (manifest.entriesFor teeClass).any fun entry =>
    let measurementOk := entry.measurementHex.isEmpty ||
      eqIgnoreAsciiCase entry.measurementHex measurementHex
    let svnOk :=
      match entry.minSvn, svn with
      | some least, some actual => decide (least ≤ actual)
      | some _, none => false
      | none, _ => true
    let debugOk := !isDebug || entry.allowDebug
    measurementOk && svnOk && debugOk

end FederationManifest

inductive ManifestTrustRoot where
  | Operator (expectedKey : Bytes)
  | Quorum (threshold : UInt32) (validators : List Bytes)
  | InsecureSkipSignatureCheck

namespace ManifestTrustRoot

def validSigs (validators : List Bytes) (signatures : List (Bytes × Bytes)) : UInt32 :=
  signatures.foldl (fun count entry => if entry.1 ∈ validators then count + 1 else count) 0

def verifyManifestSignature (trustRoot : ManifestTrustRoot) (manifest : FederationManifest) :
    Except AttestError Unit :=
  match trustRoot with
  | InsecureSkipSignatureCheck => .ok ()
  | Operator expectedKey =>
    match manifest.signature with
    | .Operator publicKey _ =>
      if publicKey ≠ expectedKey then
        .error (.PolicyViolation "FederationManifest signed by unknown operator key")
      else .ok ()
    | .Quorum _ _ => .error (.PolicyViolation
        "Expected Operator signature on FederationManifest, found different type")
  | Quorum threshold validators =>
    match manifest.signature with
    | .Quorum manifestThreshold signatures =>
      if manifestThreshold < threshold then
        .error (.PolicyViolation ("Manifest threshold " ++ toString manifestThreshold ++
          " is lower than required " ++ toString threshold))
      else if validSigs validators signatures < threshold then
        .error (.PolicyViolation ("Manifest lacks sufficient quorum: got " ++
          toString (validSigs validators signatures) ++ " valid signatures, need " ++
          toString threshold))
      else .ok ()
    | .Operator _ _ => .error (.PolicyViolation
        "Expected Quorum signature on FederationManifest, found different type")

end ManifestTrustRoot

/-- `FederatedVerifier`; the manifest behind its lock is passed along. -/
structure FederatedVerifier where
  verifiers : Table String Verify
  requireManifest : Bool
  trustRoot : ManifestTrustRoot

/-- What the check of one result reads: the manifest at that moment, and the time in seconds. -/
structure ManifestView where
  manifest : Option FederationManifest
  now : UInt64

def debugSvn : Option UInt16 → String
  | none => "None"
  | some svn => "Some(" ++ toString svn ++ ")"

namespace FederatedVerifier

def new : FederatedVerifier := ⟨.empty, true, .InsecureSkipSignatureCheck⟩

variable (federated : FederatedVerifier)

def addVendorVerifier (teeClass : TeeClass) (verify : Verify) : FederatedVerifier :=
  { federated with verifiers := federated.verifiers.insert teeClass.display verify }

/-- `FederatedVerifier::set_manifest`, with the manifest behind the lock before and after it. -/
def setManifest (live : Option FederationManifest)
    (manifest : FederationManifest) : Except AttestError Unit × Option FederationManifest :=
  match federated.trustRoot.verifyManifestSignature manifest with
  | .error failure => (.error failure, live)
  | .ok () => (.ok (), some manifest)

def routeAndVerify : Verify := fun quote reportData =>
  let teeClass := TeeClass.ofQuoteType quote.quoteType
  match federated.verifiers.find teeClass.display with
  | none => .error (.PolicyViolation
      ("FederatedVerifier: no vendor verifier registered for TEE class '" ++ teeClass.display ++ "'"))
  | some vendor => do
    let result ← vendor quote reportData
    return if result.claims.teeClass.isNone then result.withTeeClass teeClass else result

def measurementOf (result : VerificationResult) : String :=
  (result.measurement.or result.claims.bootProgress).getD ""

def checkManifest (view : ManifestView) (result : VerificationResult) : Except AttestError Unit :=
  match view.manifest with
  | none =>
    if federated.requireManifest then
      .error (.PolicyViolation ("FederatedVerifier: no FederationManifest loaded; " ++
        "refusing to accept quotes in strict mode. " ++
        "Load a manifest via FederatedVerifier::set_manifest()."))
    else .ok ()
  | some manifest =>
    if manifest.isValid view.now then
      match result.claims.teeClass with
      | none => .error (.PolicyViolation
          "FederatedVerifier: verification result is missing tee_class claim")
      | some teeClass =>
        let svn := result.claims.securityVersion
        let isDebug := decide (result.claims.dbgstat.getD 0 ≠ 0)
        if manifest.allows teeClass (measurementOf result) svn isDebug then .ok ()
        else .error (.PolicyViolation ("FederationManifest does not permit TEE class '" ++
          teeClass.display ++ "' with measurement '" ++ measurementOf result ++ "' (SVN=" ++
          debugSvn svn ++ ", debug=" ++ displayBool isDebug ++ ")"))
    else .error (.PolicyViolation "FederationManifest has expired")

def verify (view : ManifestView) : Verify := fun quote reportData => do
  let result ← federated.routeAndVerify quote reportData
  federated.checkManifest view result
  return result

/-- `FederatedVerifier::verify_bundle`; each quote comes with what its own check reads. -/
def verifyBundle (quotes : List (AttestQuote × ManifestView))
    (reportData : Octets 64) : Except AttestError VerificationResult :=
  replacingBundle (fun (quote, view) => federated.verify view quote reportData)
    (.MalformedQuote "FederatedVerifier: empty quote bundle") quotes

end FederatedVerifier

/-! ## What a manifest admits -/

namespace FederatedVerifier

variable {federated : FederatedVerifier}

/-- An entry of a manifest lists what a verifier found. -/
structure Lists (entry : FederationEntry) (result : VerificationResult) : Prop where
  teeClass : result.claims.teeClass = some entry.teeClass
  /-- The entry is for any measurement, or for this one in whatever case. -/
  measurement : entry.measurementHex = "" ∨
    eqIgnoreAsciiCase entry.measurementHex (measurementOf result) = true
  svn : ∀ least, entry.minSvn = some least →
    ∃ actual, result.claims.securityVersion = some actual ∧ least ≤ actual
  debug : result.claims.dbgstat.getD 0 ≠ 0 → entry.allowDebug = true

theorem lists_iff {manifest : FederationManifest} {result : VerificationResult} :
    (∃ teeClass, result.claims.teeClass = some teeClass ∧
      manifest.allows teeClass (measurementOf result) result.claims.securityVersion
        (decide (result.claims.dbgstat.getD 0 ≠ 0)) = true) ↔
      ∃ entry ∈ manifest.entries, Lists entry result := by
  have bounded : ∀ least actual : Option UInt16,
      (match least, actual with
        | some least, some actual => decide (least ≤ actual)
        | some _, none => false
        | none, _ => true) = true ↔
      ∀ bound, least = some bound → ∃ found, actual = some found ∧ bound ≤ found := by
    intro least actual
    cases least with
    | none => simp
    | some least => cases actual <;> simp
  have debugged : ∀ mode allowed : Bool, (!mode || allowed) = true ↔ (mode = true → allowed = true) := by
    decide
  unfold FederationManifest.allows FederationManifest.entriesFor
  simp only [List.any_eq_true, List.mem_filter, decide_eq_true_eq, Bool.and_eq_true, Bool.or_eq_true,
    String.isEmpty_iff, bounded, debugged]
  constructor
  · rintro ⟨_, known, entry, ⟨listed, rfl⟩, ⟨measured, bound⟩, debug⟩
    exact ⟨entry, listed, known, measured, bound, debug⟩
  · rintro ⟨entry, listed, known, measured, bound, debug⟩
    exact ⟨_, known, entry, ⟨listed, rfl⟩, ⟨measured, bound⟩, debug⟩

/-- Everything a quote has passed that a federated verifier accepts under a manifest. -/
structure Admitted (federated : FederatedVerifier) (manifest : FederationManifest) (now : UInt64)
    (quote : AttestQuote) (reportData : Octets 64) (result : VerificationResult) : Prop where
  routed : federated.routeAndVerify quote reportData = .ok result
  valid : now < manifest.expiresAt
  listed : ∃ entry ∈ manifest.entries, Lists entry result

theorem verify_ok_iff {manifest : FederationManifest} {now : UInt64} {quote : AttestQuote}
    {reportData : Octets 64} {result : VerificationResult} :
    federated.verify ⟨some manifest, now⟩ quote reportData = .ok result ↔
      federated.Admitted manifest now quote reportData result := by
  constructor
  · intro accepted
    obtain ⟨given, routed, rest⟩ := Core.bind_ok accepted
    obtain ⟨⟨⟩, checked, returned⟩ := Core.bind_ok rest
    cases returned
    unfold checkManifest at checked
    dsimp only at checked
    split at checked
    · rename_i valid
      split at checked
      · cases checked
      · rename_i teeClass known
        split at checked
        · rename_i allowed
          exact ⟨routed, of_decide_eq_true valid, lists_iff.mp ⟨teeClass, known, allowed⟩⟩
        · cases checked
    · cases checked
  · rintro ⟨routed, unexpired, listed⟩
    have valid : manifest.isValid now = true := decide_eq_true unexpired
    obtain ⟨teeClass, known, allowed⟩ := lists_iff.mpr listed
    have checked : federated.checkManifest ⟨some manifest, now⟩ result = .ok () := by
      simp only [checkManifest, valid, known, allowed, if_true]
    rw [verify, routed]
    change (federated.checkManifest ⟨some manifest, now⟩ result >>= fun _ => pure result) = .ok result
    rw [checked]
    rfl

/-- The manifests that the trust root accepts. -/
def trusted (federated : FederatedVerifier) (manifests : List FederationManifest) :
    List FederationManifest :=
  manifests.filter fun manifest => (federated.trustRoot.verifyManifestSignature manifest).isOk

/-- The live manifest after the updates. -/
def afterUpdates (federated : FederatedVerifier) (live : Option FederationManifest)
    (manifests : List FederationManifest) : Option FederationManifest :=
  run (fun live next => (federated.setManifest live next).2) live manifests

theorem afterUpdates_eq (live : Option FederationManifest) (manifests : List FederationManifest) :
    federated.afterUpdates live manifests = (federated.trusted manifests).getLast?.or live := by
  induction manifests generalizing live with
  | nil => rfl
  | cons next rest ih =>
    have step : federated.afterUpdates live (next :: rest) =
        federated.afterUpdates (federated.setManifest live next).2 rest := run_cons ..
    rw [step, ih, trusted, trusted, List.filter_cons, setManifest]
    cases federated.trustRoot.verifyManifestSignature next with
    | error failure => rfl
    | ok admitted =>
      simp only [Except.isOk, Except.toBool, if_true, List.getLast?_cons]
      cases List.getLast? _ <;> rfl

/-- **Live manifests.** After any updates, accepted or refused, a quote is accepted exactly if the last
manifest that the trust root admits is valid and lists what the verifier of its class finds; and as long
as there is none, exactly if that verifier accepts it and no manifest is required. -/
theorem verify_after_updates_iff (manifests : List FederationManifest) (now : UInt64)
    (quote : AttestQuote) (reportData : Octets 64) (result : VerificationResult) :
    federated.verify ⟨federated.afterUpdates none manifests, now⟩ quote reportData = .ok result ↔
      match (federated.trusted manifests).getLast? with
      | some manifest => federated.Admitted manifest now quote reportData result
      | none => federated.requireManifest = false ∧
          federated.routeAndVerify quote reportData = .ok result := by
  rw [afterUpdates_eq, Option.or_none]
  cases (federated.trusted manifests).getLast? with
  | some manifest => exact verify_ok_iff
  | none =>
    unfold verify checkManifest
    cases federated.routeAndVerify quote reportData with
    | error failure => simp [bind, Except.bind]
    | ok found => cases federated.requireManifest <;> simp [bind, Except.bind, pure, Except.pure]

end FederatedVerifier

/-! ## Quorums -/

namespace ManifestTrustRoot

theorem toNat_foldl_count (validators : List Bytes) (signatures : List (Bytes × Bytes))
    (start : UInt32) :
    (signatures.foldl (fun count entry => if entry.1 ∈ validators then count + 1 else count)
      start).toNat =
        (start.toNat + signatures.countP fun entry => decide (entry.1 ∈ validators)) % 2 ^ 32 := by
  induction signatures generalizing start with
  | nil =>
    have bound := start.toNat_lt
    simp only [List.foldl_nil, List.countP_nil]
    omega
  | cons entry rest ih =>
    rw [List.foldl_cons, ih, List.countP_cons]
    by_cases listed : entry.1 ∈ validators
    · rw [if_pos listed, if_pos (decide_eq_true listed), UInt32.toNat_add, UInt32.toNat_one]
      omega
    · rw [if_neg listed, if_neg (by simpa using listed)]
      omega

theorem toNat_validSigs (validators : List Bytes) (signatures : List (Bytes × Bytes)) :
    (validSigs validators signatures).toNat =
      (signatures.countP fun entry => decide (entry.1 ∈ validators)) % 2 ^ 32 := by
  rw [validSigs, toNat_foldl_count]
  simp

theorem quorum_ok_iff (threshold : UInt32) (validators : List Bytes) (manifest : FederationManifest) :
    (Quorum threshold validators).verifyManifestSignature manifest = .ok () ↔
      ∃ manifestThreshold signatures, manifest.signature = .Quorum manifestThreshold signatures ∧
        threshold ≤ manifestThreshold ∧ threshold ≤ validSigs validators signatures := by
  unfold verifyManifestSignature
  dsimp only
  cases manifest.signature with
  | Operator publicKey signature => simp
  | Quorum manifestThreshold signatures =>
    have reduced : (∃ least entries, ManifestSignature.Quorum manifestThreshold signatures =
        .Quorum least entries ∧ threshold ≤ least ∧ threshold ≤ validSigs validators entries) ↔
          threshold ≤ manifestThreshold ∧ threshold ≤ validSigs validators signatures := by
      simp
    rw [reduced]
    dsimp only
    split
    · rename_i low
      simp [UInt32.not_le.mpr low]
    · rename_i enough
      split
      · rename_i few
        simp [UInt32.not_le.mpr few]
      · rename_i sufficient
        simp [UInt32.not_lt.mp enough, UInt32.not_lt.mp sufficient]

end ManifestTrustRoot

/-- The validators that signed the manifest. -/
def validatorsIn (validators : List Bytes) (manifest : FederationManifest) : Finset Bytes :=
  validators.toFinset ∩ manifest.signature.signers.toFinset

theorem validatorsIn_quorum {validators : List Bytes} {manifest : FederationManifest}
    {manifestThreshold : UInt32} {signatures : List (Bytes × Bytes)}
    (quorum : manifest.signature = .Quorum manifestThreshold signatures) :
    validatorsIn validators manifest =
      ((signatures.filter fun entry => decide (entry.1 ∈ validators)).map Prod.fst).toFinset := by
  ext key
  simp only [validatorsIn, quorum, ManifestSignature.signers, Finset.mem_inter, List.mem_toFinset,
    List.mem_map, List.mem_filter, decide_eq_true_eq]
  constructor
  · rintro ⟨listed, entry, member, rfl⟩
    exact ⟨entry, ⟨member, listed⟩, rfl⟩
  · rintro ⟨entry, ⟨member, listed⟩, rfl⟩
    exact ⟨listed, entry, member, rfl⟩

namespace FederatedVerifier

def signedByOne (threshold : UInt32) (validator : Bytes) : FederationManifest where
  expiresAt := u64Max
  entries := []
  signature := .Quorum threshold (List.replicate threshold.toNat (validator, []))

section Quorum

variable {federated : FederatedVerifier} {threshold : UInt32} {validators : List Bytes}
  (quorum : federated.trustRoot = .Quorum threshold validators)
include quorum

theorem setManifest_quorum_iff (live : Option FederationManifest) (manifest : FederationManifest) :
    (federated.setManifest live manifest).1 = .ok () ↔
      ∃ manifestThreshold signatures, manifest.signature = .Quorum manifestThreshold signatures ∧
        threshold ≤ manifestThreshold ∧
        threshold ≤ ManifestTrustRoot.validSigs validators signatures := by
  rw [← ManifestTrustRoot.quorum_ok_iff, ← quorum]
  unfold setManifest
  split
  · rename_i failed
    simp [failed]
  · rename_i verified
    simp [verified]

theorem threshold_le_count {live : Option FederationManifest} {manifest : FederationManifest}
    (accepted : (federated.setManifest live manifest).1 = .ok ()) :
    ∃ manifestThreshold signatures, manifest.signature = .Quorum manifestThreshold signatures ∧
      threshold.toNat ≤ signatures.countP fun entry => decide (entry.1 ∈ validators) := by
  obtain ⟨manifestThreshold, signatures, signed, -, sufficient⟩ :=
    (setManifest_quorum_iff quorum live manifest).mp accepted
  refine ⟨manifestThreshold, signatures, signed, ?_⟩
  have counted := UInt32.le_iff_toNat_le.mp sufficient
  rw [ManifestTrustRoot.toNat_validSigs] at counted
  exact counted.trans (Nat.mod_le _ _)

theorem threshold_le_validators_of_nodup
    {live : Option FederationManifest} {manifest : FederationManifest}
    (accepted : (federated.setManifest live manifest).1 = .ok ())
    (once : manifest.signature.signers.Nodup) :
    threshold.toNat ≤ (validatorsIn validators manifest).card := by
  obtain ⟨manifestThreshold, signatures, signed, enough⟩ := threshold_le_count quorum accepted
  rw [validatorsIn_quorum signed]
  rw [signed] at once
  rw [List.toFinset_card_of_nodup (once.sublist (List.filter_sublist.map Prod.fst)), List.length_map,
    ← List.countP_eq_length_filter]
  exact enough

theorem setManifest_signedByOne {validator : Bytes} (listed : validator ∈ validators)
    (live : Option FederationManifest) :
    (federated.setManifest live (signedByOne threshold validator)).1 = .ok () := by
  rw [setManifest_quorum_iff quorum]
  refine ⟨threshold, _, rfl, UInt32.le_refl _, UInt32.le_iff_toNat_le.mpr ?_⟩
  have bound := threshold.toNat_lt
  rw [ManifestTrustRoot.toNat_validSigs, List.countP_replicate, if_pos (decide_eq_true listed)]
  omega

end Quorum

/-- **Quorums.** Every manifest that a quorum accepts is signed by as many different validators as its
threshold says, exactly if the threshold is at most one or there are no validators. One that names no
signer twice always is. -/
theorem quorum_distinct_iff (threshold : UInt32) (validators : List Bytes) :
    ((∀ (federated : FederatedVerifier) (live : Option FederationManifest)
        (manifest : FederationManifest), federated.trustRoot = .Quorum threshold validators →
      (federated.setManifest live manifest).1 = .ok () →
        threshold.toNat ≤ (validatorsIn validators manifest).card) ↔
      threshold.toNat ≤ 1 ∨ validators = []) ∧
    ∀ (federated : FederatedVerifier) (live : Option FederationManifest)
        (manifest : FederationManifest), federated.trustRoot = .Quorum threshold validators →
      (federated.setManifest live manifest).1 = .ok () → manifest.signature.signers.Nodup →
        threshold.toNat ≤ (validatorsIn validators manifest).card := by
  refine ⟨?_, fun federated live manifest quorum accepted once =>
    threshold_le_validators_of_nodup quorum accepted once⟩
  constructor
  · intro distinct
    by_contra many
    obtain ⟨large, some⟩ := not_or.mp many
    obtain ⟨validator, listed⟩ := List.exists_mem_of_ne_nil validators some
    have enough := distinct { new with trustRoot := .Quorum threshold validators } none
      (signedByOne threshold validator) rfl (setManifest_signedByOne rfl listed none)
    have single : validatorsIn validators (signedByOne threshold validator) ⊆ {validator} := by
      intro key member
      have signed := (Finset.mem_inter.mp member).2
      simp only [signedByOne, ManifestSignature.signers, List.map_replicate, List.mem_toFinset] at signed
      exact Finset.mem_singleton.mpr (List.eq_of_mem_replicate signed)
    have few := Finset.card_le_card single
    rw [Finset.card_singleton] at few
    omega
  · intro small federated live manifest quorum accepted
    obtain ⟨manifestThreshold, signatures, signed, enough⟩ := threshold_le_count quorum accepted
    rcases Nat.eq_zero_or_pos threshold.toNat with zero | positive
    · omega
    · obtain ⟨entry, member, listed⟩ := List.countP_pos_iff.mp (Nat.lt_of_lt_of_le positive enough)
      have inside : entry.1 ∈ validatorsIn validators manifest := by
        rw [validatorsIn_quorum signed, List.mem_toFinset]
        exact List.mem_map_of_mem (List.mem_filter.mpr ⟨member, listed⟩)
      have occupied := Finset.card_pos.mpr ⟨entry.1, inside⟩
      rcases small with one | none
      · omega
      · simp [none] at listed

/-- Two entries of one validator meet a threshold of two among two validators. -/
theorem one_validator_fills_quorum :
    (setManifest { new with trustRoot := .Quorum 2 [[1], [2]] } none
        ⟨u64Max, [], .Quorum 2 [([1], [7]), ([1], [8])]⟩).1 = .ok () ∧
      (validatorsIn [[1], [2]] ⟨u64Max, [], .Quorum 2 [([1], [7]), ([1], [8])]⟩).card = 1 := by
  decide

end FederatedVerifier

/-! ## Bundles -/

/-- **Bundles.** For every bundle with a quote in it, both overrides return when the default built on
the same verifier does, and fail with its error; and they return its result exactly if nothing is below
the result for the first quote, or a quote is refused. -/
theorem bundle_overrides_iff (composite : CompositeVerifier) (federated : FederatedVerifier)
    (reportData : Octets 64) (first : AttestQuote × ManifestView)
    (rest : List (AttestQuote × ManifestView)) :
    ((composite.verifyBundle (first.1 :: rest.map Prod.fst) reportData).map (fun _ => ()) =
        (verifyBundle (fun quote => composite.verify quote reportData)
          (first.1 :: rest.map Prod.fst)).map (fun _ => ())) ∧
      ((federated.verifyBundle (first :: rest) reportData).map (fun _ => ()) =
        (verifyBundle (fun (quote, view) => federated.verify view quote reportData)
          (first :: rest)).map (fun _ => ())) ∧
      (composite.verifyBundle (first.1 :: rest.map Prod.fst) reportData =
          verifyBundle (fun quote => composite.verify quote reportData)
            (first.1 :: rest.map Prod.fst) ↔
        NothingBelow (fun quote => composite.verify quote reportData) first.1
          (rest.map Prod.fst)) ∧
      (federated.verifyBundle (first :: rest) reportData =
          verifyBundle (fun (quote, view) => federated.verify view quote reportData) (first :: rest) ↔
        NothingBelow (fun (quote, view) => federated.verify view quote reportData) first rest) :=
  ⟨replacingBundle_outcome _ _ _, replacingBundle_outcome _ _ _, replacingBundle_eq_iff _ _ _,
    replacingBundle_eq_iff _ _ _⟩

def nestingVerify : Verify := fun _ _ => .ok (VerificationResult.default.withSecondary [.default])

def mockQuote : AttestQuote := ⟨.Mock, .Raw, [], [], []⟩

def wildcardManifest : FederationManifest := ⟨u64Max, [⟨.Mock, "", none, true⟩], .Operator [] []⟩

/-- For a single quote, the default keeps the result below it; both overrides drop it. -/
theorem overrides_drop_result :
    ((verifyBundle (fun quote => (CompositeVerifier.new.addVerifier .Mock nestingVerify).verify quote
        (.zero 64)) [mockQuote]).map fun result => result.secondary.length) = .ok 1 ∧
      (((CompositeVerifier.new.addVerifier .Mock nestingVerify).verifyBundle [mockQuote]
        (.zero 64)).map fun result => result.secondary.length) = .ok 0 ∧
      ((verifyBundle (fun (quote, view) => (FederatedVerifier.new.addVendorVerifier .Mock
        nestingVerify).verify view quote (.zero 64)) [(mockQuote, ⟨some wildcardManifest, 0⟩)]).map
          fun result => result.secondary.length) = .ok 1 ∧
      (((FederatedVerifier.new.addVendorVerifier .Mock nestingVerify).verifyBundle
        [(mockQuote, ⟨some wildcardManifest, 0⟩)] (.zero 64)).map
          fun result => result.secondary.length) = .ok 0 := by
  decide

end OpenHttpa.Attestation
