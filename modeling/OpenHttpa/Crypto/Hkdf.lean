import OpenHttpa.Lib.Bytes

/-!
# Session key schedule

`openhttpa-crypto/src/hkdf.rs`. HKDF itself is a parameter: an extract step, and an expand step
that fails only when more than 255 blocks are asked for. `SessionKeys::derive` binds every key
slot to the handshake transcript, `SessionKeys::derive_0rtt` to the salt of a resumption. The schedule
asks for at most 48 bytes at a time, so neither can fail.
-/
namespace OpenHttpa.Crypto

/-- HKDF over a hash with `hashLen`-byte output. -/
structure Hkdf (hashLen : Nat) where
  /-- `Hkdf::extract`; an absent salt stands for a string of zeros. -/
  extract : Option Bytes → Bytes → Octets hashLen
  expand : Octets hashLen → Bytes → (length : Nat) → Option (Octets length)
  expand_isSome : ∀ prk info length, length ≤ 255 * hashLen → (expand prk info length).isSome

def Hkdf.zero (hashLen : Nat) : Hkdf hashLen :=
  ⟨fun _ _ => .zero hashLen, fun _ _ length => some (.zero length), fun _ _ _ _ => rfl⟩

inductive HkdfError where
  | ExtractFailed
  | ExpandFailed
deriving DecidableEq

structure HkdfExpander where
  prk : Octets 48

namespace HkdfExpander

def extractSha384 (hkdf : Hkdf 48) (salt ikm : Bytes) : HkdfExpander :=
  let saltOpt := if salt.isEmpty then none else some salt
  ⟨hkdf.extract saltOpt ikm⟩

/-- `HkdfExpander::expand`; the pseudorandom key has the length `Hkdf::from_prk` requires. -/
def expand (hkdf : Hkdf 48) (expander : HkdfExpander) (info : Bytes) (outLen : Nat) :
    Except HkdfError (Octets outLen) :=
  match hkdf.expand expander.prk info outLen with
  | none => .error .ExpandFailed
  | some out => .ok out

end HkdfExpander

@[ext]
structure SessionKeys where
  masterSecret : Octets 48
  resumptionMasterSecret : Octets 48
  clientWriteKey : Octets 32
  serverWriteKey : Octets 32
  clientWriteIv : Octets 12
  serverWriteIv : Octets 12
  clientMacKey : Octets 32
  serverMacKey : Octets 32
  transcriptHash : Octets 48
deriving DecidableEq

namespace SessionKeys

def zero : SessionKeys :=
  ⟨.zero 48, .zero 48, .zero 32, .zero 32, .zero 12, .zero 12, .zero 32, .zero 32, .zero 48⟩

/-- The `make_info` closure: version prefix, label, a zero byte, and the binding. -/
def makeInfo (versionPrefix binding : Bytes) (label : String) : Bytes :=
  versionPrefix ++ utf8 label ++ [0] ++ binding

variable (hkdf : Hkdf 48) (expander : HkdfExpander)

def expandSlots (info : String → Bytes)
    (transcriptHash : Octets 48) : Except HkdfError SessionKeys := do
  let masterSecret ← expander.expand hkdf (info "master secret") 48
  let resumptionMasterSecret ← expander.expand hkdf (info "res master") 48
  let clientWriteKey ← expander.expand hkdf (info "client write key") 32
  let serverWriteKey ← expander.expand hkdf (info "server write key") 32
  let clientWriteIv ← expander.expand hkdf (info "client write iv") 12
  let serverWriteIv ← expander.expand hkdf (info "server write iv") 12
  let clientMacKey ← expander.expand hkdf (info "client mac key") 32
  let serverMacKey ← expander.expand hkdf (info "server mac key") 32
  return { masterSecret, resumptionMasterSecret, clientWriteKey, serverWriteKey, clientWriteIv,
           serverWriteIv, clientMacKey, serverMacKey, transcriptHash }

def derive (combinedSecret : Bytes) (transcriptHash : Octets 48) : Except HkdfError SessionKeys :=
  let expander := HkdfExpander.extractSha384 hkdf (Octets.zero 48).bytes combinedSecret
  expandSlots hkdf expander (makeInfo (utf8 "openhttpa_v2") transcriptHash.bytes) transcriptHash

/-- `SessionKeys::derive_0rtt`; the transcript field is the hash of the salt. -/
def derive0rtt (sha384 : Bytes → Octets 48) (resumedMasterSecret : Bytes)
    (rtt0Salt : Octets 16) : Except HkdfError SessionKeys :=
  let expander := HkdfExpander.extractSha384 hkdf rtt0Salt.bytes resumedMasterSecret
  expandSlots hkdf expander (makeInfo (utf8 "openhttpa_v2_0rtt") rtt0Salt.bytes)
    (sha384 rtt0Salt.bytes)

theorem expand_ok (info : Bytes) (outLen : Nat) (small : outLen ≤ 48) :
    ∃ out, hkdf.expand expander.prk info outLen = some out ∧
      expander.expand hkdf info outLen = .ok out := by
  have room : outLen ≤ 255 * 48 := by omega
  obtain ⟨out, found⟩ := Option.isSome_iff_exists.mp (hkdf.expand_isSome expander.prk info _ room)
  exact ⟨out, found, by simp [HkdfExpander.expand, found]⟩

theorem expandSlots_ok (info : String → Bytes) (transcriptHash : Octets 48) :
    ∃ keys, expandSlots hkdf expander info transcriptHash = .ok keys ∧
      keys.transcriptHash = transcriptHash ∧
      hkdf.expand expander.prk (info "master secret") 48 = some keys.masterSecret ∧
      hkdf.expand expander.prk (info "res master") 48 = some keys.resumptionMasterSecret ∧
      hkdf.expand expander.prk (info "client write key") 32 = some keys.clientWriteKey ∧
      hkdf.expand expander.prk (info "server write key") 32 = some keys.serverWriteKey ∧
      hkdf.expand expander.prk (info "client write iv") 12 = some keys.clientWriteIv ∧
      hkdf.expand expander.prk (info "server write iv") 12 = some keys.serverWriteIv ∧
      hkdf.expand expander.prk (info "client mac key") 32 = some keys.clientMacKey ∧
      hkdf.expand expander.prk (info "server mac key") 32 = some keys.serverMacKey := by
  obtain ⟨masterSecret, foundMaster, okMaster⟩ :=
    expand_ok hkdf expander (info "master secret") 48 (by omega)
  obtain ⟨resumption, foundResumption, okResumption⟩ :=
    expand_ok hkdf expander (info "res master") 48 (by omega)
  obtain ⟨clientKey, foundClientKey, okClientKey⟩ :=
    expand_ok hkdf expander (info "client write key") 32 (by omega)
  obtain ⟨serverKey, foundServerKey, okServerKey⟩ :=
    expand_ok hkdf expander (info "server write key") 32 (by omega)
  obtain ⟨clientIv, foundClientIv, okClientIv⟩ :=
    expand_ok hkdf expander (info "client write iv") 12 (by omega)
  obtain ⟨serverIv, foundServerIv, okServerIv⟩ :=
    expand_ok hkdf expander (info "server write iv") 12 (by omega)
  obtain ⟨clientMac, foundClientMac, okClientMac⟩ :=
    expand_ok hkdf expander (info "client mac key") 32 (by omega)
  obtain ⟨serverMac, foundServerMac, okServerMac⟩ :=
    expand_ok hkdf expander (info "server mac key") 32 (by omega)
  refine ⟨⟨masterSecret, resumption, clientKey, serverKey, clientIv, serverIv, clientMac,
    serverMac, transcriptHash⟩, ?_, rfl, foundMaster, foundResumption, foundClientKey,
    foundServerKey, foundClientIv, foundServerIv, foundClientMac, foundServerMac⟩
  simp only [expandSlots, okMaster, okResumption, okClientKey, okServerKey, okClientIv,
    okServerIv, okClientMac, okServerMac]
  rfl

theorem derive_ok (combinedSecret : Bytes) (transcriptHash : Octets 48) :
    ∃ keys, derive hkdf combinedSecret transcriptHash = .ok keys ∧
      keys.transcriptHash = transcriptHash := by
  obtain ⟨keys, derived, bound, _⟩ := expandSlots_ok hkdf
    (HkdfExpander.extractSha384 hkdf (Octets.zero 48).bytes combinedSecret)
    (makeInfo (utf8 "openhttpa_v2") transcriptHash.bytes) transcriptHash
  exact ⟨keys, derived, bound⟩

theorem derive_transcript {hkdf : Hkdf 48} {combinedSecret : Bytes} {transcriptHash : Octets 48}
    {keys : SessionKeys} (derived : derive hkdf combinedSecret transcriptHash = .ok keys) :
    keys.transcriptHash = transcriptHash := by
  obtain ⟨found, derivedFound, bound⟩ := derive_ok hkdf combinedSecret transcriptHash
  rw [derived] at derivedFound
  cases derivedFound
  exact bound

end SessionKeys

end OpenHttpa.Crypto
