import OpenHttpa.Crypto.Hkdf

/-!
# Key schedule of the browser client

`bindings/wasm/src/crypto.rs`, the browser's own copy of the hybrid combiner and of the session
key schedule. Where the source calls `expect`, the model returns nothing.
-/
namespace OpenHttpa.Wasm

open Crypto

/-- `SessionKeys` of the browser: no resumption secret and no transcript. -/
@[ext]
structure SessionKeys where
  masterSecret : Octets 48
  clientWriteKey : Octets 32
  serverWriteKey : Octets 32
  clientWriteIv : Octets 12
  serverWriteIv : Octets 12
  clientMacKey : Octets 32
  serverMacKey : Octets 32

def SessionKeys.zero : SessionKeys :=
  ⟨.zero 48, .zero 32, .zero 32, .zero 12, .zero 12, .zero 32, .zero 32⟩

/-- `encode_lengthed`, applied to the material so far. -/
def encodeLengthed (ikm data : Bytes) : Option Bytes :=
  if data.length < 2 ^ 16 then some (ikm ++ beBytes 2 data.length ++ data) else none

def combine (hkdf : Hkdf 32) (ecdheSs mlkemSs ecdhePkClient ecdhePkServer mlkemEkClient
    mlkemCt : Bytes) : Option (Octets 32) := do
  let ikm ← encodeLengthed (ecdheSs ++ mlkemSs) (utf8 "openhttpa hybrid kem v1")
  let ikm ← encodeLengthed ikm ecdhePkClient
  let ikm ← encodeLengthed ikm ecdhePkServer
  let ikm ← encodeLengthed ikm mlkemEkClient
  let ikm ← encodeLengthed ikm mlkemCt
  hkdf.expand (hkdf.extract (some (Octets.zero 32).bytes) ikm) (utf8 "combined") 32

/-- The `expand` closure of `derive_session_keys`. -/
def expandLabel (hkdf : Hkdf 48) (prk : Octets 48) (transcriptHash : Bytes) (label : String)
    (len : Nat) : Option (Octets len) :=
  hkdf.expand prk (utf8 "openhttpa_v2" ++ utf8 label ++ [0] ++ transcriptHash) len

def deriveSessionKeys (hkdf : Hkdf 48) (combined : Octets 32) (transcriptHash : Bytes) :
    Option SessionKeys := do
  let prk := hkdf.extract (some (Octets.zero 48).bytes) combined.bytes
  let masterSecret ← expandLabel hkdf prk transcriptHash "master secret" 48
  let clientWriteKey ← expandLabel hkdf prk transcriptHash "client write key" 32
  let serverWriteKey ← expandLabel hkdf prk transcriptHash "server write key" 32
  let clientWriteIv ← expandLabel hkdf prk transcriptHash "client write iv" 12
  let serverWriteIv ← expandLabel hkdf prk transcriptHash "server write iv" 12
  let clientMacKey ← expandLabel hkdf prk transcriptHash "client mac key" 32
  let serverMacKey ← expandLabel hkdf prk transcriptHash "server mac key" 32
  return { masterSecret, clientWriteKey, serverWriteKey, clientWriteIv, serverWriteIv,
           clientMacKey, serverMacKey }

end OpenHttpa.Wasm
