import OpenHttpa.Crypto.Aead
import OpenHttpa.Crypto.Hkdf
import OpenHttpa.Lib.Delimited

/-!
# Hybrid key exchange

`openhttpa-crypto/src/key_exchange.rs`, the key pairs of `pqc.rs` and the opening side of `hpke.rs`.
X25519, ML-KEM-768 and ML-DSA-65 are parameters, each with the agreement its specification promises
and the lengths its library checks. Both sides put the two shared secrets and the four public values
of the exchange into one HKDF; a field too long for its length prefix makes the combiner panic, which
the model shows as nothing.
-/
namespace OpenHttpa.Crypto

inductive KeyExchangeError where
  | KeyGeneration
  | Agreement
  | InvalidPeerKey
  | Pqc (message : String)

def KeyExchangeError.display : KeyExchangeError → String
  | KeyGeneration => "key generation failed"
  | Agreement => "key agreement failed"
  | InvalidPeerKey => "invalid peer public key"
  | Pqc message => "PQC error: " ++ message

structure Ecdh (Secret : Type) where
  publicKey : Secret → Octets 32
  /-- `agree_ephemeral` against the bytes of a peer key. -/
  agree : Secret → Bytes → Option (Octets 32)
  agree_length : ∀ secret peer shared, agree secret peer = some shared → peer.length = 32
  correct : ∀ left right, ∃ shared, agree left (publicKey right).bytes = some shared ∧
    agree right (publicKey left).bytes = some shared

structure MlKem (Secret Coins : Type) where
  encapKey : Secret → Octets 1184
  /-- `encapsulate`: the shared secret and the ciphertext. -/
  encapsulate : Coins → Bytes → Except String (Octets 32 × Octets 1088)
  decapsulate : Secret → Bytes → Except String (Octets 32)
  encapsulate_length : ∀ coins peer result, encapsulate coins peer = .ok result → peer.length = 1184
  decapsulate_length : ∀ secret ciphertext shared, decapsulate secret ciphertext = .ok shared →
    ciphertext.length = 1088
  correct : ∀ coins secret, ∃ shared ciphertext,
    encapsulate coins (encapKey secret).bytes = .ok (shared, ciphertext) ∧
      decapsulate secret ciphertext.bytes = .ok shared

structure MlDsa (Signer : Type) where
  publicKey : Signer → Bytes
  /-- `sign`, with the text of its error. -/
  sign : Signer → Bytes → Except String Bytes
  /-- `verify`, with the text of its error. -/
  verify : Bytes → Bytes → Bytes → Except String Unit
  correct : ∀ signer message, ∃ signature, sign signer message = .ok signature ∧
    verify (publicKey signer) message signature = .ok ()

/-- The cryptographic libraries both sides call. -/
structure Primitives (Secret Decap Coins Signer : Type) where
  sha384 : Bytes → Octets 48
  sha512 : Bytes → Octets 64
  /-- HMAC-SHA-256. -/
  hmac : Octets 32 → Bytes → Octets 32
  hkdf256 : Hkdf 32
  hkdf384 : Hkdf 48
  cipher : Cipher
  ecdh : Ecdh Secret
  kem : MlKem Decap Coins
  dsa : MlDsa Signer

structure KeyShare where
  ecdhePublic : Bytes
  mlkemPublic : Bytes

structure HybridKemPair (Secret Decap : Type) where
  ecdhe : Secret
  mlkem : Decap

namespace HybridSharedSecret

/-- `encode_lengthed`, applied to the material so far. -/
def encodeLengthed (ikm data : Bytes) : Option Bytes :=
  if data.length < 2 ^ 16 then some (ikm ++ beBytes 2 data.length ++ data) else none

variable (hkdf : Hkdf 32) (ecdhe mlkem : Bytes)

def combine (ecdhePkClient ecdhePkServer mlkemEkClient mlkemCt : Bytes) :
    Option (Except KeyExchangeError (Octets 32)) := do
  let ikm ← encodeLengthed (ecdhe ++ mlkem) (utf8 "openhttpa hybrid kem v1")
  let ikm ← encodeLengthed ikm ecdhePkClient
  let ikm ← encodeLengthed ikm ecdhePkServer
  let ikm ← encodeLengthed ikm mlkemEkClient
  let ikm ← encodeLengthed ikm mlkemCt
  match hkdf.expand (hkdf.extract (some (Octets.zero 32).bytes) ikm) (utf8 "combined") 32 with
  | none => some (.error .Agreement)
  | some out => some (.ok out)

/-- The input key material: the secrets, then the label and the public values after their lengths. -/
def ikm (publicValues : List Bytes) : Bytes :=
  ecdhe ++ mlkem ++ (utf8 "openhttpa hybrid kem v1" :: publicValues).flatMap (Delimited.prefixed 2)

/-- What `combine` does with the input key material. -/
def expandIkm (ikm : Bytes) : Except KeyExchangeError (Octets 32) :=
  match hkdf.expand (hkdf.extract (some (Octets.zero 32).bytes) ikm) (utf8 "combined") 32 with
  | none => .error .Agreement
  | some out => .ok out

variable {ecdhePkClient ecdhePkServer mlkemEkClient mlkemCt : Bytes}
  (client : ecdhePkClient.length < 2 ^ 16) (server : ecdhePkServer.length < 2 ^ 16)
  (ek : mlkemEkClient.length < 2 ^ 16) (ct : mlkemCt.length < 2 ^ 16)

include client server ek ct in
theorem combine_eq : combine hkdf ecdhe mlkem ecdhePkClient ecdhePkServer mlkemEkClient mlkemCt =
    some (expandIkm hkdf
      (ikm ecdhe mlkem [ecdhePkClient, ecdhePkServer, mlkemEkClient, mlkemCt])) := by
  have label : (utf8 "openhttpa hybrid kem v1").length < 2 ^ 16 := by decide
  simp only [combine, encodeLengthed, if_pos label, if_pos client, if_pos server, if_pos ek, if_pos ct,
    Option.bind_eq_bind, Option.bind_some, expandIkm, ikm, List.flatMap_cons, List.flatMap_nil,
    Delimited.prefixed, List.append_assoc, List.append_nil]
  split <;> simp only [*]

include client server ek ct in
theorem combine_ok : ∃ out,
    combine hkdf ecdhe mlkem ecdhePkClient ecdhePkServer mlkemEkClient mlkemCt = some (.ok out) := by
  have room : 32 ≤ 255 * 32 := by omega
  obtain ⟨out, expanded⟩ := Option.isSome_iff_exists.mp (hkdf.expand_isSome
    (hkdf.extract (some (Octets.zero 32).bytes)
      (ikm ecdhe mlkem [ecdhePkClient, ecdhePkServer, mlkemEkClient, mlkemCt])) (utf8 "combined") 32 room)
  refine ⟨out, ?_⟩
  rw [combine_eq hkdf ecdhe mlkem client server ek ct, expandIkm, expanded]

theorem ikm_inj {leftEcdhe rightEcdhe leftMlkem rightMlkem : Octets 32} {left right : List Bytes}
    (count : left.length = right.length) (leftFits : ∀ value ∈ left, value.length < 2 ^ 16)
    (rightFits : ∀ value ∈ right, value.length < 2 ^ 16)
    (same : ikm leftEcdhe.bytes leftMlkem.bytes left = ikm rightEcdhe.bytes rightMlkem.bytes right) :
    leftEcdhe = rightEcdhe ∧ leftMlkem = rightMlkem ∧ left = right := by
  simp only [ikm, List.append_assoc] at same
  obtain ⟨ecdhe, behind⟩ := List.append_inj same (by rw [leftEcdhe.length_eq, rightEcdhe.length_eq])
  obtain ⟨mlkem, fields⟩ := List.append_inj behind (by rw [leftMlkem.length_eq, rightMlkem.length_eq])
  rw [List.flatMap_cons, List.flatMap_cons] at fields
  have values := List.append_cancel_left fields
  rw [← List.append_nil (left.flatMap _), ← List.append_nil (right.flatMap _)] at values
  have publicValues := (Delimited.flatMap_prefixed_inj count leftFits rightFits values).1
  exact ⟨Octets.ext ecdhe, Octets.ext mlkem, publicValues⟩

end HybridSharedSecret

namespace HybridKemPair

variable {Secret Decap Coins : Type}

variable (hkdf : Hkdf 32) (ecdh : Ecdh Secret) (kem : MlKem Decap Coins)
  (pair : HybridKemPair Secret Decap)

def publicKeyShare : KeyShare :=
  ⟨(ecdh.publicKey pair.ecdhe).bytes, (kem.encapKey pair.mlkem).bytes⟩

/-- `server_combine`: the combined secret and the ciphertext for the client. -/
def serverCombine (coins : Coins) (clientShare : KeyShare) :
    Option (Except KeyExchangeError (Octets 32 × Bytes)) :=
  match ecdh.agree pair.ecdhe clientShare.ecdhePublic with
  | none => some (.error .Agreement)
  | some ecdheSs =>
    match kem.encapsulate coins clientShare.mlkemPublic with
    | .error reason => some (.error (.Pqc ("KEM encapsulation failed: " ++ reason)))
    | .ok (mlkemSs, ciphertext) =>
      (HybridSharedSecret.combine hkdf ecdheSs.bytes mlkemSs.bytes clientShare.ecdhePublic
          (ecdh.publicKey pair.ecdhe).bytes clientShare.mlkemPublic ciphertext.bytes).map
        (·.map (·, ciphertext.bytes))

def clientCombine (serverShare : KeyShare)
    (mlkemCiphertext : Bytes) : Option (Except KeyExchangeError (Octets 32)) :=
  match ecdh.agree pair.ecdhe serverShare.ecdhePublic with
  | none => some (.error .Agreement)
  | some ecdheSs =>
    match kem.decapsulate pair.mlkem mlkemCiphertext with
    | .error reason => some (.error (.Pqc ("KEM decapsulation failed: " ++ reason)))
    | .ok mlkemSs =>
      HybridSharedSecret.combine hkdf ecdheSs.bytes mlkemSs.bytes
        (ecdh.publicKey pair.ecdhe).bytes serverShare.ecdhePublic (kem.encapKey pair.mlkem).bytes
        mlkemCiphertext

theorem combine_agrees (client server : HybridKemPair Secret Decap) (coins : Coins) :
    ∃ secret ciphertext, ciphertext.length = 1088 ∧
      server.serverCombine hkdf ecdh kem coins (client.publicKeyShare ecdh kem) =
        some (.ok (secret, ciphertext)) ∧ ∀ mlkemPublic, client.clientCombine hkdf ecdh kem
        ⟨(server.publicKeyShare ecdh kem).ecdhePublic, mlkemPublic⟩ ciphertext =
          some (.ok secret) := by
  obtain ⟨ecdheSs, clientAgrees, serverAgrees⟩ := ecdh.correct client.ecdhe server.ecdhe
  obtain ⟨mlkemSs, ciphertext, encapsulated, decapsulated⟩ := kem.correct coins client.mlkem
  have clientKey := (ecdh.publicKey client.ecdhe).length_eq
  have serverKey := (ecdh.publicKey server.ecdhe).length_eq
  have encapKey := (kem.encapKey client.mlkem).length_eq
  have length := ciphertext.length_eq
  obtain ⟨secret, combined⟩ := HybridSharedSecret.combine_ok hkdf ecdheSs.bytes mlkemSs.bytes
    (show (ecdh.publicKey client.ecdhe).bytes.length < 2 ^ 16 by omega)
    (show (ecdh.publicKey server.ecdhe).bytes.length < 2 ^ 16 by omega)
    (show (kem.encapKey client.mlkem).bytes.length < 2 ^ 16 by omega)
    (show ciphertext.bytes.length < 2 ^ 16 by omega)
  refine ⟨secret, ciphertext.bytes, length, ?_, ?_⟩
  · simp only [serverCombine, publicKeyShare, serverAgrees, encapsulated, combined, Option.map_some]
    rfl
  · intro mlkemPublic
    simp only [clientCombine, publicKeyShare, clientAgrees, decapsulated, combined]

end HybridKemPair

/-- `HpkeServer::open`; its errors are not told apart by its caller. -/
def hpkeOpen {Secret Decap Coins Signer : Type} (prim : Primitives Secret Decap Coins Signer)
    (pair : Decap) (mlkemCt ciphertext tag : Bytes) : Option Bytes := do
  let shared ← (prim.kem.decapsulate pair mlkemCt).toOption
  let prk := prim.hkdf256.extract none shared.bytes
  let key ← prim.hkdf256.expand prk (utf8 "openhttpa_hpke_key") 32
  let nonce ← prim.hkdf256.expand prk (utf8 "openhttpa_hpke_nonce") 12
  if tag.length = 16 then prim.cipher.decrypt ⟨key, .Aes256Gcm⟩ nonce [] (ciphertext ++ tag) else none

def Ecdh.zero : Ecdh Unit where
  publicKey _ := .zero 32
  agree _ peer := if peer.length = 32 then some (.zero 32) else none
  agree_length _ peer _ agreed := by
    by_contra other
    rw [if_neg other] at agreed
    cases agreed
  correct _ _ := ⟨.zero 32, rfl, rfl⟩

def MlKem.zero : MlKem Unit Unit where
  encapKey _ := .zero 1184
  encapsulate _ peer := if peer.length = 1184 then .ok (.zero 32, .zero 1088) else .error "bad key"
  decapsulate _ ciphertext :=
    if ciphertext.length = 1088 then .ok (.zero 32) else .error "bad ciphertext"
  encapsulate_length _ peer _ done := by
    by_contra other
    rw [if_neg other] at done
    cases done
  decapsulate_length _ ciphertext _ done := by
    by_contra other
    rw [if_neg other] at done
    cases done
  correct _ _ := by
    refine ⟨.zero 32, .zero 1088, ?_, ?_⟩
    · rw [if_pos (Octets.zero 1184).length_eq]
    · rw [if_pos (Octets.zero 1088).length_eq]

def MlDsa.plain : MlDsa Unit where
  publicKey _ := []
  sign _ message := .ok message
  verify _ message signature := if message = signature then .ok () else .error "no match"
  correct _ message := ⟨message, rfl, if_pos rfl⟩

def Primitives.plain : Primitives Unit Unit Unit Unit :=
  ⟨fun _ => .zero 48, fun _ => .zero 64, fun _ _ => .zero 32, .zero 32, .zero 48, plainCipher, .zero,
    .zero, .plain⟩

end OpenHttpa.Crypto
