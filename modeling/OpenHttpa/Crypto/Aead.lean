import Mathlib.Data.List.Nodup
import OpenHttpa.Lib.Bytes
import OpenHttpa.Lib.Aead

/-!
# AEAD keys and their nonces

The wrappers of `openhttpa-crypto/src/aead.rs`. Every writer of the protocol builds its nonce the
same way, by exclusive-or of a counter into the last eight bytes of a fixed IV, so the nonces of
two counters under one IV are equal exactly when the counters are. The cipher itself is a
parameter; an `Encryption` records the key and the nonce of one call to it.
-/
namespace OpenHttpa.Crypto

inductive AeadAlgorithm where
  | Aes256Gcm
  | ChaCha20Poly1305
deriving DecidableEq

abbrev AeadNonce := Octets 12

/-- `AeadKey`; both algorithms take 32 bytes, so construction cannot fail. -/
structure AeadKey where
  raw : Octets 32
  algorithm : AeadAlgorithm

/-- The cipher implementation behind `seal_in_place` and `open_in_place`. -/
abbrev Cipher := Aead AeadKey AeadNonce Bytes Bytes Bytes

/-- One call of `seal_in_place`: the raw key bytes and the nonce it ran under. -/
structure Encryption where
  key : Octets 32
  nonce : AeadNonce
deriving DecidableEq

/-- The inputs of one encryption. -/
structure Sealing where
  nonce : AeadNonce
  aad : Bytes
  plaintext : Bytes
  ciphertext : Bytes
deriving DecidableEq

/-- The nonce of a counter: the IV with the big-endian counter exclusive-ored into its last
eight bytes. -/
def counterNonce (iv : Octets 12) (counter : UInt64) : AeadNonce where
  bytes := iv.bytes.take 4 ++ xorBytes (iv.bytes.drop 4) (u64Be counter)
  length_eq := by simp [iv.length_eq]

/-- The counter of a received nonce: its last eight bytes with those of the IV removed. -/
def nonceCounter (iv : Octets 12) (nonce : AeadNonce) : UInt64 :=
  u64OfBe (xorBytes (iv.bytes.drop 4) (nonce.bytes.drop 4))

@[simp]
theorem nonceCounter_counterNonce (iv : Octets 12) (counter : UInt64) :
    nonceCounter iv (counterNonce iv counter) = counter := by
  have low : (counterNonce iv counter).bytes.drop 4 = xorBytes (iv.bytes.drop 4) (u64Be counter) :=
    List.drop_left' (by simp [iv.length_eq])
  have fits : (u64Be counter).length ≤ (iv.bytes.drop 4).length := by simp [iv.length_eq]
  rw [nonceCounter, low, xorBytes_cancel _ _ fits, u64OfBe_u64Be]

theorem counterNonce_injective {iv : Octets 12} {left right : UInt64}
    (same : counterNonce iv left = counterNonce iv right) : left = right := by
  rw [← nonceCounter_counterNonce iv left, ← nonceCounter_counterNonce iv right, same]

variable (ivOf : Octets 32 → Octets 12)

def Encryption.number (entry : Encryption) : Octets 32 × Nat :=
  (entry.key, (nonceCounter (ivOf entry.key) entry.nonce).toNat)

@[simp]
theorem Encryption.number_counterNonce (key : Octets 32) (counter : UInt64) :
    Encryption.number ivOf ⟨key, counterNonce (ivOf key) counter⟩ = (key, counter.toNat) := by
  simp [Encryption.number]

theorem Encryption.nodup_iff_number {log : List Encryption}
    (counted : ∀ entry ∈ log, ∃ number, entry.nonce = counterNonce (ivOf entry.key) number) :
    log.Nodup ↔ (log.map (Encryption.number ivOf)).Nodup := by
  constructor
  · intro distinct
    refine List.Nodup.map_on ?_ distinct
    intro left leftMember right rightMember same
    obtain ⟨leftNumber, leftNonce⟩ := counted left leftMember
    obtain ⟨rightNumber, rightNonce⟩ := counted right rightMember
    simp only [Encryption.number, Prod.mk.injEq, leftNonce, rightNonce,
      nonceCounter_counterNonce] at same
    have key : left.key = right.key := same.1
    have number : leftNumber = rightNumber := UInt64.toNat_inj.mp same.2
    cases left
    cases right
    simp_all
  · exact List.Nodup.of_map _

/-- `BoundAeadKey` with an `AtomicNonceSequence`. -/
structure BoundAeadKey where
  key : AeadKey
  writeIv : Octets 12
  counter : UInt64

namespace BoundAeadKey

/-- `BoundAeadKey::new` — a fresh nonce sequence starts at 1. -/
def new (algorithm : AeadAlgorithm) (keyBytes : Octets 32) (writeIv : Octets 12) : BoundAeadKey :=
  ⟨⟨keyBytes, algorithm⟩, writeIv, 1⟩

/-- `BoundAeadError`, with the errors of `AeadError` that a sealing or a nonce sequence can end in. -/
inductive Error where
  | NonceOverflow
  | SealFailed
  | IoError (reason : String)

/-- `AtomicNonceSequence::next_nonce` — refused once the counter is the largest word. -/
def nextNonce (bound : BoundAeadKey) : Except Error (AeadNonce × BoundAeadKey) :=
  if bound.counter = u64Max then
    .error .NonceOverflow
  else
    .ok (counterNonce bound.writeIv bound.counter, { bound with counter := bound.counter + 1 })

/-- `BoundAeadKey::seal` — the nonce is drawn first and stays drawn when sealing fails. The
second component is the encryption performed. -/
def sealData (cipher : Cipher) (bound : BoundAeadKey) (aad data : Bytes) :
    Except Error (AeadNonce × Bytes) × List Encryption × BoundAeadKey :=
  match bound.nextNonce with
  | .error failure => (.error failure, [], bound)
  | .ok (nonce, advanced) =>
    let performed := [⟨bound.key.raw, nonce⟩]
    match cipher.encrypt bound.key nonce aad data with
    | none => (.error .SealFailed, performed, advanced)
    | some sealed => (.ok (nonce, sealed), performed, advanced)

def openData (cipher : Cipher) (bound : BoundAeadKey) (nonce : AeadNonce) (aad data : Bytes) :
    Option Bytes :=
  cipher.decrypt bound.key nonce aad data

theorem sealData_effect (cipher : Cipher) (bound : BoundAeadKey) (aad data : Bytes)
    (below : bound.counter ≠ u64Max) :
    (bound.sealData cipher aad data).2 =
      ([⟨bound.key.raw, counterNonce bound.writeIv bound.counter⟩],
        { bound with counter := bound.counter + 1 }) := by
  simp only [sealData, nextNonce, if_neg below]
  cases cipher.encrypt bound.key (counterNonce bound.writeIv bound.counter) aad data <;> rfl

end BoundAeadKey

def delimited (bytes : Bytes) : Bytes := List.replicate bytes.length 1 ++ 0 :: bytes

theorem delimited_append_inj {left right leftTail rightTail : Bytes}
    (same : delimited left ++ leftTail = delimited right ++ rightTail) :
    left = right ∧ leftTail = rightTail := by
  have unary : ∀ (m n : Nat) (front back : Bytes),
      List.replicate m (1 : UInt8) ++ 0 :: front = List.replicate n 1 ++ 0 :: back →
        m = n ∧ front = back := by
    intro m
    induction m with
    | zero =>
      intro n front back equal
      cases n with
      | zero => simpa using equal
      | succ n => simp [List.replicate_succ] at equal
    | succ m ih =>
      intro n front back equal
      cases n with
      | zero => simp [List.replicate_succ] at equal
      | succ n =>
        simp only [List.replicate_succ, List.cons_append, List.cons.injEq, true_and] at equal
        simpa using ih n front back equal
  simp only [delimited, List.append_assoc, List.cons_append] at same
  obtain ⟨lengths, rest⟩ := unary _ _ _ _ same
  exact List.append_inj rest lengths

def plainHeader (key : AeadKey) (nonce : AeadNonce) (aad : Bytes) : Bytes :=
  key.raw.bytes ++ (if key.algorithm = .Aes256Gcm then 0 else 1) :: nonce.bytes ++ delimited aad

theorem plainHeader_delimits : Aead.Delimits plainHeader := by
  intro key nonce aad tail key' nonce' aad' tail' same
  simp only [plainHeader, List.append_assoc, List.cons_append] at same
  obtain ⟨raw, same⟩ := List.append_inj same (by rw [key.raw.length_eq, key'.raw.length_eq])
  obtain ⟨algorithm, same⟩ := List.cons.inj same
  obtain ⟨nonces, same⟩ := List.append_inj same (by rw [nonce.length_eq, nonce'.length_eq])
  obtain ⟨aads, tails⟩ := delimited_append_inj same
  refine ⟨?_, Octets.ext nonces, aads, tails⟩
  obtain ⟨raw₁, algorithm₁⟩ := key
  obtain ⟨raw₂, algorithm₂⟩ := key'
  obtain rfl : raw₁ = raw₂ := Octets.ext raw
  cases algorithm₁ <;> cases algorithm₂ <;> simp_all

def plainCipher : Cipher := Aead.transparent plainHeader

theorem plainCipher_ideal : plainCipher.Ideal := Aead.transparent_ideal plainHeader_delimits

end OpenHttpa.Crypto
