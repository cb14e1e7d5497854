import Mathlib.Data.List.Basic
import Mathlib.Data.List.Induction
import Mathlib.Tactic.Ring

/-!
# Byte strings

Byte strings are lists of `UInt8`; a byte string of a fixed length carries its length, so a key or a
nonce of the wrong size cannot be built. The module gives the big-endian form of a number in a fixed
number of bytes with its reader, and the bytewise exclusive-or of two strings.
-/
namespace OpenHttpa

/-- A byte string. -/
abbrev Bytes := List UInt8

def utf8 (text : String) : Bytes := text.toUTF8.data.toList

theorem utf8_injective : Function.Injective utf8 := by
  intro left right same
  have arrays : left.toUTF8 = right.toUTF8 := ByteArray.ext (Array.toList_inj.mp same)
  exact String.toByteArray_inj.mp arrays

theorem utf8_append (left right : String) : utf8 (left ++ right) = utf8 left ++ utf8 right := by
  simp [utf8]

variable (bytes : Bytes)

def isUtf8 : Bool := ByteArray.validateUTF8 ⟨bytes.toArray⟩

@[ext]
structure Octets (n : Nat) where
  bytes : Bytes
  length_eq : bytes.length = n
deriving DecidableEq

namespace Octets

def zero (n : Nat) : Octets n := ⟨List.replicate n 0, List.length_replicate⟩

def repeated (n : Nat) (byte : UInt8) : Octets n := ⟨List.replicate n byte, List.length_replicate⟩

def ofBytes? (n : Nat) (bytes : Bytes) : Option (Octets n) :=
  if fits : bytes.length = n then some ⟨bytes, fits⟩ else none

@[simp]
theorem ofBytes?_bytes {n : Nat} (value : Octets n) : ofBytes? n value.bytes = some value := by
  unfold ofBytes?
  rw [dif_pos value.length_eq]

theorem bytes_of_ofBytes? {n : Nat} {bytes : Bytes} {value : Octets n}
    (admitted : ofBytes? n bytes = some value) : value.bytes = bytes := by
  unfold ofBytes? at admitted
  split at admitted
  · cases admitted
    rfl
  · cases admitted

end Octets

/-- The bytes from one place up to another, if they lie inside in this order (`&bytes[start..stop]`). -/
def slice? (start stop : Nat) : Option Bytes :=
  if start ≤ stop ∧ stop ≤ bytes.length then some ((bytes.take stop).drop start) else none

theorem slice?_within {start stop : Nat} (ordered : start ≤ stop) (within : stop ≤ bytes.length) :
    ∃ part, slice? bytes start stop = some part ∧ part.length = stop - start := by
  refine ⟨_, if_pos ⟨ordered, within⟩, ?_⟩
  rw [List.length_drop, List.length_take, Nat.min_eq_left within]

theorem slice?_append (front middle back : Bytes) :
    slice? (front ++ (middle ++ back)) front.length (front.length + middle.length) = some middle := by
  rw [slice?, if_pos (by simp), List.drop_take]
  simp

theorem slice?_append_end (front back : Bytes) :
    slice? (front ++ back) front.length (front ++ back).length = some back := by
  have whole := slice?_append front back []
  rwa [List.append_nil, ← List.length_append] at whole

/-- The low `width` bytes of a number, most significant first. -/
def beBytes : Nat → Nat → Bytes
  | 0, _ => []
  | width + 1, value => beBytes width (value / 256) ++ [UInt8.ofNat value]

def ofBe : Nat := bytes.foldl (fun acc byte => acc * 256 + byte.toNat) 0

@[simp]
theorem beBytes_length (width value : Nat) : (beBytes width value).length = width := by
  induction width generalizing value with
  | zero => rfl
  | succ width ih => simp [beBytes, ih]

theorem ofBe_append_singleton (last : UInt8) :
    ofBe (bytes ++ [last]) = ofBe bytes * 256 + last.toNat := by
  simp [ofBe]

theorem ofBe_beBytes_mod (width value : Nat) :
    ofBe (beBytes width value) = value % 256 ^ width := by
  induction width generalizing value with
  | zero => simp [beBytes, ofBe, Nat.mod_one]
  | succ width ih =>
    have split : value % 256 ^ (width + 1) =
        value / 256 % 256 ^ width * 256 + value % 256 := by
      rw [pow_succ, Nat.mul_comm (256 ^ width) 256, Nat.mod_mul]
      ring
    simp [beBytes, ofBe_append_singleton, ih, split]

theorem ofBe_beBytes {width value : Nat} (fits : value < 256 ^ width) :
    ofBe (beBytes width value) = value := by
  rw [ofBe_beBytes_mod, Nat.mod_eq_of_lt fits]

theorem beBytes_injective {width left right : Nat} (leftFits : left < 256 ^ width)
    (rightFits : right < 256 ^ width) (same : beBytes width left = beBytes width right) :
    left = right := by
  rw [← ofBe_beBytes leftFits, ← ofBe_beBytes rightFits, same]

theorem beBytes_ofBe : beBytes bytes.length (ofBe bytes) = bytes := by
  induction bytes using List.reverseRecOn with
  | nil => rfl
  | append_singleton bytes last ih =>
    have low : UInt8.ofNat (ofBe bytes * 256 + last.toNat) = last := by
      apply UInt8.toNat_inj.mp
      have bound := last.toNat_lt
      rw [UInt8.toNat_ofNat']
      omega
    have high : (ofBe bytes * 256 + last.toNat) / 256 = ofBe bytes := by
      have bound := last.toNat_lt
      omega
    rw [List.length_append, List.length_singleton, beBytes, ofBe_append_singleton, low, high, ih]

theorem ofBe_lt : ofBe bytes < 256 ^ bytes.length := by
  induction bytes using List.reverseRecOn with
  | nil => decide
  | append_singleton bytes last ih =>
    have bound := last.toNat_lt
    rw [ofBe_append_singleton, List.length_append, List.length_singleton, pow_succ]
    omega

/-- The largest 64-bit word (`u64::MAX`). -/
def u64Max : UInt64 := 0xFFFFFFFFFFFFFFFF

/-- Addition of one that fails at the largest word (`u64::checked_add(1)`). -/
def checkedSucc (word : UInt64) : Option UInt64 :=
  if word = u64Max then none else some (word + 1)

theorem toNat_succ {word : UInt64} (below : word ≠ u64Max) :
    (word + 1).toNat = word.toNat + 1 := by
  have bound := word.toNat_lt
  have differs : word.toNat ≠ u64Max.toNat := fun same => below (UInt64.toNat_inj.mp same)
  have top : u64Max.toNat = 2 ^ 64 - 1 := rfl
  rw [UInt64.toNat_add, UInt64.toNat_one, Nat.mod_eq_of_lt]
  omega

/-- The eight big-endian bytes of a 64-bit word (`u64::to_be_bytes`). -/
def u64Be (word : UInt64) : Bytes := beBytes 8 word.toNat

/-- The 64-bit word of eight big-endian bytes (`u64::from_be_bytes`). -/
def u64OfBe : UInt64 := UInt64.ofNat (ofBe bytes)

@[simp]
theorem u64Be_length (word : UInt64) : (u64Be word).length = 8 := beBytes_length 8 _

@[simp]
theorem u64OfBe_u64Be (word : UInt64) : u64OfBe (u64Be word) = word := by
  have fits : word.toNat < 256 ^ 8 := by
    have := word.toNat_lt
    omega
  rw [u64OfBe, u64Be, ofBe_beBytes fits, UInt64.ofNat_toNat]

theorem u64Be_u64OfBe {bytes : Bytes} (eight : bytes.length = 8) : u64Be (u64OfBe bytes) = bytes := by
  have fits := ofBe_lt bytes
  have whole := beBytes_ofBe bytes
  rw [eight] at fits whole
  have word : (UInt64.ofNat (ofBe bytes)).toNat = ofBe bytes := by
    rw [UInt64.toNat_ofNat']
    omega
  rw [u64OfBe, u64Be, word, whole]

def xorBytes (left right : Bytes) : Bytes := List.zipWith (· ^^^ ·) left right

@[simp]
theorem xorBytes_length (left right : Bytes) :
    (xorBytes left right).length = min left.length right.length := List.length_zipWith

theorem xorBytes_zeros : xorBytes (List.replicate bytes.length 0) bytes = bytes := by
  induction bytes with
  | nil => rfl
  | cons head tail ih =>
    rw [List.length_cons, List.replicate_succ, xorBytes, List.zipWith_cons_cons, UInt8.zero_xor]
    exact congrArg (head :: ·) ih

theorem xorBytes_cancel (mask value : Bytes) (fits : value.length ≤ mask.length) :
    xorBytes mask (xorBytes mask value) = value := by
  induction mask generalizing value with
  | nil =>
    have empty : value = [] := List.eq_nil_of_length_eq_zero (Nat.le_zero.mp fits)
    simp [empty, xorBytes]
  | cons head mask ih =>
    cases value with
    | nil => rfl
    | cons first rest =>
      have shorter : rest.length ≤ mask.length := by simpa using fits
      have tail := ih rest shorter
      simp only [xorBytes, List.zipWith_cons_cons] at tail ⊢
      rw [tail, ← UInt8.xor_assoc, UInt8.xor_self, UInt8.zero_xor]

end OpenHttpa
