import Mathlib.Data.Nat.Bitwise
import Mathlib.Data.List.Range
import Mathlib.Tactic.Ring

/-!
# A ring of bits

A ring of `W` 64-bit words has one bit for each residue modulo `W * 64`: number `n` is kept in
word `n % W` at bit `n / W % 64`. Two numbers share a bit exactly when they are congruent modulo
`W * 64` (`cell_eq_iff`). The operations are described by what they do to the marks alone, so
nothing above this module looks at a word.
-/
namespace OpenHttpa

def bitMask (bit : Nat) : UInt64 := (1 : UInt64) <<< UInt64.ofNat bit

theorem toNat_bitMask {bit : Nat} (small : bit < 64) : (bitMask bit).toNat = 2 ^ bit := by
  have fits : 2 ^ bit < 2 ^ 64 := Nat.pow_lt_pow_right (by omega) small
  have word : bit < 2 ^ 64 := by omega
  rw [bitMask, UInt64.toNat_shiftLeft]
  simp only [UInt64.toNat_one, UInt64.toNat_ofNat']
  rw [Nat.mod_eq_of_lt word, Nat.mod_eq_of_lt small, Nat.shiftLeft_eq, one_mul,
    Nat.mod_eq_of_lt fits]

theorem and_bitMask_ne_zero (word : UInt64) {bit : Nat} (small : bit < 64) :
    word &&& bitMask bit ≠ 0 ↔ word.toNat.testBit bit = true := by
  rw [Ne, ← UInt64.toNat_inj, UInt64.toNat_and, toNat_bitMask small, Nat.and_two_pow]
  cases word.toNat.testBit bit <;> simp

theorem testBit_or_bitMask (word : UInt64) {bit : Nat} (index : Nat) (small : bit < 64) :
    (word ||| bitMask bit).toNat.testBit index =
      (word.toNat.testBit index || decide (bit = index)) := by
  rw [UInt64.toNat_or, Nat.testBit_or, toNat_bitMask small, Nat.testBit_two_pow]

theorem testBit_and_not_bitMask (word : UInt64) {bit index : Nat} (small : bit < 64)
    (inside : index < 64) :
    (word &&& ~~~ bitMask bit).toNat.testBit index =
      (word.toNat.testBit index && !decide (bit = index)) := by
  have complement : UInt64.size - 1 - 2 ^ bit = 2 ^ 64 - (2 ^ bit + 1) := by
    simp [UInt64.size]
  have fits : 2 ^ bit < 2 ^ 64 := Nat.pow_lt_pow_right (by omega) small
  rw [UInt64.toNat_and, Nat.testBit_and, UInt64.toNat_not, toNat_bitMask small, complement,
    Nat.testBit_two_pow_sub_succ fits, Nat.testBit_two_pow]
  simp [inside]

/-- A ring of `W` words. -/
abbrev BitRing (W : Nat) := Vector UInt64 W

namespace BitRing

variable {W : Nat} [NeZero W]

def slot (W : Nat) [NeZero W] (number : Nat) : Fin W := ⟨number % W, Nat.mod_lt _ (NeZero.pos W)⟩

def bit (W number : Nat) : Nat := number / W % 64

def marked (ring : BitRing W) (number : Nat) : Bool :=
  (ring.get (slot W number)).toNat.testBit (bit W number)

def mark (ring : BitRing W) (number : Nat) : BitRing W :=
  ring.set (slot W number).val (ring.get (slot W number) ||| bitMask (bit W number))
    (slot W number).isLt

def unmark (ring : BitRing W) (number : Nat) : BitRing W :=
  ring.set (slot W number).val (ring.get (slot W number) &&& ~~~ bitMask (bit W number))
    (slot W number).isLt

omit [NeZero W] in
theorem bit_lt (number : Nat) : bit W number < 64 := Nat.mod_lt _ (by omega)

theorem cell_eq_iff (left right : Nat) :
    (slot W left = slot W right ∧ bit W left = bit W right) ↔
      left % (W * 64) = right % (W * 64) := by
  have positive : 0 < W := NeZero.pos W
  rw [Nat.mod_mul, Nat.mod_mul]
  simp only [slot, bit, Fin.mk.injEq]
  constructor
  · rintro ⟨sameSlot, sameBit⟩
    rw [sameSlot, sameBit]
  · intro same
    have leftSlot := Nat.mod_lt left positive
    have rightSlot := Nat.mod_lt right positive
    have sameSlot : left % W = right % W := by
      have := congrArg (· % W) same
      simpa [Nat.add_mul_mod_self_left, Nat.mod_eq_of_lt leftSlot,
        Nat.mod_eq_of_lt rightSlot] using this
    refine ⟨sameSlot, ?_⟩
    rw [sameSlot, Nat.add_left_cancel_iff] at same
    exact Nat.eq_of_mul_eq_mul_left positive same

theorem eq_of_congruent {left right size : Nat} (ordered : left ≤ right)
    (near : right < left + size) (congruent : left % size = right % size) : left = right := by
  have gap : (right - left) % size = 0 := Nat.sub_mod_eq_zero_of_mod_eq congruent.symm
  have small : (right - left) % size = right - left := Nat.mod_eq_of_lt (by omega)
  omega

variable (ring : BitRing W)

omit [NeZero W] in
theorem get_set (written read : Fin W) (word : UInt64) :
    Vector.get (Vector.set ring written.val word written.isLt) read =
      if written = read then word else ring.get read := by
  change (Vector.set ring written.val word written.isLt)[read.val] =
    if written = read then word else ring[read.val]
  simp only [Vector.getElem_set, Fin.ext_iff]

theorem marked_mark (number other : Nat) : (ring.mark number).marked other = true ↔
      ring.marked other = true ∨ number % (W * 64) = other % (W * 64) := by
  rw [← cell_eq_iff number other, marked, mark, get_set]
  by_cases same : slot W number = slot W other
  · rw [if_pos same, testBit_or_bitMask _ _ (bit_lt number)]
    simp [marked, same]
  · simp [same, marked]

theorem marked_unmark (number other : Nat) : (ring.unmark number).marked other = true ↔
      ring.marked other = true ∧ number % (W * 64) ≠ other % (W * 64) := by
  rw [Ne, ← cell_eq_iff number other, marked, unmark, get_set]
  by_cases same : slot W number = slot W other
  · rw [if_pos same, testBit_and_not_bitMask _ (bit_lt number) (bit_lt other)]
    simp [marked, same]
  · simp [same, marked]

theorem marked_iff_mask (number : Nat) :
    ring.get (slot W number) &&& bitMask (bit W number) ≠ 0 ↔ ring.marked number = true :=
  and_bitMask_ne_zero _ (bit_lt number)

theorem marked_zero (number : Nat) : marked (Vector.replicate W 0 : BitRing W) number = false := by
  change ((Vector.replicate W (0 : UInt64))[(slot W number).val]).toNat.testBit _ = false
  simp

theorem marked_foldl_unmark (numbers : List Nat) (other : Nat) :
    (numbers.foldl unmark ring).marked other = true ↔
      ring.marked other = true ∧ ∀ number ∈ numbers, number % (W * 64) ≠ other % (W * 64) := by
  induction numbers generalizing ring with
  | nil => simp
  | cons number rest ih =>
    rw [List.foldl_cons, ih, marked_unmark]
    simp only [List.forall_mem_cons, and_assoc]

end BitRing

end OpenHttpa
