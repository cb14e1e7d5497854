import Mathlib.Logic.Function.Basic
import OpenHttpa.Lib.Bytes

/-!
# Self-delimiting encodings

An encoding delimits itself when the front of a byte string determines the value written there
and where it ends, whatever follows. Such encodings can be written one after another without
separators: a pair, a tagged value and a list of them are again determined by their bytes. The
leading example is a byte string after its length in decimal and a colon.
-/
namespace OpenHttpa.Delimited

/-- What is written at the front of a byte string is determined, with what follows it. -/
def Delimits {α : Type*} (encode : α → Bytes) : Prop :=
  ∀ ⦃left right : α⦄ ⦃leftRest rightRest : Bytes⦄,
    encode left ++ leftRest = encode right ++ rightRest → left = right ∧ leftRest = rightRest

section Combinators

variable {α β : Type*} {encode : α → Bytes}

theorem Delimits.tagged (delimits : Delimits encode) (tag : Bytes) :
    Delimits fun value => tag ++ encode value := by
  intro left right leftRest rightRest same
  simp only [List.append_assoc] at same
  exact delimits (List.append_cancel_left same)

theorem Delimits.comp (delimits : Delimits encode) {rename : β → α}
    (injective : Function.Injective rename) : Delimits fun value => encode (rename value) := by
  intro left right leftRest rightRest same
  obtain ⟨renamed, rest⟩ := delimits same
  exact ⟨injective renamed, rest⟩

theorem Delimits.pair {other : β → Bytes} (delimits : Delimits encode)
    (follows : Delimits other) : Delimits fun value : α × β => encode value.1 ++ other value.2 := by
  intro left right leftRest rightRest same
  simp only [List.append_assoc] at same
  obtain ⟨first, behind⟩ := delimits same
  obtain ⟨second, rest⟩ := follows behind
  exact ⟨Prod.ext first second, rest⟩

theorem Delimits.flatMap_injective (delimits : Delimits encode) (shown : ∀ value, encode value ≠ []) :
    Function.Injective fun values : List α => values.flatMap encode := by
  intro left
  induction left with
  | nil =>
    intro right same
    cases right with
    | nil => rfl
    | cons value values =>
      have empty : encode value ++ values.flatMap encode = [] := same.symm
      exact absurd (List.append_eq_nil_iff.mp empty).1 (shown value)
  | cons value values ih =>
    intro right same
    cases right with
    | nil =>
      have empty : encode value ++ values.flatMap encode = [] := same
      exact absurd (List.append_eq_nil_iff.mp empty).1 (shown value)
    | cons other others =>
      obtain ⟨head, tail⟩ := delimits (show
        encode value ++ values.flatMap encode = encode other ++ others.flatMap encode from same)
      rw [head, ih tail]

end Combinators

def decimal (number : Nat) : Bytes :=
  if number < 10 then [UInt8.ofNat (48 + number)]
  else decimal (number / 10) ++ [UInt8.ofNat (48 + number % 10)]

def ofDecimal (digits : Bytes) : Nat :=
  digits.foldl (fun value digit => value * 10 + (digit.toNat - 48)) 0

theorem toNat_digit {digit : Nat} (small : digit < 10) :
    (UInt8.ofNat (48 + digit)).toNat = 48 + digit := by
  rw [UInt8.toNat_ofNat']
  omega

theorem ofDecimal_decimal (number : Nat) : ofDecimal (decimal number) = number := by
  induction number using decimal.induct with
  | case1 number small =>
    rw [decimal, if_pos small]
    have digit := toNat_digit small
    simp only [ofDecimal, List.foldl_cons, List.foldl_nil, digit]
    omega
  | case2 number large ih =>
    have digit : (UInt8.ofNat (48 + number % 10)).toNat = 48 + number % 10 :=
      toNat_digit (Nat.mod_lt _ (by decide))
    rw [ofDecimal] at ih
    rw [decimal, if_neg large, ofDecimal, List.foldl_append, ih]
    simp only [List.foldl_cons, List.foldl_nil, digit]
    omega

theorem colon_notMem_decimal (number : Nat) : (58 : UInt8) ∉ decimal number := by
  have other : ∀ {digit : Nat}, digit < 10 → (58 : UInt8) ≠ UInt8.ofNat (48 + digit) := by
    intro digit small same
    have numbers := congrArg UInt8.toNat same
    rw [toNat_digit small] at numbers
    change 58 = 48 + digit at numbers
    omega
  induction number using decimal.induct with
  | case1 number small =>
    rw [decimal, if_pos small, List.mem_singleton]
    exact other small
  | case2 number large ih =>
    rw [decimal, if_neg large, List.mem_append, List.mem_singleton, not_or]
    exact ⟨ih, other (Nat.mod_lt _ (by decide))⟩

theorem split_unique {α : Type*} {separator : α} {left right leftRest rightRest : List α}
    (leftFree : separator ∉ left) (rightFree : separator ∉ right)
    (same : left ++ separator :: leftRest = right ++ separator :: rightRest) :
    left = right ∧ leftRest = rightRest := by
  induction left generalizing right with
  | nil =>
    cases right with
    | nil => exact ⟨rfl, (List.cons.inj same).2⟩
    | cons head tail =>
      have first : separator = head := (List.cons.inj same).1
      exact absurd (first ▸ List.mem_cons_self) rightFree
  | cons head tail ih =>
    cases right with
    | nil =>
      have first : head = separator := (List.cons.inj same).1
      exact absurd (first ▸ List.mem_cons_self) leftFree
    | cons other others =>
      obtain ⟨first, behind⟩ := List.cons.inj same
      obtain ⟨heads, rest⟩ := ih (fun member => leftFree (List.mem_cons_of_mem _ member))
        (fun member => rightFree (List.mem_cons_of_mem _ member)) behind
      exact ⟨by rw [first, heads], rest⟩

def field (bytes : Bytes) : Bytes := decimal bytes.length ++ 58 :: bytes

theorem field_ne_nil (bytes : Bytes) : field bytes ≠ [] :=
  List.append_ne_nil_of_right_ne_nil _ (List.cons_ne_nil _ _)

theorem field_delimits : Delimits field := by
  intro left right leftRest rightRest same
  simp only [field, List.append_assoc, List.cons_append] at same
  obtain ⟨digits, behind⟩ :=
    split_unique (colon_notMem_decimal _) (colon_notMem_decimal _) same
  have lengths : left.length = right.length := by
    rw [← ofDecimal_decimal left.length, digits, ofDecimal_decimal]
  exact List.append_inj behind lengths

/-- A byte string after its length in `width` bytes, big-endian. -/
def prefixed (width : Nat) (bytes : Bytes) : Bytes := beBytes width bytes.length ++ bytes

theorem prefixed_append_inj {width : Nat} {left right leftRest rightRest : Bytes}
    (leftFits : left.length < 256 ^ width) (rightFits : right.length < 256 ^ width)
    (same : prefixed width left ++ leftRest = prefixed width right ++ rightRest) :
    left = right ∧ leftRest = rightRest := by
  simp only [prefixed, List.append_assoc] at same
  obtain ⟨numbers, behind⟩ := List.append_inj same (by simp)
  have lengths := beBytes_injective leftFits rightFits numbers
  exact List.append_inj behind lengths

theorem flatMap_prefixed_inj {width : Nat} {left right : List Bytes} {leftRest rightRest : Bytes}
    (count : left.length = right.length) (leftFits : ∀ bytes ∈ left, bytes.length < 256 ^ width)
    (rightFits : ∀ bytes ∈ right, bytes.length < 256 ^ width)
    (same : left.flatMap (prefixed width) ++ leftRest =
      right.flatMap (prefixed width) ++ rightRest) : left = right ∧ leftRest = rightRest := by
  induction left generalizing right with
  | nil =>
    cases List.eq_nil_of_length_eq_zero count.symm
    exact ⟨rfl, same⟩
  | cons bytes left ih =>
    cases right with
    | nil => cases count
    | cons other right =>
      rw [List.forall_mem_cons] at leftFits rightFits
      simp only [List.flatMap_cons, List.append_assoc] at same
      obtain ⟨first, behind⟩ := prefixed_append_inj leftFits.1 rightFits.1 same
      have counts : left.length = right.length := Nat.succ.inj count
      obtain ⟨fields, rest⟩ := ih counts leftFits.2 rightFits.2 behind
      exact ⟨by rw [first, fields], rest⟩

end OpenHttpa.Delimited
