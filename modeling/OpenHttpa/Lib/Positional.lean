import Mathlib.Algebra.BigOperators.Group.List.Basic
import Mathlib.Logic.Equiv.Defs
import OpenHttpa.Lib.Bytes

/-!
# Positional formats

A positional format writes the parts of a value one after the other, without names, and its reader
takes them in the same order. Nothing in the bytes says that a part is missing, so a writer that
leaves one out shifts everything behind it. `Positional` counts the bytes that are left out. Every
reader here takes at least as many bytes as a writer that left nothing out would have written, and
so what was written is read back exactly when nothing was left out (`Positional.reads_back_iff`).
-/
namespace OpenHttpa

structure Positional (α : Type) where
  write : α → Bytes
  /-- The value at the front, and the bytes behind it. -/
  read : Bytes → Option (α × Bytes)
  /-- How many bytes the writer leaves out. -/
  skipped : α → Nat
  read_write : ∀ value rest, skipped value = 0 → read (write value ++ rest) = some (value, rest)
  read_length : ∀ bytes value rest, read bytes = some (value, rest) →
    (write value).length + skipped value + rest.length ≤ bytes.length

namespace Positional

variable {α β : Type}

theorem reads_back_iff (format : Positional α) (value : α) :
    (∃ rest, format.read (format.write value) = some (value, rest)) ↔
      format.skipped value = 0 := by
  constructor
  · rintro ⟨rest, read⟩
    have enough := format.read_length _ _ _ read
    omega
  · intro whole
    refine ⟨[], ?_⟩
    have read := format.read_write value [] whole
    rw [List.append_nil] at read
    exact read

def byte : Positional UInt8 where
  write value := [value]
  read
    | [] => none
    | head :: rest => some (head, rest)
  skipped _ := 0
  read_write _ _ _ := rfl
  read_length bytes value rest read := by
    cases bytes with
    | nil => cases read
    | cons head tail =>
      cases read
      simp only [List.length_cons, List.length_nil]
      omega

def block (n : Nat) : Positional (Octets n) where
  write value := value.bytes
  read bytes := (Octets.ofBytes? n (bytes.take n)).map fun value => (value, bytes.drop n)
  skipped _ := 0
  read_write value rest _ := by
    have front : (value.bytes ++ rest).take n = value.bytes := List.take_left' value.length_eq
    have back : (value.bytes ++ rest).drop n = rest := List.drop_left' value.length_eq
    rw [front, back, Octets.ofBytes?_bytes, Option.map_some]
  read_length bytes value rest read := by
    obtain ⟨found, admitted, same⟩ := Option.map_eq_some_iff.mp read
    cases same
    rw [Octets.bytes_of_ofBytes? admitted, Nat.add_zero, ← List.length_append, List.take_append_drop]

def pair (first : Positional α) (second : Positional β) : Positional (α × β) where
  write value := first.write value.1 ++ second.write value.2
  read bytes := do
    let (left, rest) ← first.read bytes
    let (right, rest) ← second.read rest
    some ((left, right), rest)
  skipped value := first.skipped value.1 + second.skipped value.2
  read_write value rest whole := by
    have left : first.skipped value.1 = 0 := by omega
    have right : second.skipped value.2 = 0 := by omega
    simp [List.append_assoc, first.read_write _ _ left, second.read_write _ _ right]
  read_length bytes value rest read := by
    cases before : first.read bytes with
    | none => simp [before] at read
    | some left =>
      cases after : second.read left.2 with
      | none => simp [before, after] at read
      | some right =>
        simp only [before, after, Option.bind_eq_bind, Option.bind_some] at read
        cases read
        have one := first.read_length _ _ _ before
        have two := second.read_length _ _ _ after
        simp only [List.length_append]
        omega

def checked (format : Positional β) (unpack : α → β) (pack : β → Option α)
    (exact : ∀ value raw, pack raw = some value ↔ unpack value = raw) : Positional α where
  write value := format.write (unpack value)
  read bytes := do
    let (raw, rest) ← format.read bytes
    let value ← pack raw
    some (value, rest)
  skipped value := format.skipped (unpack value)
  read_write value rest whole := by
    have packed : pack (unpack value) = some value := (exact value _).mpr rfl
    simp [format.read_write _ _ whole, packed]
  read_length bytes value rest read := by
    cases before : format.read bytes with
    | none => simp [before] at read
    | some raw =>
      cases packed : pack raw.1 with
      | none => simp [before, packed] at read
      | some found =>
        simp only [before, packed, Option.bind_eq_bind, Option.bind_some] at read
        cases read
        rw [(exact value raw.1).mp packed]
        exact format.read_length _ _ _ before

/-- Values of another type, under a conversion that is undone on what it gives; the reader takes nothing
else. -/
def converted [DecidableEq β] (format : Positional β) (unpack : α → β) (pack : β → Option α)
    (undone : ∀ value, pack (unpack value) = some value) : Positional α :=
  format.checked unpack (fun raw => (pack raw).filter fun value => unpack value = raw) (by
    intro value raw
    rw [Option.filter_eq_some_iff, decide_eq_true_eq]
    constructor
    · exact And.right
    · rintro rfl
      exact ⟨undone value, rfl⟩)

/-- Values of another type that correspond to those of the format one by one. -/
def renamed (format : Positional β) (same : α ≃ β) : Positional α :=
  format.checked same (fun raw => some (same.symm raw)) (by
    intro value raw
    rw [Option.some.injEq, Equiv.symm_apply_eq]
    exact eq_comm)

theorem read_renamed (format : Positional β) (same : α ≃ β) (bytes : Bytes) :
    (format.renamed same).read bytes =
      (format.read bytes).map fun found => (same.symm found.1, found.2) := by
  cases found : format.read bytes with
  | none | some => simp [renamed, checked, found]

/-- A number in groups of seven bits, lowest first, with a mark on every group but the last; `fuel`
groups at most. -/
def writeVarint : Nat → Nat → Bytes
  | 0, _ => []
  | fuel + 1, number =>
    if number < 128 then [UInt8.ofNat number]
    else UInt8.ofNat (number % 128 + 128) :: writeVarint fuel (number / 128)

def readVarint : Bytes → Option (Nat × Bytes)
  | [] => none
  | head :: rest =>
    if head.toNat < 128 then some (head.toNat, rest)
    else (readVarint rest).map fun high => (head.toNat - 128 + 128 * high.1, high.2)

theorem readVarint_writeVarint {fuel number : Nat} (enough : number < fuel) (rest : Bytes) :
    readVarint (writeVarint fuel number ++ rest) = some (number, rest) := by
  induction fuel generalizing number with
  | zero => omega
  | succ fuel ih =>
    rw [writeVarint]
    by_cases small : number < 128
    · have digit : (UInt8.ofNat number).toNat = number := by
        apply UInt8.toNat_ofNat_of_lt
        change number < 256
        omega
      simp only [if_pos small, List.singleton_append, readVarint, digit]
    · have digit : (UInt8.ofNat (number % 128 + 128)).toNat = number % 128 + 128 := by
        apply UInt8.toNat_ofNat_of_lt
        change number % 128 + 128 < 256
        omega
      have marked : ¬ number % 128 + 128 < 128 := by omega
      have higher : number / 128 < fuel := by omega
      have value : number % 128 + 128 - 128 + 128 * (number / 128) = number := by omega
      simp only [if_neg small, List.cons_append, readVarint, digit, if_neg marked, ih higher,
        Option.map_some, value]

variable {bytes rest : Bytes} {first : Positional α} {format : Positional β}

theorem writeVarint_length {number : Nat}
    (read : readVarint bytes = some (number, rest)) (fuel : Nat) :
    (writeVarint fuel number).length + rest.length ≤ bytes.length := by
  induction bytes generalizing number rest fuel with
  | nil => cases read
  | cons head tail ih =>
    rw [readVarint] at read
    by_cases small : head.toNat < 128
    · rw [if_pos small] at read
      cases read
      cases fuel with
      | zero => simp [writeVarint]
      | succ fuel =>
        rw [writeVarint, if_pos small, List.length_singleton, List.length_cons]
        omega
    · rw [if_neg small] at read
      obtain ⟨⟨high, left⟩, found, same⟩ := Option.map_eq_some_iff.mp read
      cases same
      dsimp only
      cases fuel with
      | zero =>
        have shorter := ih found 0
        simp only [writeVarint, List.length_nil, List.length_cons] at shorter ⊢
        omega
      | succ fuel =>
        have shorter := ih found fuel
        have bound := head.toNat_lt
        have upper : (head.toNat - 128 + 128 * high) / 128 = high := by omega
        rw [writeVarint]
        split
        · rw [List.length_singleton, List.length_cons]
          omega
        · rw [upper, List.length_cons, List.length_cons]
          omega

theorem writeVarint_pos (fuel number : Nat) : 0 < (writeVarint (fuel + 1) number).length := by
  rw [writeVarint]
  split <;> simp

def varint : Positional Nat where
  write number := writeVarint (number + 1) number
  read := readVarint
  skipped _ := 0
  read_write number rest _ := readVarint_writeVarint (Nat.lt_succ_self number) rest
  read_length _ number _ read := writeVarint_length read (number + 1)

def enumeration [DecidableEq α] (all : List α) (distinct : all.Nodup) (complete : ∀ value, value ∈ all) :
    Positional α :=
  varint.checked (fun value => all.idxOf value) (fun index => all[index]?) (by
    intro value index
    constructor
    · intro found
      obtain ⟨inside, same⟩ := List.getElem?_eq_some_iff.mp found
      rw [← same]
      exact distinct.idxOf_getElem index inside
    · rintro rfl
      exact List.getElem?_idxOf (complete value))

def readOption (format : Positional α) : Bytes → Option (Option α × Bytes)
  | [] => none
  | tag :: rest =>
    if tag = 0 then some (none, rest)
    else if tag = 1 then (format.read rest).map fun found => (some found.1, found.2)
    else none

theorem readOption_some (format : Positional α) {value : α} (whole : format.skipped value = 0)
    (rest : Bytes) :
    format.readOption (1 :: format.write value ++ rest) = some (some value, rest) := by
  have tagged : ¬ (1 : UInt8) = 0 := by decide
  simp only [List.cons_append, readOption, if_neg tagged, if_true, format.read_write _ _ whole,
    Option.map_some]

theorem readOption_length (format : Positional α) {value : Option α}
    (read : format.readOption bytes = some (value, rest)) :
    1 + (value.elim 0 fun value => (format.write value).length + format.skipped value) +
      rest.length ≤ bytes.length := by
  cases bytes with
  | nil => cases read
  | cons tag tail =>
    rw [readOption] at read
    rw [List.length_cons]
    split at read
    · cases read
      simp only [Option.elim_none]
      omega
    · split at read
      · obtain ⟨found, inner, same⟩ := Option.map_eq_some_iff.mp read
        cases same
        have enough := format.read_length _ _ _ inner
        simp only [Option.elim_some]
        omega
      · cases read

def optional (format : Positional α) : Positional (Option α) where
  write
    | none => [0]
    | some value => 1 :: format.write value
  read := format.readOption
  skipped value := value.elim 0 format.skipped
  read_write value rest whole := by
    cases value with
    | none => rfl
    | some value => exact format.readOption_some whole rest
  read_length bytes value rest read := by
    have enough := format.readOption_length read
    cases value with
    | none => simpa using enough
    | some value =>
      simp only [Option.elim_some, List.length_cons] at enough ⊢
      omega

/-- An option that is not written at all when it is absent, though its reader expects the tag. -/
def skippable (format : Positional α) : Positional (Option α) where
  write
    | none => []
    | some value => 1 :: format.write value
  read := format.readOption
  skipped value := value.elim 1 format.skipped
  read_write value rest whole := by
    cases value with
    | none => cases whole
    | some value => exact format.readOption_some whole rest
  read_length bytes value rest read := by
    have enough := format.readOption_length read
    cases value with
    | none => simpa using enough
    | some value =>
      simp only [Option.elim_some, List.length_cons] at enough ⊢
      omega

def readMany (read : Bytes → Option (α × Bytes)) : Nat → Bytes → Option (List α × Bytes)
  | 0, bytes => some ([], bytes)
  | count + 1, bytes => do
    let (head, rest) ← read bytes
    let (tail, rest) ← readMany read count rest
    some (head :: tail, rest)

theorem readMany_flatMap {read : Bytes → Option (α × Bytes)} {write : α → Bytes} {values : List α}
    (each : ∀ value ∈ values, ∀ rest, read (write value ++ rest) = some (value, rest))
    (rest : Bytes) : readMany read values.length (values.flatMap write ++ rest) =
      some (values, rest) := by
  induction values with
  | nil => rfl
  | cons head tail ih =>
    have first := each head List.mem_cons_self
    have others := ih fun value member => each value (List.mem_cons_of_mem head member)
    simp [readMany, List.append_assoc, first, others]

theorem readMany_length {read : Bytes → Option (α × Bytes)} {size : α → Nat}
    (each : ∀ bytes value rest, read bytes = some (value, rest) →
      size value + rest.length ≤ bytes.length) {count : Nat} {values : List α}
    (found : readMany read count bytes = some (values, rest)) :
    (values.map size).sum + rest.length ≤ bytes.length ∧ values.length = count := by
  induction count generalizing bytes values rest with
  | zero =>
    cases found
    simp
  | succ count ih =>
    cases first : read bytes with
    | none => simp [readMany, first] at found
    | some head =>
      cases others : readMany read count head.2 with
      | none => simp [readMany, first, others] at found
      | some tail =>
        simp only [readMany, first, others, Option.bind_eq_bind, Option.bind_some] at found
        cases found
        have one := each _ _ _ first
        obtain ⟨more, length⟩ := ih others
        simp only [List.map_cons, List.sum_cons, List.length_cons]
        omega

def many (format : Positional α) : Positional (List α) where
  write values := varint.write values.length ++ values.flatMap format.write
  read bytes := do
    let (count, rest) ← varint.read bytes
    readMany format.read count rest
  skipped values := (values.map format.skipped).sum
  read_write values rest whole := by
    have each : ∀ value ∈ values, ∀ rest,
        format.read (format.write value ++ rest) = some (value, rest) := by
      intro value member rest
      apply format.read_write
      exact List.sum_eq_zero_iff_forall_eq_nat.mp whole _ (List.mem_map_of_mem member)
    have counted := varint.read_write values.length (values.flatMap format.write ++ rest) rfl
    rw [List.append_assoc, counted]
    exact readMany_flatMap each rest
  read_length bytes values rest read := by
    cases counted : varint.read bytes with
    | none => simp [counted] at read
    | some count =>
      simp only [counted, Option.bind_eq_bind, Option.bind_some] at read
      have one := varint.read_length _ _ _ counted
      obtain ⟨more, length⟩ := readMany_length format.read_length read
      rw [List.sum_map_add, ← List.length_flatMap] at more
      have nothing : varint.skipped count.1 = 0 := rfl
      rw [List.length_append, length]
      omega

def Whole (format : Positional α) : Prop := ∀ value, format.skipped value = 0

theorem byte_whole : byte.Whole := fun _ => rfl

theorem block_whole (n : Nat) : (block n).Whole := fun _ => rfl

theorem varint_whole : varint.Whole := fun _ => rfl

theorem enumeration_whole [DecidableEq α] (all : List α) (distinct : all.Nodup)
    (complete : ∀ value, value ∈ all) : (enumeration all distinct complete).Whole := fun _ => rfl

theorem Whole.skipped_pair (whole : first.Whole) (second : Positional β)
    (left : α) (right : β) : (first.pair second).skipped (left, right) = second.skipped right := by
  have nothing := whole left
  change first.skipped left + second.skipped right = second.skipped right
  omega

theorem Whole.pair {second : Positional β} (one : first.Whole)
    (other : second.Whole) : (first.pair second).Whole := by
  rintro ⟨left, right⟩
  rw [one.skipped_pair]
  exact other right

theorem Whole.checked (whole : format.Whole) (unpack : α → β)
    (pack : β → Option α) (exact : ∀ value raw, pack raw = some value ↔ unpack value = raw) :
    (format.checked unpack pack exact).Whole := fun value => whole (unpack value)

theorem Whole.renamed (whole : format.Whole) (same : α ≃ β) :
    (format.renamed same).Whole := fun value => whole (same value)

theorem Whole.converted [DecidableEq β] (whole : format.Whole) (unpack : α → β)
    (pack : β → Option α) (undone : ∀ value, pack (unpack value) = some value) :
    (format.converted unpack pack undone).Whole := fun value => whole (unpack value)

theorem Whole.read_pair (whole : first.Whole) (second : Positional β) (left : α)
    (rest : Bytes) : (first.pair second).read (first.write left ++ rest) =
      (second.read rest).map fun found => ((left, found.1), found.2) := by
  have read := first.read_write left rest (whole left)
  cases found : second.read rest with
  | none | some => simp [Positional.pair, read, found]

theorem Whole.read_write {format : Positional α} (whole : format.Whole) (value : α) :
    format.read (format.write value) = some (value, []) := by
  have read := format.read_write value [] (whole value)
  rwa [List.append_nil] at read

theorem Whole.many {format : Positional α} (whole : format.Whole) : format.many.Whole := by
  intro values
  apply List.sum_eq_zero_iff_forall_eq_nat.mpr
  intro count member
  obtain ⟨value, _, rfl⟩ := List.mem_map.mp member
  exact whole value

theorem Whole.optional {format : Positional α} (whole : format.Whole) : format.optional.Whole := by
  intro value
  cases value with
  | none => rfl
  | some value => exact whole value

end Positional

structure Branching (α β : Type) where
  shape : α ≃ β × List α
  /-- Going down from child to child comes to an end. -/
  founded : WellFounded fun child value => child ∈ (shape value).2

namespace Branching

open Positional

variable {α β : Type} (tree : Branching α β) (label : Positional β)

def write (value : α) : Bytes :=
  label.write (tree.shape value).1 ++ (varint.write (tree.shape value).2.length ++
    (tree.shape value).2.attach.flatMap fun child => write child.1)
termination_by tree.founded.wrap value
decreasing_by exact child.2

def skipped (value : α) : Nat :=
  label.skipped (tree.shape value).1 +
    ((tree.shape value).2.attach.map fun child => skipped child.1).sum
termination_by tree.founded.wrap value
decreasing_by exact child.2

/-- Every level has a byte of its own, so fuel for as many levels as there are bytes is enough. -/
def read : Nat → Bytes → Option (α × Bytes)
  | 0, _ => none
  | fuel + 1, bytes => do
    let (head, rest) ← label.read bytes
    let (count, rest) ← varint.read rest
    let (children, rest) ← readMany (read fuel) count rest
    some (tree.shape.symm (head, children), rest)

theorem write_eq (value : α) :
    tree.write label value = label.write (tree.shape value).1 ++
      (varint.write (tree.shape value).2.length ++
        (tree.shape value).2.flatMap (tree.write label)) := by
  rw [write]
  simp

theorem skipped_eq (value : α) :
    tree.skipped label value = label.skipped (tree.shape value).1 +
      ((tree.shape value).2.map (tree.skipped label)).sum := by
  rw [skipped]
  simp

theorem read_write {fuel : Nat} {value : α} (whole : tree.skipped label value = 0)
    (enough : (tree.write label value).length ≤ fuel) (rest : Bytes) :
    tree.read label fuel (tree.write label value ++ rest) = some (value, rest) := by
  induction fuel generalizing value rest with
  | zero =>
    rw [write_eq, List.length_append, List.length_append] at enough
    have counted : 0 < (varint.write (tree.shape value).2.length).length := writeVarint_pos _ _
    omega
  | succ fuel ih =>
    rw [skipped_eq] at whole
    have labelled : label.skipped (tree.shape value).1 = 0 := by omega
    have below : ((tree.shape value).2.map (tree.skipped label)).sum = 0 := by omega
    rw [write_eq, List.length_append, List.length_append] at enough
    have counted : 0 < (varint.write (tree.shape value).2.length).length := writeVarint_pos _ _
    have each : ∀ child ∈ (tree.shape value).2, ∀ rest,
        tree.read label fuel (tree.write label child ++ rest) = some (child, rest) := by
      intro child member rest
      apply ih
      · exact List.sum_eq_zero_iff_forall_eq_nat.mp below _ (List.mem_map_of_mem member)
      · obtain ⟨before, after, split⟩ := List.append_of_mem member
        have size : ((tree.shape value).2.flatMap (tree.write label)).length =
            (before.flatMap (tree.write label)).length +
              ((tree.write label child).length + (after.flatMap (tree.write label)).length) := by
          rw [split]
          simp only [List.flatMap_append, List.flatMap_cons, List.length_append]
        omega
    have children := readMany_flatMap each rest
    have number := varint.read_write (tree.shape value).2.length
      ((tree.shape value).2.flatMap (tree.write label) ++ rest) rfl
    rw [write_eq]
    simp [read, List.append_assoc, label.read_write _ _ labelled, number, children]

theorem read_length {fuel : Nat} (bytes : Bytes) (value : α) (rest : Bytes)
    (found : tree.read label fuel bytes = some (value, rest)) :
    (tree.write label value).length + tree.skipped label value + rest.length ≤ bytes.length := by
  induction fuel generalizing bytes value rest with
  | zero => cases found
  | succ fuel ih =>
    cases labelled : label.read bytes with
    | none => simp [read, labelled] at found
    | some head =>
      cases counted : varint.read head.2 with
      | none => simp [read, labelled, counted] at found
      | some count =>
        cases below : readMany (tree.read label fuel) count.1 count.2 with
        | none => simp [read, labelled, counted, below] at found
        | some children =>
          simp only [read, labelled, counted, below, Option.bind_eq_bind, Option.bind_some] at found
          cases found
          have one := label.read_length _ _ _ labelled
          have two := varint.read_length _ _ _ counted
          obtain ⟨three, length⟩ := readMany_length ih below
          rw [List.sum_map_add, ← List.length_flatMap] at three
          have nothing : varint.skipped count.1 = 0 := rfl
          simp only [write_eq, skipped_eq, Equiv.apply_symm_apply, List.length_append, length]
          omega

def positional : Positional α where
  write := tree.write label
  read bytes := tree.read label bytes.length bytes
  skipped := tree.skipped label
  read_write value rest whole := by
    apply tree.read_write label whole
    rw [List.length_append]
    omega
  read_length bytes value rest found := tree.read_length label bytes value rest found

end Branching

/-- A writer and a reader that takes exactly its bytes, whatever follows them. -/
structure Codec (α : Type) where
  write : α → Bytes
  /-- The value at the front, and the bytes behind it. -/
  read : Bytes → Option (α × Bytes)
  read_write : ∀ value rest, read (write value ++ rest) = some (value, rest)

variable {α β : Type}

def Positional.codec (format : Positional α) (whole : format.Whole) : Codec α where
  write := format.write
  read := format.read
  read_write value rest := format.read_write value rest (whole value)

def Codec.pair (first : Codec α) (second : Codec β) : Codec (α × β) where
  write value := first.write value.1 ++ second.write value.2
  read bytes := do
    let (left, rest) ← first.read bytes
    let (right, rest) ← second.read rest
    some ((left, right), rest)
  read_write value rest := by
    simp [List.append_assoc, first.read_write, second.read_write]

def Codec.readBefore (header : Codec α) (format : Positional β) (bytes : Bytes) : Option (α × β) := do
  let (first, rest) ← header.read bytes
  let (last, _) ← format.read rest
  some (first, last)

theorem Codec.readBefore_iff (header : Codec α) (format : Positional β) (first : α) (last : β) :
    header.readBefore format (header.write first ++ format.write last) = some (first, last) ↔
      format.skipped last = 0 := by
  rw [← format.reads_back_iff]
  cases found : format.read (format.write last) with
  | none => simp [readBefore, header.read_write, found]
  | some result =>
    obtain ⟨value, rest⟩ := result
    simp [readBefore, header.read_write, found]

end OpenHttpa
