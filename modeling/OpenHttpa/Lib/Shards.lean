import Mathlib.Data.List.Nodup
import Mathlib.Data.List.Perm.Lattice
import OpenHttpa.Lib.Assoc

/-!
# A map in shards

A list of tables in which every key belongs to one of them, the one at its slot. If no table holds a
key of another slot, the list stands for one table: the value of a key is the one at its slot, and
the entries of all tables together are the entries of the one, up to order.
-/
namespace OpenHttpa.Shards

variable {κ β : Type*} [DecidableEq κ]

def find (slot : κ → Nat) (shards : List (Table κ β)) (key : κ) : Option β :=
  shards[slot key]?.bind (·.find key)

def Placed (slot : κ → Nat) (shards : List (Table κ β)) : Prop :=
  ∀ index table, shards[index]? = some table → ∀ key ∈ table.keys, slot key = index

structure Represents (slot : κ → Nat) (shards : List (Table κ β)) (table : Table κ β) : Prop where
  placed : Placed slot shards
  found : ∀ key, find slot shards key = table.find key

variable {slot : κ → Nat} {shards : List (Table κ β)}

theorem mem_flatMap_entries (placed : Placed slot shards) {key : κ} {value : β} :
    (key, value) ∈ shards.flatMap Table.entries ↔ find slot shards key = some value := by
  rw [List.mem_flatMap, find]
  constructor
  · rintro ⟨table, member, entry⟩
    obtain ⟨index, at_index⟩ := List.mem_iff_getElem?.mp member
    have here : slot key = index := placed index table at_index key (List.mem_map_of_mem entry)
    rw [here, at_index]
    exact Table.mem_entries.mp entry
  · intro found
    obtain ⟨table, at_slot, value_of⟩ := Option.bind_eq_some_iff.mp found
    exact ⟨table, List.mem_of_getElem? at_slot, Table.mem_entries.mpr value_of⟩

omit [DecidableEq κ] in
theorem nodup_flatMap_entries (placed : Placed slot shards) : (shards.flatMap Table.entries).Nodup := by
  rw [List.nodup_flatMap]
  refine ⟨fun table _ => table.distinct.of_map, ?_⟩
  rw [List.pairwise_iff_getElem]
  intro first second one two before entry left right
  -- a key in two shards would have two slots
  have here := placed first _ (List.getElem?_eq_getElem one) entry.1 (List.mem_map_of_mem left)
  have there := placed second _ (List.getElem?_eq_getElem two) entry.1 (List.mem_map_of_mem right)
  omega

theorem Represents.perm {table : Table κ β} (represents : Represents slot shards table) :
    (shards.flatMap Table.entries).Perm table.entries := by
  refine (List.perm_ext_iff_of_nodup (nodup_flatMap_entries represents.placed)
    table.distinct.of_map).mpr fun entry => ?_
  rw [mem_flatMap_entries represents.placed, represents.found, ← Table.mem_entries]

theorem represents_empty (count : Nat) :
    Represents slot (List.replicate count (.empty : Table κ β)) .empty where
  placed := by
    intro index table found key member
    rw [List.getElem?_replicate] at found
    split at found
    · cases found
      cases member
    · cases found
  found := by
    intro key
    rw [find, List.getElem?_replicate]
    split <;> rfl

theorem Represents.insert {table : Table κ β} (represents : Represents slot shards table) {key : κ}
    (inside : slot key < shards.length) (value : β) :
    Represents slot (shards.modify (slot key) (·.insert key value)) (table.insert key value) where
  placed := by
    intro index after found other member
    rw [List.getElem?_modify, Option.map_eq_map, Option.map_eq_some_iff] at found
    obtain ⟨before, at_index, rfl⟩ := found
    split at member
    · rename_i here
      rcases List.mem_cons.mp (Table.keys_insert before key value member) with rfl | old
      · exact here
      · exact represents.placed index before at_index other old
    · exact represents.placed index before at_index other member
  found := by
    intro other
    have before := represents.found other
    rw [find] at before
    rw [find, List.getElem?_modify, Table.find_insert, ← before]
    by_cases same : other = key
    · subst same
      simp [List.getElem?_eq_getElem inside]
    · rw [if_neg same]
      cases shards[slot other]? with
      | none => rfl
      | some there =>
        by_cases here : slot key = slot other
        · simp [here, Table.find_insert, same]
        · simp [here]

theorem Represents.retain {table : Table κ β} (represents : Represents slot shards table)
    (kept : β → Option β) :
    Represents slot (shards.map (·.retain kept)) (table.retain kept) where
  placed := by
    intro index after found key member
    rw [List.getElem?_map, Option.map_eq_some_iff] at found
    obtain ⟨before, at_index, rfl⟩ := found
    refine represents.placed index before at_index key ?_
    rw [Table.mem_keys, Table.find_retain] at member
    rw [Table.mem_keys]
    cases found : before.find key with
    | none => simp [found] at member
    | some value => rfl
  found := by
    intro key
    have before := represents.found key
    rw [find] at before
    rw [find, List.getElem?_map, Table.find_retain, ← before]
    cases shards[slot key]? with
    | none => rfl
    | some there => exact there.find_retain kept key

end OpenHttpa.Shards
