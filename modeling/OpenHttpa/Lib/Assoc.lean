import Mathlib.Data.List.Nodup
import Mathlib.Data.List.Basic

/-!
# Association lists

A map as a list of keys and values, with one entry for each key. `without` takes a key out. The
rules say what `lookup` finds afterwards and how many entries are left. A `Table` is such a list
together with the proof that no key stands in it twice.
-/
namespace OpenHttpa.Assoc

variable {κ β : Type*} [DecidableEq κ]

def without (entries : List (κ × β)) (key : κ) : List (κ × β) :=
  entries.filter fun entry => entry.1 ≠ key

variable {entries : List (κ × β)} {key : κ} {value : β}

omit [DecidableEq κ] in
theorem lookup_cons_of_ne [BEq κ] [LawfulBEq κ] {other : κ}
    (apart : other ≠ key) : ((key, value) :: entries).lookup other = entries.lookup other := by
  rw [List.lookup_cons, beq_false_of_ne apart]

theorem not_mem_without (entries : List (κ × β)) (key : κ) :
    key ∉ (without entries key).map Prod.fst := by
  intro member
  obtain ⟨entry, inside, same⟩ := List.mem_map.mp member
  have other := (List.mem_filter.mp inside).2
  simp [same] at other

@[simp]
theorem lookup_without_self (entries : List (κ × β)) (key : κ) :
    (without entries key).lookup key = none := by
  rw [List.lookup_eq_none_iff]
  intro entry member
  have other : entry.1 ≠ key := by simpa using (List.mem_filter.mp member).2
  simpa using other.symm

theorem lookup_without_of_ne (entries : List (κ × β)) {other : κ} (apart : other ≠ key) :
    (without entries key).lookup other = entries.lookup other := by
  unfold without
  induction entries with
  | nil => rfl
  | cons entry rest ih =>
    by_cases same : entry.1 = key
    · rw [List.filter_cons_of_neg (by simp [same]), ih, lookup_cons_of_ne (same ▸ apart)]
    · rw [List.filter_cons_of_pos (by simp [same]), List.lookup_cons, List.lookup_cons, ih]

theorem mem_of_lookup (found : entries.lookup key = some value) : (key, value) ∈ entries := by
  obtain ⟨front, back, split, -⟩ := List.lookup_eq_some_iff.mp found
  simp [split]

variable (keys : (entries.map Prod.fst).Nodup)
include keys

theorem lookup_of_mem (member : (key, value) ∈ entries) : entries.lookup key = some value := by
  induction entries with
  | nil => cases member
  | cons entry rest ih =>
    rw [List.map_cons, List.nodup_cons] at keys
    rcases List.mem_cons.mp member with same | later
    · rw [← same, List.lookup_cons_self]
    · have apart : key ≠ entry.1 := by
        intro same
        exact keys.1 (same ▸ List.mem_map_of_mem later)
      rw [lookup_cons_of_ne apart]
      exact ih keys.2 later

theorem length_without (key : κ) :
    (without entries key).length + (if (entries.lookup key).isSome then 1 else 0) =
      entries.length := by
  unfold without
  induction entries with
  | nil => rfl
  | cons entry rest ih =>
    rw [List.map_cons, List.nodup_cons] at keys
    obtain ⟨absent, distinct⟩ := keys
    by_cases same : entry.1 = key
    · have untouched : rest.filter (fun entry => decide (entry.1 ≠ key)) = rest := by
        rw [List.filter_eq_self]
        intro other member
        rw [decide_eq_true_eq]
        intro equal
        apply absent
        rw [same, ← equal]
        exact List.mem_map_of_mem member
      have found : (List.lookup key (entry :: rest)).isSome = true := by
        rw [List.lookup_cons, same, beq_self_eq_true]
        rfl
      rw [List.filter_cons_of_neg (by simp [same]), untouched, if_pos found, List.length_cons]
    · rw [List.filter_cons_of_pos (by simp [same]), lookup_cons_of_ne (Ne.symm same), List.length_cons,
        List.length_cons, ← ih distinct]
      omega

theorem nodup_without (key : κ) : ((without entries key).map Prod.fst).Nodup :=
  keys.sublist (List.filter_sublist.map Prod.fst)

theorem nodup_cons_without (key : κ)
    (value : β) : (((key, value) :: without entries key).map Prod.fst).Nodup :=
  List.nodup_cons.mpr ⟨not_mem_without entries key, nodup_without keys key⟩

omit keys

omit [DecidableEq κ] in
theorem map_filterMap_sublist {α γ δ : Type*} {list : List α} {kept : α → Option γ} {after : γ → δ}
    {before : α → δ} (same : ∀ item ∈ list, ∀ made, kept item = some made → after made = before item) :
    ((list.filterMap kept).map after).Sublist (list.map before) := by
  induction list with
  | nil => exact .slnil
  | cons item rest ih =>
    obtain ⟨first, others⟩ := List.forall_mem_cons.mp same
    rw [List.filterMap_cons, List.map_cons]
    cases found : kept item with
    | none => exact .cons _ (ih others)
    | some made =>
      rw [← first made found]
      exact .cons_cons _ (ih others)

omit [DecidableEq κ] in
theorem nodup_filterMap (keys : (entries.map Prod.fst).Nodup) (kept : β → Option β) :
    ((entries.filterMap fun entry => (kept entry.2).map (entry.1, ·)).map Prod.fst).Nodup := by
  refine keys.sublist (map_filterMap_sublist fun entry _ made found => ?_)
  obtain ⟨value, -, rfl⟩ := Option.map_eq_some_iff.mp found
  rfl

omit [DecidableEq κ] in
theorem filterMap_sublist (entries : List (κ × β)) {kept : β → Option β}
    (same : ∀ {value after}, kept value = some after → after = value) :
    (entries.filterMap fun entry => (kept entry.2).map (entry.1, ·)).Sublist entries := by
  have shorter : ((entries.filterMap fun entry => (kept entry.2).map (entry.1, ·)).map id).Sublist
      (entries.map id) := by
    refine map_filterMap_sublist fun entry _ made found => ?_
    obtain ⟨value, stays, rfl⟩ := Option.map_eq_some_iff.mp found
    rw [same stays]
  rwa [List.map_id, List.map_id] at shorter

theorem lookup_filterMap (keys : (entries.map Prod.fst).Nodup) (kept : β → Option β) (key : κ) :
    (entries.filterMap fun entry => (kept entry.2).map (entry.1, ·)).lookup key =
      (entries.lookup key).bind kept := by
  induction entries with
  | nil => rfl
  | cons entry rest ih =>
    rw [List.map_cons, List.nodup_cons] at keys
    obtain ⟨absent, distinct⟩ := keys
    rw [List.filterMap_cons]
    by_cases same : key = entry.1
    · rw [same, List.lookup_cons_self]
      cases found : kept entry.2 with
      | none =>
        have gone : rest.lookup entry.1 = none := by
          rw [List.lookup_eq_none_iff]
          intro other member
          have apart : entry.1 ≠ other.1 := fun equal => absent (equal ▸ List.mem_map_of_mem member)
          simpa using apart
        simp only [Option.map_none, Option.bind_some, found]
        rw [← same, ih distinct, same, gone]
        rfl
      | some value => simp [found]
    · rw [lookup_cons_of_ne same]
      cases kept entry.2 with
      | none => exact ih distinct
      | some value => exact (lookup_cons_of_ne same).trans (ih distinct)

end OpenHttpa.Assoc

namespace OpenHttpa

/-- A list of entries with distinct keys. -/
structure Table (κ β : Type*) where
  entries : List (κ × β)
  distinct : (entries.map Prod.fst).Nodup

namespace Table

variable {κ β : Type*}

def empty : Table κ β := ⟨[], List.nodup_nil⟩

variable (table : Table κ β)

def keys : List κ := table.entries.map Prod.fst

def size : Nat := table.entries.length

theorem eq_of_entries {first second : Table κ β} (same : first.entries = second.entries) :
    first = second := by
  cases first
  cases second
  congr

theorem length_keys : table.keys.length = table.size := List.length_map ..

variable [DecidableEq κ]

def find (key : κ) : Option β := table.entries.lookup key

def remove (key : κ) : Table κ β :=
  ⟨Assoc.without table.entries key, Assoc.nodup_without table.distinct key⟩

def insert (key : κ) (value : β) : Table κ β :=
  ⟨(key, value) :: Assoc.without table.entries key,
    Assoc.nodup_cons_without table.distinct key value⟩

/-- Go over the entries: the function gives the new value of an entry, or that it goes. -/
def retain (kept : β → Option β) : Table κ β :=
  ⟨table.entries.filterMap fun entry => (kept entry.2).map (entry.1, ·),
    Assoc.nodup_filterMap table.distinct kept⟩

@[simp]
theorem find_empty (key : κ) : (empty : Table κ β).find key = none := rfl

@[simp]
theorem find_insert_self (key : κ) (value : β) :
    (table.insert key value).find key = some value := by
  simp [find, insert]

variable {key : κ} {table} {kept : β → Option β}

variable (table)

theorem find_insert_of_ne {other : κ} (value : β) (apart : other ≠ key) :
    (table.insert key value).find other = table.find other := by
  rw [find, insert, Assoc.lookup_cons_of_ne apart]
  exact Assoc.lookup_without_of_ne table.entries apart

theorem find_insert (key other : κ) (value : β) :
    (table.insert key value).find other = if other = key then some value else table.find other := by
  by_cases same : other = key
  · rw [if_pos same, same, find_insert_self]
  · rw [if_neg same, find_insert_of_ne table value same]

theorem find_remove (key other : κ) :
    (table.remove key).find other = if other = key then none else table.find other := by
  by_cases same : other = key
  · rw [if_pos same, same]
    exact Assoc.lookup_without_self table.entries key
  · rw [if_neg same]
    exact Assoc.lookup_without_of_ne table.entries same

theorem find_retain (kept : β → Option β) (key : κ) :
    (table.retain kept).find key = (table.find key).bind kept :=
  Assoc.lookup_filterMap table.distinct kept key

omit [DecidableEq κ] in
theorem size_retain_le (kept : β → Option β) :
    (table.retain kept).size ≤ table.size := List.length_filterMap_le ..

variable {table}

omit [DecidableEq κ] in
theorem retain_eq_self (same : ∀ {value after}, kept value = some after → after = value)
    (whole : (table.retain kept).size = table.size) : table.retain kept = table :=
  eq_of_entries ((Assoc.filterMap_sublist table.entries same).eq_of_length whole)

theorem retain_congr {other : β → Option β}
    (same : ∀ key value, table.find key = some value → kept value = other value) :
    table.retain kept = table.retain other := by
  apply eq_of_entries
  refine List.filterMap_congr fun entry member => ?_
  rw [same entry.1 entry.2 (Assoc.lookup_of_mem table.distinct member)]

theorem retain_of_forall
    (stays : ∀ key value, table.find key = some value → kept value = some value) :
    table.retain kept = table := by
  rw [retain_congr stays]
  exact eq_of_entries List.filterMap_some

theorem mem_entries {value : β} :
    (key, value) ∈ table.entries ↔ table.find key = some value :=
  ⟨Assoc.lookup_of_mem table.distinct, Assoc.mem_of_lookup⟩

theorem mem_keys : key ∈ table.keys ↔ (table.find key).isSome := by
  constructor
  · intro member
    obtain ⟨entry, inside, rfl⟩ := List.mem_map.mp member
    rw [find, Assoc.lookup_of_mem table.distinct inside]
    rfl
  · intro found
    obtain ⟨value, found⟩ := Option.isSome_iff_exists.mp found
    exact List.mem_map_of_mem (Assoc.mem_of_lookup found)

variable (table)

theorem size_remove (key : κ) :
    (table.remove key).size + (if (table.find key).isSome then 1 else 0) = table.size :=
  Assoc.length_without table.distinct key

theorem size_insert (key : κ) (value : β) : (table.insert key value).size =
      table.size + if (table.find key).isSome then 0 else 1 := by
  have taken := table.size_remove key
  change (table.remove key).size + 1 = _
  split
  · next found =>
    rw [if_pos found] at taken
    omega
  · next absent =>
    rw [if_neg absent] at taken
    omega

theorem size_remove_le (key : κ) : (table.remove key).size ≤ table.size :=
  List.length_filter_le ..

theorem size_insert_le (key : κ) (value : β) : (table.insert key value).size ≤ table.size + 1 :=
  Nat.succ_le_succ (table.size_remove_le key)

theorem keys_remove (key : κ) : (table.remove key).keys ⊆ table.keys :=
  (List.filter_sublist.map Prod.fst).subset

theorem keys_insert (key : κ) (value : β) : (table.insert key value).keys ⊆ key :: table.keys :=
  List.cons_subset_cons key (keys_remove table key)

variable {table}

theorem entries_insert_of_absent (absent : key ∉ table.keys) (value : β) :
    (table.insert key value).entries = (key, value) :: table.entries := by
  have untouched : Assoc.without table.entries key = table.entries := by
    rw [Assoc.without, List.filter_eq_self]
    intro entry member
    rw [decide_eq_true_eq]
    intro same
    exact absent (same ▸ List.mem_map_of_mem member)
  exact congrArg (List.cons (key, value)) untouched

end Table

end OpenHttpa
