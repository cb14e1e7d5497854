import OpenHttpa.Core.Postcard
import OpenHttpa.Fabric.Versions
import OpenHttpa.Lib.Delimited

/-!
# Cells of the persistent store

`RocksDbStore` keeps an entry under the text `namespace:key`, so what a call returns depends on the
earlier calls with the same joined text alone. The encryption key of an entry is derived from the
namespace and the key with their lengths, but the version check of a put comes before it and a deletion
needs no key, so two cells with one joined text disturb each other. A cell shares its text with no
other exactly when neither its namespace nor its key has a colon in it (`cell_isolated_iff`).
-/
namespace OpenHttpa.Fabric

open Crypto Proto Positional

inductive StoreCall where
  | get (nspace key : String)
  | put (call : Put)
  | delete (nspace key : String)

inductive StoreAnswer where
  | get (value : Option Bytes)
  | put (stored : Bool)
  | delete
deriving DecidableEq

def StoreCall.cell : StoreCall → String × String
  | get nspace key => (nspace, key)
  | put call => call.cell
  | delete nspace key => (nspace, key)

namespace RocksDbStore

variable (enclave : Enclave) (codec : EntryCodec)

/-- One call on a database that answers every read and carries out every write. -/
def serve (store : RocksDbStore) : StoreCall → StoreAnswer × RocksDbStore
  | .get nspace key => (.get (store.get enclave codec true nspace key), store)
  | .put call =>
    let (stored, store) := store.put enclave codec ⟨call, true, true⟩
    (.put stored, store)
  | .delete nspace key => (.delete, store.delete true nspace key)

def afterCall (store : RocksDbStore) (call : StoreCall) :
    RocksDbStore := (store.serve enclave codec call).2

variable (cell : String × String)

/-- What a call answers is what it would answer after the earlier calls on its own cell alone, on
every database and after any calls. -/
def Isolated : Prop :=
  ∀ store : RocksDbStore, (store.masterKey enclave).isSome = true →
    ∀ (calls : List StoreCall) (call : StoreCall), call.cell = cell →
      ((run (afterCall enclave codec) store calls).serve enclave codec call).1 =
        ((run (afterCall enclave codec) store
          (calls.filter fun earlier => earlier.cell = cell)).serve enclave codec call).1

/-! ## A call and its joined text -/

section Calls

variable (enclave : Enclave) (codec : EntryCodec)

def written (masterKey : Option (Octets 32)) (existing : Option FabricEntry) (call : Put) :
    Option Bytes :=
  if existing.any fun existing => dominates existing.version call.version then none
  else do
    let masterKey ← masterKey
    let (nonce, ciphertext) ←
      (enclave.encryptEntry masterKey call.nspace call.key call.data call.nonce).toOption
    some (codec.render ⟨call.version, ⟨ciphertext, nonce⟩, call.provenance⟩)

theorem put_eq (store : RocksDbStore) (call : Put) :
    store.put enclave codec ⟨call, true, true⟩ =
      match written enclave codec (store.masterKey enclave) (store.entry codec (cellOf call.cell))
          call with
      | none => (false, store)
      | some bytes => (true, { store with db := store.db.insert (cellOf call.cell) bytes }) := by
  have joined : cellOf call.cell = dbKey call.nspace call.key := rfl
  unfold put written
  rw [joined]
  simp only [if_true]
  split
  · rfl
  · cases store.masterKey enclave with
    | none => rfl
    | some masterKey =>
      dsimp only [Option.bind_eq_bind, Option.bind_some]
      cases enclave.encryptEntry masterKey call.nspace call.key call.data call.nonce with
      | error | ok => rfl

/-- Two databases that hold the same under one text, with the same key policy. -/
structure Agree (joined : String) (first second : RocksDbStore) : Prop where
  bytes : first.db.find joined = second.db.find joined
  policy : first.derivationPolicy = second.derivationPolicy
  cached : first.cachedKey = second.cachedKey

namespace Agree

variable {joined : String} {first second : RocksDbStore} (agree : Agree joined first second)
include agree

theorem masterKey : first.masterKey enclave = second.masterKey enclave := by
  unfold RocksDbStore.masterKey
  rw [agree.policy, agree.cached]

theorem entry : first.entry codec joined = second.entry codec joined := by
  unfold RocksDbStore.entry
  rw [agree.bytes]

theorem insert (bytes : Bytes) :
    Agree joined { first with db := first.db.insert joined bytes }
      { second with db := second.db.insert joined bytes } where
  bytes := by rw [Table.find_insert_self, Table.find_insert_self]
  policy := agree.policy
  cached := agree.cached

theorem insert_other {other : String} (apart : joined ≠ other) (bytes : Bytes) :
    Agree joined { first with db := first.db.insert other bytes } second where
  bytes := (Table.find_insert_of_ne _ _ apart).trans agree.bytes
  policy := agree.policy
  cached := agree.cached

theorem own {call : StoreCall} (mine : cellOf call.cell = joined) :
    (first.serve enclave codec call).1 = (second.serve enclave codec call).1 ∧
      Agree joined (first.afterCall enclave codec call) (second.afterCall enclave codec call) := by
  subst mine
  cases call with
  | get nspace key =>
    refine ⟨?_, agree⟩
    have entries : first.entry codec (dbKey nspace key) = second.entry codec (dbKey nspace key) :=
      agree.entry codec
    simp only [serve, get, if_true, entries, agree.masterKey enclave]
  | put call =>
    have entries : first.entry codec (cellOf call.cell) = second.entry codec (cellOf call.cell) :=
      agree.entry codec
    simp only [serve, afterCall, StoreCall.cell, put_eq, agree.masterKey enclave, entries]
    cases written enclave codec (second.masterKey enclave) (second.entry codec (cellOf call.cell))
        call with
    | none => exact ⟨rfl, agree⟩
    | some bytes => exact ⟨rfl, agree.insert bytes⟩
  | delete nspace key =>
    refine ⟨rfl, ?_, agree.policy, agree.cached⟩
    simp [afterCall, serve, delete, StoreCall.cell, cellOf, Table.find_remove]

theorem other {call : StoreCall} (apart : cellOf call.cell ≠ joined) :
    Agree joined (first.afterCall enclave codec call) second := by
  cases call with
  | get nspace key => exact agree
  | put call =>
    simp only [afterCall, serve, put_eq]
    cases written enclave codec (first.masterKey enclave) (first.entry codec (cellOf call.cell))
        call with
    | none => exact agree
    | some bytes => exact agree.insert_other apart.symm bytes
  | delete nspace key =>
    have elsewhere : joined ≠ dbKey nspace key := apart.symm
    refine ⟨?_, agree.policy, agree.cached⟩
    simp only [afterCall, serve, delete, if_true, Table.find_remove, if_neg elsewhere]
    exact agree.bytes

theorem run (calls : List StoreCall) :
    Agree joined (run (afterCall enclave codec) first calls)
      (run (afterCall enclave codec) second
        (calls.filter fun earlier => cellOf earlier.cell = joined)) := by
  refine run_filter (Agree joined) ?_ ?_ agree calls
  · intro first second call mine agree
    exact (agree.own enclave codec (by simpa using mine)).2
  · intro first second call apart agree
    exact agree.other enclave codec (by simpa using apart)

end Agree

theorem serve_run (store : RocksDbStore) (calls : List StoreCall) (call : StoreCall) :
    ((run (afterCall enclave codec) store calls).serve enclave codec call).1 =
      ((run (afterCall enclave codec) store (calls.filter fun earlier =>
        cellOf earlier.cell = cellOf call.cell)).serve enclave codec call).1 := by
  have same : Agree (cellOf call.cell) store store := ⟨rfl, rfl, rfl⟩
  exact ((same.run enclave codec calls).own enclave codec rfl).1

end Calls

/-! ## Cells that share a text -/

theorem toList_cellOf : (cellOf cell).toList = cell.1.toList ++ ':' :: cell.2.toList := by
  simp [cellOf, dbKey]

theorem count_cellOf :
    (cellOf cell).toList.count ':' = cell.1.toList.count ':' + cell.2.toList.count ':' + 1 := by
  rw [toList_cellOf, List.count_append, List.count_cons_self]
  omega

/-- Neither part of the cell has a colon. -/
def ColonFree : Prop := ':' ∉ cell.1.toList ∧ ':' ∉ cell.2.toList

instance (cell : String × String) : Decidable (ColonFree cell) :=
  inferInstanceAs (Decidable (_ ∧ _))

theorem ColonFree.eq_of_cellOf_eq {cell other : String × String} (free : ColonFree cell)
    (same : cellOf other = cellOf cell) : other = cell := by
  have colons : (cellOf other).toList.count ':' = (cellOf cell).toList.count ':' := by rw [same]
  rw [count_cellOf, count_cellOf, List.count_eq_zero.mpr free.1, List.count_eq_zero.mpr free.2]
    at colons
  have first : ':' ∉ other.1.toList := List.count_eq_zero.mp (by omega)
  have texts := congrArg String.toList same
  rw [toList_cellOf, toList_cellOf] at texts
  obtain ⟨nspaces, keys⟩ := Delimited.split_unique first free.1 texts
  exact Prod.ext (String.toList_injective nspaces) (String.toList_injective keys)

theorem exists_split_of_colon {text : String} (colon : ':' ∈ text.toList) :
    ∃ front back : String, text = front ++ ":" ++ back := by
  obtain ⟨front, back, split⟩ := List.append_of_mem colon
  refine ⟨.ofList front, .ofList back, String.toList_injective ?_⟩
  simp [split]

theorem append_colon_ne (front back : String) : front ++ ":" ++ back ≠ front := by
  intro same
  have lengths := congrArg (fun text : String => text.toList.length) same
  simp at lengths

theorem exists_other_of_colon {cell : String × String} (colon : ¬ ColonFree cell) :
    ∃ other, other ≠ cell ∧ cellOf other = cellOf cell := by
  obtain ⟨nspace, key⟩ := cell
  by_cases inside : ':' ∈ nspace.toList
  · obtain ⟨front, back, rfl⟩ := exists_split_of_colon inside
    refine ⟨(front, back ++ ":" ++ key), ?_, ?_⟩
    · intro same
      exact append_colon_ne front back (congrArg Prod.fst same).symm
    · simp [cellOf, dbKey, String.append_assoc]
  · have within : ':' ∈ key.toList := by
      by_contra outside
      exact colon ⟨inside, outside⟩
    obtain ⟨front, back, rfl⟩ := exists_split_of_colon within
    refine ⟨(nspace ++ ":" ++ front, back), ?_, ?_⟩
    · intro same
      exact append_colon_ne nspace front (congrArg Prod.fst same)
    · simp [cellOf, dbKey, String.append_assoc]

/-! ## Isolation -/

section Isolation

variable {enclave : Enclave} {limit : Nat} (works : enclave.Works limit) {masterKey : Octets 32}
  (derived : enclave.deriveMasterKey = .ok masterKey) (codec : EntryCodec)

def probe : Put :=
  ⟨cell.1, cell.2, [], .single "node" 1, none, .zero 12⟩

include works

theorem probe_blocks {store : RocksDbStore} (key : store.masterKey enclave = some masterKey)
    {cell other : String × String} (shared : cellOf other = cellOf cell)
    (vacant : store.entry codec (cellOf cell) = none) :
    (store.serve enclave codec (.put (probe cell))).1 = .put true ∧
      ((store.afterCall enclave codec (.put (probe other))).serve enclave codec
        (.put (probe cell))).1 = .put false := by
  have stores : ∀ here : String × String, cellOf here = cellOf cell →
      (store.put enclave codec ⟨probe here, true, true⟩).1 = true ∧
        ∃ entry, (store.put enclave codec ⟨probe here, true, true⟩).2.entry codec (cellOf cell) =
          some entry ∧ entry.version = .single "node" 1 := by
    intro here joined
    have outcome := put_outcome codec works key
      (show (⟨probe here, true, true⟩ : DbPut).readable = true from rfl)
    generalize (store.put enclave codec ⟨probe here, true, true⟩).1 = answer at outcome ⊢
    generalize (store.put enclave codec ⟨probe here, true, true⟩).2.entry codec = entries at outcome ⊢
    cases outcome with
    | refused why =>
      rcases why with ⟨existing, held, -⟩ | unable
      · have found : store.entry codec (cellOf here) = some existing := held
        rw [joined, vacant] at found
        cases found
      · exact absurd ⟨Nat.zero_le limit, rfl⟩ unable
    | stored newer able sealed opened =>
      refine ⟨rfl, ⟨(probe here).version, sealed, none⟩, ?_, rfl⟩
      rw [← joined]
      exact Function.update_self ..
  obtain ⟨accepted, -⟩ := stores cell rfl
  obtain ⟨-, entry, held, version⟩ := stores other shared
  constructor
  · simp [serve, accepted]
  · have dominated : (((store.put enclave codec ⟨probe other, true, true⟩).2.entry codec
        (cellOf cell)).any fun existing => dominates existing.version (probe cell).version) = true :=
      (any_dominates_iff _ _).mpr ⟨entry, held, version ▸ VersionVector.Le.refl _⟩
    have here : cellOf (probe cell).cell = cellOf cell := rfl
    simp [afterCall, serve, put_eq enclave codec _ (probe cell), written, here, dominated]

include derived

/-- What `get` and `put` answer for a cell depends on the earlier calls with that namespace and key
alone, whatever else is called, exactly when neither of the two has a colon in it. -/
theorem cell_isolated_iff (cell : String × String) :
    Isolated enclave codec cell ↔ ColonFree cell := by
  constructor
  · intro isolated
    by_contra colon
    obtain ⟨other, apart, shared⟩ := exists_other_of_colon colon
    let store : RocksDbStore := ⟨.empty, .PerTransaction, none⟩
    have key : store.masterKey enclave = some masterKey := by
      simp [store, RocksDbStore.masterKey, derived, Except.toOption]
    obtain ⟨alone, after⟩ := probe_blocks works codec key shared rfl
    have answers := isolated store (by rw [key]; rfl) [.put (probe other)] (.put (probe cell)) rfl
    have skipped : ([.put (probe other)] : List StoreCall).filter
        (fun earlier => earlier.cell = cell) = [] := by
      simp [StoreCall.cell, Put.cell, probe, apart]
    rw [skipped, run_cons, run_nil, run_nil, alone, after] at answers
    cases answers
  · intro free store _ calls call here
    have cells : (fun earlier : StoreCall => decide (cellOf earlier.cell = cellOf cell)) =
        fun earlier => decide (earlier.cell = cell) := by
      funext earlier
      rw [decide_eq_decide]
      exact ⟨free.eq_of_cellOf_eq, fun same => by rw [same]⟩
    have answers := serve_run enclave codec store calls call
    rw [here, cells] at answers
    exact answers

end Isolation

end RocksDbStore

/-! ## A codec of entries -/

namespace PlainEntry

open OpenHttpa.Core

def version : Positional VersionVector :=
  (Postcard.text.pair Postcard.word64).many.converted VersionVector.entries
    (fun entries =>
      if sorted : entries.Pairwise fun left right => left.1 < right.1 then some ⟨entries, sorted⟩
      else none)
    (fun version => dif_pos version.sorted)

def entry : Positional FabricEntry :=
  (version.pair (Postcard.blob.pair ((block 12).pair Postcard.chain.optional))).checked
    (fun entry => (entry.version, entry.data.ciphertext, entry.data.nonce, entry.provenance))
    (fun (version, ciphertext, nonce, provenance) =>
      some ⟨version, ⟨ciphertext, nonce⟩, provenance⟩)
    (by
      intro value fields
      constructor
      · rintro ⟨⟩
        rfl
      · rintro rfl
        rfl)

theorem entry_whole : entry.Whole :=
  (((Postcard.text_whole.pair Postcard.word64_whole).many.converted _ _ _ : version.Whole).pair
    (Postcard.blob_whole.pair ((block_whole 12).pair Postcard.chain_whole.optional))).checked _ _ _

end PlainEntry

def EntryCodec.plain : EntryCodec where
  render := PlainEntry.entry.write
  parse bytes := (PlainEntry.entry.read bytes).map Prod.fst
  parse_render entry := by rw [PlainEntry.entry_whole.read_write, Option.map_some]

namespace RocksDbStore

theorem plain_cell_isolated :
    ColonFree ("ns", "key") ∧ Isolated (.transparent 16) .plain ("ns", "key") :=
  ⟨by decide, (cell_isolated_iff (Enclave.transparent_works 16) rfl .plain _).mpr (by decide)⟩

def fresh : RocksDbStore := ⟨.empty, .PerTransaction, none⟩

def putByte (nspace key : String) (clock : UInt64) : StoreCall :=
  .put ⟨nspace, key, [7], .single "node" clock, none, .zero 12⟩

/-- A put into namespace `a:b` makes the store refuse the first put into namespace `a`, and a deletion
in `a:b` takes away what was put into `a`. -/
theorem other_cell_disturbs :
    (fresh.serve (.transparent 16) .plain (putByte "a" "b:c" 1)).1 = .put true ∧
    ((run (afterCall (.transparent 16) .plain) fresh [putByte "a:b" "c" 1]).serve
      (.transparent 16) .plain (putByte "a" "b:c" 1)).1 = .put false ∧
    ((run (afterCall (.transparent 16) .plain) fresh [putByte "a" "b:c" 1]).serve
      (.transparent 16) .plain (.get "a" "b:c")).1 = .get (some [7]) ∧
    ((run (afterCall (.transparent 16) .plain) fresh [putByte "a" "b:c" 1, .delete "a:b" "c"]).serve
      (.transparent 16) .plain (.get "a" "b:c")).1 = .get none := by
  refine ⟨?_, ?_, ?_, ?_⟩
  all_goals decide +kernel

end RocksDbStore

end OpenHttpa.Fabric
