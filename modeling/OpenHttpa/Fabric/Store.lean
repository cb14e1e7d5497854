import OpenHttpa.Crypto.Aead
import OpenHttpa.Crypto.Hkdf
import OpenHttpa.Lib.Assoc
import OpenHttpa.Proto.Types

/-!
# The stores of the memory fabric

`openhttpa-fabric/src/store.rs`: the in-memory `KvStore` and the persistent `RocksDbStore`. An entry
is kept under a namespace and a key, encrypted under a key derived from the enclave for this entry
and its random nonce, together with the version vector it was put with. A put is refused when the
vector of the entry that is there dominates its own.
-/
namespace OpenHttpa.Fabric

open Crypto Proto

/-- `VersionVector`, a hash map from nodes to clocks. The loops over it do not depend on their
order, so the map is listed in the order of its keys and equal maps are equal lists. -/
@[ext]
structure VersionVector where
  entries : List (String × UInt64)
  sorted : entries.Pairwise fun left right => left.1 < right.1
deriving DecidableEq

namespace VersionVector

variable (version : VersionVector)

/-- `version.get(node).copied().unwrap_or(0)`. -/
def get (node : String) : UInt64 :=
  (version.entries.lookup node).getD 0

/-- Component by component at most, where an absent clock reads as 0. -/
def Le (existing : VersionVector) : Prop :=
  ∀ node, version.get node ≤ existing.get node

theorem Le.refl : version.Le version := fun _ => UInt64.le_refl _

theorem Le.trans {first second third : VersionVector} (one : first.Le second)
    (two : second.Le third) : first.Le third := fun node => UInt64.le_trans (one node) (two node)

theorem nodup : (version.entries.map Prod.fst).Nodup :=
  List.pairwise_map.mpr (version.sorted.imp fun ordered => String.ne_of_lt ordered)

def single (node : String) (clock : UInt64) : VersionVector :=
  ⟨[(node, clock)], List.pairwise_singleton _ _⟩

end VersionVector

/-- The loop of `put` over the incoming vector: no clock in it is ahead of the existing one. -/
def dominates (existing version : VersionVector) : Bool :=
  version.entries.all fun entry => ! decide (existing.get entry.1 < entry.2)

theorem dominates_iff (existing version : VersionVector) :
    dominates existing version = true ↔ version.Le existing := by
  unfold dominates
  rw [List.all_eq_true]
  constructor
  · intro all node
    cases found : version.entries.lookup node with
    | none =>
      have absent : version.get node = 0 := by simp [VersionVector.get, found]
      rw [absent]
      exact UInt64.zero_le
    | some clock =>
      have read : version.get node = clock := by simp [VersionVector.get, found]
      have held := all (node, clock) (Assoc.mem_of_lookup found)
      rw [read]
      simpa using held
  · intro under entry member
    have read : version.get entry.1 = entry.2 := by
      simp [VersionVector.get, Assoc.lookup_of_mem version.nodup member]
    have clock := under entry.1
    rw [read] at clock
    simpa using clock

instance (version existing : VersionVector) : Decidable (version.Le existing) :=
  decidable_of_iff _ (dominates_iff existing version)

structure SealedData where
  ciphertext : Bytes
  nonce : AeadNonce

structure FabricEntry where
  version : VersionVector
  data : SealedData
  provenance : Option ProvenanceChain

/-- What the store calls of the enclave. -/
structure Enclave where
  hkdf : Hkdf 48
  cipher : Cipher
  /-- `TeeProvider::derive_key`, a key for a context or the text of an error. -/
  deriveKey : Bytes → Except String (Octets 32)

namespace Enclave

variable (enclave : Enclave)

/-- `derive_entry_key`; the lengths in `info` are cut to 32 bits. -/
def deriveEntryKey (masterKey : Octets 32) (nspace entryKey : String)
    (nonce : AeadNonce) : Except String (Octets 32) :=
  let expander := HkdfExpander.extractSha384 enclave.hkdf nonce.bytes masterKey.bytes
  let info := utf8 "sdmf_entry_v1" ++ beBytes 4 (utf8 nspace).length ++ utf8 nspace ++
    beBytes 4 (utf8 entryKey).length ++ utf8 entryKey
  (expander.expand enclave.hkdf info 32).mapError fun
    | .ExtractFailed => "HKDF expand failed for SDMF entry key: HKDF extract failed"
    | .ExpandFailed =>
      "HKDF expand failed for SDMF entry key: HKDF expand failed (requested too many bytes)"

def deriveMasterKey : Except String (Octets 32) :=
  (enclave.deriveKey (utf8 "sdmf_rocksdb_master_key")).mapError ("TEE derive_key failed: " ++ ·)

/-- `encrypt_entry`; the random nonce is given. -/
def encryptEntry (masterKey : Octets 32) (nspace key : String) (data : Bytes)
    (nonce : AeadNonce) : Except String (AeadNonce × Bytes) :=
  match enclave.deriveEntryKey masterKey nspace key nonce with
  | .error reason => .error reason
  | .ok entryKey =>
    match enclave.cipher.encrypt ⟨entryKey, .Aes256Gcm⟩ nonce [] data with
    | none => .error "AES-GCM encrypt failed: aead::Error"
    | some ciphertext => .ok (nonce, ciphertext)

def decryptEntry (masterKey : Octets 32) (nspace key : String)
    (sealed : SealedData) : Option Bytes :=
  match enclave.deriveEntryKey masterKey nspace key sealed.nonce with
  | .error _ => none
  | .ok entryKey =>
    enclave.cipher.decrypt ⟨entryKey, .Aes256Gcm⟩ sealed.nonce [] sealed.ciphertext

end Enclave

/-- The arguments of one call of `put`, and the nonce it draws. -/
structure Put where
  nspace : String
  key : String
  data : Bytes
  version : VersionVector
  provenance : Option ProvenanceChain
  /-- The random nonce of `encrypt_entry`. -/
  nonce : AeadNonce

/-- `keys().min()`. -/
def minKey : List String → Option String
  | [] => none
  | key :: rest =>
    match minKey rest with
    | none => some key
    | some other => if other < key then some other else some key

/-! ## The in-memory store -/

structure KvStore where
  namespaces : Table String (Table String FabricEntry)

namespace KvStore

def new : KvStore := ⟨.empty⟩

/-- A namespace; one that is not there is empty (`or_default`). -/
def openNamespace (store : KvStore) (nspace : String) : Table String FabricEntry :=
  (store.namespaces.find nspace).getD .empty

/-- Eviction before an insertion into a full namespace: the smallest key goes. -/
def makeRoom (ns : Table String FabricEntry) : Table String FabricEntry :=
  if 1000 ≤ ns.size then
    match minKey ns.keys with
    | some keyToRemove => ns.remove keyToRemove
    | none => ns
  else ns

def replace (store : KvStore) (nspace : String) (ns : Table String FabricEntry) : KvStore :=
  ⟨store.namespaces.insert nspace ns⟩

def get (enclave : Enclave) (store : KvStore) (nspace key : String) : Option Bytes := do
  let ns ← store.namespaces.find nspace
  let entry ← ns.find key
  let masterKey ← enclave.deriveMasterKey.toOption
  enclave.decryptEntry masterKey nspace key entry.data

def put (enclave : Enclave) (store : KvStore) (call : Put) : Bool × KvStore :=
  let ns := store.openNamespace call.nspace
  if (ns.find call.key).any fun existing => dominates existing.version call.version then
    (false, store.replace call.nspace ns)
  else
    let ns := makeRoom ns
    match enclave.deriveMasterKey with
    | .error _ => (false, store.replace call.nspace ns)
    | .ok masterKey =>
      match enclave.encryptEntry masterKey call.nspace call.key call.data call.nonce with
      | .error _ => (false, store.replace call.nspace ns)
      | .ok (nonce, ciphertext) =>
        (true, store.replace call.nspace
          (ns.insert call.key ⟨call.version, ⟨ciphertext, nonce⟩, call.provenance⟩))

def entry (store : KvStore) (cell : String × String) : Option FabricEntry :=
  (store.openNamespace cell.1).find cell.2

end KvStore

/-! ## The persistent store -/

inductive KeyDerivationPolicy where
  | StartupCached
  | PerTransaction
deriving DecidableEq

/-- `serde_json` for entries; writing one cannot fail, as every key in it is a string. -/
structure EntryCodec where
  render : FabricEntry → Bytes
  parse : Bytes → Option FabricEntry
  parse_render : ∀ entry, parse (render entry) = some entry

/-- `RocksDbStore`; the database is a map from keys to bytes. -/
structure RocksDbStore where
  db : Table String Bytes
  derivationPolicy : KeyDerivationPolicy
  cachedKey : Option (Octets 32)

/-- One `put` on the database, and how the database answers it: a read or a write may fail. -/
structure DbPut extends Put where
  /-- `db.get` does not fail. -/
  readable : Bool
  /-- `db.put` does not fail. -/
  writable : Bool

namespace RocksDbStore

variable (enclave : Enclave) (codec : EntryCodec)

/-- `RocksDbStore::new` on an opened database. -/
def new (db : Table String Bytes) (derivationPolicy : KeyDerivationPolicy) :
    Except String RocksDbStore :=
  match derivationPolicy with
  | .StartupCached =>
    match enclave.deriveMasterKey with
    | .error reason => .error reason
    | .ok key => .ok ⟨db, derivationPolicy, some key⟩
  | .PerTransaction => .ok ⟨db, derivationPolicy, none⟩

/-- The key of the database: `format!("{}:{}", namespace, key)`. -/
def dbKey (nspace key : String) : String := nspace ++ ":" ++ key

variable (store : RocksDbStore)

/-- The master key of a `get` or a `put`. -/
def masterKey : Option (Octets 32) :=
  match store.derivationPolicy with
  | .StartupCached => store.cachedKey
  | .PerTransaction => enclave.deriveMasterKey.toOption

/-- The entry under a database key; one that cannot be parsed counts as none. -/
def entry (cell : String) : Option FabricEntry :=
  (store.db.find cell).bind codec.parse

/-- `RocksDbStore::get`; a failed read counts as no entry. -/
def get (readable : Bool) (nspace key : String) : Option Bytes :=
  if readable then do
    let entry ← store.entry codec (dbKey nspace key)
    let masterKey ← store.masterKey enclave
    enclave.decryptEntry masterKey nspace key entry.data
  else none

/-- `RocksDbStore::put`; a failed read counts as no entry. -/
def put (call : DbPut) : Bool × RocksDbStore :=
  let dbKey := dbKey call.nspace call.key
  let existing := if call.readable then store.entry codec dbKey else none
  if existing.any fun existing => dominates existing.version call.version then
    (false, store)
  else
    match store.masterKey enclave with
    | none => (false, store)
    | some masterKey =>
      match enclave.encryptEntry masterKey call.nspace call.key call.data call.nonce with
      | .error _ => (false, store)
      | .ok (nonce, ciphertext) =>
        let entry : FabricEntry := ⟨call.version, ⟨ciphertext, nonce⟩, call.provenance⟩
        if call.writable then
          (true, { store with db := store.db.insert dbKey (codec.render entry) })
        else (false, store)

/-- `RocksDbStore::delete`; a failed write is ignored. -/
def delete (writable : Bool) (nspace key : String) : RocksDbStore :=
  if writable then { store with db := store.db.remove (dbKey nspace key) } else store

end RocksDbStore

/-! ## What a put does -/

/-- Data up to the limit is sealed, and what is sealed opens again. -/
structure Enclave.Works (enclave : Enclave) (limit : Nat) : Prop where
  opens : ∀ key nonce data ciphertext, enclave.cipher.encrypt key nonce [] data = some ciphertext →
    enclave.cipher.decrypt key nonce [] ciphertext = some data
  seals : ∀ key nonce data,
    (enclave.cipher.encrypt key nonce [] data).isSome ↔ data.length ≤ limit

def Enclave.transparent (limit : Nat) : Enclave where
  hkdf := .zero 48
  cipher := ⟨fun _ _ _ data => if data.length ≤ limit then some data else none,
    fun _ _ _ ciphertext => some ciphertext⟩
  deriveKey _ := .ok (.zero 32)

theorem Enclave.transparent_works (limit : Nat) : (Enclave.transparent limit).Works limit where
  opens key nonce data ciphertext sealed := by
    by_cases fits : data.length ≤ limit
    · simp only [transparent, if_pos fits] at sealed
      exact sealed.symm
    · simp [transparent, fits] at sealed
  seals key nonce data := by
    by_cases fits : data.length ≤ limit <;> simp [transparent, fits]

theorem Enclave.deriveEntryKey_ok (enclave : Enclave) (masterKey : Octets 32)
    (nspace entryKey : String) (nonce : AeadNonce) :
    ∃ key, enclave.deriveEntryKey masterKey nspace entryKey nonce = .ok key := by
  unfold deriveEntryKey HkdfExpander.expand
  dsimp only
  split
  · next failed =>
    have within := enclave.hkdf.expand_isSome (HkdfExpander.extractSha384 enclave.hkdf nonce.bytes
      masterKey.bytes).prk (utf8 "sdmf_entry_v1" ++ beBytes 4 (utf8 nspace).length ++ utf8 nspace ++
        beBytes 4 (utf8 entryKey).length ++ utf8 entryKey) 32 (by decide)
    rw [failed] at within
    cases within
  · next key _ => exact ⟨key, rfl⟩

theorem Enclave.Works.encryptEntry_ok {enclave : Enclave} {limit : Nat}
    (works : enclave.Works limit) (masterKey : Octets 32) (nspace key : String) {data : Bytes}
    (nonce : AeadNonce) (fits : data.length ≤ limit) :
    ∃ ciphertext, enclave.encryptEntry masterKey nspace key data nonce = .ok (nonce, ciphertext) ∧
      enclave.decryptEntry masterKey nspace key ⟨ciphertext, nonce⟩ = some data := by
  obtain ⟨entryKey, derived⟩ := enclave.deriveEntryKey_ok masterKey nspace key nonce
  obtain ⟨ciphertext, sealed⟩ :=
    Option.isSome_iff_exists.mp ((works.seals ⟨entryKey, .Aes256Gcm⟩ nonce data).mpr fits)
  refine ⟨ciphertext, ?_, ?_⟩
  · simp [encryptEntry, derived, sealed]
  · simp [decryptEntry, derived, works.opens _ _ _ _ sealed]

theorem Enclave.Works.encryptEntry_error {enclave : Enclave} {limit : Nat}
    (works : enclave.Works limit) (masterKey : Octets 32) (nspace key : String) {data : Bytes}
    (nonce : AeadNonce) (long : ¬ data.length ≤ limit) :
    ∃ reason, enclave.encryptEntry masterKey nspace key data nonce = .error reason := by
  obtain ⟨entryKey, derived⟩ := enclave.deriveEntryKey_ok masterKey nspace key nonce
  have refused : enclave.cipher.encrypt ⟨entryKey, .Aes256Gcm⟩ nonce [] data = none :=
    Option.not_isSome_iff_eq_none.mp fun seals => long ((works.seals _ _ _).mp seals)
  refine ⟨"AES-GCM encrypt failed: aead::Error", ?_⟩
  simp [encryptEntry, derived, refused]

inductive PutOutcome {κ : Type} [DecidableEq κ] (cell : κ) (call : Put) (able : Prop)
    (opens : SealedData → Prop) (before : κ → Option FabricEntry) :
    Bool → (κ → Option FabricEntry) → Prop
  | refused
      (why : (∃ existing, before cell = some existing ∧ call.version.Le existing.version) ∨ ¬ able) :
      PutOutcome cell call able opens before false before
  | stored (newer : ∀ existing, before cell = some existing → ¬ call.version.Le existing.version)
      (can : able) (sealed : SealedData) (opened : opens sealed) :
      PutOutcome cell call able opens before true
        (Function.update before cell (some ⟨call.version, sealed, call.provenance⟩))

theorem any_dominates_iff (found : Option FabricEntry) (version : VersionVector) :
    (found.any fun existing => dominates existing.version version) = true ↔
      ∃ existing, found = some existing ∧ version.Le existing.version := by
  cases found with
  | none => simp
  | some existing => simp [dominates_iff]

namespace KvStore

variable (store : KvStore) (nspace : String) (enclave : Enclave) (ns : Table String FabricEntry)

theorem entry_replace (cell : String × String) : (store.replace nspace ns).entry cell =
      if cell.1 = nspace then ns.find cell.2 else store.entry cell := by
  unfold entry openNamespace replace
  dsimp only
  rw [Table.find_insert]
  split <;> rfl

theorem entry_replace_same :
    (store.replace nspace (store.openNamespace nspace)).entry = store.entry := by
  funext cell
  rw [entry_replace]
  split
  · next same => rw [entry, same]
  · rfl

theorem entry_replace_update (key : String) {ns changed : Table String FabricEntry}
    {value : Option FabricEntry} (found : ∀ other, changed.find other =
      if other = key then value else ns.find other) : (store.replace nspace changed).entry =
      Function.update (store.replace nspace ns).entry (nspace, key) value := by
  funext cell
  obtain ⟨cellSpace, cellKey⟩ := cell
  rw [entry_replace]
  dsimp only
  by_cases space : cellSpace = nspace
  · subst space
    rw [if_pos rfl, found]
    by_cases same : cellKey = key
    · rw [if_pos same, same, Function.update_self]
    · have apart : (cellSpace, cellKey) ≠ (cellSpace, key) := by simp [same]
      rw [if_neg same, Function.update_of_ne apart, entry_replace, if_pos rfl]
  · have apart : (cellSpace, cellKey) ≠ (nspace, key) := by simp [space]
    rw [if_neg space, Function.update_of_ne apart, entry_replace, if_neg space]

theorem entry_replace_insert_of (key : String)
    (added : FabricEntry) : (store.replace nspace (ns.insert key added)).entry =
      Function.update (store.replace nspace ns).entry (nspace, key) (some added) :=
  store.entry_replace_update nspace key fun _ => Table.find_insert ..

theorem entry_replace_insert (key : String) (added : FabricEntry) :
    (store.replace nspace ((store.openNamespace nspace).insert key added)).entry =
      Function.update store.entry (nspace, key) (some added) := by
  rw [entry_replace_insert_of, entry_replace_same]

@[simp]
theorem openNamespace_replace : (store.replace nspace ns).openNamespace nspace = ns := by
  simp [openNamespace, replace]

theorem keys_makeRoom : (makeRoom ns).keys ⊆ ns.keys := by
  unfold makeRoom
  split
  · split
    · exact ns.keys_remove _
    · exact List.Subset.refl _
  · exact List.Subset.refl _

theorem keys_put (store : KvStore) (call : Put) :
    ((store.put enclave call).2.openNamespace call.nspace).keys ⊆
      call.key :: (store.openNamespace call.nspace).keys := by
  have room := keys_makeRoom (store.openNamespace call.nspace)
  unfold put
  dsimp only
  split
  · rw [openNamespace_replace]
    exact List.subset_cons_self _ _
  · split
    · rw [openNamespace_replace]
      exact List.subset_cons_of_subset _ room
    · split
      · rw [openNamespace_replace]
        exact List.subset_cons_of_subset _ room
      · rw [openNamespace_replace]
        exact List.Subset.trans (Table.keys_insert ..) (List.cons_subset_cons _ room)

theorem get_eq_bind (store : KvStore) (nspace key : String) :
    store.get enclave nspace key = (store.entry (nspace, key)).bind fun entry =>
      enclave.deriveMasterKey.toOption.bind fun masterKey =>
        enclave.decryptEntry masterKey nspace key entry.data := by
  unfold get entry openNamespace
  cases store.namespaces.find nspace <;> rfl

def Dominated (store : KvStore) (call : Put) : Prop :=
  ∃ existing, store.entry (call.nspace, call.key) = some existing ∧
    call.version.Le existing.version

theorem dominated_iff {store : KvStore} {call : Put} :
    (((store.openNamespace call.nspace).find call.key).any fun existing =>
      dominates existing.version call.version) = true ↔ store.Dominated call := any_dominates_iff _ _

theorem put_dominated {store : KvStore} {call : Put} (dominated : store.Dominated call) :
    (store.put enclave call).1 = false ∧ (store.put enclave call).2.entry = store.entry := by
  have refused : store.put enclave call =
      (false, store.replace call.nspace (store.openNamespace call.nspace)) :=
    if_pos (dominated_iff.mpr dominated)
  rw [refused]
  exact ⟨rfl, entry_replace_same store call.nspace⟩

section Working

variable {enclave : Enclave} {limit : Nat} (works : enclave.Works limit) {masterKey : Octets 32}
  (derived : enclave.deriveMasterKey = .ok masterKey)
include works derived

theorem put_newer {store : KvStore} {call : Put} (newer : ¬ store.Dominated call) :
    let room := makeRoom (store.openNamespace call.nspace)
    (call.data.length ≤ limit ∧ ∃ sealed,
      enclave.decryptEntry masterKey call.nspace call.key sealed = some call.data ∧
      store.put enclave call = (true, store.replace call.nspace
        (room.insert call.key ⟨call.version, sealed, call.provenance⟩))) ∨
    (¬ call.data.length ≤ limit ∧ store.put enclave call = (false, store.replace call.nspace room)) := by
  intro room
  unfold put
  dsimp only
  rw [if_neg (dominated_iff.not.mpr newer), derived]
  dsimp only
  by_cases fits : call.data.length ≤ limit
  · obtain ⟨ciphertext, encrypted, opened⟩ :=
      works.encryptEntry_ok masterKey call.nspace call.key call.nonce fits
    refine .inl ⟨fits, ⟨ciphertext, call.nonce⟩, opened, ?_⟩
    rw [encrypted]
  · obtain ⟨reason, failed⟩ :=
      works.encryptEntry_error masterKey call.nspace call.key call.nonce fits
    refine .inr ⟨fits, ?_⟩
    rw [failed]

theorem put_refused_iff (store : KvStore) (call : Put) :
    (store.put enclave call).1 = false ↔
      store.Dominated call ∨ ¬ call.data.length ≤ limit := by
  by_cases dominated : store.Dominated call
  · simp [dominated, (put_dominated enclave dominated).1]
  · rcases put_newer works derived dominated with ⟨fits, sealed, -, answer⟩ | ⟨long, answer⟩
    · simp [answer, dominated, fits]
    · simp [answer, long]

theorem put_outcome {store : KvStore} {call : Put}
    (roomy : (store.openNamespace call.nspace).size < 1000) :
    PutOutcome (call.nspace, call.key) call (call.data.length ≤ limit)
      (fun sealed => enclave.decryptEntry masterKey call.nspace call.key sealed = some call.data)
      store.entry (store.put enclave call).1 (store.put enclave call).2.entry := by
  by_cases dominated : store.Dominated call
  · obtain ⟨answer, kept⟩ := put_dominated enclave dominated
    rw [answer, kept]
    exact .refused (.inl dominated)
  · have room : makeRoom (store.openNamespace call.nspace) = store.openNamespace call.nspace :=
      if_neg (by omega)
    rcases put_newer works derived dominated with ⟨fits, sealed, opened, answer⟩ | ⟨long, answer⟩
    · rw [answer, room, entry_replace_insert]
      exact .stored (fun existing held under => dominated ⟨existing, held, under⟩) fits _ opened
    · rw [answer, room, entry_replace_same]
      exact .refused (.inr long)

omit works in
theorem get_eq (store : KvStore) (nspace key : String) :
    store.get enclave nspace key = (store.entry (nspace, key)).bind fun entry =>
      enclave.decryptEntry masterKey nspace key entry.data := by
  rw [get_eq_bind, derived]
  rfl

end Working

end KvStore

namespace RocksDbStore

variable (codec : EntryCodec)

def Dominated (store : RocksDbStore) (call : Put) : Prop :=
  ∃ existing, store.entry codec (dbKey call.nspace call.key) = some existing ∧
    call.version.Le existing.version

theorem entry_insert (store : RocksDbStore) (cell : String) (added : FabricEntry) :
    ({ store with db := store.db.insert cell (codec.render added) } : RocksDbStore).entry codec =
      Function.update (store.entry codec) cell (some added) := by
  funext other
  unfold entry
  dsimp only
  rw [Table.find_insert]
  by_cases same : other = cell
  · rw [if_pos same, same, Function.update_self]
    exact codec.parse_render added
  · rw [if_neg same, Function.update_of_ne same]

variable {enclave : Enclave} {limit : Nat} (works : enclave.Works limit) {masterKey : Octets 32}

theorem masterKey_put (store : RocksDbStore) (call : DbPut) :
    (store.put enclave codec call).2.masterKey enclave = store.masterKey enclave := by
  unfold put
  dsimp only
  generalize (if call.readable = true then _ else _) = existing
  split
  · rfl
  · split
    · rfl
    · split
      · rfl
      · split <;> rfl

include works

theorem put_outcome {store : RocksDbStore} (derived : store.masterKey enclave = some masterKey)
    {call : DbPut} (answers : call.readable = true) :
    PutOutcome (dbKey call.nspace call.key) call.toPut
      (call.data.length ≤ limit ∧ call.writable = true)
      (fun sealed => enclave.decryptEntry masterKey call.nspace call.key sealed = some call.data)
      (store.entry codec) (store.put enclave codec call).1
      ((store.put enclave codec call).2.entry codec) := by
  unfold put
  dsimp only
  rw [if_pos answers]
  by_cases dominated : store.Dominated codec call.toPut
  · rw [if_pos ((any_dominates_iff _ _).mpr dominated)]
    exact .refused (.inl dominated)
  · rw [if_neg ((any_dominates_iff _ _).not.mpr dominated), derived]
    dsimp only
    by_cases fits : call.data.length ≤ limit
    · obtain ⟨ciphertext, encrypted, opened⟩ :=
        works.encryptEntry_ok masterKey call.nspace call.key call.nonce fits
      rw [encrypted]
      dsimp only
      by_cases written : call.writable = true
      · rw [if_pos written, entry_insert]
        exact .stored (fun existing held under => dominated ⟨existing, held, under⟩)
          ⟨fits, written⟩ _ opened
      · rw [if_neg written]
        exact .refused (.inr fun able => written able.2)
    · obtain ⟨reason, failed⟩ :=
        works.encryptEntry_error masterKey call.nspace call.key call.nonce fits
      rw [failed]
      exact .refused (.inr fun able => fits able.1)

end RocksDbStore

end OpenHttpa.Fabric
