import OpenHttpa.Fabric.Store
import OpenHttpa.Lib.Counters
import OpenHttpa.Lib.Run

/-!
# Full namespaces

A namespace of the `KvStore` holds at most 1000 keys, and a put into a full one evicts the smallest.
It does so after it found that no entry dominates, but before the master key is derived and the
value is encrypted, which may fail, and without asking whether its own key is new. So a put that is
refused, or one that overwrites, can lose the entry of another key (`put_framed_iff`).
-/
namespace OpenHttpa.Fabric

open Crypto Proto

/-! ## Calls that fail -/

/-- The failures of one call. -/
structure Faults where
  /-- The text of the error of `TeeProvider::derive_key`, if it fails. -/
  deriveKey : Option String
  encrypt : Bool

namespace Faults

def none : Faults := ⟨.none, false⟩

def cipher (faults : Faults) (whole : Cipher) : Cipher where
  encrypt key nonce aad data := if faults.encrypt then .none else whole.encrypt key nonce aad data
  decrypt := whole.decrypt

end Faults

def Enclave.under (enclave : Enclave) (faults : Faults) : Enclave where
  hkdf := enclave.hkdf
  cipher := faults.cipher enclave.cipher
  deriveKey context :=
    match faults.deriveKey with
    | some reason => .error reason
    | none => enclave.deriveKey context

variable {enclave : Enclave} {count : Nat} {store : KvStore}

/-- A put of some data that gets as far as the enclave fails there: the key is not derived, the cipher
fails, or the data is longer than it takes. -/
def Enclave.Fails (enclave : Enclave) (limit : Nat) (faults : Faults) (data : Bytes) : Prop :=
  faults.deriveKey ≠ none ∨ (∃ reason, enclave.deriveMasterKey = .error reason) ∨
    faults.encrypt = true ∨ limit < data.length

theorem Enclave.Works.under {limit : Nat} (works : enclave.Works limit) {faults : Faults}
    (whole : faults.encrypt = false) : (enclave.under faults).Works limit where
  opens key nonce data ciphertext sealed := by
    simp only [Enclave.under, Faults.cipher, whole, Bool.false_eq_true, if_false] at sealed
    exact works.opens key nonce data ciphertext sealed
  seals key nonce data := by
    simp only [Enclave.under, Faults.cipher, whole, Bool.false_eq_true, if_false]
    exact works.seals key nonce data

theorem Enclave.encryptEntry_under {faults : Faults} (broken : faults.encrypt = true)
    (masterKey : Octets 32) (nspace key : String) (data : Bytes) (nonce : AeadNonce) :
    ∃ reason, (enclave.under faults).encryptEntry masterKey nspace key data nonce = .error reason := by
  obtain ⟨entryKey, derived⟩ := (enclave.under faults).deriveEntryKey_ok masterKey nspace key nonce
  refine ⟨"AES-GCM encrypt failed: aead::Error", ?_⟩
  simp only [encryptEntry, derived]
  simp [under, Faults.cipher, broken]

/-! ## Eviction -/

def IsSmallest (keys : List String) (key : String) : Prop := key ∈ keys ∧ ∀ other ∈ keys, key ≤ other

theorem IsSmallest.unique {keys : List String} {first second : String}
    (one : IsSmallest keys first) (two : IsSmallest keys second) : first = second :=
  String.le_antisymm (one.2 second two.1) (two.2 first one.1)

theorem exists_minKey {keys : List String} (inhabited : keys ≠ []) :
    ∃ smallest, minKey keys = some smallest ∧ IsSmallest keys smallest := by
  induction keys with
  | nil => exact absurd rfl inhabited
  | cons first rest ih =>
    unfold minKey
    by_cases empty : rest = []
    · subst empty
      exact ⟨first, rfl, List.mem_cons_self, by simp⟩
    · obtain ⟨other, later, inside, least⟩ := ih empty
      rw [later]
      dsimp only
      split
      · next smaller =>
        have above := String.not_lt.mp fun back => String.lt_irrefl _ (String.lt_trans smaller back)
        exact ⟨other, rfl, List.mem_cons_of_mem _ inside, List.forall_mem_cons.mpr ⟨above, least⟩⟩
      · next larger =>
        refine ⟨first, rfl, List.mem_cons_self, List.forall_mem_cons.mpr ⟨String.le_refl _, ?_⟩⟩
        exact fun key member => String.le_trans (String.not_lt.mp larger) (least key member)

namespace KvStore

variable {ns : Table String FabricEntry} {nspace : String} {enclave : Enclave} {store : KvStore}
  {key : String}

theorem makeRoom_roomy (roomy : ns.size < 1000) : makeRoom ns = ns :=
  if_neg (by omega)

theorem makeRoom_full (full : 1000 ≤ ns.size) :
    ∃ smallest, IsSmallest ns.keys smallest ∧ makeRoom ns = ns.remove smallest := by
  have inhabited : ns.keys ≠ [] := by
    intro empty
    have size := ns.length_keys
    rw [empty, List.length_nil] at size
    omega
  obtain ⟨smallest, found, least⟩ := exists_minKey inhabited
  refine ⟨smallest, least, ?_⟩
  unfold makeRoom
  rw [if_pos full, found]

theorem size_makeRoom (bounded : ns.size ≤ 1000) :
    (makeRoom ns).size < 1000 := by
  by_cases full : 1000 ≤ ns.size
  · obtain ⟨smallest, least, evicted⟩ := makeRoom_full full
    have taken := ns.size_remove smallest
    rw [if_pos (Table.mem_keys.mp least.1)] at taken
    rw [evicted]
    omega
  · rw [makeRoom_roomy (by omega)]
    omega

theorem entry_replace_remove (store : KvStore) (nspace key : String) :
    (store.replace nspace ((store.openNamespace nspace).remove key)).entry =
      Function.update store.entry (nspace, key) none := by
  rw [store.entry_replace_update nspace key fun _ => Table.find_remove .., entry_replace_same]

theorem openNamespace_replace_of_ne (store : KvStore) {other : String}
    (ns : Table String FabricEntry) (apart : other ≠ nspace) :
    (store.replace nspace ns).openNamespace other = store.openNamespace other := by
  unfold openNamespace replace
  dsimp only
  rw [Table.find_insert, if_neg apart]

/-- The three ways a put can go when the derivation of the key and the cipher may fail. -/
inductive PutStep (enclave : Enclave) (limit : Nat) (faults : Faults) (store : KvStore) (call : Put) :
    Bool → KvStore → Prop
  | dominated (held : store.Dominated call) :
      PutStep enclave limit faults store call false
        (store.replace call.nspace (store.openNamespace call.nspace))
  /-- Room was made, and the value could not be encrypted. -/
  | failed (newer : ¬ store.Dominated call) (fails : enclave.Fails limit faults call.data) :
      PutStep enclave limit faults store call false
        (store.replace call.nspace (makeRoom (store.openNamespace call.nspace)))
  | stored (newer : ¬ store.Dominated call) (able : ¬ enclave.Fails limit faults call.data)
      (masterKey : Octets 32) (derived : enclave.deriveMasterKey = .ok masterKey) (sealed : SealedData)
      (opened : enclave.decryptEntry masterKey call.nspace call.key sealed = some call.data) :
      PutStep enclave limit faults store call true (store.replace call.nspace
        ((makeRoom (store.openNamespace call.nspace)).insert call.key
          ⟨call.version, sealed, call.provenance⟩))

theorem put_underived {call : Put} {reason : String} (newer : ¬ store.Dominated call)
    (underived : enclave.deriveMasterKey = .error reason) : store.put enclave call =
      (false, store.replace call.nspace (makeRoom (store.openNamespace call.nspace))) := by
  unfold put
  dsimp only
  rw [if_neg (dominated_iff.not.mpr newer), underived]

theorem put_unencrypted {call : Put} {masterKey : Octets 32} {reason : String}
    (newer : ¬ store.Dominated call) (derived : enclave.deriveMasterKey = .ok masterKey)
    (failed : enclave.encryptEntry masterKey call.nspace call.key call.data call.nonce = .error reason) :
    store.put enclave call =
      (false, store.replace call.nspace (makeRoom (store.openNamespace call.nspace))) := by
  unfold put
  dsimp only
  rw [if_neg (dominated_iff.not.mpr newer), derived]
  simp only [failed]

theorem put_step {limit : Nat} (works : enclave.Works limit) (faults : Faults)
    (store : KvStore) (call : Put) :
    PutStep enclave limit faults store call (store.put (enclave.under faults) call).1
      (store.put (enclave.under faults) call).2 := by
  by_cases held : store.Dominated call
  · unfold put
    rw [if_pos (dominated_iff.mpr held)]
    exact .dominated held
  cases broken : faults.deriveKey with
  | some reason =>
    have underived : (enclave.under faults).deriveMasterKey =
        .error ("TEE derive_key failed: " ++ reason) := by
      simp [Enclave.deriveMasterKey, Enclave.under, broken, Except.mapError]
    rw [put_underived held underived]
    exact .failed held (.inl (by simp [broken]))
  | none =>
    have same : (enclave.under faults).deriveMasterKey = enclave.deriveMasterKey := by
      simp [Enclave.deriveMasterKey, Enclave.under, broken]
    cases derived : enclave.deriveMasterKey with
    | error reason =>
      rw [put_underived held (same.trans derived)]
      exact .failed held (.inr (.inl ⟨reason, derived⟩))
    | ok masterKey =>
      cases cipher : faults.encrypt with
      | true =>
        obtain ⟨reason, failed⟩ := enclave.encryptEntry_under cipher masterKey call.nspace call.key
          call.data call.nonce
        rw [put_unencrypted held (same.trans derived) failed]
        exact .failed held (.inr (.inr (.inl cipher)))
      | false =>
        rcases put_newer (works.under cipher) (same.trans derived) held with
          ⟨fits, sealed, opened, stored⟩ | ⟨long, failed⟩
        · rw [stored]
          refine .stored held ?_ masterKey derived sealed opened
          simp [Enclave.Fails, broken, derived, cipher, fits]
        · rw [failed]
          exact .failed held (.inr (.inr (.inr (Nat.not_le.mp long))))

/-! ## What every reachable store satisfies -/

structure Sound (enclave : Enclave) (store : KvStore) : Prop where
  capacity : ∀ nspace, (store.openNamespace nspace).size ≤ 1000
  readable : ∀ nspace key, (store.entry (nspace, key)).isSome →
    (store.get enclave nspace key).isSome

variable {other : KvStore} {entry : FabricEntry} {masterKey : Octets 32} {data : Bytes}

theorem get_congr (same : other.entry (nspace, key) = store.entry (nspace, key)) :
    other.get enclave nspace key = store.get enclave nspace key := by
  rw [get_eq_bind, get_eq_bind, same]

theorem get_absent
    (absent : store.entry (nspace, key) = none) : store.get enclave nspace key = none := by
  rw [get_eq_bind, absent]
  rfl

theorem get_sealed (found : store.entry (nspace, key) = some entry)
    (derived : enclave.deriveMasterKey = .ok masterKey)
    (opened : enclave.decryptEntry masterKey nspace key entry.data = some data) :
    store.get enclave nspace key = some data := by
  rw [get_eq derived, found]
  exact opened

theorem Sound.of_fewer (sound : store.Sound enclave) (bounded : ns.size ≤ 1000)
    (fewer : ∀ key, ns.find key = none ∨ ns.find key = store.entry (nspace, key)) :
    (store.replace nspace ns).Sound enclave where
  capacity other := by
    by_cases same : other = nspace
    · subst same
      rw [openNamespace_replace]
      exact bounded
    · rw [openNamespace_replace_of_ne store ns same]
      exact sound.capacity other
  readable other key found := by
    have written := store.entry_replace nspace ns (other, key)
    dsimp only at written
    have kept : (store.replace nspace ns).entry (other, key) = store.entry (other, key) := by
      by_cases same : other = nspace
      · rw [if_pos same] at written
        rcases fewer key with absent | kept
        · rw [written, absent] at found
          cases found
        · rw [written, kept, same]
      · rw [if_neg same] at written
        exact written
    rw [get_congr kept]
    rw [kept] at found
    exact sound.readable other key found

theorem Sound.insert (sound : (store.replace nspace ns).Sound enclave) (room : ns.size < 1000)
    (derived : enclave.deriveMasterKey = .ok masterKey)
    (opened : enclave.decryptEntry masterKey nspace key entry.data = some data) :
    (store.replace nspace (ns.insert key entry)).Sound enclave where
  capacity other := by
    by_cases same : other = nspace
    · subst same
      rw [openNamespace_replace, Table.size_insert]
      split <;> omega
    · have before := sound.capacity other
      rw [openNamespace_replace_of_ne store _ same] at before ⊢
      exact before
  readable other otherKey found := by
    have written := entry_replace_insert_of store nspace ns key entry
    by_cases same : (other, otherKey) = (nspace, key)
    · cases same
      have here : (store.replace nspace (ns.insert key entry)).entry (nspace, key) = some entry := by
        rw [written, Function.update_self]
      rw [get_sealed here derived opened]
      rfl
    · have kept : (store.replace nspace (ns.insert key entry)).entry (other, otherKey) =
          (store.replace nspace ns).entry (other, otherKey) := by
        rw [written, Function.update_of_ne same]
      rw [get_congr kept]
      rw [kept] at found
      exact sound.readable other otherKey found

theorem Sound.makeRoom (sound : store.Sound enclave) (nspace : String) :
    (store.replace nspace (KvStore.makeRoom (store.openNamespace nspace))).Sound enclave := by
  have room := size_makeRoom (sound.capacity nspace)
  refine sound.of_fewer (by omega) ?_
  intro key
  by_cases full : 1000 ≤ (store.openNamespace nspace).size
  · obtain ⟨smallest, -, evicted⟩ := makeRoom_full full
    rw [evicted, Table.find_remove]
    split
    · exact .inl rfl
    · exact .inr rfl
  · rw [makeRoom_roomy (by omega)]
    exact .inr rfl

theorem Sound.put {call : Put} {answer : Bool} {limit : Nat} {faults : Faults}
    (sound : store.Sound enclave) (step : PutStep enclave limit faults store call answer other) :
    other.Sound enclave := by
  cases step with
  | dominated held =>
    exact sound.of_fewer (sound.capacity call.nspace) fun key => .inr rfl
  | failed => exact sound.makeRoom call.nspace
  | stored _ _ masterKey derived sealed opened =>
    exact (sound.makeRoom call.nspace).insert (size_makeRoom (sound.capacity call.nspace)) derived opened

/-! ## The store and its snapshots -/

def delete (store : KvStore) (nspace key : String) : KvStore :=
  match store.namespaces.find nspace with
  | some ns => store.replace nspace (ns.remove key)
  | none => store

theorem Sound.delete (sound : store.Sound enclave)
    (nspace key : String) : (store.delete nspace key).Sound enclave := by
  unfold KvStore.delete
  split
  · next ns found =>
    have opened : store.openNamespace nspace = ns := by simp [openNamespace, found]
    have bounded := sound.capacity nspace
    rw [opened] at bounded
    have taken := ns.size_remove key
    refine sound.of_fewer (by omega) ?_
    intro other
    rw [Table.find_remove]
    split
    · exact .inl rfl
    · exact .inr (by rw [entry, opened])
  · exact sound

end KvStore

/-- The store and the snapshots taken of it. -/
structure Custody where
  store : KvStore
  snapshots : List KvStore

/-- What happens to a store. Sealing is authentic, so a file that can be unsealed holds one of the
snapshots; the host chooses which. -/
inductive KvEvent where
  | put (faults : Faults) (call : Put)
  | delete (nspace key : String)
  /-- `snapshot_to_disk`, and whether it succeeds. -/
  | snapshot (succeeds : Bool)
  /-- `restore_from_disk` of one of the snapshots. -/
  | restore (index : Nat)

namespace Custody

def new : Custody := ⟨.new, []⟩

def step (enclave : Enclave) (custody : Custody) : KvEvent → Custody
  | .put faults call =>
    { custody with store := (custody.store.put (enclave.under faults) call).2 }
  | .delete nspace key => { custody with store := custody.store.delete nspace key }
  | .snapshot succeeds =>
    if succeeds then { custody with snapshots := custody.snapshots ++ [custody.store] } else custody
  | .restore index =>
    match custody.snapshots[index]? with
    | some snapshot => { custody with store := snapshot }
    | none => custody

def Sound (enclave : Enclave) (custody : Custody) : Prop :=
  custody.store.Sound enclave ∧ ∀ snapshot ∈ custody.snapshots, snapshot.Sound enclave

theorem sound_new (enclave : Enclave) : new.Sound enclave := by
  refine ⟨⟨?_, ?_⟩, ?_⟩
  · intro nspace
    exact Nat.zero_le _
  · intro nspace key found
    cases found
  · intro snapshot member
    cases member

theorem Sound.step {enclave : Enclave} {limit : Nat} (works : enclave.Works limit) {custody : Custody}
    (sound : custody.Sound enclave) (event : KvEvent) : (custody.step enclave event).Sound enclave := by
  obtain ⟨store, snapshots⟩ := sound
  cases event with
  | put faults call =>
    exact ⟨store.put (KvStore.put_step works faults custody.store call), snapshots⟩
  | delete nspace key => exact ⟨store.delete nspace key, snapshots⟩
  | snapshot succeeds =>
    unfold Custody.step
    dsimp only
    split
    · exact ⟨store, forall_mem_concat snapshots store⟩
    · exact ⟨store, snapshots⟩
  | restore index =>
    unfold Custody.step
    dsimp only
    split
    · next snapshot found => exact ⟨snapshots snapshot (List.mem_of_getElem? found), snapshots⟩
    · exact ⟨store, snapshots⟩

theorem sound_run {limit : Nat} (works : enclave.Works limit)
    (events : List KvEvent) : (run (step enclave) new events).Sound enclave :=
  run_invariant (Custody.Sound enclave) (fun _ event sound => sound.step works event)
    (sound_new enclave) events

end Custody

/-! ## What a put leaves alone -/

namespace KvStore

def Evicts (store : KvStore) (call : Put) (key : String) : Prop :=
  store.entry (call.nspace, call.key) = none ∧ 1000 ≤ (store.openNamespace call.nspace).size ∧
    IsSmallest (store.openNamespace call.nspace).keys key

/-- A put that leaves alone what is not its own. -/
structure Framed (enclave : Enclave) (store : KvStore) (call : Put) (answer : Bool) (other : KvStore) :
    Prop where
  refused : answer = false → ∀ nspace key,
    other.get enclave nspace key = store.get enclave nspace key
  written : answer = true → other.get enclave call.nspace call.key = some call.data
  evicted : answer = true → ∀ key, store.Evicts call key → other.get enclave call.nspace key = none
  kept : answer = true → ∀ nspace key, (nspace, key) ≠ (call.nspace, call.key) →
    ¬ (nspace = call.nspace ∧ store.Evicts call key) →
    other.get enclave nspace key = store.get enclave nspace key

/-- A put that evicts without need: the namespace is full, no entry dominates the put, and it fails at
the enclave or overwrites a key that is not the smallest. -/
def Lossy (enclave : Enclave) (limit : Nat) (faults : Faults) (store : KvStore) (call : Put) : Prop :=
  1000 ≤ (store.openNamespace call.nspace).size ∧ ¬ store.Dominated call ∧
    (enclave.Fails limit faults call.data ∨ (store.entry (call.nspace, call.key)).isSome ∧
      ¬ IsSmallest (store.openNamespace call.nspace).keys call.key)

theorem framed_refused {store other : KvStore} {call : Put} :
    store.Framed enclave call false other ↔
      ∀ nspace key, other.get enclave nspace key = store.get enclave nspace key :=
  ⟨fun framed => framed.refused rfl, fun kept => ⟨fun _ => kept, nofun, nofun, nofun⟩⟩

section Steps

variable {enclave : Enclave} {store : KvStore} {call : Put}

theorem Sound.smallest_read (sound : store.Sound enclave) {nspace smallest : String}
    (least : IsSmallest (store.openNamespace nspace).keys smallest) :
    store.get enclave nspace smallest ≠ none := by
  have found := sound.readable nspace smallest (Table.mem_keys.mp least.1)
  intro absent
  rw [absent] at found
  cases found

theorem framed_failed (sound : store.Sound enclave) :
    store.Framed enclave call false
        (store.replace call.nspace (makeRoom (store.openNamespace call.nspace))) ↔
      ¬ 1000 ≤ (store.openNamespace call.nspace).size := by
  rw [framed_refused]
  constructor
  · intro kept full
    obtain ⟨smallest, least, evicted⟩ := makeRoom_full full
    apply sound.smallest_read least
    rw [← kept, evicted]
    apply get_absent
    rw [entry_replace_remove, Function.update_self]
  · intro roomy nspace key
    rw [makeRoom_roomy (by omega)]
    apply get_congr
    rw [entry_replace_same]

theorem framed_roomy (roomy : ¬ 1000 ≤ (store.openNamespace call.nspace).size)
    {masterKey : Octets 32} (derived : enclave.deriveMasterKey = .ok masterKey) {sealed : SealedData}
    (opened : enclave.decryptEntry masterKey call.nspace call.key sealed = some call.data) :
    store.Framed enclave call true (store.replace call.nspace
      ((makeRoom (store.openNamespace call.nspace)).insert call.key
        ⟨call.version, sealed, call.provenance⟩)) := by
  rw [makeRoom_roomy (by omega)]
  have after := entry_replace_insert store call.nspace call.key
    ⟨call.version, sealed, call.provenance⟩
  refine ⟨nofun, ?_, ?_, ?_⟩
  · intro _
    have stored := congrFun after (call.nspace, call.key)
    rw [Function.update_self] at stored
    exact get_sealed stored derived opened
  · intro _ key evicts
    exact absurd evicts.2.1 roomy
  · intro _ nspace key apart _
    apply get_congr
    rw [after, Function.update_of_ne apart]

theorem entry_evicted (store : KvStore) (nspace smallest key : String) (entry : FabricEntry) :
    (store.replace nspace (((store.openNamespace nspace).remove smallest).insert key entry)).entry =
      Function.update (Function.update store.entry (nspace, smallest) none) (nspace, key)
        (some entry) := by
  rw [entry_replace_insert_of, entry_replace_remove]

theorem framed_full (sound : store.Sound enclave)
    (full : 1000 ≤ (store.openNamespace call.nspace).size)
    {masterKey : Octets 32} (derived : enclave.deriveMasterKey = .ok masterKey) {sealed : SealedData}
    (opened : enclave.decryptEntry masterKey call.nspace call.key sealed = some call.data) :
    store.Framed enclave call true (store.replace call.nspace
      ((makeRoom (store.openNamespace call.nspace)).insert call.key
        ⟨call.version, sealed, call.provenance⟩)) ↔
      ¬ ((store.entry (call.nspace, call.key)).isSome ∧
        ¬ IsSmallest (store.openNamespace call.nspace).keys call.key) := by
  obtain ⟨smallest, least, evicted⟩ := makeRoom_full full
  rw [evicted]
  have after := store.entry_evicted call.nspace smallest call.key
    ⟨call.version, sealed, call.provenance⟩
  have gone : smallest ≠ call.key → (store.replace call.nspace
      (((store.openNamespace call.nspace).remove smallest).insert call.key
        ⟨call.version, sealed, call.provenance⟩)).get enclave call.nspace smallest = none := by
    intro apart
    apply get_absent
    rw [after, Function.update_of_ne (by simp [apart]), Function.update_self]
  constructor
  · rintro framed ⟨present, larger⟩
    have apart : smallest ≠ call.key := fun same => larger (same ▸ least)
    apply sound.smallest_read least
    rw [← gone apart, framed.kept rfl call.nspace smallest (by simp [apart])]
    rintro ⟨-, absent, -⟩
    rw [absent] at present
    cases present
  · intro needed
    -- A smallest key other than the own is lost only if the own was not there.
    have own : smallest ≠ call.key → store.entry (call.nspace, call.key) = none := by
      intro apart
      by_contra present
      exact needed ⟨Option.isSome_iff_ne_none.mpr present, fun small => apart (least.unique small)⟩
    refine ⟨nofun, ?_, ?_, ?_⟩
    · intro _
      have stored := congrFun after (call.nspace, call.key)
      rw [Function.update_self] at stored
      exact get_sealed stored derived opened
    · intro _ key evicts
      rw [evicts.2.2.unique least]
      apply gone
      rintro rfl
      exact absurd evicts.1 (Option.isSome_iff_ne_none.mp (Table.mem_keys.mp least.1))
    · intro _ nspace key apart unneeded
      apply get_congr
      rw [after, Function.update_of_ne apart, Function.update_of_ne]
      rintro ⟨⟩
      exact unneeded ⟨rfl, own (fun same => apart (same ▸ rfl)), full, least⟩

theorem framed_iff (sound : store.Sound enclave) {limit : Nat} {faults : Faults} {answer : Bool}
    {other : KvStore} (step : PutStep enclave limit faults store call answer other) :
    store.Framed enclave call answer other ↔ ¬ Lossy enclave limit faults store call := by
  cases step with
  | dominated held =>
    have kept : store.Framed enclave call false
        (store.replace call.nspace (store.openNamespace call.nspace)) := by
      rw [framed_refused]
      intro nspace key
      apply get_congr
      rw [entry_replace_same]
    exact iff_of_true kept fun lossy => lossy.2.1 held
  | failed newer fails =>
    rw [framed_failed sound]
    exact not_congr ⟨fun full => ⟨full, newer, .inl fails⟩, fun lossy => lossy.1⟩
  | stored newer able masterKey derived sealed opened =>
    by_cases full : 1000 ≤ (store.openNamespace call.nspace).size
    · rw [framed_full sound full derived opened]
      exact not_congr ⟨fun lost => ⟨full, newer, .inr lost⟩, fun lossy => lossy.2.2.resolve_left able⟩
    · exact iff_of_true (framed_roomy full derived opened) fun lossy => full lossy.1

end Steps

end KvStore

/-- **Full namespaces.** In any state that a store reaches, a put leaves alone what is not its own exactly
if it does not evict without need, whatever fails; and no namespace has more than 1000 keys. -/
theorem put_framed_iff {enclave : Enclave} {limit : Nat} (works : enclave.Works limit)
    (events : List KvEvent) (faults : Faults) (call : Put) :
    let store := (run (Custody.step enclave) .new events).store
    let result := store.put (enclave.under faults) call
    (store.Framed enclave call result.1 result.2 ↔ ¬ KvStore.Lossy enclave limit faults store call) ∧
    ∀ nspace, (store.openNamespace nspace).size ≤ 1000 := by
  have sound := (Custody.sound_run works events).1
  exact ⟨KvStore.framed_iff sound (KvStore.put_step works faults _ call), sound.capacity⟩

/-! ## A store that is filled -/

def fillEnclave : Enclave := .transparent 16

theorem fillEnclave_works : fillEnclave.Works 16 := Enclave.transparent_works 16

def fillPut (index : Nat) : Put :=
  ⟨"memory", String.ofList (List.replicate index 'a'), [1], .single "node" 1, none, .zero 12⟩

def fillEvents (count : Nat) : List KvEvent :=
  (List.range count).map fun index => .put .none (fillPut index)

def filled (count : Nat) : KvStore := (run (Custody.step fillEnclave) .new (fillEvents count)).store

theorem filled_succ (count : Nat) :
    filled (count + 1) = ((filled count).put fillEnclave (fillPut count)).2 := by
  unfold filled fillEvents
  rw [List.range_succ, List.map_append, run_append]
  rfl

structure Filled (count : Nat) (store : KvStore) : Prop where
  keys : (store.openNamespace "memory").keys =
    ((List.range count).map fun index => (fillPut index).key).reverse
  versions : ∀ key existing, store.entry ("memory", key) = some existing →
    existing.version = .single "node" 1

theorem Filled.size (held : Filled count store) :
    (store.openNamespace "memory").size = count := by
  rw [← Table.length_keys, held.keys, List.length_reverse, List.length_map, List.length_range]

theorem Filled.absent (held : Filled count store) :
    (fillPut count).key ∉ (store.openNamespace "memory").keys := by
  rw [held.keys, List.mem_reverse, List.mem_map]
  rintro ⟨index, member, same⟩
  have lengths := congrArg String.length same
  simp only [fillPut, String.length_ofList, List.length_replicate] at lengths
  have below := List.mem_range.mp member
  omega

theorem Filled.put (held : Filled count store) (roomy : count < 1000) :
    Filled (count + 1) (store.put fillEnclave (fillPut count)).2 := by
  have newer : ¬ store.Dominated (fillPut count) := by
    rintro ⟨existing, found, -⟩
    exact held.absent (Table.mem_keys.mpr (Option.isSome_of_eq_some found))
  have room : KvStore.makeRoom (store.openNamespace (fillPut count).nspace) =
      store.openNamespace "memory" := KvStore.makeRoom_roomy (held.size.trans_lt roomy)
  rcases KvStore.put_newer fillEnclave_works rfl newer with ⟨-, sealed, -, stored⟩ | ⟨long, -⟩
  · rw [stored, room]
    constructor
    · change ((store.replace "memory" _).openNamespace "memory").keys = _
      rw [KvStore.openNamespace_replace, Table.keys, Table.entries_insert_of_absent held.absent,
        List.map_cons, ← Table.keys, held.keys, List.range_succ, List.map_append, List.reverse_append]
      rfl
    · intro key existing found
      change (store.replace "memory" _).entry ("memory", key) = some existing at found
      rw [KvStore.entry_replace_insert] at found
      by_cases same : key = (fillPut count).key
      · rw [same, Function.update_self] at found
        cases found
        rfl
      · rw [Function.update_of_ne (by simp [same])] at found
        exact held.versions key existing found
  · exact absurd (show 1 ≤ 16 by decide) long

theorem filled_filled (roomy : count ≤ 1000) : Filled count (filled count) := by
  induction count with
  | zero => exact ⟨rfl, nofun⟩
  | succ count ih =>
    rw [filled_succ]
    exact (ih (Nat.le_of_succ_le roomy)).put roomy

def laterPut (index : Nat) : Put := { fillPut index with version := .single "node" 2 }

def unavailable : Faults := ⟨some "unavailable", false⟩

section Full

-- The count stays a variable here: at 1000 the kernel would run the puts.
variable {count : Nat}

theorem sound_filled (count : Nat) : (filled count).Sound fillEnclave :=
  (Custody.sound_run fillEnclave_works (fillEvents count)).1

theorem filled_full (thousand : count = 1000) :
    1000 ≤ ((filled count).openNamespace "memory").size := by
  rw [(filled_filled thousand.le).size, thousand]

theorem fillPut_present (roomy : count ≤ 1000) {index : Nat} (below : index < count) :
    (fillPut index).key ∈ ((filled count).openNamespace "memory").keys := by
  rw [(filled_filled roomy).keys, List.mem_reverse]
  exact List.mem_map_of_mem (List.mem_range.mpr below)

theorem laterPut_newer (roomy : count ≤ 1000) (index : Nat) :
    ¬ (filled count).Dominated (laterPut index) := by
  rintro ⟨existing, found, under⟩
  rw [(filled_filled roomy).versions _ existing found] at under
  exact absurd under (by decide : ¬ VersionVector.Le (.single "node" 2) (.single "node" 1))

theorem failed_put_loses (thousand : count = 1000) :
    ((filled count).put (fillEnclave.under unavailable) (laterPut 1000)).1 = false ∧
    ¬ (filled count).Framed fillEnclave (laterPut 1000)
      ((filled count).put (fillEnclave.under unavailable) (laterPut 1000)).1
      ((filled count).put (fillEnclave.under unavailable) (laterPut 1000)).2 := by
  have newer := laterPut_newer thousand.le 1000
  refine ⟨congrArg Prod.fst (KvStore.put_underived newer (show
    (fillEnclave.under unavailable).deriveMasterKey = .error "TEE derive_key failed: unavailable"
      from rfl)), ?_⟩
  rw [KvStore.framed_iff (sound_filled count)
    (KvStore.put_step fillEnclave_works unavailable _ _), not_not]
  exact ⟨filled_full thousand, newer, .inl (.inl (by simp [unavailable]))⟩

theorem later_put_loses (thousand : count = 1000) :
    ((filled count).put (fillEnclave.under .none) (laterPut 1)).1 = true ∧
    ¬ (filled count).Framed fillEnclave (laterPut 1)
      ((filled count).put (fillEnclave.under .none) (laterPut 1)).1
      ((filled count).put (fillEnclave.under .none) (laterPut 1)).2 := by
  have newer := laterPut_newer thousand.le 1
  refine ⟨?_, ?_⟩
  · rcases KvStore.put_newer fillEnclave_works rfl newer with ⟨-, sealed, -, stored⟩ | ⟨long, -⟩
    · exact congrArg Prod.fst stored
    · exact absurd (show 1 ≤ 16 by decide) long
  · rw [KvStore.framed_iff (sound_filled count) (KvStore.put_step fillEnclave_works .none _ _), not_not]
    refine ⟨filled_full thousand, newer, .inr ⟨?_, ?_⟩⟩
    · exact Table.mem_keys.mp (fillPut_present thousand.le (by omega : 1 < count))
    · intro smallest
      have least := smallest.2 _ (fillPut_present thousand.le (by omega : 0 < count))
      exact absurd least (by decide)

/-- A new key in a full namespace evicts with need. -/
theorem new_put_needs (thousand : count = 1000) :
    ¬ KvStore.Lossy fillEnclave 16 .none (filled count) (fillPut count) := by
  rintro ⟨-, -, fails | ⟨present, -⟩⟩
  · rcases fails with broken | ⟨reason, underived⟩ | broken | long
    · exact broken rfl
    · cases underived
    · cases broken
    · exact absurd long (show ¬ 16 < 1 by decide)
  · exact (filled_filled thousand.le).absent (Table.mem_keys.mpr present)

end Full

/-- In a store with 1000 keys both puts lose the smallest key. -/
theorem full_namespace_loses :
    (((filled 1000).put (fillEnclave.under unavailable) (laterPut 1000)).1 = false ∧
      ¬ (filled 1000).Framed fillEnclave (laterPut 1000)
        ((filled 1000).put (fillEnclave.under unavailable) (laterPut 1000)).1
        ((filled 1000).put (fillEnclave.under unavailable) (laterPut 1000)).2) ∧
    ((filled 1000).put (fillEnclave.under .none) (laterPut 1)).1 = true ∧
      ¬ (filled 1000).Framed fillEnclave (laterPut 1)
        ((filled 1000).put (fillEnclave.under .none) (laterPut 1)).1
        ((filled 1000).put (fillEnclave.under .none) (laterPut 1)).2 :=
  ⟨failed_put_loses rfl, later_put_loses rfl⟩

/-- A put of a new key into a store with 1000 keys is framed: it evicts the smallest and nothing else. -/
theorem full_namespace_framed :
    ∃ count, count = 1000 ∧ ((filled count).openNamespace "memory").size = count ∧
      (filled count).Framed fillEnclave (fillPut count)
        ((filled count).put (fillEnclave.under .none) (fillPut count)).1
        ((filled count).put (fillEnclave.under .none) (fillPut count)).2 := by
  obtain ⟨count, thousand⟩ : ∃ count : Nat, count = 1000 := ⟨1000, rfl⟩
  exact ⟨count, thousand, (filled_filled thousand.le).size, (put_framed_iff fillEnclave_works
    (fillEvents count) .none (fillPut count)).1.mpr (new_put_needs thousand)⟩

end OpenHttpa.Fabric
