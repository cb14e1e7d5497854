import OpenHttpa.Fabric.Store
import OpenHttpa.Lib.Register

/-!
# Versions of replicated entries

What the version check of `put` gives across many puts. Each cell of a store is a register that
refuses what it dominates in the order of version vectors. Replicas that apply the same updates in
different orders agree only when some of the updates carry one value and dominate all the others,
and a store keeps refusing replayed updates only as long as every put it meets is comparable with
the entry that is there.
-/
namespace OpenHttpa.Fabric

open Crypto Proto Register

/-! ## Replicas of one cell -/

@[ext]
structure Update where
  data : Bytes
  version : VersionVector
  provenance : Option ProvenanceChain
deriving DecidableEq

namespace Update

def Le (update other : Update) : Prop := update.version.Le other.version

instance : DecidableRel Le := fun update other =>
  inferInstanceAs (Decidable (update.version.Le other.version))

theorem Le.refl (update : Update) : update.Le update := VersionVector.Le.refl update.version

theorem Le.trans (first second third : Update) (one : first.Le second) (two : second.Le third) :
    first.Le third := VersionVector.Le.trans one two

end Update

def Put.update (call : Put) : Update := ⟨call.data, call.version, call.provenance⟩

def Put.cell (call : Put) : String × String := (call.nspace, call.key)

def Update.put (update : Update) (cell : String × String) : Put :=
  ⟨cell.1, cell.2, update.data, update.version, update.provenance, .zero 12⟩

variable (cell : String × String)

/-- The puts for one cell apply exactly these updates, in any order and any number of times. -/
def Delivers (updates : List Update) (calls : List Put) : Prop :=
  ∀ update, update ∈ updates ↔ ∃ call ∈ calls, call.cell = cell ∧ call.update = update

def offered (limit : Nat) (cell : String × String) (calls : List Put) : List Update :=
  (calls.filter fun call => call.cell = cell ∧ call.data.length ≤ limit).map Put.update

theorem Delivers.covers {cell : String × String} {updates : List Update} {calls : List Put}
    (delivers : Delivers cell updates calls) (limit : Nat) :
    Covers (updates.filter fun update => update.data.length ≤ limit) (offered limit cell calls) := by
  intro update
  unfold offered
  rw [List.mem_map, List.mem_filter, delivers update]
  constructor
  · rintro ⟨call, member, rfl⟩
    obtain ⟨inside, test⟩ := List.mem_filter.mp member
    rw [decide_eq_true_eq] at test
    exact ⟨⟨call, inside, test.1, rfl⟩, decide_eq_true test.2⟩
  · rintro ⟨⟨call, inside, here, rfl⟩, fits⟩
    rw [decide_eq_true_eq] at fits
    exact ⟨call, List.mem_filter.mpr ⟨inside, decide_eq_true ⟨here, fits⟩⟩, rfl⟩

namespace KvStore

def step (enclave : Enclave) (store : KvStore) (call : Put) : KvStore := (store.put enclave call).2

/-- The namespace of the call is not full. -/
def Roomy (store : KvStore) (call : Put) : Prop := (store.openNamespace call.nspace).size < 1000

def Holds (enclave : Enclave) (masterKey : Octets 32) (store : KvStore) (cell : String × String) :
    Option Update → Prop
  | none => store.entry cell = none
  | some update => ∃ sealed, store.entry cell = some ⟨update.version, sealed, update.provenance⟩ ∧
      enclave.decryptEntry masterKey cell.1 cell.2 sealed = some update.data

section Working

variable {enclave : Enclave} {limit : Nat} (works : enclave.Works limit) {masterKey : Octets 32}
  (derived : enclave.deriveMasterKey = .ok masterKey) {store : KvStore} {cell : String × String}
  {held : Option Update}

theorem Holds.of_entry {other : KvStore} (same : other.entry cell = store.entry cell)
    (holds : store.Holds enclave masterKey cell held) : other.Holds enclave masterKey cell held := by
  cases held with
  | none => exact same.trans holds
  | some update =>
    obtain ⟨sealed, entry, opened⟩ := holds
    exact ⟨sealed, same.trans entry, opened⟩

include derived in
theorem Holds.get (holds : store.Holds enclave masterKey cell held) :
    store.get enclave cell.1 cell.2 = held.map Update.data := by
  rw [get_eq derived]
  cases held with
  | none => rw [show store.entry (cell.1, cell.2) = none from holds, Option.bind_none]; rfl
  | some update =>
    obtain ⟨sealed, entry, opened⟩ := holds
    rw [show store.entry (cell.1, cell.2) = _ from entry, Option.bind_some, opened]
    rfl

include works derived

theorem Holds.put_here {call : Put} (roomy : store.Roomy call) (fits : call.data.length ≤ limit)
    (holds : store.Holds enclave masterKey call.cell held) :
    (store.step enclave call).Holds enclave masterKey call.cell
      (offer Update.Le held call.update) := by
  have outcome := put_outcome works derived roomy
  unfold KvStore.step
  generalize (store.put enclave call).1 = answer at outcome
  generalize afterwards : (store.put enclave call).2.entry = entries at outcome
  cases outcome with
  | refused why =>
    obtain ⟨existing, entry, under⟩ := why.resolve_right (not_not.mpr fits)
    cases held with
    | none =>
      have absent : store.entry (call.nspace, call.key) = none := holds
      rw [absent] at entry
      cases entry
    | some update =>
      obtain ⟨sealed, was, opened⟩ := holds
      have same : existing = ⟨update.version, sealed, update.provenance⟩ :=
        Option.some_inj.mp (entry.symm.trans was)
      have dominated : call.update.Le update := by
        rw [same] at under
        exact under
      have kept : offer Update.Le (some update) call.update = some update := if_pos dominated
      rw [kept]
      exact ⟨sealed, by rw [afterwards]; exact was, opened⟩
  | stored newer can sealed opened =>
    have taken : offer Update.Le held call.update = some call.update := by
      cases held with
      | none => rfl
      | some update =>
        obtain ⟨old, was, -⟩ := holds
        exact if_neg (newer _ was)
    rw [taken]
    exact ⟨sealed, by rw [afterwards]; exact Function.update_self .., opened⟩

theorem Holds.put_elsewhere
    {call : Put} (roomy : store.Roomy call) (apart : ¬ (call.cell = cell ∧ call.data.length ≤ limit))
    (holds : store.Holds enclave masterKey cell held) :
    (store.step enclave call).Holds enclave masterKey cell held := by
  have outcome := put_outcome works derived roomy
  refine holds.of_entry ?_
  unfold KvStore.step
  generalize (store.put enclave call).1 = answer at outcome
  generalize (store.put enclave call).2.entry = entries at outcome
  cases outcome with
  | refused why => rfl
  | stored newer can sealed opened =>
    have other : cell ≠ (call.nspace, call.key) := fun same => apart ⟨same.symm, can⟩
    exact Function.update_of_ne other ..

theorem holds_run (holds : store.Holds enclave masterKey cell held) {calls : List Put}
    (roomy : Along (step enclave) Roomy store calls) :
    (run (step enclave) store calls).Holds enclave masterKey cell
      (run (offer Update.Le) held (offered limit cell calls)) := by
  induction calls generalizing store held with
  | nil => exact holds
  | cons call rest ih =>
    by_cases taken : call.cell = cell ∧ call.data.length ≤ limit
    · have first : offered limit cell (call :: rest) = call.update :: offered limit cell rest := by
        simp [offered, taken]
      obtain ⟨rfl, fits⟩ := taken
      rw [first, run_cons]
      exact ih (holds.put_here works derived roomy.1 fits) roomy.2
    · have skipped : offered limit cell (call :: rest) = offered limit cell rest := by
        unfold offered
        rw [List.filter_cons_of_neg (by rw [decide_eq_true_eq]; exact taken)]
      rw [skipped]
      exact ih (holds.put_elsewhere works derived roomy.1 taken) roomy.2

theorem get_run (cell : String × String) {calls : List Put}
    (roomy : Along (step enclave) Roomy new calls) :
    (run (step enclave) new calls).get enclave cell.1 cell.2 =
      (run (offer Update.Le) none (offered limit cell calls)).map Update.data :=
  (holds_run works derived (show new.Holds enclave masterKey cell none from rfl) roomy).get derived

end Working

theorem roomy_of_one_cell (enclave : Enclave) (cell : String × String) {calls : List Put}
    (here : ∀ call ∈ calls, call.cell = cell) : Along (step enclave) Roomy new calls := by
  have only : ∀ {store : KvStore} {calls : List Put}, (∀ call ∈ calls, call.cell = cell) →
      (store.openNamespace cell.1).keys ⊆ [cell.2] → Along (step enclave) Roomy store calls := by
    intro store calls here keys
    induction calls generalizing store with
    | nil => trivial
    | cons call rest ih =>
      obtain rfl := here call (by simp)
      have few : (store.openNamespace call.nspace).keys.length ≤ 1 :=
        (store.openNamespace call.nspace).distinct.length_le_of_subset keys
      refine ⟨?_, ih (fun other member => here other (by simp [member])) ?_⟩
      · rw [Table.length_keys] at few
        unfold Roomy
        omega
      · refine List.Subset.trans (keys_put enclave store call) ?_
        exact List.cons_subset.mpr ⟨by simp [Put.cell], keys⟩
  exact only here (List.nil_subset _)

end KvStore

theorem delivers_puts {updates sequence : List Update}
    (same : ∀ update, update ∈ sequence ↔ update ∈ updates) :
    Delivers cell updates (sequence.map (Update.put · cell)) := by
  intro update
  rw [← same update]
  constructor
  · intro member
    exact ⟨update.put cell, List.mem_map_of_mem member, rfl, rfl⟩
  · rintro ⟨call, member, -, rfl⟩
    obtain ⟨source, sourceMember, rfl⟩ := List.mem_map.mp member
    exact sourceMember

theorem exists_delivery (limit : Nat) (cell : String × String) (updates : List Update)
    {sequence : List Update}
    (covers : Covers (updates.filter fun update => update.data.length ≤ limit) sequence) :
    ∃ calls, Delivers cell updates calls ∧ offered limit cell calls = sequence ∧
      ∀ call ∈ calls, call.cell = cell := by
  let long := updates.filter fun update => ¬ update.data.length ≤ limit
  have inside : ∀ update, update ∈ sequence ++ long ↔ update ∈ updates := by
    intro update
    rw [List.mem_append, covers update, List.mem_filter, List.mem_filter, decide_eq_true_eq,
      decide_eq_true_eq]
    tauto
  refine ⟨(sequence ++ long).map (Update.put · cell), delivers_puts cell inside, ?_, ?_⟩
  · have fitting : ∀ update ∈ sequence, update.data.length ≤ limit := by
      intro update member
      have test := (List.mem_filter.mp ((covers update).mp member)).2
      exact of_decide_eq_true test
    have front : sequence.filter (fun update => update.data.length ≤ limit) = sequence :=
      List.filter_eq_self.mpr fun update member => decide_eq_true (fitting update member)
    have back : long.filter (fun update => update.data.length ≤ limit) = [] := by
      refine List.filter_eq_nil_iff.mpr fun update member => ?_
      simpa using (List.mem_filter.mp member).2
    have test : ∀ list : List Update, offered limit cell (list.map (Update.put · cell)) =
        list.filter (fun update => update.data.length ≤ limit) := by
      intro list
      unfold offered
      rw [List.filter_map, List.map_map]
      have same : (Put.update ∘ fun update : Update => update.put cell) = id := rfl
      rw [same, List.map_id]
      congr 1
      funext update
      simp [Put.cell, Update.put]
    rw [test, List.filter_append, front, back, List.append_nil]
  · intro call member
    obtain ⟨source, -, rfl⟩ := List.mem_map.mp member
    rfl

/-- The two updates of the test `test_chaos_network_partition`, one for each side. -/
def partitioned : List Update :=
  [⟨utf8 "A_data", .single "A" 1, none⟩, ⟨utf8 "B_data", .single "B" 1, none⟩]

def ordered : List Update := [⟨[1], .single "a" 1, none⟩, ⟨[2], .single "a" 2, none⟩]

/-- Replicas that applied the same updates to a cell, in any orders and with any repetitions, and
any other puts between them, read the same value exactly when some of the updates that can be
sealed carry one value and strictly dominate all the others. -/
theorem replicas_converge_iff {here there : Enclave} {limit : Nat} (worksHere : here.Works limit)
    (worksThere : there.Works limit) {masterHere masterThere : Octets 32}
    (derivedHere : here.deriveMasterKey = .ok masterHere)
    (derivedThere : there.deriveMasterKey = .ok masterThere) (nspace key : String)
    (updates : List Update) :
    (∀ first second, Delivers (nspace, key) updates first → Delivers (nspace, key) updates second →
      Along (KvStore.step here) KvStore.Roomy .new first →
      Along (KvStore.step there) KvStore.Roomy .new second →
      (run (KvStore.step here) .new first).get here nspace key =
        (run (KvStore.step there) .new second).get there nspace key) ↔
    ∃ winners, Decides Update.Le Update.data
      (updates.filter fun update => update.data.length ≤ limit) winners := by
  rw [← converge_iff Update.Le.refl Update.Le.trans]
  constructor
  · intro converge first second firstCovers secondCovers
    obtain ⟨one, oneDelivers, rfl, oneHere⟩ := exists_delivery limit (nspace, key) updates firstCovers
    obtain ⟨two, twoDelivers, rfl, twoHere⟩ := exists_delivery limit (nspace, key) updates secondCovers
    have roomyOne := KvStore.roomy_of_one_cell here (nspace, key) oneHere
    have roomyTwo := KvStore.roomy_of_one_cell there (nspace, key) twoHere
    rw [← KvStore.get_run worksHere derivedHere (nspace, key) roomyOne,
      ← KvStore.get_run worksThere derivedThere (nspace, key) roomyTwo]
    exact converge one two oneDelivers twoDelivers roomyOne roomyTwo
  · intro converge one two oneDelivers twoDelivers roomyOne roomyTwo
    rw [KvStore.get_run worksHere derivedHere (nspace, key) roomyOne,
      KvStore.get_run worksThere derivedThere (nspace, key) roomyTwo]
    exact converge _ _ (oneDelivers.covers limit) (twoDelivers.covers limit)

/-- Two updates of one node: the later one decides, so replicas agree. -/
theorem later_update_decides :
    (Enclave.transparent 16).deriveMasterKey = .ok (.zero 32) ∧
    ∀ first second, Delivers ("ns", "key") ordered first → Delivers ("ns", "key") ordered second →
      Along (KvStore.step (.transparent 16)) KvStore.Roomy .new first →
      Along (KvStore.step (.transparent 16)) KvStore.Roomy .new second →
      (run (KvStore.step (.transparent 16)) .new first).get (.transparent 16) "ns" "key" =
        (run (KvStore.step (.transparent 16)) .new second).get (.transparent 16) "ns" "key" := by
  have works := Enclave.transparent_works 16
  refine ⟨rfl, (replicas_converge_iff works works rfl rfl "ns" "key" ordered).mpr
    ⟨{⟨[2], .single "a" 2, none⟩}, ?_, ?_, ?_, ?_, ?_⟩⟩
  · rintro update rfl
    decide
  · intro _
    exact Set.singleton_nonempty _
  · rintro first rfl second rfl
    rfl
  · intro update member loses winner wins
    rw [Set.mem_singleton_iff.mp wins]
    revert update
    decide +kernel
  · intro update member loses winner wins
    rw [Set.mem_singleton_iff.mp wins]
    revert update
    decide +kernel

/-- The two sides of a network partition: each applied its own update first, then the other's, and
each now reads the other's value. -/
theorem partition_diverges :
    (partitioned.map Update.version).Nodup ∧
    Delivers ("chaos", "key") partitioned (partitioned.map (·.put ("chaos", "key"))) ∧
    Delivers ("chaos", "key") partitioned (partitioned.reverse.map (·.put ("chaos", "key"))) ∧
    Along (KvStore.step (.transparent 16)) KvStore.Roomy .new
      (partitioned.map (·.put ("chaos", "key"))) ∧
    Along (KvStore.step (.transparent 16)) KvStore.Roomy .new
      (partitioned.reverse.map (·.put ("chaos", "key"))) ∧
    (run (KvStore.step (.transparent 16)) .new (partitioned.map (·.put ("chaos", "key")))).get
      (.transparent 16) "chaos" "key" = some (utf8 "B_data") ∧
    (run (KvStore.step (.transparent 16)) .new
      (partitioned.reverse.map (·.put ("chaos", "key")))).get
        (.transparent 16) "chaos" "key" = some (utf8 "A_data") := by
  refine ⟨by decide, delivers_puts _ fun _ => Iff.rfl, delivers_puts _ fun _ => List.mem_reverse,
    KvStore.roomy_of_one_cell _ ("chaos", "key") (by decide),
    KvStore.roomy_of_one_cell _ ("chaos", "key") (by decide), ?_, ?_⟩
  · decide +kernel
  · decide +kernel

/-! ## Replayed updates -/

/-- A store and the versions it accepted. -/
structure Watched (σ : Type) where
  store : σ
  accepted : List ((String × String) × VersionVector)

def Watched.step {σ ε : Type} (put : σ → ε → Bool × σ) (callOf : ε → Put) (watched : Watched σ)
    (event : ε) : Watched σ :=
  let (applied, store) := put watched.store event
  ⟨store, if applied then watched.accepted ++ [((callOf event).cell, (callOf event).version)]
    else watched.accepted⟩

/-- A put for a cell whose vector is at most that of an earlier accepted put for the same cell. -/
def Watched.Stale {σ : Type} (watched : Watched σ) (call : Put) : Prop :=
  ∃ version, (call.cell, version) ∈ watched.accepted ∧ call.version.Le version

def versions {κ : Type} (entries : κ → Option FabricEntry) (cell : κ) : Option VersionVector :=
  (entries cell).map FabricEntry.version

def Watched.taken {σ κ : Type} (watched : Watched σ) (cellOf : String × String → κ) :
    List (κ × VersionVector) :=
  watched.accepted.map fun entry => (cellOf entry.1, entry.2)

def Watched.Sourced {σ κ : Type} (entries : σ → κ → Option FabricEntry)
    (cellOf : String × String → κ) (watched : Watched σ) : Prop :=
  Register.Sourced (versions (entries watched.store)) (watched.taken cellOf)

/-- The put can be carried out only if its vector is comparable with that of the entry there. -/
def Comparable {κ : Type} (entries : κ → Option FabricEntry) (cell : κ) (call : Put)
    (able : Prop) : Prop :=
  able → ∀ existing, entries cell = some existing →
    call.version.Le existing.version ∨ existing.version.Le call.version

section Outcomes

variable {κ : Type} [DecidableEq κ] {cell : κ} {call : Put} {able : Prop}
  {opens : SealedData → Prop} {before after : κ → Option FabricEntry} {answer : Bool}
  {taken : List (κ × VersionVector)}

theorem versions_update (entries : κ → Option FabricEntry) (cell : κ) (entry : FabricEntry) :
    versions (Function.update entries cell (some entry)) =
      Function.update (versions entries) cell (some entry.version) := by
  funext other
  unfold versions
  by_cases same : other = cell
  · rw [same, Function.update_self, Function.update_self]
    rfl
  · rw [Function.update_of_ne same, Function.update_of_ne same]

variable (outcome : PutOutcome cell call able opens before answer after)
include outcome

theorem PutOutcome.sourced (sourced : Register.Sourced (versions before) taken) :
    Register.Sourced (versions after) (if answer then taken ++ [(cell, call.version)] else taken) := by
  cases outcome with
  | refused why => exact sourced
  | stored newer can sealed opened =>
    rw [versions_update]
    exact sourced.take cell call.version

theorem PutOutcome.current_iff (sourced : Register.Sourced (versions before) taken)
    (current : Current VersionVector.Le (versions before) taken) :
    Current VersionVector.Le (versions after)
      (if answer then taken ++ [(cell, call.version)] else taken) ↔
      Comparable before cell call able := by
  cases outcome with
  | refused why =>
    refine ⟨fun _ can existing held => ?_, fun _ => current⟩
    obtain ⟨found, foundHeld, under⟩ := why.resolve_right (not_not.mpr can)
    rw [held, Option.some_inj] at foundHeld
    exact .inl (foundHeld ▸ under)
  | stored newer can sealed opened =>
    rw [versions_update]
    refine (current_take_iff VersionVector.Le.refl (fun _ _ _ => VersionVector.Le.trans) current
      sourced cell call.version).trans ?_
    constructor
    · intro above _ existing held
      exact .inr (above existing.version (by simp [versions, held]))
    · intro comparable replaced held
      obtain ⟨existing, found, rfl⟩ := Option.map_eq_some_iff.mp held
      exact (comparable can existing found).resolve_left (newer existing found)

theorem PutOutcome.refused_iff : answer = false ↔
      (∃ existing, before cell = some existing ∧ call.version.Le existing.version) ∨ ¬ able := by
  cases outcome with
  | refused why => simp only [why]
  | stored newer can sealed opened =>
    refine ⟨nofun, ?_⟩
    rintro (⟨existing, held, under⟩ | unable)
    · exact absurd under (newer existing held)
    · exact absurd can unable

theorem PutOutcome.kept (refused : answer = false) : after = before := by
  cases outcome with
  | refused why => rfl
  | stored newer can sealed opened => cases refused

end Outcomes

theorem Watched.taken_step {σ ε κ : Type} (put : σ → ε → Bool × σ) (callOf : ε → Put)
    (watched : Watched σ) (event : ε) (cellOf : String × String → κ) :
    (watched.step put callOf event).taken cellOf =
      if (put watched.store event).1 then
        watched.taken cellOf ++ [(cellOf (callOf event).cell, (callOf event).version)]
      else watched.taken cellOf := by
  unfold step taken
  dsimp only
  cases (put watched.store event).1 with
  | false => rfl
  | true => simp

theorem Watched.dominated_of_stale {σ κ : Type} {watched : Watched σ} {cellOf : String × String → κ}
    {entries : κ → Option FabricEntry}
    (current : Current VersionVector.Le (versions entries) (watched.taken cellOf)) {call : Put}
    (stale : watched.Stale call) :
    ∃ existing, entries (cellOf call.cell) = some existing ∧ call.version.Le existing.version := by
  obtain ⟨version, member, under⟩ := stale
  have inside : (cellOf call.cell, version) ∈ watched.taken cellOf :=
    List.mem_map.mpr ⟨(call.cell, version), member, rfl⟩
  obtain ⟨held, found, above⟩ := current _ inside
  obtain ⟨existing, entry, rfl⟩ := Option.map_eq_some_iff.mp found
  exact ⟨existing, entry, under.trans above⟩

def replay (version : VersionVector) : Put :=
  ⟨cell.1, cell.2, [], version, none, .zero 12⟩

namespace KvStore

variable {enclave : Enclave} {limit : Nat} (works : enclave.Works limit) {masterKey : Octets 32}
  (derived : enclave.deriveMasterKey = .ok masterKey)

/-- A stale put is refused and changes no value. -/
def RefusesStale (enclave : Enclave) (watched : Watched KvStore) : Prop :=
  ∀ call, watched.Stale call → (watched.store.put enclave call).1 = false ∧
    ∀ nspace key, (watched.store.put enclave call).2.get enclave nspace key =
      watched.store.get enclave nspace key

include works derived

theorem refusesStale_iff (watched : Watched KvStore) :
    RefusesStale enclave watched ↔
      Current VersionVector.Le (versions watched.store.entry) (watched.taken id) := by
  constructor
  · intro refuses entry member
    obtain ⟨⟨cell, version⟩, accepted, rfl⟩ := List.mem_map.mp member
    have stale : watched.Stale (replay cell version) := ⟨version, accepted, .refl version⟩
    obtain ⟨existing, held, under⟩ := ((put_refused_iff works derived _ _).mp
      (refuses _ stale).1).resolve_right (not_not.mpr (Nat.zero_le limit))
    exact ⟨existing.version, by simp [versions, show watched.store.entry cell = _ from held], under⟩
  · intro current call stale
    obtain ⟨answer, kept⟩ := put_dominated enclave (Watched.dominated_of_stale current stale)
    refine ⟨answer, fun nspace key => ?_⟩
    rw [get_eq derived, get_eq derived, kept]

end KvStore

namespace RocksDbStore

variable {enclave : Enclave} {limit : Nat} (works : enclave.Works limit) (codec : EntryCodec)
  {masterKey : Octets 32}

def RefusesStale (enclave : Enclave) (codec : EntryCodec) (watched : Watched RocksDbStore) : Prop :=
  ∀ call : DbPut, call.readable = true → watched.Stale call.toPut →
    (watched.store.put enclave codec call).1 = false ∧
    ∀ nspace key, (watched.store.put enclave codec call).2.get enclave codec true nspace key =
      watched.store.get enclave codec true nspace key

def cellOf : String := dbKey cell.1 cell.2

include works

theorem refusesStale_iff {watched : Watched RocksDbStore}
    (derived : watched.store.masterKey enclave = some masterKey) :
    RefusesStale enclave codec watched ↔
      Current VersionVector.Le (versions (watched.store.entry codec)) (watched.taken cellOf) := by
  constructor
  · intro refuses entry member
    obtain ⟨⟨cell, version⟩, accepted, rfl⟩ := List.mem_map.mp member
    have stale : watched.Stale (replay cell version) := ⟨version, accepted, .refl version⟩
    let again : DbPut := ⟨replay cell version, true, true⟩
    have outcome := put_outcome codec works derived (show again.readable = true from rfl)
    obtain ⟨existing, held, under⟩ := (outcome.refused_iff.mp
      (refuses again rfl stale).1).resolve_right (not_not.mpr ⟨Nat.zero_le limit, rfl⟩)
    have found : watched.store.entry codec (cellOf cell) = some existing := held
    exact ⟨existing.version, by simp [versions, found], under⟩
  · intro current call answers stale
    have outcome := put_outcome codec works derived answers
    have refused := outcome.refused_iff.mpr (.inl (Watched.dominated_of_stale current stale))
    refine ⟨refused, fun nspace key => ?_⟩
    unfold get
    rw [outcome.kept refused, masterKey_put]

end RocksDbStore

def kvStep (enclave : Enclave) : Watched KvStore → Put → Watched KvStore :=
  Watched.step (KvStore.put enclave) id

def dbStep (enclave : Enclave) (codec : EntryCodec) :
    Watched RocksDbStore → DbPut → Watched RocksDbStore :=
  Watched.step (RocksDbStore.put enclave codec) DbPut.toPut

section Runs

variable {enclave : Enclave} {limit : Nat} (works : enclave.Works limit) {masterKey : Octets 32}
include works

theorem KvStore.always_refusesStale_iff (derived : enclave.deriveMasterKey = .ok masterKey)
    {watched : Watched KvStore} (sourced : watched.Sourced KvStore.entry id)
    (start : KvStore.RefusesStale enclave watched) {calls : List Put}
    (roomy : Along (kvStep enclave) (fun watched call => watched.store.Roomy call) watched calls) :
    (∀ front, front <+: calls →
      KvStore.RefusesStale enclave (run (kvStep enclave) watched front)) ↔
    Along (kvStep enclave) (fun watched call =>
      Comparable watched.store.entry call.cell call (call.data.length ≤ limit)) watched calls := by
  refine always_iff_along_taken (KvStore.RefusesStale enclave) ?_ ?_ sourced start roomy
  · intro watched call sourced roomy
    have outcome := KvStore.put_outcome works derived roomy
    unfold Watched.Sourced kvStep
    rw [Watched.taken_step]
    exact outcome.sourced sourced
  · intro watched call sourced roomy refuses
    have outcome := KvStore.put_outcome works derived roomy
    rw [KvStore.refusesStale_iff works derived] at refuses ⊢
    rw [kvStep, Watched.taken_step]
    exact outcome.current_iff sourced refuses

/-- The database holds only accepted vectors, and its master key is there. -/
structure RocksDbStore.Consistent (enclave : Enclave) (codec : EntryCodec) (masterKey : Octets 32)
    (watched : Watched RocksDbStore) : Prop where
  sourced : watched.Sourced (RocksDbStore.entry codec) RocksDbStore.cellOf
  derived : watched.store.masterKey enclave = some masterKey

theorem RocksDbStore.always_refusesStale_iff (codec : EntryCodec) {watched : Watched RocksDbStore}
    (consistent : RocksDbStore.Consistent enclave codec masterKey watched)
    (start : RocksDbStore.RefusesStale enclave codec watched) {calls : List DbPut}
    (answers : Along (dbStep enclave codec) (fun _ call => call.readable = true) watched calls) :
    (∀ front, front <+: calls →
      RocksDbStore.RefusesStale enclave codec (run (dbStep enclave codec) watched front)) ↔
    Along (dbStep enclave codec) (fun watched call =>
      Comparable (watched.store.entry codec) (RocksDbStore.dbKey call.nspace call.key) call.toPut
        (call.data.length ≤ limit ∧ call.writable = true)) watched calls := by
  refine always_iff_along_taken (RocksDbStore.RefusesStale enclave codec) ?_ ?_ consistent start
    answers
  · intro watched call consistent readable
    have outcome := RocksDbStore.put_outcome codec works consistent.derived readable
    refine ⟨?_, (RocksDbStore.masterKey_put codec watched.store call).trans consistent.derived⟩
    unfold Watched.Sourced dbStep
    rw [Watched.taken_step]
    exact outcome.sourced consistent.sourced
  · intro watched call consistent readable refuses
    have outcome := RocksDbStore.put_outcome codec works consistent.derived readable
    have later : (dbStep enclave codec watched call).store.masterKey enclave = some masterKey :=
      (RocksDbStore.masterKey_put codec watched.store call).trans consistent.derived
    rw [RocksDbStore.refusesStale_iff works codec consistent.derived] at refuses
    rw [RocksDbStore.refusesStale_iff works codec later, dbStep, Watched.taken_step]
    exact outcome.current_iff consistent.sourced refuses

/-- In every state of a run, replayed puts would be refused and change nothing that is read,
exactly when every put of the run that can be carried out is comparable with the entry it finds:
for the in-memory store while its namespaces have room, for the database while it answers reads. -/
theorem stale_puts_refused_iff (derived : enclave.deriveMasterKey = .ok masterKey) :
    (∀ calls, Along (kvStep enclave) (fun watched call => watched.store.Roomy call) ⟨.new, []⟩ calls →
      ((∀ front, front <+: calls →
        KvStore.RefusesStale enclave (run (kvStep enclave) ⟨.new, []⟩ front)) ↔
      Along (kvStep enclave) (fun watched call =>
        Comparable watched.store.entry call.cell call (call.data.length ≤ limit)) ⟨.new, []⟩ calls)) ∧
    (∀ codec policy store, RocksDbStore.new enclave .empty policy = .ok store →
      ∀ calls, Along (dbStep enclave codec) (fun _ call => call.readable = true) ⟨store, []⟩ calls →
      ((∀ front, front <+: calls →
        RocksDbStore.RefusesStale enclave codec (run (dbStep enclave codec) ⟨store, []⟩ front)) ↔
      Along (dbStep enclave codec) (fun watched call =>
        Comparable (watched.store.entry codec) (RocksDbStore.dbKey call.nspace call.key) call.toPut
          (call.data.length ≤ limit ∧ call.writable = true)) ⟨store, []⟩ calls)) := by
  constructor
  · intro calls roomy
    refine KvStore.always_refusesStale_iff works derived ?_ ?_ roomy
    · rintro cell version held
      cases held
    · rintro call ⟨version, member, -⟩
      cases member
  · intro codec policy store opened calls answers
    obtain ⟨db, key⟩ : store.db = .empty ∧ store.masterKey enclave = some masterKey := by
      cases policy with
      | StartupCached =>
        simp only [RocksDbStore.new, derived, Except.ok.injEq] at opened
        simp [← opened, RocksDbStore.masterKey]
      | PerTransaction =>
        simp only [RocksDbStore.new, Except.ok.injEq] at opened
        simp [← opened, RocksDbStore.masterKey, derived, Except.toOption]
    refine RocksDbStore.always_refusesStale_iff works codec ⟨?_, key⟩ ?_ answers
    · intro cell version held
      simp [versions, RocksDbStore.entry, db] at held
    · rintro call - ⟨version, member, -⟩
      cases member

end Runs

def oneWriter : List Put := ordered.map (·.put ("ns", "key"))

/-- One writer's puts are comparable, so its first put is refused when it is replayed. -/
theorem one_writer_refuses_replay :
    KvStore.RefusesStale (.transparent 16) (run (kvStep (.transparent 16)) ⟨.new, []⟩ oneWriter) ∧
    (run (kvStep (.transparent 16)) ⟨.new, []⟩ oneWriter).Stale
      (replay ("ns", "key") (.single "a" 1)) := by
  constructor
  · refine (((stale_puts_refused_iff (Enclave.transparent_works 16) rfl).1 oneWriter ?_).mpr ?_)
      oneWriter (List.prefix_refl _)
    · refine ⟨?_, ?_, trivial⟩ <;> unfold KvStore.Roomy <;> decide +kernel
    · refine ⟨?_, ?_, trivial⟩
      · rintro - existing held
        cases held
      · rintro - existing held
        cases held
        exact .inr (by decide +kernel)
  · exact ⟨.single "a" 2, by decide +kernel, by decide +kernel⟩

def afterPartition : Watched KvStore :=
  run (kvStep (.transparent 16)) ⟨.new, []⟩ (partitioned.map (·.put ("chaos", "key")))

def firstAgain : Put := (⟨utf8 "A_data", .single "A" 1, none⟩ : Update).put ("chaos", "key")

/-- A put, a concurrent one, and the first again: it is stale, and its value is back. -/
theorem replay_after_concurrent_put :
    afterPartition.Stale firstAgain ∧
    afterPartition.store.get (.transparent 16) "chaos" "key" = some (utf8 "B_data") ∧
    (afterPartition.store.put (.transparent 16) firstAgain).1 = true ∧
    (afterPartition.store.put (.transparent 16) firstAgain).2.get (.transparent 16) "chaos" "key" =
      some (utf8 "A_data") := by
  refine ⟨⟨.single "A" 1, ?_, ?_⟩, ?_, ?_, ?_⟩
  · decide +kernel
  · exact VersionVector.Le.refl _
  · decide +kernel
  · decide +kernel
  · decide +kernel

end OpenHttpa.Fabric
