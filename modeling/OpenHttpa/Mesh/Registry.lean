import Mathlib.Data.List.Perm.Basic
import OpenHttpa.Lib.Receiver
import OpenHttpa.Lib.Run
import OpenHttpa.Lib.Shards
import OpenHttpa.Proto.Types

/-!
# The sharded registry of the mesh

`ShardedRegistry` of `openhttpa-mesh/src/registry.rs`: agents in a vector of maps, an agent in the
one at its id modulo their number, with the time it was last seen. What it answers is what one map
answers: agents are found by id and by capability, and go when they have not been seen for as long
as they live. Times are counted in nanoseconds. The order in which a `DashMap` is iterated is
arbitrary.
-/
namespace OpenHttpa.Mesh

open Proto

/-! ## The code -/

abbrev Agents := Table (BitVec 128) (AgentMetadata × Nat)

/-- `ShardedRegistry`. Without shards every call would divide by zero. -/
structure ShardedRegistry where
  shards : List Agents
  ttl : Nat
  positive : 0 < shards.length

/-- An order to go over the entries of a map in. -/
structure Visit where
  /-- The entries in that order. -/
  list : Agents → List (BitVec 128 × AgentMetadata × Nat)
  perm : ∀ agents, (list agents).Perm agents.entries

def matching (capability : String) (entry : BitVec 128 × AgentMetadata × Nat) : Option AgentMetadata :=
  if capability ∈ entry.2.1.capabilities then some entry.2.1 else none

namespace ShardedRegistry

/-- `ShardedRegistry::new`, the task that reaps apart. -/
def new (shardCount ttl : Nat) (positive : 0 < shardCount) : ShardedRegistry where
  shards := List.replicate shardCount .empty
  ttl := ttl
  positive := by rwa [List.length_replicate]

variable (registry : ShardedRegistry) (id : BitVec 128)

/-- The index that `get_shard` computes. -/
def shardIndex : Nat := id.toNat % registry.shards.length

theorem shardIndex_lt :
    registry.shardIndex id < registry.shards.length := Nat.mod_lt _ registry.positive

def getShard : Agents :=
  registry.shards.get ⟨registry.shardIndex id, registry.shardIndex_lt id⟩

def changeShard (change : Agents → Agents) : ShardedRegistry where
  shards := registry.shards.modify (registry.shardIndex id) change
  ttl := registry.ttl
  positive := by
    rw [List.length_modify]
    exact registry.positive

def register (metadata : AgentMetadata) (now : Nat) : ShardedRegistry :=
  registry.changeShard metadata.id (·.insert metadata.id (metadata, now))

def getAgent : Option AgentMetadata :=
  ((registry.getShard id).find id).map Prod.fst

def search (visit : Visit) (capability : String) : List AgentMetadata :=
  registry.shards.flatMap fun shard => (visit.list shard).filterMap (matching capability)

def heartbeat (now : Nat) : Except String Unit × ShardedRegistry :=
  match (registry.getShard id).find id with
  | some pair => (.ok (), registry.changeShard id (·.insert id (pair.1, now)))
  | none => (.error "Agent not found", registry)

/-- `reap`; `duration_since` is zero for a time that is still to come. -/
def reap (now : Nat) : ShardedRegistry where
  shards := registry.shards.map
    (·.retain fun pair => if now - pair.2 < registry.ttl then some pair else none)
  ttl := registry.ttl
  positive := by
    rw [List.length_map]
    exact registry.positive

end ShardedRegistry

/-! ## The registry as a machine, and as one map -/

inductive RegistryCall where
  | register (metadata : AgentMetadata)
  | heartbeat (id : BitVec 128)
  | getAgent (id : BitVec 128)
  | search (capability : String) (visit : Visit)
  | reap

structure RegistryEvent where
  now : Nat
  call : RegistryCall

inductive RegistryAnswer where
  | done (result : Except String Unit)
  | agent (found : Option AgentMetadata)
  | agents (found : List AgentMetadata)

def ShardedRegistry.step (registry : ShardedRegistry) (event : RegistryEvent) :
    RegistryAnswer × ShardedRegistry :=
  match event.call with
  | .register metadata => (.done (.ok ()), registry.register metadata event.now)
  | .heartbeat id =>
    let (result, after) := registry.heartbeat id event.now
    (.done result, after)
  | .getAgent id => (.agent (registry.getAgent id), registry)
  | .search capability visit => (.agents (registry.search visit capability), registry)
  | .reap => (.done (.ok ()), registry.reap event.now)

/-- What the registry is for: one map takes a call. An agent goes when it has not been seen for the
time to live. -/
def Agents.step (ttl : Nat) (agents : Agents) (event : RegistryEvent) : RegistryAnswer × Agents :=
  match event.call with
  | .register metadata => (.done (.ok ()), agents.insert metadata.id (metadata, event.now))
  | .heartbeat id =>
    match agents.find id with
    | some pair => (.done (.ok ()), agents.insert id (pair.1, event.now))
    | none => (.done (.error "Agent not found"), agents)
  | .getAgent id => (.agent ((agents.find id).map Prod.fst), agents)
  | .search capability _ => (.agents (agents.entries.filterMap (matching capability)), agents)
  | .reap => (.done (.ok ()),
      agents.retain fun pair => if pair.2 + ttl ≤ event.now then none else some pair)

/-- Two answers are the same, lists of agents up to order and with no agent twice. -/
def RegistryAnswer.Agree : RegistryAnswer → RegistryAnswer → Prop
  | .agents first, .agents second => first.Perm second ∧ (first.map AgentMetadata.id).Nodup
  | first, second => first = second

/-! ## One map -/

/-- The registry stands for a map, in which agents have their own ids and were seen before. -/
structure Holds (registry : ShardedRegistry) (agents : Agents) (clock : Nat) : Prop where
  represents : Shards.Represents registry.shardIndex registry.shards agents
  own : ∀ id pair, agents.find id = some pair → pair.1.id = id
  seen : ∀ id pair, agents.find id = some pair → pair.2 ≤ clock

namespace Holds

variable {registry : ShardedRegistry} {agents : Agents} {clock now : Nat}

theorem find_getShard (holds : Holds registry agents clock) (id : BitVec 128) :
    (registry.getShard id).find id = agents.find id := by
  rw [← holds.represents.found id, Shards.find, List.getElem?_eq_getElem (registry.shardIndex_lt id)]
  rfl

theorem later (holds : Holds registry agents clock) (passes : clock ≤ now) :
    Holds registry agents now :=
  ⟨holds.represents, holds.own, fun id pair found => Nat.le_trans (holds.seen id pair found) passes⟩

theorem insert (holds : Holds registry agents now) {id : BitVec 128} {metadata : AgentMetadata}
    (own : metadata.id = id) :
    Holds (registry.changeShard id (·.insert id (metadata, now))) (agents.insert id (metadata, now))
      now where
  represents := by
    have index : (registry.changeShard id (·.insert id (metadata, now))).shardIndex =
        registry.shardIndex := by
      funext other
      simp [ShardedRegistry.shardIndex, ShardedRegistry.changeShard]
    rw [index]
    exact holds.represents.insert (registry.shardIndex_lt id) (metadata, now)
  own := by
    intro other pair found
    rw [Table.find_insert] at found
    split at found
    · rename_i same
      cases found
      rw [own, same]
    · exact holds.own other pair found
  seen := by
    intro other pair found
    rw [Table.find_insert] at found
    split at found
    · cases found
      exact Nat.le_refl _
    · exact holds.seen other pair found

theorem reap (holds : Holds registry agents now) :
    Holds (registry.reap now)
      (agents.retain fun pair => if pair.2 + registry.ttl ≤ now then none else some pair) now := by
  have same : agents.retain (fun pair => if pair.2 + registry.ttl ≤ now then none else some pair) =
      agents.retain fun pair => if now - pair.2 < registry.ttl then some pair else none := by
    refine Table.retain_congr fun id pair found => ?_
    have before := holds.seen id pair found
    by_cases old : pair.2 + registry.ttl ≤ now
    · rw [if_pos old, if_neg (by omega)]
    · rw [if_neg old, if_pos (by omega)]
  have index : (registry.reap now).shardIndex = registry.shardIndex := by
    funext other
    simp [ShardedRegistry.shardIndex, ShardedRegistry.reap]
  have kept : ∀ id pair, (agents.retain fun pair =>
      if now - pair.2 < registry.ttl then some pair else none).find id = some pair →
        agents.find id = some pair := by
    intro id pair found
    rw [Table.find_retain, Option.bind_eq_some_iff] at found
    obtain ⟨before, there, stays⟩ := found
    split at stays
    · cases stays
      exact there
    · cases stays
  rw [same]
  refine ⟨?_, fun id pair found => holds.own id pair (kept id pair found),
    fun id pair found => holds.seen id pair (kept id pair found)⟩
  rw [index]
  exact holds.represents.retain _

theorem search (holds : Holds registry agents clock) (visit : Visit) (capability : String) :
    (registry.search visit capability).Perm (agents.entries.filterMap (matching capability)) ∧
      ((registry.search visit capability).map AgentMetadata.id).Nodup := by
  have visited : (registry.shards.flatMap visit.list).Perm agents.entries :=
    (List.Perm.flatMap_left _ fun shard _ => visit.perm shard).trans holds.represents.perm
  have perm : (registry.search visit capability).Perm
      (agents.entries.filterMap (matching capability)) := by
    have list : registry.search visit capability =
        (registry.shards.flatMap visit.list).filterMap (matching capability) := by
      rw [ShardedRegistry.search, List.filterMap_flatMap]
    rw [list]
    exact visited.filterMap _
  refine ⟨perm, (perm.map AgentMetadata.id).nodup_iff.mpr ?_⟩
  -- the ids of the agents that match are keys of the map
  have ids : ((agents.entries.filterMap (matching capability)).map AgentMetadata.id).Sublist
      agents.keys := by
    refine Assoc.map_filterMap_sublist fun entry member found made => ?_
    rw [matching] at made
    split at made
    · cases made
      exact holds.own entry.1 entry.2 (Table.mem_entries.mp member)
    · cases made
  exact agents.distinct.sublist ids

end Holds

theorem Holds.step {registry : ShardedRegistry} {agents : Agents} {event : RegistryEvent}
    (holds : Holds registry agents event.now) :
    (registry.step event).1.Agree (agents.step registry.ttl event).1 ∧
      Holds (registry.step event).2 (agents.step registry.ttl event).2 event.now ∧
      (registry.step event).2.ttl = registry.ttl := by
  obtain ⟨now, call⟩ := event
  cases call with
  | register metadata => exact ⟨rfl, holds.insert rfl, rfl⟩
  | heartbeat id =>
    simp only [ShardedRegistry.step, Agents.step, ShardedRegistry.heartbeat, holds.find_getShard id]
    cases found : agents.find id with
    | none => exact ⟨rfl, holds, rfl⟩
    | some pair => exact ⟨rfl, holds.insert (holds.own id pair found), rfl⟩
  | getAgent id =>
    refine ⟨?_, holds, rfl⟩
    simp only [ShardedRegistry.step, Agents.step, ShardedRegistry.getAgent, holds.find_getShard id]
    rfl
  | search capability visit => exact ⟨holds.search visit capability, holds, rfl⟩
  | reap => exact ⟨rfl, holds.reap, rfl⟩

theorem Holds.answers {registry : ShardedRegistry} {agents : Agents} {clock : Nat}
    (holds : Holds registry agents clock) {events : List RegistryEvent}
    (ordered : (clock :: events.map RegistryEvent.now).Pairwise (· ≤ ·)) :
    List.Forall₂ RegistryAnswer.Agree (answers ShardedRegistry.step registry events)
      (answers (Agents.step registry.ttl) agents events) := by
  induction events generalizing registry agents clock with
  | nil => exact .nil
  | cons event events ih =>
    rw [List.map_cons, List.pairwise_cons] at ordered
    have now := holds.later (ordered.1 event.now List.mem_cons_self)
    obtain ⟨agree, next, ttl⟩ := now.step
    have rest := ih next ordered.2
    rw [ttl] at rest
    exact .cons agree rest

/-- From any number of shards on, the registry answers every run of calls as one map does. -/
theorem shardedRegistry_refines_map (shardCount ttl : Nat) (positive : 0 < shardCount)
    (events : List RegistryEvent) (ordered : (events.map RegistryEvent.now).Pairwise (· ≤ ·)) :
    List.Forall₂ RegistryAnswer.Agree
      (answers ShardedRegistry.step (.new shardCount ttl positive) events)
      (answers (Agents.step ttl) .empty events) := by
  have holds : Holds (.new shardCount ttl positive) .empty 0 :=
    ⟨Shards.represents_empty shardCount, by simp, by simp⟩
  exact holds.answers (List.pairwise_cons.mpr ⟨fun _ _ => Nat.zero_le _, ordered⟩)

def Visit.plain : Visit := ⟨Table.entries, fun _ => .refl _⟩

def translator (id : BitVec 128) : AgentMetadata where
  id := id
  name := "translator"
  capabilities := ["translate"]
  endpoint := "https://agent"
  publicKey := []
  lastQuote := none
  signature := []
  prevHash := none

def heartbeatRun : List RegistryEvent :=
  [⟨0, .register (translator 4)⟩, ⟨1, .register (translator 7)⟩, ⟨4, .heartbeat 7⟩, ⟨5, .reap⟩,
    ⟨5, .search "translate" .plain⟩, ⟨6, .getAgent 4⟩]

/-- A heartbeat keeps the agent that sent it. -/
theorem heartbeatRun_answers :
    (run (fun registry event => (ShardedRegistry.step registry event).2) (.new 3 5 (by decide))
        heartbeatRun).search .plain "translate" = [translator 7] ∧
      List.Forall₂ RegistryAnswer.Agree
        (answers ShardedRegistry.step (.new 3 5 (by decide)) heartbeatRun)
        (answers (Agents.step 5) .empty heartbeatRun) :=
  ⟨by decide, shardedRegistry_refines_map 3 5 (by decide) heartbeatRun (by decide)⟩

end OpenHttpa.Mesh
