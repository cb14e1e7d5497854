import Mathlib.Algebra.BigOperators.Group.List.Basic
import OpenHttpa.Lib.Counters
import OpenHttpa.Server.Registry

/-!
# The registry under interleaving

`openhttpa-server/src/atb_registry.rs`, call by call and step by step. The slot counter and the map
are two shared objects; a call touches one of them at a time, and between two of its steps any other
call may run and time may pass. The counter is then the number of entries, plus the slots claimed or
not yet given back by tasks in flight, plus one for every insert that found an entry of its
identifier in place (`SharedRegistry.step_balanced`). A removal is by identifier and comes after the
look that found an expired session, so it hits whatever has been stored there in between.
-/
namespace OpenHttpa.Server

open Proto

/-- A call of the registry, named after the access that comes next. -/
inductive Task where
  | insertClaim (id : AtbId) (handle : Nat)
  | insertStore (id : AtbId) (handle : Nat)
  | inserted (result : Except String Unit)
  | getRead (id : AtbId)
  | getCheck (id : AtbId) (handle : Nat)
  | getRemove (id : AtbId)
  | getRelease
  | got (result : Option Nat)
  | evictCollect (expired : List AtbId)
  | evictRemove (expired : List AtbId)
  | evictRelease (rest : List AtbId)
  | evicted

namespace Task

def finished : Task → Bool
  | .inserted _ | .got _ | .evicted => true
  | _ => false

/-- The slots a task has claimed without an entry, or has not given back for one. -/
def slots : Task → Nat
  | .insertStore _ _ | .getRelease | .evictRelease _ => 1
  | _ => 0

variable (expiry : Nat → Nat) (now : Nat)

/-- The next step of a call, at a time and over the expiry of the session objects. -/
def advance (registry : AtbRegistry) : Task → AtbRegistry × Task
  | .insertClaim id handle =>
    if registry.liveCount < registry.maxSessions then
      ({ registry with liveCount := registry.liveCount + 1 }, .insertStore id handle)
    else
      (registry, .inserted (.error "AtB registry full"))
  | .insertStore id handle =>
    ({ registry with sessions := (id, handle) :: registry.remove id }, .inserted (.ok ()))
  | .getRead id =>
    match registry.sessions.lookup id with
    | none => (registry, .got none)
    | some handle => (registry, .getCheck id handle)
  | .getCheck id handle =>
    if now < expiry handle then (registry, .got (some handle)) else (registry, .getRemove id)
  | .getRemove id =>
    if (registry.sessions.lookup id).isSome then
      ({ registry with sessions := registry.remove id }, .getRelease)
    else
      (registry, .got none)
  | .getRelease => ({ registry with liveCount := registry.liveCount - 1 }, .got none)
  | .evictCollect expired => (registry, .evictRemove expired)
  | .evictRemove [] => (registry, .evicted)
  | .evictRemove (id :: rest) =>
    if (registry.sessions.lookup id).isSome then
      ({ registry with sessions := registry.remove id }, .evictRelease rest)
    else
      (registry, .evictRemove rest)
  | .evictRelease rest =>
    ({ registry with liveCount := registry.liveCount - 1 }, .evictRemove rest)
  | .inserted result => (registry, .inserted result)
  | .got result => (registry, .got result)
  | .evicted => (registry, .evicted)

def advances (expiry : Nat → Nat) (now : Nat) : Nat → AtbRegistry × Task → AtbRegistry × Task
  | 0, moved => moved
  | steps + 1, moved => advances expiry now steps (moved.2.advance expiry now moved.1)

def replaces (registry : AtbRegistry) : Task → Bool
  | .insertStore id _ => (registry.sessions.lookup id).isSome
  | _ => false

theorem length_remove {registry : AtbRegistry} (keys : (registry.sessions.map Prod.fst).Nodup)
    {id : AtbId} (present : (registry.sessions.lookup id).isSome = true) :
    (registry.remove id).length + 1 = registry.sessions.length := by
  have removed := Assoc.length_without keys id
  rw [if_pos present] at removed
  rw [AtbRegistry.remove_eq]
  omega

/-- What a step of a call does to the registry and to the slots of the call. -/
inductive Advanced (registry : AtbRegistry) : Task → AtbRegistry × Task → Prop where
  | kept {task next : Task} (same : next.slots = task.slots)
      (fresh : task.replaces registry = false) : Advanced registry task (registry, next)
  | claimed {id : AtbId} {handle : Nat} (room : registry.liveCount < registry.maxSessions) :
      Advanced registry (.insertClaim id handle)
        ({ registry with liveCount := registry.liveCount + 1 }, .insertStore id handle)
  | stored {id : AtbId} {handle : Nat} :
      Advanced registry (.insertStore id handle)
        ({ registry with sessions := (id, handle) :: registry.remove id }, .inserted (.ok ()))
  | removed {task next : Task} {id : AtbId} (present : (registry.sessions.lookup id).isSome = true)
      (before : task.slots = 0) (after : next.slots = 1) (fresh : task.replaces registry = false) :
      Advanced registry task ({ registry with sessions := registry.remove id }, next)
  | released {task next : Task} (before : task.slots = 1) (after : next.slots = 0)
      (fresh : task.replaces registry = false) :
      Advanced registry task ({ registry with liveCount := registry.liveCount - 1 }, next)

theorem advance_advanced (registry : AtbRegistry) (task : Task) :
    Advanced registry task (task.advance expiry now registry) := by
  cases task with
  | insertClaim id handle =>
    simp only [advance]
    split
    · rename_i room
      exact .claimed room
    · exact .kept rfl rfl
  | insertStore id handle => exact .stored
  | getRead | getCheck =>
    simp only [advance]
    split <;> exact .kept rfl rfl
  | getRemove id =>
    simp only [advance]
    split
    · rename_i present
      exact .removed present rfl rfl rfl
    · exact .kept rfl rfl
  | getRelease => exact .released rfl rfl rfl
  | evictCollect expired => exact .kept rfl rfl
  | evictRemove expired =>
    cases expired with
    | nil => exact .kept rfl rfl
    | cons id rest =>
      simp only [advance]
      split
      · rename_i present
        exact .removed present rfl rfl rfl
      · exact .kept rfl rfl
  | evictRelease rest => exact .released rfl rfl rfl
  | inserted | got | evicted => exact .kept rfl rfl

theorem advance_balanced {registry : AtbRegistry} {task : Task} {rest : Nat}
    (keys : (registry.sessions.map Prod.fst).Nodup)
    (balanced : registry.liveCount = registry.sessions.length + task.slots + rest) :
    (task.advance expiry now registry).1.liveCount =
      (task.advance expiry now registry).1.sessions.length +
        (task.advance expiry now registry).2.slots + rest +
        (if task.replaces registry then 1 else 0) := by
  have moved := advance_advanced expiry now registry task
  generalize task.advance expiry now registry = next at moved
  cases moved with
  | kept same fresh =>
    rw [fresh, same]
    exact balanced
  | claimed room =>
    simp only [slots, replaces, Bool.false_eq_true, if_false] at balanced ⊢
    omega
  | stored =>
    rename_i id handle
    have counted := Assoc.length_without keys id
    have replaced : (insertStore id handle).replaces registry =
        (registry.sessions.lookup id).isSome := rfl
    rw [replaced]
    simp only [slots, List.length_cons, AtbRegistry.remove_eq] at balanced ⊢
    omega
  | removed present before after fresh =>
    have fewer := length_remove keys present
    simp only [before, after, fresh, Bool.false_eq_true, if_false] at balanced ⊢
    omega
  | released before after fresh =>
    simp only [before, after, fresh, Bool.false_eq_true, if_false] at balanced ⊢
    omega

theorem advance_bounded {registry : AtbRegistry} (task : Task)
    (keys : (registry.sessions.map Prod.fst).Nodup)
    (bounded : registry.liveCount ≤ registry.maxSessions) :
    ((task.advance expiry now registry).1.sessions.map Prod.fst).Nodup ∧
      (task.advance expiry now registry).1.liveCount ≤ registry.maxSessions ∧
      (task.advance expiry now registry).1.maxSessions = registry.maxSessions := by
  have moved := advance_advanced expiry now registry task
  generalize task.advance expiry now registry = next at moved
  cases moved with
  | kept same fresh => exact ⟨keys, bounded, rfl⟩
  | claimed room => exact ⟨keys, room, rfl⟩
  | stored => exact ⟨Assoc.nodup_cons_without keys _ _, bounded, rfl⟩
  | removed present before after fresh => exact ⟨Assoc.nodup_without keys _, bounded, rfl⟩
  | released before after fresh => exact ⟨keys, (Nat.sub_le _ _).trans bounded, rfl⟩

end Task

inductive RegistryCall where
  | insert (id : AtbId) (handle : Nat)
  | get (id : AtbId)
  | evictExpired

def RegistryCall.task : RegistryCall → Task
  | .insert id handle => .insertClaim id handle
  | .get id => .getRead id
  | .evictExpired => .evictCollect []

/-- A registry and the calls under way on it. -/
structure SharedRegistry where
  registry : AtbRegistry
  now : Nat
  tasks : List Task

inductive RegistryEvent where
  | begin (call : RegistryCall)
  | advance (task : Nat)
  /-- The read-only pass of an `evict_expired` comes to the entry of an identifier. -/
  | observe (task : Nat) (id : AtbId)
  | tick (elapsed : Nat)

namespace SharedRegistry

def start (maxSessions now : Nat) : SharedRegistry := ⟨.withCapacity maxSessions, now, []⟩

variable (expiry : Nat → Nat) (shared : SharedRegistry)

/-- One event on the registry. -/
def step : RegistryEvent → SharedRegistry
  | .begin call => { shared with tasks := shared.tasks ++ [call.task] }
  | .advance index =>
    match shared.tasks[index]? with
    | none => shared
    | some task =>
      let moved := task.advance expiry shared.now shared.registry
      { shared with registry := moved.1, tasks := shared.tasks.set index moved.2 }
  | .observe index id =>
    match shared.tasks[index]?, shared.registry.sessions.lookup id with
    | some (.evictCollect expired), some handle =>
      if shared.now < expiry handle then shared
      else { shared with tasks := shared.tasks.set index (.evictCollect (expired ++ [id])) }
    | _, _ => shared
  | .tick elapsed => { shared with now := shared.now + elapsed }

/-- No call is under way. -/
def Idle : Prop := ∀ task ∈ shared.tasks, task.finished = true

def slots (shared : SharedRegistry) : Nat := (shared.tasks.map Task.slots).sum

def stores : RegistryEvent → Option AtbId
  | .advance index =>
    match shared.tasks[index]? with
    | some (.insertStore id _) => some id
    | _ => none
  | _ => none

/-- Whatever is stored has a new identifier. -/
def StoresFresh (event : RegistryEvent) : Prop :=
  ∀ id, shared.stores event = some id → shared.registry.sessions.lookup id = none

/-- The counter is what is stored, what calls in progress hold, and something more. -/
def Balanced (extra : Nat) : Prop :=
  shared.registry.liveCount = shared.registry.sessions.length + shared.slots + extra

/-- One entry for each identifier, and a counter within the capacity and not below what it counts. -/
structure Sound (maxSessions : Nat) (shared : SharedRegistry) : Prop where
  keys : (shared.registry.sessions.map Prod.fst).Nodup
  bounded : shared.registry.liveCount ≤ shared.registry.maxSessions
  capacity : shared.registry.maxSessions = maxSessions
  balanced : ∃ extra, shared.Balanced extra

variable {index : Nat} {shared}

theorem slots_set {tasks : List Task} {task : Task} (found : tasks[index]? = some task) :
    ∃ others, (tasks.map Task.slots).sum = task.slots + others ∧
      ∀ moved, ((tasks.set index moved).map Task.slots).sum = moved.slots + others := by
  induction tasks generalizing index with
  | nil => cases found
  | cons first rest ih =>
    cases index with
    | zero =>
      obtain rfl : first = task := Option.some.inj found
      exact ⟨(rest.map Task.slots).sum, rfl, fun moved => rfl⟩
    | succ index =>
      obtain ⟨others, before, after⟩ := ih found
      refine ⟨first.slots + others, ?_, ?_⟩
      · simp only [List.map_cons, List.sum_cons, before]
        omega
      · intro moved
        simp only [List.set_cons_succ, List.map_cons, List.sum_cons, after moved]
        omega

theorem step_missing
    (missing : shared.tasks[index]? = none) : shared.step expiry (.advance index) = shared := by
  simp only [step, missing]

theorem step_advance {task : Task} (found : shared.tasks[index]? = some task) :
    shared.step expiry (.advance index) = { shared with
        registry := (task.advance expiry shared.now shared.registry).1
        tasks := shared.tasks.set index (task.advance expiry shared.now shared.registry).2 } := by
  simp only [step, found]

theorem run_advances (now steps : Nat) (registry : AtbRegistry) (tasks : List Task) (task : Task) :
    run (step expiry) ⟨registry, now, tasks ++ [task]⟩ (List.replicate steps (.advance tasks.length)) =
      ⟨(Task.advances expiry now steps (registry, task)).1, now,
        tasks ++ [(Task.advances expiry now steps (registry, task)).2]⟩ := by
  induction steps generalizing registry task with
  | zero => rfl
  | succ steps ih =>
    have found : (tasks ++ [task])[tasks.length]? = some task := List.getElem?_concat_length
    have moved : ∀ next, (tasks ++ [task]).set tasks.length next = tasks ++ [next] := by
      intro next
      simp
    rw [List.replicate_succ, run_cons, step_advance expiry found]
    simp only [moved]
    exact ih _ _

theorem run_alone (shared : SharedRegistry) (call : RegistryCall) (steps : Nat) :
    run (step expiry) shared (.begin call :: List.replicate steps (.advance shared.tasks.length)) =
      { shared with
        registry := (Task.advances expiry shared.now steps (shared.registry, call.task)).1
        tasks := shared.tasks ++
          [(Task.advances expiry shared.now steps (shared.registry, call.task)).2] } :=
  run_advances expiry shared.now steps shared.registry shared.tasks call.task

def replaces (shared : SharedRegistry) : RegistryEvent → Bool
  | .advance index =>
    match shared.tasks[index]? with
    | none => false
    | some task => task.replaces shared.registry
  | _ => false

theorem storesFresh_iff (shared : SharedRegistry) (event : RegistryEvent) :
    shared.StoresFresh event ↔ shared.replaces event = false := by
  cases event with
  | advance index =>
    simp only [StoresFresh, stores, replaces]
    cases shared.tasks[index]? with
    | none => simp
    | some task => cases task <;> simp [Task.replaces]
  | begin | observe | tick => simp [StoresFresh, stores, replaces]

theorem step_balanced {extra : Nat} (keys : (shared.registry.sessions.map Prod.fst).Nodup)
    (balanced : shared.Balanced extra) (event : RegistryEvent) :
    (shared.step expiry event).Balanced (extra + if shared.replaces event then 1 else 0) := by
  unfold Balanced slots at balanced ⊢
  cases event with
  | begin call =>
    have none : call.task.slots = 0 := by cases call <;> rfl
    simpa [step, none, replaces] using balanced
  | advance index =>
    cases found : shared.tasks[index]? with
    | none =>
      have quiet : shared.replaces (.advance index) = false := by simp only [replaces, found]
      rw [step_missing expiry found, quiet]
      exact balanced
    | some task =>
      have same : shared.replaces (.advance index) = task.replaces shared.registry := by
        simp only [replaces, found]
      obtain ⟨others, before, after⟩ := slots_set found
      have counted : shared.registry.liveCount =
          shared.registry.sessions.length + task.slots + (others + extra) := by omega
      have moved := Task.advance_balanced expiry shared.now keys counted
      rw [step_advance expiry found, same]
      simp only [after]
      omega
  | observe index id =>
    simp only [step, replaces]
    split
    · rename_i expired handle found _
      split
      · exact balanced
      · obtain ⟨others, before, after⟩ := slots_set found
        simp only [after, Bool.false_eq_true, if_false]
        simp only [Task.slots] at before ⊢
        omega
    · exact balanced
  | tick elapsed => exact balanced

theorem step_sound {maxSessions : Nat} (shared : SharedRegistry) (event : RegistryEvent)
    (sound : shared.Sound maxSessions) : (shared.step expiry event).Sound maxSessions := by
  obtain ⟨keys, bounded, capacity, extra, balanced⟩ := sound
  have kept : ((shared.step expiry event).registry.sessions.map Prod.fst).Nodup ∧
      (shared.step expiry event).registry.liveCount ≤ shared.registry.maxSessions ∧
      (shared.step expiry event).registry.maxSessions = shared.registry.maxSessions := by
    cases event with
    | begin call => exact ⟨keys, bounded, rfl⟩
    | advance index =>
      simp only [step]
      cases shared.tasks[index]? with
      | none => exact ⟨keys, bounded, rfl⟩
      | some task => exact task.advance_bounded expiry shared.now keys bounded
    | observe index id =>
      simp only [step]
      split
      · split <;> exact ⟨keys, bounded, rfl⟩
      · exact ⟨keys, bounded, rfl⟩
    | tick elapsed => exact ⟨keys, bounded, rfl⟩
  obtain ⟨keysAfter, boundedAfter, capacityAfter⟩ := kept
  exact ⟨keysAfter, by omega, by omega, _, step_balanced expiry keys balanced event⟩

theorem Sound.step_balanced_iff {maxSessions : Nat}
    (sound : shared.Sound maxSessions) (expiry : Nat → Nat) (event : RegistryEvent) :
    (shared.step expiry event).Balanced 0 ↔ shared.Balanced 0 ∧ shared.StoresFresh event := by
  obtain ⟨extra, balanced⟩ := sound.balanced
  have after := step_balanced expiry sound.keys balanced event
  rw [storesFresh_iff]
  cases replaced : shared.replaces event with
  | true =>
    rw [replaced] at after
    unfold Balanced at balanced after ⊢
    simp only [if_true] at after
    simp only [Bool.true_eq_false, and_false, iff_false]
    omega
  | false =>
    rw [replaced] at after
    unfold Balanced at balanced after ⊢
    simp only [Bool.false_eq_true, if_false] at after
    simp only [and_true]
    omega

theorem start_sound (maxSessions now : Nat) : (start maxSessions now).Sound maxSessions :=
  ⟨List.nodup_nil, Nat.zero_le _, rfl, 0, rfl⟩

theorem Idle.slots (idle : shared.Idle) : shared.slots = 0 := by
  unfold SharedRegistry.slots
  apply List.sum_eq_zero
  intro held member
  obtain ⟨task, inside, rfl⟩ := List.mem_map.mp member
  have returned := idle task inside
  cases task <;> first | rfl | cases returned

/-- Over every interleaving of calls on an empty registry, whenever no call is in progress the
counter is the number of sessions stored, and within the capacity, exactly when no insert has
stored a session under an identifier that already had one. -/
theorem liveCount_eq_length_iff (expiry : Nat → Nat) (maxSessions now : Nat)
    (events : List RegistryEvent)
    (idle : (run (step expiry) (start maxSessions now) events).Idle) :
    ((run (step expiry) (start maxSessions now) events).registry.liveCount =
        (run (step expiry) (start maxSessions now) events).registry.sessions.length ∧
      (run (step expiry) (start maxSessions now) events).registry.liveCount ≤ maxSessions) ↔
      Along (step expiry) StoresFresh (start maxSessions now) events := by
  have sound := run_invariant (Sound maxSessions) (step_sound expiry)
    (start_sound maxSessions now) events
  have exactly : (run (step expiry) (start maxSessions now) events).Balanced 0 ↔
      (start maxSessions now).Balanced 0 ∧
        Along (step expiry) StoresFresh (start maxSessions now) events :=
    run_iff_along (Balanced · 0) (fun shared event held _ => step_sound expiry shared event held)
      (fun _ event held _ => held.step_balanced_iff expiry event)
      (start_sound maxSessions now) (along_of_forall (fun _ _ => trivial) _ events)
  have fresh : (start maxSessions now).Balanced 0 := rfl
  rw [and_iff_right fresh] at exactly
  rw [← exactly]
  have bounded := sound.bounded
  rw [sound.capacity] at bounded
  unfold Balanced
  rw [idle.slots]
  exact ⟨fun held => held.1, fun held => ⟨held, bounded⟩⟩

def insertCall (task : Nat) (id : AtbId) (handle : Nat) : List RegistryEvent :=
  .begin (.insert id handle) :: List.replicate 2 (.advance task)

theorem insert_counted_once :
    (run (step fun _ => 10) (start 5 0) (insertCall 0 ⟨0⟩ 0)).Idle ∧
      (run (step fun _ => 10) (start 5 0) (insertCall 0 ⟨0⟩ 0)).registry.liveCount =
        (run (step fun _ => 10) (start 5 0) (insertCall 0 ⟨0⟩ 0)).registry.sessions.length := by
  have idle : (run (step fun _ => 10) (start 5 0) (insertCall 0 ⟨0⟩ 0)).Idle := by
    unfold Idle
    decide
  have fresh : Along (step fun _ => 10) StoresFresh (start 5 0) (insertCall 0 ⟨0⟩ 0) := by
    simp only [insertCall, List.replicate, Along, storesFresh_iff]
    decide
  exact ⟨idle, ((liveCount_eq_length_iff _ 5 0 _ idle).mpr fresh).1⟩

/-- A session inserted again under its identifier, as a resumption does, is counted twice: with no
call in progress one session is stored and two are counted. -/
theorem reinsert_counted_twice :
    (run (step fun _ => 10) (start 5 0) (insertCall 0 ⟨0⟩ 0 ++ insertCall 1 ⟨0⟩ 1)).Idle ∧
      (run (step fun _ => 10) (start 5 0)
        (insertCall 0 ⟨0⟩ 0 ++ insertCall 1 ⟨0⟩ 1)).registry.liveCount ≠
      (run (step fun _ => 10) (start 5 0)
        (insertCall 0 ⟨0⟩ 0 ++ insertCall 1 ⟨0⟩ 1)).registry.sessions.length := by
  refine ⟨?_, by decide⟩
  unfold Idle
  decide

end SharedRegistry

namespace Task

/-- The call is going to remove the entry of an identifier whatever is stored there, or will do so if
its next step comes after the session it found has expired, which can be before `deadline`. -/
def threatens (expiry : Nat → Nat) (id : AtbId) (deadline : Nat) : Task → Bool
  | .getCheck other handle => decide (other = id ∧ expiry handle < deadline)
  | .getRemove other => decide (other = id)
  | .evictCollect expired | .evictRemove expired | .evictRelease expired => decide (id ∈ expired)
  | _ => false

theorem advance_harmless {expiry : Nat → Nat} {now : Nat} {registry : AtbRegistry} {id : AtbId}
    {handle : Nat} {task : Task} (stored : registry.sessions.lookup id = some handle)
    (alive : now < expiry handle) (harmless : task.threatens expiry id (expiry handle) = false)
    (elsewhere : ∀ other, task ≠ .insertStore id other) :
    (task.advance expiry now registry).1.sessions.lookup id = some handle ∧
      (task.advance expiry now registry).2.threatens expiry id (expiry handle) = false := by
  have removal : ∀ other, other ≠ id → (registry.remove other).lookup id = some handle := by
    intro other apart
    rw [AtbRegistry.remove_eq, Assoc.lookup_without_of_ne _ apart.symm, stored]
  cases task with
  | insertClaim other found =>
    simp only [advance]
    split <;> exact ⟨stored, rfl⟩
  | insertStore other found =>
    have apart : other ≠ id := by
      rintro rfl
      exact elsewhere found rfl
    refine ⟨?_, rfl⟩
    simp only [advance]
    rw [Assoc.lookup_cons_of_ne apart.symm]
    exact removal other apart
  | getRead other =>
    simp only [advance]
    split
    · exact ⟨stored, rfl⟩
    · rename_i found seen
      refine ⟨stored, ?_⟩
      simp only [threatens, decide_eq_false_iff_not, not_and]
      rintro rfl
      -- The look found the stored session itself, which does not expire before itself.
      obtain rfl : found = handle := Option.some.inj (seen.symm.trans stored)
      exact Nat.lt_irrefl _
  | getCheck other found =>
    simp only [threatens, decide_eq_false_iff_not, not_and] at harmless
    simp only [advance]
    split
    · exact ⟨stored, rfl⟩
    · rename_i expired
      refine ⟨stored, ?_⟩
      simp only [threatens, decide_eq_false_iff_not]
      intro same
      -- What has expired by now expires before the stored session, so the look threatened it already.
      have later := harmless same
      omega
  | getRemove other =>
    have apart : other ≠ id := by simpa [threatens] using harmless
    simp only [advance]
    split
    · exact ⟨removal other apart, rfl⟩
    · exact ⟨stored, rfl⟩
  | evictRemove expired =>
    cases expired with
    | nil => exact ⟨stored, rfl⟩
    | cons other rest =>
      simp only [threatens, decide_eq_false_iff_not, List.mem_cons, not_or] at harmless
      have still : decide (id ∈ rest) = false := decide_eq_false harmless.2
      simp only [advance]
      split
      · exact ⟨removal other (fun same => harmless.1 same.symm), still⟩
      · exact ⟨stored, still⟩
  | evictCollect | evictRelease => exact ⟨stored, harmless⟩
  | getRelease | inserted | got | evicted => exact ⟨stored, rfl⟩

end Task

namespace SharedRegistry

/-- A `get` made now and not interrupted returns the session. -/
def GetReturns (expiry : Nat → Nat) (shared : SharedRegistry) (id : AtbId) (handle : Nat) : Prop :=
  (run (step expiry) shared (.begin (.get id) ::
    List.replicate 2 (.advance shared.tasks.length))).tasks[shared.tasks.length]? =
      some (.got (some handle))

theorem getReturns_iff (expiry : Nat → Nat) (shared : SharedRegistry) (id : AtbId) (handle : Nat) :
    shared.GetReturns expiry id handle ↔
      shared.registry.sessions.lookup id = some handle ∧ shared.now < expiry handle := by
  rw [GetReturns, run_alone, List.getElem?_concat_length]
  cases found : shared.registry.sessions.lookup id with
  | none => simp [RegistryCall.task, Task.advances, Task.advance, found]
  | some other =>
    by_cases alive : shared.now < expiry other
    · have answered : other = handle → shared.now < expiry handle := by
        rintro rfl
        exact alive
      simpa [RegistryCall.task, Task.advances, Task.advance, found, alive] using answered
    · have refused : other = handle → expiry handle ≤ shared.now := by
        rintro rfl
        exact Nat.not_lt.mp alive
      simpa [RegistryCall.task, Task.advances, Task.advance, found, alive] using refused

/-- While the session is alive, it is in place and no call is a threat to it. -/
def Guarded (expiry : Nat → Nat) (id : AtbId) (handle : Nat) (shared : SharedRegistry) : Prop :=
  shared.now < expiry handle →
    shared.registry.sessions.lookup id = some handle ∧
      ∀ task ∈ shared.tasks, task.threatens expiry id (expiry handle) = false

variable {id : AtbId} {expiry : Nat → Nat} {deadline : Nat} {shared : SharedRegistry} {index : Nat}

theorem step_guarded (expiry : Nat → Nat) {handle : Nat} (shared : SharedRegistry)
    (event : RegistryEvent) (guarded : shared.Guarded expiry id handle)
    (elsewhere : shared.stores event ≠ some id) :
    (shared.step expiry event).Guarded expiry id handle := by
  cases event with
  | begin call =>
    intro alive
    obtain ⟨stored, harmless⟩ := guarded alive
    refine ⟨stored, forall_mem_concat harmless ?_⟩
    cases call <;> rfl
  | advance index =>
    cases found : shared.tasks[index]? with
    | none =>
      rw [step_missing expiry found]
      exact guarded
    | some task =>
      rw [step_advance expiry found]
      intro alive
      obtain ⟨stored, harmless⟩ := guarded alive
      have other : ∀ other, task ≠ .insertStore id other := by
        rintro other rfl
        exact elsewhere (by simp only [stores, found])
      obtain ⟨still, quiet⟩ := Task.advance_harmless stored alive
        (harmless task (List.mem_of_getElem? found)) other
      exact ⟨still, forall_mem_set harmless quiet⟩
  | observe index other =>
    intro alive
    have before : shared.now < expiry handle := by
      simp only [step] at alive
      split at alive
      · split at alive <;> exact alive
      · exact alive
    obtain ⟨stored, harmless⟩ := guarded before
    simp only [step]
    split
    · rename_i expired seen found entry
      split
      · exact ⟨stored, harmless⟩
      · rename_i dead
        refine ⟨stored, forall_mem_set harmless ?_⟩
        -- The session under this identifier is alive, so the entry seen is another.
        have apart : id ≠ other := by
          rintro rfl
          obtain rfl : seen = handle := Option.some.inj (entry.symm.trans stored)
          exact dead before
        have absent := harmless _ (List.mem_of_getElem? found)
        simp only [Task.threatens, decide_eq_false_iff_not] at absent ⊢
        simp [absent, apart]
    · exact ⟨stored, harmless⟩
  | tick elapsed =>
    intro alive
    have before : shared.now < expiry handle := by
      simp only [step] at alive
      omega
    exact guarded before

/-- Some continuation that stores nothing under the identifier takes it out before the deadline. -/
def Removable (expiry : Nat → Nat) (id : AtbId) (deadline : Nat) (shared : SharedRegistry) : Prop :=
  ∃ later, Along (step expiry) (fun shared event => shared.stores event ≠ some id) shared later ∧
    (run (step expiry) shared later).now < deadline ∧
    (run (step expiry) shared later).registry.sessions.lookup id = none

theorem Removable.of_advance {task : Task}
    (found : shared.tasks[index]? = some task) (elsewhere : ∀ other, task ≠ .insertStore id other)
    (after : Removable expiry id deadline { shared with
      registry := (task.advance expiry shared.now shared.registry).1
      tasks := shared.tasks.set index (task.advance expiry shared.now shared.registry).2 }) :
    shared.Removable expiry id deadline := by
  obtain ⟨later, along, alive, gone⟩ := after
  rw [← step_advance expiry found] at along alive gone
  refine ⟨.advance index :: later, ⟨?_, along⟩, alive, gone⟩
  simp only [stores, found]
  cases task with
  | insertStore other handle =>
    intro same
    exact elsewhere handle (congrArg (Task.insertStore · handle) (Option.some.inj same))
  | _ => simp

theorem removable_of_evicting {expired : List AtbId} (listed : id ∈ expired)
    (found : shared.tasks[index]? = some (.evictRemove expired)) (alive : shared.now < deadline) :
    shared.Removable expiry id deadline := by
  induction expired generalizing shared with
  | nil => cases listed
  | cons first rest ih =>
    have inside : index < shared.tasks.length := (List.getElem?_eq_some_iff.mp found).1
    apply Removable.of_advance found (by simp)
    by_cases present : (shared.registry.sessions.lookup first).isSome
    · simp only [Task.advance, if_pos present]
      by_cases same : first = id
      · subst same
        exact ⟨[], trivial, alive, Assoc.lookup_without_self _ _⟩
      · have later : id ∈ rest := (List.mem_cons.mp listed).resolve_left (Ne.symm same)
        have released : (shared.tasks.set index (.evictRelease rest))[index]? =
            some (.evictRelease rest) := by simp [inside]
        apply Removable.of_advance released (by simp)
        exact ih later (by simp [Task.advance, inside]) alive
    · simp only [Task.advance, if_neg present]
      by_cases same : first = id
      · subst same
        exact ⟨[], trivial, alive, Option.not_isSome_iff_eq_none.mp present⟩
      · have later : id ∈ rest := (List.mem_cons.mp listed).resolve_left (Ne.symm same)
        exact ih later (by simp [inside]) alive

theorem removable_of_removing (found : shared.tasks[index]? = some (.getRemove id))
    (alive : shared.now < deadline) : shared.Removable expiry id deadline := by
  apply Removable.of_advance found (by simp)
  by_cases present : (shared.registry.sessions.lookup id).isSome
  · simp only [Task.advance, if_pos present]
    exact ⟨[], trivial, alive, Assoc.lookup_without_self _ _⟩
  · simp only [Task.advance, if_neg present]
    exact ⟨[], trivial, alive, Option.not_isSome_iff_eq_none.mp present⟩

theorem removable_of_threatens {task : Task} (found : shared.tasks[index]? = some task)
    (threat : task.threatens expiry id deadline = true) (alive : shared.now < deadline) :
    shared.Removable expiry id deadline := by
  have inside : index < shared.tasks.length := (List.getElem?_eq_some_iff.mp found).1
  cases task with
  | getRemove other =>
    obtain rfl : other = id := by simpa [Task.threatens] using threat
    exact removable_of_removing found alive
  | getCheck other handle =>
    obtain ⟨rfl, sooner⟩ : other = id ∧ expiry handle < deadline := by
      simpa [Task.threatens] using threat
    -- Wait until the session that was found has expired: the call then evicts whatever is there.
    let waited : SharedRegistry :=
      { shared with now := shared.now + (expiry handle - shared.now) }
    have expired : ¬ waited.now < expiry handle := by
      dsimp only [waited]
      omega
    have before : waited.now < deadline := by
      dsimp only [waited]
      omega
    have checking : waited.tasks[index]? = some (.getCheck other handle) := found
    have removing : (waited.tasks.set index (.getRemove other))[index]? =
        some (.getRemove other) := by simp [waited, inside]
    have taken : waited.Removable expiry other deadline := by
      apply Removable.of_advance checking (by simp)
      simp only [Task.advance, if_neg expired]
      exact removable_of_removing removing before
    obtain ⟨later, along, alive, gone⟩ := taken
    exact ⟨.tick (expiry handle - shared.now) :: later, ⟨by simp [stores], along⟩, alive, gone⟩
  | evictRemove expired =>
    have listed : id ∈ expired := by simpa [Task.threatens] using threat
    exact removable_of_evicting listed found alive
  | evictCollect expired | evictRelease expired =>
    have listed : id ∈ expired := by simpa [Task.threatens] using threat
    have moved : (shared.tasks.set index (.evictRemove expired))[index]? =
        some (.evictRemove expired) := by simp [inside]
    apply Removable.of_advance found (by simp)
    exact removable_of_evicting listed moved alive
  | insertClaim | insertStore | inserted | getRead | getRelease | got | evicted => cases threat

/-- A live session that an insert stores is returned by `get` in every continuation, for as long as it
is alive and no other insert stores under its identifier, exactly when no call in progress at the
store has found an expired session under that identifier, or holds one that expires sooner. -/
theorem stored_session_returned_iff (expiry : Nat → Nat) (shared : SharedRegistry) (index : Nat)
    (id : AtbId) (handle : Nat) (storing : shared.tasks[index]? = some (.insertStore id handle))
    (alive : shared.now < expiry handle) :
    (∀ later, Along (step expiry) (fun shared event => shared.stores event ≠ some id)
        (shared.step expiry (.advance index)) later →
      (run (step expiry) (shared.step expiry (.advance index)) later).now < expiry handle →
        (run (step expiry) (shared.step expiry (.advance index)) later).GetReturns expiry id
          handle) ↔
      ∀ task ∈ shared.tasks, task.threatens expiry id (expiry handle) = false := by
  have after := step_advance expiry storing
  constructor
  · intro returned task member
    by_contra harmful
    have threat : task.threatens expiry id (expiry handle) = true := by simpa using harmful
    obtain ⟨other, found⟩ := List.getElem?_of_mem member
    have apart : index ≠ other := by
      rintro rfl
      obtain rfl : Task.insertStore id handle = task := Option.some.inj (storing.symm.trans found)
      cases threat
    have still : (shared.step expiry (.advance index)).tasks[other]? = some task := by
      rw [after]
      simpa [apart] using found
    have sameTime : (shared.step expiry (.advance index)).now = shared.now := by rw [after]
    obtain ⟨later, along, before, gone⟩ :=
      removable_of_threatens still threat (by rw [sameTime]; exact alive)
    have stored := ((getReturns_iff ..).mp (returned later along before)).1
    rw [gone] at stored
    cases stored
  · intro harmless later along stillAlive
    have guarded : (shared.step expiry (.advance index)).Guarded expiry id handle := by
      rw [after]
      intro _
      exact ⟨by simp [Task.advance], forall_mem_set harmless rfl⟩
    have reached := run_invariant_along (Guarded expiry id handle) (step_guarded expiry) guarded along
    rw [getReturns_iff]
    exact ⟨(reached stillAlive).1, stillAlive⟩

def shortAndLong : Nat → Nat
  | 0 => 1
  | _ => 10

/-- The first session is stored at time 0 and has expired at time 2, when an insert of the second is
about to store it under the same identifier. -/
def aboutToStore : List RegistryEvent :=
  insertCall 0 ⟨0⟩ 0 ++ [.tick 2, .begin (.insert ⟨0⟩ 1), .advance 1]

theorem undisturbed_session_returned :
    (run (step shortAndLong) (start 5 0) (aboutToStore ++ [.advance 1])).GetReturns shortAndLong
      ⟨0⟩ 1 := by
  have returned := (stored_session_returned_iff shortAndLong
    (run (step shortAndLong) (start 5 0) aboutToStore) 1 ⟨0⟩ 1 (by rfl) (by decide)).mpr (by decide)
  exact returned [] trivial (by decide)

/-- A `get` that found the first session expired evicts the second, which is stored in between and is
alive. -/
theorem live_session_evicted :
    (run (step shortAndLong) (start 5 0) (aboutToStore ++
        [.begin (.get ⟨0⟩), .advance 2, .advance 2, .advance 1])).GetReturns shortAndLong ⟨0⟩ 1 ∧
      ¬ (run (step shortAndLong) (start 5 0) (aboutToStore ++
        [.begin (.get ⟨0⟩), .advance 2, .advance 2, .advance 1, .advance 2])).GetReturns
          shortAndLong ⟨0⟩ 1 ∧
      (run (step shortAndLong) (start 5 0) (aboutToStore ++
        [.begin (.get ⟨0⟩), .advance 2, .advance 2, .advance 1, .advance 2])).now <
          shortAndLong 1 := by
  refine ⟨?_, ?_, by decide⟩
  · rw [getReturns_iff]
    decide
  · rw [getReturns_iff]
    decide

/-! ## Calls that nothing disturbs -/

end SharedRegistry

/-- The call in one piece: what it leaves and what it answers. -/
def RegistryCall.atomic (alive : Nat → Bool) (registry : AtbRegistry) :
    RegistryCall → AtbRegistry × Task
  | .insert id handle =>
    match registry.insert id handle with
    | .ok after => (after, .inserted (.ok ()))
    | .error reason => (registry, .inserted (.error reason))
  | .get id => ((registry.get alive id).2, .got (registry.get alive id).1)
  | .evictExpired => (registry.evictExpired alive, .evicted)

/-- The identifiers that a pass over all sessions collects. -/
def AtbRegistry.expired (alive : Nat → Bool) (registry : AtbRegistry) : List AtbId :=
  (registry.sessions.filter fun entry => !alive entry.2).map Prod.fst

namespace SharedRegistry

def alive (expiry : Nat → Nat) (shared : SharedRegistry) (handle : Nat) : Bool :=
  shared.now < expiry handle

/-- The steps of a call from its beginning to its end. -/
def undisturbed (expiry : Nat → Nat) (shared : SharedRegistry) : RegistryCall → List RegistryEvent
  | .evictExpired => .begin .evictExpired ::
      (shared.registry.sessions.map fun entry => .observe shared.tasks.length entry.1) ++
      List.replicate (2 * (shared.registry.expired (shared.alive expiry)).length + 2)
        (.advance shared.tasks.length)
  | call => .begin call :: List.replicate 4 (.advance shared.tasks.length)

theorem run_observes (expiry : Nat → Nat) (shared : SharedRegistry)
    (entries : List (AtbId × Nat)) (collected : List AtbId)
    (stored : ∀ entry ∈ entries, shared.registry.sessions.lookup entry.1 = some entry.2) :
    run (step expiry) { shared with tasks := shared.tasks ++ [.evictCollect collected] }
        (entries.map fun entry => .observe shared.tasks.length entry.1) =
      { shared with tasks := shared.tasks ++ [.evictCollect
        (collected ++ (entries.filter fun entry => !shared.alive expiry entry.2).map Prod.fst)] } := by
  induction entries generalizing collected with
  | nil => simp
  | cons entry rest ih =>
    obtain ⟨here, later⟩ := List.forall_mem_cons.mp stored
    rw [List.map_cons, run_cons]
    by_cases alive : shared.now < expiry entry.2
    · simp [step, here, alive, SharedRegistry.alive, ih collected later]
    · simp [step, here, alive, SharedRegistry.alive, ih _ later]

theorem advances_evictRemove (now : Nat) {registry : AtbRegistry} {ids : List AtbId}
    (distinct : ids.Nodup) (present : ∀ id ∈ ids, (registry.sessions.lookup id).isSome = true) :
    Task.advances expiry now (2 * ids.length + 1) (registry, .evictRemove ids) =
      ({ registry with
        sessions := registry.sessions.filter fun entry => entry.1 ∉ ids
        liveCount := registry.liveCount - ids.length }, .evicted) := by
  induction ids generalizing registry with
  | nil => simp [Task.advances, Task.advance]
  | cons id rest ih =>
    obtain ⟨absent, distinct⟩ := List.nodup_cons.mp distinct
    obtain ⟨here, later⟩ := List.forall_mem_cons.mp present
    have twice : ∀ steps, Task.advances expiry now (steps + 2) (registry, .evictRemove (id :: rest)) =
        Task.advances expiry now steps
          (⟨registry.remove id, registry.maxSessions, registry.liveCount - 1⟩, .evictRemove rest) := by
      intro steps
      simp only [Task.advances, Task.advance, here, if_true]
    have still : ∀ other ∈ rest, ((registry.remove id).lookup other).isSome = true := by
      intro other member
      have apart : other ≠ id := fun same => absent (same ▸ member)
      rw [AtbRegistry.remove_eq, Assoc.lookup_without_of_ne _ apart]
      exact later other member
    rw [show 2 * (id :: rest).length + 1 = 2 * rest.length + 1 + 2 from rfl, twice, ih distinct still]
    simp [AtbRegistry.remove, List.filter_filter, Nat.sub_sub, Nat.add_comm, Bool.and_comm]

theorem evictExpired_eq {registry : AtbRegistry} (alive : Nat → Bool)
    (keys : (registry.sessions.map Prod.fst).Nodup) :
    registry.evictExpired alive = { registry with
      sessions := registry.sessions.filter fun entry => entry.1 ∉ registry.expired alive
      liveCount := registry.liveCount - (registry.expired alive).length } := by
  have kept : registry.sessions.filter (fun entry => entry.1 ∉ registry.expired alive) =
      registry.sessions.filter fun entry => alive entry.2 := by
    refine List.filter_congr fun entry member => ?_
    have listed : entry.1 ∈ registry.expired alive ↔ alive entry.2 = false := by
      constructor
      · intro collected
        obtain ⟨other, inside, same⟩ := List.mem_map.mp collected
        obtain ⟨stored, dead⟩ := List.mem_filter.mp inside
        have found := Assoc.lookup_of_mem keys stored
        rw [same, Assoc.lookup_of_mem keys member] at found
        rw [Option.some.inj found]
        simpa using dead
      · intro dead
        exact List.mem_map.mpr ⟨entry, List.mem_filter.mpr ⟨member, by simp [dead]⟩, rfl⟩
    simp [listed]
  have count := registry.sessions.length_eq_length_filter_add fun entry => alive entry.2
  have removed : registry.sessions.length -
      (registry.sessions.filter fun entry => alive entry.2).length =
        (registry.expired alive).length := by
    rw [AtbRegistry.expired, List.length_map]
    omega
  rw [AtbRegistry.evictExpired, kept, removed]

theorem run_undisturbed (shared : SharedRegistry) (call : RegistryCall)
    (keys : (shared.registry.sessions.map Prod.fst).Nodup) :
    run (step expiry) shared (shared.undisturbed expiry call) =
      { shared with
        registry := (call.atomic (shared.alive expiry) shared.registry).1
        tasks := shared.tasks ++ [(call.atomic (shared.alive expiry) shared.registry).2] } := by
  cases call with
  | insert id handle =>
    refine (run_alone expiry shared (.insert id handle) 4).trans ?_
    by_cases room : shared.registry.liveCount < shared.registry.maxSessions <;>
      simp only [RegistryCall.task, RegistryCall.atomic, Task.advances, Task.advance,
        AtbRegistry.insert, room, if_true, if_false]
    rfl
  | get id =>
    refine (run_alone expiry shared (.get id) 4).trans ?_
    cases found : shared.registry.sessions.lookup id with
    | none =>
      simp [RegistryCall.task, RegistryCall.atomic, Task.advances, Task.advance, AtbRegistry.get, found]
    | some handle =>
      by_cases alive : shared.now < expiry handle <;>
        simp [RegistryCall.task, RegistryCall.atomic, Task.advances, Task.advance, AtbRegistry.get,
          found, SharedRegistry.alive, alive]
  | evictExpired =>
    have stored : ∀ entry ∈ shared.registry.sessions,
        shared.registry.sessions.lookup entry.1 = some entry.2 :=
      fun entry member => Assoc.lookup_of_mem keys member
    have present : ∀ id ∈ shared.registry.expired (shared.alive expiry),
        (shared.registry.sessions.lookup id).isSome = true := by
      intro id member
      obtain ⟨entry, inside, rfl⟩ := List.mem_map.mp member
      rw [stored entry (List.mem_of_mem_filter inside)]
      rfl
    have distinct : (shared.registry.expired (shared.alive expiry)).Nodup :=
      keys.sublist (List.filter_sublist.map Prod.fst)
    have swept : Task.advances expiry shared.now
        (2 * (shared.registry.expired (shared.alive expiry)).length + 2)
          (shared.registry, .evictCollect ([] ++ shared.registry.expired (shared.alive expiry))) = _ :=
      advances_evictRemove shared.now distinct present
    have collected := run_observes expiry shared shared.registry.sessions [] stored
    rw [undisturbed, List.cons_append, run_cons, run_append]
    refine (congrArg (run (step expiry) · _) collected).trans ((run_advances ..).trans ?_)
    rw [RegistryCall.atomic, evictExpired_eq _ keys]
    exact congrArg (fun moved : AtbRegistry × Task =>
      (⟨moved.1, shared.now, shared.tasks ++ [moved.2]⟩ : SharedRegistry)) swept

/-- **Undisturbed calls.** In every state that an interleaving can reach, a call that nothing disturbs
leaves what the call in one piece leaves, and answers what it answers. -/
theorem undisturbed_call_atomic (expiry : Nat → Nat) (maxSessions now : Nat)
    (events : List RegistryEvent) (call : RegistryCall) :
    let shared := run (step expiry) (start maxSessions now) events
    run (step expiry) shared (shared.undisturbed expiry call) =
      { shared with
        registry := (call.atomic (shared.alive expiry) shared.registry).1
        tasks := shared.tasks ++ [(call.atomic (shared.alive expiry) shared.registry).2] } :=
  run_undisturbed _ call (run_invariant (Sound maxSessions) (step_sound expiry)
    (start_sound maxSessions now) events).keys

end SharedRegistry

end OpenHttpa.Server
