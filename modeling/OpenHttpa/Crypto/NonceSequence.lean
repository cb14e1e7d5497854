import Mathlib.Logic.Function.Basic
import OpenHttpa.Crypto.Aead
import OpenHttpa.Lib.Counters
import OpenHttpa.Lib.Run

/-!
# Nonces counted in a file

`FileNonceSequence` of `openhttpa-crypto/src/aead.rs`: any number of objects in any processes count
their nonces in one file. The calls of all processes take their steps in any order; a process may end
between any two of them, and the system may fail any of the operations on the file. What keeps the
nonces apart is that a counter is read and written under the lock of the file and is in the file before
it is returned.
-/
namespace OpenHttpa.Crypto

namespace FileNonceSequence

variable (file : Bytes)

/-- `FileNonceSequence::read_counter`; a file of fewer than eight bytes counts from one. -/
def readCounter : UInt64 := if file.length < 8 then 1 else u64OfBe (file.take 8)

/-- `FileNonceSequence::write_counter`: the first eight bytes of the file. -/
def writeCounter (counter : UInt64) : Bytes := u64Be counter ++ file.drop 8

@[simp]
theorem readCounter_writeCounter (counter : UInt64) :
    readCounter (writeCounter file counter) = counter := by
  have eight := u64Be_length counter
  have long : ¬ (writeCounter file counter).length < 8 := by
    rw [writeCounter, List.length_append]
    omega
  rw [readCounter, if_neg long, writeCounter, List.take_left' eight, u64OfBe_u64Be]

/-- How far a call has come. -/
inductive Phase where
  | called
  | opened
  | locked
  | read (count : UInt64)
  | written (count : UInt64)
  | released (count : UInt64)
  | returned (count : UInt64)
  | failed (error : BoundAeadKey.Error)
  | lost

namespace Phase

def guarded : Phase → Bool
  | opened | locked | read _ | written _ | released _ => true
  | _ => false

def locks : Phase → Bool
  | locked | read _ | written _ => true
  | _ => false

def taken : Phase → Option UInt64
  | written count | released count | returned count => some count
  | _ => none

def ended : Phase → Bool
  | returned _ | failed _ | lost => true
  | _ => false

end Phase

structure Call where
  process : Nat
  object : Nat
  iv : Octets 12
  phase : Phase

/-- The file, the objects on it, each with its process while it is open, and all calls ever made. A
file that does not exist is created empty when it is opened. -/
structure World where
  file : Bytes
  objects : List (Option Nat)
  calls : List Call

inductive Event where
  | new (process : Nat)
  | close (object : Nat)
  | crash (process : Nat)
  | call (object : Nat) (iv : Octets 12)
  | step (index : Nat)
  /-- The operation of a call on the file fails; a write may have reached the file all the same. -/
  | fail (index : Nat) (reason : String) (wrote : Bool)

namespace World

def start : World := ⟨file, [], []⟩

variable (world : World)

def counter : UInt64 := readCounter world.file

def phases (index : Nat) : Option Phase := (world.calls[index]?).map (·.phase)

def put (index : Nat) (phase : Phase) : World :=
  { world with calls := world.calls.modify index fun call => { call with phase } }

def mutexFree (object : Nat) : Bool :=
  world.calls.all fun call => ¬ (call.object = object ∧ call.phase.guarded)

def lockFree : Bool := world.calls.all fun call => ¬ call.phase.locks

def advance (index : Nat) (call : Call) : World :=
  match call.phase with
  | .called => if world.mutexFree call.object then world.put index .opened else world
  | .opened => if world.lockFree then world.put index .locked else world
  | .locked =>
    if world.counter = u64Max then world.put index (.failed .NonceOverflow)
    else world.put index (.read world.counter)
  | .read count =>
    { world.put index (.written count) with file := writeCounter world.file (count + 1) }
  | .written count => world.put index (.released count)
  | .released count => world.put index (.returned count)
  | .returned _ | .failed _ | .lost => world

def failing (index : Nat) (call : Call) (reason : String) (wrote : Bool) : World :=
  match call.phase with
  | .called =>
    if world.mutexFree call.object then world.put index (.failed (.IoError reason)) else world
  | .opened => world.put index (.failed (.IoError ("lock failed: " ++ reason)))
  | .locked => world.put index (.failed (.IoError ("read failed: " ++ reason)))
  | .read count =>
    let failed := world.put index (.failed (.IoError ("write failed: " ++ reason)))
    if wrote then { failed with file := writeCounter world.file (count + 1) } else failed
  | .written _ | .released _ | .returned _ | .failed _ | .lost => world

def crashed (process : Nat) (call : Call) : Call :=
  if call.process = process ∧ call.phase.ended = false then { call with phase := .lost } else call

def step (world : World) : Event → World
  | .new process => { world with objects := world.objects ++ [some process] }
  | .close object => { world with objects := world.objects.set object none }
  | .crash process =>
    { world with
      objects := world.objects.map fun owner => if owner = some process then none else owner
      calls := world.calls.map (crashed process) }
  | .call object iv =>
    match world.objects[object]? with
    | some (some process) => { world with calls := world.calls ++ [⟨process, object, iv, .called⟩] }
    | _ => world
  | .step index =>
    match world.calls[index]? with
    | none => world
    | some call => world.advance index call
  | .fail index reason wrote =>
    match world.calls[index]? with
    | none => world
    | some call => world.failing index call reason wrote

/-- The nonces returned for an IV. -/
def nonces (iv : Octets 12) : List AeadNonce :=
  world.calls.filterMap fun call =>
    match call.phase with
    | .returned count => if call.iv = iv then some (counterNonce call.iv count) else none
    | _ => none

end World

/-- The lock is held once, a count that was read is still in the file, and the counts that calls have
taken are distinct and behind the counter. -/
structure Sound (counter : UInt64) (phases : Nat → Option Phase) : Prop where
  alone : ∀ {first second : Nat} {one two : Phase}, phases first = some one → phases second = some two →
    one.locks = true → two.locks = true → first = second
  current : ∀ {index : Nat} {count : UInt64}, phases index = some (.read count) →
    count = counter ∧ count ≠ u64Max
  behind : ∀ {index : Nat} {phase : Phase} {count : UInt64}, phases index = some phase →
    phase.taken = some count → count < counter
  once : ∀ {first second : Nat} {one two : Phase} {count : UInt64}, phases first = some one →
    phases second = some two → one.taken = some count → two.taken = some count → first = second

namespace Sound

variable {counter : UInt64} {phases : Nat → Option Phase}

theorem mono (sound : Sound counter phases) {after : Nat → Option Phase}
    (fewer : ∀ index phase, after index = some phase → phase = .lost ∨ phases index = some phase) :
    Sound counter after where
  alone {first second one two} found foundToo locks locksToo := by
    rcases fewer first one found with rfl | before
    · cases locks
    · rcases fewer second two foundToo with rfl | beforeToo
      · cases locksToo
      · exact sound.alone before beforeToo locks locksToo
  current {index count} found := by
    rcases fewer index _ found with gone | before
    · cases gone
    · exact sound.current before
  behind {index phase count} found took := by
    rcases fewer index phase found with rfl | before
    · cases took
    · exact sound.behind before took
  once {first second one two count} found foundToo took tookToo := by
    rcases fewer first one found with rfl | before
    · cases took
    · rcases fewer second two foundToo with rfl | beforeToo
      · cases tookToo
      · exact sound.once before beforeToo took tookToo

theorem only_update {has : Phase → Prop} {index : Nat} {phase : Phase}
    (only : ∀ {first second : Nat} {one two : Phase}, phases first = some one →
      phases second = some two → has one → has two → first = second)
    (others : has phase → ∀ other before, other ≠ index → phases other = some before → ¬ has before)
    {first second : Nat} {one two : Phase}
    (found : Function.update phases index (some phase) first = some one)
    (foundToo : Function.update phases index (some phase) second = some two) (hasOne : has one)
    (hasTwo : has two) : first = second := by
  by_cases isFirst : first = index
  · by_cases isSecond : second = index
    · exact isFirst.trans isSecond.symm
    · subst isFirst
      rw [Function.update_self] at found
      rw [Function.update_of_ne isSecond] at foundToo
      cases found
      exact absurd hasTwo (others hasOne second two isSecond foundToo)
  · rw [Function.update_of_ne isFirst] at found
    by_cases isSecond : second = index
    · subst isSecond
      rw [Function.update_self] at foundToo
      cases foundToo
      exact absurd hasOne (others hasTwo first one isFirst found)
    · rw [Function.update_of_ne isSecond] at foundToo
      exact only found foundToo hasOne hasTwo

theorem move (sound : Sound counter phases) {index : Nat} {phase : Phase} {next : UInt64}
    (grows : counter ≤ next)
    (alone : phase.locks = true ∨ next ≠ counter →
      ∀ other before, other ≠ index → phases other = some before → before.locks = false)
    (current : ∀ count, phase = .read count → count = next ∧ count ≠ u64Max)
    (behind : ∀ count, phase.taken = some count → count < next)
    (once : ∀ count, phase.taken = some count → ∀ other before, other ≠ index →
      phases other = some before → before.taken ≠ some count) :
    Sound next (Function.update phases index (some phase)) where
  alone := by
    refine only_update sound.alone ?_
    intro locks other before different found
    rw [alone (.inl locks) other before different found]
    exact Bool.false_ne_true
  current {other count} found := by
    by_cases same : other = index
    · subst same
      rw [Function.update_self] at found
      cases found
      exact current count rfl
    · rw [Function.update_of_ne same] at found
      by_cases moved : next = counter
      · exact moved ▸ sound.current found
      · cases alone (.inr moved) other _ same found
  behind {other before count} found took := by
    by_cases same : other = index
    · subst same
      rw [Function.update_self] at found
      cases found
      exact behind count took
    · rw [Function.update_of_ne same] at found
      exact UInt64.lt_of_lt_of_le (sound.behind found took) grows
  once {_ _ _ _ count} found foundToo took tookToo :=
    only_update (fun one two => sound.once one two) (once count) found foundToo took tookToo

theorem settle (sound : Sound counter phases) {index : Nat} {before phase : Phase}
    (held : phases index = some before) (unlocked : phase.locks = true → before.locks = true)
    (notReading : ∀ count, phase ≠ .read count)
    (kept : phase.taken = none ∨ phase.taken = before.taken) :
    Sound counter (Function.update phases index (some phase)) := by
  have took : ∀ count, phase.taken = some count → before.taken = some count := by
    intro count taken
    rcases kept with none | same
    · rw [none] at taken
      cases taken
    · exact same ▸ taken
  refine sound.move (UInt64.le_refl _) ?_ (fun count reading => absurd reading (notReading count))
    (fun count taken => sound.behind held (took count taken)) ?_
  · rintro (locks | moved) other second different found
    · by_contra also
      exact different (sound.alone found held (by simpa using also) (unlocked locks))
    · exact absurd rfl moved
  · intro count taken other second different found tookToo
    exact different (sound.once found held tookToo (took count taken))

end Sound

namespace World

variable {world : World} {index : Nat} {call : Call}

theorem phases_of_call (held : world.calls[index]? = some call) :
    world.phases index = some call.phase := by
  rw [phases, held]
  rfl

theorem phases_put (held : world.calls[index]? = some call) (phase : Phase) :
    (world.put index phase).phases = Function.update world.phases index (some phase) := by
  funext other
  by_cases same : other = index
  · subst same
    simp [phases, put, held]
  · rw [Function.update_of_ne same]
    simp [phases, put, Ne.symm same]

theorem phases_append (world : World) (call : Call) :
    ({ world with calls := world.calls ++ [call] } : World).phases =
      Function.update world.phases world.calls.length (some call.phase) := by
  funext other
  rw [phases, getElem?_append_singleton]
  by_cases last : other = world.calls.length
  · rw [if_pos last, last, Function.update_self]
    rfl
  · rw [if_neg last, Function.update_of_ne last]
    rfl

theorem locks_of_lockFree (free : world.lockFree = true) {other : Nat} {phase : Phase}
    (found : world.phases other = some phase) : phase.locks = false := by
  obtain ⟨call, held, rfl⟩ := Option.map_eq_some_iff.mp found
  have member := List.mem_of_getElem? held
  simpa using List.all_eq_true.mp free call member

variable (sound : Sound world.counter world.phases)
include sound

theorem sound_write
    (held : world.calls[index]? = some call) {count : UInt64} (stage : call.phase = .read count)
    {phase : Phase} (notReading : ∀ other, phase ≠ .read other)
    (takes : ∀ other, phase.taken = some other → other = count) :
    Sound ({ world.put index phase with file := writeCounter world.file (count + 1) } : World).counter
      ({ world.put index phase with file := writeCounter world.file (count + 1) } : World).phases := by
  have stands := phases_of_call held
  obtain ⟨current, below⟩ := sound.current (stage ▸ stands)
  have next : (count + 1).toNat = count.toNat + 1 := toNat_succ below
  have grows : count < count + 1 := by
    rw [UInt64.lt_iff_toNat_lt]
    omega
  have wrote : ({ world.put index phase with
      file := writeCounter world.file (count + 1) } : World).counter = count + 1 :=
    readCounter_writeCounter _ _
  have moved : ({ world.put index phase with
      file := writeCounter world.file (count + 1) } : World).phases =
      Function.update world.phases index (some phase) := phases_put held _
  rw [wrote, moved]
  refine sound.move (current ▸ UInt64.le_of_lt grows) ?_
    (fun other reading => absurd reading (notReading other)) ?_ ?_
  · intro _ other before different found
    by_contra also
    exact different (sound.alone found stands (by simpa using also) (by rw [stage]; rfl))
  · intro other taken
    exact takes other taken ▸ grows
  · intro other taken second before different found took
    obtain rfl := takes other taken
    exact absurd (sound.behind found took) (current ▸ UInt64.lt_irrefl _)

theorem sound_advance (held : world.calls[index]? = some call) :
    Sound (world.advance index call).counter (world.advance index call).phases := by
  have stands := phases_of_call held
  have settled : ∀ phase : Phase, (phase.locks = true → call.phase.locks = true) →
      (∀ count, phase ≠ .read count) → (phase.taken = none ∨ phase.taken = call.phase.taken) →
      Sound (world.put index phase).counter (world.put index phase).phases := by
    intro phase unlocked notReading kept
    rw [phases_put held]
    exact sound.settle stands unlocked notReading kept
  unfold advance
  cases stage : call.phase with
  | called =>
    dsimp only
    split
    · exact settled .opened (by simp [Phase.locks]) (by simp) (.inl rfl)
    · exact sound
  | opened =>
    dsimp only
    split
    · rename_i free
      rw [phases_put held]
      exact sound.move (UInt64.le_refl _) (fun _ other before _ found => locks_of_lockFree free found)
        (by simp) (by simp [Phase.taken]) (by simp [Phase.taken])
    · exact sound
  | locked =>
    dsimp only
    split
    · exact settled (.failed .NonceOverflow) (by simp [Phase.locks]) (by simp) (.inl rfl)
    · rename_i below
      rw [phases_put held]
      -- The counter is read under the lock, so the number read stays the one in the file.
      refine sound.move (UInt64.le_refl _) ?_ ?_ (by simp [Phase.taken]) (by simp [Phase.taken])
      · intro _ other before different found
        by_contra also
        exact different (sound.alone found stands (by simpa using also) (by rw [stage]; rfl))
      · rintro count ⟨⟩
        exact ⟨rfl, below⟩
  | read count =>
    refine sound_write sound held stage (by simp) ?_
    rintro taken ⟨⟩
    rfl
  | written count =>
    exact settled (.released count) (by simp [Phase.locks]) (by simp) (.inr (by rw [stage]; rfl))
  | released count =>
    exact settled (.returned count) (by simp [Phase.locks]) (by simp) (.inr (by rw [stage]; rfl))
  | returned | failed | lost => exact sound

theorem sound_failing (held : world.calls[index]? = some call) (reason : String) (wrote : Bool) :
    Sound (world.failing index call reason wrote).counter
      (world.failing index call reason wrote).phases := by
  have stands := phases_of_call held
  have settled : ∀ error, Sound (world.put index (.failed error)).counter
      (world.put index (.failed error)).phases := by
    intro error
    rw [phases_put held]
    exact sound.settle stands (by simp [Phase.locks]) (by simp) (.inl rfl)
  unfold failing
  cases stage : call.phase with
  | called =>
    dsimp only
    split
    · exact settled _
    · exact sound
  | opened | locked => exact settled _
  | read count =>
    dsimp only
    split
    · exact sound_write sound held stage (by simp) (by simp [Phase.taken])
    · exact settled _
  | written | released | returned | failed | lost => exact sound

theorem sound_step (event : Event) :
    Sound (world.step event).counter (world.step event).phases := by
  cases event with
  | new | close => exact sound
  | crash process =>
    refine sound.mono fun other phase found => ?_
    simp only [step, phases, List.getElem?_map, Option.map_map, Option.map_eq_some_iff] at found
    obtain ⟨call, held, rfl⟩ := found
    simp only [Function.comp_apply, crashed]
    split
    · exact .inl rfl
    · exact .inr (phases_of_call held)
  | call object iv =>
    simp only [step]
    split
    · rw [phases_append]
      refine sound.move (UInt64.le_refl _) ?_ (by simp) (by simp [Phase.taken]) (by simp [Phase.taken])
      rintro (locks | moved)
      · cases locks
      · exact absurd rfl moved
    · exact sound
  | step index =>
    simp only [step]
    split
    · exact sound
    · rename_i call held
      exact sound_advance sound held
  | fail index reason wrote =>
    simp only [step]
    split
    · exact sound
    · rename_i call held
      exact sound_failing sound held reason wrote

omit sound

theorem sound_start : Sound (start file).counter (start file).phases where
  alone found := by simp [start, phases] at found
  current found := by simp [start, phases] at found
  behind found := by simp [start, phases] at found
  once found := by simp [start, phases] at found

theorem run_sound (events : List Event) :
    Sound (run step (start file) events).counter (run step (start file) events).phases :=
  run_invariant (fun world : World => Sound world.counter world.phases)
    (fun _ event sound => sound_step sound event) (sound_start file) events

theorem nonces_nodup (sound : Sound world.counter world.phases) (iv : Octets 12) :
    (world.nonces iv).Nodup := by
  rw [nonces, List.Nodup, List.pairwise_filterMap, List.pairwise_iff_getElem]
  intro first second firstIn secondIn before nonce one nonceToo two same
  subst same
  have counted : ∀ {index : Nat} (inside : index < world.calls.length),
      (match world.calls[index].phase with
        | .returned count => if world.calls[index].iv = iv then
            some (counterNonce world.calls[index].iv count) else none
        | _ => none) = some nonce →
      ∃ count, world.phases index = some (.returned count) ∧ counterNonce iv count = nonce := by
    intro index inside found
    have held : world.calls[index]? = some world.calls[index] := List.getElem?_eq_getElem inside
    split at found
    · rename_i count stage
      split at found
      · rename_i given
        refine ⟨count, ?_, ?_⟩
        · rw [phases_of_call held, stage]
        · rw [given] at found
          exact Option.some.inj found
      · cases found
    · cases found
  obtain ⟨count, stands, made⟩ := counted firstIn one
  obtain ⟨countToo, standsToo, madeToo⟩ := counted secondIn two
  have equal : count = countToo := counterNonce_injective (made.trans madeToo.symm)
  subst equal
  have index := sound.once stands standsToo rfl rfl
  omega

/-- A call that has come to no nonce and cannot any more, now that the counter is at its end: it has
not read yet, or it is over; if over with an error of the system, an operation of it has failed. -/
def Exhausted (events : List Event) (index : Nat) : Phase → Prop
  | .called | .opened | .locked | .lost | .failed .NonceOverflow => True
  | .failed (.IoError _) => ∃ reason wrote, .fail index reason wrote ∈ events
  | _ => False

theorem Exhausted.append {events : List Event} {phase : Phase} (exhausted : Exhausted events index phase)
    (event : Event) : Exhausted (events ++ [event]) index phase := by
  unfold Exhausted at exhausted ⊢
  split
  · trivial
  · trivial
  · trivial
  · trivial
  · trivial
  · obtain ⟨reason, wrote, failed⟩ := exhausted
    exact ⟨reason, wrote, List.mem_append_left _ failed⟩
  · split at exhausted <;> simp_all

theorem counter_step (world : World) (event : Event) :
    (world.step event).counter = world.counter ∨
      ∃ index count, world.phases index = some (.read count) := by
  cases event with
  | step index =>
    simp only [step]
    split
    · exact .inl rfl
    · rename_i call held
      unfold advance
      cases stage : call.phase with
      | read count => exact .inr ⟨index, count, stage ▸ phases_of_call held⟩
      | called | opened | locked => dsimp only; split <;> exact .inl rfl
      | _ => exact .inl rfl
  | fail index reason wrote =>
    simp only [step]
    split
    · exact .inl rfl
    · rename_i call held
      unfold failing
      cases stage : call.phase with
      | read count => exact .inr ⟨index, count, stage ▸ phases_of_call held⟩
      | called => dsimp only; split <;> exact .inl rfl
      | _ => exact .inl rfl
  | call object iv =>
    simp only [step]
    split <;> exact .inl rfl
  | _ => exact .inl rfl

theorem full_step (sound : Sound world.counter world.phases) (full : world.counter = u64Max)
    (event : Event) : (world.step event).counter = u64Max := by
  rcases counter_step world event with same | ⟨index, count, reading⟩
  · exact same.trans full
  · obtain ⟨current, below⟩ := sound.current reading
    exact absurd (current.trans full) below

section Exhaustion

variable {events : List Event} {other : Nat} {phase : Phase}

theorem exhausted_put {next : Phase}
    (kept : ∀ phase, world.phases index = some phase → Exhausted events index phase)
    (held : world.calls[other]? = some call)
    (found : (world.put other next).phases index = some phase)
    (fine : other = index → Exhausted events index next) : Exhausted events index phase := by
  rw [phases_put held] at found
  by_cases same : index = other
  · subst same
    rw [Function.update_self] at found
    exact Option.some.inj found ▸ fine rfl
  · rw [Function.update_of_ne same] at found
    exact kept phase found

theorem exhausted_advance (full : world.counter = u64Max)
    (kept : ∀ phase, world.phases index = some phase → Exhausted events index phase)
    (held : world.calls[other]? = some call)
    (found : (world.advance other call).phases index = some phase) :
    Exhausted events index phase := by
  have own : other = index → Exhausted events index call.phase :=
    fun same => kept _ (same ▸ phases_of_call held)
  unfold advance at found
  cases stage : call.phase with
  | called | opened =>
    rw [stage] at found
    dsimp only at found
    split at found
    · exact exhausted_put kept held found fun _ => trivial
    · exact kept phase found
  | locked =>
    rw [stage] at found
    simp only [full, if_true] at found
    exact exhausted_put kept held found fun _ => trivial
  | read count =>
    rw [stage] at found own
    have moved : (world.put other (.written count)).phases index = some phase := found
    exact exhausted_put kept held moved fun same => absurd (own same) id
  | written | released =>
    rw [stage] at found own
    exact exhausted_put kept held found fun same => absurd (own same) id
  | returned | failed | lost => exact kept phase (by rwa [stage] at found)

theorem exhausted_failing {reason : String} {wrote : Bool}
    (kept : ∀ phase, world.phases index = some phase → Exhausted events index phase)
    (held : world.calls[other]? = some call) (reported : .fail other reason wrote ∈ events)
    (found : (world.failing other call reason wrote).phases index = some phase) :
    Exhausted events index phase := by
  have ended : ∀ text, (world.put other (.failed (.IoError text))).phases index = some phase →
      Exhausted events index phase := by
    intro text moved
    refine exhausted_put kept held moved ?_
    rintro rfl
    exact ⟨reason, wrote, reported⟩
  unfold failing at found
  cases stage : call.phase with
  | called =>
    rw [stage] at found
    dsimp only at found
    split at found
    · exact ended _ found
    · exact kept phase found
  | opened | locked => exact ended _ (by rwa [stage] at found)
  | read count =>
    rw [stage] at found
    dsimp only at found
    split at found
    · exact ended _ found
    · exact ended _ found
  | written | released | returned | failed | lost => exact kept phase (by rwa [stage] at found)

theorem exhausted_step (full : world.counter = u64Max)
    (before : ∀ phase, world.phases index = some phase → Exhausted events index phase)
    (event : Event) (found : (world.step event).phases index = some phase) :
    Exhausted (events ++ [event]) index phase := by
  have kept : ∀ phase, world.phases index = some phase → Exhausted (events ++ [event]) index phase :=
    fun phase same => (before phase same).append event
  cases event with
  | new | close => exact kept phase found
  | crash process =>
    simp only [step, phases, List.getElem?_map, Option.map_map, Option.map_eq_some_iff] at found
    obtain ⟨call, held, rfl⟩ := found
    simp only [Function.comp_apply, crashed]
    split
    · trivial
    · exact kept _ (phases_of_call held)
  | call object iv =>
    simp only [step] at found
    split at found
    · rw [phases_append] at found
      by_cases same : index = world.calls.length
      · subst same
        rw [Function.update_self] at found
        exact Option.some.inj found ▸ trivial
      · rw [Function.update_of_ne same] at found
        exact kept phase found
    · exact kept phase found
  | step other =>
    simp only [step] at found
    split at found
    · exact kept phase found
    · rename_i call held
      exact exhausted_advance full kept held found
  | fail other reason wrote =>
    simp only [step] at found
    split at found
    · exact kept phase found
    · rename_i call held
      exact exhausted_failing kept held (List.mem_append_right _ List.mem_cons_self) found

end Exhaustion

theorem run_exhausted (sound : Sound world.counter world.phases) (full : world.counter = u64Max)
    (later : List Event) :
    Sound (run step world later).counter (run step world later).phases ∧
      (run step world later).counter = u64Max ∧
      ∀ index phase, world.calls.length ≤ index → (run step world later).phases index = some phase →
        Exhausted later index phase := by
  induction later using List.reverseRecOn with
  | nil =>
    refine ⟨sound, full, fun index phase beyond found => ?_⟩
    rw [run_nil, phases, List.getElem?_eq_none beyond] at found
    cases found
  | append_singleton later event ih =>
    obtain ⟨soundThen, fullThen, exhausted⟩ := ih
    rw [run_append]
    exact ⟨sound_step soundThen event, full_step soundThen fullThen event,
      fun index phase beyond found =>
        exhausted_step fullThen (fun before => exhausted index before beyond) event found⟩

theorem put_last (objects : List (Option Nat)) (calls : List Call) (call : Call) (phase : Phase) :
    put ⟨file, objects, calls ++ [call]⟩ calls.length phase =
      ⟨file, objects, calls ++ [{ call with phase }]⟩ := by
  have last : ∀ before : List Call, ((before ++ [call]).modify before.length fun call =>
      { call with phase }) = before ++ [{ call with phase }] := by
    intro before
    induction before with
    | nil => rfl
    | cons first rest ih => simpa using ih
  simp only [put, last]

theorem next_overflows (full : world.counter = u64Max) {object process : Nat}
    (held : world.objects[object]? = some (some process)) (mutex : world.mutexFree object = true)
    (lock : world.lockFree = true) (iv : Octets 12) :
    (run step world (.call object iv :: List.replicate 3 (.step world.calls.length))).phases
      world.calls.length = some (.failed .NonceOverflow) := by
  obtain ⟨file, objects, calls⟩ := world
  have last : ∀ phase, (calls ++ [⟨process, object, iv, phase⟩])[calls.length]? =
      some ⟨process, object, iv, phase⟩ := by simp
  have called : step ⟨file, objects, calls⟩ (.call object iv) =
      ⟨file, objects, calls ++ [⟨process, object, iv, .called⟩]⟩ := by simp [step, held]
  have opened : step ⟨file, objects, calls ++ [⟨process, object, iv, .called⟩]⟩ (.step calls.length) =
      ⟨file, objects, calls ++ [⟨process, object, iv, .opened⟩]⟩ := by
    have free : mutexFree ⟨file, objects, calls ++ [⟨process, object, iv, .called⟩]⟩ object = true := by
      simpa [mutexFree, Phase.guarded] using mutex
    simp only [step, last, advance, free, if_true, put_last]
  have locked : step ⟨file, objects, calls ++ [⟨process, object, iv, .opened⟩]⟩ (.step calls.length) =
      ⟨file, objects, calls ++ [⟨process, object, iv, .locked⟩]⟩ := by
    have free : lockFree ⟨file, objects, calls ++ [⟨process, object, iv, .opened⟩]⟩ = true := by
      simpa [lockFree, Phase.locks] using lock
    simp only [step, last, advance, free, if_true, put_last]
  have failed : step ⟨file, objects, calls ++ [⟨process, object, iv, .locked⟩]⟩ (.step calls.length) =
      ⟨file, objects, calls ++ [⟨process, object, iv, .failed .NonceOverflow⟩]⟩ := by
    have spent : counter ⟨file, objects, calls ++ [⟨process, object, iv, .locked⟩]⟩ = u64Max := full
    simp only [step, last, advance, spent, if_true, put_last]
  simp only [List.replicate, run_cons, run_nil, called, opened, locked, failed, phases, last,
    Option.map_some]

/-- Whatever the file holds at first, and whatever the processes do: the nonces returned for one IV
are distinct; and once the counter in the file is at its end, a call made later on any object returns
the overflow, unless an operation of it on the file has failed or its process has ended; one that
finds the locks free is over after three steps. -/
theorem file_nonces_distinct (file : Bytes) (events : List Event) :
    (∀ iv, ((run step (start file) events).nonces iv).Nodup) ∧
      ((run step (start file) events).counter = u64Max → ∀ later : List Event,
        (∀ index phase, (run step (start file) events).calls.length ≤ index →
          (run step (start file) (events ++ later)).phases index = some phase → phase.ended = true →
            phase = .failed .NonceOverflow ∨ phase = .lost ∨
              ∃ text reason wrote, phase = .failed (.IoError text) ∧ .fail index reason wrote ∈ later) ∧
        ∀ object process iv,
          (run step (start file) (events ++ later)).objects[object]? = some (some process) →
          (run step (start file) (events ++ later)).mutexFree object = true →
          (run step (start file) (events ++ later)).lockFree = true →
          (run step (run step (start file) (events ++ later)) (.call object iv :: List.replicate 3
            (.step (run step (start file) (events ++ later)).calls.length))).phases
              (run step (start file) (events ++ later)).calls.length =
            some (.failed .NonceOverflow)) := by
  have sound := run_sound file events
  refine ⟨nonces_nodup sound, fun full later => ?_⟩
  obtain ⟨-, fullThen, exhausted⟩ := run_exhausted sound full later
  rw [run_append]
  refine ⟨fun index phase beyond found ended => ?_, fun object process iv held mutex lock =>
    next_overflows fullThen held mutex lock iv⟩
  have none := exhausted index phase beyond found
  cases phase with
  | failed error =>
    cases error with
    | NonceOverflow => exact .inl rfl
    | SealFailed => exact absurd none id
    | IoError text =>
      obtain ⟨reason, wrote, failed⟩ := none
      exact .inr (.inr ⟨text, reason, wrote, rfl, failed⟩)
  | lost => exact .inr (.inl rfl)
  | returned count => exact absurd none id
  | _ => cases ended

/-- A process that ends between its write and its return loses its count; the next one goes on. -/
example : (run step (start []) ([.new 0, .new 1, .call 0 (.zero 12), .call 1 (.zero 12)] ++
    List.replicate 4 (.step 0) ++ [.crash 0] ++ List.replicate 6 (.step 1))).nonces (.zero 12) =
      [counterNonce (.zero 12) 2] := by
  decide +kernel

end World

end FileNonceSequence

end OpenHttpa.Crypto
