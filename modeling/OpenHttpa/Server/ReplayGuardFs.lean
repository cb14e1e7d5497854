import OpenHttpa.Core.Postcard
import OpenHttpa.Lib.Counters

/-!
# The replay guard on disk

`FileReplayGuard` of `openhttpa-server/src/replay_guard_fs.rs`. An accepted nonce is marked in
memory, the state is exported, and the file is replaced by renaming. Threads that share a guard are
a machine whose events are the single steps, and a crash leaves the file. A state that was exported
early and is renamed late puts the file back, so a nonce whose call has returned is still refused
after a restart exactly when every state that reached the file refused all the nonces that had been
returned before (`restart_refuses_iff`).
-/
namespace OpenHttpa.Server

open OpenHttpa.Core

structure ReplayState where
  highest : UInt64
  window : List UInt64
deriving DecidableEq

/-- `serde_json` for `ReplayState`. -/
structure StateCodec where
  render : ReplayState → Bytes
  parse : Bytes → Option ReplayState
  parse_render : ∀ state, parse (render state) = some state

namespace FileReplayGuard

variable {W : Nat}

/-- `ReplayGuard::export_state`, with the window as a vector. -/
def exportState (replayGuard : ReplayGuard W) : ReplayState :=
  ⟨replayGuard.highest, replayGuard.window.toList⟩

/-- `ReplayGuard::import_state` into a new guard, if the window has its size. -/
def importState (W : Nat) (state : ReplayState) : ReplayGuard W :=
  if fits : state.window.length = W then
    ⟨state.highest, ⟨state.window.toArray, List.size_toArray.trans fits⟩⟩
  else .new

/-- `FileReplayGuard::new` on the contents of the file; one that cannot be parsed counts as none. -/
def new (codec : StateCodec) (W : Nat) (file : Option Bytes) : ReplayGuard W :=
  match file.bind codec.parse with
  | none => .new
  | some state => importState W state

@[simp]
theorem importState_exportState (replayGuard : ReplayGuard W) :
    importState W (exportState replayGuard) = replayGuard := by
  unfold importState exportState
  rw [dif_pos (by simp)]
  rfl

@[simp]
theorem new_render (codec : StateCodec) (state : ReplayState) :
    new codec W (some (codec.render state)) = importState W state := by
  simp [new, codec.parse_render]

variable [NeZero W]

end FileReplayGuard

/-! ## Threads that share a guard -/

inductive FileCall where
  | called (nonce : UInt64)
  | marked (nonce : UInt64)
  | exported (nonce : UInt64) (state : ReplayState)
  | returned (nonce : UInt64) (ok : Bool)
deriving DecidableEq

/-- A process that keeps its guard in a file. -/
structure FileProcess (W : Nat) where
  replayGuard : ReplayGuard W
  file : Option Bytes
  /-- The calls of `accept`, in the order they began. -/
  calls : List FileCall

/-- One step of one thread; `io` says whether the file can be replaced. -/
inductive FileEvent where
  | call (nonce : UInt64)
  | mark (index : Nat)
  | exportState (index : Nat)
  | rename (index : Nat) (io : Bool)

namespace FileProcess

variable {W : Nat}

def start (codec : StateCodec) (W : Nat) (file : Option Bytes) : FileProcess W :=
  ⟨FileReplayGuard.new codec W file, file, []⟩

variable [NeZero W] (codec : StateCodec) (process : FileProcess W)

/-- The machine; a step that no thread is about to take does nothing. -/
def step : FileEvent → FileProcess W
  | .call nonce => { process with calls := process.calls ++ [.called nonce] }
  | .mark index =>
    match process.calls[index]? with
    | some (.called nonce) =>
      { process with
        replayGuard := process.replayGuard.accept nonce
        calls := process.calls.set index (.marked nonce) }
    | _ => process
  | .exportState index =>
    match process.calls[index]? with
    | some (.marked nonce) =>
      { process with
        calls := process.calls.set index
          (.exported nonce (FileReplayGuard.exportState process.replayGuard)) }
    | _ => process
  | .rename index io =>
    match process.calls[index]? with
    | some (.exported nonce state) =>
      { process with
        file := if io then some (codec.render state) else process.file
        calls := process.calls.set index (.returned nonce io) }
    | _ => process

inductive Taken (process : FileProcess W) : FileEvent → FileProcess W → Prop
  | called (nonce : UInt64) :
      Taken process (.call nonce) { process with calls := process.calls ++ [.called nonce] }
  | marked {index : Nat} {nonce : UInt64} (found : process.calls[index]? = some (.called nonce)) :
      Taken process (.mark index)
        { process with
          replayGuard := process.replayGuard.accept nonce
          calls := process.calls.set index (.marked nonce) }
  | exported {index : Nat} {nonce : UInt64} (found : process.calls[index]? = some (.marked nonce)) :
      Taken process (.exportState index)
        { process with
          calls := process.calls.set index
            (.exported nonce (FileReplayGuard.exportState process.replayGuard)) }
  /-- A call writes the state it holds, or fails to, and returns. -/
  | renamed {index : Nat} {nonce : UInt64} {state : ReplayState} (io : Bool)
      (found : process.calls[index]? = some (.exported nonce state)) :
      Taken process (.rename index io)
        { process with
          file := if io then some (codec.render state) else process.file
          calls := process.calls.set index (.returned nonce io) }
  | idle {event : FileEvent}
      (nothing : ∀ index io, event = .rename index io →
        ∀ nonce state, process.calls[index]? ≠ some (.exported nonce state)) :
      Taken process event process

theorem step_taken (event : FileEvent) : Taken codec process event (process.step codec event) := by
  cases event with
  | call nonce => exact .called nonce
  | mark index =>
    unfold step
    dsimp only
    split
    · next nonce found => exact .marked found
    · exact .idle nofun
  | exportState index =>
    unfold step
    dsimp only
    split
    · next nonce found => exact .exported found
    · exact .idle nofun
  | rename index io =>
    unfold step
    dsimp only
    split
    · next nonce state found => exact .renamed io found
    · next other =>
      refine .idle fun place flag same nonce state found => ?_
      cases same
      exact other nonce state found

/-- After a crash, a guard loaded from the file refuses every nonce whose call has returned. -/
def Recalls : Prop :=
  ∀ nonce, .returned nonce true ∈ process.calls →
    (FileReplayGuard.new codec W process.file).check nonce ≠ .ok ()

/-- The renamed file holds every accepted nonce. -/
def Covers : FileEvent → Prop
  | .rename index true =>
    ∀ nonce state, process.calls[index]? = some (.exported nonce state) →
      ∀ earlier, .returned earlier true ∈ process.calls →
        (FileReplayGuard.importState W state).check earlier ≠ .ok ()
  | _ => True

structure Marks (process : FileProcess W) : Prop where
  marked : ∀ nonce, .marked nonce ∈ process.calls → process.replayGuard.check nonce ≠ .ok ()
  /-- An exported state refuses the nonce of its call. -/
  exported : ∀ nonce state, .exported nonce state ∈ process.calls →
    (FileReplayGuard.importState W state).check nonce ≠ .ok ()

theorem start_marks (file : Option Bytes) : (start codec W file).Marks := ⟨nofun, nofun⟩

variable {process} {index : Nat} {nonce : UInt64}

theorem Marks.set (marks : process.Marks) {replayGuard : ReplayGuard W}
    {file : Option Bytes} {next : FileCall}
    (keeps : ∀ nonce, process.replayGuard.check nonce ≠ .ok () → replayGuard.check nonce ≠ .ok ())
    (marked : ∀ nonce, .marked nonce = next → replayGuard.check nonce ≠ .ok ())
    (exported : ∀ nonce state, .exported nonce state = next →
      (FileReplayGuard.importState W state).check nonce ≠ .ok ()) :
    (⟨replayGuard, file, process.calls.set index next⟩ : FileProcess W).Marks := by
  refine ⟨fun nonce member => ?_, fun nonce state member => ?_⟩
  · rcases List.mem_or_eq_of_mem_set member with before | now
    · exact keeps nonce (marks.marked nonce before)
    · exact marked nonce now
  · rcases List.mem_or_eq_of_mem_set member with before | now
    · exact marks.exported nonce state before
    · exact exported nonce state now

theorem Marks.step (marks : process.Marks) (event : FileEvent) :
    (process.step codec event).Marks := by
  have taken := process.step_taken codec event
  generalize process.step codec event = after at taken
  cases taken with
  | called nonce =>
    exact ⟨fun other member => marks.marked other (mem_of_mem_append member nofun),
      fun other state member => marks.exported other state (mem_of_mem_append member nofun)⟩
  | @marked index nonce found =>
    refine marks.set (fun other refused => ReplayGuard.accept_keeps_refusing refused nonce) ?_ nofun
    intro other same
    cases same
    exact process.replayGuard.accept_refuses nonce
  | @exported index nonce found =>
    refine marks.set (fun _ refused => refused) nofun ?_
    intro other state same
    cases same
    rw [FileReplayGuard.importState_exportState]
    exact marks.marked nonce (List.mem_of_getElem? found)
  | renamed io found => exact marks.set (fun _ refused => refused) nofun nofun
  | idle => exact marks

theorem Recalls.keep (recalls : process.Recalls codec)
    (replayGuard : ReplayGuard W) {calls : List FileCall}
    (same : ∀ nonce, .returned nonce true ∈ calls → .returned nonce true ∈ process.calls) :
    (⟨replayGuard, process.file, calls⟩ : FileProcess W).Recalls codec :=
  fun nonce member => recalls nonce (same nonce member)

theorem renamed_recalls_iff (marks : process.Marks) {state : ReplayState}
    (found : process.calls[index]? = some (.exported nonce state)) :
    (⟨process.replayGuard, some (codec.render state),
        process.calls.set index (.returned nonce true)⟩ : FileProcess W).Recalls codec ↔
      process.Covers (.rename index true) := by
  have own := marks.exported nonce state (List.mem_of_getElem? found)
  have returned : ∀ earlier, .returned earlier true ∈ process.calls.set index (.returned nonce true) ↔
      FileCall.returned earlier true = .returned nonce true ∨ .returned earlier true ∈ process.calls :=
    fun earlier => mem_set_iff found _ nofun
  unfold Recalls Covers
  simp only [FileReplayGuard.new_render]
  constructor
  · intro refuses other held now earlier member
    obtain ⟨rfl, rfl⟩ : nonce = other ∧ state = held := by
      simpa [found] using now
    exact refuses earlier ((returned earlier).mpr (.inr member))
  · intro covers other member
    rcases (returned other).mp member with now | before
    · cases now
      exact own
    · exact covers nonce state found other before

theorem step_recalls_iff (marks : process.Marks)
    (recalls : process.Recalls codec) (event : FileEvent) :
    (process.step codec event).Recalls codec ↔ process.Covers event := by
  have taken := process.step_taken codec event
  generalize process.step codec event = after at taken
  cases taken with
  | called nonce =>
    exact iff_of_true (recalls.keep codec _ fun _ member => mem_of_mem_append member nofun) trivial
  | marked | exported =>
    exact iff_of_true (recalls.keep codec _ fun _ member => mem_of_mem_set member nofun) trivial
  | renamed io found =>
    cases io with
    | false =>
      exact iff_of_true (recalls.keep codec _ fun _ member => mem_of_mem_set member nofun) trivial
    | true => exact renamed_recalls_iff codec marks found
  | idle nothing =>
    refine iff_of_true recalls ?_
    unfold Covers
    split
    · next index => exact fun nonce state found => absurd found (nothing index true rfl nonce state)
    · trivial

/-- A state is exported only while no other call holds one that it has not written yet. -/
def Exclusive (process : FileProcess W) : FileEvent → Prop
  | .exportState _ => ∀ nonce state, .exported nonce state ∉ process.calls
  | _ => True

structure Serial (process : FileProcess W) : Prop where
  marks : process.Marks
  /-- The guard in memory refuses what a call that has returned had marked. -/
  remembered : ∀ nonce, .returned nonce true ∈ process.calls →
    process.replayGuard.check nonce ≠ .ok ()
  /-- It refuses what a call that holds a state had marked. -/
  pending : ∀ nonce state, .exported nonce state ∈ process.calls →
    process.replayGuard.check nonce ≠ .ok ()
  alone : ∀ (first second : Nat) (one other : UInt64) (state held : ReplayState),
    process.calls[first]? = some (.exported one state) →
    process.calls[second]? = some (.exported other held) → first = second
  /-- That state refuses what every call that has returned had marked. -/
  fresh : ∀ nonce state, .exported nonce state ∈ process.calls →
    ∀ earlier, .returned earlier true ∈ process.calls →
      (FileReplayGuard.importState W state).check earlier ≠ .ok ()

variable (serial : process.Serial)
include serial

theorem Serial.called
    (marks : ({ process with calls := process.calls ++ [.called nonce] } : FileProcess W).Marks) :
    ({ process with calls := process.calls ++ [.called nonce] } : FileProcess W).Serial := by
  refine ⟨marks, ?_, ?_, ?_, ?_⟩
  · exact fun other member => serial.remembered other (mem_of_mem_append member nofun)
  · exact fun other state member => serial.pending other state (mem_of_mem_append member nofun)
  · intro first second one other state held firstFound secondFound
    have earlier : ∀ {place : Nat} {number : UInt64} {state : ReplayState},
        (process.calls ++ [.called nonce])[place]? = some (.exported number state) →
          process.calls[place]? = some (.exported number state) := by
      intro place other state found
      rw [getElem?_append_singleton] at found
      split at found
      · cases found
      · exact found
    exact serial.alone first second one other state held (earlier firstFound) (earlier secondFound)
  · intro other state member earlier returned
    exact serial.fresh other state (mem_of_mem_append member nofun) earlier
      (mem_of_mem_append returned nofun)

theorem Serial.marked (marks : (⟨process.replayGuard.accept nonce, process.file,
      process.calls.set index (.marked nonce)⟩ : FileProcess W).Marks) :
    (⟨process.replayGuard.accept nonce, process.file,
      process.calls.set index (.marked nonce)⟩ : FileProcess W).Serial := by
  refine ⟨marks, ?_, ?_, ?_, ?_⟩
  · intro other member
    exact ReplayGuard.accept_keeps_refusing
      (serial.remembered other (mem_of_mem_set member nofun)) nonce
  · intro other state member
    exact ReplayGuard.accept_keeps_refusing
      (serial.pending other state (mem_of_mem_set member nofun)) nonce
  · intro first second one other state held firstFound secondFound
    exact serial.alone first second one other state held (getElem?_of_getElem?_set firstFound nofun).1
      (getElem?_of_getElem?_set secondFound nofun).1
  · intro other state member earlier returned
    exact serial.fresh other state (mem_of_mem_set member nofun) earlier
      (mem_of_mem_set returned nofun)

theorem Serial.exported (found : process.calls[index]? = some (.marked nonce))
    (exclusive : ∀ other state, .exported other state ∉ process.calls) (marks : ({ process with
      calls := process.calls.set index
        (.exported nonce (FileReplayGuard.exportState process.replayGuard)) } : FileProcess W).Marks) :
    ({ process with
      calls := process.calls.set index
        (.exported nonce (FileReplayGuard.exportState process.replayGuard)) } :
          FileProcess W).Serial := by
  have only : ∀ {other : UInt64} {state : ReplayState},
      .exported other state ∈ process.calls.set index
        (.exported nonce (FileReplayGuard.exportState process.replayGuard)) →
      other = nonce ∧ state = FileReplayGuard.exportState process.replayGuard := by
    intro other state member
    rcases List.mem_or_eq_of_mem_set member with before | now
    · exact absurd before (exclusive other state)
    · exact FileCall.exported.inj now
  refine ⟨marks, ?_, ?_, ?_, ?_⟩
  · exact fun other member => serial.remembered other (mem_of_mem_set member nofun)
  · intro other state member
    rw [(only member).1]
    exact serial.marks.marked nonce (List.mem_of_getElem? found)
  · have place : ∀ {first : Nat} {one : UInt64} {state : ReplayState},
        (process.calls.set index (.exported nonce
          (FileReplayGuard.exportState process.replayGuard)))[first]? =
            some (.exported one state) → first = index := by
      intro first one state held
      by_contra apart
      rw [List.getElem?_set_ne fun same => apart same.symm] at held
      exact exclusive one state (List.mem_of_getElem? held)
    intro first second one other state held firstFound secondFound
    rw [place firstFound, place secondFound]
  · intro other state member earlier returned
    rw [(only member).2, FileReplayGuard.importState_exportState]
    exact serial.remembered earlier (mem_of_mem_set returned nofun)

theorem Serial.renamed {state : ReplayState} {file : Option Bytes} {io : Bool}
    (found : process.calls[index]? = some (.exported nonce state))
    (marks : (⟨process.replayGuard, file, process.calls.set index (.returned nonce io)⟩ :
      FileProcess W).Marks) :
    (⟨process.replayGuard, file, process.calls.set index (.returned nonce io)⟩ :
      FileProcess W).Serial := by
  -- The call that returns was the only one with a state.
  have gone : ∀ {other : UInt64} {held : ReplayState},
      .exported other held ∉ process.calls.set index (.returned nonce io) := by
    intro other held member
    obtain ⟨place, there⟩ := List.mem_iff_getElem?.mp member
    obtain ⟨before, apart⟩ := getElem?_of_getElem?_set there nofun
    exact apart (serial.alone place index other nonce held state before found)
  refine ⟨marks, ?_, ?_, ?_, ?_⟩
  · intro other member
    rcases List.mem_or_eq_of_mem_set member with before | now
    · exact serial.remembered other before
    · rw [(FileCall.returned.inj now).1]
      exact serial.pending nonce state (List.mem_of_getElem? found)
  · exact fun other held member => absurd member gone
  · intro first second one other state held firstFound
    exact absurd (List.mem_of_getElem? firstFound) gone
  · exact fun other held member => absurd member gone

theorem Serial.step {event : FileEvent}
    (exclusive : process.Exclusive event) : (process.step codec event).Serial := by
  have marks := serial.marks.step codec event
  have taken := process.step_taken codec event
  generalize process.step codec event = after at marks taken
  cases taken with
  | called nonce => exact serial.called marks
  | marked found => exact serial.marked marks
  | exported found => exact serial.exported found exclusive marks
  | renamed io found => exact serial.renamed found marks
  | idle => exact serial

theorem Serial.covers (event : FileEvent) : process.Covers event := by
  cases event with
  | rename index io =>
    cases io with
    | false => trivial
    | true => exact fun nonce state found => serial.fresh nonce state (List.mem_of_getElem? found)
  | call | mark | exportState => trivial

theorem covers_of_exclusive {events : List FileEvent}
    (exclusive : Along (step codec) Exclusive process events) :
    Along (step codec) Covers process events := by
  induction events generalizing process with
  | nil => trivial
  | cons event rest ih =>
    exact ⟨serial.covers event, ih (serial.step codec exclusive.1) exclusive.2⟩

omit serial

/-- Whatever the file held before, in every interleaving of the steps of any calls: a crash after any
part of it leaves a file from which every nonce whose call had returned is refused, exactly when every
state that reached the file refused all the nonces returned before. Calls that keep their exports apart,
under a lock from the export to the renaming, meet this condition. -/
theorem restart_refuses_iff (W : Nat) [NeZero W] (codec : StateCodec) (file : Option Bytes)
    (events : List FileEvent) :
    ((∀ front, front <+: events → (run (step codec) (start codec W file) front).Recalls codec) ↔
      Along (step codec) Covers (start codec W file) events) ∧
    (Along (step codec) Exclusive (start codec W file) events →
      Along (step codec) Covers (start codec W file) events) := by
  refine ⟨?_, covers_of_exclusive codec ⟨start_marks codec file, nofun, nofun, nofun, nofun⟩⟩
  have every : Along (step codec) (fun (_ : FileProcess W) _ => True) (start codec W file) events :=
    along_of_forall (fun _ _ => trivial) _ _
  have first : (start codec W file).Recalls codec := nofun
  exact always_iff_along_taken (Recalls codec) (fun process event marks _ => marks.step codec event)
    (fun process event marks _ recalls => step_recalls_iff codec marks recalls event)
    (start_marks codec file) first every

def wordCodec : StateCodec where
  render state := (Postcard.word64.pair Postcard.word64.many).write (state.highest, state.window)
  parse bytes := ((Postcard.word64.pair Postcard.word64.many).read bytes).map fun read =>
    ⟨read.1.1, read.1.2⟩
  parse_render state := by
    have back := (Postcard.word64.pair Postcard.word64.many).read_write
      (state.highest, state.window) [] ((Postcard.word64_whole.pair Postcard.word64_whole.many) _)
    rw [List.append_nil] at back
    rw [back]
    rfl

def inTurn : List FileEvent :=
  [.call 1, .call 2, .mark 0, .mark 1, .exportState 0, .rename 0 true, .exportState 1, .rename 1 true]

theorem in_turn_recalled :
    (FileReplayGuard.new wordCodec 4 (run (step wordCodec) (start wordCodec 4 none) inTurn).file).check 1
      ≠ .ok () ∧
    (FileReplayGuard.new wordCodec 4 (run (step wordCodec) (start wordCodec 4 none) inTurn).file).check 2
      ≠ .ok () := by
  have exclusive : Along (step wordCodec) Exclusive (start wordCodec 4 none) inTurn := by
    refine ⟨trivial, trivial, trivial, trivial, ?_, trivial, ?_, trivial, trivial⟩ <;>
      intro nonce state member <;> simp [start, step, FileProcess.step] at member
  obtain ⟨recalled, covers⟩ := restart_refuses_iff 4 wordCodec none inTurn
  have recalls := recalled.mpr (covers exclusive) inTurn (List.prefix_refl _)
  exact ⟨recalls 1 (by decide +kernel), recalls 2 (by decide +kernel)⟩

/-- The first call exports, the second marks, exports, renames and returns, and then the first renames
its older state: after a restart the second nonce passes the check. -/
theorem late_rename_forgets :
    FileCall.returned 2 true ∈ (run (step wordCodec) (start wordCodec 4 none)
      [.call 1, .call 2, .mark 0, .exportState 0, .mark 1, .exportState 1, .rename 1 true,
        .rename 0 true]).calls ∧
    (FileReplayGuard.new wordCodec 4 (run (step wordCodec) (start wordCodec 4 none)
      [.call 1, .call 2, .mark 0, .exportState 0, .mark 1, .exportState 1, .rename 1 true,
        .rename 0 true]).file).check 2 = .ok () := by
  decide +kernel

end FileProcess

end OpenHttpa.Server
