import OpenHttpa.Core.ReplayGuard
import OpenHttpa.Lib.Bytes
import OpenHttpa.Lib.Counters

/-!
# The replay guard of one node

`LocalReplayGuard` of `openhttpa-server/src/middleware.rs`, with its Bloom filters taken as exact
sets. A call looks a nonce up in the filter kept from before the last rotation, under one lock, and
then looks it up in the active filter and enters it there, under another. A rotation takes the
active filter out under the second lock and puts it in the place of the kept one under the first.
The threads take the single steps in any order: as long as no rotation falls between or around the
steps of a call, nor overlaps another rotation, a nonce is accepted once
(`rejected_until_second_rotation`).
-/
namespace OpenHttpa.Server

open OpenHttpa.Core

/-- `LocalReplayGuard`; the sizes and the count behind the capacity warning are left out. -/
structure LocalReplayGuard where
  bloom : List Bytes
  prevBloom : Option (List Bytes)

namespace LocalReplayGuard

def new : LocalReplayGuard := ⟨[], none⟩

variable (replayGuard : LocalReplayGuard) (nonce : UInt64)

/-- The first step of `check_and_accept`, under the lock of the kept filter. -/
def checkPrev : Except ReplayError Unit :=
  if replayGuard.prevBloom.any fun prev => prev.contains (u64Be nonce) then .error (.Replay nonce)
  else .ok ()

/-- The second step of `check_and_accept`, under the lock of the active filter. -/
def checkActive : Except ReplayError Unit × LocalReplayGuard :=
  if replayGuard.bloom.contains (u64Be nonce) then (.error (.Replay nonce), replayGuard)
  else (.ok (), { replayGuard with bloom := u64Be nonce :: replayGuard.bloom })

/-- `LocalReplayGuard::check_and_accept`, undisturbed; the session key is not used. -/
def checkAndAccept (_key : String) (nonce : UInt64) : Except ReplayError Unit × LocalReplayGuard :=
  match replayGuard.checkPrev nonce with
  | .error refused => (.error refused, replayGuard)
  | .ok _ => replayGuard.checkActive nonce

/-- The first step of `rotate`: take the active filter out. -/
def rotateSwap : List Bytes × LocalReplayGuard :=
  (replayGuard.bloom, { replayGuard with bloom := [] })

/-- The second step of `rotate`: keep the filter that was taken out. -/
def rotateStore (old : List Bytes) : LocalReplayGuard :=
  { replayGuard with prevBloom := some old }

def InPrev : Prop :=
  ∃ prev, replayGuard.prevBloom = some prev ∧ u64Be nonce ∈ prev

theorem checkPrev_eq :
    (replayGuard.InPrev nonce ∧ replayGuard.checkPrev nonce = .error (.Replay nonce)) ∨
      (¬ replayGuard.InPrev nonce ∧ replayGuard.checkPrev nonce = .ok ()) := by
  unfold checkPrev InPrev
  cases replayGuard.prevBloom with
  | none => simp
  | some prev =>
    by_cases inside : u64Be nonce ∈ prev
    · simp [inside]
    · simp [inside]

theorem checkActive_eq : (u64Be nonce ∈ replayGuard.bloom ∧
      replayGuard.checkActive nonce = (.error (.Replay nonce), replayGuard)) ∨
    (u64Be nonce ∉ replayGuard.bloom ∧ replayGuard.checkActive nonce =
      (.ok (), { replayGuard with bloom := u64Be nonce :: replayGuard.bloom })) := by
  unfold checkActive
  by_cases inside : u64Be nonce ∈ replayGuard.bloom
  · simp [inside]
  · simp [inside]

end LocalReplayGuard

/-! ## Threads that share a guard -/

inductive GuardCall where
  | called (nonce : UInt64)
  | checked (nonce : UInt64)
  | returned (nonce : UInt64) (result : Except ReplayError Unit)

inductive GuardRotation where
  | swapped (old : List Bytes)
  | stored

structure SharedGuard where
  replayGuard : LocalReplayGuard
  /-- The calls of `check_and_accept`, in the order they began. -/
  calls : List GuardCall
  /-- The calls of `rotate`, in the order they began. -/
  rotations : List GuardRotation
  /-- The nonces accepted, each with the number of rotations begun before. -/
  accepted : List (UInt64 × Nat)

/-- One locked step of one thread, or the beginning of a call. -/
inductive GuardEvent where
  | call (nonce : UInt64)
  | checkPrev (index : Nat)
  | checkActive (index : Nat)
  | rotateSwap
  | rotateStore (index : Nat)

namespace SharedGuard

def new : SharedGuard := ⟨.new, [], [], []⟩

variable (shared : SharedGuard)

/-- The machine; a step that no thread is about to take does nothing. -/
def step : GuardEvent → SharedGuard
  | .call nonce => { shared with calls := shared.calls ++ [.called nonce] }
  | .checkPrev index =>
    match shared.calls[index]? with
    | some (.called nonce) =>
      match shared.replayGuard.checkPrev nonce with
      | .error refused =>
        { shared with calls := shared.calls.set index (.returned nonce (.error refused)) }
      | .ok _ => { shared with calls := shared.calls.set index (.checked nonce) }
    | _ => shared
  | .checkActive index =>
    match shared.calls[index]? with
    | some (.checked nonce) =>
      let (result, replayGuard) := shared.replayGuard.checkActive nonce
      { shared with
        replayGuard
        calls := shared.calls.set index (.returned nonce result)
        accepted := match result with
          | .ok _ => shared.accepted ++ [(nonce, shared.rotations.length)]
          | .error _ => shared.accepted }
    | _ => shared
  | .rotateSwap =>
    let (old, replayGuard) := shared.replayGuard.rotateSwap
    { shared with replayGuard, rotations := shared.rotations ++ [.swapped old] }
  | .rotateStore index =>
    match shared.rotations[index]? with
    | some (.swapped old) =>
      { shared with
        replayGuard := shared.replayGuard.rotateStore old
        rotations := shared.rotations.set index .stored }
    | _ => shared

def Settled : Prop := ∀ old, GuardRotation.swapped old ∉ shared.rotations

inductive Moved (shared : SharedGuard) : GuardEvent → SharedGuard → Prop
  | idle (event : GuardEvent) : Moved shared event shared
  | called (nonce : UInt64) :
      Moved shared (.call nonce) { shared with calls := shared.calls ++ [.called nonce] }
  | blocked (index : Nat) (nonce : UInt64) :
      Moved shared (.checkPrev index)
        { shared with calls := shared.calls.set index (.returned nonce (.error (.Replay nonce))) }
  | passed (index : Nat) (nonce : UInt64) (absent : ¬ shared.replayGuard.InPrev nonce) :
      Moved shared (.checkPrev index)
        { shared with calls := shared.calls.set index (.checked nonce) }
  | rejected (index : Nat) (nonce : UInt64) :
      Moved shared (.checkActive index)
        { shared with calls := shared.calls.set index (.returned nonce (.error (.Replay nonce))) }
  /-- A nonce that is not in the active filter is entered and accepted. -/
  | accepted (index : Nat) (nonce : UInt64) :
      Moved shared (.checkActive index)
        { shared with
          replayGuard :=
            { shared.replayGuard with bloom := u64Be nonce :: shared.replayGuard.bloom }
          calls := shared.calls.set index (.returned nonce (.ok ()))
          accepted := shared.accepted ++ [(nonce, shared.rotations.length)] }
  | swapped :
      Moved shared .rotateSwap
        { shared with
          replayGuard := { shared.replayGuard with bloom := [] }
          rotations := shared.rotations ++ [.swapped shared.replayGuard.bloom] }
  /-- A rotation puts the filter it holds in the place of the kept one. -/
  | stored (index : Nat) (old : List Bytes)
      (held : shared.rotations[index]? = some (.swapped old)) :
      Moved shared (.rotateStore index)
        { shared with
          replayGuard := { shared.replayGuard with prevBloom := some old }
          rotations := shared.rotations.set index .stored }

theorem step_moved (event : GuardEvent) : Moved shared event (shared.step event) := by
  cases event with
  | call nonce => exact .called nonce
  | checkPrev index =>
    unfold step
    dsimp only
    split
    · next nonce found =>
      rcases shared.replayGuard.checkPrev_eq nonce with ⟨inside, answer⟩ | ⟨absent, answer⟩
      · rw [answer]
        exact .blocked index nonce
      · rw [answer]
        exact .passed index nonce absent
    · exact .idle _
  | checkActive index =>
    unfold step
    dsimp only
    split
    · next nonce found =>
      rcases shared.replayGuard.checkActive_eq nonce with ⟨inside, answer⟩ | ⟨absent, answer⟩
      · rw [answer]
        exact .rejected index nonce
      · rw [answer]
        exact .accepted index nonce
    · exact .idle _
  | rotateSwap => exact .swapped
  | rotateStore index =>
    unfold step
    dsimp only
    split
    · next old held => exact .stored index old held
    · exact .idle _

/-- A call looks at the kept filter only while no rotation is between its two steps, and a rotation
begins only then and while no call is between its own. -/
def Apart : GuardEvent → Prop
  | .checkPrev _ => shared.Settled
  | .rotateSwap => shared.Settled ∧ ∀ nonce, GuardCall.checked nonce ∉ shared.calls
  | _ => True

structure Guarded (shared : SharedGuard) : Prop where
  bounded : ∀ entry ∈ shared.accepted, entry.2 ≤ shared.rotations.length
  /-- A nonce accepted since the last rotation began is in the active filter. -/
  active : ∀ entry ∈ shared.accepted, entry.2 = shared.rotations.length →
    u64Be entry.1 ∈ shared.replayGuard.bloom
  /-- A nonce accepted since the rotation before is in the filter the last one holds. -/
  held : ∀ entry ∈ shared.accepted, entry.2 + 1 = shared.rotations.length →
    ∀ old, .swapped old ∈ shared.rotations → u64Be entry.1 ∈ old
  /-- Once the last rotation has returned, it is in the kept filter. -/
  kept : ∀ entry ∈ shared.accepted, entry.2 + 1 = shared.rotations.length → shared.Settled →
    shared.replayGuard.InPrev entry.1
  alone : ∀ (first second : Nat) (old other : List Bytes),
    shared.rotations[first]? = some (.swapped old) →
    shared.rotations[second]? = some (.swapped other) → first = second
  /-- A nonce that passed the first step is still not in the kept filter, and no rotation is between
  its steps. -/
  fresh : ∀ nonce, .checked nonce ∈ shared.calls →
    ¬ shared.replayGuard.InPrev nonce ∧ shared.Settled

theorem new_guarded : new.Guarded where
  bounded := nofun
  active := nofun
  held := nofun
  kept := nofun
  alone := nofun
  fresh := nofun

variable {shared}

theorem Guarded.accepted (guarded : shared.Guarded) (index : Nat) (nonce : UInt64) :
    ({ shared with
      replayGuard := { shared.replayGuard with bloom := u64Be nonce :: shared.replayGuard.bloom }
      calls := shared.calls.set index (.returned nonce (.ok ()))
      accepted := shared.accepted ++ [(nonce, shared.rotations.length)] } : SharedGuard).Guarded := by
  constructor
  · exact forall_mem_concat guarded.bounded (Nat.le_refl _)
  · apply forall_mem_concat
    · exact fun entry before current => List.mem_cons_of_mem _ (guarded.active entry before current)
    · exact fun _ => List.mem_cons_self
  · exact forall_mem_concat guarded.held fun late => absurd late (Nat.succ_ne_self _)
  · exact forall_mem_concat guarded.kept fun late => absurd late (Nat.succ_ne_self _)
  · exact guarded.alone
  · exact fun other member => guarded.fresh other (mem_of_mem_set member nofun)

theorem Guarded.swapped (guarded : shared.Guarded) (settled : shared.Settled)
    (between : ∀ nonce, GuardCall.checked nonce ∉ shared.calls) :
    ({ shared with
      replayGuard := { shared.replayGuard with bloom := [] }
      rotations := shared.rotations ++ [.swapped shared.replayGuard.bloom] } :
        SharedGuard).Guarded := by
  have length : (shared.rotations ++ [GuardRotation.swapped shared.replayGuard.bloom]).length =
      shared.rotations.length + 1 := by simp
  constructor
  · intro entry member
    have bound := guarded.bounded entry member
    dsimp only
    omega
  · intro entry member current
    have bound := guarded.bounded entry member
    dsimp only at current
    omega
  -- What was accepted since the last rotation began goes from the active filter to the one taken out.
  · intro entry member late old inside
    dsimp only at late
    rcases List.mem_append.mp inside with before | now
    · exact absurd before (settled old)
    · cases List.mem_singleton.mp now
      exact guarded.active entry member (by omega)
  · intro entry member late quiet
    exact absurd (List.mem_append_right _ (List.mem_singleton_self _)) (quiet _)
  · intro first second old other firstHeld secondHeld
    have last : ∀ {place : Nat} {filter : List Bytes},
        (shared.rotations ++ [GuardRotation.swapped shared.replayGuard.bloom])[place]? =
          some (.swapped filter) → place = shared.rotations.length := by
      intro place filter found
      rw [getElem?_append_singleton] at found
      by_contra other
      rw [if_neg other] at found
      exact settled filter (List.mem_of_getElem? found)
    rw [last firstHeld, last secondHeld]
  · intro nonce member
    exact absurd member (between nonce)

theorem Guarded.stored (guarded : shared.Guarded) {index : Nat}
    {old : List Bytes} (held : shared.rotations[index]? = some (.swapped old)) :
    ({ shared with
      replayGuard := { shared.replayGuard with prevBloom := some old }
      rotations := shared.rotations.set index .stored } : SharedGuard).Guarded := by
  have inside : .swapped old ∈ shared.rotations := List.mem_of_getElem? held
  constructor
  · intro entry member
    have bound := guarded.bounded entry member
    simpa using bound
  · intro entry member current
    exact guarded.active entry member (by simpa using current)
  · intro entry member late other still
    exact guarded.held entry member (by simpa using late) other (mem_of_mem_set still nofun)
  · intro entry member late quiet
    exact ⟨old, rfl, guarded.held entry member (by simpa using late) old inside⟩
  · intro first second one other firstHeld secondHeld
    exact guarded.alone first second one other (getElem?_of_getElem?_set firstHeld nofun).1
      (getElem?_of_getElem?_set secondHeld nofun).1
  · intro nonce member
    exact absurd inside ((guarded.fresh nonce member).2 old)

theorem Guarded.step (guarded : shared.Guarded) {event : GuardEvent}
    (apart : shared.Apart event) : (shared.step event).Guarded := by
  have moved := shared.step_moved event
  generalize shared.step event = after at moved
  cases moved with
  | idle => exact guarded
  | called nonce =>
    exact { guarded with fresh := fun other member => guarded.fresh other (mem_of_mem_append member nofun) }
  | blocked index nonce =>
    exact { guarded with fresh := fun other member => guarded.fresh other (mem_of_mem_set member nofun) }
  | passed index nonce absent =>
    refine { guarded with fresh := fun other member => ?_ }
    rcases List.mem_or_eq_of_mem_set member with before | now
    · exact guarded.fresh other before
    · cases now
      exact ⟨absent, apart⟩
  | rejected index nonce =>
    exact { guarded with fresh := fun other member => guarded.fresh other (mem_of_mem_set member nofun) }
  | accepted index nonce => exact guarded.accepted index nonce
  | swapped => exact guarded.swapped apart.1 apart.2
  | stored index old held => exact guarded.stored held

/-- Every call that is about to finish with a nonce that another call had accepted, while fewer than
two rotations have begun since then, will be rejected. -/
def RejectsAgain (shared : SharedGuard) : Prop :=
  ∀ (index : Nat) (nonce : UInt64) (begun : Nat), shared.calls[index]? = some (.checked nonce) →
    (nonce, begun) ∈ shared.accepted → shared.rotations.length < begun + 2 →
    (shared.replayGuard.checkActive nonce).1 = .error (.Replay nonce)

theorem Guarded.rejectsAgain (guarded : shared.Guarded) :
    shared.RejectsAgain := by
  intro index nonce begun about taken recent
  obtain ⟨absent, settled⟩ := guarded.fresh nonce (List.mem_of_getElem? about)
  have bound : begun ≤ shared.rotations.length := guarded.bounded (nonce, begun) taken
  have now : begun = shared.rotations.length := by
    by_contra earlier
    have previous : begun + 1 = shared.rotations.length := by omega
    exact absent (guarded.kept (nonce, begun) taken previous settled)
  have inside : u64Be nonce ∈ shared.replayGuard.bloom := guarded.active (nonce, begun) taken now
  rcases shared.replayGuard.checkActive_eq nonce with ⟨-, answer⟩ | ⟨outside, -⟩
  · rw [answer]
  · exact absurd inside outside

/-- In every run in which no rotation falls between or around the steps of a call or of another
rotation, a nonce that one call accepted is rejected by every call that finishes before the second
rotation since then has begun, in every state reached. -/
theorem rejected_until_second_rotation {events : List GuardEvent}
    (apart : Along step Apart new events) : (run step new events).RejectsAgain :=
  (run_invariant_along Guarded (fun _ _ guarded met => guarded.step met) new_guarded
    apart).rejectsAgain

/-- A nonce is accepted before a rotation and comes again after it; then two calls with another nonce
both pass the first step before either takes the second. -/
def aroundRotation : List GuardEvent :=
  [.call 7, .checkPrev 0, .checkActive 0, .rotateSwap, .rotateStore 0, .call 7, .call 9, .call 9,
    .checkPrev 1, .checkPrev 2, .checkPrev 3, .checkActive 2]

theorem second_caller_rejected :
    (run step new aroundRotation).accepted = [(7, 0), (9, 1)] ∧
    (run step new aroundRotation).calls[1]? = some (.returned 7 (.error (.Replay 7))) ∧
    ((run step new aroundRotation).replayGuard.checkActive 9).1 = .error (.Replay 9) := by
  refine ⟨by decide, rfl, ?_⟩
  have stored : ∀ old, GuardRotation.swapped old ∉ [GuardRotation.stored] := by simp
  have returned : ∀ nonce, GuardCall.checked nonce ∉ [.returned 7 (.ok ())] := by simp
  have apart : Along step Apart new aroundRotation :=
    ⟨trivial, nofun, trivial, ⟨nofun, returned⟩, trivial, trivial, trivial, trivial, stored, stored,
      stored, trivial, trivial⟩
  exact rejected_until_second_rotation apart 3 9 1 rfl (by decide) (by decide)

/-- A rotation between the steps of the second call, and a second call between the steps of a
rotation: both times the nonce is accepted again after only one rotation has begun. -/
theorem accepted_again_across_rotation :
    (run step new [.call 7, .checkPrev 0, .checkActive 0,
      .call 7, .checkPrev 1, .rotateSwap, .checkActive 1]).accepted = [(7, 0), (7, 1)] ∧
    (run step new [.call 7, .checkPrev 0, .checkActive 0,
      .rotateSwap, .call 7, .checkPrev 1, .checkActive 1]).accepted = [(7, 0), (7, 1)] := by
  decide

end SharedGuard

end OpenHttpa.Server
