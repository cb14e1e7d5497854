import OpenHttpa.Lib.Assoc
import OpenHttpa.Lib.Run
import OpenHttpa.Lib.SlidingLog

/-!
# Rate limits

`openhttpa-server/src/rate_limit.rs`. For every address, or prefix of addresses, the limiter keeps the
times of the requests it accepted, and prunes it to the window. Where the window cannot be subtracted
from the time, it prunes with the time itself as the cutoff, and so forgets requests that lie within the
window. A refusal is always justified, and the limit holds as long as no reading of the clock is too
early; for a window of more than one tick it can be exceeded before (`rate_limit_iff`).
-/
namespace OpenHttpa.Server

inductive IpAddr where
  | V4 (octets : Vector UInt8 4)
  | V6 (segments : Vector UInt16 8)
deriving DecidableEq

def normalizeIp : IpAddr → IpAddr
  | .V4 octets => .V4 octets
  | .V6 segs => .V6 #v[segs[0], segs[1], segs[2], segs[3], 0, 0, 0, 0]

/-- `RateLimitState`; the times are ticks since the earliest that can be represented. -/
structure RateLimitState where
  clients : Table IpAddr (List Nat)
  maxRequests : Nat
  window : Nat

namespace RateLimitState

def new (maxRequests window : Nat) : RateLimitState := ⟨.empty, maxRequests, window⟩

def checkedSub (now window : Nat) : Option Nat := if window ≤ now then some (now - window) else none

variable (state : RateLimitState)

/-- `now.checked_sub(window).unwrap_or(now)`. -/
def cutoff (now : Nat) : Nat := (checkedSub now state.window).getD now

def times (ip : IpAddr) : List Nat := (state.clients.find ip).getD []

def cleanup (now : Nat) : RateLimitState :=
  { state with
    clients := state.clients.retain fun entry =>
      let kept := recent (state.cutoff now) entry
      if kept.isEmpty then none else some kept }

def checkAndRecord (now : Nat) (ip : IpAddr) : Bool × RateLimitState :=
  let ip := normalizeIp ip
  let entry := recent (state.cutoff now) (state.times ip)
  if state.maxRequests ≤ entry.length then
    (false, { state with clients := state.clients.insert ip entry })
  else (true, { state with clients := state.clients.insert ip (entry ++ [now]) })

variable (state : RateLimitState)

theorem times_insert (ip other : IpAddr) (entry : List Nat) :
    ({ state with clients := state.clients.insert ip entry } : RateLimitState).times other =
      if other = ip then entry else state.times other := by
  unfold times
  rw [Table.find_insert]
  split <;> rfl

theorem times_cleanup (now : Nat) (ip : IpAddr) :
    (state.cleanup now).times ip = recent (state.cutoff now) (state.times ip) := by
  unfold times cleanup
  rw [Table.find_retain]
  cases state.clients.find ip with
  | none => rfl
  | some entry =>
    rw [Option.bind_some, Option.getD_some]
    dsimp only
    split
    · next empty => exact (List.isEmpty_iff.mp empty).symm
    · rfl

theorem cutoff_le (now : Nat) : state.cutoff now ≤ now := by
  unfold cutoff checkedSub
  split <;> simp

theorem sub_window_le_cutoff (now : Nat) : now - state.window ≤ state.cutoff now := by
  unfold cutoff checkedSub
  split <;> simp

variable {state}

theorem cutoff_of_le {now : Nat} (far : state.window ≤ now) :
    state.cutoff now = now - state.window := by
  rw [cutoff, checkedSub, if_pos far, Option.getD_some]

theorem cutoff_of_short (short : state.window ≤ 1) (now : Nat) :
    state.cutoff now = now - state.window := by
  by_cases far : state.window ≤ now
  · exact cutoff_of_le far
  · have first : now = 0 := by omega
    rw [first]
    exact Nat.le_zero.mp (state.cutoff_le 0) |>.trans (Nat.zero_sub _).symm

end RateLimitState

inductive LimiterEvent where
  | request (now : Nat) (ip : IpAddr)
  | cleanup (now : Nat)

def LimiterEvent.now : LimiterEvent → Nat
  | .request now _ => now
  | .cleanup now => now

/-- A limiter, the last reading of the clock, and the requests it accepted, oldest first. -/
structure LimiterHistory where
  state : RateLimitState
  last : Nat
  accepted : List (IpAddr × Nat)

namespace LimiterHistory

def new (maxRequests window : Nat) : LimiterHistory := ⟨.new maxRequests window, 0, []⟩

variable (history : LimiterHistory)

def step : LimiterEvent → LimiterHistory
  | .request now ip =>
    { state := (history.state.checkAndRecord now ip).2
      last := now
      accepted :=
        if (history.state.checkAndRecord now ip).1 then history.accepted ++ [(normalizeIp ip, now)]
        else history.accepted }
  | .cleanup now => { history with state := history.state.cleanup now, last := now }

/-- The clock does not run backwards. -/
def Forward (event : LimiterEvent) : Prop := history.last ≤ event.now

def Late (event : LimiterEvent) : Prop := history.state.window ≤ event.now

def acceptedFor (ip : IpAddr) : List Nat :=
  (history.accepted.filter fun request => request.1 = ip).map Prod.snd

/-- No address had more requests accepted than the limit, in any interval of the length of the window. -/
def KeepsLimit : Prop :=
  ∀ ip, Limited history.state.maxRequests history.state.window (history.acceptedFor ip)

/-- Only a full interval is refused. -/
def RefusesJustly : Prop :=
  ∀ now ip, history.last ≤ now → (history.state.checkAndRecord now ip).1 = false →
    history.state.maxRequests ≤ (inInterval (now - history.state.window) history.state.window
      (history.acceptedFor (normalizeIp ip))).length

/-- An event prunes entries, and it may record one request that it accepts. -/
inductive Step (history : LimiterHistory) (now : Nat) : LimiterHistory → Prop
  | pruned {state : RateLimitState}
      (limit : state.maxRequests = history.state.maxRequests)
      (window : state.window = history.state.window)
      (times : ∀ ip, state.times ip = history.state.times ip ∨
        state.times ip = recent (history.state.cutoff now) (history.state.times ip)) :
      Step history now ⟨state, now, history.accepted⟩
  | recorded {state : RateLimitState} {ip : IpAddr}
      (limit : state.maxRequests = history.state.maxRequests)
      (window : state.window = history.state.window)
      (room : (recent (history.state.cutoff now) (history.state.times ip)).length <
        history.state.maxRequests)
      (own : state.times ip = recent (history.state.cutoff now) (history.state.times ip) ++ [now])
      (others : ∀ other, other ≠ ip → state.times other = history.state.times other) :
      Step history now ⟨state, now, history.accepted ++ [(ip, now)]⟩

theorem step_cases (event : LimiterEvent) : Step history event.now (history.step event) := by
  cases event with
  | cleanup now => exact .pruned rfl rfl fun ip => .inr (history.state.times_cleanup now ip)
  | request now ip =>
    unfold step RateLimitState.checkAndRecord
    dsimp only
    split
    · refine .pruned ?_ ?_ ?_ <;> try rfl
      intro other
      rw [RateLimitState.times_insert]
      split
      · next same => exact .inr (same ▸ rfl)
      · exact .inl rfl
    · next room =>
      refine .recorded ?_ ?_ ?_ ?_ ?_ <;> try rfl
      · exact Nat.lt_of_not_le room
      · rw [RateLimitState.times_insert, if_pos rfl]
        rfl
      · intro other apart
        rw [RateLimitState.times_insert, if_neg apart]

theorem acceptedFor_append (state : RateLimitState) (now : Nat) (accepted : List (IpAddr × Nat))
    (ip other : IpAddr) :
    acceptedFor ⟨state, now, accepted ++ [(ip, now)]⟩ other =
      if other = ip then acceptedFor ⟨state, now, accepted⟩ other ++ [now]
      else acceptedFor ⟨state, now, accepted⟩ other := by
  unfold acceptedFor
  rw [List.filter_append, List.map_append]
  split
  · next same =>
    rw [List.filter_cons_of_pos (by simp [same])]
    rfl
  · next apart =>
    rw [List.filter_cons_of_neg (by simpa using Ne.symm apart), List.filter_nil, List.map_nil,
      List.append_nil]

structure Sound (maxRequests window : Nat) (history : LimiterHistory) : Prop where
  limit : history.state.maxRequests = maxRequests
  window : history.state.window = window
  past : ∀ ip, ∀ time ∈ history.acceptedFor ip, time ≤ history.last
  stored : ∀ ip, (history.state.times ip).Sublist (history.acceptedFor ip)

variable {maxRequests window : Nat}

theorem sound_new (maxRequests window : Nat) : Sound maxRequests window (new maxRequests window) where
  limit := rfl
  window := rfl
  past _ _ member := nomatch member
  stored _ := .slnil

variable {history next : LimiterHistory} {now : Nat}

theorem Sound.step (sound : Sound maxRequests window history) (forward : history.last ≤ now)
    (taken : Step history now next) : Sound maxRequests window next := by
  cases taken with
  | pruned limit same times =>
    refine ⟨limit.trans sound.limit, same.trans sound.window, ?_, ?_⟩
    · intro ip time member
      exact Nat.le_trans (sound.past ip time member) forward
    · intro ip
      rcases times ip with kept | pruned
      · exact kept ▸ sound.stored ip
      · exact pruned ▸ List.filter_sublist.trans (sound.stored ip)
  | @recorded state ip limit same room own others =>
    refine ⟨limit.trans sound.limit, same.trans sound.window, ?_, ?_⟩
    · intro other time member
      have before : ∀ time ∈ history.acceptedFor other, time ≤ now :=
        fun time member => Nat.le_trans (sound.past other time member) forward
      rw [acceptedFor_append] at member
      split at member
      · rcases List.mem_append.mp member with earlier | latest
        · exact before time earlier
        · exact Nat.le_of_eq (List.mem_singleton.mp latest)
      · exact before time member
    · intro other
      rw [acceptedFor_append]
      split
      · next equal =>
        rw [equal, own]
        exact (List.filter_sublist.trans (sound.stored ip)).append (.refl _)
      · next apart =>
        rw [others other apart]
        exact sound.stored other

theorem Sound.refuses_justly (sound : Sound maxRequests window history) :
    history.RefusesJustly := by
  intro now ip forward refused
  have full : history.state.maxRequests ≤
      (recent (history.state.cutoff now) (history.state.times (normalizeIp ip))).length := by
    by_contra room
    rw [RateLimitState.checkAndRecord, if_neg room] at refused
    cases refused
  have past : ∀ time ∈ history.acceptedFor (normalizeIp ip), time ≤ now :=
    fun time member => Nat.le_trans (sound.past _ time member) forward
  calc history.state.maxRequests
    _ ≤ (recent (history.state.cutoff now) (history.state.times (normalizeIp ip))).length := full
    _ ≤ (recent (history.state.cutoff now) (history.acceptedFor (normalizeIp ip))).length :=
      ((sound.stored _).filter _).length_le
    _ ≤ (recent (now - history.state.window) (history.acceptedFor (normalizeIp ip))).length :=
      (recent_sublist (history.state.sub_window_le_cutoff now) _).length_le
    _ = _ := by rw [recent_eq_inInterval past]

/-- A limiter that forgot no request of the last window, and kept the limit so far. -/
structure Whole (history : LimiterHistory) : Prop where
  stored : ∀ ip cutoff, history.last - history.state.window ≤ cutoff →
    recent cutoff (history.state.times ip) = recent cutoff (history.acceptedFor ip)
  limited : history.KeepsLimit

theorem whole_new (maxRequests window : Nat) : Whole (new maxRequests window) where
  stored _ _ _ := rfl
  limited _ _ := Nat.zero_le _

theorem Whole.recent_pruned (whole : Whole history)
    (forward : history.last ≤ now) (exact : history.state.cutoff now = now - history.state.window)
    (ip : IpAddr) {cutoff : Nat} (late : now - history.state.window ≤ cutoff) :
    recent cutoff (recent (history.state.cutoff now) (history.state.times ip)) =
      recent cutoff (history.acceptedFor ip) := by
  rw [exact, recent_recent late, whole.stored ip cutoff (by omega)]

theorem Whole.step (whole : Whole history)
    (forward : history.last ≤ now) (exact : history.state.cutoff now = now - history.state.window)
    (taken : Step history now next) : Whole next := by
  cases taken with
  | pruned limit same times =>
    constructor
    · intro ip cutoff late
      dsimp only at late ⊢
      rw [same] at late
      rcases times ip with kept | shorter
      · rw [kept]
        exact whole.stored ip cutoff (by omega)
      · rw [shorter]
        exact whole.recent_pruned forward exact ip late
    · intro ip
      dsimp only
      rw [limit, same]
      exact whole.limited ip
  | @recorded state ip limit same room own others =>
    constructor
    · intro other cutoff late
      dsimp only at late ⊢
      rw [same] at late
      rw [acceptedFor_append]
      split
      · next equal =>
        rw [equal, own, recent_append, recent_append, whole.recent_pruned forward exact ip late]
        rfl
      · next apart =>
        rw [others other apart]
        exact whole.stored other cutoff (by omega)
    · intro other
      dsimp only
      rw [limit, same, acceptedFor_append]
      split
      · next equal =>
        apply Limited.append (whole.limited other)
        rw [← whole.stored other _ (by omega), equal, ← exact]
        exact room
      · exact whole.limited other

theorem step_of_room {ip : IpAddr}
    (room : (recent (history.state.cutoff now) (history.state.times (normalizeIp ip))).length <
      history.state.maxRequests) :
    history.step (.request now ip) =
      ⟨{ history.state with
          clients := history.state.clients.insert (normalizeIp ip)
            (recent (history.state.cutoff now) (history.state.times (normalizeIp ip)) ++ [now]) },
        now, history.accepted ++ [(normalizeIp ip, now)]⟩ := by
  unfold step RateLimitState.checkAndRecord
  dsimp only
  rw [if_neg (Nat.not_le_of_lt room)]
  rfl

def localhost : IpAddr := .V4 #v[127, 0, 0, 1]

structure Filled (maxRequests window count : Nat) (history : LimiterHistory) : Prop where
  limit : history.state.maxRequests = maxRequests
  window : history.state.window = window
  last : history.last = 0
  times : history.state.times localhost = List.replicate count 0
  accepted : history.acceptedFor localhost = List.replicate count 0

theorem Filled.step {count : Nat}
    (filled : Filled maxRequests window count history) (below : count < maxRequests) :
    Filled maxRequests window (count + 1) (history.step (.request 0 localhost)) := by
  have all : recent (history.state.cutoff 0) (history.state.times localhost) =
      List.replicate count 0 := by
    rw [filled.times, Nat.le_zero.mp (history.state.cutoff_le 0)]
    simp [recent]
  have room : (recent (history.state.cutoff 0) (history.state.times localhost)).length <
      history.state.maxRequests := by
    rw [all, List.length_replicate, filled.limit]
    exact below
  rw [step_of_room room]
  refine ⟨filled.limit, filled.window, rfl, ?_, ?_⟩
  · rw [RateLimitState.times_insert, List.replicate_succ']
    exact (if_pos rfl).trans (congrArg (· ++ [0]) all)
  · rw [acceptedFor_append, List.replicate_succ']
    exact (if_pos rfl).trans (congrArg (· ++ [0]) filled.accepted)

theorem exists_filled (window : Nat) {count : Nat} (bound : count ≤ maxRequests) :
    ∃ events, Along LimiterHistory.step Forward (new maxRequests window) events ∧
      Filled maxRequests window count (run LimiterHistory.step (new maxRequests window) events) := by
  induction count with
  | zero => exact ⟨[], trivial, rfl, rfl, rfl, rfl, rfl⟩
  | succ count ih =>
    obtain ⟨events, along, filled⟩ := ih (Nat.le_of_succ_le bound)
    refine ⟨events ++ [.request 0 localhost], along.append ⟨?_, trivial⟩, ?_⟩
    · exact filled.last ▸ Nat.le_refl 0
    · rw [run_append]
      exact filled.step bound

theorem Filled.exceeds (filled : Filled maxRequests window maxRequests history)
    (positive : 0 < maxRequests) (wide : 1 < window) :
    ¬(history.step (.request 1 localhost)).KeepsLimit := by
  have late : history.state.cutoff 1 = 1 := by
    rw [RateLimitState.cutoff, RateLimitState.checkedSub, filled.window, if_neg (by omega),
      Option.getD_none]
  have forgotten : recent (history.state.cutoff 1) (history.state.times localhost) = [] := by
    rw [late, filled.times]
    simp [recent]
  have room : (recent (history.state.cutoff 1) (history.state.times localhost)).length <
      history.state.maxRequests := by
    rw [forgotten, filled.limit]
    exact positive
  have accepted : (history.step (.request 1 localhost)).acceptedFor localhost =
      List.replicate maxRequests 0 ++ [1] := by
    rw [step_of_room room, acceptedFor_append]
    exact (if_pos rfl).trans (congrArg (· ++ [1]) filled.accepted)
  have inside : inInterval 0 window (List.replicate maxRequests 0 ++ [1]) =
      List.replicate maxRequests 0 ++ [1] := by
    unfold inInterval
    rw [List.filter_eq_self]
    intro time member
    rw [List.mem_append, List.mem_replicate, List.mem_singleton] at member
    rw [decide_eq_true_eq]
    omega
  intro keeps
  have most : (inInterval 0 window (List.replicate maxRequests 0 ++ [1])).length ≤ maxRequests := by
    have least := keeps localhost 0
    rw [accepted, step_of_room room] at least
    dsimp only at least
    rw [filled.limit, filled.window] at least
    exact least
  rw [inside, List.length_append, List.length_replicate] at most
  exact Nat.not_succ_le_self _ most

theorem keepsLimit_of_exact {guard : LimiterHistory → LimiterEvent → Prop}
    (exact : ∀ history event, history.state.window = window → guard history event →
      history.state.cutoff event.now = event.now - history.state.window)
    {events : List LimiterEvent}
    (forward : Along LimiterHistory.step Forward (new maxRequests window) events)
    (met : Along LimiterHistory.step guard (new maxRequests window) events) :
    (run LimiterHistory.step (new maxRequests window) events).KeepsLimit := by
  have kept := run_invariant_along (fun history => Sound maxRequests window history ∧ Whole history)
    (fun history event inv met => ⟨inv.1.step met.1 (history.step_cases event),
      inv.2.step met.1 (exact history event inv.1.window met.2) (history.step_cases event)⟩)
    ⟨sound_new maxRequests window, whole_new maxRequests window⟩ (forward.and met)
  exact kept.2.limited

def Closed (history : LimiterHistory) : Prop :=
  history.state.maxRequests = 0 ∧ history.accepted = []

theorem Closed.step (closed : history.Closed) (taken : Step history now next) : next.Closed := by
  cases taken with
  | pruned limit _ _ => exact ⟨limit.trans closed.1, closed.2⟩
  | recorded _ _ room => exact absurd room (closed.1 ▸ Nat.not_lt_zero _)

theorem keepsLimit_of_zero (zero : maxRequests = 0) (events : List LimiterEvent) :
    (run LimiterHistory.step (new maxRequests window) events).KeepsLimit := by
  have start : (new maxRequests window).Closed := ⟨zero, rfl⟩
  have closed := run_invariant Closed
    (fun history event closed => closed.step (history.step_cases event)) start events
  intro ip start
  rw [acceptedFor, closed.2]
  exact Nat.zero_le _

end LimiterHistory

open LimiterHistory

/-- At non-decreasing readings a request is refused only if the limit was reached within the last window,
and the limit is kept if the window can be subtracted from every reading. Otherwise it is kept by every
run exactly if no request is accepted at all or the window is at most one tick long. -/
theorem rate_limit_iff (maxRequests window : Nat) :
    (∀ events, Along step Forward (new maxRequests window) events →
      (run step (new maxRequests window) events).RefusesJustly ∧
      (Along step Late (new maxRequests window) events →
        (run step (new maxRequests window) events).KeepsLimit)) ∧
    ((∀ events, Along step Forward (new maxRequests window) events →
      (run step (new maxRequests window) events).RefusesJustly ∧
      (run step (new maxRequests window) events).KeepsLimit) ↔ maxRequests = 0 ∨ window ≤ 1) := by
  have sound : ∀ events, Along step Forward (new maxRequests window) events →
      Sound maxRequests window (run step (new maxRequests window) events) :=
    fun events forward => run_invariant_along (Sound maxRequests window)
      (fun history event sound forward => sound.step forward (history.step_cases event))
      (sound_new maxRequests window) forward
  refine ⟨fun events forward => ⟨(sound events forward).refuses_justly, ?_⟩, ?_, ?_⟩
  · exact keepsLimit_of_exact (fun _ _ _ far => RateLimitState.cutoff_of_le far) forward
  · intro keeps
    by_contra config
    obtain ⟨events, forward, filled⟩ := exists_filled window (Nat.le_refl maxRequests)
    have next : (run step (new maxRequests window) events).Forward (.request 1 localhost) := by
      rw [Forward, filled.last]
      exact Nat.zero_le 1
    have kept := (keeps (events ++ [.request 1 localhost]) (forward.append ⟨next, trivial⟩)).2
    rw [run_append] at kept
    exact filled.exceeds (by omega) (by omega) kept
  · intro config events forward
    refine ⟨(sound events forward).refuses_justly, ?_⟩
    rcases config with zero | short
    · exact keepsLimit_of_zero zero events
    · exact keepsLimit_of_exact (fun _ _ same _ => RateLimitState.cutoff_of_short (same ▸ short) _)
        forward (along_of_forall (fun _ _ => trivial) _ _)

/-- Two requests pass a limit of one soon after the start. -/
theorem early_requests_accepted :
    Along step Forward (new 1 10) [.request 1 localhost, .request 2 localhost] ∧
      ¬(run step (new 1 10) [.request 1 localhost, .request 2 localhost]).KeepsLimit := by
  refine ⟨⟨Nat.zero_le 1, Nat.le_succ 1, trivial⟩, fun keeps => ?_⟩
  have most := keeps localhost 0
  revert most
  decide

end OpenHttpa.Server
