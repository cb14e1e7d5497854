import OpenHttpa.Lib.Assoc
import OpenHttpa.Lib.Delimited
import OpenHttpa.Server.LocalReplayGuard

/-!
# The replay guard of several nodes, and sessions apart

`openhttpa-server/src/replay_guard_redis.rs`. The guard makes every decision with one `SET NX PX` on
a key that names the session and the nonce. The session ends at the last colon, so two sessions never
share a key of the server, and what a call answers depends on the earlier calls of its own session
alone. The guard of one node enters nonces without the session, so there the same is so only of a
nonce that no other session has used (`sessions_isolated_iff`).
-/
namespace OpenHttpa.Server

open OpenHttpa.Core

/-- The arguments of `DistributedReplayGuard::check_and_accept`. -/
structure ReplayCall where
  key : String
  nonce : UInt64

/-! ## One node -/

namespace LocalReplayGuard

def serve (replayGuard : LocalReplayGuard) (call : ReplayCall) : LocalReplayGuard :=
  (replayGuard.checkAndAccept call.key call.nonce).2

/-- The guard has the nonce on record. -/
def Seen (replayGuard : LocalReplayGuard) (nonce : UInt64) : Prop :=
  replayGuard.InPrev nonce ∨ u64Be nonce ∈ replayGuard.bloom

variable (replayGuard : LocalReplayGuard)

theorem checkAndAccept_cases (key : String) (nonce : UInt64) : (replayGuard.Seen nonce ∧
      replayGuard.checkAndAccept key nonce = (.error (.Replay nonce), replayGuard)) ∨
    (¬ replayGuard.Seen nonce ∧ replayGuard.checkAndAccept key nonce =
      (.ok (), { replayGuard with bloom := u64Be nonce :: replayGuard.bloom })) := by
  unfold checkAndAccept Seen
  rcases replayGuard.checkPrev_eq nonce with ⟨inside, answer⟩ | ⟨absent, answer⟩
  · rw [answer]
    exact .inl ⟨.inl inside, rfl⟩
  · rw [answer]
    rcases replayGuard.checkActive_eq nonce with ⟨inside, second⟩ | ⟨outside, second⟩
    · exact .inl ⟨.inr inside, second⟩
    · exact .inr ⟨not_or.mpr ⟨absent, outside⟩, second⟩

theorem seen_serve (call : ReplayCall) (nonce : UInt64) :
    (replayGuard.serve call).Seen nonce ↔ replayGuard.Seen nonce ∨ call.nonce = nonce := by
  unfold serve
  rcases replayGuard.checkAndAccept_cases call.key call.nonce with ⟨seen, answer⟩ | ⟨-, answer⟩
  · rw [answer]
    constructor
    · exact .inl
    · rintro (before | rfl)
      · exact before
      · exact seen
  · rw [answer]
    unfold Seen InPrev
    dsimp only
    rw [List.mem_cons]
    have bytes : u64Be nonce = u64Be call.nonce ↔ call.nonce = nonce := by
      constructor
      · intro same
        rw [← u64OfBe_u64Be call.nonce, ← same, u64OfBe_u64Be]
      · rintro rfl
        rfl
    rw [bytes, or_comm (a := call.nonce = nonce), or_assoc]

theorem seen_run (calls : List ReplayCall) (nonce : UInt64) :
    (run serve replayGuard calls).Seen nonce ↔
      replayGuard.Seen nonce ∨ ∃ call ∈ calls, call.nonce = nonce := by
  induction calls generalizing replayGuard with
  | nil => simp
  | cons call rest ih =>
    rw [run_cons, ih, seen_serve]
    simp only [List.mem_cons, exists_eq_or_imp]
    tauto

theorem same_answer_iff (first second : LocalReplayGuard) (key : String) (nonce : UInt64) :
    (first.checkAndAccept key nonce).1 = (second.checkAndAccept key nonce).1 ↔
      (first.Seen nonce ↔ second.Seen nonce) := by
  rcases first.checkAndAccept_cases key nonce with ⟨one, answer⟩ | ⟨one, answer⟩ <;>
    rcases second.checkAndAccept_cases key nonce with ⟨other, again⟩ | ⟨other, again⟩ <;>
      simp [answer, again, one, other]

theorem isolated_iff (calls : List ReplayCall) (key : String) (nonce : UInt64) :
    ((run serve replayGuard calls).checkAndAccept key nonce).1 =
        ((run serve replayGuard (calls.filter (·.key = key))).checkAndAccept key nonce).1 ↔
      ((∃ call ∈ calls, call.key ≠ key ∧ call.nonce = nonce) →
        replayGuard.Seen nonce ∨ ⟨key, nonce⟩ ∈ calls) := by
  rw [same_answer_iff, seen_run, seen_run]
  have own : (∃ call ∈ calls.filter (·.key = key), call.nonce = nonce) ↔ ⟨key, nonce⟩ ∈ calls := by
    constructor
    · rintro ⟨call, member, rfl⟩
      obtain ⟨inside, same⟩ := List.mem_filter.mp member
      rw [decide_eq_true_eq] at same
      exact same ▸ inside
    · intro member
      exact ⟨⟨key, nonce⟩, List.mem_filter.mpr ⟨member, by simp⟩, rfl⟩
  rw [own]
  constructor
  · rintro same ⟨call, member, -, used⟩
    exact same.mp (.inr ⟨call, member, used⟩)
  · intro apart
    constructor
    · rintro (seen | ⟨call, member, used⟩)
      · exact .inl seen
      · by_cases mine : call.key = key
        · subst mine used
          exact .inr member
        · exact apart ⟨call, member, mine, used⟩
    · rintro (seen | member)
      · exact .inl seen
      · exact .inr ⟨_, member, rfl⟩

end LocalReplayGuard

/-! ## Several nodes -/

/-- The keys of a Redis server with the times at which they expire, in milliseconds. -/
structure RedisServer where
  entries : Table Bytes Nat

namespace RedisServer

/-- `SET key 1 NX PX px`: whether the key was set, or why the command was refused. -/
def setNxPx (server : RedisServer) (now : Nat) (key : Bytes) (px : Nat) :
    Except String Bool × RedisServer :=
  if px = 0 ∨ 2 ^ 63 ≤ now + px then (.error "invalid expire time in 'set' command", server)
  else if (server.entries.find key).any fun expires => now < expires then (.ok false, server)
  else (.ok true, ⟨server.entries.insert key (now + px)⟩)

theorem setNxPx_congr {first second : RedisServer} {key : Bytes}
    (same : first.entries.find key = second.entries.find key) (now px : Nat) :
    (first.setNxPx now key px).1 = (second.setNxPx now key px).1 ∧
      (first.setNxPx now key px).2.entries.find key =
        (second.setNxPx now key px).2.entries.find key := by
  unfold setNxPx
  rw [same]
  split
  · exact ⟨rfl, same⟩
  · split
    · exact ⟨rfl, same⟩
    · exact ⟨rfl, by simp⟩

theorem setNxPx_other (server : RedisServer) (now px : Nat) {key other : Bytes}
    (apart : other ≠ key) :
    (server.setNxPx now key px).2.entries.find other = server.entries.find other := by
  unfold setNxPx
  split
  · rfl
  · split
    · rfl
    · exact Table.find_insert_of_ne _ _ apart

end RedisServer

structure RedisReplayGuard where
  /-- How long a nonce is remembered, in milliseconds (`ttl.as_millis()`). -/
  ttl : Nat

/-- A call on it: when it is made, and why the server cannot be reached, if so. -/
structure RedisCall extends ReplayCall where
  now : Nat
  fault : Option String

namespace RedisReplayGuard

/-- `format!("replay:{key}:{nonce}")`. -/
def redisKey (key : String) (nonce : UInt64) : Bytes :=
  utf8 "replay:" ++ utf8 key ++ 58 :: Delimited.decimal nonce.toNat

variable (replayGuard : RedisReplayGuard)

/-- `u64::try_from(self.ttl.as_millis()).unwrap_or(u64::MAX)`. -/
def ttlMs : Nat :=
  if replayGuard.ttl < 2 ^ 64 then replayGuard.ttl else 2 ^ 64 - 1

def setNx (server : RedisServer) (call : RedisCall) : Except ReplayError Bool × RedisServer :=
  match call.fault with
  | some reason => (.error (.StorageError reason), server)
  | none =>
    let (reply, server) :=
      server.setNxPx call.now (redisKey call.key call.nonce) replayGuard.ttlMs
    (reply.mapError .StorageError, server)

def checkAndAccept (server : RedisServer) (call : RedisCall) :
    Except ReplayError Unit × RedisServer :=
  match replayGuard.setNx server call with
  | (.error reason, server) => (.error reason, server)
  | (.ok inserted, server) =>
    (if inserted then .ok () else .error (.Replay call.nonce), server)

def serve (server : RedisServer) (call : RedisCall) :
    RedisServer := (replayGuard.checkAndAccept server call).2

theorem redisKey_injective {first second : String} {one other : UInt64}
    (same : redisKey first one = redisKey second other) : first = second ∧ one = other := by
  -- Digits hold no colon, so read backwards the nonce ends at the first one.
  have backwards := congrArg List.reverse same
  simp only [redisKey, List.reverse_append, List.reverse_cons, List.append_assoc,
    List.singleton_append] at backwards
  obtain ⟨digits, rest⟩ := Delimited.split_unique (by simpa using Delimited.colon_notMem_decimal one.toNat)
    (by simpa using Delimited.colon_notMem_decimal other.toNat) backwards
  have numbers : one.toNat = other.toNat := by
    rw [← Delimited.ofDecimal_decimal one.toNat, List.reverse_injective digits,
      Delimited.ofDecimal_decimal]
  have texts : utf8 first = utf8 second := List.reverse_injective (List.append_cancel_right rest)
  exact ⟨utf8_injective texts, UInt64.toNat_inj.mp numbers⟩

def Agree (key : String) (first second : RedisServer) : Prop :=
  ∀ nonce, first.entries.find (redisKey key nonce) = second.entries.find (redisKey key nonce)

variable {key : String} {first second : RedisServer}

theorem Agree.own (agree : Agree key first second)
    (replayGuard : RedisReplayGuard) {call : RedisCall} (mine : call.key = key) :
    (replayGuard.checkAndAccept first call).1 = (replayGuard.checkAndAccept second call).1 ∧
      Agree key (replayGuard.serve first call) (replayGuard.serve second call) := by
  subst mine
  unfold serve checkAndAccept setNx
  cases call.fault with
  | some reason => exact ⟨rfl, agree⟩
  | none =>
    obtain ⟨answers, entries⟩ :=
      RedisServer.setNxPx_congr (agree call.nonce) call.now replayGuard.ttlMs
    dsimp only
    rw [answers]
    have later : Agree call.key
        (first.setNxPx call.now (redisKey call.key call.nonce) replayGuard.ttlMs).2
        (second.setNxPx call.now (redisKey call.key call.nonce) replayGuard.ttlMs).2 := by
      intro nonce
      by_cases same : nonce = call.nonce
      · rw [same]
        exact entries
      · have apart : redisKey call.key nonce ≠ redisKey call.key call.nonce :=
          fun equal => same (redisKey_injective equal).2
        rw [RedisServer.setNxPx_other _ _ _ apart, RedisServer.setNxPx_other _ _ _ apart]
        exact agree nonce
    cases (second.setNxPx call.now (redisKey call.key call.nonce) replayGuard.ttlMs).1 with
    | error | ok => exact ⟨rfl, later⟩

theorem Agree.other (agree : Agree key first second)
    (replayGuard : RedisReplayGuard) {call : RedisCall} (apart : call.key ≠ key) :
    Agree key (replayGuard.serve first call) second := by
  intro nonce
  have keys : redisKey key nonce ≠ redisKey call.key call.nonce :=
    fun equal => apart (redisKey_injective equal).1.symm
  rw [← agree nonce]
  unfold serve checkAndAccept setNx
  cases call.fault with
  | some reason => rfl
  | none =>
    dsimp only
    have kept := RedisServer.setNxPx_other first call.now replayGuard.ttlMs keys
    cases (first.setNxPx call.now (redisKey call.key call.nonce) replayGuard.ttlMs).1 with
    | error | ok => exact kept

theorem Agree.run (agree : Agree key first second)
    (replayGuard : RedisReplayGuard) (calls : List RedisCall) :
    Agree key (run replayGuard.serve first calls)
      (run replayGuard.serve second (calls.filter (·.key = key))) := by
  refine run_filter (Agree key) ?_ ?_ agree calls
  · intro first second call mine agree
    exact (agree.own replayGuard (by simpa using mine)).2
  · intro first second call apart agree
    exact agree.other replayGuard (by simpa using apart)

end RedisReplayGuard

/-- What a call answers is what it would answer after the earlier calls of its own session alone:
on the Redis guard always, on the guard of one node exactly when its nonce was not used by another
session, or was seen or used by its own as well. -/
theorem sessions_isolated_iff (replayGuard : LocalReplayGuard) (calls : List ReplayCall) (key : String)
    (nonce : UInt64) (redisGuard : RedisReplayGuard) (server : RedisServer)
    (redisCalls : List RedisCall) (redisCall : RedisCall) :
    (((run LocalReplayGuard.serve replayGuard calls).checkAndAccept key nonce).1 =
        ((run LocalReplayGuard.serve replayGuard
          (calls.filter (·.key = key))).checkAndAccept key nonce).1 ↔
      ((∃ call ∈ calls, call.key ≠ key ∧ call.nonce = nonce) →
        replayGuard.Seen nonce ∨ ⟨key, nonce⟩ ∈ calls)) ∧
    (redisGuard.checkAndAccept (run redisGuard.serve server redisCalls) redisCall).1 =
      (redisGuard.checkAndAccept
        (run redisGuard.serve server (redisCalls.filter (·.key = redisCall.key))) redisCall).1 := by
  have agree : RedisReplayGuard.Agree redisCall.key server server := fun _ => rfl
  exact ⟨LocalReplayGuard.isolated_iff replayGuard calls key nonce,
    ((agree.run redisGuard redisCalls).own redisGuard rfl).1⟩

/-- On the guard of one node, the first ticket of a second session is taken for a replay because
another session has resumed with the same counter. -/
theorem other_session_blocked :
    ((run LocalReplayGuard.serve .new [⟨"first", 1⟩]).checkAndAccept "second" 1).1 =
      .error (.Replay 1) ∧
    (LocalReplayGuard.new.checkAndAccept "second" 1).1 = .ok () := by
  decide

end OpenHttpa.Server
