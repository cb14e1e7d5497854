import OpenHttpa.Core.SessionCalls
import OpenHttpa.Headers.Trailers
import OpenHttpa.Server.WriteNonces

/-!
# Resumption from tickets

`Rtt0ResumptionMiddleware::call` of `openhttpa-server/src/middleware.rs`, on a server that makes
sessions, answers requests on them and seals their exports into tickets. A resumption builds a new
session object from the state frozen in the ticket and puts it in the registry in place of the one
that is there, before anything about the request is authenticated. So nothing is accepted twice and
no counter runs back as long as every ticket that is resumed is as far as the session it displaces
(`resumed_sessions_recall`).
-/
namespace OpenHttpa.Server

open OpenHttpa.Core Crypto Proto Headers

/-- A request as `Rtt0ResumptionMiddleware` reads it. -/
structure Rtt0Request where
  safe : Bool
  /-- `Attest-Ticket-Resumption`: absent, or the ticket it holds by its place among those sealed, or
  nothing that unseals. -/
  resumption : Option (Option Nat)
  /-- `Attest-Ticket`: absent, or its text, or why it has none. -/
  attestTicket : Option (Except String String)

def Rtt0Request.salt (base64 : Base64) (request : Rtt0Request) : Option (Octets 16) :=
  match decodeAttestTicket base64 request.attestTicket with
  | .ok decoded => decoded.salt
  | .error _ => none

inductive Rtt0Reply where
  | tooEarly
  | forwarded
deriving DecidableEq

/-- A server that resumes from tickets. -/
structure TicketServer where
  cells : List AttestSession
  registry : AtbRegistry
  tickets : List DurableSessionState
  /-- The nonces of the requests accepted, with the keys they were accepted under, newest first. -/
  accepted : List (SessionKeys × UInt64)
  /-- The response counters used, with their keys, newest first. -/
  answered : List (SessionKeys × UInt64)

inductive TicketEvent where
  | handshake (id : AtbId) (suite : CipherSuite) (version : ProtocolVersion) (keys : SessionKeys)
      (expiresAt : Nat) (strategy : ReplayStrategy) (result : Option VerificationResult)
  /-- A handler receives a request on a session it holds; the closure authenticates it. -/
  | request (cell now : Nat) (nonce : UInt64) (f : SessionKeys → UInt64 → Except Unit Unit)
  | respond (cell now : Nat)
  | sealTicket (cell nowInst nowSys : Nat)
  /-- A request passes the resumption middleware; `fresh` is the answer of the replay guard. -/
  | rtt0 (nowInst nowSys : Nat) (fresh : Bool) (request : Rtt0Request)
  | lookup (now : Nat) (id : AtbId)
  | evict (now : Nat)

namespace TicketServer

def start (capacity : Nat) : TicketServer := ⟨[], .withCapacity capacity, [], [], []⟩

def alive (server : TicketServer) : Nat → Nat → Bool := aliveAt id server.cells

def register (server : TicketServer) (session : AttestSession) : TicketServer :=
  let (registry, cells) := server.registry.register server.cells session.id session
  { server with registry, cells }

variable (base64 : Base64) (hkdf : Hkdf 48) (sha384 : Bytes → Octets 48)

/-- `Rtt0ResumptionMiddleware::call`. -/
def rtt0Call (nowInst nowSys : Nat) (fresh : Bool) (request : Rtt0Request)
    (server : TicketServer) : Rtt0Reply × TicketServer :=
  match request.resumption with
  | none => (.forwarded, server)
  | some ticket =>
    if request.safe = false then
      (.tooEarly, server)
    else
      match ticket.bind (server.tickets[·]?) with
      | none => (.forwarded, server)
      | some state =>
        -- `unseal_session` refuses an expired ticket, and the guard one it has seen.
        if state.expiresAt < nowSys ∨ fresh = false then
          (.forwarded, server)
        else
          let keys := Node.resumedKeys hkdf sha384 state (request.salt base64)
          (.forwarded, server.register (.fromDurable nowInst nowSys { state with keys }))

def step (server : TicketServer) : TicketEvent → TicketServer
  | .handshake id suite version keys expiresAt strategy result =>
    server.register (.new id suite version keys expiresAt strategy result)
  | .request handle now nonce f =>
    match server.cells[handle]? with
    | none => server
    | some session =>
      let received := session.withKeysForTrr now nonce f
      { server with
        cells := server.cells.set handle received.2
        accepted :=
          match received.1 with
          | .ok (.ok _) => (session.keys, nonce) :: server.accepted
          | _ => server.accepted }
  | .respond handle now =>
    match server.cells[handle]? with
    | none => server
    | some session =>
      { server with
        cells := server.cells.set handle (session.withKeysForTrs now fun _ _ => ()).2
        answered :=
          -- The closure runs on the counter whenever the session has not expired.
          if now < session.expiresAt then (session.keys, session.serverCounter) :: server.answered
          else server.answered }
  | .sealTicket handle nowInst nowSys =>
    match server.cells[handle]? with
    | none => server
    | some session =>
      { server with tickets := server.tickets ++ [session.exportDurable nowInst nowSys] }
  | .rtt0 nowInst nowSys fresh request =>
    (server.rtt0Call base64 hkdf sha384 nowInst nowSys fresh request).2
  | .lookup now id => { server with registry := (server.registry.get (server.alive now) id).2 }
  | .evict now => { server with registry := server.registry.evictExpired (server.alive now) }

def resumes (nowSys : Nat) (fresh : Bool) (request : Rtt0Request) (server : TicketServer) :
    Option DurableSessionState :=
  if request.safe then
    (request.resumption.join.bind (server.tickets[·]?)).filter fun state =>
      decide (nowSys ≤ state.expiresAt) && fresh
  else none

theorem rtt0Call_eq (nowInst nowSys : Nat) (fresh : Bool) (request : Rtt0Request)
    (server : TicketServer) : (server.rtt0Call base64 hkdf sha384 nowInst nowSys fresh request).2 =
      match server.resumes nowSys fresh request with
      | none => server
      | some state =>
        server.register (.fromDurable nowInst nowSys { state with
          keys := Node.resumedKeys hkdf sha384 state (request.salt base64) }) := by
  unfold rtt0Call resumes
  cases header : request.resumption with
  | none => cases request.safe <;> rfl
  | some ticket =>
    cases safe : request.safe with
    | false => rfl
    | true =>
      simp only [Bool.true_eq_false, if_false, if_true, Option.join_some]
      cases found : ticket.bind (server.tickets[·]?) with
      | none => rfl
      | some state =>
        by_cases refused : state.expiresAt < nowSys ∨ fresh = false
        · have out : (decide (nowSys ≤ state.expiresAt) && fresh) = false := by
            rcases refused with expired | seen
            · simp [Nat.not_le.mpr expired]
            · simp [seen]
          simp only [if_pos refused, Option.filter_some, out, Bool.false_eq_true, if_false]
        · obtain ⟨timely, unseen⟩ := not_or.mp refused
          have inside : (decide (nowSys ≤ state.expiresAt) && fresh) = true := by
            simp [Nat.not_lt.mp timely, Bool.eq_true_of_not_eq_false unseen]
          simp only [if_neg refused, Option.filter_some, inside, if_true]

/-- The session object made last with its keys. -/
def Newest (server : TicketServer) (handle : Nat) (session : AttestSession) : Prop :=
  server.cells[handle]? = some session ∧
    ∀ later other, server.cells[later]? = some other → other.keys = session.keys → later ≤ handle

variable {server : TicketServer} {handle : Nat} {session : AttestSession} {keys : SessionKeys}

theorem Newest.unique {other : Nat} {session' : AttestSession}
    (newest : server.Newest handle session) (newest' : server.Newest other session')
    (same : session.keys = session'.keys) : handle = other := by
  have below := newest.2 other session' newest'.1 same.symm
  have above := newest'.2 handle session newest.1 same
  omega

def InScope (server : TicketServer) : TicketEvent → Prop
  | .handshake _ _ _ keys _ _ _ => ∀ session ∈ server.cells, session.keys ≠ keys
  | .rtt0 _ nowSys fresh request =>
    server.resumes nowSys fresh request ≠ none → request.salt base64 = none
  | _ => True

/-- The ticket is as far as the session: it holds the window and the response counter the session
has now. -/
def UpToDate (state : DurableSessionState) (session : AttestSession) : Prop :=
  state.replayHighest = session.replayGuard.highest ∧
    state.replayWindow = session.replayGuard.window.toList ∧
    state.serverCounter = session.serverCounter

/-- An event that does not go back behind what happened: a session is used only as long as no other
has been resumed with its keys, and a ticket is resumed only while it is up to date with the newest
session of its keys, which slides its window or has accepted nothing. -/
def Current (server : TicketServer) : TicketEvent → Prop
  | .request handle _ _ _ | .respond handle _ =>
    ∀ session, server.cells[handle]? = some session → server.Newest handle session
  | .rtt0 _ nowSys fresh request =>
    ∀ state, server.resumes nowSys fresh request = some state →
      ∃ handle session, server.Newest handle session ∧ session.keys = state.keys ∧
        UpToDate state session ∧
        (session.replayStrategy ≠ .StrictMonotonic ∨
          ∀ nonce, (session.keys, nonce) ∉ server.accepted)
  | _ => True

structure Remembers (accepted answered : List (SessionKeys × UInt64)) (session : AttestSession) :
    Prop where
  spent : ∃ spent, session.Spent spent ∧
    ∀ nonce, (session.keys, nonce) ∈ accepted → nonce ∈ spent
  strict : session.replayStrategy = .StrictMonotonic → session.replayGuard = .new
  /-- The response counter has passed none of the responses by. -/
  counter : ∀ counter, (session.keys, counter) ∈ answered → counter ≤ session.serverCounter

/-- What holds as long as every event is current. -/
structure Recalled (server : TicketServer) : Prop where
  newest : ∀ handle session, server.Newest handle session →
    Remembers server.accepted server.answered session
  accepting : ∀ entry ∈ server.accepted, ∃ session ∈ server.cells, session.keys = entry.1
  answering : ∀ entry ∈ server.answered, ∃ session ∈ server.cells, session.keys = entry.1
  once : server.accepted.Nodup
  /-- Under the same keys response counters never decreased. -/
  forward : server.answered.Pairwise fun later earlier =>
    later.1 = earlier.1 → earlier.2 ≤ later.2

theorem Recalled.register (recalled : server.Recalled)
    (remembers : Remembers server.accepted server.answered session) :
    (server.register session).Recalled := by
  unfold TicketServer.register AtbRegistry.register
  cases server.registry.insert session.id server.cells.length with
  | error => exact recalled
  | ok registry =>
    refine ⟨?_, ?_, ?_, recalled.once, recalled.forward⟩
    · rintro handle other ⟨found, last⟩
      by_cases added : handle = server.cells.length
      · rw [getElem?_append_singleton, if_pos added] at found
        obtain rfl : session = other := Option.some.inj found
        exact remembers
      · rw [getElem?_append_singleton, if_neg added] at found
        refine recalled.newest handle other ⟨found, ?_⟩
        intro later third earlier same
        apply last later third _ same
        obtain ⟨inside, _⟩ := List.getElem?_eq_some_iff.mp earlier
        rw [List.getElem?_append_left inside]
        exact earlier
    · intro entry member
      obtain ⟨known, inside, same⟩ := recalled.accepting entry member
      exact ⟨known, List.mem_append_left _ inside, same⟩
    · intro entry member
      obtain ⟨known, inside, same⟩ := recalled.answering entry member
      exact ⟨known, List.mem_append_left _ inside, same⟩

variable {left : AttestSession} {accepted answered : List (SessionKeys × UInt64)} {id : AtbId}

theorem last_of_set {cells : List AttestSession} {index : Nat}
    (held : cells[handle]? = some session) (keys : left.keys = session.keys) {other : SessionKeys}
    (last : ∀ later third, (cells.set handle left)[later]? = some third → third.keys = other →
      later ≤ index) :
    ∀ later third, cells[later]? = some third → third.keys = other → later ≤ index := by
  obtain ⟨inside, _⟩ := List.getElem?_eq_some_iff.mp held
  intro later third earlier equal
  by_cases at_handle : handle = later
  · subst at_handle
    obtain rfl : session = third := Option.some.inj (held.symm.trans earlier)
    exact last handle left (List.getElem?_set_self inside) (keys.trans equal)
  · apply last later third _ equal
    rw [List.getElem?_set_ne at_handle]
    exact earlier

theorem Recalled.use (recalled : server.Recalled) (newest : server.Newest handle session)
    (keys : left.keys = session.keys)
    (accepts : ∀ entry ∈ accepted, entry ∈ server.accepted ∨ entry.1 = session.keys)
    (answers : ∀ entry ∈ answered, entry ∈ server.answered ∨ entry.1 = session.keys)
    (remembers : Remembers accepted answered left) (once : accepted.Nodup)
    (forward : answered.Pairwise fun later earlier => later.1 = earlier.1 → earlier.2 ≤ later.2) :
    Recalled { server with cells := server.cells.set handle left, accepted, answered } := by
  obtain ⟨inside, _⟩ := List.getElem?_eq_some_iff.mp newest.1
  -- The sessions behind the handles have the keys they had.
  have still : ∀ other ∈ server.cells, ∃ other' ∈ server.cells.set handle left,
      other'.keys = other.keys := by
    intro other member
    obtain ⟨index, found⟩ := List.getElem?_of_mem member
    by_cases same : handle = index
    · obtain rfl : session = other := by
        rw [← same, newest.1] at found
        exact Option.some.inj found
      exact ⟨left, List.mem_set inside left, keys⟩
    · refine ⟨other, ?_, rfl⟩
      apply List.mem_of_getElem? (i := index)
      rw [List.getElem?_set_ne same]
      exact found
  -- So a log that grew under the keys of the session used is still under keys of some session.
  have keyed : ∀ {log grown : List (SessionKeys × UInt64)},
      (∀ entry ∈ log, ∃ known ∈ server.cells, known.keys = entry.1) →
      (∀ entry ∈ grown, entry ∈ log ∨ entry.1 = session.keys) →
        ∀ entry ∈ grown, ∃ known ∈ server.cells.set handle left, known.keys = entry.1 := by
    intro log grown known grows entry member
    rcases grows entry member with old | new
    · obtain ⟨other, within, same⟩ := known entry old
      obtain ⟨other', within', same'⟩ := still other within
      exact ⟨other', within', same'.trans same⟩
    · exact ⟨left, List.mem_set inside left, keys.trans new.symm⟩
  refine ⟨?_, keyed recalled.accepting accepts, keyed recalled.answering answers, once, forward⟩
  rintro index other ⟨found, last⟩
  by_cases same : handle = index
  · subst same
    obtain rfl : left = other := by
      rw [List.getElem?_set_self inside] at found
      exact Option.some.inj found
    exact remembers
  · rw [List.getElem?_set_ne same] at found
    have before : server.Newest index other := ⟨found, last_of_set newest.1 keys last⟩
    have elsewhere : other.keys ≠ session.keys :=
      fun equal => same (newest.unique before equal.symm)
    have held := recalled.newest index other before
    refine ⟨?_, held.strict, ?_⟩
    · obtain ⟨spent, holds, covered⟩ := held.spent
      refine ⟨spent, holds, ?_⟩
      intro nonce member
      rcases accepts _ member with old | new
      · exact covered nonce old
      · exact absurd new elsewhere
    · intro counter member
      rcases answers _ member with old | new
      · exact held.counter counter old
      · exact absurd new elsewhere

theorem Recalled.remembers_new (recalled : server.Recalled)
    (own : ∀ session ∈ server.cells, session.keys ≠ keys) (id : AtbId)
    (suite : CipherSuite) (version : ProtocolVersion) (expiresAt : Nat) (strategy : ReplayStrategy)
    (result : Option VerificationResult) :
    Remembers server.accepted server.answered
      (.new id suite version keys expiresAt strategy result) := by
  refine ⟨⟨[], AttestSession.new_spent .., ?_⟩, fun _ => rfl, ?_⟩
  · intro nonce member
    obtain ⟨session, inside, same⟩ := recalled.accepting _ member
    exact absurd same (own session inside)
  · intro counter member
    obtain ⟨session, inside, same⟩ := recalled.answering _ member
    exact absurd same (own session inside)

theorem Remembers.restored (remembers : Remembers accepted answered session)
    {state : DurableSessionState} (keys : session.keys = state.keys)
    (upToDate : UpToDate state session)
    (kept : session.replayStrategy ≠ .StrictMonotonic ∨ ∀ nonce, (session.keys, nonce) ∉ accepted)
    (nowInst nowSys : Nat) :
    Remembers accepted answered (.fromDurable nowInst nowSys state) := by
  obtain ⟨highest, window, counter⟩ := upToDate
  have guard := AttestSession.fromDurable_replayGuard highest window nowInst nowSys
  have tracked : ∀ spent, session.replayGuard.Tracks spent →
      (AttestSession.fromDurable nowInst nowSys state).Spent spent := by
    intro spent tracks
    rw [← guard] at tracks
    exact tracks
  refine ⟨?_, ?_, ?_⟩
  · cases strategy : session.replayStrategy with
    | StrictMonotonic =>
      have none := kept.resolve_left (not_not.mpr strategy)
      refine ⟨[], tracked [] ?_, ?_⟩
      · rw [remembers.strict strategy]
        exact ReplayGuard.new_tracks
      · intro nonce member
        rw [keys] at none
        exact absurd member (none nonce)
    | SlidingWindow w =>
      obtain ⟨spent, holds, covered⟩ := remembers.spent
      simp only [AttestSession.Spent, strategy] at holds
      refine ⟨spent, tracked spent holds, ?_⟩
      rw [keys] at covered
      exact covered
  · intro strict
    cases strict
  · intro used member
    have bound := remembers.counter used
    rw [keys, ← counter] at bound
    exact bound member

theorem Recalled.request (recalled : server.Recalled)
    (newest : server.Newest handle session) (now : Nat) (nonce : UInt64)
    (f : SessionKeys → UInt64 → Except Unit Unit) :
    Recalled { server with
      cells := server.cells.set handle (session.withKeysForTrr now nonce f).2
      accepted :=
        match (session.withKeysForTrr now nonce f).1 with
        | .ok (.ok _) => (session.keys, nonce) :: server.accepted
        | _ => server.accepted } := by
  have held := recalled.newest handle session newest
  obtain ⟨spent, holds, covered⟩ := held.spent
  obtain ⟨spent', after, more, keys, admitted⟩ := session.withKeysForTrr_spent now nonce f holds
  obtain ⟨_, _, _, counter⟩ := session.withKeysForTrr_keeps now nonce f
  obtain ⟨strategy, untouched⟩ := session.withKeysForTrr_strategy now nonce f
  generalize session.withKeysForTrr now nonce f = returned at *
  obtain ⟨result, left⟩ := returned
  have strict : left.replayStrategy = .StrictMonotonic → left.replayGuard = .new := by
    intro strict
    rw [strategy] at strict
    rw [untouched strict]
    exact held.strict strict
  have numbered : ∀ used, (left.keys, used) ∈ server.answered → used ≤ left.serverCounter := by
    rw [keys, counter]
    exact held.counter
  have refused : Recalled { server with cells := server.cells.set handle left } := by
    have covers : ∀ other, (left.keys, other) ∈ server.accepted → other ∈ spent' := by
      intro other member
      rw [keys] at member
      exact more (covered other member)
    exact recalled.use newest keys (fun _ old => .inl old) (fun _ old => .inl old)
      ⟨⟨spent', after, covers⟩, strict, numbered⟩ recalled.once recalled.forward
  cases result with
  | error failure => exact refused
  | ok answer =>
    cases answer with
    | error failure => exact refused
    | ok value =>
      obtain ⟨fresh, gone, _⟩ := admitted value rfl
      have covers : ∀ other, (left.keys, other) ∈ (session.keys, nonce) :: server.accepted →
          other ∈ spent' := by
        intro other member
        rw [keys] at member
        rcases List.mem_cons.mp member with same | old
        · cases same
          exact gone
        · exact more (covered other old)
      have once : ((session.keys, nonce) :: server.accepted).Nodup :=
        List.nodup_cons.mpr ⟨fun old => fresh (covered nonce old), recalled.once⟩
      refine recalled.use newest keys ?_ (fun _ old => .inl old)
        ⟨⟨spent', after, covers⟩, strict, numbered⟩ once recalled.forward
      intro entry member
      rcases List.mem_cons.mp member with rfl | old
      · exact .inr rfl
      · exact .inl old

theorem Recalled.respond (recalled : server.Recalled)
    (newest : server.Newest handle session) (now : Nat) :
    Recalled { server with
      cells := server.cells.set handle (session.withKeysForTrs now fun _ _ => ()).2
      answered :=
        if now < session.expiresAt then (session.keys, session.serverCounter) :: server.answered
        else server.answered } := by
  have held := recalled.newest handle session newest
  obtain ⟨counter, left, further⟩ := session.withKeysForTrs_keeps now fun _ _ => ()
  have onward : session.serverCounter ≤ counter := UInt64.le_iff_toNat_le.mpr further
  have keys : (session.withKeysForTrs now fun _ _ => ()).2.keys = session.keys := by rw [left]
  -- What is answered now is numbered by the counter the session had before.
  have remembers : ∀ answered, (∀ used, (session.keys, used) ∈ answered →
      used ≤ session.serverCounter) →
        Remembers server.accepted answered (session.withKeysForTrs now fun _ _ => ()).2 := by
    intro answered bounded
    rw [left]
    obtain ⟨spent, holds, covered⟩ := held.spent
    exact ⟨⟨spent, holds.congr rfl rfl rfl, covered⟩, held.strict,
      fun used member => UInt64.le_trans (bounded used member) onward⟩
  by_cases alive : now < session.expiresAt
  · rw [if_pos alive]
    have bounded : ∀ used, (session.keys, used) ∈
        (session.keys, session.serverCounter) :: server.answered →
          used ≤ session.serverCounter := by
      intro used member
      rcases List.mem_cons.mp member with same | old
      · cases same
        exact UInt64.le_refl _
      · exact held.counter used old
    refine recalled.use newest keys (fun _ old => .inl old) ?_ (remembers _ bounded) recalled.once
      (List.pairwise_cons.mpr ⟨?_, recalled.forward⟩)
    · intro entry member
      rcases List.mem_cons.mp member with rfl | old
      · exact .inr rfl
      · exact .inl old
    · rintro ⟨used, earlier⟩ member same
      cases same
      exact held.counter earlier member
  · rw [if_neg alive]
    exact recalled.use newest keys (fun _ old => .inl old) (fun _ old => .inl old)
      (remembers _ held.counter) recalled.once recalled.forward

theorem step_recalled (server : TicketServer) (event : TicketEvent) (recalled : server.Recalled)
    (met : server.InScope base64 event ∧ server.Current event) :
    (server.step base64 hkdf sha384 event).Recalled := by
  obtain ⟨scope, current⟩ := met
  cases event with
  | handshake id suite version keys expiresAt strategy result =>
    exact recalled.register (recalled.remembers_new scope ..)
  | request handle now nonce f =>
    simp only [step]
    cases found : server.cells[handle]? with
    | none => exact recalled
    | some session => exact recalled.request (current session found) now nonce f
  | respond handle now =>
    simp only [step]
    cases found : server.cells[handle]? with
    | none => exact recalled
    | some session => exact recalled.respond (current session found) now
  | sealTicket handle nowInst nowSys =>
    simp only [step]
    cases server.cells[handle]? with
    | none => exact recalled
    | some session =>
      exact ⟨recalled.newest, recalled.accepting, recalled.answering, recalled.once,
        recalled.forward⟩
  | rtt0 nowInst nowSys fresh request =>
    simp only [step, rtt0Call_eq]
    cases resumed : server.resumes nowSys fresh request with
    | none => exact recalled
    | some state =>
      have unsalted : request.salt base64 = none := scope (by simp [resumed])
      obtain ⟨handle, session, newest, keys, upToDate, kept⟩ := current state resumed
      simp only [unsalted, Node.resumedKeys]
      exact recalled.register
        ((recalled.newest handle session newest).restored keys upToDate kept nowInst nowSys)
  | lookup | evict =>
    exact ⟨recalled.newest, recalled.accepting, recalled.answering, recalled.once,
      recalled.forward⟩

/-- Over every run with keys of its own for each handshake and without salts, in which sessions and
tickets are used only while they are current, no nonce is accepted twice under the same keys and the
response counters used under the same keys never decrease. -/
theorem resumed_sessions_recall (base64 : Base64) (hkdf : Hkdf 48) (sha384 : Bytes → Octets 48)
    (capacity : Nat) (events : List TicketEvent)
    (scope : Along (step base64 hkdf sha384) (InScope base64) (start capacity) events)
    (current : Along (step base64 hkdf sha384) Current (start capacity) events) :
    (run (step base64 hkdf sha384) (start capacity) events).accepted.Nodup ∧
      (run (step base64 hkdf sha384) (start capacity) events).answered.Pairwise
        fun later earlier => later.1 = earlier.1 → earlier.2 ≤ later.2 := by
  have fresh : (start capacity).Recalled := by
    refine ⟨?_, by simp [start], by simp [start], by simp [start], by simp [start]⟩
    rintro handle session ⟨found, _⟩
    simp [start] at found
  have recalled := run_invariant_along Recalled (step_recalled base64 hkdf sha384) fresh
    (scope.and current)
  exact ⟨recalled.once, recalled.forward⟩

theorem newest_of_last (last : server.cells.length = handle + 1)
    (found : server.cells[handle]? = some session) : server.Newest handle session := by
  refine ⟨found, ?_⟩
  intro later other inside _
  obtain ⟨bound, _⟩ := List.getElem?_eq_some_iff.mp inside
  omega

def plainStep : TicketServer → TicketEvent → TicketServer :=
  step .plain (.zero 48) (fun _ => .zero 48)

def plainResumption : TicketEvent := .rtt0 0 0 true ⟨true, some (some 0), none⟩

def accepting (handle : Nat) (nonce : UInt64) : TicketEvent := .request handle 0 nonce fun _ _ => .ok ()

/-- A session takes a request and answers it, is sealed into a ticket and resumed from it, and goes
on with the next request. -/
def resumedUpToDate : List TicketEvent :=
  [.handshake ⟨0⟩ .X25519MlKem768Aes256GcmSha384 .V2 .zero 10 (.SlidingWindow 64) none,
    accepting 0 1, .respond 0 0, .sealTicket 0 0 0, plainResumption, accepting 1 2, .respond 1 0]

/-- The run is in scope and current, accepts two nonces and uses two response counters, in order. -/
theorem up_to_date_ticket_recalls :
    (run plainStep (start 5) resumedUpToDate).accepted = [(.zero, 2), (.zero, 1)] ∧
      (run plainStep (start 5) resumedUpToDate).answered = [(.zero, 2), (.zero, 1)] ∧
      (run plainStep (start 5) resumedUpToDate).accepted.Nodup := by
  have scope : Along plainStep (InScope .plain) (start 5) resumedUpToDate := by
    refine ⟨by simp [InScope, start], trivial, trivial, trivial, fun _ => rfl, trivial, trivial,
      trivial⟩
  have current : Along plainStep Current (start 5) resumedUpToDate := by
    refine ⟨trivial, fun _ found => newest_of_last rfl found,
      fun _ found => newest_of_last rfl found, trivial, ?_,
      fun _ found => newest_of_last rfl found, fun _ found => newest_of_last rfl found, trivial⟩
    intro state resumed
    cases resumed
    exact ⟨0, _, newest_of_last rfl rfl, rfl, ⟨rfl, rfl, rfl⟩, .inl (by decide +kernel)⟩
  refine ⟨by decide +kernel, by decide +kernel, ?_⟩
  exact (resumed_sessions_recall .plain (.zero 48) (fun _ => .zero 48) 5 resumedUpToDate scope
    current).1

/-- A ticket is sealed right after the handshake; the session then takes a request and makes two
responses, is resumed, and takes the request again. -/
def resumedOutdated : List TicketEvent :=
  [.handshake ⟨0⟩ .X25519MlKem768Aes256GcmSha384 .V2 .zero 10 .StrictMonotonic none,
    .sealTicket 0 0 0, accepting 0 1, .respond 0 0, .respond 0 0, plainResumption, .lookup 0 ⟨0⟩,
    accepting 1 1, .respond 1 0]

/-- The session resumed from the ticket is the one the registry returns. It accepts the nonce that was
accepted before, and its response counter is back at 1 after 2 was used. -/
theorem outdated_ticket_forgets :
    Along plainStep (InScope .plain) (start 5) resumedOutdated ∧
      (run plainStep (start 5) resumedOutdated).registry.sessions.lookup ⟨0⟩ = some 1 ∧
      (run plainStep (start 5) resumedOutdated).accepted = [(.zero, 1), (.zero, 1)] ∧
      (run plainStep (start 5) resumedOutdated).answered = [(.zero, 1), (.zero, 2), (.zero, 1)] ∧
      ¬ (run plainStep (start 5) resumedOutdated).accepted.Nodup := by
  have scope : Along plainStep (InScope .plain) (start 5) resumedOutdated := by
    refine ⟨by simp [InScope, start], trivial, trivial, trivial, trivial, fun _ => rfl, trivial,
      trivial, trivial, trivial⟩
  refine ⟨scope, by decide +kernel, by decide +kernel, by decide +kernel, by decide +kernel⟩

/-- A request on its way through the middleware, with the clocks and the answer of the guard. -/
structure Delivery where
  nowInst : Nat
  nowSys : Nat
  fresh : Bool
  request : Rtt0Request

def deliver (server : TicketServer) (delivery : Delivery) : TicketServer :=
  (server.rtt0Call base64 hkdf sha384 delivery.nowInst delivery.nowSys delivery.fresh
    delivery.request).2

def Stored (id : AtbId) (keys : SessionKeys) (server : TicketServer) : Prop :=
  ∃ handle session, server.registry.sessions.lookup id = some handle ∧
    server.cells[handle]? = some session ∧ session.keys = keys

/-- A request that resumes no session under the identifier, or one from a ticket with the same keys
and without a salt, or with the very salt the keys were derived from. -/
def KeepsKeys (id : AtbId) (keys : SessionKeys) (server : TicketServer)
    (delivery : Delivery) : Prop :=
  ∀ state, server.resumes delivery.nowSys delivery.fresh delivery.request = some state →
    state.id = id → server.registry.liveCount < server.registry.maxSessions →
      (delivery.request.salt base64 = none ∧ state.keys = keys) ∨
        ∃ salt, delivery.request.salt base64 = some salt ∧
          SessionKeys.derive0rtt hkdf sha384 state.resumptionSecret salt = .ok keys

theorem register_stored_iff (stored : server.Stored id keys) (session : AttestSession) :
    (server.register session).Stored id keys ↔
      (session.id = id → server.registry.liveCount < server.registry.maxSessions →
        session.keys = keys) := by
  unfold register AtbRegistry.register AtbRegistry.insert
  by_cases room : server.registry.liveCount < server.registry.maxSessions
  · rw [if_pos room]
    simp only [room, true_imp_iff, AtbRegistry.remove_eq]
    by_cases same : session.id = id
    · subst same
      simp only [Stored, List.lookup_cons_self, true_imp_iff]
      constructor
      · rintro ⟨handle, other, found, inside, equal⟩
        cases found
        rw [List.getElem?_concat_length] at inside
        cases inside
        exact equal
      · intro equal
        exact ⟨_, session, rfl, List.getElem?_concat_length, equal⟩
    · obtain ⟨handle, other, found, inside, equal⟩ := stored
      simp only [same, false_imp_iff, iff_true]
      refine ⟨handle, other, ?_, ?_, equal⟩
      · rw [Assoc.lookup_cons_of_ne (Ne.symm same), Assoc.lookup_without_of_ne _ (Ne.symm same)]
        exact found
      · obtain ⟨bound, _⟩ := List.getElem?_eq_some_iff.mp inside
        rw [List.getElem?_append_left bound]
        exact inside
  · rw [if_neg room]
    simp only [room, false_imp_iff, imp_true_iff, iff_true]
    exact stored

theorem resumedKeys_eq_iff (state : DurableSessionState) (salt : Option (Octets 16))
    (keys : SessionKeys) : Node.resumedKeys hkdf sha384 state salt = keys ↔
      (salt = none ∧ state.keys = keys) ∨ ∃ value, salt = some value ∧
          SessionKeys.derive0rtt hkdf sha384 state.resumptionSecret value = .ok keys := by
  cases salt with
  | none => simp [Node.resumedKeys]
  | some value =>
    obtain ⟨derived, ok, _⟩ : ∃ derived,
        SessionKeys.derive0rtt hkdf sha384 state.resumptionSecret value = .ok derived ∧ _ :=
      SessionKeys.expandSlots_ok hkdf _ _ _
    simp [Node.resumedKeys, ok]

theorem deliver_stored_iff (stored : server.Stored id keys) (delivery : Delivery) :
    (server.deliver base64 hkdf sha384 delivery).Stored id keys ↔
      server.KeepsKeys base64 hkdf sha384 id keys delivery := by
  unfold deliver KeepsKeys
  rw [rtt0Call_eq]
  cases server.resumes delivery.nowSys delivery.fresh delivery.request with
  | none =>
    refine ⟨fun _ state resumed => ?_, fun _ => stored⟩
    cases resumed
  | some state =>
    simp only [register_stored_iff stored, AttestSession.fromDurable, resumedKeys_eq_iff,
      Option.some.injEq, forall_eq']

/-- Over every sequence of requests, whatever MACs they carry, the session stored under an identifier
has the keys it had all the time exactly when every request keeps them. -/
theorem keys_kept_iff (base64 : Base64) (hkdf : Hkdf 48) (sha384 : Bytes → Octets 48)
    (server : TicketServer) (id : AtbId) (keys : SessionKeys) (stored : server.Stored id keys)
    (deliveries : List Delivery) :
    (∀ taken, taken <+: deliveries →
        (run (deliver base64 hkdf sha384) server taken).Stored id keys) ↔
      Along (deliver base64 hkdf sha384) (KeepsKeys base64 hkdf sha384 id keys) server deliveries :=
  always_iff_along (Stored id keys)
    (fun _ delivery held => deliver_stored_iff base64 hkdf sha384 held delivery) stored deliveries

def markedKeys : SessionKeys := { SessionKeys.zero with clientMacKey := .repeated 32 1 }

def ticketed : TicketServer :=
  run plainStep (start 5)
    [.handshake ⟨0⟩ .X25519MlKem768Aes256GcmSha384 .V2 markedKeys 10 .StrictMonotonic none,
      .sealTicket 0 0 0]

theorem ticketed_stored : ticketed.Stored ⟨0⟩ markedKeys := ⟨0, _, rfl, rfl, rfl⟩

def saltedRequest (safe : Bool) : Delivery :=
  ⟨0, 0, true, safe, some (some 0),
    some (.ok (encodeAttestTicket .plain 1 [] (some (.zero 16))))⟩

/-- A resumption without a salt, and one under an unsafe method, leave the keys alone. -/
theorem unsalted_resumption_keeps_keys :
    (run (deliver .plain (.zero 48) fun _ => .zero 48) ticketed
      [⟨0, 0, true, true, some (some 0), none⟩, saltedRequest false]).Stored ⟨0⟩ markedKeys := by
  have kept : Along (deliver .plain (.zero 48) fun _ => .zero 48)
      (KeepsKeys .plain (.zero 48) (fun _ => .zero 48) ⟨0⟩ markedKeys) ticketed
      [⟨0, 0, true, true, some (some 0), none⟩, saltedRequest false] := by
    refine ⟨?_, ?_, trivial⟩
    · intro state resumed _ _
      cases resumed
      exact .inl ⟨rfl, rfl⟩
    · intro state resumed _ _
      cases resumed
  exact (keys_kept_iff .plain (.zero 48) (fun _ => .zero 48) ticketed ⟨0⟩ markedKeys ticketed_stored
    _).mpr kept _ List.prefix_rfl

/-- A request with the ticket and a salt, and with an empty MAC, replaces the keys of the session. -/
theorem salted_request_replaces_keys :
    decodeAttestTicket .plain (saltedRequest true).request.attestTicket =
        .ok ⟨1, [], some (.zero 16)⟩ ∧
      ticketed.Stored ⟨0⟩ markedKeys ∧
      ¬ (run (deliver .plain (.zero 48) fun _ => .zero 48) ticketed
        [saltedRequest true]).Stored ⟨0⟩ markedKeys := by
  have read : decodeAttestTicket .plain (saltedRequest true).request.attestTicket =
      .ok ⟨1, [], some (.zero 16)⟩ := decodeAttestTicket_encode ..
  refine ⟨read, ticketed_stored, ?_⟩
  rw [run_cons, run_nil, deliver_stored_iff _ _ _ ticketed_stored]
  intro keeps
  have salted : (saltedRequest true).request.salt .plain = some (.zero 16) := by
    rw [Rtt0Request.salt, read]
  rcases keeps _ rfl rfl (by decide) with ⟨unsalted, _⟩ | ⟨salt, _, derived⟩
  · rw [salted] at unsalted
    cases unsalted
  · have zeros : SessionKeys.zero = markedKeys := Except.ok.inj derived
    exact absurd zeros (by decide)

end TicketServer

end OpenHttpa.Server
