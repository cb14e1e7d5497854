import OpenHttpa.Channel.Delivery
import OpenHttpa.Channel.HonestRun
import OpenHttpa.Client.Interleaving
import Mathlib.Data.List.FinRange

/-!
# Requests in flight

Any number of trusted requests of one client are under way on a session at once. The client numbers
them in the order in which it seals them (`flight_numbered`). At the server the calls of
`EncryptedJson::from_request` run side by side: each looks its session up, awaits the body and only
then takes the lock under which the number is checked (`Handlers.step`). The handler registers its
sessions with the strict replay strategy, so a request is refused when one that was sealed after it
had the lock before it, and all of them are accepted exactly when, among other things, they get the
lock in the order in which they were sealed (`flight_accepted_iff`).
-/
namespace OpenHttpa.Channel

open OpenHttpa.Core Crypto Proto Headers Server Client

/-- A request on its way to the server. -/
structure Flying where
  line : RequestLine
  body : Bytes
  extra : Option HeaderMap
  sealed : SealedRequest

def sentBy (codecs : RequestCodecs) (shared : SharedSession) (event : SharedEvent) : Option Flying :=
  if shared.poisoned then
    none
  else
    match event with
    | .advance index now =>
      match shared.calls[index]? with
      | some (.numbered (.request line body extra) next) =>
        match (sealRequestBodyUnder codecs now next line body (requestAad codecs shared.session) extra
            shared.session).1 with
        | .error _ => none
        | .ok sealed => some ⟨line, body, extra, SealedRequest.typed sealed⟩
      | _ => none
    | _ => none

/-- The requests that the run puts on the wire. -/
def flight (codecs : RequestCodecs) (shared : SharedSession) : List SharedEvent → List Flying
  | [] => []
  | event :: events =>
    (sentBy codecs shared event).toList ++ flight codecs (shared.step codecs event) events

section Flight

variable {codecs : RequestCodecs} {shared : SharedSession} {event : SharedEvent}

theorem sentBy_made {flying : Flying} (sent : sentBy codecs shared event = some flying) :
    Made codecs shared.session flying.line flying.body flying.extra shared.session.clientCounter
        flying.sealed ∧
      flying.sealed.counter = shared.session.clientCounter ∧
      shared.session.clientCounter ≠ u64Max ∧
      (shared.step codecs event).session.clientCounter = shared.session.clientCounter + 1 := by
  unfold sentBy at sent
  split at sent
  · cases sent
  rename_i working
  split at sent
  · rename_i index now
    split at sent
    · rename_i line body extra next found
      split at sent
      · cases sent
      · rename_i sealed outcome
        cases sent
        obtain ⟨made, below, counter⟩ := sealRequestBodyUnder_ok outcome
        obtain ⟨number, _⟩ := sealBody_ok made
        refine ⟨⟨sealed, made, rfl⟩, number, below, ?_⟩
        rw [SharedSession.step, if_neg working]
        simp only [found]
        exact counter
    · cases sent
  · cases sent

theorem Made.congr {client other : AttestSession} {line : RequestLine} {body : Bytes}
    {extra : Option HeaderMap} {counter : UInt64} {sealed : SealedRequest}
    (made : Made codecs client line body extra counter sealed) (id : client.id = other.id)
    (keys : client.keys = other.keys) : Made codecs other line body extra counter sealed := by
  unfold Made requestAad at made ⊢
  rw [← id, ← keys]
  exact made

/-- What is in flight was made under ascending numbers from the counter on, none of them the last. -/
structure Ascends (codecs : RequestCodecs) (session : AttestSession) (flying : List Flying) :
    Prop where
  made : ∀ one ∈ flying,
    Made codecs session one.line one.body one.extra one.sealed.counter one.sealed
  below : ∀ one ∈ flying, one.sealed.counter ≠ u64Max
  above : ∀ one ∈ flying, session.clientCounter.toNat ≤ one.sealed.counter.toNat
  ascending : flying.Pairwise fun one next => one.sealed.counter.toNat < next.sealed.counter.toNat

theorem flight_numbered (codecs : RequestCodecs) (shared : SharedSession)
    (events : List SharedEvent) : Ascends codecs shared.session (flight codecs shared events) := by
  induction events generalizing shared with
  | nil => exact ⟨by simp [flight], by simp [flight], by simp [flight], by simp [flight]⟩
  | cons event events ih =>
    have moved := SharedSession.step_moved codecs shared event
    obtain ⟨id, keys⟩ := moved.session_kept
    have forward := UInt64.le_iff_toNat_le.mp moved.counter_le
    have later := ih (shared.step codecs event)
    have laterMade : ∀ one ∈ flight codecs (shared.step codecs event) events,
        Made codecs shared.session one.line one.body one.extra one.sealed.counter one.sealed :=
      fun one member => (later.made one member).congr id keys
    have laterAbove : ∀ one ∈ flight codecs (shared.step codecs event) events,
        shared.session.clientCounter.toNat ≤ one.sealed.counter.toNat :=
      fun one member => Nat.le_trans forward (later.above one member)
    unfold flight
    cases sent : sentBy codecs shared event with
    | none => exact ⟨laterMade, later.below, laterAbove, later.ascending⟩
    | some flying =>
      obtain ⟨made, number, below, counter⟩ := sentBy_made sent
      rw [← number] at made
      have next : ∀ one ∈ flight codecs (shared.step codecs event) events,
          flying.sealed.counter.toNat < one.sealed.counter.toNat := by
        intro one member
        have lower := later.above one member
        rw [counter, toNat_succ below] at lower
        rw [number]
        omega
      simp only [Option.toList_some, List.cons_append, List.nil_append]
      refine ⟨?_, ?_, ?_, List.pairwise_cons.mpr ⟨next, later.ascending⟩⟩
      · exact List.forall_mem_cons.mpr ⟨made, laterMade⟩
      · exact List.forall_mem_cons.mpr ⟨by rwa [number], later.below⟩
      · exact List.forall_mem_cons.mpr ⟨by rw [number], laterAbove⟩

/-- The numbers of requests that come in the order in which they were sealed ascend from one that is
below the counter. -/
theorem sublist_ascends {events : List SharedEvent} {flying : List Flying} {last : UInt64}
    (inOrder : flying.Sublist (flight codecs shared events))
    (lower : last < shared.session.clientCounter) :
    (last.toNat :: flying.map (·.sealed.counter.toNat)).Pairwise (· < ·) := by
  obtain ⟨_, _, above, ascending⟩ := flight_numbered codecs shared events
  refine List.pairwise_cons.mpr ⟨?_, List.pairwise_map.mpr (ascending.sublist inOrder)⟩
  intro number member
  obtain ⟨one, sent, rfl⟩ := List.mem_map.mp member
  exact Nat.lt_of_lt_of_le (UInt64.lt_iff_toNat_lt.mp lower) (above one (inOrder.subset sent))

end Flight

/-- A request as it reaches the server, with what was sealed. -/
structure Arrival where
  flying : Flying
  request : Request

/-- The request is unmodified; its authority is left open. -/
structure Unmodified (wire : Bytes → Bytes) (arrival : Arrival) : Prop where
  method : arrival.request.method = arrival.flying.line.method
  path : arrival.request.path = arrival.flying.line.path
  query : arrival.request.query = arrival.flying.line.query
  headers : ∀ name, isAttested name = true ∨ name = hdrAttestTicket ∨ name = contentType →
    arrival.request.headers.getAll name = arrival.flying.sealed.headers.getAll name
  body : wholeBody arrival.request.body = some (wire arrival.flying.sealed.data)

/-- The body is within the limit of the router. -/
def Within (wire : Bytes → Bytes) (limit : Option Nat) (arrival : Arrival) : Prop :=
  ∀ most, limit = some most → (wire arrival.flying.sealed.data).length ≤ most

/-- The server takes itself for the authority that the client sealed, and the body has the type of the
handler. -/
def Addressed {T : Type} (fromSlice : Bytes → Except String T) (arrival : Arrival) : Prop :=
  arrival.flying.line.authority ≠ "" ∧ arrival.request.authority = arrival.flying.line.authority ∧
    ∃ value, fromSlice arrival.flying.body = .ok value

/-- `AtbRegistry::get` of a registry that holds one session. -/
def registryGet (now : Nat) (server : AttestSession) (id : AtbId) : Option AttestSession :=
  if id = server.id ∧ now < server.expiresAt then some server else none

/-- Where `EncryptedJson::from_request` stands with one request: before its first await, before the
body is there, before it takes the lock, or at its end. -/
inductive Stage (T : Type) where
  | arrived
  | located (aad : Bytes) (ticket : DecodedTicket)
  | read (aad : Bytes) (ticket : DecodedTicket) (ciphertext : Bytes)
  | done (outcome : Except Rejection T)
  deriving DecidableEq

/-- What `from_request` does without giving way: the lookup of the session, the reading of the body,
and the call of `with_keys_for_trr` with all that follows it. -/
inductive Part where
  | lookup (now : Nat)
  | body
  | lock (now : Nat)
  deriving DecidableEq

/-- The next part of one handler's call. -/
structure Move (count : Nat) where
  index : Fin count
  part : Part

/-- The session and the calls of `from_request` that run side by side on it. -/
structure Handlers (T : Type) (count : Nat) where
  stage : Fin count → Stage T
  session : AttestSession

/-- The clock, where the part reads it. -/
def Part.time : Part → Option Nat
  | .lookup now => some now
  | .body => none
  | .lock now => some now

def Part.isLock : Part → Bool
  | .lock _ => true
  | _ => false

section Server

variable {T : Type} {count : Nat} (readers : RequestReaders) (fromSlice : Bytes → Except String T)

def Stage.next (request : Request) (session : AttestSession) :
    Stage T → Part → Stage T × AttestSession
  | .arrived, .lookup now =>
    match EncryptedJson.locate readers (registryGet now session) request with
    | .error rejection => (.done (.error rejection), session)
    | .ok (_, aad, ticket) => (.located aad ticket, session)
  | .located aad ticket, .body =>
    match EncryptedJson.readBody readers request with
    | .error rejection => (.done (.error rejection), session)
    | .ok ciphertext => (.read aad ticket ciphertext, session)
  | .read aad ticket ciphertext, .lock now =>
    let taken := EncryptedJson.openLocked readers now request aad ticket ciphertext session
    (.done (EncryptedJson.finish fromSlice taken.1), taken.2)
  | stage, _ => (stage, session)

def Handlers.step (arrivals : Fin count → Arrival) (state : Handlers T count) (move : Move count) :
    Handlers T count :=
  let next := (state.stage move.index).next readers fromSlice (arrivals move.index).request
    state.session move.part
  ⟨Function.update state.stage move.index next.1, next.2⟩

/-- The calls after the moves, from a session that none of them has come to. -/
def handle (server : AttestSession) (arrivals : Fin count → Arrival) (moves : List (Move count)) :
    Handlers T count :=
  run (Handlers.step readers fromSlice arrivals) ⟨fun _ => .arrived, server⟩ moves

/-- Every call goes through its parts in their order, however they are interleaved. -/
def Scheduled (moves : List (Move count)) : Prop :=
  ∀ index, ∃ looked locked,
    (moves.filter (·.index = index)).map (·.part) = [.lookup looked, .body, .lock locked]

/-- The requests in the order in which they get the lock of the session. -/
def lockOrder (arrivals : Fin count → Arrival) (moves : List (Move count)) : List Flying :=
  (moves.filter (·.part.isLock)).map fun move => (arrivals move.index).flying

/-- The request was accepted. -/
def Stage.Accepted (stage : Stage T) : Prop := ∃ value, stage = .done (.ok value)

def Stage.Refused (stage : Stage T) : Prop := ∃ rejection, stage = .done (.error rejection)

end Server

section Handled

variable {T : Type} {count : Nat} {codecs : RequestCodecs} {readers : RequestReaders}
  {wire : Bytes → Bytes} {limit : Option Nat} {fromSlice : Bytes → Except String T}
  {client session : AttestSession} {arrival : Arrival} {arrivals : Fin count → Arrival}
  {moves : List (Move count)}

theorem Unmodified.head (unmodified : Unmodified wire arrival) :
    CarriedHead arrival.flying.line arrival.flying.sealed arrival.request where
  method := unmodified.method
  path := unmodified.path
  query := unmodified.query
  attested name attested := unmodified.headers name (.inl attested)
  ticket := unmodified.headers _ (.inr (.inl rfl))

/-- The lookup of a request finds the associated data and the ticket, in whatever state the session of
the client is. -/
def Locates (readers : RequestReaders) (client : AttestSession) (request : Request) (aad : Bytes)
    (ticket : DecodedTicket) : Prop :=
  ∀ found session, found client.id = some session →
    EncryptedJson.locate readers found request = .ok (session, aad, ticket)

/-- What a call has still to do, and that what it holds is right. -/
def Stage.Awaits (readers : RequestReaders) (client : AttestSession) (request : Request) :
    Stage T → List Part → Prop
  | .arrived, parts => ∃ looked locked, parts = [.lookup looked, .body, .lock locked]
  | .located aad ticket, parts =>
    Locates readers client request aad ticket ∧ ∃ locked, parts = [.body, .lock locked]
  | .read aad ticket ciphertext, parts =>
    Locates readers client request aad ticket ∧
      EncryptedJson.readBody readers request = .ok ciphertext ∧ ∃ locked, parts = [.lock locked]
  | .done outcome, parts => (∃ value, outcome = .ok value) ∧ parts = []

/-- What a part asks of the request and of the time, apart from the numbers that were seen. -/
def Part.Suits (wire : Bytes → Bytes) (limit : Option Nat) (fromSlice : Bytes → Except String T)
    (expiresAt : Nat) (arrival : Arrival) : Part → Prop
  | .lookup now => now < expiresAt
  | .body => Within wire limit arrival
  | .lock now => now < expiresAt ∧ Addressed fromSlice arrival

/-- The request was sealed on the session of the client, under its own number. -/
structure Sealed (codecs : RequestCodecs) (client : AttestSession) (wire : Bytes → Bytes)
    (arrival : Arrival) : Prop where
  made : Made codecs client arrival.flying.line arrival.flying.body arrival.flying.extra
    arrival.flying.sealed.counter arrival.flying.sealed
  below : arrival.flying.sealed.counter ≠ u64Max
  unmodified : Unmodified wire arrival

theorem Sealed.locates (paired : Paired codecs readers) (sealed : Sealed codecs client wire arrival) :
    ∃ aad ticket, Locates readers client arrival.request aad ticket := by
  obtain ⟨list, _, headers⟩ := sealed.made.headers
  exact ⟨_, _, fun found session registered =>
    sealed.unmodified.head.locate paired headers registered⟩

theorem Sealed.typed (sealed : Sealed codecs client wire arrival) :
    arrival.request.headers.getText contentType = some "application/json" := by
  obtain ⟨list, _, headers⟩ := sealed.made.headers
  have held := sealed.unmodified.headers contentType (.inr (.inr rfl))
  rw [headers, HeaderMap.getAll_insert_self] at held
  simp [HeaderMap.getText, HeaderMap.get, held]

theorem locate_expired (readers : RequestReaders) {now : Nat} (expired : ¬ now < session.expiresAt)
    (request : Request) :
    ∃ rejection, EncryptedJson.locate readers (registryGet now session) request =
      .error rejection := by
  have missing : registryGet now session = fun _ => none :=
    funext fun _ => if_neg fun held => expired held.2
  rw [missing]
  unfold EncryptedJson.locate fromRequestParts
  cases request.headers.getText hdrAttestBaseId with
  | none => exact ⟨_, rfl⟩
  | some text =>
    dsimp only
    cases readers.uuid.fromStr text with
    | error reason => exact ⟨_, rfl⟩
    | ok id => exact ⟨_, rfl⟩

theorem Handlers.step_stage (state : Handlers T count) {move : Move count} {index : Fin count}
    (other : index ≠ move.index) :
    (state.step readers fromSlice arrivals move).stage index = state.stage index :=
  Function.update_of_ne other ..

theorem Handlers.step_stage_self (state : Handlers T count) (move : Move count) :
    (state.step readers fromSlice arrivals move).stage move.index =
      ((state.stage move.index).next readers fromSlice (arrivals move.index).request state.session
        move.part).1 :=
  Function.update_self ..

theorem Handlers.refused_run {state : Handlers T count} {index : Fin count}
    (refused : (state.stage index).Refused) (moves : List (Move count)) :
    ((run (Handlers.step readers fromSlice arrivals) state moves).stage index).Refused := by
  apply run_invariant (fun later : Handlers T count => (later.stage index).Refused) _ refused
  intro later move held
  by_cases own : index = move.index
  · subst own
    obtain ⟨rejection, done⟩ := held
    rw [later.step_stage_self, done]
    exact ⟨rejection, rfl⟩
  · rwa [later.step_stage own]

theorem Scheduled.suits_iff (scheduled : Scheduled moves) {expiresAt : Nat} :
    (∀ move ∈ moves, move.part.Suits wire limit fromSlice expiresAt (arrivals move.index)) ↔
      (∀ move ∈ moves, ∀ now ∈ move.part.time, now < expiresAt) ∧
        ∀ index, Within wire limit (arrivals index) ∧ Addressed fromSlice (arrivals index) := by
  constructor
  · intro suits
    refine ⟨?_, fun index => ?_⟩
    · intro move member now timed
      have suit := suits move member
      generalize move.part = part at suit timed
      cases part with
      | lookup =>
        cases timed
        exact suit
      | lock =>
        cases timed
        exact suit.1
      | body => cases timed
    · obtain ⟨looked, locked, parts⟩ := scheduled index
      have has : ∀ part ∈ [.lookup looked, .body, .lock locked],
          Part.Suits wire limit fromSlice expiresAt (arrivals index) part := by
        rw [← parts]
        simp only [List.mem_map, List.mem_filter, decide_eq_true_eq]
        rintro part ⟨move, ⟨member, rfl⟩, rfl⟩
        exact suits move member
      exact ⟨has .body (by simp), (has (.lock locked) (by simp)).2⟩
  · rintro ⟨inTime, fits⟩ move member
    obtain ⟨within, addressed⟩ := fits move.index
    have timed := inTime move member
    generalize move.part = part at timed
    cases part with
    | lookup now => exact timed now rfl
    | body => exact within
    | lock now => exact ⟨timed now rfl, addressed⟩

/-- Every request gets the lock once. -/
theorem Scheduled.lockOrder_perm (scheduled : Scheduled moves) (arrivals : Fin count → Arrival) :
    (lockOrder arrivals moves).Perm (List.ofFn fun index => (arrivals index).flying) := by
  have locks : ((moves.filter (·.part.isLock)).map (·.index)).Perm (List.finRange count) := by
    rw [List.perm_iff_count]
    intro index
    obtain ⟨looked, locked, parts⟩ := scheduled index
    have once : ((moves.filter (·.index = index)).map (·.part)).countP Part.isLock = 1 := by
      rw [parts]
      rfl
    rw [List.countP_map, List.countP_filter] at once
    rw [List.count_finRange, List.count_eq_countP, List.countP_map, List.countP_filter, ← once]
    refine List.countP_congr fun move _ => ?_
    simp [and_comm]
  rw [List.ofFn_eq_map]
  have listed := locks.map fun index => (arrivals index).flying
  rwa [List.map_map] at listed

/-- Requests of the flight that arrive unmodified are sealed. -/
theorem sealed_of_mem_flight {shared : SharedSession} {events : List SharedEvent}
    (sent : ∀ index, (arrivals index).flying ∈ flight codecs shared events)
    (unmodified : ∀ index, Unmodified wire (arrivals index)) (index : Fin count) :
    Sealed codecs shared.session wire (arrivals index) :=
  have numbered := flight_numbered codecs shared events
  ⟨numbered.made _ (sent index), numbered.below _ (sent index), unmodified index⟩

variable (paired : Paired codecs readers) (reads : ReadsWire readers wire limit)
  (separates : Separates codecs client.keys)

include paired reads separates

theorem Sealed.locked_cases (ready : Ready client session)
    (sealed : Sealed codecs client wire arrival) {aad : Bytes} {ticket : DecodedTicket}
    {ciphertext : Bytes} (located : Locates readers client arrival.request aad ticket)
    (read : EncryptedJson.readBody readers arrival.request = .ok ciphertext) (now : Nat) :
    let taken := EncryptedJson.openLocked readers now arrival.request aad ticket ciphertext session
    let passes := (now < session.expiresAt ∧ Addressed fromSlice arrival) ∧
      session.strictLastSeen.toNat < arrival.flying.sealed.counter.toNat
    (passes ∧ (∃ value, EncryptedJson.finish fromSlice taken.1 = .ok value) ∧
        Ready client taken.2 ∧ taken.2.strictLastSeen = arrival.flying.sealed.counter ∧
        taken.2.expiresAt = session.expiresAt) ∨
      (¬ passes ∧ ∃ rejection, EncryptedJson.finish fromSlice taken.1 = .error rejection) := by
  intro taken passes
  have within : Within wire limit arrival := by
    by_contra longer
    obtain ⟨rejection, refused⟩ := reads.refused sealed.unmodified.body longer
    rw [refused] at read
    cases read
  have carried : Carried readers arrival.flying.line arrival.flying.sealed arrival.request :=
    ⟨sealed.unmodified.head, reads.readBody sealed.typed sealed.unmodified.body within⟩
  -- With its session at hand the last part of a call is the whole of a call.
  have whole : EncryptedJson.fromRequest readers fromSlice now (fun _ => some session)
      arrival.request = (EncryptedJson.finish fromSlice taken.1, some taken.2) := by
    simp only [EncryptedJson.fromRequest, EncryptedJson.decrypt,
      located (fun _ => some session) session rfl, read]
    rfl
  have handled : ∀ value : T, EncryptedJson.finish fromSlice taken.1 = .ok value ↔
      fromSlice arrival.flying.body = .ok value ∧ now < session.expiresAt ∧
        session.strictLastSeen < arrival.flying.sealed.counter ∧ arrival.request.authority ≠ "" ∧
        arrival.request.authority = arrival.flying.line.authority := by
    intro value
    have accepts : (EncryptedJson.fromRequest readers fromSlice now (fun _ => some session)
        arrival.request).1 = .ok value ↔ _ :=
      ready.fromRequest_iff paired separates sealed.made carried rfl sealed.below now
    rwa [whole] at accepts
  cases finished : EncryptedJson.finish fromSlice taken.1 with
  | error rejection =>
    refine .inr ⟨?_, rejection, rfl⟩
    rintro ⟨⟨alive, named, same, value, json⟩, above⟩
    have accepted := (handled value).mpr
      ⟨json, alive, UInt64.lt_iff_toNat_lt.mpr above, by rwa [same], same⟩
    rw [finished] at accepted
    cases accepted
  | ok value =>
    obtain ⟨json, alive, above, named, same⟩ := (handled value).mp finished
    obtain ⟨left, leaves, again⟩ := ready.fromRequest_left paired separates sealed.made carried rfl
      sealed.below (congrArg Prod.fst whole |>.trans finished)
    rw [whole] at leaves
    cases leaves
    rw [same] at named
    exact .inl ⟨⟨⟨alive, named, same, value, json⟩, UInt64.lt_iff_toNat_lt.mp above⟩,
      ⟨value, rfl⟩, again⟩

theorem Stage.next_cases (ready : Ready client session)
    (sealed : Sealed codecs client wire arrival) {stage : Stage T} {part : Part} {parts : List Part}
    (awaits : stage.Awaits readers client arrival.request (part :: parts)) :
    let next := stage.next readers fromSlice arrival.request session part
    let number := arrival.flying.sealed.counter
    let passes := part.Suits wire limit fromSlice session.expiresAt arrival ∧
      (part.isLock = true → session.strictLastSeen.toNat < number.toNat)
    (passes ∧ next.1.Awaits readers client arrival.request parts ∧ Ready client next.2 ∧
        next.2.strictLastSeen = (if part.isLock = true then number else session.strictLastSeen) ∧
        next.2.expiresAt = session.expiresAt) ∨
      (¬ passes ∧ next.1.Refused) := by
  cases stage with
  | arrived =>
    obtain ⟨looked, locked, same⟩ := awaits
    cases same
    by_cases alive : looked < session.expiresAt
    · obtain ⟨aad, ticket, located⟩ := sealed.locates paired
      have registered : registryGet looked session client.id = some session :=
        if_pos ⟨ready.id.symm, alive⟩
      have found := located (registryGet looked session) session registered
      refine .inl ⟨⟨alive, nofun⟩, ?_⟩
      simp only [Stage.next, found]
      exact ⟨⟨located, locked, rfl⟩, ready, rfl, trivial⟩
    · obtain ⟨rejection, missing⟩ := locate_expired readers alive arrival.request
      refine .inr ⟨fun passes => alive passes.1, rejection, ?_⟩
      simp only [Stage.next, missing]
  | located aad ticket =>
    obtain ⟨located, locked, same⟩ := awaits
    cases same
    by_cases within : Within wire limit arrival
    · have read := reads.readBody sealed.typed sealed.unmodified.body within
      refine .inl ⟨⟨within, nofun⟩, ?_⟩
      simp only [Stage.next, read]
      exact ⟨⟨located, read, locked, rfl⟩, ready, rfl, trivial⟩
    · obtain ⟨rejection, refused⟩ := reads.refused sealed.unmodified.body within
      refine .inr ⟨fun passes => within passes.1, rejection, ?_⟩
      simp only [Stage.next, refused]
  | read aad ticket ciphertext =>
    obtain ⟨located, read, locked, same⟩ := awaits
    cases same
    obtain ⟨⟨suits, above⟩, ⟨value, accepted⟩, left⟩ | ⟨fails, rejection, refused⟩ :=
      Sealed.locked_cases paired reads separates ready sealed located read locked
    · exact .inl ⟨⟨suits, fun _ => above⟩, ⟨⟨value, accepted⟩, rfl⟩, left⟩
    · exact .inr ⟨fun passes => fails ⟨passes.1, passes.2 rfl⟩, rejection, congrArg _ refused⟩
  | done outcome =>
    obtain ⟨_, none⟩ := awaits
    cases none

/-- All calls are accepted exactly when every part of them suits and the numbers that come to the lock
ascend from the last one seen. -/
theorem Handlers.accepted_iff (sealed : ∀ index, Sealed codecs client wire (arrivals index))
    {state : Handlers T count} (ready : Ready client state.session)
    (awaits : ∀ index, (state.stage index).Awaits readers client (arrivals index).request
      ((moves.filter (·.index = index)).map (·.part))) :
    (∀ index, ((run (Handlers.step readers fromSlice arrivals) state moves).stage index).Accepted) ↔
      (∀ move ∈ moves, move.part.Suits wire limit fromSlice state.session.expiresAt
        (arrivals move.index)) ∧
      (state.session.strictLastSeen.toNat ::
        (lockOrder arrivals moves).map (·.sealed.counter.toNat)).IsChain (· < ·) := by
  induction moves generalizing state with
  | nil =>
    refine iff_of_true (fun index => ?_) (by simp [lockOrder])
    have waits := awaits index
    cases stage : state.stage index with
    | done outcome =>
      rw [stage] at waits
      obtain ⟨⟨value, rfl⟩, _⟩ := waits
      exact ⟨value, stage⟩
    | arrived | located | read =>
      rw [stage] at waits
      simp [Stage.Awaits] at waits
  | cons move moves ih =>
    have own := awaits move.index
    rw [List.filter_cons_of_pos (by simp), List.map_cons] at own
    rw [run_cons, List.forall_mem_cons]
    obtain ⟨⟨suits, above⟩, waits, again, last, expiry⟩ | ⟨fails, refused⟩ :=
      Stage.next_cases paired reads separates ready (sealed move.index) own
    · have waiting : ∀ index, ((state.step readers fromSlice arrivals move).stage index).Awaits
          readers client (arrivals index).request ((moves.filter (·.index = index)).map (·.part)) := by
        intro index
        by_cases same : index = move.index
        · subst same
          rwa [state.step_stage_self]
        · have old := awaits index
          rw [List.filter_cons_of_neg (by simpa using Ne.symm same)] at old
          rwa [state.step_stage same]
      have seen : (state.step readers fromSlice arrivals move).session.strictLastSeen =
        if move.part.isLock = true then (arrivals move.index).flying.sealed.counter
        else state.session.strictLastSeen := last
      have expires : (state.step readers fromSlice arrivals move).session.expiresAt =
        state.session.expiresAt := expiry
      rw [ih again waiting, expires, seen, and_iff_right suits]
      refine and_congr_right fun _ => ?_
      cases locks : move.part.isLock with
      | false => simp [lockOrder, locks]
      | true => simp [lockOrder, locks, above locks]
    · constructor
      · intro accepted
        obtain ⟨value, taken⟩ := accepted move.index
        have first : ((state.step readers fromSlice arrivals move).stage move.index).Refused := by
          rwa [state.step_stage_self]
        obtain ⟨rejection, stays⟩ := Handlers.refused_run first moves
        rw [taken] at stays
        cases stays
      · rintro ⟨⟨suits, _⟩, chain⟩
        refine absurd ⟨suits, fun locks => ?_⟩ fails
        simp only [lockOrder, List.filter_cons_of_pos, locks, List.map_cons,
          List.isChain_cons_cons] at chain
        exact chain.1

theorem handle_accepted_iff (ready : Ready client session)
    (sealed : ∀ index, Sealed codecs client wire (arrivals index)) (scheduled : Scheduled moves) :
    (∀ index, ((handle readers fromSlice session arrivals moves).stage index).Accepted) ↔
      (∀ move ∈ moves, ∀ now ∈ move.part.time, now < session.expiresAt) ∧
        (∀ index, Within wire limit (arrivals index) ∧ Addressed fromSlice (arrivals index)) ∧
        (session.strictLastSeen.toNat ::
          (lockOrder arrivals moves).map (·.sealed.counter.toNat)).Pairwise (· < ·) := by
  have start : Ready client (Handlers.mk (T := T) (fun _ : Fin count => .arrived) session).session :=
    ready
  rw [← List.isChain_iff_pairwise, ← and_assoc, ← scheduled.suits_iff]
  exact Handlers.accepted_iff paired reads separates sealed start scheduled

end Handled

/-- Every trusted request that a client has in flight on a session of the handler, however its calls
ran side by side and however the calls of the extractor do, is accepted exactly when no call reads the
clock after the session has expired, every body is within the limit of the router and of the type of its
handler, every request names the server as the server does, and they get the lock of the session in the
order in which they were sealed. -/
theorem flight_accepted_iff {T : Type} {codecs : RequestCodecs} {readers : RequestReaders}
    (paired : Paired codecs readers) {wire : Bytes → Bytes} {limit : Option Nat}
    (reads : ReadsWire readers wire limit) {fromSlice : Bytes → Except String T} {shared : SharedSession}
    {server : AttestSession} (inStep : InStep shared.session server)
    (separates : Separates codecs shared.session.keys) (events : List SharedEvent) {count : Nat}
    (arrivals : Fin count → Arrival)
    (once : (List.ofFn fun index => (arrivals index).flying).Perm (flight codecs shared events))
    (unmodified : ∀ index, Unmodified wire (arrivals index)) {moves : List (Move count)}
    (scheduled : Scheduled moves) :
    (∀ index, ((handle readers fromSlice server arrivals moves).stage index).Accepted) ↔
      (∀ move ∈ moves, ∀ now ∈ move.part.time, now < server.expiresAt) ∧
        (∀ index, Within wire limit (arrivals index) ∧ Addressed fromSlice (arrivals index)) ∧
        lockOrder arrivals moves = flight codecs shared events := by
  have sent : ∀ index, (arrivals index).flying ∈ flight codecs shared events :=
    fun index => once.mem_iff.mp (List.mem_ofFn.mpr ⟨index, rfl⟩)
  rw [handle_accepted_iff paired reads separates inStep.toReady
    (sealed_of_mem_flight sent unmodified) scheduled]
  refine and_congr_right fun _ => and_congr_right fun _ => ?_
  constructor
  · intro ordered
    have locking := List.pairwise_map.mp (List.pairwise_cons.mp ordered).2
    have locked := (scheduled.lockOrder_perm arrivals).trans once
    exact locked.eq_of_pairwise (fun one next _ _ lower higher => by omega) locking
      (flight_numbered codecs shared events).ascending
  · intro same
    rw [same]
    exact sublist_ascends (.refl _) inStep.seen

def twoCalls : List SharedEvent :=
  [.call 0 (.request chatLine [7] none), .advance 0 0, .advance 0 0,
    .call 0 (.request chatLine [8] none), .advance 1 0, .advance 1 0]

def twoInFlight : List Flying := flight plainCodecs (.new zeroShared) twoCalls

theorem twoInFlight_length : twoInFlight.length = 2 := by decide +kernel

def twoArrivals (index : Fin 2) : Arrival :=
  let flying := twoInFlight.get (index.cast twoInFlight_length.symm)
  { flying,
    request :=
      ⟨flying.line.method, ⟨flying.line.path, flying.line.query, some flying.line.authority⟩, none,
        flying.sealed.headers, [.ok flying.sealed.data]⟩ }

theorem ofFn_get_cast {α : Type} {list : List α} {count : Nat} (length : list.length = count) :
    (List.ofFn fun index : Fin count => list.get (index.cast length.symm)) = list := by
  subst length
  exact List.ofFn_get list

theorem twoArrivals_sent : (List.ofFn fun index => (twoArrivals index).flying) = twoInFlight :=
  ofFn_get_cast twoInFlight_length

theorem twoArrivals_unmodified (index : Fin 2) : Unmodified plainWriter.wire (twoArrivals index) where
  method := rfl
  path := rfl
  query := rfl
  headers _ _ := rfl
  body := by simp [twoArrivals, wholeBody, Except.toOption, plainWriter]

theorem twoArrivals_fit (index : Fin 2) :
    Within plainWriter.wire none (twoArrivals index) ∧
      Addressed (T := Bytes) Except.ok (twoArrivals index) := by
  have named : ∀ flying ∈ twoInFlight, flying.line.authority ≠ "" := by decide +kernel
  exact ⟨nofun, named _ (List.get_mem ..), rfl, _, rfl⟩

def callParts (index : Fin 2) : List (Move 2) :=
  [⟨index, .lookup 0⟩, ⟨index, .body⟩, ⟨index, .lock 0⟩]

/-- The second request is ahead of the first until it comes to the lock. -/
def besideMoves : List (Move 2) :=
  [⟨1, .lookup 0⟩, ⟨0, .lookup 0⟩, ⟨1, .body⟩, ⟨0, .body⟩, ⟨0, .lock 0⟩, ⟨1, .lock 0⟩]

/-- Two requests locked in their order are accepted. -/
theorem in_order_accepted :
    ((handle plainReaders (T := Bytes) .ok strictShared twoArrivals besideMoves).stage 0).Accepted ∧
      ((handle plainReaders (T := Bytes) .ok strictShared twoArrivals besideMoves).stage 1).Accepted := by
  have scheduled : Scheduled besideMoves := fun index => ⟨0, 0, by revert index; decide⟩
  have inTime : ∀ move ∈ besideMoves, ∀ now ∈ move.part.time, now < strictShared.expiresAt := by
    decide
  have ordered : lockOrder twoArrivals besideMoves = twoInFlight := twoArrivals_sent
  have accepted := (flight_accepted_iff plain_paired plain_readsWire zero_inStep (plain_separates _)
    twoCalls twoArrivals (List.Perm.of_eq twoArrivals_sent) twoArrivals_unmodified scheduled).mpr
      ⟨inTime, twoArrivals_fit, ordered⟩
  exact ⟨accepted 0, accepted 1⟩

/-- The second request is handled first, and the first one is refused as a replay. -/
theorem overtaken_request_refused :
    (List.ofFn fun index => (twoArrivals index).flying).Perm twoInFlight ∧
      (∀ index, Unmodified plainWriter.wire (twoArrivals index)) ∧
      (∀ index, Within plainWriter.wire none (twoArrivals index) ∧
        Addressed (T := Bytes) Except.ok (twoArrivals index)) ∧
      Scheduled (callParts 1 ++ callParts 0) ∧
      List.ofFn (handle plainReaders Except.ok strictShared twoArrivals
        (callParts 1 ++ callParts 0)).stage =
          [.done (.error ⟨401, "replay nonce rejected"⟩), .done (.ok [8])] := by
  refine ⟨.of_eq twoArrivals_sent, twoArrivals_unmodified, twoArrivals_fit, ?_, by decide +kernel⟩
  exact fun index => ⟨0, 0, by revert index; decide⟩

/-- **Service.** After a handshake that nobody tampers with, however the client's calls run side by side,
whichever of their requests get lost, and however the calls of the extractor run side by side: those
that arrive unmodified and fit get to the handler, if they get the lock of the session in the order in
which they were sealed and no call reads the clock after the session has expired. -/
theorem honest_session_serves {Secret Decap Coins Signer T : Type}
    (prim : Primitives Secret Decap Coins Signer) (headers : Codecs)
    (honest : HonestRun Secret Decap Coins Signer) (accepted : honest.Accepted prim headers)
    {codecs : RequestCodecs} {readers : RequestReaders} (paired : Paired codecs readers)
    {wire : Bytes → Bytes} {limit : Option Nat} (reads : ReadsWire readers wire limit)
    (separates : ∀ keys, Separates codecs keys) (fromSlice : Bytes → Except String T) :
    ∃ session registered,
      attestHandshake prim headers (honest.connected prim headers) honest.instant honest.clientDraws =
        some (.ok session) ∧
      (honest.handled prim headers).registered = some registered ∧
      ∀ events (count : Nat) (arrivals : Fin count → Arrival) (moves : List (Move count)),
        (lockOrder arrivals moves).Sublist (flight codecs (.new session) events) →
        Scheduled moves →
        (∀ index, Unmodified wire (arrivals index)) →
        (∀ index, Within wire limit (arrivals index) ∧ Addressed fromSlice (arrivals index)) →
        (∀ move ∈ moves, ∀ now ∈ move.part.time, now < registered.expiresAt) →
        ∀ index, ((handle readers fromSlice registered arrivals moves).stage index).Accepted := by
  obtain ⟨out, session, registered, attested, keys⟩ := HonestRun.completes headers accepted
  refine ⟨session, sessionOf out, (attestHandshake_ok_iff ..).mpr ⟨_, attested⟩, registered, ?_⟩
  have inStep : InStep session (sessionOf out) := by
    have shape := attested.session
    rw [keys] at shape
    rw [shape]
    exact inStep_new out ..
  intro events count arrivals moves inOrder scheduled unmodified fit inTime
  have sent : ∀ index, (arrivals index).flying ∈ flight codecs (.new session) events := by
    intro index
    apply inOrder.subset
    exact (scheduled.lockOrder_perm arrivals).mem_iff.mpr (List.mem_ofFn.mpr ⟨index, rfl⟩)
  have sealed := sealed_of_mem_flight sent unmodified
  apply (handle_accepted_iff paired reads (separates _) inStep.toReady sealed scheduled).mpr
  exact ⟨inTime, fit, sublist_ascends inOrder inStep.seen⟩

/-- The session of a handshake serves requests. -/
theorem mutual_session_serves :
    ∃ session registered,
      attestHandshake .plain .plain (mutualRun.connected .plain .plain) 0 mutualRun.clientDraws =
        some (.ok session) ∧
      (mutualRun.handled .plain .plain).registered = some registered ∧
      ∀ events (count : Nat) (arrivals : Fin count → Arrival) (moves : List (Move count)),
        (lockOrder arrivals moves).Sublist (flight plainCodecs (.new session) events) →
        Scheduled moves →
        (∀ index, Unmodified plainWriter.wire (arrivals index)) →
        (∀ index, Within plainWriter.wire none (arrivals index) ∧ Addressed .ok (arrivals index)) →
        (∀ move ∈ moves, ∀ now ∈ move.part.time, now < registered.expiresAt) →
        ∀ index, ((handle plainReaders (T := Bytes)
          .ok registered arrivals moves).stage index).Accepted :=
  honest_session_serves .plain .plain mutualRun mutualRun_accepted plain_paired plain_readsWire
    plain_separates _

end OpenHttpa.Channel
