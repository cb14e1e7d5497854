import OpenHttpa.Lib.Counters
import OpenHttpa.Server.Extractors
import OpenHttpa.Server.Registry
import OpenHttpa.Server.Ws

/-!
# Nonces under the server write key

One server, with everything on it that encrypts under a server write key: sessions made by
handshakes, their responses and response streams, WebSocket connections upgraded on them, and
sessions restored from tickets. Each session object and each connection counts on its own, so a run
stands for a bank of counters: each event leaves the bank alone, opens one counter or draws from one
(`Node.Effect.bank`). The encryptions of a run have distinct nonces under each key exactly when no
encrypting step draws a number that another counter of the key has already passed.
-/
namespace OpenHttpa.Server

open OpenHttpa.Core Crypto Proto

/-- A shared session object, with the response counter it was made with. A panic inside the
session's mutex poisons it for good. -/
structure Cell where
  session : AttestSession
  firstCounter : UInt64
  poisoned : Bool

/-- A server with all that seals for it. -/
structure Node where
  cells : List Cell
  registry : AtbRegistry
  sockets : List AttestWsSession
  /-- Every response stream begun so far, with the handle of its session. -/
  streams : List (Nat × SealStream)
  tickets : List DurableSessionState
  /-- The encryptions performed under server write keys, newest first. -/
  log : List Encryption

inductive Event where
  /-- A handshake completes in `aths_handler`. -/
  | handshake (id : AtbId) (suite : CipherSuite) (version : ProtocolVersion) (keys : SessionKeys)
      (expiresAt : Nat) (result : Option VerificationResult)
  /-- A handler calls `OpenHttpaSession::seal` on a session it holds. -/
  | respond (cell now : Nat) (aad : Bytes) (value : Except String Bytes)
  /-- A handler calls `seal_stream`. -/
  | openStream (cell : Nat) (aad : Bytes)
  | chunk (stream now : Nat) (item : Except String Bytes)
  | upgrade (now : Nat) (id : AtbId)
  | send (socket : Nat) (typeByte : UInt8) (payload : Bytes)
  | sealTicket (cell nowInst nowSys : Nat)
  /-- A 0-RTT request brings a ticket back; `fresh` is the answer of the replay guard. -/
  | resume (ticket nowInst nowSys : Nat) (fresh : Bool) (salt : Option (Octets 16))
  | evict (now : Nat)

namespace Node

def start (capacity : Nat) : Node := ⟨[], .withCapacity capacity, [], [], [], []⟩

def alive (node : Node) : Nat → Nat → Bool := aliveAt Cell.session node.cells

def register (node : Node) (session : AttestSession) : Node :=
  let (registry, cells) :=
    node.registry.register node.cells session.id ⟨session, session.serverCounter, false⟩
  { node with registry, cells }

def usable (node : Node) (handle : Nat) : Option Cell :=
  (node.cells[handle]?).filter fun cell => !cell.poisoned

/-- The keys of a resumed session: fresh ones when the request brings a salt. -/
def resumedKeys (hkdf : Hkdf 48) (sha384 : Bytes → Octets 48) (state : DurableSessionState)
    (salt : Option (Octets 16)) : SessionKeys :=
  match salt with
  | none => state.keys
  | some salt =>
    match SessionKeys.derive0rtt hkdf sha384 state.resumptionSecret salt with
    | .ok keys => keys
    | .error _ => state.keys

def step (cipher : Cipher) (codec : BodyCodec) (sha384 : Bytes → Octets 48) (hkdf : Hkdf 48)
    (idText : AtbId → Bytes) (node : Node) : Event → Node
  | .handshake id suite version keys expiresAt result =>
    node.register (AttestSession.new id suite version keys expiresAt .StrictMonotonic result)
  | .respond handle now aad value =>
    match node.usable handle with
    | none => node
    | some cell =>
      let sealed := sealResponse cipher codec now aad value cell.session
      { node with
        cells := node.cells.set handle { cell with session := sealed.2.2 }
        log := sealed.2.1 ++ node.log }
  | .openStream handle aad => { node with streams := node.streams ++ [(handle, .start aad)] }
  | .chunk index now item =>
    match node.streams[index]? with
    | none => node
    | some (handle, stream) =>
      match node.usable handle with
      | none => node
      | some cell =>
        let sealed := sealChunk cipher sha384 now stream item cell.session
        { node with
          cells := node.cells.set handle
            { cell with session := sealed.2.2.1, poisoned := decide (sealed.1 = .panicked) }
          streams := node.streams.set index (handle, sealed.2.2.2)
          log := sealed.2.1 ++ node.log }
  | .upgrade now id =>
    match node.registry.get (node.alive now) id with
    | (none, registry) => { node with registry }
    | (some handle, registry) =>
      match node.usable handle with
      | none => { node with registry }
      | some cell =>
        match AttestWsSession.upgrade now (idText id) cell.session with
        | .error _ => { node with registry }
        | .ok socket => { node with registry, sockets := node.sockets ++ [socket] }
  | .send index typeByte payload =>
    match node.sockets[index]? with
    | none => node
    | some socket =>
      let sent := socket.encodeFrame cipher typeByte payload
      { node with sockets := node.sockets.set index sent.2.2, log := sent.2.1 ++ node.log }
  | .sealTicket handle nowInst nowSys =>
    match node.usable handle with
    | none => node
    | some cell =>
      { node with tickets := node.tickets ++ [cell.session.exportDurable nowInst nowSys] }
  | .resume index nowInst nowSys fresh salt =>
    match node.tickets[index]? with
    | none => node
    | some state =>
      if state.expiresAt < nowSys ∨ fresh = false then node
      else
        let keys := resumedKeys hkdf sha384 state salt
        node.register (AttestSession.fromDurable nowInst nowSys { state with keys })
  | .evict now => { node with registry := node.registry.evictExpired (node.alive now) }

end Node

/-- What draws a number under a server write key: a session object or a connection. -/
inductive Writer where
  | session (handle : Nat)
  | socket (index : Nat)
deriving DecidableEq

/-- The counter of a session object. The number a poisoned one was drawing is spent. -/
def Cell.counter (cell : Cell) : Counter (Octets 32) where
  key := cell.session.keys.serverWriteKey
  start := cell.firstCounter.toNat
  next := cell.session.serverCounter.toNat + if cell.poisoned then 1 else 0

def AttestWsSession.counter (socket : AttestWsSession) : Counter (Octets 32) where
  key := socket.outbound.key.raw
  start := 1
  next := socket.outbound.counter.toNat

namespace Node

variable (node : Node)

def counterOf : Writer → Option (Counter (Octets 32))
  | .session handle => (node.cells[handle]?).map Cell.counter
  | .socket index => (node.sockets[index]?).map AttestWsSession.counter

def sealer (handle now : Nat) : Option Writer :=
  match node.usable handle with
  | none => none
  | some cell => if cell.session.expiresAt ≤ now then none else some (.session handle)

def drawsFrom : Event → Option Writer
  | .respond handle now _ (.ok _) => node.sealer handle now
  | .chunk index now (.ok _) =>
    match node.streams[index]? with
    | none => none
    | some (handle, _) => node.sealer handle now
  | .send index _ _ => if index < node.sockets.length then some (.socket index) else none
  | _ => none

/-- No other writer has passed the counter. -/
def Unpassed (event : Event) : Prop :=
  ∀ writer counter, node.drawsFrom event = some writer → node.counterOf writer = some counter →
    ∀ other rival, other ≠ writer → node.counterOf other = some rival →
      rival.key = counter.key → ¬ rival.Passed counter.next

/-- No counter is at its maximum. -/
def BelowMax : Prop :=
  (∀ cell ∈ node.cells, cell.session.serverCounter ≠ u64Max) ∧
    ∀ socket ∈ node.sockets, socket.outbound.counter ≠ u64Max

instance (node : Node) : Decidable node.BelowMax := inferInstanceAs (Decidable (_ ∧ _))

def KeysBound (hkdf : Hkdf 48) (sha384 : Bytes → Octets 48) (ivOf : Octets 32 → Octets 12)
    (node : Node) : Event → Prop
  | .handshake _ _ _ keys _ _ => keys.serverWriteIv = ivOf keys.serverWriteKey
  | .resume index _ _ _ (some salt) =>
    ∀ state keys, node.tickets[index]? = some state →
      SessionKeys.derive0rtt hkdf sha384 state.resumptionSecret salt = .ok keys →
        keys.serverWriteIv = ivOf keys.serverWriteKey
  | _ => True

/-- The bank a server stands for: its counters, and the log read back as numbers. -/
def bank (ivOf : Octets 32 → Octets 12) (node : Node) : Bank Writer (Octets 32) where
  counter := node.counterOf
  drawn := node.log.map (Encryption.number ivOf)

structure Sound (ivOf : Octets 32 → Octets 12) (node : Node) : Prop where
  /-- The log holds exactly the numbers the counters have passed. -/
  covered : (node.bank ivOf).Covered
  cellIv : ∀ cell ∈ node.cells,
    cell.session.keys.serverWriteIv = ivOf cell.session.keys.serverWriteKey
  cellOrder : ∀ cell ∈ node.cells, cell.counter.start ≤ cell.counter.next
  socketIv : ∀ socket ∈ node.sockets, socket.outbound.writeIv = ivOf socket.outbound.key.raw
  socketOrder : ∀ socket ∈ node.sockets, socket.counter.start ≤ socket.counter.next
  ticketIv : ∀ state ∈ node.tickets, state.keys.serverWriteIv = ivOf state.keys.serverWriteKey
  logged : ∀ entry ∈ node.log, ∃ number, entry.nonce = counterNonce (ivOf entry.key) number

/-- What one event can do, and the writer it draws from. -/
inductive Effect (ivOf : Octets 32 → Octets 12) (node after : Node) : Option Writer → Prop where
  /-- No counter is opened or moved; a ticket may be written. -/
  | quiet (cells : after.cells = node.cells) (sockets : after.sockets = node.sockets)
      (log : after.log = node.log)
      (tickets : ∀ state ∈ after.tickets, state ∈ node.tickets ∨
        ∃ cell ∈ node.cells, state.keys = cell.session.keys) : Effect ivOf node after none
  | registered (session : AttestSession)
      (bound : session.keys.serverWriteIv = ivOf session.keys.serverWriteKey)
      (cells : after.cells = node.cells ++ [⟨session, session.serverCounter, false⟩])
      (sockets : after.sockets = node.sockets) (log : after.log = node.log)
      (tickets : after.tickets = node.tickets) : Effect ivOf node after none
  | connected (socket : AttestWsSession)
      (bound : socket.outbound.writeIv = ivOf socket.outbound.key.raw)
      (counter : socket.outbound.counter = 1) (cells : after.cells = node.cells)
      (sockets : after.sockets = node.sockets ++ [socket]) (log : after.log = node.log)
      (tickets : after.tickets = node.tickets) : Effect ivOf node after none
  | sealedBy (handle : Nat) (cell moved : Cell) (found : node.cells[handle]? = some cell)
      (keys : moved.session.keys = cell.session.keys)
      (counter : moved.counter = { cell.counter with next := cell.counter.next + 1 })
      (number : cell.counter.next = cell.session.serverCounter.toNat)
      (cells : after.cells = node.cells.set handle moved) (sockets : after.sockets = node.sockets)
      (log : after.log = ⟨cell.session.keys.serverWriteKey,
        counterNonce cell.session.keys.serverWriteIv cell.session.serverCounter⟩ :: node.log)
      (tickets : after.tickets = node.tickets) : Effect ivOf node after (some (.session handle))
  | sentBy (index : Nat) (socket moved : AttestWsSession)
      (found : node.sockets[index]? = some socket)
      (key : moved.outbound.key = socket.outbound.key)
      (iv : moved.outbound.writeIv = socket.outbound.writeIv)
      (counter : moved.counter = { socket.counter with next := socket.counter.next + 1 })
      (cells : after.cells = node.cells) (sockets : after.sockets = node.sockets.set index moved)
      (log : after.log = ⟨socket.outbound.key.raw,
        counterNonce socket.outbound.writeIv socket.outbound.counter⟩ :: node.log)
      (tickets : after.tickets = node.tickets) : Effect ivOf node after (some (.socket index))

variable {node} {ivOf : Octets 32 → Octets 12} {after : Node}

theorem usable_eq_some {handle : Nat} {cell : Cell} (found : node.usable handle = some cell) :
    node.cells[handle]? = some cell ∧ cell.poisoned = false := by
  simpa [usable, Option.filter_eq_some_iff] using found

theorem Effect.unchanged (cells : after.cells = node.cells) (sockets : after.sockets = node.sockets)
    (log : after.log = node.log) (tickets : after.tickets = node.tickets) :
    Effect ivOf node after none :=
  .quiet cells sockets log fun _ member => .inl (tickets ▸ member)

theorem register_effect {session : AttestSession}
    (bound : session.keys.serverWriteIv = ivOf session.keys.serverWriteKey) :
    Effect ivOf node (node.register session) none := by
  unfold register AtbRegistry.register
  cases node.registry.insert session.id node.cells.length with
  | error reason => exact .unchanged rfl rfl rfl rfl
  | ok registry => exact .registered session bound rfl rfl rfl rfl

section Steps

variable (cipher : Cipher) (codec : BodyCodec) (sha384 : Bytes → Octets 48) (hkdf : Hkdf 48)
  (idText : AtbId → Bytes) {ivOf : Octets 32 → Octets 12} {node : Node}

theorem respond_effect (below : node.BelowMax) (handle now : Nat) (aad : Bytes)
    (value : Except String Bytes) :
    Effect ivOf node (node.step cipher codec sha384 hkdf idText (.respond handle now aad value))
      (node.drawsFrom (.respond handle now aad value)) := by
  cases usable : node.usable handle with
  | none =>
    have idle : node.drawsFrom (.respond handle now aad value) = none := by
      cases value <;> simp [drawsFrom, sealer, usable]
    rw [idle]
    simp only [step, usable]
    exact .unchanged rfl rfl rfl rfl
  | some cell =>
    obtain ⟨found, sane⟩ := usable_eq_some usable
    have unmoved : node.cells.set handle cell = node.cells := by
      obtain ⟨inside, same⟩ := List.getElem?_eq_some_iff.mp found
      rw [← same, List.set_getElem_self inside]
    simp only [step, usable]
    cases value with
    | error reason => exact .unchanged unmoved rfl rfl rfl
    | ok plaintext =>
      by_cases expired : cell.session.expiresAt ≤ now
      · have nothing := sealResponse_expired cipher codec aad (.ok plaintext) expired
        simp only [drawsFrom, sealer, usable, if_pos expired, nothing]
        exact .unchanged unmoved rfl rfl rfl
      · have limit := below.1 cell (List.mem_of_getElem? found)
        have once := sealResponse_live cipher codec aad plaintext (Nat.not_le.mp expired) limit
        simp only [drawsFrom, sealer, usable, if_neg expired, once]
        let advanced := { cell.session with serverCounter := cell.session.serverCounter + 1 }
        refine .sealedBy handle cell { cell with session := advanced } found rfl ?_ ?_ rfl rfl rfl rfl
        · simp [advanced, Cell.counter, sane, toNat_succ limit]
        · simp [Cell.counter, sane]

theorem chunk_effect (below : node.BelowMax) (index now : Nat) (item : Except String Bytes) :
    Effect ivOf node (node.step cipher codec sha384 hkdf idText (.chunk index now item))
      (node.drawsFrom (.chunk index now item)) := by
  cases stream : node.streams[index]? with
  | none =>
    have idle : node.drawsFrom (.chunk index now item) = none := by
      cases item <;> simp [drawsFrom, stream]
    rw [idle]
    simp only [step, stream]
    exact .unchanged rfl rfl rfl rfl
  | some entry =>
    obtain ⟨handle, state⟩ := entry
    cases usable : node.usable handle with
    | none =>
      have idle : node.drawsFrom (.chunk index now item) = none := by
        cases item <;> simp [drawsFrom, stream, sealer, usable]
      rw [idle]
      simp only [step, stream, usable]
      exact .unchanged rfl rfl rfl rfl
    | some cell =>
      obtain ⟨found, sane⟩ := usable_eq_some usable
      have unmoved : node.cells.set handle { cell with poisoned := false } = node.cells := by
        obtain ⟨inside, same⟩ := List.getElem?_eq_some_iff.mp found
        rw [← sane, ← same, List.set_getElem_self inside]
      simp only [step, stream, usable]
      by_cases expired : cell.session.expiresAt ≤ now
      · obtain ⟨message, nothing⟩ := sealChunk_expired cipher sha384 state item expired
        have idle : node.drawsFrom (.chunk index now item) = none := by
          cases item <;> simp [drawsFrom, stream, sealer, usable, expired]
        rw [idle]
        simp only [nothing]
        exact .unchanged unmoved rfl rfl rfl
      · cases item with
        | error reason => exact .unchanged unmoved rfl rfl rfl
        | ok plaintext =>
          have limit := below.1 cell (List.mem_of_getElem? found)
          obtain ⟨outcome, left, after, once, moved⟩ :=
            sealChunk_live cipher sha384 state plaintext (Nat.not_le.mp expired) limit
          simp only [drawsFrom, stream, sealer, usable, if_neg expired, once]
          refine .sealedBy handle cell _ found ?_ ?_ ?_ rfl rfl rfl rfl
          · rcases moved with ⟨_, rfl⟩ | ⟨_, rfl⟩ <;> rfl
          · rcases moved with ⟨rfl, rfl⟩ | ⟨calm, rfl⟩
            · simp [Cell.counter, sane]
            · simp only [Cell.counter, sane, calm, toNat_succ limit]
              simp
          · simp [Cell.counter, sane]

theorem upgrade_effect (sound : node.Sound ivOf) (now : Nat) (id : AtbId) :
    Effect ivOf node (node.step cipher codec sha384 hkdf idText (.upgrade now id)) none := by
  simp only [step]
  cases lookup : node.registry.get (node.alive now) id with
  | mk entry registry =>
    cases entry with
    | none => exact .unchanged rfl rfl rfl rfl
    | some handle =>
      cases usable : node.usable handle with
      | none =>
        simp only [usable]
        exact .unchanged rfl rfl rfl rfl
      | some cell =>
        obtain ⟨found, _⟩ := usable_eq_some usable
        simp only [usable]
        cases upgraded : AttestWsSession.upgrade now (idText id) cell.session with
        | error failure => exact .unchanged rfl rfl rfl rfl
        | ok socket =>
          obtain ⟨key, iv, counter⟩ := AttestWsSession.upgrade_ok upgraded
          have bound := sound.cellIv cell (List.mem_of_getElem? found)
          exact .connected socket (by rw [iv, key, bound]) counter rfl rfl rfl rfl

theorem send_effect (below : node.BelowMax) (index : Nat) (typeByte : UInt8) (payload : Bytes) :
    Effect ivOf node (node.step cipher codec sha384 hkdf idText (.send index typeByte payload))
      (node.drawsFrom (.send index typeByte payload)) := by
  cases found : node.sockets[index]? with
  | none =>
    have outside : ¬ index < node.sockets.length := by
      simpa using List.getElem?_eq_none_iff.mp found
    simp only [step, found, drawsFrom, if_neg outside]
    exact .unchanged rfl rfl rfl rfl
  | some socket =>
    have inside : index < node.sockets.length := (List.getElem?_eq_some_iff.mp found).1
    have limit := below.2 socket (List.mem_of_getElem? found)
    have once := AttestWsSession.encodeFrame_effect cipher typeByte payload socket limit
    simp only [step, found, drawsFrom, if_pos inside, once]
    let advanced := { socket.outbound with counter := socket.outbound.counter + 1 }
    refine .sentBy index socket { socket with outbound := advanced } found rfl rfl ?_ rfl rfl rfl rfl
    simp [advanced, AttestWsSession.counter, toNat_succ limit]

theorem sealTicket_effect (handle nowInst nowSys : Nat) :
    Effect ivOf node
      (node.step cipher codec sha384 hkdf idText (.sealTicket handle nowInst nowSys)) none := by
  simp only [step]
  cases usable : node.usable handle with
  | none => exact .unchanged rfl rfl rfl rfl
  | some cell =>
    obtain ⟨found, _⟩ := usable_eq_some usable
    refine .quiet rfl rfl rfl ?_
    intro state member
    rcases List.mem_append.mp member with earlier | new
    · exact .inl earlier
    · rw [List.mem_singleton] at new
      exact .inr ⟨cell, List.mem_of_getElem? found, by rw [new]; rfl⟩

theorem resume_effect (sound : node.Sound ivOf) (index nowInst nowSys : Nat) (fresh : Bool)
    (salt : Option (Octets 16))
    (bound : node.KeysBound hkdf sha384 ivOf (.resume index nowInst nowSys fresh salt)) :
    Effect ivOf node
      (node.step cipher codec sha384 hkdf idText (.resume index nowInst nowSys fresh salt))
      none := by
  simp only [step]
  cases found : node.tickets[index]? with
  | none => exact .unchanged rfl rfl rfl rfl
  | some state =>
    by_cases refused : state.expiresAt < nowSys ∨ fresh = false
    · simp only [if_pos refused]
      exact .unchanged rfl rfl rfl rfl
    · simp only [if_neg refused]
      refine register_effect ?_
      change (resumedKeys hkdf sha384 state salt).serverWriteIv =
        ivOf (resumedKeys hkdf sha384 state salt).serverWriteKey
      have carried := sound.ticketIv state (List.mem_of_getElem? found)
      cases salt with
      | none => exact carried
      | some salt =>
        simp only [resumedKeys]
        cases derived : SessionKeys.derive0rtt hkdf sha384 state.resumptionSecret salt with
        | error failure => exact carried
        | ok keys => exact bound state keys found derived

theorem step_effect (sound : node.Sound ivOf) (below : node.BelowMax) (event : Event)
    (bound : node.KeysBound hkdf sha384 ivOf event) :
    Effect ivOf node (node.step cipher codec sha384 hkdf idText event)
      (node.drawsFrom event) := by
  cases event with
  | handshake id suite version keys expiresAt result => exact register_effect bound
  | respond handle now aad value => exact respond_effect cipher codec sha384 hkdf idText below ..
  | openStream handle aad => exact .unchanged rfl rfl rfl rfl
  | chunk index now item => exact chunk_effect cipher codec sha384 hkdf idText below ..
  | upgrade now id => exact upgrade_effect cipher codec sha384 hkdf idText sound ..
  | send index typeByte payload => exact send_effect cipher codec sha384 hkdf idText below ..
  | sealTicket handle nowInst nowSys => exact sealTicket_effect cipher codec sha384 hkdf idText ..
  | resume index nowInst nowSys fresh salt =>
    exact resume_effect cipher codec sha384 hkdf idText sound index nowInst nowSys fresh salt bound
  | evict now => exact .unchanged rfl rfl rfl rfl

end Steps

theorem counterOf_cells (sockets : after.sockets = node.sockets) {handle : Nat}
    {cell : Cell} (here : after.cells[handle]? = some cell)
    (elsewhere : ∀ other, other ≠ handle → after.cells[other]? = node.cells[other]?) :
    after.counterOf = Function.update node.counterOf (.session handle) (some cell.counter) := by
  funext name
  cases name with
  | session other =>
    by_cases same : other = handle
    · subst same
      rw [Function.update_self, counterOf, here, Option.map_some]
    · have apart : Writer.session other ≠ .session handle := by simpa using same
      rw [Function.update_of_ne apart, counterOf, elsewhere other same]
      rfl
  | socket index =>
    rw [Function.update_of_ne (by simp), counterOf, sockets]
    rfl

theorem counterOf_sockets (cells : after.cells = node.cells) {index : Nat}
    {socket : AttestWsSession} (here : after.sockets[index]? = some socket)
    (elsewhere : ∀ other, other ≠ index → after.sockets[other]? = node.sockets[other]?) :
    after.counterOf = Function.update node.counterOf (.socket index) (some socket.counter) := by
  funext name
  cases name with
  | session handle =>
    rw [Function.update_of_ne (by simp), counterOf, cells]
    rfl
  | socket other =>
    by_cases same : other = index
    · subst same
      rw [Function.update_self, counterOf, here, Option.map_some]
    · have apart : Writer.socket other ≠ .socket index := by simpa using same
      rw [Function.update_of_ne apart, counterOf, elsewhere other same]
      rfl

theorem Effect.bank {writer : Option Writer}
    (sound : node.Sound ivOf) (effect : Effect ivOf node after writer) :
    Bank.Step (node.bank ivOf) (after.bank ivOf) writer := by
  cases effect with
  | quiet cells sockets log tickets =>
    have counters : after.counterOf = node.counterOf := by
      funext name
      cases name <;> simp [counterOf, cells, sockets]
    have same : after.bank ivOf = node.bank ivOf := by simp [Node.bank, counters, log]
    rw [same]
    exact .quiet .same
  | registered session bound cells sockets log tickets =>
    have counters := counterOf_cells sockets
      (by rw [cells, getElem?_append_singleton, if_pos rfl])
      (fun other apart => by rw [cells, getElem?_append_singleton, if_neg apart])
    have opened : after.bank ivOf = (node.bank ivOf).openAt (.session node.cells.length)
        session.keys.serverWriteKey session.serverCounter.toNat := by
      simp [Node.bank, Bank.openAt, counters, log, Cell.counter]
    rw [opened]
    exact .quiet (.opened _ _ _ (by simp [Node.bank, counterOf]))
  | connected socket bound counter cells sockets log tickets =>
    have counters := counterOf_sockets cells
      (by rw [sockets, getElem?_append_singleton, if_pos rfl])
      (fun other apart => by rw [sockets, getElem?_append_singleton, if_neg apart])
    have opened : after.bank ivOf =
        (node.bank ivOf).openAt (.socket node.sockets.length) socket.outbound.key.raw 1 := by
      simp [Node.bank, Bank.openAt, counters, log, AttestWsSession.counter, counter]
    rw [opened]
    exact .quiet (.opened _ _ _ (by simp [Node.bank, counterOf]))
  | sealedBy handle cell moved found keys counter number cells sockets log tickets =>
    have held : (node.bank ivOf).counter (.session handle) = some cell.counter := by
      simp [Node.bank, counterOf, found]
    have member := List.mem_of_getElem? found
    have inside : handle < node.cells.length := (List.getElem?_eq_some_iff.mp found).1
    have counters := counterOf_cells sockets (by rw [cells, List.getElem?_set_self inside])
      (fun other apart => by rw [cells, List.getElem?_set_ne (Ne.symm apart)])
    have drawn : after.bank ivOf = (node.bank ivOf).draw (.session handle) := by
      rw [Bank.draw_of_some held]
      simp only [Node.bank, counters, counter, log, List.map_cons, sound.cellIv cell member,
        Encryption.number_counterNonce, number]
      rfl
    rw [drawn]
    exact .draws held (sound.cellOrder cell member) .same
  | sentBy index socket moved found key iv counter cells sockets log tickets =>
    have held : (node.bank ivOf).counter (.socket index) = some socket.counter := by
      simp [Node.bank, counterOf, found]
    have member := List.mem_of_getElem? found
    have inside : index < node.sockets.length := (List.getElem?_eq_some_iff.mp found).1
    have counters := counterOf_sockets cells (by rw [sockets, List.getElem?_set_self inside])
      (fun other apart => by rw [sockets, List.getElem?_set_ne (Ne.symm apart)])
    have drawn : after.bank ivOf = (node.bank ivOf).draw (.socket index) := by
      rw [Bank.draw_of_some held]
      simp only [Node.bank, counters, counter, log, List.map_cons, sound.socketIv socket member,
        Encryption.number_counterNonce]
      rfl
    rw [drawn]
    exact .draws held (sound.socketOrder socket member) .same

theorem start_sound (ivOf : Octets 32 → Octets 12) (capacity : Nat) :
    (start capacity).Sound ivOf where
  covered := by
    have same : (start capacity).bank ivOf = Bank.empty := by
      have counters : (start capacity).counterOf = fun _ => none := by
        funext name
        cases name <;> simp [counterOf, start]
      simp only [Node.bank, counters]
      rfl
    rw [same]
    exact Bank.empty_covered
  cellIv := by simp [start]
  cellOrder := by simp [start]
  socketIv := by simp [start]
  socketOrder := by simp [start]
  ticketIv := by simp [start]
  logged := by simp [start]

theorem Effect.sound {writer : Option Writer}
    (sound : node.Sound ivOf) (effect : Effect ivOf node after writer) : after.Sound ivOf := by
  have covered := (effect.bank sound).covered sound.covered
  cases effect with
  | quiet cells sockets log tickets =>
    refine ⟨covered, ?_, ?_, ?_, ?_, ?_, ?_⟩
    · rw [cells]; exact sound.cellIv
    · rw [cells]; exact sound.cellOrder
    · rw [sockets]; exact sound.socketIv
    · rw [sockets]; exact sound.socketOrder
    · intro state member
      rcases tickets state member with earlier | ⟨cell, held, same⟩
      · exact sound.ticketIv state earlier
      · rw [same]; exact sound.cellIv cell held
    · rw [log]; exact sound.logged
  | registered session bound cells sockets log tickets =>
    refine ⟨covered, ?_, ?_, ?_, ?_, ?_, ?_⟩
    · rw [cells]
      simpa [or_imp, forall_and, bound] using sound.cellIv
    · rw [cells]
      simpa [or_imp, forall_and, Cell.counter] using sound.cellOrder
    · rw [sockets]; exact sound.socketIv
    · rw [sockets]; exact sound.socketOrder
    · rw [tickets]; exact sound.ticketIv
    · rw [log]; exact sound.logged
  | connected socket bound counter cells sockets log tickets =>
    refine ⟨covered, ?_, ?_, ?_, ?_, ?_, ?_⟩
    · rw [cells]; exact sound.cellIv
    · rw [cells]; exact sound.cellOrder
    · rw [sockets]
      simpa [or_imp, forall_and, bound] using sound.socketIv
    · rw [sockets]
      simpa [or_imp, forall_and, AttestWsSession.counter, counter] using sound.socketOrder
    · rw [tickets]; exact sound.ticketIv
    · rw [log]; exact sound.logged
  | sealedBy handle cell moved found keys counter number cells sockets log tickets =>
    have member := List.mem_of_getElem? found
    refine ⟨covered, ?_, ?_, ?_, ?_, ?_, ?_⟩
    · rw [cells]
      refine forall_mem_set sound.cellIv ?_
      rw [keys]
      exact sound.cellIv cell member
    · rw [cells]
      refine forall_mem_set sound.cellOrder ?_
      rw [counter]
      exact Nat.le_succ_of_le (sound.cellOrder cell member)
    · rw [sockets]; exact sound.socketIv
    · rw [sockets]; exact sound.socketOrder
    · rw [tickets]; exact sound.ticketIv
    · rw [log, List.forall_mem_cons]
      exact ⟨⟨_, by rw [sound.cellIv cell member]⟩, sound.logged⟩
  | sentBy index socket moved found key iv counter cells sockets log tickets =>
    have member := List.mem_of_getElem? found
    refine ⟨covered, ?_, ?_, ?_, ?_, ?_, ?_⟩
    · rw [cells]; exact sound.cellIv
    · rw [cells]; exact sound.cellOrder
    · rw [sockets]
      refine forall_mem_set sound.socketIv ?_
      rw [key, iv]
      exact sound.socketIv socket member
    · rw [sockets]
      refine forall_mem_set sound.socketOrder ?_
      rw [counter]
      exact Nat.le_succ_of_le (sound.socketOrder socket member)
    · rw [tickets]; exact sound.ticketIv
    · rw [log, List.forall_mem_cons]
      exact ⟨⟨_, by rw [sound.socketIv socket member]⟩, sound.logged⟩

theorem Effect.log_nodup_iff {event : Event}
    (sound : node.Sound ivOf) (effect : Effect ivOf node after (node.drawsFrom event)) :
    after.log.Nodup ↔ node.log.Nodup ∧ node.Unpassed event := by
  rw [Encryption.nodup_iff_number ivOf sound.logged,
    Encryption.nodup_iff_number ivOf (effect.sound sound).logged]
  change (after.bank ivOf).drawn.Nodup ↔ (node.bank ivOf).drawn.Nodup ∧ _
  rw [(effect.bank sound).nodup_iff sound.covered]
  refine and_congr_right fun _ => ?_
  constructor
  · intro unpassed writer counter source held
    exact unpassed writer source counter held
  · intro unpassed writer source counter held
    exact unpassed writer counter source held

end Node

open Node

/-- In a run below the counter limit, over key material in which a server write key has one IV, no
two encryptions under one server write key share a nonce exactly when every encrypting step draws
a number that no other counter of its key has passed. -/
theorem encryptions_distinct_iff (cipher : Cipher) (codec : BodyCodec) (sha384 : Bytes → Octets 48)
    (hkdf : Hkdf 48) (idText : AtbId → Bytes) (ivOf : Octets 32 → Octets 12) (capacity : Nat)
    (events : List Event)
    (taken : Along (step cipher codec sha384 hkdf idText)
      (fun node event => node.BelowMax ∧ node.KeysBound hkdf sha384 ivOf event)
      (start capacity) events) :
    (run (step cipher codec sha384 hkdf idText) (start capacity) events).log.Nodup ↔
      Along (step cipher codec sha384 hkdf idText) Unpassed (start capacity) events := by
  have effect : ∀ node event, node.Sound ivOf →
      node.BelowMax ∧ node.KeysBound hkdf sha384 ivOf event →
      Effect ivOf node (step cipher codec sha384 hkdf idText node event) (node.drawsFrom event) :=
    fun _ event sound met => step_effect cipher codec sha384 hkdf idText sound met.1 event met.2
  have whole := run_iff_along (fun node : Node => node.log.Nodup)
    (fun node event sound met => (effect node event sound met).sound sound)
    (fun node event sound met => (effect node event sound met).log_nodup_iff sound)
    (start_sound ivOf capacity) taken
  rw [whole]
  exact and_iff_right List.nodup_nil

def plainStep : Node → Event → Node :=
  step plainCipher .plain (fun _ => .zero 48) (.zero 48) (fun _ => [])

def twoResponses : List Event :=
  [.handshake ⟨0⟩ .X25519MlKem768Aes256GcmSha384 .V2 .zero 10 none,
    .respond 0 0 [] (.ok []), .respond 0 0 [] (.ok [])]

/-- Two responses of one session have distinct nonces, and each draws a number no other counter has
passed. -/
theorem two_responses_distinct :
    (run plainStep (start 1) twoResponses).log.Nodup ∧
      Along plainStep Unpassed (start 1) twoResponses := by
  have distinct : (run plainStep (start 1) twoResponses).log.Nodup := by decide +kernel
  have taken : Along plainStep
      (fun node event => node.BelowMax ∧
        node.KeysBound (.zero 48) (fun _ => .zero 48) (fun _ => .zero 12) event)
      (start 1) twoResponses :=
    ⟨⟨by decide +kernel, rfl⟩, ⟨by decide +kernel, trivial⟩, ⟨by decide +kernel, trivial⟩, trivial⟩
  exact ⟨distinct, (encryptions_distinct_iff _ _ _ _ _ _ 1 twoResponses taken).mp distinct⟩

def responseThenFrame : List Event :=
  [.handshake ⟨0⟩ .X25519MlKem768Aes256GcmSha384 .V2 .zero 10 none,
    .respond 0 0 [] (.ok []), .upgrade 0 ⟨0⟩, .send 0 msgBinary []]

/-- The response and the frame share the nonce of counter 1 under one server write key, far below
the counter limit. -/
theorem response_and_frame_share_nonce :
    Along plainStep
      (fun node event => node.BelowMax ∧
        node.KeysBound (.zero 48) (fun _ => .zero 48) (fun _ => .zero 12) event)
      (start 1) responseThenFrame ∧
    ¬ (run plainStep (start 1) responseThenFrame).log.Nodup :=
  ⟨⟨⟨by decide +kernel, rfl⟩, ⟨by decide +kernel, trivial⟩, ⟨by decide +kernel, trivial⟩,
    ⟨by decide +kernel, trivial⟩, trivial⟩, by decide +kernel⟩

end OpenHttpa.Server
