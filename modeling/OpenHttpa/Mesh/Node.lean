import Mathlib.Data.List.DropRight
import OpenHttpa.Client.Handshake
import OpenHttpa.Client.RequestUri
import OpenHttpa.Lib.Assoc
import OpenHttpa.Lib.Counters
import OpenHttpa.Mesh.Policy

/-!
# Connections between nodes

`connect_to_peer` of `openhttpa-mesh/src/node.rs`. A call looks for a stored session, asks the
registry for the peer, makes a handshake with the endpoint it was given, asks the policy engine
about the result, and stores the session. The calls on one node take these steps in any order, each
with what the registry, the network or the policy engine answers. So every session that is stored or
returned was made with an endpoint the registry gave for its peer, on verified evidence that the
policy engine allowed (`sessions_vouched`).
-/
namespace OpenHttpa.Mesh

open Client OpenHttpa.Core Crypto Headers Proto Rego

structure EvaluationResult where
  allow : Bool
  policyId : String
  trace : Option String

/-- `AgentSession`; the session is the one the handshake made, what its requests change is behind it. -/
structure AgentSession where
  peerMetadata : AgentMetadata
  session : AttestSession

/-- `AgentNode`, the fields `connect_to_peer` reads and nobody writes. -/
structure AgentNode where
  id : BitVec 128
  teeProvider : TeeProvider
  verifier : QuoteVerifier
  allowDeprecated : Bool

/-- How the texts of addresses and identifiers are read and written. -/
structure NodeTexts where
  uris : UriParser
  uuid : UuidText

/-- The address that the requests of a handshake go to; nothing where `expect` panics on it. -/
def NodeTexts.attestUri (texts : NodeTexts) (server : HttpUri) : Option HttpUri :=
  (texts.uris.parse (server.display.rdropWhile (· = '/') ++ "/attest".toList)).toOption

inductive Answer (Secret Decap : Type) where
  /-- `AgentRegistry::get_agent`. -/
  | registry (peerId : BitVec 128) (answer : Except String (Option AgentMetadata))
  /-- `attest_handshake`, over what the network makes of requests to an address. -/
  | handshake (address : HttpUri) (transport : Transport) (instant : Nat)
      (draws : ClientDraws Secret Decap) (outcome : Option (Except ClientError AttestSession))
  /-- `PolicyEngine::evaluate_ext`. -/
  | policy (policyId : String) (input : Value) (answer : Except MeshError EvaluationResult)

inductive Stage where
  | called
  | missed
  | listed (peer : AgentMetadata) (server : HttpUri)
  /-- The handshake is made, and has a result that the policy is asked about. -/
  | attested (peer : AgentMetadata) (session : AttestSession) (result : VerificationResult)
  | admitted (agent : AgentSession)
  | returned (result : Except MeshError AgentSession)
  | panicked

/-- A call of `connect_to_peer` under way. -/
structure PeerCall where
  peerId : BitVec 128
  stage : Stage

structure NodeState (Secret Decap : Type) where
  sessions : Table (BitVec 128) AgentSession
  calls : List PeerCall
  answers : List (Answer Secret Decap)

/-- The beginning of a call, or the next step of the call with the index. -/
inductive NodeEvent (Secret Decap : Type) where
  | call (peerId : BitVec 128)
  | look (index : Nat) (now : Nat)
  | registry (index : Nat) (answer : Except String (Option AgentMetadata))
  | handshake (index : Nat) (net : HttpUri → Transport) (instant : Nat)
      (draws : ClientDraws Secret Decap)
  | policy (index : Nat) (timestamp : Nat) (answer : Except MeshError EvaluationResult)
  | store (index : Nat)

def NodeEvent.index {Secret Decap : Type} : NodeEvent Secret Decap → Option Nat
  | call _ => none
  | look index _ | registry index _ | handshake index _ _ _ | policy index _ _ | store index =>
    some index

structure Progress (Secret Decap : Type) where
  stage : Stage
  answers : List (Answer Secret Decap)
  stored : Option AgentSession

namespace AgentNode

section Machine

variable {Secret Decap Coins Signer : Type} (prim : Primitives Secret Decap Coins Signer)
  (codecs : Codecs) (texts : NodeTexts) (node : AgentNode)

/-- The client that `connect_to_peer` builds. -/
def client (transport : Option Transport) : OpenHttpaClient where
  teeProvider := node.teeProvider
  verifier := node.verifier
  transport
  strictAttestation := true
  requirePreflight := false
  serverIdentityPub := none
  allowDeprecated := node.allowDeprecated

def peerInput (peerId : BitVec 128) (suite : CipherSuite) (result : VerificationResult)
    (timestamp : Nat) : Value :=
  .object [
    ("claims", claimsJson result.claims),
    ("dst_id", .string (texts.uuid.display ⟨peerId⟩)),
    ("pqc_bound", .bool suite.isPostQuantum),
    ("src_id", .string (texts.uuid.display ⟨node.id⟩)),
    ("tcb_status", .string result.tcbStatus),
    ("timestamp", .number timestamp)]

def lookStored (sessions : Table (BitVec 128) AgentSession) (peerId : BitVec 128) (now : Nat) : Stage :=
  match sessions.find peerId with
  | none => .missed
  | some agent => if agent.session.isAlive now then .returned (.ok agent) else .missed

/-- From the answer of the registry to the client that is built for the endpoint. -/
def afterRegistry (peerId : BitVec 128) : Except String (Option AgentMetadata) → Stage
  | .error reason => .returned (.error (.Registry reason))
  | .ok none => .returned (.error (.PeerNotFound (texts.uuid.display ⟨peerId⟩)))
  | .ok (some peer) =>
    match texts.uris.parse peer.endpoint.toList with
    | .error reason => .returned (.error (.Handshake ("Invalid endpoint: " ++ reason)))
    | .ok server => .listed peer server

def afterHandshake (peer : AgentMetadata) : Option (Except ClientError AttestSession) → Stage
  | none => .panicked
  | some (.error failure) => .returned (.error (.Handshake failure.display))
  | some (.ok session) =>
    match session.attestationResult with
    | none => .admitted ⟨peer, session⟩
    | some result => .attested peer session result

def afterPolicy (agent : AgentSession) : Except MeshError EvaluationResult → Stage
  | .error failure => .returned (.error failure)
  | .ok evaluation =>
    if evaluation.allow = false then
      .returned (.error (.Attestation
        ("Peer failed to satisfy mesh admission policy '" ++ evaluation.policyId ++ "'")))
    else
      .admitted agent

/-- The handshake with a server. Its requests are addressed once the node has its own quote, so an
address that is none panics only then. -/
def makeHandshake (peer : AgentMetadata) (server : HttpUri) (net : HttpUri → Transport) (instant : Nat)
    (draws : ClientDraws Secret Decap) : Progress Secret Decap :=
  match texts.attestUri server with
  | some address =>
    let outcome := attestHandshake prim codecs (node.client (some (net address))) instant draws
    ⟨afterHandshake peer outcome, [.handshake address (net address) instant draws outcome], none⟩
  | none =>
    match generateClientQuote prim (node.client none) draws.clientRandom (ownShare prim draws.pair)
        none with
    | .error failure => ⟨.returned (.error (.Handshake failure.display)), [], none⟩
    | .ok _ => ⟨.panicked, [], none⟩

/-- A step of a call; nothing where the call is not about to take it. -/
def proceed (sessions : Table (BitVec 128) AgentSession) (call : PeerCall) :
    NodeEvent Secret Decap → Option (Progress Secret Decap)
  | .call _ => none
  | .look _ now =>
    match call.stage with
    | .called => some ⟨lookStored sessions call.peerId now, [], none⟩
    | _ => none
  | .registry _ answer =>
    match call.stage with
    | .missed => some ⟨afterRegistry texts call.peerId answer, [.registry call.peerId answer], none⟩
    | _ => none
  | .handshake _ net instant draws =>
    match call.stage with
    | .listed peer server => some (makeHandshake prim codecs texts node peer server net instant draws)
    | _ => none
  | .policy _ timestamp answer =>
    match call.stage with
    | .attested peer session result =>
      let input := peerInput texts node call.peerId session.cipherSuite result timestamp
      some ⟨afterPolicy ⟨peer, session⟩ answer, [.policy "default" input answer], none⟩
    | _ => none
  | .store _ =>
    match call.stage with
    | .admitted agent => some ⟨.returned (.ok agent), [], some agent⟩
    | _ => none

def settle (state : NodeState Secret Decap) (index : Nat) (call : PeerCall)
    (progress : Progress Secret Decap) : NodeState Secret Decap where
  sessions := progress.stored.elim state.sessions (state.sessions.insert call.peerId)
  calls := state.calls.set index { call with stage := progress.stage }
  answers := state.answers ++ progress.answers

def step (state : NodeState Secret Decap) (event : NodeEvent Secret Decap) : NodeState Secret Decap :=
  match event with
  | .call peerId => { state with calls := state.calls ++ [⟨peerId, .called⟩] }
  | event =>
    match event.index.bind fun index => state.calls[index]?.map (index, ·) with
    | none => state
    | some (index, call) =>
      match proceed prim codecs texts node state.sessions call event with
      | none => state
      | some progress => settle state index call progress

def new : NodeState Secret Decap := ⟨.empty, [], []⟩

variable (answers : List (Answer Secret Decap))

/-- The session was made in a handshake with the endpoint that the registry had given for the peer, on
verified evidence with this result, and the other answers came afterwards. -/
def Reached (peerId : BitVec 128) (agent : AgentSession) (result : VerificationResult)
    (later : List (Answer Secret Decap)) : Prop :=
  ∃ server address transport instant draws seen,
    texts.uris.parse agent.peerMetadata.endpoint.toList = .ok server ∧
    texts.attestUri server = some address ∧
    Attested prim codecs (node.client (some transport)) instant draws seen agent.session ∧
    agent.session.attestationResult = some result ∧
    Evidence prim (node.client (some transport)) draws seen result ∧
    List.Sublist (.registry peerId (.ok (some agent.peerMetadata)) ::
      .handshake address transport instant draws (some (.ok agent.session)) :: later) answers

/-- The policy allowed the handshake that made the session. -/
def Vouched (peerId : BitVec 128) (agent : AgentSession) : Prop :=
  ∃ result timestamp evaluation, evaluation.allow = true ∧
    Reached prim codecs texts node answers peerId agent result
      [.policy "default" (peerInput texts node peerId agent.session.cipherSuite result timestamp)
        (.ok evaluation)]

def Known (call : PeerCall) : Prop :=
  match call.stage with
  | .listed peer server =>
    .registry call.peerId (.ok (some peer)) ∈ answers ∧
      texts.uris.parse peer.endpoint.toList = .ok server
  | .attested peer session result =>
    Reached prim codecs texts node answers call.peerId ⟨peer, session⟩ result []
  | .admitted agent => Vouched prim codecs texts node answers call.peerId agent
  | .returned (.ok agent) => Vouched prim codecs texts node answers call.peerId agent
  | _ => True

end Machine

section Runs

variable {Secret Decap Coins Signer : Type} {prim : Primitives Secret Decap Coins Signer}
  {codecs : Codecs} {texts : NodeTexts} {node : AgentNode} {answers : List (Answer Secret Decap)}

/-! ## What a step can do -/

inductive Moved (prim : Primitives Secret Decap Coins Signer) (codecs : Codecs) (texts : NodeTexts)
    (node : AgentNode) (state : NodeState Secret Decap) :
    NodeEvent Secret Decap → NodeState Secret Decap → Prop
  | idle (event : NodeEvent Secret Decap) : Moved prim codecs texts node state event state
  | called (peerId : BitVec 128) : Moved prim codecs texts node state (.call peerId)
      { state with calls := state.calls ++ [⟨peerId, .called⟩] }
  | taken (event : NodeEvent Secret Decap) (index : Nat) (call : PeerCall)
      (progress : Progress Secret Decap) (own : event.index = some index)
      (found : state.calls[index]? = some call)
      (next : proceed prim codecs texts node state.sessions call event = some progress) :
      Moved prim codecs texts node state event (settle state index call progress)

theorem step_moved (state : NodeState Secret Decap) (event : NodeEvent Secret Decap) :
    Moved prim codecs texts node state event (step prim codecs texts node state event) := by
  unfold step
  split
  · exact .called _
  · split
    · exact .idle _
    · rename_i index call picked
      split
      · exact .idle _
      · rename_i progress next
        obtain ⟨place, own, found⟩ := Option.bind_eq_some_iff.mp picked
        obtain ⟨other, there, same⟩ := Option.map_eq_some_iff.mp found
        cases same
        exact .taken _ index call progress own there next

theorem proceed_returned (sessions : Table (BitVec 128) AgentSession) (peerId : BitVec 128)
    (result : Except MeshError AgentSession) (event : NodeEvent Secret Decap) :
    proceed prim codecs texts node sessions ⟨peerId, .returned result⟩ event = none := by
  cases event <;> rfl

variable {sessions : Table (BitVec 128) AgentSession} {call : PeerCall}
  {event : NodeEvent Secret Decap} {progress : Progress Secret Decap} {agent : AgentSession}
  {peerId : BitVec 128} {index : Nat}

theorem proceed_stored (next : proceed prim codecs texts node sessions call event = some progress)
    (stored : progress.stored = some agent) :
    call.stage = .admitted agent ∧ progress.stage = .returned (.ok agent) := by
  obtain ⟨peerId, stage⟩ := call
  cases event with
  | call peerId => cases next
  | look | registry =>
    cases stage <;> cases next
    cases stored
  | handshake index net instant draws =>
    cases stage <;> cases next
    unfold makeHandshake at stored
    repeat' split at stored
    all_goals cases stored
  | policy index timestamp answer =>
    cases stage <;> cases next
    cases stored
  | store index =>
    cases stage <;> cases next
    cases stored
    exact ⟨rfl, rfl⟩

/-! ## What is known of the calls -/

variable {result : VerificationResult} {peer : AgentMetadata} {server : HttpUri}
  {state : NodeState Secret Decap}

theorem Reached.mono {later : List (Answer Secret Decap)}
    (reached : Reached prim codecs texts node answers peerId agent result later)
    (more : List (Answer Secret Decap)) :
    Reached prim codecs texts node (answers ++ more) peerId agent result later := by
  obtain ⟨server, address, transport, instant, draws, seen, parsed, addressed, run, found, evidence,
    order⟩ := reached
  exact ⟨server, address, transport, instant, draws, seen, parsed, addressed, run, found, evidence,
    order.trans (List.sublist_append_left answers more)⟩

theorem Vouched.mono (vouched : Vouched prim codecs texts node answers peerId agent)
    (more : List (Answer Secret Decap)) :
    Vouched prim codecs texts node (answers ++ more) peerId agent := by
  obtain ⟨result, timestamp, evaluation, allowed, reached⟩ := vouched
  exact ⟨result, timestamp, evaluation, allowed, reached.mono more⟩

theorem Known.mono (known : Known prim codecs texts node answers call)
    (more : List (Answer Secret Decap)) : Known prim codecs texts node (answers ++ more) call := by
  unfold Known at known ⊢
  split
  · rename_i peer server stage
    rw [stage] at known
    exact ⟨List.mem_append_left more known.1, known.2⟩
  · rename_i peer session result stage
    rw [stage] at known
    exact Reached.mono known more
  · rename_i agent stage
    rw [stage] at known
    exact Vouched.mono known more
  · rename_i agent stage
    rw [stage] at known
    exact Vouched.mono known more
  · trivial

theorem lookStored_known (now : Nat) (stored : ∀ agent, sessions.find peerId = some agent →
      Vouched prim codecs texts node answers peerId agent) :
    Known prim codecs texts node answers ⟨peerId, lookStored sessions peerId now⟩ := by
  unfold lookStored
  cases found : sessions.find peerId with
  | none => trivial
  | some agent =>
    dsimp only
    split
    · exact stored agent found
    · trivial

theorem afterRegistry_known (peerId : BitVec 128) (answer : Except String (Option AgentMetadata)) :
    Known prim codecs texts node (answers ++ [.registry peerId answer])
      ⟨peerId, afterRegistry texts peerId answer⟩ := by
  unfold afterRegistry
  split
  · trivial
  · trivial
  · rename_i peer
    split
    · trivial
    · rename_i server parsed
      exact ⟨List.mem_append_right answers (List.mem_singleton_self _), parsed⟩

theorem makeHandshake_known
    (net : HttpUri → Transport) (instant : Nat) (draws : ClientDraws Secret Decap)
    (listed : .registry peerId (.ok (some peer)) ∈ answers)
    (parsed : texts.uris.parse peer.endpoint.toList = .ok server) :
    Known prim codecs texts node
      (answers ++ (makeHandshake prim codecs texts node peer server net instant draws).answers)
      ⟨peerId, (makeHandshake prim codecs texts node peer server net instant draws).stage⟩ := by
  unfold makeHandshake
  cases addressed : texts.attestUri server with
  | none =>
    dsimp only
    split
    · trivial
    · trivial
  | some address =>
    dsimp only
    cases outcome : attestHandshake prim codecs (node.client (some (net address))) instant draws with
    | none => trivial
    | some returned =>
      cases returned with
      | error failure => trivial
      | ok session =>
        obtain ⟨seen, run⟩ := (attestHandshake_ok_iff instant draws session).mp outcome
        obtain ⟨result, found, evidence⟩ := run.evidence rfl
        have order : List.Sublist [.registry peerId (.ok (some peer)),
            .handshake address (net address) instant draws (some (.ok session))]
            (answers ++ [.handshake address (net address) instant draws (some (.ok session))]) :=
          (List.singleton_sublist.mpr listed).append (List.Sublist.refl _)
        simp only [afterHandshake, found]
        exact ⟨server, address, net address, instant, draws, seen, parsed, addressed, run, found,
          evidence, order⟩

theorem afterPolicy_known (timestamp : Nat) (answer : Except MeshError EvaluationResult)
    (reached : Reached prim codecs texts node answers peerId agent result []) :
    Known prim codecs texts node (answers ++ [.policy "default"
        (peerInput texts node peerId agent.session.cipherSuite result timestamp) answer])
      ⟨peerId, afterPolicy agent answer⟩ := by
  unfold afterPolicy
  cases answer with
  | error failure => trivial
  | ok evaluation =>
    dsimp only
    split
    · trivial
    · rename_i allowed
      obtain ⟨server, address, transport, instant, draws, seen, parsed, addressed, run, found, evidence,
        order⟩ := reached
      exact ⟨result, timestamp, evaluation, eq_true_of_ne_false allowed, server, address, transport,
        instant, draws, seen, parsed, addressed, run, found, evidence,
        order.append (List.Sublist.refl _)⟩

theorem proceed_known (stored : ∀ agent, sessions.find call.peerId = some agent →
      Vouched prim codecs texts node answers call.peerId agent)
    (known : Known prim codecs texts node answers call)
    (next : proceed prim codecs texts node sessions call event = some progress) :
    Known prim codecs texts node (answers ++ progress.answers) { call with stage := progress.stage } := by
  obtain ⟨peerId, stage⟩ := call
  cases event with
  | call peerId => cases next
  | look index now =>
    cases stage <;> cases next
    exact (lookStored_known now stored).mono []
  | registry index answer =>
    cases stage <;> cases next
    exact afterRegistry_known peerId answer
  | handshake index net instant draws =>
    cases stage <;> cases next
    exact makeHandshake_known net instant draws known.1 known.2
  | policy index timestamp answer =>
    cases stage <;> cases next
    exact afterPolicy_known timestamp answer known
  | store index =>
    cases stage <;> cases next
    exact Vouched.mono known []

/-! ## Runs -/

structure Sound (prim : Primitives Secret Decap Coins Signer) (codecs : Codecs) (texts : NodeTexts)
    (node : AgentNode) (state : NodeState Secret Decap) : Prop where
  stored : ∀ peerId agent, state.sessions.find peerId = some agent →
    Vouched prim codecs texts node state.answers peerId agent
  calls : ∀ call ∈ state.calls, Known prim codecs texts node state.answers call

theorem new_sound : Sound prim codecs texts node new where
  stored peerId agent held := by
    rw [new, Table.find_empty] at held
    cases held
  calls _ member := absurd member List.not_mem_nil

theorem Sound.settle (sound : Sound prim codecs texts node state)
    (found : state.calls[index]? = some call)
    (next : proceed prim codecs texts node state.sessions call event = some progress) :
    Sound prim codecs texts node (settle state index call progress) := by
  have before := sound.calls call (List.mem_of_getElem? found)
  constructor
  · intro peerId agent held
    unfold AgentNode.settle at held ⊢
    cases stored : progress.stored with
    | none =>
      rw [stored] at held
      exact (sound.stored peerId agent held).mono progress.answers
    | some kept =>
      rw [stored, Option.elim_some, Table.find_insert] at held
      split at held
      · rename_i same
        cases held
        rw [same]
        have stage := (proceed_stored next stored).1
        unfold Known at before
        rw [stage] at before
        exact Vouched.mono before progress.answers
      · exact (sound.stored peerId agent held).mono progress.answers
  · exact forall_mem_set (fun other member => (sound.calls other member).mono progress.answers)
      (proceed_known (sound.stored call.peerId) before next)

theorem step_sound (state : NodeState Secret Decap) (event : NodeEvent Secret Decap)
    (sound : Sound prim codecs texts node state) :
    Sound prim codecs texts node (step prim codecs texts node state event) := by
  have moved : Moved prim codecs texts node state event (step prim codecs texts node state event) :=
    step_moved state event
  generalize step prim codecs texts node state event = after at moved ⊢
  cases moved with
  | idle => exact sound
  | called peerId =>
    exact ⟨sound.stored, forall_mem_concat sound.calls trivial⟩
  | taken _ index call progress own found next => exact sound.settle found next

theorem step_returned {result : Except MeshError AgentSession}
    (state : NodeState Secret Decap) (event : NodeEvent Secret Decap)
    (returned : state.calls[index]? = some ⟨peerId, .returned result⟩) :
    (step prim codecs texts node state event).calls[index]? = some ⟨peerId, .returned result⟩ := by
  have moved : Moved prim codecs texts node state event (step prim codecs texts node state event) :=
    step_moved state event
  generalize step prim codecs texts node state event = after at moved ⊢
  cases moved with
  | idle => exact returned
  | called other =>
    have inside : index < state.calls.length := (List.getElem?_eq_some_iff.mp returned).1
    rw [List.getElem?_append_left inside]
    exact returned
  | taken _ place call progress own found next =>
    have apart : place ≠ index := by
      intro same
      rw [same, returned] at found
      cases found
      rw [proceed_returned] at next
      cases next
    unfold settle
    rw [List.getElem?_set_ne apart]
    exact returned

theorem step_stores (state : NodeState Secret Decap) (event : NodeEvent Secret Decap)
    (own : event.index = some index)
    (changed : (step prim codecs texts node state event).sessions ≠ state.sessions) :
    ∃ peerId agent, (step prim codecs texts node state event).calls[index]? =
      some ⟨peerId, .returned (.ok agent)⟩ := by
  have moved : Moved prim codecs texts node state event (step prim codecs texts node state event) :=
    step_moved state event
  generalize step prim codecs texts node state event = after at moved changed ⊢
  cases moved with
  | idle => exact absurd rfl changed
  | called peerId => cases own
  | taken _ place call progress own' found next =>
    rw [own] at own'
    cases own'
    unfold settle at changed ⊢
    cases stored : progress.stored with
    | none =>
      rw [stored] at changed
      exact absurd rfl changed
    | some agent =>
      have inside : index < state.calls.length := (List.getElem?_eq_some_iff.mp found).1
      refine ⟨call.peerId, agent, ?_⟩
      rw [List.getElem?_set_self inside, (proceed_stored next stored).2]

def wholeCall (index : Nat) (peerId : BitVec 128) (now : Nat) (peer : AgentMetadata)
    (net : HttpUri → Transport) (instant : Nat) (draws : ClientDraws Secret Decap) (timestamp : Nat)
    (evaluation : EvaluationResult) : List (NodeEvent Secret Decap) :=
  [.call peerId, .look index now, .registry index (.ok (some peer)),
    .handshake index net instant draws, .policy index timestamp (.ok evaluation), .store index]

theorem run_wholeCall {now : Nat}
    (expired : ∀ agent, state.sessions.find peerId = some agent → agent.session.isAlive now = false)
    {address : HttpUri} (parsed : texts.uris.parse peer.endpoint.toList = .ok server)
    (addressed : texts.attestUri server = some address) {net : HttpUri → Transport} {instant : Nat}
    {draws : ClientDraws Secret Decap} {session : AttestSession}
    (returned : attestHandshake prim codecs (node.client (some (net address))) instant draws =
      some (.ok session)) (timestamp : Nat) {evaluation : EvaluationResult}
    (allowed : evaluation.allow = true) :
    (run (step prim codecs texts node) state (wholeCall state.calls.length peerId now peer net instant
        draws timestamp evaluation)).sessions = state.sessions.insert peerId ⟨peer, session⟩ ∧
      (run (step prim codecs texts node) state (wholeCall state.calls.length peerId now peer net instant
        draws timestamp evaluation)).calls =
          state.calls ++ [⟨peerId, .returned (.ok ⟨peer, session⟩)⟩] := by
  obtain ⟨seen, attested⟩ := (attestHandshake_ok_iff instant draws session).mp returned
  obtain ⟨result, found, -⟩ := attested.evidence rfl
  have missed : lookStored state.sessions peerId now = .missed := by
    unfold lookStored
    cases stored : state.sessions.find peerId with
    | none => rfl
    | some agent => simp [expired agent stored]
  simp [wholeCall, step, NodeEvent.index, proceed, settle, missed, afterRegistry, parsed,
    makeHandshake, addressed, returned, afterHandshake, found, afterPolicy, allowed]

/-- **Connections.** After any steps of any calls on a node, every stored session and every session that
a call has returned was made with the endpoint the registry gave for its peer, on verified evidence that
the policy engine allowed; and a call that does not return a session has stored none with any of its
steps. -/
theorem sessions_vouched (prim : Primitives Secret Decap Coins Signer) (codecs : Codecs)
    (texts : NodeTexts) (node : AgentNode) (events : List (NodeEvent Secret Decap)) :
    (∀ peerId agent,
      (run (step prim codecs texts node) new events).sessions.find peerId = some agent →
      Vouched prim codecs texts node (run (step prim codecs texts node) new events).answers peerId
        agent) ∧
    (∀ peerId agent,
      ⟨peerId, .returned (.ok agent)⟩ ∈ (run (step prim codecs texts node) new events).calls →
      Vouched prim codecs texts node (run (step prim codecs texts node) new events).answers peerId
        agent) ∧
    (∀ index, (∀ peerId agent, (run (step prim codecs texts node) new events).calls[index]? ≠
        some ⟨peerId, .returned (.ok agent)⟩) →
      ∀ front event rest, events = front ++ event :: rest → event.index = some index →
        (step prim codecs texts node (run (step prim codecs texts node) new front) event).sessions =
          (run (step prim codecs texts node) new front).sessions) := by
  have sound : Sound prim codecs texts node (run (step prim codecs texts node) new events) :=
    run_invariant (Sound prim codecs texts node) step_sound new_sound events
  refine ⟨sound.stored, fun peerId agent member => sound.calls _ member, ?_⟩
  rintro index failed front event rest rfl own
  by_contra changed
  obtain ⟨peerId, agent, returned⟩ := step_stores _ _ own changed
  refine failed peerId agent ?_
  rw [run_append, run_cons]
  exact run_invariant (fun state : NodeState Secret Decap =>
    state.calls[index]? = some ⟨peerId, .returned (.ok agent)⟩) step_returned returned rest

end Runs

/-! ## A peer that is admitted -/

def plain : AgentNode where
  id := 0
  teeProvider reportData := .ok [⟨.Mock, .Raw, [], reportData.bytes, []⟩]
  verifier _ _ := .ok .default
  allowDeprecated := false

def plainTexts : NodeTexts where
  uris := {
    parse := fun text => .ok ⟨none, none, text, none⟩
    parse_rooted := by
      rintro _ _ _ ⟨⟩ ⟨⟩
    parse_origin := by
      rintro _ _ _ _ ⟨⟩ ⟨⟩ }
  uuid := .plain

def plainHeaders : AtHsResponseHeaders where
  cipherSuite := .X25519MlKem768Aes256GcmSha384
  random := []
  keyShareJson := Codecs.plain.serverShares.render ⟨List.replicate 32 0, [], List.replicate 1088 0, none⟩
  baseId := ⟨1⟩
  version := .V2
  expiresSecs := 60
  quotes := [⟨.Mock, .Raw, [], [], []⟩]
  secrets := []
  cargo := none
  ticketResumption := none
  serverSignatures := []
  zkProof := none

def plainNet (_ : HttpUri) : Transport where
  options := .error "not implemented"
  attest _ := .ok (.ofHeaders ((plainHeaders.encode .plain).getD .new))

def plainEvents : List (NodeEvent Unit Unit) :=
  wholeCall 0 1 0 ⟨1, "peer", [], "/peer", [], none, [], none⟩ plainNet 0 ⟨⟨(), ()⟩, .zero 32, ""⟩ 0
    ⟨true, "default", none⟩

/-- A session with it is stored, and is vouched for. -/
theorem peer_connected :
    ∃ agent, (run (step .plain .plain plainTexts plain) new plainEvents).sessions.find 1 =
        some agent ∧
      Vouched .plain .plain plainTexts plain
        (run (step .plain .plain plainTexts plain) new plainEvents).answers 1 agent := by
  have stored : ((run (step .plain .plain plainTexts plain) new plainEvents).sessions.find 1).isSome =
      true := by decide +kernel
  obtain ⟨agent, found⟩ := Option.isSome_iff_exists.mp stored
  exact ⟨agent, found, (sessions_vouched .plain .plain plainTexts plain plainEvents).1 1 agent found⟩

end AgentNode

end OpenHttpa.Mesh
