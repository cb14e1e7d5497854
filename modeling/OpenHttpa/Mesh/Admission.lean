import OpenHttpa.Channel.HonestRun
import OpenHttpa.Mesh.Policy

/-!
# Admission by policy

`aths_handler` with the `mesh` feature: once the executor has returned, the policy engine of the
server is asked before a session is registered. Its input has the claims of the client's first quote
in it, but the TCB status in it is always `UpToDate`, whatever the verifier found, and the mark of
post-quantum keys is always set. So the default policy keeps out clients without quotes and clients
whose first quote does not show the debug status zero, and nobody else (`meshHandler_default_iff`).
-/
namespace OpenHttpa.Mesh

open OpenHttpa.Core Crypto Headers Proto Rego Server

section Handler

variable {Secret Decap Coins Signer : Type} (prim : Primitives Secret Decap Coins Signer)
  (codecs : Codecs)

def policyInput (provenance : Value) (out : ServerOutcome) : Value :=
  .object [
    ("cipher_suite", .string out.suite.display),
    ("claims", optionalJson (fun result => claimsJson result.claims) out.result.clientAttestationResult),
    ("pqc_bound", .bool true),
    ("provenance", provenance),
    ("tcb_status", .string "UpToDate")]

/-- The answer of the handler to what the policy engine says, unless it goes on. -/
def policyRefusal (policyEngine : Option PolicyEngine) (input : Value) : Option Response :=
  match policyEngine with
  | none => none
  | some evaluate =>
    match evaluate "default" input with
    | .ok true => none
    | .ok false => some (.text 403 "Attestation Policy Denied")
    | .error _ => some (.text 500 "Policy Evaluation Error")

/-- `aths_handler` with the `mesh` feature; `provenanceOf` is the provenance chain of the request as a
document, null if there is none. -/
def meshHandler (policyEngine : Option PolicyEngine) (provenanceOf : HeaderMap → Value)
    (state : AtHsHandlerState Decap Signer) (clock : Clock) (draws : ServerDraws Secret Decap Coins)
    (registry : AtbRegistry) (handle : Nat) (map : HeaderMap) : Handled :=
  athsHandlerUnder prim codecs
    (fun out => policyRefusal policyEngine (policyInput (provenanceOf map) out)) state clock draws
    registry handle map

end Handler

section Runs

variable {Secret Decap Coins Signer : Type} {prim : Primitives Secret Decap Coins Signer}
  {codecs : Codecs} {provenanceOf : HeaderMap → Value} {state : AtHsHandlerState Decap Signer}
  {clock : Clock} {draws : ServerDraws Secret Decap Coins} {registry : AtbRegistry} {handle : Nat}
  {map : HeaderMap}

theorem policyRefusal_eq_none_iff {evaluate : PolicyEngine} {input : Value} :
    policyRefusal (some evaluate) input = none ↔ evaluate "default" input = .ok true := by
  unfold policyRefusal
  cases decided : evaluate "default" input with
  | error failure => simp [decided]
  | ok allowed => cases allowed <;> simp [decided]

theorem meshHandler_registered_iff {evaluate : PolicyEngine} {session : AttestSession} :
    (meshHandler prim codecs (some evaluate) provenanceOf state clock draws registry handle
        map).registered = some session ↔
      ∃ req out, admitRequest prim codecs state clock.unix draws.atbId map = .ok req ∧
        state.executor.executeServer prim clock req (some state.teeProvider) state.verifier
          state.identityKey draws = some (.ok out) ∧
        evaluate "default" (policyInput (provenanceOf map) out) = .ok true ∧
        registry.liveCount < registry.maxSessions ∧ session = sessionOf out := by
  simp only [meshHandler, athsHandlerUnder_registered_iff, policyRefusal_eq_none_iff]

variable (prim) in
def FirstResult (codecs : Codecs) (state : AtHsHandlerState Decap Signer) (clock : Clock)
    (draws : ServerDraws Secret Decap Coins) (map : HeaderMap)
    (result : VerificationResult) : Prop :=
  ∃ req first rest verify, admitRequest prim codecs state clock.unix draws.atbId map = .ok req ∧
    req.clientQuotes = first :: rest ∧ state.verifier = some verify ∧
    verify first (clientReportData prim.sha384 prim.sha512 req) = .ok result

theorem FirstResult.unique {left right : VerificationResult}
    (one : FirstResult prim codecs state clock draws map left)
    (other : FirstResult prim codecs state clock draws map right) : left = right := by
  obtain ⟨req, first, rest, verify, admitted, quotes, verifier, verified⟩ := one
  obtain ⟨req', first', rest', verify', admitted', quotes', verifier', verified'⟩ := other
  rw [admitted] at admitted'
  cases admitted'
  rw [quotes] at quotes'
  cases quotes'
  rw [verifier] at verifier'
  cases verifier'
  rw [verified] at verified'
  exact Except.ok.inj verified'

theorem default_allows_iff (provenanceOf : HeaderMap → Value) {req : AtHsRequest}
    {out : ServerOutcome}
    (admitted : admitRequest prim codecs state clock.unix draws.atbId map = .ok req)
    (executed : state.executor.executeServer prim clock req (some state.teeProvider) state.verifier
      state.identityKey draws = some (.ok out)) :
    RegoPolicyEngine.default.evaluate "default" (policyInput (provenanceOf map) out) = .ok true ↔
      ∃ result, FirstResult prim codecs state clock draws map result ∧
        result.claims.dbgstat = some 0 := by
  have attested := ((AtHsExecutor.executeServer_ok_iff ..).mp executed).attested
  have claims : (policyInput (provenanceOf map) out).member "claims" =
      some (optionalJson (fun result => claimsJson result.claims)
        out.result.clientAttestationResult) := rfl
  have status : (policyInput (provenanceOf map) out).member "tcb_status" =
      some (.string "UpToDate") := rfl
  have bound : (policyInput (provenanceOf map) out).member "pqc_bound" = some (.bool true) := rfl
  rw [RegoPolicyEngine.default_evaluate_iff, claims, status, bound]
  simp only [Option.some.injEq, exists_eq_left', and_true]
  rcases AtHsExecutor.verifyClientQuotes_ok attested with ⟨none, absent⟩ |
    ⟨first, rest, verify, result, composite, quotes, verifier, verified, found, same⟩
  · rw [absent]
    constructor
    · intro nothing
      cases nothing
    · rintro ⟨result, ⟨req', first, rest, verify, admitted', quotes, -, -⟩, -⟩
      rw [admitted] at admitted'
      cases admitted'
      rw [none] at quotes
      cases quotes
  · rw [found]
    have known : FirstResult prim codecs state clock draws map result :=
      ⟨req, first, rest, verify, admitted, quotes, verifier, verified⟩
    refine (claimsJson_dbgstat_iff composite.claims).trans ?_
    rw [same]
    constructor
    · intro zero
      exact ⟨result, known, zero⟩
    · rintro ⟨other, again, zero⟩
      rw [known.unique again]
      exact zero

/-- What the default policy does enforce: a session is registered exactly if the request is admitted, the
executor returns, there is room and the first quote was verified with the debug status zero. -/
theorem meshHandler_default_iff (provenanceOf : HeaderMap → Value) :
    (meshHandler prim codecs (some RegoPolicyEngine.default.evaluate) provenanceOf state clock draws
        registry handle map).registered.isSome = true ↔
      ∃ req out, admitRequest prim codecs state clock.unix draws.atbId map = .ok req ∧
        state.executor.executeServer prim clock req (some state.teeProvider) state.verifier
          state.identityKey draws = some (.ok out) ∧
        registry.liveCount < registry.maxSessions ∧
        ∃ result, FirstResult prim codecs state clock draws map result ∧
          result.claims.dbgstat = some 0 := by
  simp only [Option.isSome_iff_exists, meshHandler_registered_iff]
  constructor
  · rintro ⟨session, req, out, admitted, executed, allowed, room, rfl⟩
    exact ⟨req, out, admitted, executed, room, (default_allows_iff provenanceOf admitted executed).mp
      allowed⟩
  · rintro ⟨req, out, admitted, executed, room, zero⟩
    exact ⟨_, req, out, admitted, executed, (default_allows_iff provenanceOf admitted executed).mpr zero,
      room, rfl⟩

/-- **Admission.** A handshake with a server under the default policy completes only with a client whose
first quote is verified with the debug status zero. That the TCB status of this quote is `UpToDate` as
well holds of a handshake exactly if the verifier, where it answers the first quote of a request that is
admitted, run and has room with the debug status zero, answers with that TCB status. -/
theorem default_admission_iff (prim : Primitives Secret Decap Coins Signer) (codecs : Codecs)
    (provenanceOf : HeaderMap → Value) (state : AtHsHandlerState Decap Signer) (clock : Clock)
    (draws : ServerDraws Secret Decap Coins) (registry : AtbRegistry) (handle : Nat) (map : HeaderMap) :
    ((meshHandler prim codecs (some RegoPolicyEngine.default.evaluate) provenanceOf state clock draws
        registry handle map).registered.isSome = true →
      ∃ result, FirstResult prim codecs state clock draws map result ∧
        result.claims.dbgstat = some 0) ∧
    (((meshHandler prim codecs (some RegoPolicyEngine.default.evaluate) provenanceOf state clock draws
        registry handle map).registered.isSome = true →
      ∃ result, FirstResult prim codecs state clock draws map result ∧
        result.claims.dbgstat = some 0 ∧ result.tcbStatus = "UpToDate") ↔
    ∀ req out first rest verify result,
      admitRequest prim codecs state clock.unix draws.atbId map = .ok req →
      state.executor.executeServer prim clock req (some state.teeProvider) state.verifier
        state.identityKey draws = some (.ok out) →
      registry.liveCount < registry.maxSessions → req.clientQuotes = first :: rest →
      state.verifier = some verify →
      verify first (clientReportData prim.sha384 prim.sha512 req) = .ok result →
      result.claims.dbgstat = some 0 → result.tcbStatus = "UpToDate") := by
  rw [meshHandler_default_iff]
  refine ⟨fun ⟨_, _, _, _, _, zero⟩ => zero, ?_, ?_⟩
  · intro sound req out first rest verify result admitted executed room quotes verifier verified zero
    have known : FirstResult prim codecs state clock draws map result :=
      ⟨req, first, rest, verify, admitted, quotes, verifier, verified⟩
    obtain ⟨other, again, -, status⟩ := sound ⟨req, out, admitted, executed, room, result, known, zero⟩
    rw [known.unique again]
    exact status
  · rintro current ⟨req, out, admitted, executed, room, result, known, zero⟩
    obtain ⟨req', first, rest, verify, admitted', quotes, verifier, verified⟩ := known
    rw [admitted] at admitted'
    cases admitted'
    exact ⟨result, ⟨req, first, rest, verify, admitted, quotes, verifier, verified⟩, zero,
      current req out first rest verify result admitted executed room quotes verifier verified zero⟩

end Runs

/-! ## A client whose TCB is out of date -/

open Channel

def outdated : VerificationResult :=
  .mk none { EatClaims.default with dbgstat := some 0 } "OutOfDate" none none []

def outdatedRun : HonestRun Unit Unit Unit Unit :=
  { mutualRun with server := { mutualRun.server with verifier := some fun _ _ => .ok outdated } }

theorem outdatedRun_welcomed : outdatedRun.Welcomed .plain where
  timely := ⟨rfl, by decide, by decide, by decide⟩
  suite := by decide
  version := by decide
  clientQuoted := rfl
  clientAccepted := ⟨_, rfl⟩
  serverQuoted := rfl
  serverAccepted := ⟨_, rfl⟩
  pinned := fun _ pinned => ⟨(), rfl, Option.some.inj pinned⟩
  room := by decide

/-- A client whose TCB is out of date is admitted. -/
theorem outdated_client_admitted :
    (meshHandler .plain .plain (some RegoPolicyEngine.default.evaluate) (fun _ => .null)
        outdatedRun.server outdatedRun.clock outdatedRun.serverDraws outdatedRun.registry
        outdatedRun.handle (outdatedRun.requestMap .plain .plain)).registered.isSome = true ∧
      FirstResult .plain .plain outdatedRun.server outdatedRun.clock outdatedRun.serverDraws
        (outdatedRun.requestMap .plain .plain) outdated ∧
      outdated.tcbStatus = "OutOfDate" := by
  have sent : ∀ quote ∈ outdatedRun.clientQuotes .plain, Codecs.plain.sfv.Writable quote :=
    mockQuotes_writable _
  have admitted := HonestRun.admitRequest_requestMap .plain outdatedRun_welcomed.timely sent
  obtain ⟨out, outcome⟩ := HonestRun.exists_outcome outdatedRun_welcomed
  have first : FirstResult .plain .plain outdatedRun.server outdatedRun.clock outdatedRun.serverDraws
      (outdatedRun.requestMap .plain .plain) outdated := ⟨_, _, [], _, admitted, rfl, rfl, rfl⟩
  exact ⟨(meshHandler_default_iff _).mpr ⟨_, out, admitted, outcome.executed,
    outdatedRun_welcomed.room, outdated, first, rfl⟩, first, rfl⟩

end OpenHttpa.Mesh
