import OpenHttpa.Lib.Rego
import OpenHttpa.Proto.Types

/-!
# The policy engine of the mesh

`openhttpa-mesh/src/policy.rs` with `default_policies.rego`. A policy engine decides an input that is a
JSON document. The default engine asks for claims whose debug status is zero, for the TCB status
`UpToDate` and for the mark that the session is bound to post-quantum keys; it allows an input exactly
if it finds all three there (`default_evaluate_iff`).
-/
namespace OpenHttpa.Mesh

open Proto Rego

inductive MeshError where
  | Handshake (message : String)
  | Attestation (message : String)
  | PeerNotFound (message : String)
  | Mcp (message : String)
  | Registry (message : String)

/-- `PolicyEngine::evaluate`, of the name of a policy and an input. -/
abbrev PolicyEngine := String → Value → Except MeshError Bool

/-! ## `default_policies.rego` -/

def isTrustedTee : Rule where
  name := "lib.is_trusted_tee"
  parameters := ["claims"]
  body := [.eq (.ref "claims" ["dbgstat"]) (.literal (.number 0))]

def verifyMeasurement : Rule where
  name := "lib.verify_measurement"
  parameters := ["actual", "expected"]
  body := [.eq (.ref "actual" []) (.ref "expected" [])]

def isTcbUptodate : Rule where
  name := "lib.is_tcb_uptodate"
  parameters := ["status"]
  body := [.eq (.ref "status" []) (.literal (.string "UpToDate"))]

def hasService : Rule where
  name := "lib.has_service"
  parameters := ["metadata", "service"]
  body := [.contains (.ref "metadata" ["services"]) (.ref "service" [])]

def isPqcBound : Rule where
  name := "lib.is_pqc_bound"
  parameters := ["input"]
  body := [.eq (.ref "input" ["pqc_bound"]) (.literal (.bool true))]

/-! ## The engine -/

/-- `RegoPolicyEngine`: the rules of its library, and the decisions that queries ask for. -/
structure RegoPolicyEngine where
  rules : List Rule
  decisions : List (String × Decision)

namespace RegoPolicyEngine

def default : RegoPolicyEngine where
  rules := [isTrustedTee, verifyMeasurement, isTcbUptodate, hasService, isPqcBound]
  decisions := [("data.openhttpa.mesh.allow",
    { default := some false
      bodies := [[
        .apply "lib.is_trusted_tee" [.ref "input" ["claims"]],
        .apply "lib.is_tcb_uptodate" [.ref "input" ["tcb_status"]],
        .apply "lib.is_pqc_bound" [.ref "input" []]]] })]

def query (policyId : String) : String :=
  if policyId = "default" ∨ policyId = "" then "data.openhttpa.mesh.allow"
  else "data.openhttpa.mesh." ++ policyId ++ ".allow"

/-- `RegoPolicyEngine::evaluate`, with `evaluate_ext`: an undefined decision is not an allowance. -/
def evaluate (engine : RegoPolicyEngine) : PolicyEngine := fun policyId input =>
  let result := (engine.decisions.lookup (query policyId)).bind (·.value engine.rules input)
  .ok (decide (result = some true))

/-- The default engine allows an input exactly if its claims have the debug status zero, its TCB status
is `UpToDate`, and it is marked as bound to post-quantum keys. -/
theorem default_evaluate_iff (input : Value) :
    default.evaluate "default" input = .ok true ↔
      (∃ claims, input.member "claims" = some claims ∧ claims.member "dbgstat" = some (.number 0)) ∧
        input.member "tcb_status" = some (.string "UpToDate") ∧
        input.member "pqc_bound" = some (.bool true) := by
  have trusted : ∀ claims, holds default.rules "lib.is_trusted_tee" [claims] = true ↔
      claims.member "dbgstat" = some (.number 0) := by
    intro claims
    rw [← Term.eval_member "claims" claims []]
    exact holds_comparison_iff [] [verifyMeasurement, isTcbUptodate, hasService, isPqcBound] (by decide)
      (by decide)
  have uptodate : ∀ status, holds default.rules "lib.is_tcb_uptodate" [status] = true ↔
      some status = some (.string "UpToDate") := by
    intro status
    rw [← Term.eval_name "status" status []]
    exact holds_comparison_iff [isTrustedTee, verifyMeasurement] [hasService, isPqcBound] (by decide)
      (by decide)
  have bound : ∀ input, holds default.rules "lib.is_pqc_bound" [input] = true ↔
      input.member "pqc_bound" = some (.bool true) := by
    intro input
    rw [← Term.eval_member "input" input []]
    exact holds_comparison_iff [isTrustedTee, verifyMeasurement, isTcbUptodate, hasService] []
      (by decide) (by decide)
  have decided : default.evaluate "default" input = .ok true ↔ ∀ expr ∈ [
      Expr.apply "lib.is_trusted_tee" [.ref "input" ["claims"]],
      .apply "lib.is_tcb_uptodate" [.ref "input" ["tcb_status"]],
      .apply "lib.is_pqc_bound" [.ref "input" []]],
      expr.holds (holds default.rules) [("input", input)] = true := by
    rw [← Decision.value_eq_true_iff]
    exact (Except.ok.injEq _ _).to_iff.trans decide_eq_true_iff
  rw [decided]
  simp [trusted, uptodate, bound]

end RegoPolicyEngine

/-! ## Claims as documents -/

/-- `Serialize` for `TeeClass`. -/
def teeClassJson : TeeClass → Value
  | .IntelSgx => .string "IntelSgx"
  | .IntelTdx => .string "IntelTdx"
  | .AmdSevSnp => .string "AmdSevSnp"
  | .ArmTrustZone => .string "ArmTrustZone"
  | .NvidiaGpu => .string "NvidiaGpu"
  | .AwsNitro => .string "AwsNitro"
  | .Tpm => .string "Tpm"
  | .Mock => .string "Mock"
  | .Unknown => .string "Unknown"

def optionalJson {α : Type} (json : α → Value) (value : Option α) : Value := (value.map json).getD .null

/-- `Serialize` for `EatClaims`: absent claims are written as null, except the class. -/
def claimsJson (claims : EatClaims) : Value :=
  .object ([
    ("boot_progress", optionalJson .string claims.bootProgress),
    ("dbgstat", optionalJson (fun status => .number status.toNat) claims.dbgstat),
    ("exp", optionalJson (fun time => .number time.toNat) claims.exp),
    ("hwmodel", optionalJson .string claims.hwmodel),
    ("hwversion", optionalJson .string claims.hwversion),
    ("iat", optionalJson (fun time => .number time.toNat) claims.iat),
    ("oemid", optionalJson .string claims.oemid),
    ("security_version", optionalJson (fun version => .number version.toNat) claims.securityVersion)] ++
    (claims.teeClass.map fun teeClass => ("tee_class", teeClassJson teeClass)).toList ++
    [("ueid", optionalJson (fun bytes => .array (bytes.map fun byte => .number byte.toNat)) claims.ueid)])

theorem claimsJson_dbgstat_iff (claims : EatClaims) :
    (claimsJson claims).member "dbgstat" = some (.number 0) ↔ claims.dbgstat = some 0 := by
  have found : (claimsJson claims).member "dbgstat" =
      some (optionalJson (fun status => .number status.toNat) claims.dbgstat) := rfl
  rw [found]
  cases claims.dbgstat with
  | none => simp [optionalJson]
  | some status =>
    simp only [optionalJson, Option.map_some, Option.getD_some, Option.some.injEq, Value.number.injEq]
    rw [← UInt8.toNat_inj]
    rfl

end OpenHttpa.Mesh
