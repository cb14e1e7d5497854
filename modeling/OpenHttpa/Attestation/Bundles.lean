import OpenHttpa.Core.Handshake
import OpenHttpa.Lib.Assoc

/-!
# Verifying bundles of quotes

`openhttpa-attestation/src/verifier.rs` and `composite.rs`. A verifier checks one quote against the
report data; a bundle of quotes is checked one after the other, and the results of the later quotes
are put below the first one. The default of the trait adds them to what is already there. The
overrides put them in its place, so what a verifier itself put below its result for the first quote
is lost.
-/
namespace OpenHttpa.Attestation

open Proto

/-- `AttestError`, which the verifiers call `VerificationError`. -/
inductive AttestError where
  | MalformedQuote (message : String)
  | SignatureInvalid
  | TcbOutOfDate (details : String)
  | ServiceError (message : String)
  | NetworkError (message : String)
  | PolicyViolation (message : String)
  | Revoked (message : String)
  | Malformed (message : String)
deriving DecidableEq

def eqIgnoreAsciiCase (left right : String) : Bool :=
  left.toList.map Char.toLower = right.toList.map Char.toLower

/-- `QuoteVerifier::verify` of one verifier. -/
abbrev Verify := AttestQuote → Octets 64 → Except AttestError VerificationResult

section Bundles

variable {α : Type} (verify : α → Except AttestError VerificationResult)

/-- `QuoteVerifier::verify_bundle`, the default of the trait. -/
def verifyBundle : List α → Except AttestError VerificationResult
  | [] => .error (.MalformedQuote "empty quote bundle")
  | first :: rest => do
    let primary ← verify first
    rest.foldlM (fun primary quote => return primary.push (← verify quote)) primary

/-- The overrides of `verify_bundle`: all quotes are verified, and the results after the first become
its secondary results. -/
def replacingBundle (empty : AttestError) : List α → Except AttestError VerificationResult
  | [] => .error empty
  | first :: rest => do
    let primary ← verify first
    let results ← rest.mapM verify
    return primary.withSecondary results

/-- The result of the first has no secondary results. -/
def NothingBelow (first : α) (rest : List α) : Prop :=
  ∀ primary results, verify first = .ok primary → rest.mapM verify = .ok results →
    primary.secondary = []

variable {verify}

theorem foldlM_push (primary : VerificationResult) (rest : List α) :
    rest.foldlM (fun primary quote => return primary.push (← verify quote)) primary =
      (rest.mapM verify).map fun results => primary.withSecondary (primary.secondary ++ results) := by
  induction rest generalizing primary with
  | nil =>
    cases primary
    simp [VerificationResult.withSecondary, VerificationResult.secondary, Except.map, pure, Except.pure]
  | cons quote rest ih =>
    rw [List.foldlM_cons, List.mapM_cons]
    cases verify quote with
    | error failure => rfl
    | ok result =>
      have pushed := ih (primary.push result)
      change List.foldlM _ (primary.push result) rest = _
      rw [pushed]
      cases rest.mapM verify with
      | error failure => rfl
      | ok results =>
        cases primary
        simp [VerificationResult.withSecondary, VerificationResult.secondary, VerificationResult.push,
          Except.map, bind, Except.bind, pure, Except.pure]

theorem verifyBundle_cons (first : α) (rest : List α) :
    verifyBundle verify (first :: rest) = do
      let primary ← verify first
      let results ← rest.mapM verify
      return primary.withSecondary (primary.secondary ++ results) := by
  rw [verifyBundle]
  cases verify first with
  | error failure => rfl
  | ok primary =>
    refine (foldlM_push primary rest).trans ?_
    cases rest.mapM verify with
    | error | ok => rfl

theorem replacingBundle_outcome (empty : AttestError) (first : α) (rest : List α) :
    (replacingBundle verify empty (first :: rest)).map (fun _ => ()) =
      (verifyBundle verify (first :: rest)).map fun _ => () := by
  rw [verifyBundle_cons, replacingBundle]
  cases verify first with
  | error failure => rfl
  | ok primary =>
    cases rest.mapM verify with
    | error | ok => rfl

theorem withSecondary_eq_iff (primary : VerificationResult) (results : List VerificationResult) :
    primary.withSecondary results = primary.withSecondary (primary.secondary ++ results) ↔
      primary.secondary = [] := by
  cases primary
  simp [VerificationResult.withSecondary, VerificationResult.secondary]

theorem replacingBundle_eq_iff (empty : AttestError) (first : α) (rest : List α) :
    replacingBundle verify empty (first :: rest) = verifyBundle verify (first :: rest) ↔
      NothingBelow verify first rest := by
  rw [verifyBundle_cons, replacingBundle]
  cases atFirst : verify first with
  | error failure =>
    refine iff_of_true rfl fun primary results verified => ?_
    rw [atFirst] at verified
    cases verified
  | ok primary =>
    cases others : rest.mapM verify with
    | error failure =>
      refine iff_of_true rfl fun primary results _ verified => ?_
      rw [others] at verified
      cases verified
    | ok results =>
      refine (Except.ok.injEq _ _).to_iff.trans ((withSecondary_eq_iff primary results).trans ?_)
      constructor
      · intro empty other _ verified _
        rw [atFirst] at verified
        cases verified
        exact empty
      · intro nothing
        exact nothing primary results atFirst others

end Bundles

/-- `CompositeVerifier`: verifiers by the text of the quote type. Its flag `strict_mode` is read
nowhere. -/
structure CompositeVerifier where
  verifiers : Table String Verify

namespace CompositeVerifier

def new : CompositeVerifier := ⟨.empty⟩

variable (composite : CompositeVerifier)

def addVerifier (quoteType : QuoteType) (verify : Verify) : CompositeVerifier :=
  ⟨composite.verifiers.insert quoteType.display verify⟩

def verify : Verify := fun quote reportData =>
  match composite.verifiers.find quote.quoteType.display with
  | none => .error (.PolicyViolation
      ("no verifier registered for quote type: " ++ quote.quoteType.display))
  | some vendor => vendor quote reportData

def verifyBundle (quotes : List AttestQuote)
    (reportData : Octets 64) : Except AttestError VerificationResult :=
  replacingBundle (fun quote => composite.verify quote reportData) (.Malformed "empty quote bundle")
    quotes

end CompositeVerifier

end OpenHttpa.Attestation
