import Mathlib.Data.List.GetD
import OpenHttpa.Attestation.Bundles

/-!
# The simple policy

`SimplePolicy` of `openhttpa-attestation/src/policy.rs`, which looks at the claims of a verification
result. Its check of the hardware version compares two texts place by place. What the check is for is
an order of dotted numbers in which places that are not written count as zero; the code passes over a
claim that is missing, leaves out the places that are not numbers of 32 bits, and asks for at least as
many places as the minimum has.
-/
namespace OpenHttpa.Attestation

open Proto

/-! ## The code -/

structure SimplePolicy where
  allowedHwmodels : List String
  minHwversion : Option String
  allowDebug : Bool
  minSecurityVersion : Option UInt16

def decimal (digits : List Char) : Option Nat :=
  if digits ≠ [] ∧ digits.all Char.isDigit then some (Nat.ofDigitChars 10 digits 0) else none

/-- `str::parse::<u32>`: a plus sign may come first. -/
def parseU32 (text : List Char) : Option Nat :=
  let digits := match text with
    | '+' :: rest => rest
    | text => text
  (decimal digits).filter (· < 2 ^ 32)

def versionParts (version : String) : List Nat := (version.toList.splitOn '.').filterMap parseU32

/-- The loop of `is_version_at_least`, if it returns. -/
def compareParts : List (Nat × Nat) → Option Bool
  | [] => none
  | (a, b) :: rest => if a > b then some true else if a < b then some false else compareParts rest

/-- `is_version_at_least` behind the parsing. -/
def partsAtLeast (vParts minParts : List Nat) : Bool :=
  (compareParts (vParts.zip minParts)).getD (vParts.length ≥ minParts.length)

def isVersionAtLeast (v minV : String) : Bool := partsAtLeast (versionParts v) (versionParts minV)

namespace SimplePolicy

variable (policy : SimplePolicy) (result : VerificationResult)

/-- The first check of `evaluate`. -/
def checkDebug : Except AttestError Unit :=
  (result.rejectDebugBuilds policy.allowDebug).mapError fun _ =>
    .PolicyViolation "debug-mode enclave quotes are not accepted in production"

def checkHwmodel : Except AttestError Unit :=
  if policy.allowedHwmodels = [] then .ok ()
  else
    match result.claims.hwmodel with
    | some model =>
      if model ∈ policy.allowedHwmodels then .ok ()
      else .error (.PolicyViolation ("unauthorized hardware model: " ++ model))
    | none => .error (.PolicyViolation "hardware model claim missing")

def checkHwversion : Except AttestError Unit :=
  match policy.minHwversion, result.claims.hwversion with
  | some minV, some v =>
    if isVersionAtLeast v minV then .ok ()
    else .error (.PolicyViolation ("hardware version " ++ v ++ " is below minimum " ++ minV))
  | _, _ => .ok ()

def checkSecurityVersion : Except AttestError Unit :=
  match policy.minSecurityVersion with
  | none => .ok ()
  | some minSv =>
    match result.claims.securityVersion with
    | some sv =>
      if sv < minSv then
        .error (.PolicyViolation
          ("security version " ++ toString sv ++ " is below minimum " ++ toString minSv))
      else .ok ()
    | none => .error (.PolicyViolation "security version claim missing")

/-- `SimplePolicy::evaluate`. A release build panics first if debug builds are allowed. -/
def evaluate : Except AttestError Unit := do
  policy.checkDebug result
  policy.checkHwmodel result
  policy.checkHwversion result
  policy.checkSecurityVersion result

end SimplePolicy

/-! ## The order of versions -/

def version (text : String) : Option (List Nat) := (text.toList.splitOn '.').mapM decimal

def place (parts : List Nat) (index : Nat) : Nat := parts.getD index 0

/-- A version is at least another: it is larger in the first place in which they differ, or they do
not differ. -/
def AtLeast (parts minimum : List Nat) : Prop :=
  (∃ index, place minimum index < place parts index ∧
    ∀ earlier < index, place parts earlier = place minimum earlier) ∨
  ∀ index, place parts index = place minimum index

/-- A version is written with fewer places than another that it is equal to. -/
def WrittenShorter (parts minimum : List Nat) : Prop :=
  ∃ zeros, minimum = parts ++ zeros ∧ zeros ≠ [] ∧ ∀ number ∈ zeros, number = 0

theorem atLeast_nil (parts : List Nat) : AtLeast parts [] := by
  by_cases zero : ∀ index, place parts index = 0
  · exact .inr fun index => zero index
  · rw [not_forall] at zero
    classical
    refine .inl ⟨Nat.find zero, Nat.pos_of_ne_zero (Nat.find_spec zero), fun earlier before => ?_⟩
    exact not_not.mp (Nat.find_min zero before)

variable {minimum parts : List Nat}

theorem nil_atLeast_iff : AtLeast [] minimum ↔ ∀ number ∈ minimum, number = 0 := by
  constructor
  · rintro (⟨index, less, -⟩ | same) number member
    · exact absurd less (Nat.not_lt_zero _)
    · obtain ⟨index, inside, rfl⟩ := List.getElem_of_mem member
      have here := same index
      rw [place, place, List.getD_eq_getElem _ _ inside] at here
      exact here.symm
  · intro zero
    refine .inr fun index => ?_
    by_cases inside : index < minimum.length
    · rw [place, place, List.getD_eq_getElem _ _ inside, zero _ (List.getElem_mem inside)]
      rfl
    · rw [place, place, List.getD_eq_default _ _ (Nat.le_of_not_lt inside)]
      rfl

theorem cons_atLeast_cons_iff {a b : Nat} :
    AtLeast (a :: parts) (b :: minimum) ↔ b < a ∨ a = b ∧ AtLeast parts minimum := by
  constructor
  · rintro (⟨index, less, same⟩ | same)
    · cases index with
      | zero => exact .inl less
      | succ index =>
        exact .inr ⟨same 0 (Nat.succ_pos _), .inl ⟨index, less, fun earlier before =>
          same (earlier + 1) (Nat.succ_lt_succ before)⟩⟩
    · exact .inr ⟨same 0, .inr fun index => same (index + 1)⟩
  · rintro (less | ⟨rfl, ⟨index, less, same⟩ | same⟩)
    · exact .inl ⟨0, less, fun earlier before => absurd before (Nat.not_lt_zero _)⟩
    · refine .inl ⟨index + 1, less, fun earlier before => ?_⟩
      cases earlier with
      | zero => rfl
      | succ earlier => exact same earlier (Nat.lt_of_succ_lt_succ before)
    · refine .inr fun index => ?_
      cases index with
      | zero => rfl
      | succ index => exact same index

theorem cons_writtenShorter_cons_iff {a b : Nat} :
    WrittenShorter (a :: parts) (b :: minimum) ↔ a = b ∧ WrittenShorter parts minimum := by
  constructor
  · rintro ⟨zeros, same, more, zero⟩
    cases same
    exact ⟨rfl, zeros, rfl, more, zero⟩
  · rintro ⟨rfl, zeros, rfl, more, zero⟩
    exact ⟨zeros, rfl, more, zero⟩

theorem partsAtLeast_cons_cons (a b : Nat) (parts minimum : List Nat) :
    partsAtLeast (a :: parts) (b :: minimum) =
      if a > b then true else if a < b then false else partsAtLeast parts minimum := by
  simp only [partsAtLeast, List.zip_cons_cons, compareParts, List.length_cons]
  split
  · rfl
  · split
    · rfl
    · simp

theorem partsAtLeast_iff :
    partsAtLeast parts minimum = true ↔ AtLeast parts minimum ∧ ¬ WrittenShorter parts minimum := by
  induction parts generalizing minimum with
  | nil =>
    have short : partsAtLeast [] minimum = true ↔ minimum = [] := by
      simp [partsAtLeast, compareParts]
    rw [short, nil_atLeast_iff]
    constructor
    · rintro rfl
      refine ⟨by simp, ?_⟩
      rintro ⟨zeros, same, more, -⟩
      exact more same.symm
    · rintro ⟨zero, longer⟩
      by_contra more
      exact longer ⟨minimum, rfl, more, zero⟩
  | cons a parts ih =>
    cases minimum with
    | nil =>
      refine iff_of_true (by simp [partsAtLeast, compareParts]) ⟨atLeast_nil _, ?_⟩
      rintro ⟨zeros, same, -, -⟩
      cases same
    | cons b minimum =>
      rw [partsAtLeast_cons_cons, cons_atLeast_cons_iff, cons_writtenShorter_cons_iff]
      rcases Nat.lt_trichotomy a b with less | rfl | more
      · have apart : a ≠ b := by omega
        simp [less, apart, Nat.not_lt.mpr (Nat.le_of_lt less)]
      · simp [ih]
      · have apart : a ≠ b := by omega
        simp [more, apart]

/-! ## What is parsed -/

theorem parseU32_of_decimal {text : List Char} {number : Nat} (digits : decimal text = some number) :
    parseU32 text = if number < 2 ^ 32 then some number else none := by
  have unsigned : ∀ rest, text ≠ '+' :: rest := by
    rintro rest rfl
    rw [decimal, if_neg (by simp)] at digits
    cases digits
  have same : parseU32 text = (decimal text).filter (· < 2 ^ 32) := by
    unfold parseU32
    split
    · rename_i rest
      exact absurd rfl (unsigned rest)
    · rfl
  rw [same, digits, Option.filter_some]
  simp only [decide_eq_true_eq]

/-- The numbers of a version that fit 32 bits. -/
def words (parts : List Nat) : List Nat := parts.filter (· < 2 ^ 32)

/-- Of a dotted version the code reads the numbers that fit 32 bits. -/
theorem versionParts_of_version {text : String} (dotted : version text = some parts) :
    versionParts text = words parts := by
  have all : ∀ (texts : List (List Char)) (parts : List Nat), texts.mapM decimal = some parts →
      texts.filterMap parseU32 = words parts := by
    intro texts
    induction texts with
    | nil =>
      intro parts dotted
      cases dotted
      rfl
    | cons text texts ih =>
      intro parts dotted
      rw [List.mapM_cons] at dotted
      simp only [bind, Option.bind_eq_some_iff, pure, Option.some.injEq] at dotted
      obtain ⟨first, digits, others, rest, rfl⟩ := dotted
      rw [List.filterMap_cons, parseU32_of_decimal digits, ih others rest, words, words]
      by_cases fits : first < 2 ^ 32
      · rw [if_pos fits, List.filter_cons_of_pos (by simpa using fits)]
      · rw [if_neg fits, List.filter_cons_of_neg (by simpa using fits)]
  exact all _ parts dotted

namespace SimplePolicy

variable {policy : SimplePolicy} {result : VerificationResult}

/-- The checks before the one of the version pass. -/
def Reaches (policy : SimplePolicy) (result : VerificationResult) : Prop :=
  policy.checkDebug result = .ok () ∧ policy.checkHwmodel result = .ok ()

def Sufficient (minimum : List Nat) (result : VerificationResult) : Prop :=
  ∃ v parts, result.claims.hwversion = some v ∧ version v = some parts ∧ AtLeast parts minimum

/-- A result is accepted only with a sufficient version, and is not refused for a sufficient one. -/
def Follows (policy : SimplePolicy) (minimum : List Nat) (result : VerificationResult) : Prop :=
  (policy.evaluate result = .ok () → Sufficient minimum result) ∧
    (Sufficient minimum result → policy.Reaches result → policy.checkHwversion result = .ok ())

theorem evaluate_ok_iff : policy.evaluate result = .ok () ↔ policy.Reaches result ∧
    policy.checkHwversion result = .ok () ∧ policy.checkSecurityVersion result = .ok () := by
  unfold evaluate Reaches
  cases policy.checkDebug result with
  | error failure => simp [bind, Except.bind]
  | ok =>
    cases policy.checkHwmodel result with
    | error failure => simp [bind, Except.bind]
    | ok => cases policy.checkHwversion result <;> simp [bind, Except.bind]

theorem checkHwversion_ok_iff {minV v : String} (set : policy.minHwversion = some minV)
    (claimed : result.claims.hwversion = some v) :
    policy.checkHwversion result = .ok () ↔ isVersionAtLeast v minV = true := by
  simp only [checkHwversion, set, claimed]
  split <;> simp_all

/-- The numbers that were read pass the check: they are at least those of the minimum and are not
written shorter. -/
def Passes (numbers minimum : List Nat) : Prop :=
  AtLeast numbers (words minimum) ∧ ¬ WrittenShorter numbers (words minimum)

/-- What has to hold of a claimed version, if a result without a sufficient one may pass the check only
where the check behind it refuses. A version that is missing passes. One that is no list of decimal
numbers passes by those of its parts that are read as `u32`, and one that is a list by its numbers that
fit 32 bits. -/
def Judged (minimum : List Nat) (refusedLater : Prop) : Option String → Prop
  | none => refusedLater
  | some v =>
    match version v with
    | none => Passes (versionParts v) minimum → refusedLater
    | some parts => (AtLeast parts minimum → Passes (words parts) minimum) ∧
      (¬ AtLeast parts minimum → Passes (words parts) minimum → refusedLater)

theorem checkHwversion_absent (absent : result.claims.hwversion = none) :
    policy.checkHwversion result = .ok () := by
  unfold checkHwversion
  rw [absent]
  cases policy.minHwversion <;> rfl

theorem sufficient_iff {v : String} (claimed : result.claims.hwversion = some v) :
    Sufficient minimum result ↔ ∃ parts, version v = some parts ∧ AtLeast parts minimum := by
  simp [Sufficient, claimed]

/-- Under a minimum that is a dotted list of decimal numbers of any size, the policy follows the order of
versions on a result exactly if an earlier check refuses it or its version is judged right: a missing or
an insufficient version that passes the check is refused for its security version, and a sufficient one
passes. -/
theorem follows_order_iff (policy : SimplePolicy) (minV : String) (minimum : List Nat)
    (set : policy.minHwversion = some minV) (dotted : version minV = some minimum)
    (result : VerificationResult) :
    policy.Follows minimum result ↔ (policy.Reaches result →
      Judged minimum (policy.checkSecurityVersion result ≠ .ok ()) result.claims.hwversion) := by
  rw [Follows, evaluate_ok_iff]
  by_cases reaches : policy.Reaches result
  swap
  · simp [reaches]
  simp only [reaches, true_and, forall_const]
  cases claimed : result.claims.hwversion with
  | none =>
    have nothing : ¬ Sufficient minimum result := by
      rintro ⟨v, parts, present, -⟩
      rw [claimed] at present
      cases present
    simp [Judged, nothing, checkHwversion_absent claimed]
  | some v =>
    have passes : policy.checkHwversion result = .ok () ↔ Passes (versionParts v) minimum := by
      rw [checkHwversion_ok_iff set claimed, isVersionAtLeast, versionParts_of_version dotted,
        partsAtLeast_iff, Passes]
    rw [passes, sufficient_iff claimed, Judged]
    cases numbers : version v with
    | none => simp
    | some parts =>
      rw [versionParts_of_version numbers]
      by_cases enough : AtLeast parts minimum
      · simp [enough]
      · simp [enough]

def versionOnly (minV : String) : SimplePolicy := ⟨[], some minV, false, none⟩

def claimsVersion (v : Option String) : VerificationResult :=
  .mk none { EatClaims.default with hwversion := v } "" none none []

/-- A smaller version, a text that is no number and a number of more than 32 bits are each judged by the
order. -/
theorem written_out_follows :
    (versionOnly "2.10").evaluate (claimsVersion (some "2.9")) =
        .error (.PolicyViolation "hardware version 2.9 is below minimum 2.10") ∧
      (versionOnly "2.10").Follows [2, 10] (claimsVersion (some "2.9")) ∧
      (versionOnly "2.1").Follows [2, 1] (claimsVersion (some "abc")) ∧
      (versionOnly "1").Follows [1] (claimsVersion (some "4294967297.5")) := by
  have smaller : ¬ AtLeast [2, 9] [2, 10] := by simp [cons_atLeast_cons_iff]
  have nothing : ¬ AtLeast [] [2, 1] := by simp [nil_atLeast_iff]
  have passes : Passes [5] [1] := partsAtLeast_iff.mp (by decide)
  refine ⟨by decide, (follows_order_iff _ _ [2, 10] rfl (by decide) _).mpr fun _ => ?_,
    (follows_order_iff _ _ [2, 1] rfl (by decide) _).mpr fun _ => ?_,
    (follows_order_iff _ _ [1] rfl (by decide) _).mpr fun _ => ?_⟩
  · exact ⟨fun enough => absurd enough smaller, fun _ passes => absurd passes.1 smaller⟩
  · exact fun passes => absurd passes.1 nothing
  · exact ⟨fun _ => passes, fun less => absurd (cons_atLeast_cons_iff.mpr (.inl (by decide))) less⟩

/-- No version, a version that is not a number and a number of more than 32 bits as the minimum are
accepted; a version that is equal but written shorter is refused. -/
theorem misjudged_versions :
    (versionOnly "2.1").evaluate (claimsVersion none) = .ok () ∧
      (versionOnly "2.1").evaluate (claimsVersion (some "unknown.9")) = .ok () ∧
      (versionOnly "4294967296").evaluate (claimsVersion (some "1")) = .ok () ∧
      (versionOnly "2.0").evaluate (claimsVersion (some "2")) =
        .error (.PolicyViolation "hardware version 2 is below minimum 2.0") := by
  decide

end SimplePolicy

end OpenHttpa.Attestation
