import Mathlib.Data.List.Basic
import OpenHttpa.Fabric.Aiql

/-!
# The AIQL engine

Conditions, their evaluation and `AiqlEngine` of `openhttpa-aiql/src/lib.rs`. A condition is a tree
over four fields of a context. Evaluation walks it from the left and stops where the answer is known,
and the engine stops at the first policy that denies or quarantines, so a field name that is not known
is an error only where one of the two walks comes to it.

The log lines of a matching policy are left out, and with them its name and its violation action.
-/
namespace OpenHttpa.Aiql

open Fabric (contains)

/-! ## The code -/

inductive Condition where
  | Equals (field value : String)
  | Contains (field value : String)
  | NotContains (field value : String)
  | And (conds : List Condition)
  | Or (conds : List Condition)

inductive PolicyAction where
  | Allow
  | Deny
  | Quarantine
deriving DecidableEq

structure AiqlPolicy where
  condition : Condition
  action : PolicyAction

inductive PolicyError where
  | UnknownField (field : String)
deriving DecidableEq

structure Context where
  callerDid : String
  callerMrenclave : String
  intent : String
  nspace : String

def resolveField (ctx : Context) (field : String) : Except PolicyError String :=
  match field with
  | "caller.did" => .ok ctx.callerDid
  | "caller.mrenclave" => .ok ctx.callerMrenclave
  | "intent" => .ok ctx.intent
  | "namespace" => .ok ctx.nspace
  | other => .error (.UnknownField other)

mutual

def Condition.evaluate (ctx : Context) : Condition → Except PolicyError Bool
  | .Equals field value => (resolveField ctx field).map (· == value)
  | .Contains field value => (resolveField ctx field).map (contains · value)
  | .NotContains field value => (resolveField ctx field).map (!contains · value)
  | .And conds => evaluateUntil ctx false conds
  | .Or conds => evaluateUntil ctx true conds

/-- The loop of `And`, which returns at the first `false`, and of `Or`, which returns at the first
`true`; at the end each returns the other answer. -/
def evaluateUntil (ctx : Context) (stop : Bool) : List Condition → Except PolicyError Bool
  | [] => .ok !stop
  | cond :: conds =>
    match cond.evaluate ctx with
    | .error failure => .error failure
    | .ok answer => if answer = stop then .ok stop else evaluateUntil ctx stop conds

end

/-- `AiqlConfig`; `strict_mode` is never read. -/
structure AiqlConfig where
  defaultAction : PolicyAction

def AiqlConfig.default : AiqlConfig := ⟨.Deny⟩

structure AiqlEngine where
  policies : List AiqlPolicy
  config : AiqlConfig

namespace AiqlEngine

def new (config : AiqlConfig) : AiqlEngine := ⟨[], config⟩

def loadPolicy (engine : AiqlEngine) (policy : AiqlPolicy) : AiqlEngine :=
  { engine with policies := engine.policies ++ [policy] }

/-- The loop of `evaluate_payload`, from the action so far. -/
def evaluatePolicies (ctx : Context) :
    List AiqlPolicy → PolicyAction → Except PolicyError PolicyAction
  | [], finalAction => .ok finalAction
  | policy :: policies, finalAction =>
    match policy.condition.evaluate ctx with
    | .error failure => .error failure
    | .ok false => evaluatePolicies ctx policies finalAction
    | .ok true =>
      match policy.action with
      | .Deny => .ok .Deny
      | .Quarantine => .ok .Quarantine
      | .Allow => evaluatePolicies ctx policies .Allow

def evaluatePayload (engine : AiqlEngine) (ctx : Context) : Except PolicyError PolicyAction :=
  evaluatePolicies ctx engine.policies engine.config.defaultAction

end AiqlEngine

/-! ## Walks over a list -/

section Reached

variable {α : Type} {passes : α → Prop}

/-- A walk that goes on after some items comes to an item of a list. -/
def Reached (passes : α → Prop) (items : List α) (item : α) : Prop :=
  ∃ before after, items = before ++ item :: after ∧ ∀ earlier ∈ before, passes earlier

theorem not_reached_nil (item : α) : ¬ Reached passes [] item := by
  simp [Reached]

theorem reached_cons {first item : α} {items : List α} :
    Reached passes (first :: items) item ↔
      item = first ∨ passes first ∧ Reached passes items item := by
  constructor
  · rintro ⟨before, after, found, passed⟩
    cases before with
    | nil =>
      cases found
      exact .inl rfl
    | cons head before =>
      cases found
      obtain ⟨goes, passed⟩ := List.forall_mem_cons.mp passed
      exact .inr ⟨goes, before, after, rfl, passed⟩
  · rintro (rfl | ⟨goes, before, after, rfl, passed⟩)
    · exact ⟨[], items, rfl, by simp⟩
    · exact ⟨first :: before, after, rfl, List.forall_mem_cons.mpr ⟨goes, passed⟩⟩

theorem Reached.mem {items : List α} {item : α} (reached : Reached passes items item) :
    item ∈ items := by
  obtain ⟨before, after, rfl, -⟩ := reached
  simp

end Reached

/-! ## What a condition means -/

def knownFields : List (String × (Context → String)) :=
  [("caller.did", Context.callerDid), ("caller.mrenclave", Context.callerMrenclave),
    ("intent", Context.intent), ("namespace", Context.nspace)]

/-- A field that the engine knows. -/
def Known (field : String) : Prop := field ∈ knownFields.map Prod.fst

instance (field : String) : Decidable (Known field) :=
  inferInstanceAs (Decidable (field ∈ knownFields.map Prod.fst))

/-- The value of a known field. -/
def Context.value (ctx : Context) (field : String) : String :=
  ((knownFields.lookup field).map fun read => read ctx).getD ""

namespace Condition

/-- The condition names the field. -/
inductive Names : Condition → String → Prop where
  | equals (field value : String) : Names (.Equals field value) field
  | contains (field value : String) : Names (.Contains field value) field
  | notContains (field value : String) : Names (.NotContains field value) field
  | and {cond : Condition} {conds : List Condition} {field : String} (child : cond ∈ conds)
    (named : Names cond field) : Names (.And conds) field
  | or {cond : Condition} {conds : List Condition} {field : String} (child : cond ∈ conds)
    (named : Names cond field) : Names (.Or conds) field

def Holds (value : String → String) : Condition → Prop
  | .Equals field text => value field = text
  | .Contains field text => text.toList <:+: (value field).toList
  | .NotContains field text => ¬ text.toList <:+: (value field).toList
  | .And conds => ∀ cond ∈ conds, cond.Holds value
  | .Or conds => ∃ cond, ∃ _ : cond ∈ conds, cond.Holds value

/-- A field that is not known stands where the meaning is still open: of the conditions around it, no
`And` has a false part before it and no `Or` a true one. -/
inductive Meets (value : String → String) : Condition → Prop where
  | equals {field : String} (text : String) (unknown : ¬ Known field) :
    Meets value (.Equals field text)
  | contains {field : String} (text : String) (unknown : ¬ Known field) :
    Meets value (.Contains field text)
  | notContains {field : String} (text : String) (unknown : ¬ Known field) :
    Meets value (.NotContains field text)
  | and {conds : List Condition} {cond : Condition} (reached : Reached (·.Holds value) conds cond)
    (met : Meets value cond) : Meets value (.And conds)
  | or {conds : List Condition} {cond : Condition} (reached : Reached (¬ ·.Holds value) conds cond)
    (met : Meets value cond) : Meets value (.Or conds)

@[induction_eliminator]
theorem induct {motive : Condition → Prop} (equals : ∀ field value, motive (.Equals field value))
    (contains : ∀ field value, motive (.Contains field value))
    (notContains : ∀ field value, motive (.NotContains field value))
    (and : ∀ conds, (∀ cond ∈ conds, motive cond) → motive (.And conds))
    (or : ∀ conds, (∀ cond ∈ conds, motive cond) → motive (.Or conds)) (cond : Condition) :
    motive cond :=
  @Condition.rec motive (fun conds => ∀ cond ∈ conds, motive cond) equals contains notContains
    (fun conds children => and conds children) (fun conds children => or conds children)
    (fun _ none => absurd none List.not_mem_nil)
    (fun _ _ first others => List.forall_mem_cons.mpr ⟨first, others⟩) cond

end Condition

/-! ## Where evaluation fails -/

variable {ctx : Context}

theorem resolveField_eq (field : String) : resolveField ctx field =
    if Known field then .ok (ctx.value field) else .error (.UnknownField field) := by
  by_cases known : Known field
  · rw [if_pos known]
    simp only [Known, knownFields, List.map_cons, List.map_nil, List.mem_cons,
      List.not_mem_nil, or_false] at known
    rcases known with rfl | rfl | rfl | rfl <;> rfl
  · rw [if_neg known]
    simp only [Known, knownFields, List.map_cons, List.map_nil, List.mem_cons,
      List.not_mem_nil, or_false, not_or] at known
    unfold resolveField
    split <;> simp_all

theorem map_resolveField_error_iff {compare : String → Bool} {field : String} :
    (∃ failure, (resolveField ctx field).map compare = .error failure) ↔ ¬ Known field := by
  rw [resolveField_eq]
  split <;> simp_all [Except.map]

theorem map_resolveField_ok {compare : String → Bool} {field : String} {answer : Bool}
    (resolved : (resolveField ctx field).map compare = .ok answer) :
    answer = compare (ctx.value field) := by
  rw [resolveField_eq] at resolved
  split at resolved
  · exact (Except.ok.inj resolved).symm
  · cases resolved

/-- The loop of `And` and `Or` returns whether every, or some, part holds, if it returns. -/
theorem evaluateUntil_ok {stop answer : Bool} {conds : List Condition}
    (children : ∀ cond ∈ conds, ∀ answer, cond.evaluate ctx = .ok answer →
      (answer = true ↔ cond.Holds ctx.value))
    (returned : evaluateUntil ctx stop conds = .ok answer) :
    answer = stop ↔ ∃ cond ∈ conds, (cond.Holds ctx.value ↔ stop = true) := by
  induction conds with
  | nil =>
    cases Except.ok.inj returned
    simp
  | cons cond conds ih =>
    obtain ⟨first, others⟩ := List.forall_mem_cons.mp children
    rw [evaluateUntil] at returned
    cases found : cond.evaluate ctx with
    | error failure => simp [found] at returned
    | ok given =>
      have holds := first given found
      simp only [found] at returned
      rw [List.exists_mem_cons_iff, ← holds]
      split at returned
      · next stops =>
        cases returned
        simp [stops]
      · next goes =>
        rw [ih others returned, or_iff_right]
        rwa [← Bool.eq_iff_iff]

/-- What evaluation answers is whether the condition holds. -/
theorem evaluate_ok {cond : Condition} {answer : Bool} (evaluated : cond.evaluate ctx = .ok answer) :
    answer = true ↔ cond.Holds ctx.value := by
  induction cond generalizing answer with
  | equals field value =>
    rw [map_resolveField_ok evaluated, Condition.Holds, beq_iff_eq]
  | contains field value =>
    rw [map_resolveField_ok evaluated, Condition.Holds]
    simp [contains]
  | notContains field value =>
    rw [map_resolveField_ok evaluated, Condition.Holds]
    simp [contains]
  | and conds ih =>
    have loop := evaluateUntil_ok (fun cond child _ => ih cond child) evaluated
    rw [Condition.Holds, ← Bool.not_eq_false, loop]
    simp
  | or conds ih =>
    have loop := evaluateUntil_ok (fun cond child _ => ih cond child) evaluated
    rw [Condition.Holds, loop]
    simp

theorem evaluateUntil_error_iff {stop : Bool} {conds : List Condition}
    (children : ∀ cond ∈ conds,
      (∃ failure, cond.evaluate ctx = .error failure) ↔ cond.Meets ctx.value) :
    (∃ failure, evaluateUntil ctx stop conds = .error failure) ↔ ∃ cond,
      Reached (fun cond => ¬ (cond.Holds ctx.value ↔ stop = true)) conds cond ∧
        cond.Meets ctx.value := by
  induction conds with
  | nil => simp [evaluateUntil, not_reached_nil]
  | cons cond conds ih =>
    obtain ⟨first, others⟩ := List.forall_mem_cons.mp children
    simp only [evaluateUntil, reached_cons, or_and_right, exists_or, exists_eq_left, ← first]
    cases found : cond.evaluate ctx with
    | error failure => simp
    | ok answer =>
      rw [← evaluate_ok found, ← Bool.eq_iff_iff]
      by_cases stops : answer = stop
      · simp [stops]
      · simp [stops, ih others]

/-- Evaluation fails exactly if it comes to a field that is not known. -/
theorem evaluate_error_iff {cond : Condition} :
    (∃ failure, cond.evaluate ctx = .error failure) ↔ cond.Meets ctx.value := by
  induction cond with
  | equals field text =>
    rw [Condition.evaluate, map_resolveField_error_iff]
    exact ⟨.equals text, fun | .equals _ unknown => unknown⟩
  | contains field text =>
    rw [Condition.evaluate, map_resolveField_error_iff]
    exact ⟨.contains text, fun | .contains _ unknown => unknown⟩
  | notContains field text =>
    rw [Condition.evaluate, map_resolveField_error_iff]
    exact ⟨.notContains text, fun | .notContains _ unknown => unknown⟩
  | and conds ih =>
    simp only [Condition.evaluate, evaluateUntil_error_iff ih, Bool.false_eq_true, iff_false, not_not]
    exact ⟨fun ⟨_, reached, met⟩ => .and reached met, fun | .and reached met => ⟨_, reached, met⟩⟩
  | or conds ih =>
    simp only [Condition.evaluate, evaluateUntil_error_iff ih, iff_true]
    exact ⟨fun ⟨_, reached, met⟩ => .or reached met, fun | .or reached met => ⟨_, reached, met⟩⟩

def Context.uniform (text : String) : Context := ⟨text, text, text, text⟩

namespace AiqlEngine

/-- A policy that does not decide: it only allows, or does not apply. -/
def PassedOver (value : String → String) (policy : AiqlPolicy) : Prop :=
  policy.action = .Allow ∨ ¬ policy.condition.Holds value

/-- Some policy names a field that is not known. -/
def NamesUnknown (engine : AiqlEngine) : Prop :=
  ∃ policy ∈ engine.policies, ∃ field, policy.condition.Names field ∧ ¬ Known field

/-- A policy before which none has decided has an unknown field where its meaning is still open. -/
def Meets (engine : AiqlEngine) (value : String → String) : Prop :=
  ∃ policy, Reached (PassedOver value) engine.policies policy ∧ policy.condition.Meets value

theorem evaluatePolicies_error_iff {policies : List AiqlPolicy} {finalAction : PolicyAction} :
    (∃ failure, evaluatePolicies ctx policies finalAction = .error failure) ↔
      ∃ policy, Reached (PassedOver ctx.value) policies policy ∧ policy.condition.Meets ctx.value := by
  induction policies generalizing finalAction with
  | nil => simp [evaluatePolicies, not_reached_nil]
  | cons policy policies ih =>
    simp only [evaluatePolicies, reached_cons, or_and_right, exists_or, exists_eq_left,
      ← @evaluate_error_iff ctx policy.condition]
    cases found : policy.condition.evaluate ctx with
    | error failure => simp
    | ok answer =>
      have passes : PassedOver ctx.value policy ↔ policy.action = .Allow ∨ ¬ answer = true := by
        rw [PassedOver, evaluate_ok found]
      cases answer with
      | false => simp [ih, passes]
      | true => cases acts : policy.action <;> simp [ih, passes, acts]

/-- An unknown field that some policy names is reported exactly if, where there is one, the engine
comes to one: it lies in a policy after which and in a place before which nothing has been decided. -/
theorem unknownField_reported_iff (engine : AiqlEngine) (ctx : Context) :
    (engine.NamesUnknown → ∃ field, engine.evaluatePayload ctx = .error (.UnknownField field)) ↔
      (engine.NamesUnknown → engine.Meets ctx.value) := by
  have failures : (∃ field, engine.evaluatePayload ctx = .error (.UnknownField field)) ↔
      ∃ failure, engine.evaluatePayload ctx = .error failure :=
    ⟨fun ⟨field, failed⟩ => ⟨_, failed⟩, fun ⟨⟨field⟩, failed⟩ => ⟨field, failed⟩⟩
  rw [failures, evaluatePayload, evaluatePolicies_error_iff, Meets]

/-- Two policies with a misspelt field: an alternative that is already true, and a place behind a
policy that denies. -/
theorem misspelt_field_passes :
    let misspelt := Condition.Equals "caller.id" "did:foo"
    let always := Condition.Contains "intent" ""
    (AiqlEngine.mk [⟨.Or [always, misspelt], .Allow⟩] .default).evaluatePayload (.uniform "x") =
        .ok .Allow ∧
      (AiqlEngine.mk [⟨always, .Deny⟩, ⟨misspelt, .Allow⟩] .default).evaluatePayload (.uniform "x") =
        .ok .Deny ∧
      ¬ Known "caller.id" := by
  decide

end AiqlEngine

/-! ## What the engine decides -/

theorem Condition.Meets.names {cond : Condition} {value : String → String} (met : cond.Meets value) :
    ∃ field, cond.Names field ∧ ¬ Known field := by
  induction met with
  | @equals field text unknown => exact ⟨field, .equals field text, unknown⟩
  | @contains field text unknown => exact ⟨field, .contains field text, unknown⟩
  | @notContains field text unknown => exact ⟨field, .notContains field text, unknown⟩
  | and reached met ih =>
    obtain ⟨field, named, unknown⟩ := ih
    exact ⟨field, .and reached.mem named, unknown⟩
  | or reached met ih =>
    obtain ⟨field, named, unknown⟩ := ih
    exact ⟨field, .or reached.mem named, unknown⟩

open Classical in
theorem evaluate_of_known {cond : Condition} (known : ∀ field, cond.Names field → Known field) :
    cond.evaluate ctx = .ok (decide (cond.Holds ctx.value)) := by
  cases evaluated : cond.evaluate ctx with
  | error failure =>
    obtain ⟨field, named, unknown⟩ := (evaluate_error_iff.mp ⟨failure, evaluated⟩).names
    exact absurd (known field named) unknown
  | ok answer => rw [Except.ok.injEq, Bool.eq_iff_iff, decide_eq_true_iff, evaluate_ok evaluated]

open Classical in
/-- What a list of policies is for: the first that denies or quarantines and applies, else `Allow` if
some that allows applies, else the default. -/
noncomputable def decided (value : String → String) (policies : List AiqlPolicy)
    (defaultAction : PolicyAction) : PolicyAction :=
  match policies.find? fun policy => policy.action ≠ .Allow ∧ policy.condition.Holds value with
  | some policy => policy.action
  | none =>
    if ∃ policy ∈ policies, policy.action = .Allow ∧ policy.condition.Holds value then .Allow
    else defaultAction

variable {value : String → String} {policy : AiqlPolicy}

open Classical in
theorem decided_cons_skip (not_applies : ¬ policy.condition.Holds value) (policies : List AiqlPolicy)
    (defaultAction : PolicyAction) :
    decided value (policy :: policies) defaultAction = decided value policies defaultAction := by
  have others : (∃ other ∈ policy :: policies, other.action = .Allow ∧ other.condition.Holds value) ↔
      ∃ other ∈ policies, other.action = .Allow ∧ other.condition.Holds value := by
    simp [not_applies]
  rw [decided, List.find?_cons_of_neg (by simp [not_applies]), decided]
  split
  · rfl
  · exact if_congr others rfl rfl

theorem decided_cons_allow (applies : policy.condition.Holds value) (allows : policy.action = .Allow)
    (policies : List AiqlPolicy) (defaultAction : PolicyAction) :
    decided value (policy :: policies) defaultAction = decided value policies .Allow := by
  simp [decided, applies, allows]

namespace AiqlEngine

open Classical in
theorem evaluatePolicies_of_known {policies : List AiqlPolicy}
    (known : ∀ policy ∈ policies, ∀ field, policy.condition.Names field → Known field)
    (finalAction : PolicyAction) :
    evaluatePolicies ctx policies finalAction = .ok (decided ctx.value policies finalAction) := by
  induction policies generalizing finalAction with
  | nil => simp [evaluatePolicies, decided]
  | cons policy policies ih =>
    obtain ⟨first, others⟩ := List.forall_mem_cons.mp known
    rw [evaluatePolicies, evaluate_of_known first]
    by_cases applies : policy.condition.Holds ctx.value
    · rw [decide_eq_true applies]
      cases acts : policy.action with
      | Allow => rw [decided_cons_allow applies acts, ← ih others]
      | Deny | Quarantine => simp [decided, applies, acts]
    · rw [decide_eq_false applies, decided_cons_skip applies, ← ih others]

/-- Over known fields the engine returns what its policies are for. -/
theorem evaluatePayload_decides (engine : AiqlEngine) (ctx : Context)
    (known : ∀ policy ∈ engine.policies, ∀ field, policy.condition.Names field → Known field) :
    engine.evaluatePayload ctx =
      .ok (decided ctx.value engine.policies engine.config.defaultAction) :=
  evaluatePolicies_of_known known _

/-- Loaded after a policy that allows, one that quarantines still decides. -/
theorem quarantine_decides :
    let engine := ((new .default).loadPolicy ⟨.Equals "namespace" "x", .Allow⟩).loadPolicy
      ⟨.NotContains "intent" "y", .Quarantine⟩
    engine.evaluatePayload (.uniform "x") = .ok .Quarantine ∧
      engine.evaluatePayload (.uniform "x") =
        .ok (decided (Context.uniform "x").value engine.policies engine.config.defaultAction) := by
  refine ⟨by decide, evaluatePayload_decides _ _ ?_⟩
  intro policy loaded field named
  rcases List.mem_pair.mp loaded with rfl | rfl
  · cases named
    decide
  · cases named
    decide

end AiqlEngine

end OpenHttpa.Aiql
