import Mathlib.Data.List.Infix
import OpenHttpa.Lib.Delimited
import OpenHttpa.Lib.Memo
import OpenHttpa.Proto.Types

/-!
# The intent policy and its cache

`AiqlPolicyEngine` asks `LocalLlmEngine` whether an action in a namespace is to be allowed for an
enclave, and keeps the answers in a cache of a thousand entries under the text
`is_debug:namespace:action`. The engine itself is a function of exactly these three, but the text
does not say where the namespace ends. That goes wrong for every configuration that does not answer
all requests alike (`answersFresh_iff_constant`): a request that is blocked and one that is allowed
share a key.
-/
namespace OpenHttpa.Fabric

open Proto

/-- Lower case as `str::to_lowercase` gives it. Of its tables only this is used: nothing becomes
nothing, and a colon at the end stays there without changing what is before it. -/
structure Lowercase where
  apply : String → String
  apply_empty : apply "" = ""
  apply_colon : ∀ text, apply (text ++ ":") = apply text ++ ":"

def contains (text pattern : String) : Bool := pattern.toList <:+: text.toList

structure IdentityMeasurement where
  mrenclave : String
  mrsigner : String
  isDebug : Bool
deriving DecidableEq

structure AiqlConfig where
  maliciousKeywords : List String
  restrictedNamespaces : List String
  strictDebugMode : Bool

def AiqlConfig.default : AiqlConfig where
  maliciousKeywords := ["exfiltrate", "malicious", "bypass", "exploit"]
  restrictedNamespaces := ["system", "admin"]
  strictDebugMode := true

structure AiqlResponse where
  allowed : Bool
  confidence : Nat
  reason : String

/-- The arguments of `is_authorized`. -/
structure Intent where
  measurement : IdentityMeasurement
  nspace : String
  action : String
deriving DecidableEq

structure LocalLlmEngine where
  config : AiqlConfig

namespace LocalLlmEngine

def sensitiveActions : List String := ["production", "override", "system_write"]

variable (lower : Lowercase) (engine : LocalLlmEngine) (intent : Intent)

def debugBlock : Option String :=
  if intent.measurement.isDebug && engine.config.strictDebugMode then
    sensitiveActions.find? fun sensitive => contains (lower.apply intent.action) sensitive
  else none

def namespaceBlock : Bool :=
  engine.config.restrictedNamespaces.contains intent.nspace &&
    (contains (lower.apply intent.action) "write" || contains (lower.apply intent.action) "delete")

def keywordBlock : Option String :=
  engine.config.maliciousKeywords.find? fun keyword => contains (lower.apply intent.action) keyword

def evaluateIntent : Except String AiqlResponse :=
  match engine.debugBlock lower intent with
  | some sensitive =>
    .ok ⟨false, 95, "Strict debug mode blocked sensitive action: " ++ sensitive⟩
  | none =>
    if engine.namespaceBlock lower intent then
      .ok ⟨false, 90, "Unauthorized modification to restricted namespace: " ++ intent.nspace⟩
    else
      match engine.keywordBlock lower intent with
      | some keyword => .ok ⟨false, 85, "Detected malicious keyword intent: " ++ keyword⟩
      | none => .ok ⟨true, 99, "Action appears benign and complies with context policies."⟩

def decision : Except String Bool := (engine.evaluateIntent lower intent).map (·.allowed)

def passes : Bool :=
  (engine.debugBlock lower intent).isNone && !engine.namespaceBlock lower intent &&
    (engine.keywordBlock lower intent).isNone

theorem decision_eq : engine.decision lower intent = .ok (engine.passes lower intent) := by
  unfold decision evaluateIntent passes
  cases engine.debugBlock lower intent with
  | some sensitive => rfl
  | none =>
    cases engine.namespaceBlock lower intent with
    | true => rfl
    | false => cases engine.keywordBlock lower intent <;> rfl

end LocalLlmEngine

def Intent.cacheKey (intent : Intent) : String :=
  displayBool intent.measurement.isDebug ++ ":" ++ intent.nspace ++ ":" ++ intent.action

structure AiqlPolicyEngine where
  localLlm : LocalLlmEngine

namespace AiqlPolicyEngine

def cacheCapacity : Nat := 1000

variable (lower : Lowercase) (engine : AiqlPolicyEngine)

/-- The two locked parts of an `is_authorized` call, and evictions: a call looks its text up and
returns what it finds, or asks the engine and stores what that decides. -/
def step : Memo.State Intent Bool String String → Memo.Event Intent String →
    Memo.State Intent Bool String String :=
  Memo.step Intent.cacheKey (engine.localLlm.decision lower)

def history (events : List (Memo.Event Intent String)) : Memo.State Intent Bool String String :=
  run (engine.step lower) (.new cacheCapacity) events

/-- Every answer is what the engine decides. -/
def AnswersFresh (events : List (Memo.Event Intent String)) : Prop :=
  Memo.AllRight (engine.localLlm.decision lower) (engine.history lower events)

end AiqlPolicyEngine

/-! ## Requests with one key -/

theorem Intent.toList_cacheKey (intent : Intent) :
    intent.cacheKey.toList = (displayBool intent.measurement.isDebug).toList ++
      ':' :: (intent.nspace.toList ++ ':' :: intent.action.toList) := by
  simp [cacheKey]

theorem colon_not_mem_displayBool (value : Bool) : ':' ∉ (displayBool value).toList := by
  cases value <;> decide

theorem Intent.of_cacheKey_eq {first second : Intent} (same : first.cacheKey = second.cacheKey) :
    first.measurement.isDebug = second.measurement.isDebug ∧
      first.nspace.toList ++ ':' :: first.action.toList =
        second.nspace.toList ++ ':' :: second.action.toList := by
  have texts := congrArg String.toList same
  rw [toList_cacheKey, toList_cacheKey] at texts
  obtain ⟨modes, rest⟩ := Delimited.split_unique (colon_not_mem_displayBool _)
    (colon_not_mem_displayBool _) texts
  exact ⟨displayBool_injective (String.toList_injective modes), rest⟩

namespace LocalLlmEngine

variable {lower : Lowercase} {engine : LocalLlmEngine}

theorem passes_congr {first second : Intent}
    (mode : first.measurement.isDebug = second.measurement.isDebug)
    (nspace : first.nspace = second.nspace) (action : first.action = second.action) :
    engine.passes lower first = engine.passes lower second := by
  simp only [passes, debugBlock, namespaceBlock, keywordBlock, mode, nspace, action]

theorem contains_colon {text pattern : String} (inside : contains text pattern = true) :
    contains (text ++ ":") pattern = true := by
  simp only [contains, decide_eq_true_eq] at inside ⊢
  rw [String.toList_append]
  exact inside.trans (List.prefix_append _ _).isInfix

theorem blocked_colon {intent : Intent} (blocked : engine.passes lower intent = false) :
    engine.passes lower { intent with action := intent.action ++ ":" } = false := by
  have carried : ∀ pattern, contains (lower.apply intent.action) pattern = true →
      contains (lower.apply (intent.action ++ ":")) pattern = true := by
    intro pattern inside
    rw [lower.apply_colon]
    exact contains_colon inside
  have kept : ∀ patterns : List String,
      (patterns.find? fun pattern => contains (lower.apply intent.action) pattern).isNone = false →
        (patterns.find? fun pattern =>
          contains (lower.apply (intent.action ++ ":")) pattern).isNone = false := by
    intro patterns found
    simp only [Option.isNone_eq_false_iff, List.find?_isSome] at found ⊢
    obtain ⟨pattern, member, inside⟩ := found
    exact ⟨pattern, member, carried pattern inside⟩
  simp only [passes, Bool.and_eq_false_iff, Bool.not_eq_false'] at blocked ⊢
  rcases blocked with (debug | restricted) | keyword
  · refine .inl (.inl ?_)
    unfold debugBlock at debug ⊢
    split at debug
    · rename_i strict
      rw [if_pos strict]
      exact kept _ debug
    · cases debug
  · refine .inl (.inr ?_)
    simp only [namespaceBlock, Bool.and_eq_true, Bool.or_eq_true] at restricted ⊢
    exact ⟨restricted.1, restricted.2.imp (carried _) (carried _)⟩
  · exact .inr (kept _ keyword)

theorem passes_empty {intent other : Intent} (empty : intent.action = "")
    (allowed : engine.passes lower other = true) : engine.passes lower intent = true := by
  have absent : ∀ pattern : String, pattern ≠ "" →
      contains (lower.apply intent.action) pattern = false := by
    intro pattern something
    rw [empty, lower.apply_empty]
    simpa [contains, decide_eq_true_eq, ← Bool.not_eq_true] using something
  have keywords : "" ∉ engine.config.maliciousKeywords := by
    intro member
    simp only [passes, Bool.and_eq_true, keywordBlock, Option.isNone_iff_eq_none,
      List.find?_eq_none] at allowed
    refine allowed.2 "" member ?_
    simp [contains]
  have debug : engine.debugBlock lower intent = none := by
    unfold debugBlock
    split
    · rw [List.find?_eq_none]
      intro sensitive member
      rw [absent sensitive (by rintro rfl; revert member; decide)]
      decide
    · rfl
  have restricted : engine.namespaceBlock lower intent = false := by
    rw [namespaceBlock, absent "write" (by decide), absent "delete" (by decide)]
    simp
  have keyword : engine.keywordBlock lower intent = none := by
    rw [keywordBlock, List.find?_eq_none]
    intro keyword member
    rw [absent keyword (by rintro rfl; exact keywords member)]
    decide
  rw [passes, debug, restricted, keyword]
  rfl

end LocalLlmEngine

namespace AiqlPolicyEngine

variable {lower : Lowercase} {engine : AiqlPolicyEngine}

theorem answersFresh_of_colonFree {events : List (Memo.Event Intent String)}
    (free : ∀ call ∈ (engine.history lower events).calls, ':' ∉ call.question.nspace.toList) :
    engine.AnswersFresh lower events := by
  refine Memo.allRight_of_agree fun first inside second within same kept found => ?_
  obtain ⟨mode, rest⟩ := Intent.of_cacheKey_eq same
  obtain ⟨nspaces, actions⟩ := Delimited.split_unique (free first inside) (free second within) rest
  rw [← found, engine.localLlm.decision_eq, engine.localLlm.decision_eq]
  rw [LocalLlmEngine.passes_congr mode (String.toList_injective nspaces)
    (String.toList_injective actions)]

theorem exists_shared_key {blocked allowed : Intent}
    (denied : engine.localLlm.passes lower blocked = false)
    (granted : engine.localLlm.passes lower allowed = true) :
    ∃ first second : Intent, first.cacheKey = second.cacheKey ∧
      engine.localLlm.passes lower first = true ∧ engine.localLlm.passes lower second = false := by
  -- The colon after the action is taken for the one between the namespace and an empty action.
  refine ⟨⟨blocked.measurement, blocked.nspace ++ ":" ++ blocked.action, ""⟩,
    { blocked with action := blocked.action ++ ":" }, ?_, ?_, LocalLlmEngine.blocked_colon denied⟩
  · simp [Intent.cacheKey, String.append_assoc]
  · exact LocalLlmEngine.passes_empty rfl granted

/-- **Answers from the cache.** For a configuration, every answer of every history, with calls in any
order and entries dropped at any time, is what a fresh engine decides for that request, exactly if the
configuration decides all requests alike. In a history in which no namespace has a colon it always is. -/
theorem answersFresh_iff_constant (lower : Lowercase) (config : AiqlConfig) :
    ((∀ events, AnswersFresh lower ⟨⟨config⟩⟩ events) ↔
      ∀ first second : Intent, LocalLlmEngine.decision lower ⟨config⟩ first =
        LocalLlmEngine.decision lower ⟨config⟩ second) ∧
    ∀ events, (∀ call ∈ (history lower ⟨⟨config⟩⟩ events).calls, ':' ∉ call.question.nspace.toList) →
      AnswersFresh lower ⟨⟨config⟩⟩ events := by
  refine ⟨?_, fun events => answersFresh_of_colonFree⟩
  have room : 0 < cacheCapacity := by decide
  refine (Memo.allRight_iff room).trans ⟨fun determined first second => ?_, fun constant => ?_⟩
  · have alike : ∀ one other : Intent, one.cacheKey = other.cacheKey →
        LocalLlmEngine.passes lower ⟨config⟩ one = LocalLlmEngine.passes lower ⟨config⟩ other := by
      intro one other same
      have kept := determined one other same _ (LocalLlmEngine.decision_eq lower ⟨config⟩ one)
      rw [LocalLlmEngine.decision_eq] at kept
      exact (Except.ok.inj kept).symm
    have never : ∀ {blocked allowed : Intent}, LocalLlmEngine.passes lower ⟨config⟩ blocked = false →
        LocalLlmEngine.passes lower ⟨config⟩ allowed = true → False := by
      intro blocked allowed denied granted
      obtain ⟨one, other, same, left, right⟩ :=
        @exists_shared_key lower ⟨⟨config⟩⟩ _ _ denied granted
      have equal := alike one other same
      rw [left, right] at equal
      cases equal
    rw [LocalLlmEngine.decision_eq, LocalLlmEngine.decision_eq]
    cases one : LocalLlmEngine.passes lower ⟨config⟩ first with
    | true =>
      cases other : LocalLlmEngine.passes lower ⟨config⟩ second with
      | true => rfl
      | false => exact (never other one).elim
    | false =>
      cases other : LocalLlmEngine.passes lower ⟨config⟩ second with
      | true => exact (never one other).elim
      | false => rfl
  · intro first second _ kept found
    rw [← found]
    exact constant second first

end AiqlPolicyEngine

def Lowercase.ascii : Lowercase where
  apply text := .ofList (text.toList.map Char.toLower)
  apply_empty := rfl
  apply_colon text := by
    apply String.toList_injective
    simp

def IdentityMeasurement.release : IdentityMeasurement := ⟨"m", "s", false⟩

/-- With the default configuration, a write to the restricted namespace `system` is answered with the
permission to write to the namespace `system:x`. -/
theorem AiqlPolicyEngine.default_answers_stale :
    (history .ascii ⟨⟨.default⟩⟩ [.ask ⟨.release, "system:x", "write"⟩, .look 0, .store 0,
        .ask ⟨.release, "system", "x:write"⟩, .look 1]).calls[1]? =
          some (.answered ⟨.release, "system", "x:write"⟩ (.ok true)) ∧
      LocalLlmEngine.decision .ascii ⟨.default⟩ ⟨.release, "system", "x:write"⟩ = .ok false := by
  decide +kernel

end OpenHttpa.Fabric
