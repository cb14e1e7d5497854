import OpenHttpa.Core.Handshake
import Mathlib.Data.List.Destutter
import Mathlib.Data.List.Dedup
import Mathlib.Data.List.Forall2

/-!
# The evidence of a client

What a server accepts as the evidence of a client. `check_required_client_quote_types` passes a list of
quotes exactly if their types are the required ones, each once, in any order
(`required_types_iff`); `with_required_client_quote_types` may be given the types in any order and
more than once. `verify_client_quotes` returns a result exactly if every quote is accepted on its own,
and the result is that of the first quote with the others behind it (`verifyClientQuotes_some_iff`).
-/
namespace OpenHttpa.Core

open Proto

/-! ## The required types -/

/-- `Vec::dedup`: of equal neighbours the first stays. -/
def dedupNeighbours {α : Type} [DecidableEq α] (items : List α) : List α := items.destutter (· ≠ ·)

theorem mem_dedupNeighbours {α : Type} [DecidableEq α] {items : List α} {item : α} :
    item ∈ dedupNeighbours items ↔ item ∈ items := by
  have running : ∀ (rest : List α) (first : α),
      item ∈ rest.destutter' (· ≠ ·) first ↔ item ∈ first :: rest := by
    intro rest
    induction rest with
    | nil => exact fun first => Iff.rfl
    | cons second rest ih =>
      intro first
      by_cases apart : first ≠ second
      · rw [List.destutter'_cons_pos _ apart, List.mem_cons, ih, ← List.mem_cons]
      · rw [List.destutter'_cons_neg _ apart, ih, not_not.mp apart]
        simp
  cases items with
  | nil => exact Iff.rfl
  | cons first rest => exact running rest first

namespace AtHsExecutor

/-- `with_required_client_quote_types`; the texts of `Debug`, which the types are sorted by, are
given. -/
def withRequiredClientQuoteTypes (executor : AtHsExecutor) (debug : QuoteType → String)
    (types : List QuoteType) : AtHsExecutor :=
  { executor with
    requiredClientQuoteTypes :=
      dedupNeighbours (types.mergeSort fun left right => decide (debug left ≤ debug right)) }

variable {executor : AtHsExecutor} {required seen : List QuoteType} {quotes : List AttestQuote}
  {result : VerificationResult}

theorem mem_required {debug : QuoteType → String} {types : List QuoteType} {type : QuoteType} :
    type ∈ (executor.withRequiredClientQuoteTypes debug types).requiredClientQuoteTypes ↔
      type ∈ types := by
  unfold withRequiredClientQuoteTypes
  dsimp only
  rw [mem_dedupNeighbours]
  exact (List.mergeSort_perm types _).mem_iff

theorem seenQuoteTypes_ok_iff {result : List QuoteType} :
    seenQuoteTypes required seen quotes = .ok result ↔
      result = seen ++ quotes.map AttestQuote.quoteType ∧
      (∀ type ∈ quotes.map AttestQuote.quoteType, type ∈ required ∧ type ∉ seen) ∧
      (quotes.map AttestQuote.quoteType).Nodup := by
  induction quotes generalizing seen with
  | nil => simp [seenQuoteTypes, eq_comm]
  | cons quote rest ih =>
    unfold seenQuoteTypes
    by_cases expected : quote.quoteType ∈ required
    · rw [if_neg (by simp [expected])]
      by_cases again : quote.quoteType ∈ seen
      · rw [if_pos (by simp [again])]
        constructor
        · nofun
        · rintro ⟨-, types, -⟩
          exact absurd again (types _ List.mem_cons_self).2
      · rw [if_neg (by simp [again]), ih, List.map_cons, List.append_assoc, List.singleton_append,
          List.forall_mem_cons, List.nodup_cons]
        apply and_congr_right
        intro _
        constructor
        · rintro ⟨types, distinct⟩
          refine ⟨⟨⟨expected, again⟩, ?_⟩, ?_, distinct⟩
          · intro type member
            have apart := (types type member).2
            rw [List.mem_append] at apart
            exact ⟨(types type member).1, fun before => apart (.inl before)⟩
          · intro member
            exact (types _ member).2 (by simp)
        · rintro ⟨⟨-, types⟩, apart, distinct⟩
          refine ⟨?_, distinct⟩
          intro type member
          refine ⟨(types type member).1, ?_⟩
          rw [List.mem_append, List.mem_singleton]
          rintro (before | rfl)
          · exact (types type member).2 before
          · exact apart member
    · rw [if_pos (by simp [expected])]
      constructor
      · nofun
      · rintro ⟨-, types, -⟩
        exact absurd (types _ List.mem_cons_self).1 expected

theorem find_missing_eq_none :
    (required.find? fun type => !seen.contains type) = none ↔ ∀ type ∈ required, type ∈ seen := by
  simp [List.find?_eq_none]

/-- The quotes have each required type once, and no other. -/
def MeetsRequired (required : List QuoteType) (quotes : List AttestQuote) : Prop :=
  required = [] ∨ (quotes.map AttestQuote.quoteType).Nodup ∧
    ∀ type, type ∈ quotes.map AttestQuote.quoteType ↔ type ∈ required

theorem checkRequired_ok_iff :
    executor.checkRequiredClientQuoteTypes quotes = .ok () ↔
      MeetsRequired executor.requiredClientQuoteTypes quotes := by
  unfold checkRequiredClientQuoteTypes
  by_cases optional : executor.requiredClientQuoteTypes = []
  · rw [if_pos (List.isEmpty_iff.mpr optional)]
    exact iff_of_true rfl (.inl optional)
  · rw [if_neg (List.isEmpty_iff.not.mpr optional)]
    have required : MeetsRequired executor.requiredClientQuoteTypes quotes ↔
        (quotes.map AttestQuote.quoteType).Nodup ∧
          ∀ type, type ∈ quotes.map AttestQuote.quoteType ↔ type ∈ executor.requiredClientQuoteTypes :=
      or_iff_right optional
    rw [required]
    by_cases empty : quotes = []
    · subst empty
      rw [if_pos List.isEmpty_nil]
      constructor
      · nofun
      · rintro ⟨-, types⟩
        exact absurd (List.eq_nil_iff_forall_not_mem.mpr fun type member =>
          List.not_mem_nil ((types type).mpr member)) optional
    · rw [if_neg (List.isEmpty_iff.not.mpr empty)]
      constructor
      · intro passed
        obtain ⟨seen, looped, passed⟩ := bind_ok passed
        obtain ⟨rfl, types, distinct⟩ := seenQuoteTypes_ok_iff.mp looped
        refine ⟨distinct, fun type => ⟨fun member => (types type member).1, ?_⟩⟩
        split at passed
        · cases passed
        · next complete => exact find_missing_eq_none.mp complete type
      · rintro ⟨distinct, types⟩
        have looped : seenQuoteTypes executor.requiredClientQuoteTypes [] quotes =
            .ok (quotes.map AttestQuote.quoteType) :=
          seenQuoteTypes_ok_iff.mpr
            ⟨rfl, fun type member => ⟨(types type).mp member, List.not_mem_nil⟩, distinct⟩
        have complete := find_missing_eq_none.mpr fun type => (types type).mpr
        simp only [bind, Except.bind, looped, complete]

/-- **The required types.** Whatever types are given, in any order and however often, the check passes
exactly if none were given or the types of the quotes are the given ones, each once. -/
theorem required_types_iff (executor : AtHsExecutor) (debug : QuoteType → String)
    (types : List QuoteType) (quotes : List AttestQuote) :
    (executor.withRequiredClientQuoteTypes debug types).checkRequiredClientQuoteTypes quotes = .ok () ↔
      types = [] ∨ (quotes.map AttestQuote.quoteType).Perm types.dedup := by
  rw [checkRequired_ok_iff]
  apply or_congr
  · rw [List.eq_nil_iff_forall_not_mem, List.eq_nil_iff_forall_not_mem]
    exact forall_congr' fun type => not_congr mem_required
  · simp only [mem_required]
    constructor
    · rintro ⟨distinct, same⟩
      rw [List.perm_ext_iff_of_nodup distinct (List.nodup_dedup types)]
      intro type
      rw [same, List.mem_dedup]
    · intro perm
      refine ⟨perm.nodup_iff.mpr (List.nodup_dedup types), ?_⟩
      intro type
      rw [perm.mem_iff, List.mem_dedup]

/-! ## The quotes -/

/-- The executor accepts the quote. -/
structure Accepts (executor : AtHsExecutor) (unix : Nat) (verify : QuoteVerifier)
    (reportData : Octets 64) (quote : AttestQuote) (result : VerificationResult) : Prop where
  verified : verify quote reportData = .ok result
  fresh : ∀ iat, result.claims.iat = some iat → unix ≤ iat.toNat + 86400
  production : result.claims.dbgstat.getD 0 ≠ 0 → executor.allowDebug = true
  permitted : ∀ evaluate, executor.policyEngine = some evaluate → evaluate result = .ok ()
  unrevoked : ∀ check, executor.revocationProvider = some check → check result = .ok ()

theorem isStale_eq_false_iff {unix : Nat} :
    isStale unix result = false ↔
      ∀ iat, result.claims.iat = some iat → unix ≤ iat.toNat + 86400 := by
  unfold isStale
  cases result.claims.iat with
  | none => simp
  | some iat =>
    simp only [decide_eq_false_iff_not, Option.some.injEq, forall_eq']
    omega

theorem rejectDebugBuilds_ok_iff {allowDebug : Bool} :
    result.rejectDebugBuilds allowDebug = .ok () ↔
      (result.claims.dbgstat.getD 0 ≠ 0 → allowDebug = true) := by
  unfold VerificationResult.rejectDebugBuilds
  cases allowDebug <;> simp

def optionalCheck (check : Option (VerificationResult → Except String Unit))
    (rename : String → HandshakeError) (result : VerificationResult) : Except HandshakeError Unit :=
  match check with
  | none => .ok ()
  | some check => (check result).mapError rename

theorem optionalCheck_ok_iff {check : Option (VerificationResult → Except String Unit)}
    {rename : String → HandshakeError} :
    optionalCheck check rename result = .ok () ↔
      ∀ given, check = some given → given result = .ok () := by
  cases check with
  | none => exact iff_of_true rfl nofun
  | some check =>
    constructor
    · rintro passed given ⟨⟩
      exact mapError_ok passed
    · intro passed
      change (check result).mapError rename = .ok ()
      rw [passed check rfl]
      rfl

section Loop

variable {executor : AtHsExecutor} {unix : Nat} {verify : QuoteVerifier} {reportData : Octets 64}

theorem appraiseQuote_eq (composite : Option VerificationResult) (quote : AttestQuote) :
    executor.appraiseQuote unix verify reportData composite quote =
      ((verify quote reportData).mapError fun reason =>
        .Attestation ("client evidence rejected: " ++ reason)) >>= fun result =>
      if isStale unix result then
        .error (.Attestation "client evidence rejected: quote has expired (older than 24h)")
      else
        ((result.rejectDebugBuilds executor.allowDebug).mapError fun reason =>
          HandshakeError.Attestation ("client evidence rejected: " ++ reason)) >>= fun _ =>
        optionalCheck executor.policyEngine .Policy result >>= fun _ =>
        optionalCheck executor.revocationProvider .Revoked result >>= fun _ =>
        .ok (some (composite.elim result fun primary => primary.push result)) := by
  unfold appraiseQuote optionalCheck
  cases executor.policyEngine <;> cases executor.revocationProvider <;> cases composite <;> rfl

theorem appraiseQuote_ok_iff {composite next : Option VerificationResult} {quote : AttestQuote} :
    executor.appraiseQuote unix verify reportData composite quote = .ok next ↔
      ∃ result, executor.Accepts unix verify reportData quote result ∧
        next = some (composite.elim result fun primary => primary.push result) := by
  rw [appraiseQuote_eq]
  constructor
  · intro turn
    obtain ⟨result, verified, turn⟩ := bind_ok turn
    split at turn
    · cases turn
    · next fresh =>
      obtain ⟨⟨⟩, production, turn⟩ := bind_ok turn
      obtain ⟨⟨⟩, permitted, turn⟩ := bind_ok turn
      obtain ⟨⟨⟩, unrevoked, turn⟩ := bind_ok turn
      cases turn
      exact ⟨result, {
        verified := mapError_ok verified
        fresh := isStale_eq_false_iff.mp (Bool.eq_false_iff.mpr fresh)
        production := rejectDebugBuilds_ok_iff.mp (mapError_ok production)
        permitted := optionalCheck_ok_iff.mp permitted
        unrevoked := optionalCheck_ok_iff.mp unrevoked }, rfl⟩
  · rintro ⟨result, accepted, rfl⟩
    rw [accepted.verified]
    change (if isStale unix result then _ else _) = _
    rw [if_neg (Bool.eq_false_iff.mp (isStale_eq_false_iff.mpr accepted.fresh)),
      rejectDebugBuilds_ok_iff.mpr accepted.production, optionalCheck_ok_iff.mpr accepted.permitted,
      optionalCheck_ok_iff.mpr accepted.unrevoked]
    rfl

theorem withSecondary_push (primary result : VerificationResult) (results : List VerificationResult) :
    (primary.push result).withSecondary ((primary.push result).secondary ++ results) =
      primary.withSecondary (primary.secondary ++ result :: results) := by
  cases primary
  simp [VerificationResult.push, VerificationResult.withSecondary, VerificationResult.secondary]

theorem foldlM_appraise_iff {primary : VerificationResult} {last : Option VerificationResult} :
    quotes.foldlM (executor.appraiseQuote unix verify reportData) (some primary) = .ok last ↔
      ∃ results, List.Forall₂ (executor.Accepts unix verify reportData) quotes results ∧
        last = some (primary.withSecondary (primary.secondary ++ results)) := by
  induction quotes generalizing primary with
  | nil =>
    have whole : primary.withSecondary (primary.secondary ++ []) = primary := by
      cases primary
      simp [VerificationResult.withSecondary, VerificationResult.secondary]
    constructor
    · intro folded
      cases folded
      exact ⟨[], .nil, by rw [whole]⟩
    · rintro ⟨results, accepted, rfl⟩
      cases accepted
      rw [whole]
      rfl
  | cons quote rest ih =>
    rw [List.foldlM_cons]
    constructor
    · intro folded
      obtain ⟨next, turn, later⟩ := bind_ok folded
      obtain ⟨result, first, rfl⟩ := appraiseQuote_ok_iff.mp turn
      obtain ⟨results, others, rfl⟩ := ih.mp later
      exact ⟨result :: results, .cons first others,
        congrArg some (withSecondary_push primary result results)⟩
    · rintro ⟨results, accepted, rfl⟩
      cases accepted with
      | cons first others =>
        rw [appraiseQuote_ok_iff.mpr ⟨_, first, rfl⟩]
        refine ih.mpr ⟨_, others, ?_⟩
        rw [← withSecondary_push]
        rfl

/-- **The evidence of a client.** There is a result exactly if there are quotes, of the required types,
there is a verifier, and every quote is accepted; it is the first result with the others behind. -/
theorem verifyClientQuotes_some_iff (executor : AtHsExecutor) (sha384 : Bytes → Octets 48)
    (sha512 : Bytes → Octets 64) (unix : Nat) (req : AtHsRequest) (verifier : Option QuoteVerifier)
    (result : VerificationResult) :
    executor.verifyClientQuotes sha384 sha512 unix req verifier = .ok (some result) ↔
      req.clientQuotes ≠ [] ∧ MeetsRequired executor.requiredClientQuoteTypes req.clientQuotes ∧
      ∃ verify first rest, verifier = some verify ∧
        List.Forall₂ (executor.Accepts unix verify (clientReportData sha384 sha512 req))
          req.clientQuotes (first :: rest) ∧
        result = first.withSecondary (first.secondary ++ rest) := by
  rw [← checkRequired_ok_iff]
  unfold verifyClientQuotes
  constructor
  · intro passed
    obtain ⟨⟨⟩, checked, passed⟩ := bind_ok passed
    cases quotes : req.clientQuotes with
    | nil =>
      rw [quotes] at passed
      cases passed
    | cons quote others =>
      rw [quotes, List.isEmpty_cons, if_neg Bool.false_ne_true] at passed
      rw [quotes] at checked
      cases verifier with
      | none => cases passed
      | some verify =>
        obtain ⟨next, turn, later⟩ := bind_ok passed
        obtain ⟨first, accepted, rfl⟩ := appraiseQuote_ok_iff.mp turn
        obtain ⟨rest, behind, same⟩ := foldlM_appraise_iff.mp later
        exact ⟨List.cons_ne_nil quote others, checked, verify, first, rest, rfl,
          .cons accepted behind, Option.some.inj same⟩
  · rintro ⟨-, checked, verify, first, rest, rfl, accepted, rfl⟩
    rw [checked]
    cases quotes : req.clientQuotes with
    | nil =>
      rw [quotes] at accepted
      cases accepted
    | cons quote others =>
      rw [quotes] at accepted
      cases accepted with
      | cons accepted behind =>
        change ((executor.appraiseQuote unix verify (clientReportData sha384 sha512 req) none quote) >>=
          fun next => others.foldlM
            (executor.appraiseQuote unix verify (clientReportData sha384 sha512 req)) next) = _
        rw [appraiseQuote_ok_iff.mpr ⟨first, accepted, rfl⟩]
        exact foldlM_appraise_iff.mpr ⟨rest, behind, rfl⟩

end Loop

end AtHsExecutor

end OpenHttpa.Core
