import OpenHttpa.Channel.HonestRun

/-!
# The client's quotes at the server

What becomes of the quotes a client's provider makes for a handshake. The server computes the report
data the provider was asked to cover, but the quotes it hands to its verifier have lost their user
data on the way: the headers do not carry it, and unlike the client, which restores it before it
verifies the server's quotes, the server does not put it back.
-/
namespace OpenHttpa.Channel

open Client OpenHttpa.Core Crypto Headers Proto Server

/-- The verifier accepts the quote. -/
def Accepts (verify : QuoteVerifier) (quote : AttestQuote) (reportData : Octets 64) : Prop :=
  (verify quote reportData).isOk = true

instance (verify : QuoteVerifier) (quote : AttestQuote) (reportData : Octets 64) :
    Decidable (Accepts verify quote reportData) := inferInstanceAs (Decidable (_ = true))

section Quotes

variable {Secret Decap Coins Signer : Type} {prim : Primitives Secret Decap Coins Signer}
  {run : HonestRun Secret Decap Coins Signer}

theorem clientQuotes_produced {quotes : List AttestQuote}
    (produced : run.client.teeProvider (run.reportData prim) = .ok quotes) :
    run.clientQuotes prim = quotes := by
  have generated : generateClientQuote prim run.client run.clientDraws.clientRandom (run.share prim)
      (some (run.challenge prim)) = .ok quotes := by
    unfold generateClientQuote
    rw [show quoteReportData prim run.clientDraws.clientRandom (run.share prim)
      (some (run.challenge prim)) = run.reportData prim from rfl, produced]
  rw [HonestRun.clientQuotes, generated]
  rfl

theorem handedQuotes_request {quotes : List AttestQuote}
    (produced : run.client.teeProvider (run.reportData prim) = .ok quotes) :
    AtHsExecutor.handedQuotes prim.sha384 prim.sha512 (run.request prim) =
      quotes.map fun quote => (quoteOnWire quote, run.reportData prim) := by
  rw [← clientQuotes_produced produced, AtHsExecutor.handedQuotes, HonestRun.clientReportData_request]
  simp [HonestRun.request]

/-- In a handshake that nobody tampers with, the server's verifier accepts the client's quotes
whenever it accepts them as they were produced, exactly when it also accepts them with their user data
emptied and their type and format read from their names. -/
theorem decoded_quotes_accepted_iff (codecs : Codecs) (timely : run.Timely)
    {quotes : List AttestQuote}
    (produced : run.client.teeProvider (run.reportData prim) = .ok quotes)
    (sent : ∀ quote ∈ quotes, codecs.sfv.Writable quote) (verify : QuoteVerifier) :
    ((∀ quote ∈ quotes, Accepts verify quote (run.reportData prim)) →
      ∃ req, admitRequest prim codecs run.server run.clock.unix run.serverDraws.atbId
          (run.requestMap prim codecs) = .ok req ∧
        req.clientQuotes.length = quotes.length ∧
        ∀ call ∈ AtHsExecutor.handedQuotes prim.sha384 prim.sha512 req,
          call.2 = run.reportData prim ∧ Accepts verify call.1 call.2) ↔
    ((∀ quote ∈ quotes, Accepts verify quote (run.reportData prim)) →
      ∀ quote ∈ quotes, Accepts verify (quoteOnWire quote) (run.reportData prim)) := by
  have same := clientQuotes_produced produced
  have admitted := HonestRun.admitRequest_requestMap codecs timely (by rw [same]; exact sent)
  have handed := handedQuotes_request produced
  constructor
  · intro holds fresh quote member
    obtain ⟨req, found, _, calls⟩ := holds fresh
    obtain rfl : run.request prim = req := Except.ok.inj (admitted.symm.trans found)
    have call := calls (quoteOnWire quote, run.reportData prim) (by
      rw [handed]
      exact List.mem_map.mpr ⟨quote, member, rfl⟩)
    exact call.2
  · intro travels fresh
    refine ⟨run.request prim, admitted, ?_, ?_⟩
    · simp [HonestRun.request, same]
    · intro call member
      rw [handed] at member
      obtain ⟨quote, inside, rfl⟩ := List.mem_map.mp member
      exact ⟨rfl, travels fresh quote inside⟩

theorem qudd_checked_refused (executor : AtHsExecutor) (unix : Nat) {verify : QuoteVerifier}
    (checks : ∀ quote reportData, Accepts verify quote reportData → quote.qudd = reportData.bytes)
    (shown : run.clientQuotes prim ≠ []) (result : Option VerificationResult) :
    executor.verifyClientQuotes prim.sha384 prim.sha512 unix (run.request prim) (some verify) ≠
      .ok result := by
  obtain ⟨first, rest, quotes⟩ := List.exists_cons_of_ne_nil shown
  have received : (run.request prim).clientQuotes = quoteOnWire first :: rest.map quoteOnWire := by
    simp [HonestRun.request, quotes]
  intro verified
  obtain ⟨found, accepted⟩ := AtHsExecutor.handedQuotes_verified verified (quoteOnWire first, _)
    (by rw [AtHsExecutor.handedQuotes, received]; exact List.mem_cons_self)
  have emptied := checks (quoteOnWire first) _ (by rw [Accepts, accepted]; rfl)
  have length := (clientReportData prim.sha384 prim.sha512 (run.request prim)).length_eq
  rw [← emptied] at length
  cases length

end Quotes

/-- The first check of `verify_snp_report`, and of the other verifiers of hardware quotes. -/
def quddVerifier : QuoteVerifier := fun quote reportData =>
  if quote.qudd = reportData.bytes then .ok noFindings else .error "SEV-SNP quote QUDD mismatch"

theorem mock_quotes_accepted :
    ∃ req, admitRequest .plain .plain mutualRun.server 0 ⟨1⟩ (mutualRun.requestMap .plain .plain) =
        .ok req ∧
      req.clientQuotes.length = 1 ∧
      ∀ call ∈ AtHsExecutor.handedQuotes Primitives.plain.sha384 Primitives.plain.sha512 req,
        call.2 = mutualRun.reportData .plain ∧
          Accepts (fun _ _ => .ok noFindings) call.1 call.2 :=
  (decoded_quotes_accepted_iff .plain mutualRun_timely rfl (mockQuotes_writable _)
    fun _ _ => .ok noFindings).mpr
    (fun _ _ _ => rfl) fun _ _ => rfl

/-- A verifier that compares the user data accepts the quote of the mutual handshake as it was
produced, with its user data equal to the report data, and refuses it as the server decodes it. -/
theorem bound_quote_refused :
    mutualRun.client.teeProvider (mutualRun.reportData .plain) =
        .ok [mockQuote (mutualRun.reportData .plain)] ∧
      (mockQuote (mutualRun.reportData .plain)).qudd = (mutualRun.reportData .plain).bytes ∧
      Accepts quddVerifier (mockQuote (mutualRun.reportData .plain)) (mutualRun.reportData .plain) ∧
      ∃ req, admitRequest .plain .plain mutualRun.server 0 ⟨1⟩
          (mutualRun.requestMap .plain .plain) = .ok req ∧
        ∃ call ∈ AtHsExecutor.handedQuotes Primitives.plain.sha384 Primitives.plain.sha512 req,
          ¬ Accepts quddVerifier call.1 call.2 := by
  have admitted := HonestRun.admitRequest_requestMap .plain mutualRun_timely
    mutualRun_accepted.clientSent
  refine ⟨rfl, rfl, by decide, mutualRun.request .plain, admitted,
    (quoteOnWire (mockQuote (mutualRun.reportData .plain)), mutualRun.reportData .plain), ?_, ?_⟩
  · rw [handedQuotes_request rfl]
    exact List.mem_singleton.mpr rfl
  · decide

end OpenHttpa.Channel
