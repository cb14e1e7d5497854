import OpenHttpa.Channel.Link

/-!
# The two response counters

Client and server count responses apart. The server's counter moves with everything it seals, the
client's with everything it tries to open, whether or not it opens. So after any history the next
response opens exactly when the client has tried to open as many bodies and frames as the server
has sealed; anything sealed and not tried, or tried and not sealed, leaves the two apart for good.
-/
namespace OpenHttpa.Channel

open OpenHttpa.Core Crypto Proto Server Client

namespace Link

/-- How many responses the event seals. -/
def seals (ends : Ends) (link : Link) : LinkEvent → Nat
  | .respond _ now baseIdStr (.ok _) =>
    if link.poisoned = false ∧ ends.ids.parse baseIdStr = some link.server.id ∧
      now < link.server.expiresAt then 1 else 0
  | .chunk index now (.ok _) =>
    if link.poisoned = false ∧ index < link.outgoing.length ∧ now < link.server.expiresAt then 1
    else 0
  | _ => 0

/-- How many responses the client takes up to open. -/
def opens (ends : Ends) (link : Link) : LinkEvent → Nat
  | .reply _ now reply =>
    if (Reply.ciphertext? ends.toResponseReader reply).isSome ∧ now < link.client.expiresAt then 1 else 0
  | .poll index now =>
    if ((link.incoming[index]?).bind fun stream => polledFrame stream.state).isSome ∧
      now < link.client.expiresAt then 1 else 0
  | _ => 0

section Steps

variable (ends : Ends) (link : Link)

theorem respond_serverCounter (owner now : Nat) (baseIdStr : Bytes) (value : Except String Bytes) :
    (link.step ends (.respond owner now baseIdStr value)).server.serverCounter.toNat =
      min (link.server.serverCounter.toNat +
        link.seals ends (.respond owner now baseIdStr value)) (2 ^ 64 - 1) := by
  have small := link.server.serverCounter.toNat_lt
  simp only [step]
  by_cases refused : link.poisoned ∨ ends.ids.parse baseIdStr ≠ some link.server.id
  · have none : link.seals ends (.respond owner now baseIdStr value) = 0 := by
      cases value with
      | error reason => rfl
      | ok plaintext =>
        apply if_neg
        rintro ⟨sound, named, _⟩
        rcases refused with poisoned | unnamed
        · rw [sound] at poisoned
          cases poisoned
        · exact unnamed named
    rw [if_pos refused, none]
    omega
  · rw [if_neg refused]
    cases value with
    | error reason =>
      simp only [seals, sealResponse]
      omega
    | ok plaintext =>
      obtain ⟨sound, named⟩ := not_or.mp refused
      simp only [sealResponse_counter, seals, Bool.eq_false_iff.mpr sound, not_not.mp named,
        true_and]

theorem chunk_serverCounter (index now : Nat) (item : Except String Bytes) :
    (link.step ends (.chunk index now item)).poisoned = true ∨
      (link.step ends (.chunk index now item)).server.serverCounter.toNat =
        min (link.server.serverCounter.toNat + link.seals ends (.chunk index now item))
          (2 ^ 64 - 1) := by
  have small := link.server.serverCounter.toNat_lt
  simp only [step]
  by_cases poisoned : link.poisoned
  · rw [if_pos poisoned]
    exact .inl poisoned
  · rw [if_neg poisoned]
    cases found : link.outgoing[index]? with
    | none =>
      have absent := Nat.not_lt.mpr (List.getElem?_eq_none_iff.mp found)
      refine .inr ?_
      cases item <;> simp only [seals, absent, false_and, and_false, if_false] <;> omega
    | some out =>
      obtain ⟨present, _⟩ := List.getElem?_eq_some_iff.mp found
      cases item with
      | error reason =>
        refine .inr ?_
        simp only [seals, sealChunk]
        omega
      | ok plaintext =>
        rcases sealChunk_counter ends.cipher ends.sha384 now out.state plaintext link.server with
          panicked | moved
        · exact .inl (by simp only [panicked, decide_true])
        · refine .inr ?_
          simp only [moved, seals, Bool.eq_false_iff.mpr poisoned, present, true_and]

theorem step_serverCounter (event : LinkEvent) :
    (link.step ends event).poisoned = true ∨
      (link.step ends event).server.serverCounter.toNat =
        min (link.server.serverCounter.toNat + link.seals ends event) (2 ^ 64 - 1) := by
  have small := link.server.serverCounter.toNat_lt
  have unmoved : link.server.serverCounter.toNat =
      min (link.server.serverCounter.toNat + 0) (2 ^ 64 - 1) := by omega
  cases event with
  | ask now nonce f => cases nonce <;> exact .inr unmoved
  | receive now nonce f =>
    obtain ⟨_, _, _, counter⟩ := link.server.withKeysForTrr_keeps now nonce f
    simp only [step]
    split
    · exact .inr unmoved
    · refine .inr ?_
      dsimp only
      rw [counter]
      exact unmoved
  | respond owner now baseIdStr value =>
    exact .inr (respond_serverCounter ends link owner now baseIdStr value)
  | openStream owner baseIdStr =>
    simp only [step]
    split <;> exact .inr unmoved
  | chunk index now item => exact chunk_serverCounter ends link index now item
  | reply owner now reply => exact .inr unmoved
  | readStream | poll =>
    simp only [step]
    split <;> exact .inr unmoved

theorem step_poisoned (event : LinkEvent) (poisoned : link.poisoned = true) :
    (link.step ends event).poisoned = true := by
  cases event with
  | ask now nonce f => cases nonce <;> exact poisoned
  | receive | respond | openStream | chunk => simp [step, poisoned]
  | reply owner now reply => exact poisoned
  | readStream | poll =>
    simp only [step]
    split <;> exact poisoned

theorem poll_clientCounter (index now : Nat) :
    (link.step ends (.poll index now)).client.serverCounter.toNat =
      min (link.client.serverCounter.toNat + link.opens ends (.poll index now)) (2 ^ 64 - 1) := by
  have small := link.client.serverCounter.toNat_lt
  simp only [step, opens]
  cases link.incoming[index]? with
  | none =>
    simp only [Option.bind_none, Option.isSome_none, Bool.false_eq_true, false_and, if_false]
    omega
  | some stream =>
    simp only [pollStream_counter, Option.bind_some]

theorem step_clientCounter (event : LinkEvent) :
    (link.step ends event).client.serverCounter.toNat =
      min (link.client.serverCounter.toNat + link.opens ends event) (2 ^ 64 - 1) := by
  have small := link.client.serverCounter.toNat_lt
  have unmoved : link.client.serverCounter.toNat =
      min (link.client.serverCounter.toNat + 0) (2 ^ 64 - 1) := by omega
  cases event with
  | ask now nonce f =>
    cases nonce with
    | none =>
      obtain ⟨_, _, _, counter⟩ := link.client.withKeysForTrr_keeps now link.client.clientCounter f
      exact (congrArg UInt64.toNat counter).trans unmoved
    | some nonce =>
      obtain ⟨_, _, _, counter⟩ := link.client.withKeysForTrr_keeps now nonce f
      exact (congrArg UInt64.toNat counter).trans unmoved
  | receive now nonce f =>
    simp only [step]
    split <;> exact unmoved
  | respond owner now baseIdStr value =>
    have same : (link.step ends (.respond owner now baseIdStr value)).client = link.client := by
      simp only [step]
      split <;> rfl
    rw [same]
    cases value <;> exact unmoved
  | openStream owner baseIdStr =>
    simp only [step]
    split <;> exact unmoved
  | chunk index now item =>
    have same : (link.step ends (.chunk index now item)).client = link.client := by
      simp only [step]
      split
      · rfl
      · split <;> rfl
    rw [same]
    cases item <;> exact unmoved
  | reply owner now reply => exact finishRequest_counter ..
  | readStream owner body =>
    simp only [step]
    split <;> exact unmoved
  | poll index now => exact poll_clientCounter ends link index now

variable {ends : Ends} {link : Link} {owner now : Nat} {baseIdStr value : Bytes} {item : Item}

theorem respond_sealed (sealed : (link.step ends (.respond owner now baseIdStr (.ok value))).items =
      item :: link.items) :
    link.poisoned = false ∧ link.server.serverCounter ≠ u64Max ∧
      sealWith ends.cipher (sessionAad baseIdStr) value link.server.keys link.server.serverCounter =
        some item.ciphertext := by
  simp only [step] at sealed
  by_cases refused : link.poisoned ∨ ends.ids.parse baseIdStr ≠ some link.server.id
  · rw [if_pos refused] at sealed
    exact absurd sealed (List.ne_cons_self)
  · rw [if_neg refused] at sealed
    dsimp only at sealed
    cases outcome : (sealResponse ends.cipher ends.codec now (sessionAad baseIdStr) (.ok value)
        link.server).1 with
    | error rejection =>
      rw [outcome, responseItem, List.nil_append] at sealed
      · exact absurd sealed (List.ne_cons_self)
      · simp
    | ok response =>
      obtain ⟨plaintext, ciphertext, same, encrypted, body, below, _⟩ := sealResponse_ok outcome
      cases same
      simp only [outcome, responseItem, body, ends.codec.parse_render, List.singleton_append,
        List.cons.injEq, and_true] at sealed
      rw [← sealed]
      exact ⟨Bool.eq_false_iff.mpr (not_or.mp refused).1, below, encrypted⟩

theorem reply_answers (owner now : Nat) (reply : Except String Reply) :
    (link.step ends (.reply owner now reply)).answers =
      answer owner (finishRequest ends.toResponseReader now (link.clientAad ends.ids) reply
        link.client).1 ++ link.answers := rfl

theorem answer_append_iff {outcome : Except ClientError Bytes} {answers : List (Nat × Bytes)} :
    answer owner outcome ++ answers = (owner, value) :: answers ↔ outcome = .ok value := by
  cases outcome with
  | error | ok => simp [answer]

theorem reply_answers_iff (ideal : ends.cipher.Ideal) {keys : SessionKeys}
    (account : link.Sealed ends.cipher keys) {later : Nat}
    (sealed : (link.step ends (.respond owner now baseIdStr (.ok value))).items =
      item :: link.items) :
    ((link.step ends (.respond owner now baseIdStr (.ok value))).step ends
        (.reply owner later (.ok ⟨200, .ok (ends.codec.render item.ciphertext)⟩))).answers =
      (owner, value) :: link.answers ↔
    (ends.codec.render item.ciphertext).length ≤ ends.maxResponseSize ∧
      later < link.client.expiresAt ∧ baseIdStr = ends.ids.print link.client.id ∧
      link.client.serverCounter = link.server.serverCounter := by
  obtain ⟨_, below, encrypted⟩ := respond_sealed sealed
  have client : (link.step ends (.respond owner now baseIdStr (.ok value))).client = link.client := by
    simp only [step]
    split <;> rfl
  have answers : (link.step ends (.respond owner now baseIdStr (.ok value))).answers =
      link.answers := by
    simp only [step]
    split <;> rfl
  have carried := Reply.ciphertext?_render ends.toResponseReader item.ciphertext
  -- the reply is opened under the client's counter and the client's own associated data
  have opened : (finishRequest ends.toResponseReader later (link.clientAad ends.ids)
        (.ok ⟨200, .ok (ends.codec.render item.ciphertext)⟩) link.client).1 = .ok value ↔
      (ends.codec.render item.ciphertext).length ≤ ends.maxResponseSize ∧
        later < link.client.expiresAt ∧ link.client.serverCounter ≠ u64Max ∧
        ends.cipher.decrypt ⟨link.client.keys.serverWriteKey, .Aes256Gcm⟩
          (counterNonce link.client.keys.serverWriteIv link.client.serverCounter)
          (link.clientAad ends.ids) item.ciphertext = some value := by
    rcases finishRequest_cases ends.toResponseReader later (link.clientAad ends.ids)
        (.ok ⟨200, .ok (ends.codec.render item.ciphertext)⟩) link.client with
      ⟨nothing, failure, refused⟩ | ⟨ciphertext, found, finished⟩
    · rw [carried, ite_eq_right_iff] at nothing
      rw [refused]
      constructor
      · intro answered
        cases answered
      · rintro ⟨within, _⟩
        cases nothing within
    · rw [carried, Option.ite_none_right_eq_some, Option.some.injEq] at found
      obtain ⟨within, rfl⟩ := found
      rw [finished, unsealCiphertext_ok_iff]
      exact (and_iff_right within).symm
  have keysAgree : link.server.keys = link.client.keys :=
    account.serverKeys.trans account.clientKeys.symm
  rw [sealWith, keysAgree] at encrypted
  rw [ideal.decrypt_iff encrypted] at opened
  rw [reply_answers, answers, answer_append_iff, clientAad, client, ← clientAad, opened]
  constructor
  · rintro ⟨within, alive, _, _, nonce, aad, _⟩
    exact ⟨within, alive, (List.append_cancel_left aad).symm, counterNonce_injective nonce⟩
  · rintro ⟨within, alive, named, level⟩
    rw [level]
    refine ⟨within, alive, below, rfl, rfl, ?_, rfl⟩
    rw [clientAad, named]

end Steps

section Histories

variable (ends : Ends) (id : AtbId) (suite : CipherSuite) (version : ProtocolVersion)
  (keys : SessionKeys) (serverExpiry clientExpiry : Nat) (result : Option VerificationResult)

theorem run_serverCounter (events : List LinkEvent) :
    (run (step ends) (start id suite version keys serverExpiry clientExpiry result)
      events).poisoned = true ∨
    (run (step ends) (start id suite version keys serverExpiry clientExpiry result)
        events).server.serverCounter.toNat =
      min (1 + total (step ends) (seals ends)
        (start id suite version keys serverExpiry clientExpiry result) events) (2 ^ 64 - 1) :=
  run_saturates (fun link : Link => link.poisoned = true)
    (fun link => link.server.serverCounter.toNat) (fun link event => step_poisoned ends link event)
    (step_serverCounter ends) (Nat.le_sub_one_of_lt (UInt64.toNat_lt _)) events

theorem run_clientCounter (events : List LinkEvent) :
    (run (step ends) (start id suite version keys serverExpiry clientExpiry result)
        events).client.serverCounter.toNat =
      min (1 + total (step ends) (opens ends)
        (start id suite version keys serverExpiry clientExpiry result) events) (2 ^ 64 - 1) :=
  (run_saturates (fun _ => False) (fun link : Link => link.client.serverCounter.toNat)
    (fun _ _ lost => lost) (fun link event => .inr (step_clientCounter ends link event))
    (Nat.le_sub_one_of_lt (UInt64.toNat_lt _)) events).resolve_left not_false

end Histories

end Link

open Link

/-- After any history, the next response the server seals, delivered as it is, is returned to the
request it was sealed for exactly when its body is within the client's limit, the client's session has
not expired, the server read the identifier as the client writes it, and the client has tried to open
as many bodies and frames as the server had sealed. -/
theorem next_response_opens_iff (ends : Ends) (ideal : ends.cipher.Ideal) (id : AtbId)
    (suite : CipherSuite) (version : ProtocolVersion) (keys : SessionKeys)
    (serverExpiry clientExpiry : Nat) (result : Option VerificationResult)
    (events : List LinkEvent) (link : Link)
    (reached : run (step ends) (start id suite version keys serverExpiry clientExpiry result)
      events = link)
    (owner now later : Nat) (baseIdStr value : Bytes) (item : Item)
    (sealed : (link.step ends (.respond owner now baseIdStr (.ok value))).items =
      item :: link.items) :
    ((link.step ends (.respond owner now baseIdStr (.ok value))).step ends
        (.reply owner later (.ok ⟨200, .ok (ends.codec.render item.ciphertext)⟩))).answers =
      (owner, value) :: link.answers ↔
    (ends.codec.render item.ciphertext).length ≤ ends.maxResponseSize ∧
      later < link.client.expiresAt ∧ baseIdStr = ends.ids.print link.client.id ∧
      total (step ends) (opens ends)
        (start id suite version keys serverExpiry clientExpiry result) events =
      total (step ends) (seals ends)
        (start id suite version keys serverExpiry clientExpiry result) events := by
  have account : link.Sealed ends.cipher keys := by
    rw [← reached]
    exact run_invariant (Sealed ends.cipher keys)
      (fun link event account => (link.step_evolves ends event).sealed account)
      (start_sealed ends.cipher id suite version keys serverExpiry clientExpiry result) events
  obtain ⟨sound, below, _⟩ := respond_sealed sealed
  have atServer := run_serverCounter ends id suite version keys serverExpiry clientExpiry result
    events
  have atClient := run_clientCounter ends id suite version keys serverExpiry clientExpiry result
    events
  rw [reached] at atServer atClient
  have moved := atServer.resolve_left (by rw [sound]; simp)
  have room : link.server.serverCounter.toNat ≠ 2 ^ 64 - 1 := by
    intro full
    exact below (UInt64.toNat_inj.mp full)
  rw [reply_answers_iff ideal account sealed, ← UInt64.toNat_inj]
  constructor
  · rintro ⟨within, alive, named, level⟩
    exact ⟨within, alive, named, by omega⟩
  · rintro ⟨within, alive, named, level⟩
    exact ⟨within, alive, named, by omega⟩

/-- A second response opens. -/
theorem response_after_response_opens :
    ((run (step plainEnds) zeroLink [.respond 0 0 zeroId (.ok [7]),
        .reply 0 0 (.ok ⟨200, .ok (sealedUnder 1 [7])⟩)]).step plainEnds
          (.respond 1 0 zeroId (.ok [8])) |>.step plainEnds
          (.reply 1 0 (.ok ⟨200, .ok (sealedUnder 2 [8])⟩))).answers = [(1, [8]), (0, [7])] := by
  have before : (run (step plainEnds) zeroLink [.respond 0 0 zeroId (.ok [7]),
      .reply 0 0 (.ok ⟨200, .ok (sealedUnder 1 [7])⟩)]).answers = [(0, [7])] := by decide +kernel
  have answered := (next_response_opens_iff plainEnds plainCipher_ideal ⟨0⟩
    .X25519MlKem768Aes256GcmSha384 .V2 .zero 10 10 none
    [.respond 0 0 zeroId (.ok [7]), .reply 0 0 (.ok ⟨200, .ok (sealedUnder 1 [7])⟩)] _ rfl
    1 0 0 zeroId [8] ⟨1, 2, sessionAad zeroId, [8], sealedUnder 2 [8]⟩ (by decide +kernel)).mpr
    ⟨by decide +kernel, by decide +kernel, by decide +kernel, by decide +kernel⟩
  rw [← before]
  exact answered

/-- One response lost, the next one reaches the client as it was sealed and is not answered. -/
theorem response_after_loss_refused :
    ((run (step plainEnds) zeroLink [.respond 0 0 zeroId (.ok [7])]).step plainEnds
      (.respond 1 0 zeroId (.ok [8]))).items.map (·.ciphertext) =
        [sealedUnder 2 [8], sealedUnder 1 [7]] ∧
    ((run (step plainEnds) zeroLink [.respond 0 0 zeroId (.ok [7])]).step plainEnds
        (.respond 1 0 zeroId (.ok [8])) |>.step plainEnds
        (.reply 1 0 (.ok ⟨200, .ok (sealedUnder 2 [8])⟩))).answers = [] := by
  decide +kernel

end OpenHttpa.Channel
