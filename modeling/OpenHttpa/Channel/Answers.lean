import OpenHttpa.Channel.Link

/-!
# Whose answer a response is

A whole response carries nothing that ties it to a request, and its associated data names the
session alone. The client returns what it opens as the answer to whichever request the reply
reached, provided its number is the client's next. So answers belong to their requests in every run
in which no reply brings a response of another request under that number.
-/
namespace OpenHttpa.Channel

open OpenHttpa.Core Crypto Proto Server Client

namespace Link

/-- The reply is not the response to another request under the number the client expects. -/
def Awaited (ends : Ends) (link : Link) : LinkEvent → Prop
  | .reply owner _ reply =>
    ∀ item ∈ link.items, Reply.ciphertext? ends.toResponseReader reply = some item.ciphertext →
      item.number = link.client.serverCounter → item.owner = owner
  | _ => True

def Answered (link : Link) : Prop :=
  ∀ entry ∈ link.answers, ∃ item ∈ link.items, item.owner = entry.1 ∧ item.plaintext = entry.2

variable {link after : Link} {ends : Ends} {keys : SessionKeys}

theorem Answered.mono (right : link.Answered)
    (answers : after.answers = link.answers) (more : link.items ⊆ after.items) :
    after.Answered := by
  intro entry member
  rw [answers] at member
  obtain ⟨item, held, owner, plaintext⟩ := right entry member
  exact ⟨item, more held, owner, plaintext⟩

theorem Evolves.subset {cipher : Cipher} (evolves : Evolves cipher link after) :
    link.items ⊆ after.items := by
  rcases evolves.items with same | ⟨item, added, _⟩
  · rw [same]
    exact List.Subset.refl _
  · rw [added]
    exact List.subset_cons_self _ _

theorem reply_answered (ideal : ends.cipher.Ideal)
    (account : link.Sealed ends.cipher keys) (right : link.Answered) {owner now : Nat}
    {reply : Except String Reply} (unforged : link.Unforged ends (.reply owner now reply))
    (awaited : link.Awaited ends (.reply owner now reply)) :
    (link.step ends (.reply owner now reply)).Answered := by
  intro entry member
  simp only [step] at member
  cases outcome : (finishRequest ends.toResponseReader now (link.clientAad ends.ids) reply
      link.client).1 with
  | error failure =>
    rw [outcome, answer, List.nil_append] at member
    exact right entry member
  | ok body =>
    rw [outcome, answer, List.singleton_append] at member
    rcases List.mem_cons.mp member with rfl | before
    · obtain ⟨ciphertext, carried, opened⟩ := finishRequest_ok outcome
      obtain ⟨item, held, same, number, _, plaintext⟩ :=
        account.opens ideal (unforged ciphertext carried) opened
      have carriesItem : Reply.ciphertext? ends.toResponseReader reply = some item.ciphertext := by
        rw [same]
        exact carried
      exact ⟨item, held, awaited item held carriesItem number, plaintext⟩
    · exact right entry before

theorem step_answered (ideal : ends.cipher.Ideal)
    (account : link.Sealed ends.cipher keys) (right : link.Answered) (event : LinkEvent)
    (unforged : link.Unforged ends event) (awaited : link.Awaited ends event) :
    (link.step ends event).Answered := by
  have more := (link.step_evolves ends event).subset
  cases event with
  | ask now nonce f => cases nonce <;> exact right.mono rfl more
  | receive | respond | openStream =>
    refine right.mono ?_ more
    simp only [step]
    split <;> rfl
  | chunk index now item =>
    refine right.mono ?_ more
    simp only [step]
    split
    · rfl
    · split <;> rfl
  | reply owner now reply => exact reply_answered ideal account right unforged awaited
  | readStream | poll =>
    refine right.mono ?_ more
    simp only [step]
    split <;> rfl

end Link

open Link

/-- In every run in which the adversary forges nothing and no reply brings another request's
response under the number the client expects, every answer `trusted_request` returned is what the
server sealed for that request. -/
theorem answers_sealed_for_request (ends : Ends) (ideal : ends.cipher.Ideal) (id : AtbId)
    (suite : CipherSuite) (version : ProtocolVersion) (keys : SessionKeys)
    (serverExpiry clientExpiry : Nat) (result : Option VerificationResult)
    (events : List LinkEvent)
    (taken : Along (step ends) (fun link event => link.Unforged ends event ∧ link.Awaited ends event)
      (start id suite version keys serverExpiry clientExpiry result) events) :
    ∀ entry ∈ (run (step ends)
        (start id suite version keys serverExpiry clientExpiry result) events).answers,
      ∃ item ∈ (run (step ends)
          (start id suite version keys serverExpiry clientExpiry result) events).items,
        item.owner = entry.1 ∧ item.plaintext = entry.2 := by
  have both := run_invariant_along
    (fun link : Link => link.Sealed ends.cipher keys ∧ link.Answered)
    (fun link event held met => ⟨(link.step_evolves ends event).sealed held.1,
      step_answered ideal held.1 held.2 event met.1 met.2⟩)
    ⟨start_sealed ends.cipher id suite version keys serverExpiry clientExpiry result,
      by simp [Answered, start]⟩ taken
  exact both.2

theorem responded_items (owner : Nat) :
    (step plainEnds zeroLink (.respond owner 0 zeroId (.ok [7]))).items =
      [⟨owner, 1, sessionAad zeroId, [7], sealedUnder 1 [7]⟩] := rfl

theorem responded_unforged (owner : Nat) :
    Unforged plainEnds (step plainEnds zeroLink (.respond owner 0 zeroId (.ok [7])))
      (.reply 0 0 (.ok ⟨200, .ok (sealedUnder 1 [7])⟩)) := by
  intro ciphertext found nonce aad plaintext _
  have carried : Reply.ciphertext? plainEnds.toResponseReader (.ok ⟨200, .ok (sealedUnder 1 [7])⟩) =
      some (sealedUnder 1 [7]) := by decide +kernel
  obtain rfl : sealedUnder 1 [7] = ciphertext := Option.some.inj (carried.symm.trans found)
  exact ⟨_, List.mem_of_mem_head? (congrArg List.head? (responded_items owner)), rfl⟩

/-- A response answers its own request. -/
theorem own_response_answers :
    (run (step plainEnds) zeroLink [.respond 0 0 zeroId (.ok [7]),
      .reply 0 0 (.ok ⟨200, .ok (sealedUnder 1 [7])⟩)]).answers = [(0, [7])] ∧
    ∀ entry ∈ (run (step plainEnds) zeroLink [.respond 0 0 zeroId (.ok [7]),
        .reply 0 0 (.ok ⟨200, .ok (sealedUnder 1 [7])⟩)]).answers,
      ∃ item ∈ (run (step plainEnds) zeroLink [.respond 0 0 zeroId (.ok [7]),
          .reply 0 0 (.ok ⟨200, .ok (sealedUnder 1 [7])⟩)]).items,
        item.owner = entry.1 ∧ item.plaintext = entry.2 := by
  refine ⟨by decide +kernel, answers_sealed_for_request plainEnds plainCipher_ideal _ _ _ _ _ _ _ _
    ⟨⟨trivial, trivial⟩, ⟨responded_unforged 0, ?_⟩, trivial⟩⟩
  intro item held _ _
  replace held : item ∈ (step plainEnds zeroLink (.respond 0 0 zeroId (.ok [7]))).items := held
  rw [responded_items, List.mem_singleton] at held
  rw [held]

/-- The response to request 1 reaches request 0 and is returned as its answer, though nothing was
sealed for request 0. -/
theorem swapped_response_answers :
    Along (step plainEnds) (Unforged plainEnds) zeroLink [.respond 1 0 zeroId (.ok [7]),
      .reply 0 0 (.ok ⟨200, .ok (sealedUnder 1 [7])⟩)] ∧
    (run (step plainEnds) zeroLink [.respond 1 0 zeroId (.ok [7]),
      .reply 0 0 (.ok ⟨200, .ok (sealedUnder 1 [7])⟩)]).answers = [(0, [7])] ∧
    ¬ ∃ item ∈ (run (step plainEnds) zeroLink [.respond 1 0 zeroId (.ok [7]),
        .reply 0 0 (.ok ⟨200, .ok (sealedUnder 1 [7])⟩)]).items, item.owner = 0 := by
  exact ⟨⟨trivial, responded_unforged 1, trivial⟩, by decide +kernel, by decide +kernel⟩

end OpenHttpa.Channel
