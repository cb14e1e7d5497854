import OpenHttpa.Server.Extractors
import OpenHttpa.Server.Ws

/-!
# What one session accepts

Everything on the server that decrypts under the client write key of one session: JSON requests and
stream frames, which share the replay state of the session, and WebSocket connections, each of which
keeps its own last counter. Arbitrary bytes are delivered to any of these channels in any order and
any number of times. No channel accepts a ciphertext twice, because a ciphertext opens with one nonce
only and a channel never returns to a number it has accepted. Between channels nothing is compared, so
a ciphertext is accepted once over all of them when it is delivered to one of them only.
-/
namespace OpenHttpa.Server

open OpenHttpa.Core Crypto Proto

/-- A replay domain: the session itself or one upgraded connection. -/
inductive Channel where
  | session
  | socket (index : Nat)
deriving DecidableEq

/-- A session and the channels that read from it. -/
structure Intake where
  session : AttestSession
  sockets : List AttestWsSession
  /-- Every request stream begun on it, with its associated data and its chain. -/
  streams : List (Bytes × Octets 48)
  /-- The ciphertexts accepted, with the channel that did, newest first. -/
  accepted : List (Channel × Bytes)

inductive Delivery where
  /-- A request for `EncryptedJson`, naming the session as `baseIdStr`. -/
  | request (now : Nat) (baseIdStr : Bytes) (request : JsonRequest)
  /-- A request for `EncryptedStream`. -/
  | openStream (baseIdStr : Bytes)
  | frame (stream now : Nat) (frame : StreamFrame)
  | upgrade (now : Nat) (idText : Bytes)
  | message (socket : Nat) (bytes : Bytes)
  | respond (now : Nat) (aad : Bytes) (value : Except String Bytes)

/-- The channel and the ciphertext. -/
def Delivery.carries : Delivery → Option (Channel × Bytes)
  | .request _ _ sent => some (.session, sent.ciphertext)
  | .frame _ _ sent => some (.session, sent.ciphertext)
  | .message index bytes => some (.socket index, bytes.drop 12)
  | _ => none

namespace Intake

def new (id : AtbId) (cipherSuite : CipherSuite) (version : ProtocolVersion) (keys : SessionKeys)
    (expiresAt : Nat) (strategy : ReplayStrategy) (result : Option VerificationResult) : Intake :=
  ⟨.new id cipherSuite version keys expiresAt strategy result, [], [], []⟩

def record {ε α : Type} (accepted : List (Channel × Bytes)) (channel : Channel) (ciphertext : Bytes) :
    Except ε α → List (Channel × Bytes)
  | .ok _ => (channel, ciphertext) :: accepted
  | .error _ => accepted

variable (cipher : Cipher) (hmac : Octets 32 → Bytes → Bytes) (sha384 : Bytes → Octets 48)
  (codec : BodyCodec) (intake : Intake)

def step (intake : Intake) : Delivery → Intake
  | .request now baseIdStr request =>
    let received := encryptedJson cipher hmac now (sessionAad baseIdStr) request intake.session
    { intake with
      session := received.2
      accepted := record intake.accepted .session request.ciphertext received.1 }
  | .openStream baseIdStr =>
    { intake with streams := intake.streams ++ [(sessionAad baseIdStr, Octets.zero 48)] }
  | .frame index now frame =>
    match intake.streams[index]? with
    | none => intake
    | some (aad, previous) =>
      let received := encryptedStreamFrame cipher sha384 now aad previous frame intake.session
      { intake with
        session := received.2.2
        streams := intake.streams.set index (aad, received.2.1)
        accepted := record intake.accepted .session frame.ciphertext received.1 }
  | .upgrade now idText =>
    match AttestWsSession.upgrade now idText intake.session with
    | .error _ => intake
    | .ok socket => { intake with sockets := intake.sockets ++ [socket] }
  | .message index bytes =>
    match intake.sockets[index]? with
    | none => intake
    | some socket =>
      let received := socket.decodeFrame cipher bytes
      { intake with
        sockets := intake.sockets.set index received.2
        accepted := record intake.accepted (.socket index) (bytes.drop 12) received.1 }
  | .respond now aad value =>
    { intake with session := (sealResponse cipher codec now aad value intake.session).2.2 }

structure Sound (cipher : Cipher) (intake : Intake) : Prop where
  /-- Everything the session accepted opened under a number it has spent. -/
  spent : ∃ spent, intake.session.Spent spent ∧ ∀ ciphertext,
    (Channel.session, ciphertext) ∈ intake.accepted → ∃ number ∈ spent,
      cipher.OpensAt (counterNonce intake.session.keys.clientWriteIv number) ciphertext
  /-- Everything a connection accepted opened under a number it has seen or passed. -/
  seen : ∀ index ciphertext, (Channel.socket index, ciphertext) ∈ intake.accepted →
    ∃ socket nonce, intake.sockets[index]? = some socket ∧ cipher.OpensAt nonce ciphertext ∧
      nonceCounter socket.inboundIv nonce ≤ socket.lastInboundCounter
  once : intake.accepted.Nodup

theorem new_sound (id : AtbId) (cipherSuite : CipherSuite) (version : ProtocolVersion)
    (keys : SessionKeys) (expiresAt : Nat) (strategy : ReplayStrategy)
    (result : Option VerificationResult) :
    (new id cipherSuite version keys expiresAt strategy result).Sound cipher where
  spent := ⟨[], AttestSession.new_spent .., by simp [new]⟩
  seen := by simp [new]
  once := List.nodup_nil

section Steps

variable {cipher : Cipher} {intake : Intake}

theorem Sound.onSession {ε α : Type} (ideal : cipher.Ideal) (sound : intake.Sound cipher)
    {session : AttestSession} {number : UInt64} {ciphertext : Bytes} {result : Except ε α}
    (received : ∀ spent, intake.session.Spent spent →
      ∃ spent', session.Spent spent' ∧ spent ⊆ spent' ∧ session.keys = intake.session.keys ∧
        ∀ value, result = .ok value → number ∉ spent ∧ number ∈ spent' ∧
          cipher.OpensAt (counterNonce intake.session.keys.clientWriteIv number) ciphertext)
    (streams : List (Bytes × Octets 48)) :
    Sound cipher { intake with
      session, streams, accepted := record intake.accepted .session ciphertext result } := by
  obtain ⟨spent, held, opened⟩ := sound.spent
  obtain ⟨spent', heldAfter, more, keys, admitted⟩ := received spent held
  have openedAfter : ∀ earlier, (Channel.session, earlier) ∈ intake.accepted →
      ∃ used ∈ spent', cipher.OpensAt (counterNonce session.keys.clientWriteIv used) earlier := by
    intro earlier member
    obtain ⟨used, inSpent, opens⟩ := opened earlier member
    rw [keys]
    exact ⟨used, more inSpent, opens⟩
  cases result with
  | error failure => exact ⟨⟨spent', heldAfter, openedAfter⟩, sound.seen, sound.once⟩
  | ok value =>
    obtain ⟨fresh, committed, opens⟩ := admitted value rfl
    have new : (Channel.session, ciphertext) ∉ intake.accepted := by
      intro member
      obtain ⟨used, inSpent, earlier⟩ := opened ciphertext member
      have same : used = number := counterNonce_injective (ideal.opensAt_unique earlier opens)
      exact fresh (same ▸ inSpent)
    refine ⟨⟨spent', heldAfter, ?_⟩, ?_, List.nodup_cons.mpr ⟨new, sound.once⟩⟩
    · intro earlier member
      rcases List.mem_cons.mp member with latest | before
      · obtain rfl : earlier = ciphertext := by simpa using latest
        rw [keys]
        exact ⟨number, committed, opens⟩
      · exact openedAfter earlier before
    · intro index earlier member
      rcases List.mem_cons.mp member with latest | before
      · simp at latest
      · exact sound.seen index earlier before

theorem Sound.onSocket (ideal : cipher.Ideal) (sound : intake.Sound cipher) {index : Nat}
    {socket : AttestWsSession} (found : intake.sockets[index]? = some socket) (bytes : Bytes) :
    Sound cipher { intake with
      sockets := intake.sockets.set index (socket.decodeFrame cipher bytes).2
      accepted := record intake.accepted (.socket index) (bytes.drop 12)
        (socket.decodeFrame cipher bytes).1 } := by
  obtain ⟨iv, forward, admitted⟩ := socket.decodeFrame_accepts cipher bytes
  generalize socket.decodeFrame cipher bytes = returned at *
  obtain ⟨result, left⟩ := returned
  have inside : index < intake.sockets.length := (List.getElem?_eq_some_iff.mp found).1
  have seenAfter : ∀ other earlier, (Channel.socket other, earlier) ∈ intake.accepted →
      ∃ present nonce, (intake.sockets.set index left)[other]? = some present ∧
        cipher.OpensAt nonce earlier ∧
        nonceCounter present.inboundIv nonce ≤ present.lastInboundCounter := by
    intro other earlier member
    obtain ⟨present, nonce, held, opens, below⟩ := sound.seen other earlier member
    by_cases same : index = other
    · subst same
      obtain rfl : socket = present := Option.some.inj (found.symm.trans held)
      refine ⟨left, nonce, by simp [inside], opens, ?_⟩
      rw [iv]
      exact UInt64.le_trans below forward
    · exact ⟨present, nonce, by simp [same, held], opens, below⟩
  cases result with
  | error failure => exact ⟨sound.spent, seenAfter, sound.once⟩
  | ok payload =>
    obtain ⟨nonce, opens, above, last⟩ := admitted payload rfl
    have new : (Channel.socket index, bytes.drop 12) ∉ intake.accepted := by
      intro member
      obtain ⟨present, earlier, held, opened, below⟩ := sound.seen index _ member
      obtain rfl : socket = present := Option.some.inj (found.symm.trans held)
      have same : earlier = nonce := ideal.opensAt_unique opened opens
      rw [same] at below
      exact absurd below (UInt64.not_le.mpr above)
    refine ⟨?_, ?_, List.nodup_cons.mpr ⟨new, sound.once⟩⟩
    · obtain ⟨spent, held, opened⟩ := sound.spent
      refine ⟨spent, held, ?_⟩
      intro earlier member
      rcases List.mem_cons.mp member with latest | before
      · simp at latest
      · exact opened earlier before
    · intro other earlier member
      rcases List.mem_cons.mp member with latest | before
      · obtain ⟨rfl, rfl⟩ : other = index ∧ earlier = bytes.drop 12 := by simpa using latest
        refine ⟨left, nonce, by simp [inside], opens, ?_⟩
        rw [iv, last]
        exact UInt64.le_refl _
      · exact seenAfter other earlier before

theorem step_sound (ideal : cipher.Ideal) (hmac : Octets 32 → Bytes → Bytes)
    (sha384 : Bytes → Octets 48) (codec : BodyCodec) (sound : intake.Sound cipher)
    (delivery : Delivery) : (intake.step cipher hmac sha384 codec delivery).Sound cipher := by
  cases delivery with
  | request now baseIdStr request =>
    exact sound.onSession ideal
      (fun _ held => encryptedJson_spent cipher hmac now (sessionAad baseIdStr) request held) _
  | openStream baseIdStr => exact ⟨sound.spent, sound.seen, sound.once⟩
  | frame index now frame =>
    simp only [step]
    cases intake.streams[index]? with
    | none => exact sound
    | some stream =>
      exact sound.onSession ideal (fun _ held =>
        encryptedStreamFrame_spent cipher sha384 now stream.1 stream.2 frame held) _
  | upgrade now idText =>
    simp only [step]
    cases AttestWsSession.upgrade now idText intake.session with
    | error failure => exact sound
    | ok socket =>
      refine ⟨sound.spent, ?_, sound.once⟩
      intro index ciphertext member
      obtain ⟨present, nonce, held, opens, below⟩ := sound.seen index ciphertext member
      have inside : index < intake.sockets.length := (List.getElem?_eq_some_iff.mp held).1
      exact ⟨present, nonce, by simp [List.getElem?_append_left inside, held], opens, below⟩
  | message index bytes =>
    simp only [step]
    cases found : intake.sockets[index]? with
    | none => exact sound
    | some socket => exact sound.onSocket ideal found bytes
  | respond now aad value =>
    obtain ⟨counter, kept, _⟩ := sealResponse_keeps cipher codec now aad value intake.session
    obtain ⟨spent, held, opened⟩ := sound.spent
    refine ⟨⟨spent, ?_, ?_⟩, sound.seen, sound.once⟩
    · simp only [step, kept]
      exact held.congr rfl rfl rfl
    · simp only [step, kept]
      exact opened

end Steps

theorem accepted_carried (delivery : Delivery) {entry : Channel × Bytes}
    (member : entry ∈ (intake.step cipher hmac sha384 codec delivery).accepted) :
    entry ∈ intake.accepted ∨ delivery.carries = some entry := by
  have recorded : ∀ {ε α : Type} (channel : Channel) (ciphertext : Bytes) (result : Except ε α),
      entry ∈ record intake.accepted channel ciphertext result →
        entry ∈ intake.accepted ∨ some (channel, ciphertext) = some entry := by
    intro ε α channel ciphertext result held
    cases result with
    | error failure => exact .inl held
    | ok value =>
      rcases List.mem_cons.mp held with latest | before
      · exact .inr (congrArg some latest.symm)
      · exact .inl before
  cases delivery with
  | request now baseIdStr request => exact recorded _ _ _ member
  | openStream baseIdStr => exact .inl member
  | frame index now frame =>
    simp only [step] at member
    cases stream : intake.streams[index]? with
    | none =>
      rw [stream] at member
      exact .inl member
    | some entry =>
      rw [stream] at member
      exact recorded _ _ _ member
  | upgrade now idText =>
    simp only [step] at member
    cases upgraded : AttestWsSession.upgrade now idText intake.session with
    | error | ok =>
      rw [upgraded] at member
      exact .inl member
  | message index bytes =>
    simp only [step] at member
    cases found : intake.sockets[index]? with
    | none =>
      rw [found] at member
      exact .inl member
    | some socket =>
      rw [found] at member
      exact recorded _ _ _ member
  | respond now aad value => exact .inl member

theorem run_sound {cipher : Cipher} (ideal : cipher.Ideal) (hmac : Octets 32 → Bytes → Bytes)
    (sha384 : Bytes → Octets 48) (codec : BodyCodec) {intake : Intake} (sound : intake.Sound cipher)
    (deliveries : List Delivery) :
    (run (step cipher hmac sha384 codec) intake deliveries).Sound cipher :=
  run_invariant (Sound cipher)
    (fun _ delivery held => step_sound ideal hmac sha384 codec held delivery) sound deliveries

theorem run_accepted (deliveries : List Delivery) {entry : Channel × Bytes}
    (member : entry ∈ (run (step cipher hmac sha384 codec) intake deliveries).accepted) :
    entry ∈ intake.accepted ∨ entry ∈ deliveries.filterMap Delivery.carries := by
  induction deliveries generalizing intake with
  | nil => exact .inl member
  | cons delivery rest ih =>
    rcases ih _ member with before | later
    · rcases accepted_carried cipher hmac sha384 codec intake delivery before with earlier | carried
      · exact .inl earlier
      · exact .inr (List.mem_filterMap.mpr ⟨delivery, List.mem_cons_self, carried⟩)
    · obtain ⟨source, inRest, carried⟩ := List.mem_filterMap.mp later
      exact .inr (List.mem_filterMap.mpr ⟨source, List.mem_cons_of_mem _ inRest, carried⟩)

end Intake

open Intake

/-- Over every run of deliveries on one session, if no ciphertext is delivered on two of its
channels, each ciphertext is accepted at most once over all channels together. -/
theorem ciphertexts_accepted_once (cipher : Cipher) (ideal : cipher.Ideal)
    (hmac : Octets 32 → Bytes → Bytes) (sha384 : Bytes → Octets 48) (codec : BodyCodec)
    (id : AtbId) (cipherSuite : CipherSuite) (version : ProtocolVersion) (keys : SessionKeys)
    (expiresAt : Nat) (strategy : ReplayStrategy) (result : Option VerificationResult)
    (deliveries : List Delivery)
    (separate : ∀ first second ciphertext,
      (first, ciphertext) ∈ deliveries.filterMap Delivery.carries →
      (second, ciphertext) ∈ deliveries.filterMap Delivery.carries → first = second) :
    ((run (step cipher hmac sha384 codec)
      (new id cipherSuite version keys expiresAt strategy result) deliveries).accepted.map
        Prod.snd).Nodup := by
  have sound := run_sound ideal hmac sha384 codec
    (new_sound cipher id cipherSuite version keys expiresAt strategy result) deliveries
  have delivered : ∀ entry ∈ (run (step cipher hmac sha384 codec)
      (new id cipherSuite version keys expiresAt strategy result) deliveries).accepted,
      entry ∈ deliveries.filterMap Delivery.carries := by
    intro entry member
    rcases run_accepted cipher hmac sha384 codec _ deliveries member with before | carried
    · simp [new] at before
    · exact carried
  refine List.Nodup.map_on ?_ sound.once
  rintro ⟨first, ciphertext⟩ firstMember ⟨second, other⟩ secondMember same
  obtain rfl : ciphertext = other := same
  have channel := separate first second ciphertext (delivered _ firstMember)
    (delivered _ secondMember)
  rw [channel]

def plainIntake : Intake → Delivery → Intake :=
  step plainCipher (fun _ _ => []) (fun _ => .zero 48) .plain

def zeroIntake : Intake :=
  new ⟨0⟩ .X25519MlKem768Aes256GcmSha384 .V2 .zero 10 .StrictMonotonic none

def firstNonce : AeadNonce := counterNonce (.zero 12) 1

def sealedFirst (plaintext : Bytes) : Bytes :=
  plainHeader ⟨.zero 32, .Aes256Gcm⟩ firstNonce (sessionAad []) ++ plaintext

def requestThenFrame : List Delivery :=
  [.request 0 [] ⟨1, [], "host", .ok [], sealedFirst []⟩, .upgrade 0 [],
    .message 0 (firstNonce.bytes ++ sealedFirst [msgBinary])]

theorem request_and_frame_accepted_once :
    (run plainIntake zeroIntake requestThenFrame).accepted.length = 2 ∧
      ((run plainIntake zeroIntake requestThenFrame).accepted.map Prod.snd).Nodup := by
  have carried : requestThenFrame.filterMap Delivery.carries =
      [(.session, sealedFirst []), (.socket 0, sealedFirst [msgBinary])] := by decide +kernel
  have apart : sealedFirst [] ≠ sealedFirst [msgBinary] := by decide +kernel
  refine ⟨by decide +kernel, ciphertexts_accepted_once _ plainCipher_ideal _ _ _ _ _ _ _ _ _ _ _ ?_⟩
  intro first second ciphertext inFirst inSecond
  rw [carried] at inFirst inSecond
  simp only [List.mem_cons, List.not_mem_nil, or_false, Prod.mk.injEq] at inFirst inSecond
  rcases inFirst with ⟨rfl, rfl⟩ | ⟨rfl, rfl⟩ <;> rcases inSecond with ⟨rfl, same⟩ | ⟨rfl, same⟩
  · rfl
  · exact absurd same apart
  · exact absurd same.symm apart
  · rfl

/-- A frame the client sealed once is accepted on two connections of its session. -/
theorem frame_accepted_twice :
    plainCipher.encrypt ⟨.zero 32, .Aes256Gcm⟩ firstNonce (sessionAad []) [msgBinary] =
      some (sealedFirst [msgBinary]) ∧
    ¬ ((run plainIntake zeroIntake
      [.upgrade 0 [], .upgrade 0 [], .message 0 (firstNonce.bytes ++ sealedFirst [msgBinary]),
        .message 1 (firstNonce.bytes ++ sealedFirst [msgBinary])]).accepted.map Prod.snd).Nodup :=
  ⟨rfl, by decide +kernel⟩

end OpenHttpa.Server
