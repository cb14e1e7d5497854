import OpenHttpa.Core.Postcard
import OpenHttpa.Crypto.Aead

/-!
# Resumption tickets

`openhttpa-core/src/session/ticket.rs`. A ticket is a session state in postcard, encrypted under the
current ticket key with the nonce of the key's counter. A rotation makes the current key the previous
one, and unsealing tries both, so under an ideal cipher a ticket opens until the second rotation after
it was sealed. What it opens to is the state that was sealed exactly when the state survives postcard.
-/
namespace OpenHttpa.Core

open Crypto Proto

/-- `AeadError`; keys of 32 bytes and nonces of 12 are always constructed. -/
inductive AeadError where
  | SealFailed
  | OpenFailed
  | IoError (message : String)

structure TicketKey where
  key : Octets 32
  counter : UInt64

/-- `TicketKey::generate`, from the bytes the entropy source gave. -/
def TicketKey.generate (fresh : Octets 32) : TicketKey := ⟨fresh, 1⟩

/-- `TicketKey::next_nonce`; `fetch_add` wraps. -/
def TicketKey.nextNonce (key : TicketKey) : UInt64 × TicketKey :=
  (key.counter, { key with counter := key.counter + 1 })

structure TicketEngine where
  currentKey : TicketKey
  previousKey : Option TicketKey

structure SessionTicket where
  ticket : Bytes
  lifetime : Nat
  cipherSuite : CipherSuite
  rtt0Eligible : Bool

def ticketNonce (counter : UInt64) : AeadNonce :=
  ⟨List.replicate 4 0 ++ u64Be counter, by simp⟩

theorem ticketNonce_eq (counter : UInt64) : ticketNonce counter = counterNonce (.zero 12) counter := by
  have zeros := xorBytes_zeros (u64Be counter)
  rw [u64Be_length] at zeros
  apply Octets.ext
  change List.replicate 4 0 ++ u64Be counter =
    List.replicate 4 0 ++ xorBytes (List.replicate 8 0) (u64Be counter)
  rw [zeros]

namespace TicketEngine

def new (key : TicketKey) : TicketEngine := ⟨key, none⟩

/-- `TicketEngine::rotate`, with the bytes of the new key. -/
def rotate (engine : TicketEngine) (fresh : Octets 32) : TicketEngine :=
  ⟨.generate fresh, some engine.currentKey⟩

variable (cipher : Cipher)

/-- `TicketEngine::seal_session`; the lifetime is in seconds. The second component is the encryption
performed. -/
def sealSession (time : Codec Nat) (state : DurableSessionState) (lifetime : Nat)
    (engine : TicketEngine) : Except AeadError SessionTicket × List Encryption × TicketEngine :=
  let data := Postcard.toAllocvec time state
  let (counter, currentKey) := engine.currentKey.nextNonce
  let nonce := ticketNonce counter
  let performed : List Encryption := [⟨engine.currentKey.key, nonce⟩]
  let left := { engine with currentKey }
  match cipher.encrypt ⟨engine.currentKey.key, .Aes256Gcm⟩ nonce [] data with
  | none => (.error .SealFailed, performed, left)
  | some ciphertext =>
    (.ok ⟨nonce.bytes ++ ciphertext, min lifetime (2 ^ 32 - 1), state.cipherSuite, true⟩, performed,
      left)

theorem sealSession_effect (time : Codec Nat) (state : DurableSessionState) (lifetime : Nat)
    (engine : TicketEngine) : (engine.sealSession cipher time state lifetime).2 =
      ([⟨engine.currentKey.key, ticketNonce engine.currentKey.counter⟩],
        { engine with currentKey := ⟨engine.currentKey.key, engine.currentKey.counter + 1⟩ }) := by
  simp only [sealSession, TicketKey.nextNonce]
  split <;> rfl

/-- The decryption of `unseal_session`: under the current key, or else under the previous one. -/
def openTicket (nonce : AeadNonce) (ciphertext : Bytes) (engine : TicketEngine) :
    Except AeadError Bytes :=
  match cipher.decrypt ⟨engine.currentKey.key, .Aes256Gcm⟩ nonce [] ciphertext with
  | some data => .ok data
  | none =>
    match engine.previousKey with
    | none => .error .OpenFailed
    | some previous =>
      match cipher.decrypt ⟨previous.key, .Aes256Gcm⟩ nonce [] ciphertext with
      | none => .error .OpenFailed
      | some data => .ok data

def unsealSession (time : Codec Nat) (now : Nat) (ticket : Bytes)
    (engine : TicketEngine) : Except AeadError DurableSessionState :=
  match Octets.ofBytes? 12 (ticket.take 12) with
  | none => .error (.IoError "ticket too short")
  | some nonce =>
    match engine.openTicket cipher nonce (ticket.drop 12) with
    | .error failure => .error failure
    | .ok data =>
      match Postcard.fromBytes time data with
      | none => .error (.IoError "ticket deserialisation failed")
      | some state =>
        if state.expiresAt < now then .error (.IoError "ticket expired") else .ok state

def Holds (engine : TicketEngine) (key : Octets 32) : Prop :=
  engine.currentKey.key = key ∨ ∃ previous, engine.previousKey = some previous ∧ previous.key = key

variable {cipher} {engine : TicketEngine} {key : Octets 32} {time : Codec Nat}
  {state : DurableSessionState} {lifetime : Nat} {ticket : SessionTicket} {nonce : AeadNonce}
  {data ciphertext : Bytes} {fresh : List (Octets 32)} {other : TicketEngine}

theorem openTicket_of_holds (ideal : cipher.Ideal)
    (sealed : cipher.encrypt ⟨key, .Aes256Gcm⟩ nonce [] data = some ciphertext)
    (holds : engine.Holds key) : engine.openTicket cipher nonce ciphertext = .ok data := by
  have opens := ideal.opens _ _ _ _ _ sealed
  unfold openTicket
  rcases holds with rfl | ⟨previous, found, rfl⟩
  · rw [opens]
  · cases first : cipher.decrypt ⟨engine.currentKey.key, .Aes256Gcm⟩ nonce [] ciphertext with
    | some other =>
      obtain ⟨_, _, _, rfl⟩ := (ideal.decrypt_iff sealed).mp first
      rfl
    | none => simp only [found, opens]

theorem openTicket_of_not_holds (ideal : cipher.Ideal)
    (sealed : cipher.encrypt ⟨key, .Aes256Gcm⟩ nonce [] data = some ciphertext)
    (lost : ¬ engine.Holds key) :
    engine.openTicket cipher nonce ciphertext = .error .OpenFailed := by
  have refused : ∀ other : Octets 32, other ≠ key →
      cipher.decrypt ⟨other, .Aes256Gcm⟩ nonce [] ciphertext = none := by
    intro other differs
    cases opened : cipher.decrypt ⟨other, .Aes256Gcm⟩ nonce [] ciphertext with
    | none => rfl
    | some plain =>
      obtain ⟨same, _⟩ := (ideal.decrypt_iff sealed).mp opened
      exact absurd (congrArg AeadKey.raw same) differs
  obtain ⟨current, previous⟩ := not_or.mp lost
  unfold openTicket
  rw [refused _ current]
  cases found : engine.previousKey with
  | none => rfl
  | some older =>
    have differs : older.key ≠ key := fun same => previous ⟨older, found, same⟩
    simp only [refused _ differs]

theorem rotated_fresh (twice : 2 ≤ fresh.length) (engine : TicketEngine)
    (holds : (run rotate engine fresh).Holds key) : key ∈ fresh := by
  induction fresh generalizing engine with
  | nil => simp at twice
  | cons first rest ih =>
    rw [run_cons] at holds
    match rest, ih, twice, holds with
    | [], _, twice, _ => simp at twice
    | [second], _, _, holds =>
      rcases holds with same | ⟨previous, found, same⟩
      · simp [← same, run, rotate, TicketKey.generate]
      · cases found
        simp [← same, rotate, TicketKey.generate]
    | second :: third :: rest, ih, _, holds =>
      exact List.mem_cons_of_mem first (ih (by simp) _ holds)

theorem rotated_holds (once : fresh.length ≤ 1) (engine : TicketEngine) :
    (run rotate engine fresh).Holds engine.currentKey.key := by
  match fresh, once with
  | [], _ => exact .inl rfl
  | [first], _ => exact .inr ⟨engine.currentKey, rfl, rfl⟩
  | _ :: _ :: _, once => simp at once

theorem sealSession_ok (sealed : (engine.sealSession cipher time state lifetime).1 = .ok ticket) :
    ∃ nonce ciphertext, ticket.ticket = nonce.bytes ++ ciphertext ∧
      cipher.encrypt ⟨engine.currentKey.key, .Aes256Gcm⟩ nonce [] (Postcard.toAllocvec time state) =
        some ciphertext ∧
      (engine.sealSession cipher time state lifetime).2.2.currentKey.key = engine.currentKey.key := by
  simp only [sealSession, TicketKey.nextNonce] at sealed ⊢
  cases found : cipher.encrypt ⟨engine.currentKey.key, .Aes256Gcm⟩
      (ticketNonce engine.currentKey.counter) [] (Postcard.toAllocvec time state) with
  | none => simp [found] at sealed
  | some ciphertext =>
    simp only [found] at sealed ⊢
    cases sealed
    exact ⟨_, ciphertext, rfl, found, trivial⟩

theorem unsealSession_append (cipher : Cipher) (time : Codec Nat) (now : Nat) (nonce : AeadNonce)
    (ciphertext : Bytes) (engine : TicketEngine) :
    engine.unsealSession cipher time now (nonce.bytes ++ ciphertext) =
      match engine.openTicket cipher nonce ciphertext with
      | .error failure => .error failure
      | .ok data =>
        match Postcard.fromBytes time data with
        | none => .error (.IoError "ticket deserialisation failed")
        | some state =>
          if state.expiresAt < now then .error (.IoError "ticket expired") else .ok state := by
  have front : (nonce.bytes ++ ciphertext).take 12 = nonce.bytes := List.take_left' nonce.length_eq
  have back : (nonce.bytes ++ ciphertext).drop 12 = ciphertext := List.drop_left' nonce.length_eq
  simp only [unsealSession, front, back, Octets.ofBytes?_bytes]

theorem unsealSession_of_holds_iff (ideal : cipher.Ideal) {now : Nat}
    (sealed : (engine.sealSession cipher time state lifetime).1 = .ok ticket)
    (holds : other.Holds engine.currentKey.key) (timely : now ≤ state.expiresAt) :
    other.unsealSession cipher time now ticket.ticket = .ok state ↔
      ∀ result, state.attestationResult = some result →
        ∀ claims ∈ Postcard.records result, claims.teeClass ≠ none := by
  obtain ⟨nonce, ciphertext, parts, encrypted, _⟩ := sealSession_ok sealed
  have current : ¬ state.expiresAt < now := by omega
  rw [parts, unsealSession_append, openTicket_of_holds ideal encrypted holds,
    ← Postcard.fromBytes_toAllocvec_iff time state]
  cases read : Postcard.fromBytes time (Postcard.toAllocvec time state) with
  | none => simp [read]
  | some found =>
    simp only [read, Option.some.injEq]
    constructor
    · intro returned
      split at returned
      · cases returned
      · exact Except.ok.inj returned
    · rintro rfl
      rw [if_neg current]

theorem unsealSession_of_not_holds (ideal : cipher.Ideal)
    (sealed : (engine.sealSession cipher time state lifetime).1 = .ok ticket)
    (lost : ¬ other.Holds engine.currentKey.key) (now : Nat) :
    other.unsealSession cipher time now ticket.ticket = .error .OpenFailed := by
  obtain ⟨nonce, ciphertext, parts, encrypted, _⟩ := sealSession_ok sealed
  rw [parts, unsealSession_append, openTicket_of_not_holds ideal encrypted lost]

/-- Under an ideal cipher, a ticket that is not expired unseals to its state for up to one rotation
with keys other than its own, and not at all from the second on, exactly when there were two
rotations or every claims record of the state has a class. -/
theorem unsealSession_rotated_iff {cipher : Cipher} (ideal : cipher.Ideal) (time : Codec Nat)
    (engine : TicketEngine) (state : DurableSessionState) (lifetime now : Nat)
    {ticket : SessionTicket} (sealed : (engine.sealSession cipher time state lifetime).1 = .ok ticket)
    (fresh : List (Octets 32)) (distinct : engine.currentKey.key ∉ fresh)
    (timely : now ≤ state.expiresAt) :
    let rotated := run rotate (engine.sealSession cipher time state lifetime).2.2 fresh
    ((fresh.length ≤ 1 → rotated.unsealSession cipher time now ticket.ticket = .ok state) ∧
        (2 ≤ fresh.length →
          ∃ failure, rotated.unsealSession cipher time now ticket.ticket = .error failure)) ↔
      2 ≤ fresh.length ∨
        ∀ result, state.attestationResult = some result →
          ∀ claims ∈ Postcard.records result, claims.teeClass ≠ none := by
  intro rotated
  by_cases twice : 2 ≤ fresh.length
  · have lost : ¬ rotated.Holds engine.currentKey.key :=
      fun holds => distinct (rotated_fresh twice _ holds)
    have refused := unsealSession_of_not_holds ideal sealed lost now
    refine ⟨fun _ => .inl twice, fun _ => ⟨?_, fun _ => ⟨_, refused⟩⟩⟩
    intro once
    omega
  · have once : fresh.length ≤ 1 := by omega
    obtain ⟨_, _, _, _, kept⟩ := sealSession_ok sealed
    have holds : rotated.Holds engine.currentKey.key := by
      rw [← kept]
      exact rotated_holds once _
    rw [unsealSession_of_holds_iff ideal sealed holds timely]
    constructor
    · rintro ⟨classified, _⟩
      exact .inr (classified once)
    · intro either
      have classified := either.resolve_left twice
      exact ⟨fun _ => classified, fun again => absurd again twice⟩

def varintTime : Codec Nat := Positional.varint.codec Positional.varint_whole

def attestedState (result : Option VerificationResult) : DurableSessionState :=
  (AttestSession.new ⟨0⟩ .X25519MlKem768Aes256GcmSha384 .V2 .zero 10 .StrictMonotonic
    result).exportDurable 0 0

def zeroEngine : TicketEngine := .new (.generate (.zero 32))

def classifiedResult : VerificationResult :=
  .mk none { EatClaims.default with teeClass := some .IntelTdx } "UpToDate" none none
    [.mk none { EatClaims.default with teeClass := some .NvidiaGpu } "" none none []]

/-- A ticket of a state with such a result unseals after a rotation. -/
theorem classified_ticket_unseals :
    ∃ ticket, (zeroEngine.sealSession plainCipher varintTime (attestedState (some classifiedResult))
        60).1 = .ok ticket ∧
      (run rotate (zeroEngine.sealSession plainCipher varintTime
          (attestedState (some classifiedResult)) 60).2.2
        [⟨List.replicate 32 1, rfl⟩]).unsealSession plainCipher varintTime 5 ticket.ticket =
          .ok (attestedState (some classifiedResult)) := by
  refine ⟨_, rfl, ?_⟩
  have classified : ∀ result, some classifiedResult = some result →
      ∀ claims ∈ Postcard.records result, claims.teeClass ≠ none := by
    rintro _ ⟨⟩
    decide
  exact ((unsealSession_rotated_iff plainCipher_ideal varintTime zeroEngine
    (attestedState (some classifiedResult)) 60 5 rfl [⟨List.replicate 32 1, rfl⟩] (by decide)
    (by decide)).mpr (.inr classified)).1 (by decide)

/-- A ticket of a state whose attestation result has no class does not unseal to it, even before any
rotation and long before it expires. -/
theorem unclassified_ticket_lost :
    ∃ ticket, (zeroEngine.sealSession plainCipher varintTime (attestedState (some .default)) 60).1 =
        .ok ticket ∧
      (zeroEngine.sealSession plainCipher varintTime
        (attestedState (some .default)) 60).2.2.unsealSession plainCipher varintTime 5 ticket.ticket ≠
          .ok (attestedState (some .default)) := by
  refine ⟨_, rfl, ?_⟩
  intro unsealed
  have holds : (zeroEngine.sealSession plainCipher varintTime
      (attestedState (some .default)) 60).2.2.Holds zeroEngine.currentKey.key := .inl rfl
  have classified := (unsealSession_of_holds_iff plainCipher_ideal rfl holds (by decide)).mp unsealed
  exact classified .default rfl .default (by decide) rfl

end TicketEngine

end OpenHttpa.Core
