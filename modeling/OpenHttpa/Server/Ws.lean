import OpenHttpa.Core.Session
import OpenHttpa.Crypto.Aead

/-!
# Attested WebSocket connections

`openhttpa-server/src/ws.rs`. An upgraded connection takes the session's keys and IVs as they are
and numbers its own frames: outbound frames with a fresh nonce sequence, inbound frames against a
`last_inbound_counter` that starts at zero. A frame is accepted only under a counter above the
last one seen on the connection (`decodeFrame_accepts`); nothing relates the counters of two
connections.
-/
namespace OpenHttpa.Server

open OpenHttpa.Core Crypto Proto

/-- `WsPayload` of a binary message; a text payload is the bytes that passed the UTF-8 check. -/
inductive WsPayload where
  | Text (text : Bytes)
  | Binary (data : Bytes)

inductive WsError where
  | FrameTooShort (len min : Nat)
  | NonceReplay
  | AeadOpen
  | AeadSeal
  | UnknownType (byte : UInt8)
  | InvalidUtf8

structure AttestWsSession where
  outbound : BoundAeadKey
  inbound : BoundAeadKey
  inboundIv : Octets 12
  aad : Bytes
  /-- The counter of the last frame that passed the counter check. -/
  lastInboundCounter : UInt64

def msgText : UInt8 := 0x00

def msgBinary : UInt8 := 0x01

/-- `MIN_FRAME`: nonce, type byte and tag. -/
def minFrame : Nat := 12 + 1 + 16

def cipherSuiteToAead : CipherSuite → AeadAlgorithm
  | .X25519ChaCha20Poly1305Sha256 => .ChaCha20Poly1305
  | _ => .Aes256Gcm

namespace AttestWsSession

def new (outbound inbound : BoundAeadKey) (inboundIv : Octets 12) (atbIdText : Bytes) :
    AttestWsSession :=
  ⟨outbound, inbound, inboundIv, aadPrefix ++ atbIdText, 0⟩

/-- The connection `attested_ws_upgrade` builds from a live session, or its refusal. -/
def upgrade (now : Nat) (atbIdText : Bytes) (session : AttestSession) :
    Except SessionError AttestWsSession :=
  let algorithm := cipherSuiteToAead session.cipherSuite
  session.peekKeys now fun keys =>
    new (BoundAeadKey.new algorithm keys.serverWriteKey keys.serverWriteIv)
      (BoundAeadKey.new algorithm keys.clientWriteKey keys.clientWriteIv)
      keys.clientWriteIv atbIdText

variable (cipher : Cipher)

/-- `AttestWsSession::encode_frame`; the second component is the encryption performed. -/
def encodeFrame (typeByte : UInt8) (payload : Bytes) (ws : AttestWsSession) :
    Except WsError Bytes × List Encryption × AttestWsSession :=
  match ws.outbound.sealData cipher ws.aad (typeByte :: payload) with
  | (.error _, performed, outbound) => (.error .AeadSeal, performed, { ws with outbound })
  | (.ok (nonce, data), performed, outbound) =>
    (.ok (nonce.bytes ++ data), performed, { ws with outbound })

def deliver : Bytes → Except WsError WsPayload
  | [] => .error (.FrameTooShort 0 1)
  | byte :: payload =>
    if byte = msgText then
      if isUtf8 payload then .ok (.Text payload) else .error .InvalidUtf8
    else if byte = msgBinary then .ok (.Binary payload)
    else .error (.UnknownType byte)

/-- `AttestWsSession::decode_frame` — the counter is recorded before the frame is opened. -/
def decodeFrame (frame : Bytes) (ws : AttestWsSession) :
    Except WsError WsPayload × AttestWsSession :=
  if frame.length < minFrame then
    (.error (.FrameTooShort frame.length minFrame), ws)
  else
    match Octets.ofBytes? 12 (frame.take 12) with
    | none => (.error .AeadOpen, ws)
    | some nonce =>
      let counter := nonceCounter ws.inboundIv nonce
      if counter ≤ ws.lastInboundCounter then
        (.error .NonceReplay, ws)
      else
        let seen := { ws with lastInboundCounter := counter }
        match ws.inbound.openData cipher nonce ws.aad (frame.drop 12) with
        | none => (.error .AeadOpen, seen)
        | some plaintext => (deliver plaintext, seen)

theorem upgrade_ok {now : Nat} {atbIdText : Bytes} {session : AttestSession}
    {ws : AttestWsSession} (upgraded : upgrade now atbIdText session = .ok ws) :
    ws.outbound.key.raw = session.keys.serverWriteKey ∧
      ws.outbound.writeIv = session.keys.serverWriteIv ∧ ws.outbound.counter = 1 := by
  unfold upgrade AttestSession.peekKeys at upgraded
  by_cases expired : session.expiresAt ≤ now
  · simp [expired] at upgraded
  · simp only [if_neg expired, Except.ok.injEq] at upgraded
    subst upgraded
    exact ⟨rfl, rfl, rfl⟩

theorem encodeFrame_effect (typeByte : UInt8) (payload : Bytes) (ws : AttestWsSession)
    (below : ws.outbound.counter ≠ u64Max) : (ws.encodeFrame cipher typeByte payload).2 =
      ([⟨ws.outbound.key.raw, counterNonce ws.outbound.writeIv ws.outbound.counter⟩],
        { ws with outbound := { ws.outbound with counter := ws.outbound.counter + 1 } }) := by
  have effect := BoundAeadKey.sealData_effect cipher ws.outbound ws.aad (typeByte :: payload) below
  unfold encodeFrame
  cases outcome : ws.outbound.sealData cipher ws.aad (typeByte :: payload) with
  | mk result rest =>
    rw [outcome] at effect
    obtain rfl := effect
    cases result <;> rfl

theorem decodeFrame_accepts (frame : Bytes) (ws : AttestWsSession) :
    (ws.decodeFrame cipher frame).2.inboundIv = ws.inboundIv ∧
      ws.lastInboundCounter ≤ (ws.decodeFrame cipher frame).2.lastInboundCounter ∧
      ∀ payload, (ws.decodeFrame cipher frame).1 = .ok payload →
        ∃ nonce, cipher.OpensAt nonce (frame.drop 12) ∧
          ws.lastInboundCounter < nonceCounter ws.inboundIv nonce ∧
          (ws.decodeFrame cipher frame).2.lastInboundCounter = nonceCounter ws.inboundIv nonce := by
  unfold decodeFrame
  by_cases short : frame.length < minFrame
  · rw [if_pos short]
    exact ⟨rfl, UInt64.le_refl _, by simp⟩
  rw [if_neg short]
  cases Octets.ofBytes? 12 (frame.take 12) with
  | none => exact ⟨rfl, UInt64.le_refl _, by simp⟩
  | some nonce =>
    dsimp only
    by_cases stale : nonceCounter ws.inboundIv nonce ≤ ws.lastInboundCounter
    · rw [if_pos stale]
      exact ⟨rfl, UInt64.le_refl _, by simp⟩
    · rw [if_neg stale]
      have above := UInt64.not_le.mp stale
      cases opened : ws.inbound.openData cipher nonce ws.aad (frame.drop 12) with
      | none => exact ⟨rfl, UInt64.le_of_lt above, by simp⟩
      | some plaintext =>
        refine ⟨rfl, UInt64.le_of_lt above, ?_⟩
        intro payload accepted
        exact ⟨nonce, ⟨ws.inbound.key, ws.aad, plaintext, opened⟩, above, rfl⟩

end AttestWsSession

end OpenHttpa.Server
