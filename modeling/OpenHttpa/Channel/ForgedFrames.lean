import OpenHttpa.Lib.Receiver
import OpenHttpa.Server.Ws
import OpenHttpa.Wasm.Session

/-!
# Forged frames

The two receivers of attested WebSocket frames, `decode_frame` on the server and
`openhttpa_unseal_ws` in the browser, are receivers of numbered frames: both read the number of a
frame from its nonce, which is not authenticated yet, and take it as the last one before they open
the frame. So a frame that fails authentication leaves no trace exactly if it was refused for its
number (`forged_frame_traceless_iff`).
-/
namespace OpenHttpa.Channel

open Crypto Proto

/-- A cipher that seals short messages, with 16 bytes more, and opens what it sealed. -/
structure Tagged (cipher : Cipher) : Prop where
  seals : ∀ key nonce aad plain, plain.length ≤ 64 → ∃ sealed,
    cipher.encrypt key nonce aad plain = some sealed ∧ sealed.length = plain.length + 16 ∧
      cipher.decrypt key nonce aad sealed = some plain

theorem Tagged.exists_frame {cipher : Cipher} (tagged : Tagged cipher) (key : AeadKey)
    (nonce : AeadNonce) (aad : Bytes) (byte : UInt8) :
    ∃ frame : Bytes, frame.length = 29 ∧ Octets.ofBytes? 12 (frame.take 12) = some nonce ∧
      cipher.decrypt key nonce aad (frame.drop 12) = some [byte] := by
  obtain ⟨sealed, -, length, opened⟩ := tagged.seals key nonce aad [byte] (show 1 ≤ 64 by decide)
  refine ⟨nonce.bytes ++ sealed, ?_, ?_, ?_⟩
  · rw [List.length_append, nonce.length_eq, length]
    rfl
  · rw [List.take_left' nonce.length_eq, Octets.ofBytes?_bytes]
  · rw [List.drop_left' nonce.length_eq]
    exact opened

def frameNonce (frame : Bytes) : Option AeadNonce := Octets.ofBytes? 12 (frame.take 12)

/-! ## The server -/

open Server

variable (cipher : Cipher) (hex : Bytes → Bytes) (ws : AttestWsSession)

/-- What the server opens a frame to. -/
def serverOpens (frame : Bytes) : Option Bytes :=
  (frameNonce frame).bind fun nonce => ws.inbound.openData cipher nonce ws.aad (frame.drop 12)

def serverReceiver : Receiver Bytes UInt64 where
  number frame :=
    if frame.length < minFrame then none else (frameNonce frame).map (nonceCounter ws.inboundIv)
  delivers frame :=
    match serverOpens cipher ws frame with
    | none => false
    | some plaintext => (AttestWsSession.deliver plaintext).isOk

/-- A frame on the server: whether it is accepted, and the connection afterwards. -/
def serverStep (frame : Bytes) : Bool × AttestWsSession :=
  ((ws.decodeFrame cipher frame).1.isOk, (ws.decodeFrame cipher frame).2)

theorem serverStep_eq (last : UInt64) (frame : Bytes) :
    serverStep cipher { ws with lastInboundCounter := last } frame =
      (((serverReceiver cipher ws).receive last frame).1,
        { ws with lastInboundCounter := ((serverReceiver cipher ws).receive last frame).2 }) := by
  unfold serverStep AttestWsSession.decodeFrame Receiver.receive serverReceiver serverOpens frameNonce
  by_cases short : frame.length < minFrame
  · simp only [if_pos short]
    rfl
  · simp only [if_neg short]
    cases Octets.ofBytes? 12 (frame.take 12) with
    | none => rfl
    | some nonce =>
      dsimp only [Option.map_some, Option.bind_some]
      by_cases stale : nonceCounter ws.inboundIv nonce ≤ last
      · simp only [if_pos stale]
        rfl
      · simp only [if_neg stale]
        cases ws.inbound.openData cipher nonce ws.aad (frame.drop 12) with
        | none | some => rfl

theorem serverReceiver_genuine {cipher : Cipher} (tagged : Tagged cipher) (ws : AttestWsSession)
    (number : UInt64) :
    ∃ frame, (serverReceiver cipher ws).number frame = some number ∧
      (serverReceiver cipher ws).delivers frame = true := by
  obtain ⟨frame, length, nonce, opened⟩ := tagged.exists_frame ws.inbound.key
    (counterNonce ws.inboundIv number) ws.aad msgBinary
  have whole : serverOpens cipher ws frame = some [msgBinary] := by
    rw [serverOpens, frameNonce, nonce]
    exact opened
  refine ⟨frame, ?_, ?_⟩
  · change (if frame.length < minFrame then none else _) = _
    rw [length, if_neg (by decide), frameNonce, nonce, Option.map_some, nonceCounter_counterNonce]
  · change (match serverOpens cipher ws frame with
      | none => false
      | some plaintext => (AttestWsSession.deliver plaintext).isOk) = true
    rw [whole]
    rfl

/-! ## The browser -/

open Wasm

/-- A call of `openhttpa_unseal_ws`. -/
structure UnsealCall where
  baseId : Bytes
  frame : Bytes

/-- What the browser opens a frame to. -/
def browserOpens (s : SessionState) (call : UnsealCall) : Option Bytes :=
  (frameNonce call.frame).bind fun nonce =>
    decryptWith cipher s.keys nonce (sessionAad call.baseId) (call.frame.drop 12)

def browserReceiver (s : SessionState) : Receiver UnsealCall UInt64 where
  number call :=
    if s.baseId ≠ call.baseId ∨ call.frame.length < 12 + 16 then none
    else (frameNonce call.frame).map (nonceCounter s.keys.serverWriteIv)
  delivers call :=
    match browserOpens cipher s call with
    | none => false
    | some plaintext => (deliverFrame hex plaintext).isOk

/-- A call in the browser: whether the frame is accepted, and the session afterwards. -/
def browserStep (session : Option SessionState) (call : UnsealCall) : Bool × Option SessionState :=
  let outcome := openhttpaUnsealWs cipher hex call.baseId call.frame session
  (outcome.1.isOk, outcome.2.2)

theorem browserStep_eq (s : SessionState) (last : UInt64) (call : UnsealCall) :
    browserStep cipher hex (some { s with wsServerCounter := last }) call =
      (((browserReceiver cipher hex s).receive last call).1,
        some { s with wsServerCounter := ((browserReceiver cipher hex s).receive last call).2 }) := by
  unfold browserStep openhttpaUnsealWs withSession unsealFrameBody Receiver.receive browserReceiver
    browserOpens frameNonce
  by_cases missed : s.baseId ≠ call.baseId
  · simp only [if_pos missed, if_pos (Or.inl missed)]
    rfl
  · by_cases short : call.frame.length < 12 + 16
    · simp only [if_neg missed, if_pos short, if_pos (Or.inr short)]
      rfl
    · simp only [if_neg missed, if_neg short, if_neg (not_or.mpr ⟨missed, short⟩)]
      cases Octets.ofBytes? 12 (call.frame.take 12) with
      | none => rfl
      | some nonce =>
        dsimp only [Option.map_some, Option.bind_some]
        by_cases stale : nonceCounter s.keys.serverWriteIv nonce ≤ last
        · simp only [if_pos stale]
          rfl
        · simp only [if_neg stale]
          cases decryptWith cipher s.keys nonce (sessionAad call.baseId) (call.frame.drop 12) with
          | none | some => rfl

theorem browserReceiver_genuine {cipher : Cipher} (tagged : Tagged cipher) (hex : Bytes → Bytes)
    (s : SessionState) (number : UInt64) :
    ∃ call, (browserReceiver cipher hex s).number call = some number ∧
      (browserReceiver cipher hex s).delivers call = true := by
  obtain ⟨frame, length, nonce, opened⟩ := tagged.exists_frame ⟨s.keys.serverWriteKey, .Aes256Gcm⟩
    (counterNonce s.keys.serverWriteIv number) (sessionAad s.baseId) 0x01
  have whole : browserOpens cipher s ⟨s.baseId, frame⟩ = some [0x01] := by
    rw [browserOpens, frameNonce, nonce]
    exact opened
  refine ⟨⟨s.baseId, frame⟩, ?_, ?_⟩
  · change (if s.baseId ≠ s.baseId ∨ frame.length < 12 + 16 then none else _) = _
    rw [length, if_neg (by simp), frameNonce, nonce, Option.map_some, nonceCounter_counterNonce]
  · change (match browserOpens cipher s ⟨s.baseId, frame⟩ with
      | none => false
      | some plaintext => (deliverFrame hex plaintext).isOk) = true
    rw [whole]
    rfl

/-! ## Both -/

/-- **Forged frames.** In any state of either receiver, a frame that fails authentication leaves the
later frames accepted and rejected as without it exactly if it was refused for its number. -/
theorem forged_frame_traceless_iff {cipher : Cipher} (tagged : Tagged cipher) (hex : Bytes → Bytes) :
    (∀ (ws : AttestWsSession) (frame : Bytes), serverOpens cipher ws frame = none →
      (Traceless (serverStep cipher) ws frame ↔
        (serverReceiver cipher ws).Refuses ws.lastInboundCounter frame)) ∧
    ∀ (s : SessionState) (call : UnsealCall), browserOpens cipher s call = none →
      (Traceless (browserStep cipher hex) (some s) call ↔
        (browserReceiver cipher hex s).Refuses s.wsServerCounter call) := by
  constructor
  · intro ws frame _
    rw [← Receiver.traceless_iff (serverReceiver_genuine tagged ws)]
    exact traceless_of_image (serverStep_eq cipher ws) ws.lastInboundCounter frame
  · intro s call _
    rw [← Receiver.traceless_iff (browserReceiver_genuine tagged hex s)]
    exact traceless_of_image (browserStep_eq cipher hex s) s.wsServerCounter call

def zeroTag : Cipher where
  encrypt _ _ _ plain := some (plain ++ List.replicate 16 0)
  decrypt _ _ _ sealed :=
    if sealed.drop (sealed.length - 16) = List.replicate 16 0 then
      some (sealed.take (sealed.length - 16))
    else none

theorem zeroTag_tagged : Tagged zeroTag where
  seals key nonce aad plain _ := by
    have length : (plain ++ List.replicate 16 (0 : UInt8)).length - 16 = plain.length := by simp
    refine ⟨plain ++ List.replicate 16 0, rfl, by simp, ?_⟩
    change (if _ then _ else _) = _
    rw [length, List.drop_left, List.take_left, if_pos rfl]

def freshSocket : AttestWsSession :=
  .new (.new .Aes256Gcm (.zero 32) (.zero 12)) (.new .Aes256Gcm (.zero 32) (.zero 12)) (.zero 12) []

def freshBrowser : SessionState := .established [] .zero

def numberedFrame (number : UInt64) (tag : UInt8) : Bytes :=
  (counterNonce (.zero 12) number).bytes ++ 1 :: List.replicate 16 tag

/-- The socket once it has accepted the frames with the numbers 1 and 2. -/
def usedSocket : AttestWsSession :=
  (serverStep zeroTag (serverStep zeroTag freshSocket (numberedFrame 1 0)).2 (numberedFrame 2 0)).2

/-- A forged frame with the number 1 leaves no trace on it. -/
theorem stale_forgery_traceless :
    answers (serverStep zeroTag) freshSocket [numberedFrame 1 0, numberedFrame 2 0] = [true, true] ∧
      serverOpens zeroTag usedSocket (numberedFrame 1 7) = none ∧
      Traceless (serverStep zeroTag) usedSocket (numberedFrame 1 7) := by
  have closed : serverOpens zeroTag usedSocket (numberedFrame 1 7) = none := by decide +kernel
  have numbered : (serverReceiver zeroTag usedSocket).number (numberedFrame 1 7) = some 1 := by
    decide +kernel
  have last : (1 : UInt64) ≤ usedSocket.lastInboundCounter := by decide +kernel
  refine ⟨by decide +kernel, closed, ?_⟩
  refine ((forged_frame_traceless_iff zeroTag_tagged id).1 usedSocket _ closed).mpr ?_
  intro number carried
  rw [numbered] at carried
  cases carried
  exact last

/-- A frame with number 9 fails authentication on both sides, and is rejected by both; the genuine frame
with number 1 is accepted without it, and rejected after it. -/
theorem forged_number_blocks :
    serverOpens zeroTag freshSocket (numberedFrame 9 7) = none ∧
    browserOpens zeroTag freshBrowser ⟨[], numberedFrame 9 7⟩ = none ∧
    answers (serverStep zeroTag) freshSocket [numberedFrame 9 7, numberedFrame 1 0] = [false, false] ∧
    answers (serverStep zeroTag) freshSocket [numberedFrame 1 0] = [true] ∧
    answers (browserStep zeroTag id) (some freshBrowser)
      [⟨[], numberedFrame 9 7⟩, ⟨[], numberedFrame 1 0⟩] = [false, false] ∧
    answers (browserStep zeroTag id) (some freshBrowser) [⟨[], numberedFrame 1 0⟩] = [true] := by
  decide +kernel

end OpenHttpa.Channel
