import OpenHttpa.Crypto.Aead
import OpenHttpa.Proto.Types
import OpenHttpa.Wasm.Crypto

/-!
# Entry points of the browser client

The session part of `bindings/wasm/src/lib.rs`. An established session holds one set of keys and
four counters: requests and chunks are numbered by one, WebSocket frames by another, and both
numbers go into the nonce of the same key and IV. Every entry point finds the session, compares
the identifier and then runs its own body; a body returns its result, the encryptions it performed
and the session it leaves. Arguments that the source decodes from text are given decoded, or as the
failure of the decoder.
-/
namespace OpenHttpa.Wasm

open Crypto Proto

structure SessionState where
  baseId : Bytes
  keys : SessionKeys
  counter : UInt64
  serverCounter : UInt64
  wsClientCounter : UInt64
  wsServerCounter : UInt64

/-- The session that `openhttpa_derive_session` stores. -/
def SessionState.established (baseId : Bytes) (keys : SessionKeys) : SessionState :=
  ⟨baseId, keys, 1, 1, 1, 0⟩

/-- The result of an entry point, the encryptions it performed, and the stored session. -/
abbrev Outcome (α : Type) := Except String α × List Encryption × Option SessionState

def withSession {α : Type} (session : Option SessionState) (baseId : Bytes)
    (body : SessionState → Except String α × List Encryption × SessionState) : Outcome α :=
  match session with
  | none => (.error "no active `OpenHTTPA` session", [], none)
  | some s =>
    if s.baseId ≠ baseId then (.error "base_id mismatch", [], some s)
    else
      match body s with
      | (result, performed, left) => (result, performed, some left)

variable (cipher : Cipher) (sha384 : Bytes → Octets 48) (hmac384 : Octets 32 → Bytes → Bytes)
  (hex : Bytes → Bytes) (toValue : SealedChunk → Option String) (keys : SessionKeys)

def encryptAt (count : UInt64) (aad data : Bytes) : Option Bytes :=
  cipher.encrypt ⟨keys.clientWriteKey, .Aes256Gcm⟩ (counterNonce keys.clientWriteIv count) aad data

def encryptionAt (count : UInt64) : Encryption :=
  ⟨keys.clientWriteKey, counterNonce keys.clientWriteIv count⟩

/-- The JSON object `openhttpa_seal` returns. -/
structure SealedBody where
  nonce : AeadNonce
  counter : UInt64
  ciphertext : Bytes
  binder : String

/-- The JSON object `openhttpa_seal_with_ahl` returns; the ticket before its Base64 form. -/
structure TicketedBody where
  nonce : AeadNonce
  counter : UInt64
  ciphertext : Bytes
  ticket : Bytes

/-- The object `openhttpa_seal_chunk` returns. -/
structure SealedChunk where
  counter : UInt64
  ciphertext : Bytes
  nextHash : Octets 48

def encryptionFailed : String := "encryption failed: aead::Error"

def decryptionFailed : String := "decryption failed: aead::Error"

def sealBody (baseId plaintext : Bytes) (s : SessionState) :
    Except String SealedBody × List Encryption × SessionState :=
  if s.counter = u64Max then (.error "nonce counter overflow", [], s)
  else
    let count := s.counter
    let moved := { s with counter := count + 1 }
    let performed := [encryptionAt s.keys count]
    match encryptAt cipher s.keys count (sessionAad baseId) plaintext with
    | none => (.error encryptionFailed, performed, moved)
    | some ciphertext =>
      (.ok ⟨counterNonce s.keys.clientWriteIv count, count, ciphertext, ""⟩, performed, moved)

def openhttpaSeal (baseId plaintext : Bytes) (session : Option SessionState) : Outcome SealedBody :=
  withSession session baseId (sealBody cipher baseId plaintext)

/-- The routing arguments of a ticket: the `Host` header of the parsed header object, and the
attested header list over it. -/
structure Routing where
  /-- The authority, empty if there is none, or the JSON error. -/
  authority : Except String String
  /-- What `canonicalize_ahl` returns. -/
  ahl : Except String Bytes

def computeTicket (nonce : UInt64) (routing : Routing) : Except String Bytes :=
  match routing.authority with
  | .error reason => .error ("invalid headers JSON: " ++ reason)
  | .ok authority =>
    if authority.isEmpty then
      .error "AHL error: missing Host header — required for authority binding"
    else
      match routing.ahl with
      | .error reason => .error ("AHL error: " ++ reason)
      | .ok ahl => .ok (u64Be nonce ++ [0] ++ hmac384 keys.clientMacKey (u64Be nonce ++ ahl))

/-- The body of `openhttpa_seal_with_ahl`: the payload is encrypted before the headers are read. -/
def sealWithAhlBody (baseId plaintext : Bytes) (routing : Routing) (s : SessionState) :
    Except String TicketedBody × List Encryption × SessionState :=
  if s.counter = u64Max then (.error "nonce counter overflow", [], s)
  else
    let count := s.counter
    let moved := { s with counter := count + 1 }
    let performed := [encryptionAt s.keys count]
    match encryptAt cipher s.keys count (sessionAad baseId) plaintext with
    | none => (.error encryptionFailed, performed, moved)
    | some ciphertext =>
      match computeTicket hmac384 s.keys count routing with
      | .error reason => (.error reason, performed, moved)
      | .ok ticket =>
        (.ok ⟨counterNonce s.keys.clientWriteIv count, count, ciphertext, ticket⟩, performed, moved)

def openhttpaSealWithAhl (baseId plaintext : Bytes) (routing : Routing)
    (session : Option SessionState) : Outcome TicketedBody :=
  withSession session baseId (sealWithAhlBody cipher hmac384 baseId plaintext routing)

/-- The body of `openhttpa_seal_chunk`. The counter is not compared with its limit and wraps;
`toValue` is the conversion to a JavaScript value, with the reason it refuses. -/
def sealChunkBody (baseId plaintext : Bytes) (prevHash : Option Bytes)
    (s : SessionState) : Except String SealedChunk × List Encryption × SessionState :=
  match prevHash with
  | none => (.error "invalid hash hex", [], s)
  | some prevHash =>
    let count := s.counter
    let moved := { s with counter := count + 1 }
    let performed := [encryptionAt s.keys count]
    match encryptAt cipher s.keys count (sessionAad baseId ++ prevHash) plaintext with
    | none => (.error encryptionFailed, performed, moved)
    | some ciphertext =>
      let chunk := ⟨count, ciphertext, sha384 (prevHash ++ ciphertext)⟩
      match toValue chunk with
      | some reason => (.error ("json error: " ++ reason), performed, moved)
      | none => (.ok chunk, performed, moved)

def openhttpaSealChunk (baseId plaintext : Bytes) (prevHash : Option Bytes)
    (session : Option SessionState) : Outcome SealedChunk :=
  withSession session baseId (sealChunkBody cipher sha384 toValue baseId plaintext prevHash)

def sealFrameBody (typeByte : UInt8) (baseId plaintext : Bytes)
    (s : SessionState) : Except String Bytes × List Encryption × SessionState :=
  if s.wsClientCounter = u64Max then (.error "WS nonce counter overflow", [], s)
  else
    let count := s.wsClientCounter
    let moved := { s with wsClientCounter := count + 1 }
    let performed := [encryptionAt s.keys count]
    match encryptAt cipher s.keys count (sessionAad baseId) (typeByte :: plaintext) with
    | none => (.error encryptionFailed, performed, moved)
    | some ciphertext =>
      (.ok ((counterNonce s.keys.clientWriteIv count).bytes ++ ciphertext), performed, moved)

def openhttpaSealWs (baseId plaintext : Bytes) (session : Option SessionState) : Outcome Bytes :=
  withSession session baseId (sealFrameBody cipher 0x00 baseId plaintext)

def openhttpaSealWsBinary (baseId plaintext : Bytes)
    (session : Option SessionState) : Outcome Bytes :=
  withSession session baseId (sealFrameBody cipher 0x01 baseId plaintext)

def openhttpaWsReset (baseId : Bytes) (session : Option SessionState) : Outcome Unit :=
  withSession session baseId fun s =>
    (.ok (), [], { s with wsClientCounter := 1, wsServerCounter := 0 })

def decryptWith (nonce : AeadNonce) (aad data : Bytes) : Option Bytes :=
  cipher.decrypt ⟨keys.serverWriteKey, .Aes256Gcm⟩ nonce aad data

/-- The body of `openhttpa_unseal`; the response counter moves only when the response opened. -/
def unsealBody (baseId : Bytes) (ciphertext : Option Bytes) (s : SessionState) :
    Except String Bytes × List Encryption × SessionState :=
  if s.serverCounter = u64Max then (.error "server nonce counter overflow", [], s)
  else
    match ciphertext with
    | none => (.error "invalid ciphertext hex", [], s)
    | some ciphertext =>
      match decryptWith cipher s.keys (counterNonce s.keys.serverWriteIv s.serverCounter)
          (sessionAad baseId) ciphertext with
      | none => (.error decryptionFailed, [], s)
      | some plaintext =>
        let moved := { s with serverCounter := s.serverCounter + 1 }
        if isUtf8 plaintext then (.ok plaintext, [], moved) else (.error "invalid utf8", [], moved)

def openhttpaUnseal (baseId : Bytes) (ciphertext : Option Bytes)
    (session : Option SessionState) : Outcome Bytes :=
  withSession session baseId (unsealBody cipher baseId ciphertext)

/-- What the browser delivers for the plaintext of a frame; `hex` is `hex::encode`. -/
def deliverFrame : Bytes → Except String Bytes
  | [] => .error "empty plaintext"
  | byte :: payload =>
    if byte = 0x00 then
      if isUtf8 payload then .ok payload else .error "invalid utf8"
    else if byte = 0x01 then .ok (hex payload)
    else .error "unknown message type"

/-- The body of `openhttpa_unseal_ws`; the counter is recorded before the frame is opened. -/
def unsealFrameBody (baseId frame : Bytes)
    (s : SessionState) : Except String Bytes × List Encryption × SessionState :=
  if frame.length < 12 + 16 then (.error "frame too short", [], s)
  else
    match Octets.ofBytes? 12 (frame.take 12) with
    | none => (.error "frame too short", [], s)
    | some nonce =>
      let received := nonceCounter s.keys.serverWriteIv nonce
      if received ≤ s.wsServerCounter then
        (.error ("WS replay detected: counter " ++ toString received ++ " <= " ++
          toString s.wsServerCounter), [], s)
      else
        let moved := { s with wsServerCounter := received }
        match decryptWith cipher s.keys nonce (sessionAad baseId) (frame.drop 12) with
        | none => (.error decryptionFailed, [], moved)
        | some plaintext => (deliverFrame hex plaintext, [], moved)

def openhttpaUnsealWs (baseId frame : Bytes) (session : Option SessionState) : Outcome Bytes :=
  withSession session baseId (unsealFrameBody cipher hex baseId frame)

/-- The body of `openhttpa_unseal_chunk`: the counter on the wire moves the response counter past
itself. -/
def unsealChunkBody (baseId frame : Bytes) (prevHash : Option Bytes) (s : SessionState) :
    Except String (Bytes × Octets 48) × List Encryption × SessionState :=
  if frame.length < 8 then (.error "frame too short", [], s)
  else
    let counter := u64OfBe (frame.take 8)
    let ciphertext := frame.drop 8
    match prevHash with
    | none => (.error "invalid hash hex", [], s)
    | some prevHash =>
      match decryptWith cipher s.keys (counterNonce s.keys.serverWriteIv counter)
          (sessionAad baseId ++ prevHash) ciphertext with
      | none => (.error decryptionFailed, [], s)
      | some plaintext =>
        let moved :=
          if s.serverCounter ≤ counter then { s with serverCounter := counter + 1 } else s
        (.ok (plaintext, sha384 (prevHash ++ ciphertext)), [], moved)

def openhttpaUnsealChunk (baseId frame : Bytes) (prevHash : Option Bytes)
    (session : Option SessionState) : Outcome (Bytes × Octets 48) :=
  withSession session baseId (unsealChunkBody cipher sha384 baseId frame prevHash)

section Effects

variable {α : Type} {s : SessionState} {baseId : Bytes}

theorem withSession_reached (reached : s.baseId = baseId)
    (body : SessionState → Except String α × List Encryption × SessionState) :
    (withSession (some s) baseId body).2 = ((body s).2.1, some (body s).2.2) := by
  have same : ¬ s.baseId ≠ baseId := not_not.mpr reached
  simp only [withSession, if_neg same]

theorem withSession_missed (missed : s.baseId ≠ baseId)
    (body : SessionState → Except String α × List Encryption × SessionState) :
    (withSession (some s) baseId body).2 = ([], some s) := by
  simp only [withSession, if_pos missed]

variable (cipher : Cipher) (sha384 : Bytes → Octets 48)

theorem sealBody_effect (plaintext : Bytes) : (sealBody cipher baseId plaintext s).2 =
      if s.counter = u64Max then ([], s)
      else ([encryptionAt s.keys s.counter], { s with counter := s.counter + 1 }) := by
  by_cases last : s.counter = u64Max
  · simp only [sealBody, if_pos last]
  · simp only [sealBody, if_neg last]
    cases encryptAt cipher s.keys s.counter (sessionAad baseId) plaintext <;> rfl

theorem sealWithAhlBody_effect (hmac384 : Octets 32 → Bytes → Bytes) (plaintext : Bytes)
    (routing : Routing) : (sealWithAhlBody cipher hmac384 baseId plaintext routing s).2 =
      if s.counter = u64Max then ([], s)
      else ([encryptionAt s.keys s.counter], { s with counter := s.counter + 1 }) := by
  by_cases last : s.counter = u64Max
  · simp only [sealWithAhlBody, if_pos last]
  · simp only [sealWithAhlBody, if_neg last]
    cases encryptAt cipher s.keys s.counter (sessionAad baseId) plaintext with
    | none => rfl
    | some ciphertext =>
      dsimp only
      cases computeTicket hmac384 s.keys s.counter routing <;> rfl

theorem sealChunkBody_effect (toValue : SealedChunk → Option String) (plaintext prevHash : Bytes) :
    (sealChunkBody cipher sha384 toValue baseId plaintext (some prevHash) s).2 =
      ([encryptionAt s.keys s.counter], { s with counter := s.counter + 1 }) := by
  simp only [sealChunkBody]
  cases encryptAt cipher s.keys s.counter (sessionAad baseId ++ prevHash) plaintext with
  | none => rfl
  | some ciphertext =>
    dsimp only
    cases toValue ⟨s.counter, ciphertext, sha384 (prevHash ++ ciphertext)⟩ <;> rfl

theorem sealFrameBody_effect (typeByte : UInt8) (plaintext : Bytes) :
    (sealFrameBody cipher typeByte baseId plaintext s).2 =
      if s.wsClientCounter = u64Max then ([], s) else ([encryptionAt s.keys s.wsClientCounter],
        { s with wsClientCounter := s.wsClientCounter + 1 }) := by
  by_cases last : s.wsClientCounter = u64Max
  · simp only [sealFrameBody, if_pos last]
  · simp only [sealFrameBody, if_neg last]
    cases encryptAt cipher s.keys s.wsClientCounter (sessionAad baseId) (typeByte :: plaintext) <;>
      rfl

/-- A body encrypts nothing and keeps the keys and the counters of the sender. -/
structure Receives (body : SessionState → Except String α × List Encryption × SessionState)
    (s : SessionState) : Prop where
  silent : (body s).2.1 = []
  keys : (body s).2.2.keys = s.keys
  counter : (body s).2.2.counter = s.counter
  frames : (body s).2.2.wsClientCounter = s.wsClientCounter

theorem unsealBody_receives (ciphertext : Option Bytes) :
    Receives (unsealBody cipher baseId ciphertext) s := by
  constructor <;>
  · unfold unsealBody
    repeat' split
    all_goals rfl

theorem unsealFrameBody_receives (hex : Bytes → Bytes) (frame : Bytes) :
    Receives (unsealFrameBody cipher hex baseId frame) s := by
  constructor <;>
  · unfold unsealFrameBody
    dsimp only
    repeat' split
    all_goals rfl

theorem unsealChunkBody_receives (frame : Bytes) (prevHash : Option Bytes) :
    Receives (unsealChunkBody cipher sha384 baseId frame prevHash) s := by
  constructor <;>
  · unfold unsealChunkBody
    dsimp only
    repeat' split
    all_goals rfl

end Effects

end OpenHttpa.Wasm
