import OpenHttpa.Core.Handshake
import OpenHttpa.Core.SessionCalls
import OpenHttpa.Server.Registry

/-!
# The server of the C binding

`openhttpa_server_handshake`, `openhttpa_server_decrypt` and `openhttpa_server_encrypt` of
`bindings/c/src/lib.rs`. A context keeps a registry of sessions and the provider of its quotes; its
executor is always the one that `openhttpa_ctx_new` builds. A null pointer is shown as nothing, a panic
as no result at all. The handshake answers with four fields of its outcome; the random and the
encapsulation key of the server, which go into the transcript, are not among them.
-/
namespace OpenHttpa.Bindings

open OpenHttpa.Core Crypto Headers Proto Server

/-- `OpenHttpaCtx`; the registry holds handles of session objects. -/
structure OpenHttpaCtx where
  registry : AtbRegistry
  sessions : List AttestSession
  tee : TeeProvider

def ctxExecutor : AtHsExecutor := .withAll [] [] true false none none

def handshakeBodyFields : List (String × JsonType) :=
  [("client_random", .string), ("client_challenge", .string), ("ecdhe_public", .string),
   ("mlkem_public", .string)]

/-- A field of the body; text that is not hexadecimal counts as empty. -/
def bodyBytes (body : JsonObject) (name : String) : Bytes := (hexDecode (body.string name)).getD []

/-- The request that `openhttpa_server_handshake` runs. -/
def handshakeRequest (body : JsonObject) : Option AtHsRequest :=
  match body.check handshakeBodyFields with
  | .error _ => none
  | .ok () =>
    match Octets.ofBytes? 32 (bodyBytes body "client_random"),
        Octets.ofBytes? 48 (bodyBytes body "client_challenge") with
    | some clientRandom, some clientChallenge => some {
        clientSuites := [.X25519MlKem768Aes256GcmSha384]
        clientVersions := [.V2]
        clientRandom
        clientChallenge
        clientShare :=
          ⟨bodyBytes body "ecdhe_public", bodyBytes body "mlkem_public", some .MlDsa65⟩
        clientQuotes := []
        atbTtlSecs := 3600 }
    | _, _ => none

def ctxSession (out : ServerOutcome) : AttestSession :=
  .new out.result.atbId out.suite out.version out.result.sessionKeys out.result.expiresAt .default
    out.result.clientAttestationResult

def ctxAnswer (uuid : UuidText) (out : ServerOutcome) : JsonObject :=
  [("base_id", .string (uuid.display out.result.atbId)),
   ("server_ecdhe_public", .string (hexEncode out.share.ecdhePublic)),
   ("mlkem_ciphertext", .string (hexEncode out.share.mlkemCiphertext)),
   ("transcript_hash", .string (hexEncode out.result.transcriptHash.bytes))]

namespace OpenHttpaCtx

variable {Secret Decap Coins Signer : Type}

def register (ctx : OpenHttpaCtx) (session : AttestSession) : Option OpenHttpaCtx :=
  match ctx.registry.insert session.id ctx.sessions.length with
  | .error _ => none
  | .ok registry => some { ctx with registry, sessions := ctx.sessions ++ [session] }

def openhttpaServerHandshake (prim : Primitives Secret Decap Coins Signer) (uuid : UuidText)
    (clock : Clock) (draws : ServerDraws Secret Decap Coins) (ctx : OpenHttpaCtx)
    (body : JsonObject) : Option (Option JsonObject × OpenHttpaCtx) :=
  match handshakeRequest body with
  | none => some (none, ctx)
  | some request =>
    match ctxExecutor.executeServer prim clock request (some ctx.tee) none none draws with
    | none => none
    | some (.error _) => some (none, ctx)
    | some (.ok out) =>
      match ctx.register (ctxSession out) with
      | none => some (none, ctx)
      | some registered => some (some (ctxAnswer uuid out), registered)

def alive (ctx : OpenHttpaCtx) (now handle : Nat) : Bool :=
  match ctx.sessions[handle]? with
  | none => false
  | some session => session.isAlive now

variable (cipher : Cipher)

/-- The closure of `openhttpa_server_decrypt`: the text of the identifier is the associated data, the
number gives the nonce. -/
def openPayload (idStr : String) (nonceVal : UInt64) (ciphertext : Bytes) (keys : SessionKeys)
    (_ : UInt64) : Except Unit Bytes :=
  match cipher.decrypt ⟨keys.clientWriteKey, .Aes256Gcm⟩ (counterNonce keys.clientWriteIv nonceVal)
      (sessionAad (utf8 idStr)) ciphertext with
  | none => .error ()
  | some plaintext => .ok plaintext

def openhttpaServerDecrypt (uuid : UuidText) (now : Nat) (ctx : OpenHttpaCtx) (atbIdStr : String)
    (nonceVal : UInt64) (ciphertextHex : String) : Option String × OpenHttpaCtx :=
  match uuid.fromStr atbIdStr, hexDecode ciphertextHex with
  | .error _, _ | .ok _, none => (none, ctx)
  | .ok id, some ciphertext =>
    match ctx.registry.get (ctx.alive now) id with
    | (none, registry) => (none, { ctx with registry })
    | (some handle, registry) =>
      match ctx.sessions[handle]? with
      | none => (none, { ctx with registry })
      | some session =>
        match session.withKeysForTrr now nonceVal (openPayload cipher atbIdStr nonceVal ciphertext) with
        | (.ok (.ok plaintext), left) =>
          (some (hexEncode plaintext), { ctx with registry, sessions := ctx.sessions.set handle left })
        | (_, left) => (none, { ctx with registry, sessions := ctx.sessions.set handle left })

/-- The closure of `openhttpa_server_encrypt`. -/
def sealPayload (idStr : String) (plaintext : Bytes) (keys : SessionKeys)
    (counter : UInt64) : Except Unit (Bytes × UInt64) :=
  match cipher.encrypt ⟨keys.serverWriteKey, .Aes256Gcm⟩ (counterNonce keys.serverWriteIv counter)
      (sessionAad (utf8 idStr)) plaintext with
  | none => .error ()
  | some ciphertext => .ok (ciphertext, counter)

def sealedAnswer : Except SessionError (Except Unit (Bytes × UInt64)) → Option JsonObject
  | .ok (.ok (ciphertext, counter)) =>
    some [("ciphertext", .string (hexEncode ciphertext)), ("nonce", .number counter.toNat)]
  | _ => none

def openhttpaServerEncrypt (uuid : UuidText) (now : Nat) (ctx : OpenHttpaCtx)
    (atbIdStr plaintextHex : String) : Option JsonObject × OpenHttpaCtx :=
  match uuid.fromStr atbIdStr, hexDecode plaintextHex with
  | .error _, _ | .ok _, none => (none, ctx)
  | .ok id, some plaintext =>
    match ctx.registry.get (ctx.alive now) id with
    | (none, registry) => (none, { ctx with registry })
    | (some handle, registry) =>
      match ctx.sessions[handle]? with
      | none => (none, { ctx with registry })
      | some session =>
        match session.withKeysForTrs now (sealPayload cipher atbIdStr plaintext) with
        | (result, left) =>
          (sealedAnswer result, { ctx with registry, sessions := ctx.sessions.set handle left })

theorem register_eq (ctx : OpenHttpaCtx) (session : AttestSession) :
    ctx.register session =
      if ctx.registry.liveCount < ctx.registry.maxSessions then
        some {
          registry := {
            sessions := (session.id, ctx.sessions.length) :: ctx.registry.remove session.id
            maxSessions := ctx.registry.maxSessions
            liveCount := ctx.registry.liveCount + 1 }
          sessions := ctx.sessions ++ [session]
          tee := ctx.tee }
      else none := by
  unfold register AtbRegistry.insert
  by_cases room : ctx.registry.liveCount < ctx.registry.maxSessions
  · simp only [if_pos room]
  · simp only [if_neg room]

structure Holds (ctx : OpenHttpaCtx) (id : AtbId) (handle : Nat) (session : AttestSession) : Prop where
  found : ctx.registry.sessions.lookup id = some handle
  stored : ctx.sessions[handle]? = some session

theorem register_holds {ctx registered : OpenHttpaCtx} {session : AttestSession}
    (inserted : ctx.register session = some registered) :
    registered.Holds session.id ctx.sessions.length session := by
  rw [register_eq] at inserted
  split at inserted
  · cases inserted
    exact ⟨by simp, by simp⟩
  · cases inserted

section Held

variable {cipher : Cipher} {uuid : UuidText} {now : Nat} {ctx : OpenHttpaCtx} {id : AtbId}
  {handle : Nat} {session : AttestSession}

theorem Holds.update (holds : ctx.Holds id handle session) (left : AttestSession) :
    { ctx with sessions := ctx.sessions.set handle left }.Holds id handle left := by
  have inside : handle < ctx.sessions.length := (List.getElem?_eq_some_iff.mp holds.stored).1
  exact ⟨holds.found, by simp [inside]⟩

theorem Holds.get (holds : ctx.Holds id handle session) (live : now < session.expiresAt) :
    ctx.registry.get (ctx.alive now) id = (some handle, ctx.registry) := by
  have breathes : ctx.alive now handle = true := by
    simp [alive, holds.stored, AttestSession.isAlive, live]
  simp only [AtbRegistry.get, holds.found, breathes, if_true]

variable (holds : ctx.Holds id handle session) (live : now < session.expiresAt)
include holds live

theorem openhttpaServerDecrypt_held {nonceVal : UInt64} {ciphertext plaintext : Bytes}
    (accepted : (session.withKeysForTrr now nonceVal
      (openPayload cipher (uuid.display id) nonceVal ciphertext)).1 = .ok (.ok plaintext)) :
    ∃ left, openhttpaServerDecrypt cipher uuid now ctx (uuid.display id) nonceVal
        (hexEncode ciphertext) = (some (hexEncode plaintext), left) ∧
      left.Holds id handle (session.withKeysForTrr now nonceVal
        (openPayload cipher (uuid.display id) nonceVal ciphertext)).2 := by
  generalize asked : session.withKeysForTrr now nonceVal
    (openPayload cipher (uuid.display id) nonceVal ciphertext) = returned at accepted ⊢
  obtain ⟨result, left⟩ := returned
  obtain rfl : result = .ok (.ok plaintext) := accepted
  refine ⟨_, ?_, holds.update left⟩
  simp only [openhttpaServerDecrypt, uuid.fromStr_display, hexDecode_hexEncode, holds.get live,
    holds.stored, asked]

variable (cipher uuid) in
theorem openhttpaServerEncrypt_held (plaintext : Bytes) :
    ∃ left, openhttpaServerEncrypt cipher uuid now ctx (uuid.display id) (hexEncode plaintext) =
        (sealedAnswer (session.withKeysForTrs now
          (sealPayload cipher (uuid.display id) plaintext)).1, left) ∧
      left.Holds id handle (session.withKeysForTrs now
        (sealPayload cipher (uuid.display id) plaintext)).2 := by
  refine ⟨_, ?_, holds.update _⟩
  simp only [openhttpaServerEncrypt, uuid.fromStr_display, hexDecode_hexEncode, holds.get live,
    holds.stored]

end Held

end OpenHttpaCtx

end OpenHttpa.Bindings
