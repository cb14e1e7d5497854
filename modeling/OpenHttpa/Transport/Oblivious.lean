import OpenHttpa.Crypto.KeyExchange
import OpenHttpa.Lib.Assoc

/-!
# Oblivious transport

`openhttpa-transport/src/oblivious.rs`, with the body limit of `connection.rs`. The client writes a KEM
ciphertext behind its length and the encrypted body behind both; the server reads the message back at
offsets that it takes from the message. A slice or an index out of range is a panic, shown as nothing.
ML-KEM, HKDF and AES-GCM are parameters with the laws of correct ones, and what is drawn is an input.
-/
namespace OpenHttpa.Transport

open Crypto

inductive SendError where
  | Connection (message : String)
  | Io (message : String)
  | Cancelled
  | Protocol (message : String)

/-- `TransportBody`, as the frames that arrive. -/
abbrev TransportBody := List (Except String Bytes)

def fullBody (chunk : Bytes) : TransportBody := [.ok chunk]

def toBytes (limit : Nat) : TransportBody → Except String Bytes
  | [] => .ok []
  | .error reason :: _ => .error reason
  | .ok chunk :: rest =>
    if chunk.length ≤ limit then (toBytes (limit - chunk.length) rest).map (chunk ++ ·)
    else .error "length limit exceeded"

theorem toBytes_chunks (limit : Nat) (chunks : List Bytes) :
    toBytes limit (chunks.map .ok) =
      if chunks.flatten.length ≤ limit then .ok chunks.flatten else .error "length limit exceeded" := by
  induction chunks generalizing limit with
  | nil => rfl
  | cons chunk chunks ih =>
    rw [List.map_cons, toBytes, ih, List.flatten_cons, List.length_append]
    by_cases first : chunk.length ≤ limit
    · rw [if_pos first]
      by_cases all : chunk.length + chunks.flatten.length ≤ limit
      · rw [if_pos all, if_pos (by omega), Except.map]
      · rw [if_neg all, if_neg (by omega), Except.map]
    · rw [if_neg first, if_neg (by omega)]

structure TransportRequest where
  method : String
  uri : String
  headers : List (String × String)
  body : TransportBody
  trailers : Option (List (String × String))

structure TransportResponse where
  status : Nat
  headers : List (String × String)
  body : TransportBody
  trailers : Option (List (String × String))

inductive ObliviousError where
  | Kem (message : String)
  | Malformed
  | Crypto (message : String)

def ObliviousError.display : ObliviousError → String
  | Kem message => "KEM error: " ++ message
  | Malformed => "malformed oblivious message"
  | Crypto message => "crypto error: " ++ message

/-- AES-256-GCM without associated data. -/
structure AesGcm where
  encrypt : Octets 32 → AeadNonce → Bytes → Option Bytes
  decrypt : Octets 32 → AeadNonce → Bytes → Option Bytes
  /-- Up to the longest plaintext it takes, the cipher appends a tag and opens what it sealed. -/
  inverse : ∀ key nonce plaintext, plaintext.length ≤ 2 ^ 36 →
    ∃ ciphertext, encrypt key nonce plaintext = some ciphertext ∧
      ciphertext.length = plaintext.length + 16 ∧ decrypt key nonce ciphertext = some plaintext

structure Libraries (Decap Coins : Type) where
  aes : AesGcm
  hkdf : Hkdf 32
  kem : MlKem Decap Coins
  /-- `Debug` of a string. -/
  debug : String → String

structure Draws (Coins : Type) where
  /-- `MlKemPair::generate`; only its context is used. -/
  generated : Except String Unit
  coins : Coins
  nonce : AeadNonce

/-- `ObliviousClient`, whose transport is an argument of `send`. -/
structure ObliviousClient where
  serverPublicKey : Bytes
  keyId : UInt8

def bodyLimit : Nat := 100 * 1024 * 1024

section Calls

variable {Decap Coins : Type} (lib : Libraries Decap Coins)

/-- `derive_session_keys`: the keys of the request and of the response. -/
def deriveSessionKeys (sharedSecret : Bytes) : Except ObliviousError (Octets 32 × Octets 32) :=
  let prk := lib.hkdf.extract (some (utf8 "openhttpa-oblivious")) sharedSecret
  match lib.hkdf.expand prk (utf8 "req") 32, lib.hkdf.expand prk (utf8 "resp") 32 with
  | none, _ => .error (.Crypto "HKDF expand(req) failed")
  | some _, none => .error (.Crypto "HKDF expand(resp) failed")
  | some reqKey, some respKey => .ok (reqKey, respKey)

variable (key : Octets 32)

def aesEncrypt (nonce : AeadNonce) (plaintext : Bytes) : Except ObliviousError Bytes :=
  match lib.aes.encrypt key nonce plaintext with
  | none => .error (.Crypto "AES-256-GCM encrypt failed: Error")
  | some ciphertext => .ok (nonce.bytes ++ ciphertext)

def aesDecrypt (nonceAndCt : Bytes) : Option (Except ObliviousError Bytes) :=
  if nonceAndCt.length < 12 then some (.error .Malformed)
  else do
    -- `Nonce::from_slice` asserts the length.
    let nonce ← (slice? nonceAndCt 0 12).bind (Octets.ofBytes? 12)
    let ciphertext ← slice? nonceAndCt 12 nonceAndCt.length
    match lib.aes.decrypt key nonce ciphertext with
    | none => some (.error (.Crypto "AES-256-GCM decrypt failed: Error"))
    | some plaintext => some (.ok plaintext)

/-- The body `send` writes; the length of 1088 bytes fits into two, so its `expect` holds. -/
def frame (keyId : UInt8) (kemCiphertext : Octets 1088) (encPayload : Bytes) : Bytes :=
  keyId :: (beBytes 2 kemCiphertext.bytes.length ++ kemCiphertext.bytes ++ encPayload)

/-- `send` up to the request of the inner transport, with the key of the response. -/
def ObliviousClient.request (client : ObliviousClient) (draws : Draws Coins) (req : TransportRequest) :
    Except SendError (TransportRequest × Octets 32) := do
  let _ ← draws.generated.mapError fun reason =>
    .Connection ("ML-KEM keygen failed: KemKeyGen(" ++ lib.debug reason ++ ")")
  let (sharedSecret, kemCiphertext) ←
    (lib.kem.encapsulate draws.coins client.serverPublicKey).mapError fun reason =>
      .Connection ("ML-KEM encap failed: KemEncap(" ++ lib.debug reason ++ ")")
  let (reqKey, respKey) ← (deriveSessionKeys lib sharedSecret.bytes).mapError fun failure =>
    .Connection failure.display
  let bodyBytes ← (toBytes bodyLimit req.body).mapError fun reason =>
    .Protocol ("body collect error: " ++ reason)
  let encPayload ← (aesEncrypt lib reqKey draws.nonce bodyBytes).mapError fun failure =>
    .Connection failure.display
  return ({ req with
    headers := ("content-type", "message/oblivious-http") :: Assoc.without req.headers "content-type"
    body := fullBody (frame client.keyId kemCiphertext encPayload) }, respKey)

/-- `send` from the response of the inner transport on. -/
def response (respKey : Octets 32) (resp : TransportResponse) :
    Option (Except SendError TransportResponse) :=
  match toBytes bodyLimit resp.body with
  | .error reason => some (.error (.Protocol ("resp body collect error: " ++ reason)))
  | .ok respBody => (aesDecrypt lib respKey respBody).map fun
    | .error failure => .error (.Connection failure.display)
    | .ok plaintext => .ok { resp with body := fullBody plaintext }

def ObliviousClient.send (client : ObliviousClient)
    (inner : TransportRequest → Except SendError TransportResponse) (draws : Draws Coins)
    (req : TransportRequest) : Option (Except SendError TransportResponse) :=
  match client.request lib draws req with
  | .error failure => some (.error failure)
  | .ok (sent, respKey) =>
    match inner sent with
    | .error failure => some (.error failure)
    | .ok resp => response lib respKey resp

def decapsulate (serverKeypair : Decap) (encBody : Bytes) :
    Option (Except ObliviousError (Bytes × Octets 32)) :=
  if encBody.length < 3 then some (.error .Malformed)
  else do
    let _keyId ← encBody[0]?
    let high ← encBody[1]?
    let low ← encBody[2]?
    let headerEnd := 3 + ofBe [high, low]
    if encBody.length < headerEnd + 12 then some (.error .Malformed)
    else
      let kemCt ← slice? encBody 3 headerEnd
      let nonceAndAesCt ← slice? encBody headerEnd encBody.length
      match lib.kem.decapsulate serverKeypair kemCt with
      | .error reason => some (.error (.Kem ("KemDecap(" ++ lib.debug reason ++ ")")))
      | .ok sharedSecret =>
        match deriveSessionKeys lib sharedSecret.bytes with
        | .error failure => some (.error failure)
        | .ok (reqKey, respKey) => (aesDecrypt lib reqKey nonceAndAesCt).map (·.map (·, respKey))

def encapsulateResponse (respKey : Octets 32) (nonce : AeadNonce) (body : Bytes) :
    Except ObliviousError Bytes :=
  aesEncrypt lib respKey nonce body

theorem deriveSessionKeys_ok (sharedSecret : Bytes) :
    ∃ keys, deriveSessionKeys lib sharedSecret = .ok keys := by
  have expands (info : Bytes) := Option.isSome_iff_exists.mp (lib.hkdf.expand_isSome
    (lib.hkdf.extract (some (utf8 "openhttpa-oblivious")) sharedSecret) info 32 (by omega))
  obtain ⟨reqKey, request⟩ := expands (utf8 "req")
  obtain ⟨respKey, response⟩ := expands (utf8 "resp")
  exact ⟨(reqKey, respKey), by simp only [deriveSessionKeys, request, response]⟩

theorem aesDecrypt_returns (data : Bytes) : ∃ result, aesDecrypt lib key data = some result := by
  unfold aesDecrypt
  by_cases short : data.length < 12
  · exact ⟨_, if_pos short⟩
  · obtain ⟨nonceBytes, front, twelve⟩ := slice?_within data (Nat.zero_le 12) (Nat.le_of_not_lt short)
    obtain ⟨ciphertext, back, -⟩ := slice?_within data (Nat.le_of_not_lt short) (Nat.le_refl _)
    have nonce : Octets.ofBytes? 12 nonceBytes = some ⟨nonceBytes, twelve⟩ :=
      Octets.ofBytes?_bytes ⟨nonceBytes, twelve⟩
    simp only [if_neg short, front, back, nonce, Option.bind_eq_bind, Option.bind_some]
    split <;> exact ⟨_, rfl⟩

theorem decapsulate_returns (serverKeypair : Decap) (encBody : Bytes) :
    ∃ result, decapsulate lib serverKeypair encBody = some result := by
  match encBody with
  | [] | [_] | [_, _] => exact ⟨_, rfl⟩
  | keyId :: high :: low :: rest =>
    rw [decapsulate, if_neg (by simp)]
    simp only [List.getElem?_cons_zero, List.getElem?_cons_succ, Option.bind_eq_bind, Option.bind_some]
    split
    · exact ⟨_, rfl⟩
    · rename_i long
      have inside : 3 + ofBe [high, low] ≤ (keyId :: high :: low :: rest).length := by omega
      obtain ⟨kemCt, ciphertext, -⟩ := slice?_within _ (Nat.le_add_right 3 _) inside
      obtain ⟨payload, behind, -⟩ := slice?_within _ inside (Nat.le_refl _)
      rw [ciphertext, behind, Option.bind_some, Option.bind_some]
      split
      · exact ⟨_, rfl⟩
      · split
        · exact ⟨_, rfl⟩
        · rename_i reqKey respKey _
          obtain ⟨result, opened⟩ := aesDecrypt_returns lib reqKey payload
          rw [opened]
          exact ⟨_, rfl⟩

theorem aesEncrypt_ok (nonce : AeadNonce) {plaintext : Bytes} (small : plaintext.length ≤ 2 ^ 36) :
    ∃ out, aesEncrypt lib key nonce plaintext = .ok out ∧ out.length = plaintext.length + 28 ∧
      aesDecrypt lib key out = some (.ok plaintext) := by
  obtain ⟨ciphertext, encrypted, length, decrypted⟩ := lib.aes.inverse key nonce plaintext small
  have twelve := nonce.length_eq
  have long : ¬ (nonce.bytes ++ ciphertext).length < 12 := by
    rw [List.length_append]
    omega
  have front := slice?_append [] nonce.bytes ciphertext
  have back := slice?_append_end nonce.bytes ciphertext
  simp only [List.nil_append, List.length_nil, Nat.zero_add, twelve] at front back
  refine ⟨nonce.bytes ++ ciphertext, ?_, ?_, ?_⟩
  · rw [aesEncrypt, encrypted]
  · rw [List.length_append]
    omega
  · simp only [aesDecrypt, if_neg long, front, back, Octets.ofBytes?_bytes, Option.bind_eq_bind,
      Option.bind_some, decrypted]

variable {lib} in
theorem decapsulate_frame {server : Decap} {kemCiphertext : Octets 1088}
    {sharedSecret reqKey respKey : Octets 32} {payload body : Bytes} (keyId : UInt8)
    (decapsulated : lib.kem.decapsulate server kemCiphertext.bytes = .ok sharedSecret)
    (derived : deriveSessionKeys lib sharedSecret.bytes = .ok (reqKey, respKey))
    (opened : aesDecrypt lib reqKey payload = some (.ok body)) (long : 12 ≤ payload.length) :
    decapsulate lib server (frame keyId kemCiphertext payload) = some (.ok (body, respKey)) := by
  -- The length 1088 is written as the bytes 4 and 64, so the offsets the server reads are the true ones.
  have length := kemCiphertext.length_eq
  have headerEnd : 3 + ofBe [4, 64] = [keyId, 4, 64].length + kemCiphertext.bytes.length := by
    rw [length]
    rfl
  have shape : frame keyId kemCiphertext payload =
      keyId :: 4 :: 64 :: (kemCiphertext.bytes ++ payload) := by
    rw [frame, length]
    rfl
  have ciphertext : slice? (keyId :: 4 :: 64 :: (kemCiphertext.bytes ++ payload)) 3
      (3 + ofBe [4, 64]) = some kemCiphertext.bytes := by
    rw [headerEnd]
    exact slice?_append [keyId, 4, 64] kemCiphertext.bytes payload
  have behind : slice? (keyId :: 4 :: 64 :: (kemCiphertext.bytes ++ payload)) (3 + ofBe [4, 64])
      (keyId :: 4 :: 64 :: (kemCiphertext.bytes ++ payload)).length = some payload := by
    rw [headerEnd, ← List.length_append]
    exact slice?_append_end ([keyId, 4, 64] ++ kemCiphertext.bytes) payload
  have within : ¬ (keyId :: 4 :: 64 :: (kemCiphertext.bytes ++ payload)).length <
      3 + ofBe [4, 64] + 12 := by
    rw [headerEnd]
    simp only [List.length_cons, List.length_append, List.length_nil]
    omega
  rw [shape, decapsulate, if_neg (by simp)]
  simp only [List.getElem?_cons_zero, List.getElem?_cons_succ, Option.bind_eq_bind, Option.bind_some,
    if_neg within, ciphertext, behind, decapsulated, derived, opened, Option.map_some]
  rfl

theorem decapsulate_request (server : Decap) (keyId : UInt8) {draws : Draws Coins}
    {req : TransportRequest} {chunks : List Bytes} (generated : draws.generated = .ok ())
    (arrives : req.body = chunks.map .ok) (small : chunks.flatten.length ≤ bodyLimit) :
    ∃ sent message respKey,
      ObliviousClient.request lib ⟨(lib.kem.encapKey server).bytes, keyId⟩ draws req =
        .ok (sent, respKey) ∧ sent.body = fullBody message ∧
      decapsulate lib server message = some (.ok (chunks.flatten, respKey)) := by
  obtain ⟨sharedSecret, kemCiphertext, encapsulated, decapsulated⟩ := lib.kem.correct draws.coins server
  obtain ⟨⟨reqKey, respKey⟩, derived⟩ := deriveSessionKeys_ok lib sharedSecret.bytes
  have plain : chunks.flatten.length ≤ 2 ^ 36 := Nat.le_trans small (by decide)
  obtain ⟨payload, encrypted, length, opened⟩ := aesEncrypt_ok lib reqKey draws.nonce plain
  have collected : toBytes bodyLimit req.body = .ok chunks.flatten := by
    rw [arrives, toBytes_chunks, if_pos small]
  refine ⟨{ req with
    headers := ("content-type", "message/oblivious-http") :: Assoc.without req.headers "content-type"
    body := fullBody (frame keyId kemCiphertext payload) }, frame keyId kemCiphertext payload,
      respKey, ?_,
    rfl, decapsulate_frame keyId decapsulated derived opened (by omega)⟩
  simp only [ObliviousClient.request, generated, encapsulated, derived, collected, encrypted,
    Except.mapError, bind, Except.bind]
  rfl

variable {lib} in
theorem response_eq {respKey : Octets 32} {sealed body : Bytes} {resp : TransportResponse}
    {frames : List Bytes} (length : sealed.length = body.length + 28)
    (opened : aesDecrypt lib respKey sealed = some (.ok body)) (arrives : resp.body = frames.map .ok)
    (whole : frames.flatten = sealed) :
    response lib respKey resp = if body.length + 28 ≤ bodyLimit
      then some (.ok { resp with body := fullBody body })
      else some (.error (.Protocol "resp body collect error: length limit exceeded")) := by
  have collected := toBytes_chunks bodyLimit frames
  rw [← arrives, whole, length] at collected
  rw [response, collected]
  by_cases fits : body.length + 28 ≤ bodyLimit
  · simp only [if_pos fits, opened, Option.map_some]
  · simp only [if_neg fits]
    rfl

end Calls

/-- A request comes back out of the message it is sent in, with a key for the response, and no message
makes the server read out of range. What is sealed under that key opens to the body, but the client's
limit is on the sealed response, which has 28 bytes more. -/
theorem oblivious_round_trip_iff {Decap Coins : Type} (lib : Libraries Decap Coins) :
    (∀ (server : Decap) (keyId : UInt8) (draws : Draws Coins) (req : TransportRequest)
        (chunks : List Bytes) (nonce : AeadNonce) (body : Bytes), draws.generated = .ok () →
        req.body = chunks.map .ok → chunks.flatten.length ≤ bodyLimit → body.length ≤ bodyLimit →
        ∃ sent message respKey sealed,
          ObliviousClient.request lib ⟨(lib.kem.encapKey server).bytes, keyId⟩ draws req =
            .ok (sent, respKey) ∧ sent.body = fullBody message ∧
          decapsulate lib server message = some (.ok (chunks.flatten, respKey)) ∧
          encapsulateResponse lib respKey nonce body = .ok sealed ∧
          aesDecrypt lib respKey sealed = some (.ok body) ∧
          ∀ inner resp (frames : List Bytes), inner sent = .ok resp → resp.body = frames.map .ok →
            frames.flatten = sealed →
            (ObliviousClient.send lib ⟨(lib.kem.encapKey server).bytes, keyId⟩ inner draws req =
              some (.ok { resp with body := fullBody body }) ↔ body.length + 28 ≤ bodyLimit)) ∧
      ∀ server encBody, ∃ result, decapsulate lib server encBody = some result := by
  refine ⟨?_, decapsulate_returns lib⟩
  intro server keyId draws req chunks nonce body generated arrives small bodySmall
  obtain ⟨sent, message, respKey, requested, written, read⟩ :=
    decapsulate_request lib server keyId generated arrives small
  have plain : body.length ≤ 2 ^ 36 := Nat.le_trans bodySmall (by decide)
  obtain ⟨sealed, encrypted, length, opened⟩ := aesEncrypt_ok lib respKey nonce plain
  refine ⟨sent, message, respKey, sealed, requested, written, read, encrypted, opened, ?_⟩
  intro inner resp frames answered framed whole
  rw [ObliviousClient.send, requested]
  simp only [answered, response_eq length opened framed whole]
  constructor
  · intro returned
    by_contra long
    rw [if_neg long] at returned
    cases returned
  · exact fun fits => if_pos fits

def AesGcm.zeroTag : AesGcm where
  encrypt _ _ plaintext := some (plaintext ++ List.replicate 16 0)
  decrypt _ _ ciphertext := some (ciphertext.take (ciphertext.length - 16))
  inverse _ _ plaintext _ := ⟨_, rfl, by simp, by simp⟩

def Libraries.zero : Libraries Unit Unit := ⟨.zeroTag, .zero 32, .zero, id⟩

def zeroDraws : Draws Unit := ⟨.ok (), (), .zero 12⟩

def zeroClient : ObliviousClient := ⟨(Libraries.zero.kem.encapKey ()).bytes, 7⟩

def oneByte : TransportRequest := ⟨"POST", "/", [], fullBody [1], none⟩

/-- A response of 100 MiB, which the server seals, is refused by the client. -/
theorem full_response_refused :
    ∃ sent message respKey sealed,
      zeroClient.request .zero zeroDraws oneByte = .ok (sent, respKey) ∧
        sent.body = fullBody message ∧
        decapsulate .zero () message = some (.ok ([1], respKey)) ∧
        encapsulateResponse .zero respKey (.zero 12) (List.replicate bodyLimit 0) = .ok sealed ∧
        zeroClient.send .zero (fun _ => .ok ⟨200, [], fullBody sealed, none⟩) zeroDraws oneByte =
          some (.error (.Protocol "resp body collect error: length limit exceeded")) := by
  have small : [[(1 : UInt8)]].flatten.length ≤ bodyLimit := by decide
  obtain ⟨sent, message, respKey, requested, written, read⟩ :=
    @decapsulate_request _ _ .zero () 7 zeroDraws oneByte [[1]] rfl rfl small
  have length : (List.replicate bodyLimit (0 : UInt8)).length = bodyLimit := List.length_replicate
  have plain : (List.replicate bodyLimit (0 : UInt8)).length ≤ 2 ^ 36 := by
    rw [length]
    decide
  obtain ⟨sealed, encrypted, sized, opened⟩ := aesEncrypt_ok .zero respKey (.zero 12) plain
  refine ⟨sent, message, respKey, sealed, requested, written, read, encrypted, ?_⟩
  have whole : [sealed].flatten = sealed := List.flatten_singleton
  have refused := @response_eq _ _ .zero _ _ _ ⟨200, [], fullBody sealed, none⟩ _ sized opened rfl whole
  rw [length, if_neg (by omega)] at refused
  rw [ObliviousClient.send, show zeroClient.request .zero zeroDraws oneByte = _ from requested]
  exact refused

end OpenHttpa.Transport
