import OpenHttpa.Core.Handshake
import OpenHttpa.Wasm.Session

/-!
# The handshake of the browser client

`openhttpa_initiate_attest` and `openhttpa_derive_session` of `bindings/wasm/src/lib.rs`, the browser's
own copy of the client's handshake. Both messages are JSON objects with hexadecimal fields; the suite
and the version are constants. The combiner, the key schedule and the transcript are each the native ones,
byte for byte, on the fields the browser has. Where the source calls `expect`, the model returns
nothing.
-/
namespace OpenHttpa.Wasm

open OpenHttpa.Core Crypto Proto

structure Libraries (Secret Decap : Type) where
  sha384 : Bytes → Octets 48
  hkdf256 : Hkdf 32
  hkdf384 : Hkdf 48
  diffieHellman : Secret → Octets 32 → Octets 32
  decapsulate : Decap → Octets 1088 → Octets 32
  hexDecode : String → Option Bytes
  hexEncode : Bytes → String

structure ClientState (Secret Decap : Type) where
  clientRandom : Octets 32
  clientChallenge : Octets 48
  ecdheSecret : Secret
  ecdhePublicBytes : Octets 32
  dk : Decap
  ekBytes : Octets 1184

/-- `AttestResponse`; the suite and the version it names are not read. -/
structure AttestResponse where
  baseId : Bytes
  serverEcdhePublic : String
  mlkemCiphertext : String
  serverRandom : String
  serverMlkemEk : String
  transcriptHash : String
  quotes : List String
  expiresIn : Nat

structure SessionProof where
  baseId : Bytes
  combinedHex : String
  clientWriteKeyHex : String
  transcriptHash : String
  quotes : List String
  expiresIn : Nat

section Derive

variable {Secret Decap : Type} (libs : Libraries Secret Decap)

def decodeHex (field text : String) : Except String Bytes :=
  match libs.hexDecode text with
  | none => .error ("invalid " ++ field ++ " hex")
  | some bytes => .ok bytes

def decodeHex32 (field text : String) : Except String (Octets 32) := do
  let bytes ← decodeHex libs field text
  match Octets.ofBytes? 32 bytes with
  | none => .error (field ++ " must be 32 bytes")
  | some octets => .ok octets

def keyFields (resp : AttestResponse) : Except String (Octets 32 × Bytes × Octets 1088) := do
  let serverEcdhePub ← decodeHex32 libs "server_ecdhe_public" resp.serverEcdhePublic
  let ctBytes ← decodeHex libs "mlkem_ciphertext" resp.mlkemCiphertext
  let transcriptBytes ← decodeHex libs "transcript_hash" resp.transcriptHash
  match Octets.ofBytes? 1088 ctBytes with
  | none => .error "mlkem_ciphertext has wrong length (expected 1088 bytes)"
  | some ct => .ok (serverEcdhePub, transcriptBytes, ct)

def serverFields (resp : AttestResponse) : Except String (Octets 32 × Bytes) := do
  let serverRandom ← decodeHex32 libs "server_random" resp.serverRandom
  let serverMlkemEk ← decodeHex libs "server_mlkem_ek" resp.serverMlkemEk
  return (serverRandom, serverMlkemEk)

def browserTranscriptInput (state : ClientState Secret Decap) (serverEcdhePub : Octets 32)
    (ct : Octets 1088) (serverRandom : Octets 32) (serverMlkemEk : Bytes) : Bytes :=
  lengthed state.clientRandom.bytes ++ lengthed state.clientChallenge.bytes ++
    lengthed state.ecdhePublicBytes.bytes ++ lengthed state.ekBytes.bytes ++
    lengthed serverRandom.bytes ++ lengthed serverEcdhePub.bytes ++ lengthed ct.bytes ++
    lengthed serverMlkemEk ++ beBytes 2 1 ++ [0x02]

def transcriptMismatch (calculated : Octets 48) (received : String) : String :=
  "handshake transcript mismatch! potential MITM or server error.\nExpected: " ++
    libs.hexEncode calculated.bytes ++ "\nReceived: " ++ received

/-- The result of `openhttpa_derive_session`, and the pending client and the session it leaves. -/
abbrev Derived (Secret Decap : Type) :=
  Except String SessionProof × Option (ClientState Secret Decap) × Option SessionState

/-- The end of `openhttpa_derive_session`: the transcript check and what follows it. -/
def finishSession (resp : AttestResponse) (session : Option SessionState) (combined : Octets 32)
    (calculated : Octets 48) (transcriptBytes : Bytes) : Option (Derived Secret Decap) :=
  if calculated.bytes ≠ transcriptBytes then
    some (.error (transcriptMismatch libs calculated resp.transcriptHash), none, session)
  else
    match deriveSessionKeys libs.hkdf384 combined transcriptBytes with
    | none => none
    | some keys =>
      some (.ok {
        baseId := resp.baseId
        combinedHex := libs.hexEncode (combined.bytes.take 16)
        clientWriteKeyHex := libs.hexEncode (keys.clientWriteKey.bytes.take 8)
        transcriptHash := resp.transcriptHash
        quotes := resp.quotes
        expiresIn := resp.expiresIn }, none, some (.established resp.baseId keys))

/-- `openhttpa_derive_session` on the parsed answer, the pending client and the stored session. -/
def openhttpaDeriveSession (parsed : Except String AttestResponse)
    (client : Option (ClientState Secret Decap)) (session : Option SessionState) :
    Option (Derived Secret Decap) :=
  match parsed, client with
  | .error reason, _ => some (.error ("parse error: " ++ reason), client, session)
  | .ok _, none =>
    some (.error "no pending attest — call openhttpa_initiate_attest first", none, session)
  | .ok resp, some state =>
    match keyFields libs resp with
    | .error reason => some (.error reason, none, session)
    | .ok (serverEcdhePub, transcriptBytes, ct) =>
      match combine libs.hkdf256 (libs.diffieHellman state.ecdheSecret serverEcdhePub).bytes
          (libs.decapsulate state.dk ct).bytes state.ecdhePublicBytes.bytes serverEcdhePub.bytes
          state.ekBytes.bytes ct.bytes with
      | none => none
      | some combined =>
        match serverFields libs resp with
        | .error reason => some (.error reason, none, session)
        | .ok (serverRandom, serverMlkemEk) =>
          finishSession libs resp session combined (libs.sha384
            (browserTranscriptInput state serverEcdhePub ct serverRandom serverMlkemEk))
            transcriptBytes

def ClientState.request (state : ClientState Secret Decap) : AtHsRequest where
  clientSuites := [.X25519MlKem768Aes256GcmSha384]
  clientVersions := [.V2]
  clientRandom := state.clientRandom
  clientChallenge := state.clientChallenge
  clientShare := ⟨state.ecdhePublicBytes.bytes, state.ekBytes.bytes, none⟩
  clientQuotes := []
  atbTtlSecs := 0

end Derive

def SessionKeys.ofNative (keys : Crypto.SessionKeys) : SessionKeys where
  masterSecret := keys.masterSecret
  clientWriteKey := keys.clientWriteKey
  serverWriteKey := keys.serverWriteKey
  clientWriteIv := keys.clientWriteIv
  serverWriteIv := keys.serverWriteIv
  clientMacKey := keys.clientMacKey
  serverMacKey := keys.serverMacKey

theorem combine_eq_native (hkdf : Hkdf 32) (ecdhe mlkem ecdhePkClient ecdhePkServer mlkemEkClient
    mlkemCt : Bytes) :
    HybridSharedSecret.combine hkdf ecdhe mlkem ecdhePkClient ecdhePkServer mlkemEkClient mlkemCt =
      (combine hkdf ecdhe mlkem ecdhePkClient ecdhePkServer mlkemEkClient mlkemCt).map .ok := by
  have room : 32 ≤ 255 * 32 := by omega
  -- Thirty-two bytes can always be expanded, so the native error is never returned.
  have expands : ∀ ikm : Bytes,
      (match hkdf.expand (hkdf.extract (some (Octets.zero 32).bytes) ikm) (utf8 "combined") 32 with
        | none => some (.error .Agreement)
        | some out => some (.ok out) : Option (Except KeyExchangeError (Octets 32))) =
      (hkdf.expand (hkdf.extract (some (Octets.zero 32).bytes) ikm) (utf8 "combined") 32).map .ok := by
    intro ikm
    obtain ⟨out, expanded⟩ := Option.isSome_iff_exists.mp (hkdf.expand_isSome
      (hkdf.extract (some (Octets.zero 32).bytes) ikm) (utf8 "combined") 32 room)
    simp only [expanded, Option.map_some]
  have same : HybridSharedSecret.encodeLengthed = encodeLengthed := rfl
  simp only [HybridSharedSecret.combine, combine, same, Option.bind_eq_bind, Option.map_bind,
    Function.comp_def]
  iterate 5
    apply Option.bind_congr
    intro ikm _
  exact expands ikm

theorem deriveSessionKeys_eq_native (hkdf : Hkdf 48) (combined : Octets 32)
    (transcriptHash : Octets 48) :
    ∃ keys, Crypto.SessionKeys.derive hkdf combined.bytes transcriptHash = .ok keys ∧
      deriveSessionKeys hkdf combined transcriptHash.bytes = some (.ofNative keys) := by
  obtain ⟨keys, derived, _, master, _, clientKey, serverKey, clientIv, serverIv, clientMac,
    serverMac⟩ := Crypto.SessionKeys.expandSlots_ok hkdf
      (HkdfExpander.extractSha384 hkdf (Octets.zero 48).bytes combined.bytes)
      (Crypto.SessionKeys.makeInfo (utf8 "openhttpa_v2") transcriptHash.bytes) transcriptHash
  refine ⟨keys, derived, ?_⟩
  have salted : (HkdfExpander.extractSha384 hkdf (Octets.zero 48).bytes combined.bytes).prk =
      hkdf.extract (some (Octets.zero 48).bytes) combined.bytes := rfl
  simp only [salted, Crypto.SessionKeys.makeInfo] at *
  simp only [deriveSessionKeys, expandLabel, master, clientKey, serverKey, clientIv, serverIv,
    clientMac, serverMac, Option.bind_eq_bind, Option.bind_some]
  rfl

section Check

variable {Secret Decap : Type} {libs : Libraries Secret Decap}

theorem combine_isSome (hkdf : Hkdf 32) (ecdhe mlkem : Bytes) (pkClient pkServer : Octets 32)
    (ek : Octets 1184) (ct : Octets 1088) :
    ∃ combined, combine hkdf ecdhe mlkem pkClient.bytes pkServer.bytes ek.bytes ct.bytes =
      some combined := by
  have client := pkClient.length_eq
  have server := pkServer.length_eq
  have encap := ek.length_eq
  have cipher := ct.length_eq
  obtain ⟨out, combined⟩ := HybridSharedSecret.combine_ok hkdf ecdhe mlkem
    (show pkClient.bytes.length < 2 ^ 16 by omega) (show pkServer.bytes.length < 2 ^ 16 by omega)
    (show ek.bytes.length < 2 ^ 16 by omega) (show ct.bytes.length < 2 ^ 16 by omega)
  rw [combine_eq_native] at combined
  obtain ⟨found, some, _⟩ := Option.map_eq_some_iff.mp combined
  exact ⟨found, some⟩

variable {resp : AttestResponse} {state : ClientState Secret Decap} {serverEcdhePub : Octets 32}
  {transcriptBytes : Bytes} {ct : Octets 1088} {serverRandom : Octets 32} {serverMlkemEk : Bytes}
  (keys : keyFields libs resp = .ok (serverEcdhePub, transcriptBytes, ct))
  (server : serverFields libs resp = .ok (serverRandom, serverMlkemEk)) (session : Option SessionState)
include keys server

theorem deriveSession_matching
    (same : transcriptBytes = (computeTranscriptHash libs.sha384 state.request
      .X25519MlKem768Aes256GcmSha384 .V2 serverRandom ⟨serverEcdhePub.bytes, serverMlkemEk⟩
      ct.bytes).bytes) :
    ∃ combined native proof,
      combine libs.hkdf256 (libs.diffieHellman state.ecdheSecret serverEcdhePub).bytes
          (libs.decapsulate state.dk ct).bytes state.ecdhePublicBytes.bytes serverEcdhePub.bytes
          state.ekBytes.bytes ct.bytes = some combined ∧
      Crypto.SessionKeys.derive libs.hkdf384 combined.bytes (computeTranscriptHash libs.sha384
        state.request .X25519MlKem768Aes256GcmSha384 .V2 serverRandom
        ⟨serverEcdhePub.bytes, serverMlkemEk⟩ ct.bytes) = .ok native ∧
      openhttpaDeriveSession libs (.ok resp) (some state) session =
        some (.ok proof, none, some (.established resp.baseId (.ofNative native))) := by
  obtain ⟨combined, combines⟩ := combine_isSome libs.hkdf256
    (libs.diffieHellman state.ecdheSecret serverEcdhePub).bytes (libs.decapsulate state.dk ct).bytes
    state.ecdhePublicBytes serverEcdhePub state.ekBytes ct
  obtain ⟨native, derives, derived⟩ := deriveSessionKeys_eq_native libs.hkdf384 combined
    (computeTranscriptHash libs.sha384 state.request .X25519MlKem768Aes256GcmSha384 .V2
      serverRandom ⟨serverEcdhePub.bytes, serverMlkemEk⟩ ct.bytes)
  have hashed : (libs.sha384 (browserTranscriptInput state serverEcdhePub ct serverRandom
      serverMlkemEk)).bytes = transcriptBytes := same.symm
  have finished : ∃ proof, openhttpaDeriveSession libs (.ok resp) (some state) session =
      some (.ok proof, none, some (.established resp.baseId (.ofNative native))) := by
    simp only [openhttpaDeriveSession, keys, combines, server]
    rw [finishSession, if_neg (not_not.mpr hashed), same, derived]
    exact ⟨_, rfl⟩
  obtain ⟨proof, stores⟩ := finished
  exact ⟨combined, native, proof, combines, derives, stores⟩

theorem deriveSession_ok_iff :
    (∃ proof stored, openhttpaDeriveSession libs (.ok resp) (some state) session =
      some (.ok proof, none, some stored)) ↔
    transcriptBytes = (computeTranscriptHash libs.sha384 state.request
      .X25519MlKem768Aes256GcmSha384 .V2 serverRandom ⟨serverEcdhePub.bytes, serverMlkemEk⟩
      ct.bytes).bytes := by
  constructor
  · rintro ⟨proof, stored, returned⟩
    obtain ⟨combined, combines⟩ := combine_isSome libs.hkdf256
      (libs.diffieHellman state.ecdheSecret serverEcdhePub).bytes (libs.decapsulate state.dk ct).bytes
      state.ecdhePublicBytes serverEcdhePub state.ekBytes ct
    simp only [openhttpaDeriveSession, keys, combines, server, finishSession] at returned
    by_contra other
    have differs : (libs.sha384 (browserTranscriptInput state serverEcdhePub ct serverRandom
        serverMlkemEk)).bytes ≠ transcriptBytes := fun equal => other equal.symm
    rw [if_pos differs] at returned
    cases returned
  · intro same
    obtain ⟨_, native, proof, _, _, stores⟩ := deriveSession_matching keys server session same
    exact ⟨proof, _, stores⟩

end Check

/-- The browser port agrees with the native code: in the combined secret, in every key it has, and in
which transcripts it accepts. -/
theorem browser_agrees_with_native {Secret Decap : Type} (libs : Libraries Secret Decap) :
    (∀ ecdhe mlkem ecdhePkClient ecdhePkServer mlkemEkClient mlkemCt : Bytes,
      HybridSharedSecret.combine libs.hkdf256 ecdhe mlkem ecdhePkClient ecdhePkServer mlkemEkClient
          mlkemCt =
        (combine libs.hkdf256 ecdhe mlkem ecdhePkClient ecdhePkServer mlkemEkClient mlkemCt).map
          .ok) ∧
    (∀ (combined : Octets 32) (transcriptHash : Octets 48), ∃ keys,
      Crypto.SessionKeys.derive libs.hkdf384 combined.bytes transcriptHash = .ok keys ∧
      deriveSessionKeys libs.hkdf384 combined transcriptHash.bytes = some (.ofNative keys)) ∧
    (∀ (resp : AttestResponse) (state : ClientState Secret Decap) (serverEcdhePub : Octets 32)
        (transcriptBytes : Bytes) (ct : Octets 1088) (serverRandom : Octets 32)
        (serverMlkemEk : Bytes) (session : Option SessionState),
      keyFields libs resp = .ok (serverEcdhePub, transcriptBytes, ct) →
      serverFields libs resp = .ok (serverRandom, serverMlkemEk) →
      ((∃ proof stored, openhttpaDeriveSession libs (.ok resp) (some state) session =
          some (.ok proof, none, some stored)) ↔
        transcriptBytes = (computeTranscriptHash libs.sha384 state.request
          .X25519MlKem768Aes256GcmSha384 .V2 serverRandom ⟨serverEcdhePub.bytes, serverMlkemEk⟩
          ct.bytes).bytes)) := by
  refine ⟨combine_eq_native libs.hkdf256, deriveSessionKeys_eq_native libs.hkdf384, ?_⟩
  intro resp state serverEcdhePub transcriptBytes ct serverRandom serverMlkemEk session keys server
  exact deriveSession_ok_iff keys server session

/-- The libraries with the key generation of `openhttpa_initiate_attest`. -/
structure Browser (Secret Decap : Type) extends Libraries Secret Decap where
  publicKey : Secret → Octets 32
  encapsulationKey : Decap → Octets 1184

structure BrowserDraws (Secret Decap : Type) where
  clientRandom : Octets 32
  clientChallenge : Octets 48
  pair : HybridKemPair Secret Decap

section Messages

variable {Secret Decap : Type}

/-- The pending client that `openhttpa_initiate_attest` stores. -/
def Browser.clientState (browser : Browser Secret Decap) (draws : BrowserDraws Secret Decap) :
    ClientState Secret Decap where
  clientRandom := draws.clientRandom
  clientChallenge := draws.clientChallenge
  ecdheSecret := draws.pair.ecdhe
  ecdhePublicBytes := browser.publicKey draws.pair.ecdhe
  dk := draws.pair.mlkem
  ekBytes := browser.encapsulationKey draws.pair.mlkem

/-- `openhttpa_initiate_attest`: the `InitiateResult` of the pending client it stores. -/
def openhttpaInitiateAttest (browser : Browser Secret Decap) (draws : BrowserDraws Secret Decap) :
    JsonObject :=
  let state := browser.clientState draws
  [("client_random", .string (browser.hexEncode state.clientRandom.bytes)),
   ("client_challenge", .string (browser.hexEncode state.clientChallenge.bytes)),
   ("ecdhe_public", .string (browser.hexEncode state.ecdhePublicBytes.bytes)),
   ("mlkem_public", .string (browser.hexEncode state.ekBytes.bytes))]

/-- The fields of `AttestResponse`; none has a default. -/
def attestResponseFields : List (String × JsonType) :=
  [("base_id", .string), ("server_ecdhe_public", .string), ("mlkem_ciphertext", .string),
   ("server_random", .string), ("server_mlkem_ek", .string), ("transcript_hash", .string),
   ("quotes", .strings), ("expires_in", .number), ("cipher_suite", .string), ("version", .string)]

/-- `serde_json::from_str` for `AttestResponse`; `reason` is the text of its error. -/
def AttestResponse.fromJson (reason : JsonError → String) (object : JsonObject) :
    Except String AttestResponse :=
  match object.check attestResponseFields with
  | .error failure => .error (reason failure)
  | .ok () => .ok {
      baseId := utf8 (object.string "base_id")
      serverEcdhePublic := object.string "server_ecdhe_public"
      mlkemCiphertext := object.string "mlkem_ciphertext"
      serverRandom := object.string "server_random"
      serverMlkemEk := object.string "server_mlkem_ek"
      transcriptHash := object.string "transcript_hash"
      quotes := object.strings "quotes"
      expiresIn := object.number "expires_in" }

end Messages

/-- Libraries that hash and expand to zeros; a text stands for as many zero bytes as it names. -/
def Libraries.zero : Libraries Unit Unit where
  sha384 _ := .zero 48
  hkdf256 := .zero 32
  hkdf384 := .zero 48
  diffieHellman _ _ := .zero 32
  decapsulate _ _ := .zero 32
  hexDecode text :=
    if text = "32" then some (Octets.zero 32).bytes
    else if text = "48" then some (Octets.zero 48).bytes
    else if text = "1088" then some (Octets.zero 1088).bytes
    else none
  hexEncode _ := ""

theorem matching_answer_accepted :
    ∃ proof stored, openhttpaDeriveSession Libraries.zero
      (.ok ⟨[], "32", "1088", "32", "32", "48", [], 60⟩)
      (some ⟨.zero 32, .zero 48, (), .zero 32, (), .zero 1184⟩) none =
        some (.ok proof, none, some stored) := by
  have keys : keyFields Libraries.zero ⟨[], "32", "1088", "32", "32", "48", [], 60⟩ =
      .ok (.zero 32, (Octets.zero 48).bytes, .zero 1088) := by
    simp [keyFields, decodeHex32, decodeHex, Libraries.zero, bind, Except.bind]
  have server : serverFields Libraries.zero ⟨[], "32", "1088", "32", "32", "48", [], 60⟩ =
      .ok (.zero 32, (Octets.zero 32).bytes) := by
    simp [serverFields, decodeHex32, decodeHex, Libraries.zero, bind, Except.bind]
    rfl
  exact ((browser_agrees_with_native Libraries.zero).2.2 _ _ _ _ _ _ _ _ keys server).mpr rfl

end OpenHttpa.Wasm
