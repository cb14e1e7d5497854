import OpenHttpa.Bindings.CServer
import OpenHttpa.Wasm.Derive

/-!
# The browser client against the server of the C binding

One handshake between `openhttpa_initiate_attest`, `openhttpa_server_handshake` and
`openhttpa_derive_session`, and the texts sealed afterwards. The server reads every request of the
browser and both sides combine one secret and hash one transcript, but the answer leaves out fields
that the browser requires, so it is refused. With the fields that the server of
`demo/multiparty-webapp` adds to its answer the same outcome is accepted, and each side opens what
the other seals (`complete_answer_converses`).
-/
namespace OpenHttpa.Channel

open Bindings OpenHttpa.Core Crypto Headers Proto Server Wasm

/-- The libraries of the browser compute what the native primitives compute. -/
structure Compatible {Secret Decap Coins Signer : Type}
    (prim : Primitives Secret Decap Coins Signer) (browser : Browser Secret Decap) : Prop where
  sha384 : browser.sha384 = prim.sha384
  hkdf256 : browser.hkdf256 = prim.hkdf256
  hkdf384 : browser.hkdf384 = prim.hkdf384
  publicKey : browser.publicKey = prim.ecdh.publicKey
  encapsulationKey : browser.encapsulationKey = prim.kem.encapKey
  diffieHellman : ∀ secret (peer : Octets 32) shared, prim.ecdh.agree secret peer.bytes = some shared →
    browser.diffieHellman secret peer = shared
  decapsulate : ∀ dk (ct : Octets 1088) shared, prim.kem.decapsulate dk ct.bytes = .ok shared →
    browser.decapsulate dk ct = shared
  hexDecode : browser.hexDecode = OpenHttpa.hexDecode
  hexEncode : browser.hexEncode = OpenHttpa.hexEncode

/-- One handshake of the browser with the C server. -/
structure Exchange (Secret Decap Coins : Type) where
  client : BrowserDraws Secret Decap
  server : ServerDraws Secret Decap Coins
  clock : Clock
  ctx : OpenHttpaCtx

/-- The texts, each with the time at which it arrives, that the browser could seal one after the other,
with what the server makes of them: each is decrypted under its own counter. -/
def relayed (cipher : Cipher) (uuid : UuidText) (baseId : String) :
    List (Nat × String) → Option Wasm.SessionState → OpenHttpaCtx → List (String × Option String)
  | [], _, _ => []
  | (now, text) :: rest, session, ctx =>
    match openhttpaSeal cipher (utf8 baseId) (utf8 text) session with
    | (.error _, _, left) => relayed cipher uuid baseId rest left ctx
    | (.ok sealed, _, left) =>
      match ctx.openhttpaServerDecrypt cipher uuid now baseId sealed.counter
          (hexEncode sealed.ciphertext) with
      | (opened, after) => (text, opened) :: relayed cipher uuid baseId rest left after

namespace Exchange

variable {Secret Decap Coins Signer : Type} (prim : Primitives Secret Decap Coins Signer)
  (browser : Browser Secret Decap) (uuid : UuidText) (exchange : Exchange Secret Decap Coins)

def handshake : Option (Option JsonObject × OpenHttpaCtx) :=
  exchange.ctx.openhttpaServerHandshake prim uuid exchange.clock exchange.server
    (openhttpaInitiateAttest browser exchange.client)

def request : AtHsRequest where
  clientSuites := [.X25519MlKem768Aes256GcmSha384]
  clientVersions := [.V2]
  clientRandom := exchange.client.clientRandom
  clientChallenge := exchange.client.clientChallenge
  clientShare := ⟨(exchange.client.pair.publicKeyShare prim.ecdh prim.kem).ecdhePublic,
    (exchange.client.pair.publicKeyShare prim.ecdh prim.kem).mlkemPublic, some .MlDsa65⟩
  clientQuotes := []
  atbTtlSecs := 3600

def ciphertext : Bytes :=
  match exchange.server.pair.serverCombine prim.hkdf256 prim.ecdh prim.kem exchange.server.coins
      (exchange.client.pair.publicKeyShare prim.ecdh prim.kem) with
  | some (.ok (_, ctBytes)) => ctBytes
  | _ => []

def transcript : Octets 48 :=
  computeTranscriptHash prim.sha384 (exchange.request prim) .X25519MlKem768Aes256GcmSha384 .V2
    exchange.server.serverRandom (exchange.server.pair.publicKeyShare prim.ecdh prim.kem)
    (exchange.ciphertext prim)

/-- The server has an answer to give: there is room for the session, and its provider makes quotes
over the transcript. -/
def Answerable : Prop :=
  exchange.ctx.registry.liveCount < exchange.ctx.registry.maxSessions ∧
    ∃ quotes, exchange.ctx.tee (serverReportData prim.sha512 (exchange.transcript prim)) = .ok quotes

/-- The browser accepts the answer, and until the session expires the server gives back the bytes of
every text that the browser seals in it. -/
def AcceptedAndOpened (reason : JsonError → String) (answer : JsonObject) (left : OpenHttpaCtx) :
    Prop :=
  ∀ session, ∃ proof stored,
    openhttpaDeriveSession browser.toLibraries (AttestResponse.fromJson reason answer)
        (some (browser.clientState exchange.client)) session = some (.ok proof, none, some stored) ∧
      ∀ texts : List (Nat × String),
        (∀ arrival ∈ texts, arrival.1 < exchange.clock.instant + 3600) →
        ∀ entry ∈ relayed prim.cipher uuid (answer.string "base_id") texts (some stored) left,
          entry.2 = some (hexEncode (utf8 entry.1))

/-- Every answer of the server is accepted by the browser, and what is sealed afterwards is opened. -/
def Interoperates (reason : JsonError → String) : Prop :=
  ∀ answer left, exchange.handshake prim browser uuid = some (some answer, left) →
    exchange.AcceptedAndOpened prim browser uuid reason answer left

end Exchange

section Handshake

variable {Secret Decap Coins Signer : Type} {prim : Primitives Secret Decap Coins Signer}
  {browser : Browser Secret Decap} {uuid : UuidText}

theorem handshakeRequest_initiate (compatible : Compatible prim browser)
    (exchange : Exchange Secret Decap Coins) :
    handshakeRequest (openhttpaInitiateAttest browser exchange.client) =
      some (exchange.request prim) := by
  have checked : (openhttpaInitiateAttest browser exchange.client).check handshakeBodyFields =
      .ok () := rfl
  have field : ∀ name bytes, (openhttpaInitiateAttest browser exchange.client).string name =
      browser.hexEncode bytes →
        bodyBytes (openhttpaInitiateAttest browser exchange.client) name = bytes := by
    intro name bytes written
    rw [bodyBytes, written, compatible.hexEncode, hexDecode_hexEncode, Option.getD_some]
  have random := field "client_random" exchange.client.clientRandom.bytes rfl
  have challenge := field "client_challenge" exchange.client.clientChallenge.bytes rfl
  have ecdhe := field "ecdhe_public" (browser.publicKey exchange.client.pair.ecdhe).bytes rfl
  have mlkem := field "mlkem_public" (browser.encapsulationKey exchange.client.pair.mlkem).bytes rfl
  simp only [handshakeRequest, checked, random, challenge, ecdhe, mlkem, Octets.ofBytes?_bytes,
    compatible.publicKey, compatible.encapsulationKey]
  rfl

variable (prim) in
theorem exchange_combines (exchange : Exchange Secret Decap Coins) :
    ∃ secret, (exchange.ciphertext prim).length = 1088 ∧
      exchange.server.pair.serverCombine prim.hkdf256 prim.ecdh prim.kem exchange.server.coins
        (exchange.client.pair.publicKeyShare prim.ecdh prim.kem) =
          some (.ok (secret, exchange.ciphertext prim)) ∧
      exchange.client.pair.clientCombine prim.hkdf256 prim.ecdh prim.kem
        (exchange.server.pair.publicKeyShare prim.ecdh prim.kem) (exchange.ciphertext prim) =
          some (.ok secret) := by
  obtain ⟨secret, ctBytes, length, server, client⟩ := HybridKemPair.combine_agrees prim.hkdf256
    prim.ecdh prim.kem exchange.client.pair exchange.server.pair exchange.server.coins
  have same : exchange.ciphertext prim = ctBytes := by
    simp only [Exchange.ciphertext, server]
  rw [same]
  exact ⟨secret, length, server, client _⟩

theorem executed_exchange {exchange : Exchange Secret Decap Coins} {out : ServerOutcome}
    (ran : AtHsExecutor.Executed prim ctxExecutor exchange.clock (exchange.request prim)
      (some exchange.ctx.tee) none none exchange.server out) :
    out.suite = .X25519MlKem768Aes256GcmSha384 ∧ out.version = .V2 ∧
      out.share.mlkemCiphertext = exchange.ciphertext prim ∧
      out.result.transcriptHash = exchange.transcript prim ∧
      ∃ secret, exchange.client.pair.clientCombine prim.hkdf256 prim.ecdh prim.kem
          (exchange.server.pair.publicKeyShare prim.ecdh prim.kem) (exchange.ciphertext prim) =
            some (.ok secret) ∧
        Crypto.SessionKeys.derive prim.hkdf384 secret.bytes out.result.transcriptHash =
          .ok out.result.sessionKeys := by
  obtain ⟨secret, _, serverSide, clientSide⟩ := exchange_combines prim exchange
  obtain ⟨hybridSs, combined, derived⟩ := ran.combined
  have pairs := combined.symm.trans serverSide
  simp only [Option.some.injEq, Except.ok.injEq, Prod.mk.injEq] at pairs
  obtain ⟨rfl, ciphertext⟩ := pairs
  have suite : out.suite = .X25519MlKem768Aes256GcmSha384 := (Option.some.inj ran.suite).symm
  have version : out.version = .V2 := (Option.some.inj ran.version).symm
  have transcript : out.result.transcriptHash = exchange.transcript prim := by
    rw [ran.transcript, suite, version, ciphertext]
    rfl
  exact ⟨suite, version, ciphertext, transcript, hybridSs, clientSide, derived⟩

variable (prim) (exchange : Exchange Secret Decap Coins)

def Exchange.outcome (keys : Crypto.SessionKeys) (quotes : List AttestQuote) : ServerOutcome where
  suite := .X25519MlKem768Aes256GcmSha384
  version := .V2
  share := {
    ecdhePublic := (exchange.server.pair.publicKeyShare prim.ecdh prim.kem).ecdhePublic
    mlkemPublic := (exchange.server.pair.publicKeyShare prim.ecdh prim.kem).mlkemPublic
    mlkemCiphertext := exchange.ciphertext prim
    signatureAlg := none }
  result := {
    atbId := exchange.server.atbId
    sessionKeys := keys
    expiresAt := exchange.clock.instant + 3600
    serverQuotes := quotes
    serverRandom := exchange.server.serverRandom
    transcriptHash := exchange.transcript prim
    serverSignatures := []
    clientAttestationResult := none }

theorem exchange_executes {quotes : List AttestQuote}
    (made : exchange.ctx.tee (serverReportData prim.sha512 (exchange.transcript prim)) = .ok quotes) :
    ∃ out, ctxExecutor.executeServer prim exchange.clock (exchange.request prim)
      (some exchange.ctx.tee) none none exchange.server = some (.ok out) := by
  obtain ⟨secret, _, combined, _⟩ := exchange_combines prim exchange
  obtain ⟨keys, derived, _⟩ := Crypto.SessionKeys.derive_ok prim.hkdf384 secret.bytes
    (exchange.transcript prim)
  refine ⟨exchange.outcome prim keys quotes, (AtHsExecutor.executeServer_ok_iff ..).mpr ?_⟩
  exact {
    suite := rfl
    version := rfl
    transcript := rfl
    combined := ⟨secret, combined, derived⟩
    attested := rfl
    quoted := by simp only [AtHsExecutor.generateServerQuotes, Exchange.outcome, made]
    signed := rfl
    share := rfl
    id := rfl
    random := rfl
    expires := rfl }

theorem exchange_executes_iff :
    (∃ out, ctxExecutor.executeServer prim exchange.clock (exchange.request prim)
        (some exchange.ctx.tee) none none exchange.server = some (.ok out)) ↔
      ∃ quotes, exchange.ctx.tee (serverReportData prim.sha512 (exchange.transcript prim)) =
        .ok quotes := by
  constructor
  · rintro ⟨out, returned⟩
    have ran := (AtHsExecutor.executeServer_ok_iff ..).mp returned
    obtain ⟨_, _, _, hashed, _⟩ := executed_exchange ran
    have quoted := ran.quoted
    rw [hashed] at quoted
    cases made : exchange.ctx.tee (serverReportData prim.sha512 (exchange.transcript prim)) with
    | ok quotes => exact ⟨quotes, rfl⟩
    | error failure =>
      simp only [AtHsExecutor.generateServerQuotes, made, ctxExecutor, AtHsExecutor.withAll,
        if_true] at quoted
      cases quoted
  · rintro ⟨quotes, made⟩
    exact exchange_executes prim exchange made

variable {prim}

theorem handshake_answer (compatible : Compatible prim browser)
    {exchange : Exchange Secret Decap Coins} {answer : JsonObject} {left : OpenHttpaCtx}
    (answered : exchange.handshake prim browser uuid = some (some answer, left)) :
    ∃ out, ctxExecutor.executeServer prim exchange.clock (exchange.request prim)
        (some exchange.ctx.tee) none none exchange.server = some (.ok out) ∧
      exchange.ctx.register (ctxSession out) = some left ∧ answer = ctxAnswer uuid out := by
  rw [Exchange.handshake, OpenHttpaCtx.openhttpaServerHandshake,
    handshakeRequest_initiate compatible] at answered
  dsimp only at answered
  split at answered
  · cases answered
  · cases answered
  · rename_i out returned
    split at answered
    · cases answered
    · rename_i registered inserted
      cases answered
      exact ⟨out, returned, inserted, rfl⟩

theorem handshake_answers_iff (compatible : Compatible prim browser) (uuid : UuidText)
    (exchange : Exchange Secret Decap Coins) :
    (∃ answer left, exchange.handshake prim browser uuid = some (some answer, left)) ↔
      exchange.Answerable prim := by
  constructor
  · rintro ⟨answer, left, answered⟩
    obtain ⟨out, returned, inserted, _⟩ := handshake_answer compatible answered
    refine ⟨?_, (exchange_executes_iff prim exchange).mp ⟨out, returned⟩⟩
    by_contra full
    rw [OpenHttpaCtx.register_eq, if_neg full] at inserted
    cases inserted
  · rintro ⟨room, quoted⟩
    obtain ⟨out, returned⟩ := (exchange_executes_iff prim exchange).mpr quoted
    have inserted := exchange.ctx.register_eq (ctxSession out)
    rw [if_pos room] at inserted
    rw [Exchange.handshake, OpenHttpaCtx.openhttpaServerHandshake,
      handshakeRequest_initiate compatible]
    simp only [returned, inserted]
    exact ⟨_, _, rfl⟩

theorem fromJson_ctxAnswer (reason : JsonError → String) (uuid : UuidText) (out : ServerOutcome) :
    AttestResponse.fromJson reason (ctxAnswer uuid out) =
      .error (reason (.missingField "server_random")) := rfl

/-- The browser accepts what the server answers, and the server opens what it then seals, only as long
as there is no answer: the registry is full, or the provider has no quotes for the transcript. -/
theorem c_server_interoperates_iff (compatible : Compatible prim browser) (uuid : UuidText)
    (reason : JsonError → String) (exchange : Exchange Secret Decap Coins) :
    exchange.Interoperates prim browser uuid reason ↔
      exchange.ctx.registry.maxSessions ≤ exchange.ctx.registry.liveCount ∨
        ∀ quotes, exchange.ctx.tee (serverReportData prim.sha512 (exchange.transcript prim)) ≠
          .ok quotes := by
  have unable : (exchange.ctx.registry.maxSessions ≤ exchange.ctx.registry.liveCount ∨
      ∀ quotes, exchange.ctx.tee (serverReportData prim.sha512 (exchange.transcript prim)) ≠
        .ok quotes) ↔ ¬ exchange.Answerable prim := by
    rw [Exchange.Answerable, not_and_or, not_lt, not_exists]
  rw [unable, ← handshake_answers_iff compatible uuid exchange]
  constructor
  · rintro interoperates ⟨answer, left, answered⟩
    -- Whatever the outcome, the answer lacks fields that `AttestResponse` requires.
    obtain ⟨out, _, _, rfl⟩ := handshake_answer compatible answered
    obtain ⟨proof, stored, accepted, _⟩ := interoperates _ _ answered none
    rw [fromJson_ctxAnswer] at accepted
    cases accepted
  · intro silent answer left answered
    exact absurd ⟨answer, left, answered⟩ silent

end Handshake

def plainBrowser : Browser Unit Unit where
  sha384 _ := .zero 48
  hkdf256 := .zero 32
  hkdf384 := .zero 48
  diffieHellman _ _ := .zero 32
  decapsulate _ _ := .zero 32
  hexDecode := hexDecode
  hexEncode := hexEncode
  publicKey _ := .zero 32
  encapsulationKey _ := .zero 1184

theorem plain_compatible : Compatible Primitives.plain plainBrowser where
  sha384 := rfl
  hkdf256 := rfl
  hkdf384 := rfl
  publicKey := rfl
  encapsulationKey := rfl
  diffieHellman _ peer _ agreed := Option.some.inj ((if_pos peer.length_eq).symm.trans agreed)
  decapsulate _ ct _ done := Except.ok.inj ((if_pos ct.length_eq).symm.trans done)
  hexDecode := rfl
  hexEncode := rfl

/-- A handshake with a new context of some capacity, whose provider makes no quotes but does not
fail. -/
def plainExchange (maxSessions : Nat) : Exchange Unit Unit Unit where
  client := ⟨.zero 32, .zero 48, ⟨(), ()⟩⟩
  server := ⟨⟨(), ()⟩, (), .zero 32, ⟨0⟩⟩
  clock := ⟨0, 0⟩
  ctx := ⟨.withCapacity maxSessions, [], fun _ => .ok []⟩

/-- Texts for the two errors; a missing field is reported as `serde_json` does, without the position. -/
def serdeText : JsonError → String
  | .invalidType field => "invalid type of field `" ++ field ++ "`"
  | .missingField field => "missing field `" ++ field ++ "`"

/-- A context without room gives no answer that could be refused; one with room gives one that is. -/
theorem no_room_interoperates :
    (plainExchange 0).Interoperates Primitives.plain plainBrowser .plain serdeText ∧
      ¬ (plainExchange 1).Interoperates Primitives.plain plainBrowser .plain serdeText := by
  constructor
  · exact (c_server_interoperates_iff plain_compatible .plain serdeText (plainExchange 0)).mpr
      (.inl (Nat.le_refl 0))
  · intro interoperates
    rcases (c_server_interoperates_iff plain_compatible .plain serdeText (plainExchange 1)).mp
      interoperates with full | silent
    · exact absurd full (by decide)
    · exact silent [] rfl

/-- A new context answers the browser, and the browser refuses the answer. -/
theorem c_answer_refused :
    ∃ answer left, (plainExchange 1).handshake Primitives.plain plainBrowser .plain =
        some (some answer, left) ∧
      openhttpaDeriveSession plainBrowser.toLibraries (AttestResponse.fromJson serdeText answer)
        (some (plainBrowser.clientState (plainExchange 1).client)) none =
          some (.error "parse error: missing field `server_random`",
            some (plainBrowser.clientState (plainExchange 1).client), none) := by
  have able : (plainExchange 1).Answerable Primitives.plain := ⟨Nat.one_pos, [], rfl⟩
  obtain ⟨answer, left, answered⟩ :=
    (handshake_answers_iff plain_compatible .plain (plainExchange 1)).mpr able
  obtain ⟨out, _, _, rfl⟩ := handshake_answer plain_compatible answered
  refine ⟨_, left, answered, ?_⟩
  rw [fromJson_ctxAnswer]
  rfl

/-- `HandshakeResponse` of `aths_json` in the demo server, for the same outcome: the answer of the C
server and the fields it lacks. -/
def handshakeResponse (uuid : UuidText) (quotes : List String) (quoteType : String)
    (out : ServerOutcome) : JsonObject :=
  ctxAnswer uuid out ++
    [("server_mlkem_ek", .string (hexEncode out.share.mlkemPublic)),
     ("server_random", .string (hexEncode out.result.serverRandom.bytes)),
     ("quotes", .strings quotes), ("quote_type", .string quoteType), ("expires_in", .number 3600),
     ("cipher_suite", .string out.suite.display), ("version", .string out.version.display)]

section Complete

variable {Secret Decap Coins Signer : Type} {prim : Primitives Secret Decap Coins Signer}
  {browser : Browser Secret Decap} {exchange : Exchange Secret Decap Coins} {out : ServerOutcome}

theorem Compatible.combine (compatible : Compatible prim browser)
    {pair : HybridKemPair Secret Decap} {serverEcdhe : Octets 32} {mlkemPublic : Bytes}
    {ct : Octets 1088} {secret : Octets 32}
    (native : pair.clientCombine prim.hkdf256 prim.ecdh prim.kem ⟨serverEcdhe.bytes, mlkemPublic⟩
      ct.bytes = some (.ok secret)) :
    Wasm.combine browser.hkdf256 (browser.diffieHellman pair.ecdhe serverEcdhe).bytes
      (browser.decapsulate pair.mlkem ct).bytes (browser.publicKey pair.ecdhe).bytes
      serverEcdhe.bytes (browser.encapsulationKey pair.mlkem).bytes ct.bytes = some secret := by
  unfold HybridKemPair.clientCombine at native
  split at native
  · cases native
  rename_i ecdheSs agreed
  split at native
  · cases native
  rename_i mlkemSs decapsulated
  rw [combine_eq_native] at native
  obtain ⟨found, combined, same⟩ := Option.map_eq_some_iff.mp native
  cases same
  rw [compatible.diffieHellman _ _ _ agreed, compatible.decapsulate _ _ _ decapsulated,
    compatible.hkdf256, compatible.publicKey, compatible.encapsulationKey]
  exact combined

theorem deriveSession_handshakeResponse (compatible : Compatible prim browser)
    (ran : AtHsExecutor.Executed prim ctxExecutor exchange.clock (exchange.request prim)
      (some exchange.ctx.tee) none none exchange.server out) (uuid : UuidText)
    (reason : JsonError → String) (quotes : List String) (quoteType : String)
    (session : Option Wasm.SessionState) :
    ∃ proof, openhttpaDeriveSession browser.toLibraries
        (AttestResponse.fromJson reason (handshakeResponse uuid quotes quoteType out))
        (some (browser.clientState exchange.client)) session =
      some (.ok proof, none, some (.established (utf8 (uuid.display out.result.atbId))
        (.ofNative out.result.sessionKeys))) := by
  obtain ⟨_, length, _, _⟩ := exchange_combines prim exchange
  obtain ⟨_, _, sameCiphertext, transcript, hybridSs, clientSide, derived⟩ := executed_exchange ran
  let ct : Octets 1088 := ⟨exchange.ciphertext prim, length⟩
  let serverEcdhe := prim.ecdh.publicKey exchange.server.pair.ecdhe
  have ecdhePublic : out.share.ecdhePublic = serverEcdhe.bytes := by
    rw [ran.share]
    rfl
  have mlkemPublic : out.share.mlkemPublic = (prim.kem.encapKey exchange.server.pair.mlkem).bytes := by
    rw [ran.share]
    rfl
  have ctBytes : out.share.mlkemCiphertext = ct.bytes := sameCiphertext
  obtain ⟨resp, read, answered⟩ :
      ∃ resp, AttestResponse.fromJson reason (handshakeResponse uuid quotes quoteType out) = .ok resp ∧
        ⟨utf8 (uuid.display out.result.atbId), hexEncode out.share.ecdhePublic,
          hexEncode out.share.mlkemCiphertext, hexEncode out.result.serverRandom.bytes,
          hexEncode out.share.mlkemPublic, hexEncode out.result.transcriptHash.bytes, quotes,
          3600⟩ = resp := ⟨_, rfl, rfl⟩
  rw [read]
  have keys : keyFields browser.toLibraries resp =
      .ok (serverEcdhe, out.result.transcriptHash.bytes, ct) := by
    simp only [← answered, keyFields, decodeHex32, decodeHex, compatible.hexDecode,
      hexDecode_hexEncode, ecdhePublic, ctBytes, Octets.ofBytes?_bytes, bind, Except.bind]
  have server : serverFields browser.toLibraries resp =
      .ok (out.result.serverRandom, (prim.kem.encapKey exchange.server.pair.mlkem).bytes) := by
    simp only [← answered, serverFields, decodeHex32, decodeHex, compatible.hexDecode,
      hexDecode_hexEncode, mlkemPublic, Octets.ofBytes?_bytes, bind, Except.bind]
    rfl
  have hashed : out.result.transcriptHash = computeTranscriptHash browser.sha384
      (browser.clientState exchange.client).request .X25519MlKem768Aes256GcmSha384 .V2
      out.result.serverRandom
      ⟨serverEcdhe.bytes, (prim.kem.encapKey exchange.server.pair.mlkem).bytes⟩ ct.bytes := by
    rw [transcript, ran.random, compatible.sha384]
    simp only [Exchange.transcript, computeTranscriptHash, transcriptInput, ClientState.request,
      Browser.clientState, compatible.publicKey, compatible.encapsulationKey]
    rfl
  obtain ⟨browserSs, native, proof, combines, derives, stores⟩ :=
    deriveSession_matching keys server session (congrArg Octets.bytes hashed)
  have agreed : browserSs = hybridSs :=
    Option.some.inj (combines.symm.trans (compatible.combine clientSide))
  have sameKeys : native = out.result.sessionKeys := by
    rw [agreed, compatible.hkdf384, ← hashed] at derives
    exact Except.ok.inj (derives.symm.trans derived)
  refine ⟨proof, ?_⟩
  rw [stores, sameKeys, ← answered]

end Complete

/-- A text that the browser (`ask`) or the server (`tell`) sends to the other side, and when. -/
inductive Turn where
  | ask (now : Nat) (text : String)
  | tell (now : Nat) (text : String)

def Turn.now : Turn → Nat
  | .ask now _ | .tell now _ => now

def Turn.text : Turn → String
  | .ask _ text | .tell _ text => text

/-- The session lives, and the cipher does not fail. When it does, the side that seals counts on, and
the other one does not. -/
def Turn.Passes (cipher : Cipher) (ends : Nat) (turn : Turn) : Prop :=
  turn.now < ends ∧ ∀ key nonce aad, cipher.encrypt key nonce aad (utf8 turn.text) ≠ none

def conversation (cipher : Cipher) (uuid : UuidText) (baseId : String) :
    List Turn → Option Wasm.SessionState → OpenHttpaCtx → List (Option Bytes)
  | [], _, _ => []
  | .ask now text :: rest, session, ctx =>
    match openhttpaSeal cipher (utf8 baseId) (utf8 text) session with
    | (.error _, _, left) => none :: conversation cipher uuid baseId rest left ctx
    | (.ok sealed, _, left) =>
      match ctx.openhttpaServerDecrypt cipher uuid now baseId sealed.counter
          (hexEncode sealed.ciphertext) with
      | (opened, after) => opened.bind hexDecode :: conversation cipher uuid baseId rest left after
  | .tell now text :: rest, session, ctx =>
    match ctx.openhttpaServerEncrypt cipher uuid now baseId (hexEncode (utf8 text)) with
    | (none, after) => none :: conversation cipher uuid baseId rest session after
    | (some answer, after) =>
      match openhttpaUnseal cipher (utf8 baseId) (hexDecode (answer.string "ciphertext")) session with
      | (opened, _, left) => opened.toOption :: conversation cipher uuid baseId rest left after

structure Follows (ends : Nat) (session : Wasm.SessionState) (server : AttestSession) : Prop where
  keys : session.keys = .ofNative server.keys
  phase : server.phase.allowsTrustedRequest = true
  expires : server.expiresAt = ends
  sliding : server.replayStrategy = .default
  /-- Numbers below the browser's next one were taken at most. -/
  highest : server.replayGuard.highest < session.counter
  counted : server.clientCounter ≤ session.counter
  answers : server.serverCounter = session.serverCounter

section Relay

variable {ends now : Nat} {session : Wasm.SessionState} {server : AttestSession}

theorem Follows.told (follows : Follows ends session server) :
    Follows ends { session with serverCounter := session.serverCounter + 1 }
      { server with serverCounter := server.serverCounter + 1 } :=
  ⟨follows.keys, follows.phase, follows.expires, follows.sliding, follows.highest, follows.counted,
    congrArg (· + 1) follows.answers⟩

theorem Follows.takes (follows : Follows ends session server) (below : session.counter ≠ u64Max)
    (live : now < ends) {T E : Type} {f : Crypto.SessionKeys → UInt64 → Except E T} {value : T}
    (succeeds : f server.keys server.clientCounter = .ok value) :
    (server.withKeysForTrr now session.counter f).1 = .ok (.ok value) ∧
      Follows ends { session with counter := session.counter + 1 }
        (server.withKeysForTrr now session.counter f).2 := by
  have next := toNat_succ below
  have highest := UInt64.lt_iff_toNat_lt.mp follows.highest
  have counted := UInt64.le_iff_toNat_le.mp follows.counted
  have nonzero : session.counter ≠ 0 := by
    intro zero
    rw [zero] at highest
    simp at highest
  have passes : server.replayGuard.check session.counter = .ok () := by
    rw [ReplayGuard.check, if_neg nonzero, if_pos follows.highest]
  have admits : server.admitNonce session.counter = .ok server := by
    simp only [AttestSession.admitNonce, follows.sliding, ReplayStrategy.default, passes]
  have room : server.clientCounter ≠ u64Max := by
    intro full
    have bound := (session.counter + 1).toNat_lt
    have top : u64Max.toNat = 2 ^ 64 - 1 := by decide
    rw [full] at counted
    omega
  have accepted : (server.withKeysForTrr now session.counter f).1 = .ok (.ok value) :=
    AttestSession.withKeysForTrr_ok_iff.mpr
      ⟨follows.expires ▸ live, follows.phase, ⟨server, admits⟩, succeeds, room⟩
  refine ⟨accepted, ?_⟩
  have call := server.withKeysForTrr_call now session.counter f
  generalize server.withKeysForTrr now session.counter f = returned at call accepted ⊢
  obtain ⟨result, left⟩ := returned
  obtain rfl : result = .ok (.ok value) := accepted
  cases call with
  | accepted serves admitted outcome _ =>
    obtain rfl := Except.ok.inj (admits.symm.trans admitted)
    have committed : server.commitNonce session.counter =
        { server with replayGuard := server.replayGuard.accept session.counter } := by
      simp only [AttestSession.commitNonce, follows.sliding, ReplayStrategy.default]
    rw [committed]
    refine ⟨follows.keys, follows.phase, follows.expires, follows.sliding, ?_, ?_, follows.answers⟩
    · rw [UInt64.lt_iff_toNat_lt, next, ReplayGuard.accept_highest]
      omega
    · rw [UInt64.le_iff_toNat_le, next, toNat_succ room]
      omega

variable {cipher : Cipher} {uuid : UuidText} {id : AtbId} {handle : Nat} {ctx : OpenHttpaCtx}
  (opens : ∀ key nonce aad plain sealed, cipher.encrypt key nonce aad plain = some sealed →
    cipher.decrypt key nonce aad sealed = some plain)
include opens

theorem Follows.asks (follows : Follows ends session server)
    (named : session.baseId = utf8 (uuid.display id)) (holds : ctx.Holds id handle server)
    (live : now < ends) (below : session.counter ≠ u64Max) {text : String} {ciphertext : Bytes}
    (made : encryptAt cipher session.keys session.counter (sessionAad (utf8 (uuid.display id)))
      (utf8 text) = some ciphertext) :
    ∃ after server', openhttpaSeal cipher (utf8 (uuid.display id)) (utf8 text) (some session) =
        (.ok ⟨counterNonce session.keys.clientWriteIv session.counter, session.counter, ciphertext, ""⟩,
          [encryptionAt session.keys session.counter],
          some { session with counter := session.counter + 1 }) ∧
      ctx.openhttpaServerDecrypt cipher uuid now (uuid.display id) session.counter
        (hexEncode ciphertext) = (some (hexEncode (utf8 text)), after) ∧
      Follows ends { session with counter := session.counter + 1 } server' ∧
      after.Holds id handle server' := by
  have opened : OpenHttpaCtx.openPayload cipher (uuid.display id) session.counter ciphertext
      server.keys server.clientCounter = .ok (utf8 text) := by
    rw [encryptAt, follows.keys] at made
    have decrypts : cipher.decrypt ⟨server.keys.clientWriteKey, .Aes256Gcm⟩
        (counterNonce server.keys.clientWriteIv session.counter)
        (sessionAad (utf8 (uuid.display id))) ciphertext = some (utf8 text) := opens _ _ _ _ _ made
    rw [OpenHttpaCtx.openPayload, decrypts]
  obtain ⟨taken, followed⟩ := follows.takes below live opened
  obtain ⟨after, decrypted, held⟩ := OpenHttpaCtx.openhttpaServerDecrypt_held holds
    (follows.expires ▸ live) taken
  refine ⟨after, _, ?_, decrypted, followed, held⟩
  simp only [openhttpaSeal, withSession, if_neg (not_not.mpr named), sealBody, if_neg below, made]

theorem Follows.tells (follows : Follows ends session server)
    (named : session.baseId = utf8 (uuid.display id)) (holds : ctx.Holds id handle server)
    (live : now < ends) (below : session.serverCounter ≠ u64Max) (text : String)
    (sealable : ∀ key nonce aad, cipher.encrypt key nonce aad (utf8 text) ≠ none) :
    ∃ answer after, ctx.openhttpaServerEncrypt cipher uuid now (uuid.display id)
        (hexEncode (utf8 text)) = (some answer, after) ∧
      openhttpaUnseal cipher (utf8 (uuid.display id)) (hexDecode (answer.string "ciphertext"))
        (some session) =
          (.ok (utf8 text), [], some { session with serverCounter := session.serverCounter + 1 }) ∧
      after.Holds id handle { server with serverCounter := server.serverCounter + 1 } := by
  obtain ⟨ciphertext, made⟩ := Option.ne_none_iff_exists'.mp (sealable
    ⟨server.keys.serverWriteKey, .Aes256Gcm⟩
    (counterNonce server.keys.serverWriteIv server.serverCounter) (sessionAad (utf8 (uuid.display id))))
  have alive : now < server.expiresAt := follows.expires ▸ live
  obtain ⟨after, sealed, held⟩ :=
    OpenHttpaCtx.openhttpaServerEncrypt_held cipher uuid holds alive (utf8 text)
  rw [AttestSession.withKeysForTrs_live _ alive (follows.answers ▸ below)] at sealed held
  simp only [OpenHttpaCtx.sealPayload, made] at sealed
  refine ⟨_, after, sealed, ?_, held⟩
  have decrypts : decryptWith cipher session.keys
      (counterNonce session.keys.serverWriteIv session.serverCounter)
      (sessionAad (utf8 (uuid.display id))) ciphertext = some (utf8 text) := by
    rw [follows.keys, ← follows.answers]
    exact opens _ _ _ _ _ made
  have read : hexDecode (JsonObject.string [("ciphertext", .string (hexEncode ciphertext)),
      ("nonce", .number server.serverCounter.toNat)] "ciphertext") = some ciphertext :=
    hexDecode_hexEncode ciphertext
  have valid : isUtf8 (utf8 text) = true := ByteArray.validateUTF8_eq_true_iff.mpr text.isValidUTF8
  simp only [openhttpaUnseal, withSession, if_neg (not_not.mpr named), unsealBody, if_neg below, read,
    decrypts, valid, if_true]

theorem conversation_eq {turns : List Turn} (follows : Follows ends session server)
    (named : session.baseId = utf8 (uuid.display id)) (holds : ctx.Holds id handle server)
    (passes : ∀ turn ∈ turns, turn.Passes cipher ends)
    (asked : session.counter.toNat + turns.length ≤ u64Max.toNat)
    (told : session.serverCounter.toNat + turns.length ≤ u64Max.toNat) :
    conversation cipher uuid (uuid.display id) turns (some session) ctx =
      turns.map fun turn => some (utf8 turn.text) := by
  induction turns generalizing session server ctx with
  | nil => rfl
  | cons turn turns ih =>
    obtain ⟨⟨live, sealable⟩, later⟩ := List.forall_mem_cons.mp passes
    rw [List.length_cons] at asked told
    have askBelow : session.counter ≠ u64Max := fun last => by rw [last] at asked; omega
    have tellBelow : session.serverCounter ≠ u64Max := fun last => by rw [last] at told; omega
    have asksLeft : (session.counter + 1).toNat + turns.length ≤ u64Max.toNat := by
      rw [toNat_succ askBelow]
      omega
    have tellsLeft : (session.serverCounter + 1).toNat + turns.length ≤ u64Max.toNat := by
      rw [toNat_succ tellBelow]
      omega
    cases turn with
    | ask now text =>
      obtain ⟨ciphertext, made⟩ : ∃ ciphertext, encryptAt cipher session.keys session.counter
          (sessionAad (utf8 (uuid.display id))) (utf8 text) = some ciphertext :=
        Option.ne_none_iff_exists'.mp (sealable _ _ _)
      obtain ⟨after, _, sent, decrypted, followed, held⟩ :=
        follows.asks opens named holds (show now < ends from live) askBelow made
      simp only [conversation, sent, decrypted, Option.bind_some, hexDecode_hexEncode, List.map_cons]
      rw [ih followed named held later asksLeft (Nat.le_of_succ_le told)]
      rfl
    | tell now text =>
      obtain ⟨answer, after, sent, opened, held⟩ :=
        follows.tells opens named holds (show now < ends from live) tellBelow text sealable
      simp only [conversation, sent, opened, Except.toOption, List.map_cons]
      rw [ih follows.told named held later (Nat.le_of_succ_le asked) tellsLeft]
      rfl

end Relay

section Completed

variable {Secret Decap Coins Signer : Type}
  {prim : Primitives Secret Decap Coins Signer} {browser : Browser Secret Decap} {uuid : UuidText}
  {exchange : Exchange Secret Decap Coins} {answer : JsonObject} {left : OpenHttpaCtx}

/-- The browser accepts the answer, and until the session expires each side reads what the other
says, however the two take turns. -/
def Exchange.Converses (prim : Primitives Secret Decap Coins Signer) (browser : Browser Secret Decap)
    (uuid : UuidText) (exchange : Exchange Secret Decap Coins) (reason : JsonError → String)
    (answer : JsonObject) (left : OpenHttpaCtx) : Prop :=
  ∀ session, ∃ proof stored,
    openhttpaDeriveSession browser.toLibraries (AttestResponse.fromJson reason answer)
        (some (browser.clientState exchange.client)) session = some (.ok proof, none, some stored) ∧
      ∀ turns : List Turn, turns.length < u64Max.toNat →
        (∀ turn ∈ turns, turn.Passes prim.cipher (exchange.clock.instant + 3600)) →
        conversation prim.cipher uuid (answer.string "base_id") turns (some stored) left =
          turns.map fun turn => some (utf8 turn.text)

variable (compatible : Compatible prim browser)
  (answered : exchange.handshake prim browser uuid = some (some answer, left))
include compatible answered

theorem handshake_follows :
    ∃ out handle, answer = ctxAnswer uuid out ∧
      AtHsExecutor.Executed prim ctxExecutor exchange.clock (exchange.request prim)
        (some exchange.ctx.tee) none none exchange.server out ∧
      left.Holds out.result.atbId handle (ctxSession out) ∧
      Follows (exchange.clock.instant + 3600)
        (.established (utf8 (uuid.display out.result.atbId)) (.ofNative out.result.sessionKeys))
        (ctxSession out) := by
  obtain ⟨out, returned, inserted, rfl⟩ := handshake_answer compatible answered
  have ran := (AtHsExecutor.executeServer_ok_iff ..).mp returned
  exact ⟨out, _, rfl, ran, OpenHttpaCtx.register_holds inserted, rfl, rfl, ran.expires, rfl,
    show (0 : UInt64) < 1 by decide, UInt64.le_refl _, rfl⟩

variable (opens : ∀ key nonce aad plain sealed, prim.cipher.encrypt key nonce aad plain = some sealed →
  prim.cipher.decrypt key nonce aad sealed = some plain)
  (reason : JsonError → String) (quotes : List String) (quoteType : String)
include opens

/-- **Conversations.** With the fields that it lacks, every answer of the C server makes a session in
which the two sides understand each other. -/
theorem complete_answer_converses :
    ∃ out, answer = ctxAnswer uuid out ∧ exchange.Converses prim browser uuid reason
      (handshakeResponse uuid quotes quoteType out) left := by
  obtain ⟨out, _, rfl, ran, holds, follows⟩ := handshake_follows compatible answered
  refine ⟨out, rfl, fun session => ?_⟩
  obtain ⟨proof, stores⟩ := deriveSession_handshakeResponse compatible ran uuid reason quotes quoteType
    session
  refine ⟨proof, _, stores, fun turns few passes => ?_⟩
  -- Both sides begin at one.
  have room : (1 : UInt64).toNat + turns.length ≤ u64Max.toNat := (Nat.add_comm ..).trans_le few
  exact conversation_eq opens follows rfl holds passes room room

end Completed

/-- Completed, the answer of a new context is as good. -/
theorem plain_answer_converses :
    ∃ out left, (plainExchange 1).handshake Primitives.plain plainBrowser .plain =
        some (some (ctxAnswer .plain out), left) ∧
      (plainExchange 1).Converses Primitives.plain plainBrowser .plain serdeText
        (handshakeResponse .plain [] "mock" out) left := by
  have able : (plainExchange 1).Answerable Primitives.plain := ⟨Nat.one_pos, [], rfl⟩
  obtain ⟨answer, left, answered⟩ :=
    (handshake_answers_iff plain_compatible .plain (plainExchange 1)).mpr able
  obtain ⟨out, rfl, converses⟩ := complete_answer_converses plain_compatible answered
    plainCipher_ideal.opens serdeText [] "mock"
  exact ⟨out, left, answered, converses⟩

end OpenHttpa.Channel
