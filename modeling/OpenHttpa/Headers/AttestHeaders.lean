import OpenHttpa.Core.Ticket
import OpenHttpa.Headers.Sfv

/-!
# The headers of the handshake

`openhttpa-headers/src/attest_headers.rs`: the request, response and preflight headers with their
writers and readers. A quote is written with its type, format, evidence and collateral, and read
back without its user data; a type, format or address that the structured-field types refuse makes
the writer panic, which the model shows as nothing.
-/
namespace OpenHttpa.Headers

open OpenHttpa.Core Proto

/-- `HeaderError`; the base64 error of the readers left out is left out with them. -/
inductive HeaderError where
  | Missing (name : String)
  | Invalid (name reason : String)
  | TooManyHeaders (max : Nat)
  | ValueTooLong (name : String)
deriving DecidableEq

/-- `Display` for `HeaderError`. -/
def HeaderError.display : HeaderError → String
  | Missing name => "missing required header: " ++ name
  | Invalid name reason => "invalid header value for " ++ name ++ ": " ++ reason
  | TooManyHeaders max => "too many headers in AHL (max " ++ toString max ++ ")"
  | ValueTooLong name => "header " ++ name ++ " exceeds maximum length"

/-- The text form of identifiers in headers. -/
structure UuidText where
  display : AtbId → String
  /-- `FromStr` for `AtbId`, with the reason it refuses. -/
  fromStr : String → Except String AtbId
  fromStr_display : ∀ id, fromStr (display id) = .ok id

/-- How `serde_json` writes and reads a type. -/
structure JsonCodec (α : Type) where
  /-- `to_vec`; nothing when it fails. -/
  render : α → Option Bytes
  parse : Bytes → Except String α

/-- The value, if there is one, is read back from what is written. -/
def JsonCodec.ReadsBack {α : Type} (codec : JsonCodec α) (value : Option α) : Prop :=
  ∀ held, value = some held → ∃ bytes, codec.render held = some bytes ∧ codec.parse bytes = .ok held

theorem JsonCodec.readsBack_none {α : Type} (codec : JsonCodec α) : codec.ReadsBack none := nofun

/-- What the headers are written and read with. -/
structure HeaderCodecs where
  sfv : Sfv
  uuid : UuidText
  uuid_string : ∀ id, sfv.isString (uuid.display id) = true
  tickets : JsonCodec SessionTicket
  provenance : JsonCodec ProvenanceChain

/-! ## Names -/

def hdrAttestCipherSuites : HeaderName := { text := "attest-cipher-suites" }

def hdrAttestSupportedCipherSuites : HeaderName := { text := "attest-supported-cipher-suites" }

def hdrAttestCipherSuite : HeaderName := { text := "attest-cipher-suite" }

def hdrAttestKeyShares : HeaderName := { text := "attest-key-shares" }

def hdrAttestKeyShare : HeaderName := { text := "attest-key-share" }

def hdrAttestRandom : HeaderName := { text := "attest-random" }

def hdrAttestPolicies : HeaderName := { text := "attest-policies" }

def hdrAttestBaseCreation : HeaderName := { text := "attest-base-creation" }

def hdrAttestVersions : HeaderName := { text := "attest-versions" }

def hdrAttestSupportedVersions : HeaderName := { text := "attest-supported-versions" }

def hdrAttestVersion : HeaderName := { text := "attest-version" }

def hdrAttestDate : HeaderName := { text := "attest-date" }

def hdrAttestServerSignatures : HeaderName := { text := "attest-server-signatures" }

def hdrAttestTransport : HeaderName := { text := "attest-transport" }

def hdrAttestQuotes : HeaderName := { text := "attest-quotes" }

def hdrAttestBaseId : HeaderName := { text := "attest-base-id" }

def hdrAttestExpires : HeaderName := { text := "attest-expires" }

def strAttestTicket : String := "attest-ticket"

def hdrAttestTicket : HeaderName := { text := strAttestTicket }

def hdrAttestChallenge : HeaderName := { text := "attest-challenge" }

def hdrAttestProvenance : HeaderName := { text := "attest-provenance" }

def hdrAttestTicketResumption : HeaderName := { text := "attest-ticket-resumption" }

def hdrAttestZkProof : HeaderName := { text := "attest-zk-proof" }

def hdrAttestEncryptedHello : HeaderName := { text := "attest-encrypted-hello" }

/-! ## Writers -/

namespace Sfv

variable (sfv : Sfv)

/-- `HeaderValue::from_str` with a static value where it fails. -/
def valueOr (text fallback : String) : HeaderValue := (sfv.fromStr text).getD (.ofText fallback)

/-- `encode_bytes_sfv`. -/
def encodeBytesSfv (bytes : Bytes) : HeaderValue :=
  sfv.valueOr (sfv.serializeItem (.new (.byteSequence bytes))) "::"

/-- The bare item of a text: a token, else a string, else the token `unknown`. -/
def tokenOrString (text : String) : BareItem :=
  if sfv.isToken text then .token text
  else if sfv.isString text then .string text
  else .token "unknown"

/-- `encode_token_list`. -/
def encodeTokenList (texts : List String) : HeaderValue :=
  match sfv.serializeList (texts.map fun text => .item (.new (sfv.tokenOrString text))) with
  | none => .ofText ""
  | some text => sfv.valueOr text ""

/-- `encode_integer_sfv`; the largest number written has fifteen digits. -/
def encodeIntegerSfv (n : Nat) : HeaderValue :=
  sfv.valueOr (sfv.serializeItem (.new (.integer (min n 999999999999999 : Nat)))) "0"

/-- `encode_token_sfv`. -/
def encodeTokenSfv (text : String) : HeaderValue :=
  sfv.valueOr (sfv.serializeItem (.new (sfv.tokenOrString text))) ""

/-- `Token::from_string(..).expect(..)`, and the same for strings. -/
def expected (accepts : String → Bool) (text : String) : Option String :=
  if accepts text then some text else none

/-- The parameters of the evidence: its format, unless it is raw. -/
def formatParams (format : QuoteFormat) : Option (List (String × BareItem)) :=
  if format = .Raw then some []
  else (expected sfv.isToken format.display).map fun token => [("format", .token token)]

/-- The inner list of one quote; nothing when an `expect` fails. -/
def quoteEntry (quote : AttestQuote) : Option ListEntry := do
  let type ← expected sfv.isToken quote.quoteType.display
  let params ← sfv.formatParams quote.format
  let uris ← quote.collateralUris.mapM (expected sfv.isString)
  return .innerList ([.new (.token type), ⟨.byteSequence quote.raw, params⟩] ++
    uris.map fun uri => .new (.string uri))

/-- A list as a header value, left out when it cannot be one. -/
def listValue (entries : List ListEntry) : Option HeaderValue :=
  (sfv.serializeList entries).bind sfv.fromStr

/-- The value of `Attest-Quotes`, left out without quotes; nothing when an `expect` fails. -/
def quotesValue (quotes : List AttestQuote) : Option (Option HeaderValue) :=
  if quotes.isEmpty then some none else (quotes.mapM sfv.quoteEntry).map sfv.listValue

/-- The value of `Attest-Server-Signatures`, left out without signatures. -/
def signaturesValue (signatures : List Bytes) : Option HeaderValue :=
  if signatures.isEmpty then none
  else sfv.listValue (signatures.map fun signature => .item (.new (.byteSequence signature)))

end Sfv

/-! ## Readers -/

/-- The text of an entry that is a token or a string. -/
def ListEntry.tokenText : ListEntry → Option String
  | .item value => value.bareItem.asToken.or value.bareItem.asString
  | .innerList _ => none

/-- `as_boolean` of an entry that is an item. -/
def ListEntry.asBoolean : ListEntry → Option Bool
  | .item value => value.bareItem.asBoolean
  | .innerList _ => none

/-- `as_byte_sequence` of an entry that is an item. -/
def ListEntry.asByteSequence : ListEntry → Option Bytes
  | .item value => value.bareItem.asByteSequence
  | .innerList _ => none

/-- One entry of `Attest-Quotes`; anything but an inner list of two items is passed over. -/
def decodeQuote : ListEntry → Option AttestQuote
  | .innerList (first :: second :: rest) =>
    let typeStr := first.bareItem.asToken.getD "unknown"
    let formatStr := ((second.params.lookup "format").bind BareItem.asToken).getD "raw"
    some {
      quoteType := .fromStr typeStr
      format := .fromStr formatStr
      raw := second.bareItem.asByteSequence.getD []
      qudd := []
      collateralUris := rest.filterMap (·.bareItem.asString) }
  | _ => none

/-- A joined text as a list; a blank one is an empty list. -/
def Parser.entries (parser : Parser) (name : HeaderName) (joined : String) :
    Except HeaderError (List ListEntry) :=
  if trim joined = "" then .ok []
  else
    match parser.list joined with
    | .error reason => .error (.Invalid name.text reason)
    | .ok entries => .ok entries

/-- The two flags of a dictionary: `direct` and `allow-untrusted`, with their defaults. -/
def policyFlags (entries : List (String × ListEntry)) : Bool × Bool :=
  (((entries.lookup "direct").bind ListEntry.asBoolean).getD true,
    ((entries.lookup "allow-untrusted").bind ListEntry.asBoolean).getD false)

/-- `str::parse::<u64>`. -/
def parseU64 (text : String) : Option Nat :=
  let digits := match text.toList with
    | '+' :: rest => rest
    | chars => chars
  if digits ≠ [] ∧ digits.all Char.isDigit then
    let value := digits.foldl (fun acc c => acc * 10 + (c.toNat - '0'.toNat)) 0
    if value < 2 ^ 64 then some value else none
  else none

namespace HeaderMap

variable (parser : Parser) (map : HeaderMap) (name : HeaderName)

/-- `decode_bytes_sfv`. -/
def decodeBytesSfv : Except HeaderError Bytes :=
  match map.get name with
  | none => .error (.Missing name.text)
  | some value =>
    match value.text with
    | none => .error (.Invalid name.text toStrError)
    | some text =>
      match parser.item text with
      | .error reason => .error (.Invalid name.text reason)
      | .ok item =>
        match item.bareItem.asByteSequence with
        | none => .error (.Invalid name.text "expected a Byte Sequence item")
        | some bytes => .ok bytes

/-- `decode_token_list_strings`. -/
def decodeTokenListStrings : Except HeaderError (List String) :=
  if (map.texts name).isEmpty then .error (.Missing name.text)
  else (parser.entries name (map.joined name)).map (·.filterMap ListEntry.tokenText)

/-- `decode_quotes_sfv`. -/
def decodeQuotesSfv : Except HeaderError (List AttestQuote) :=
  if (map.texts name).isEmpty then .ok []
  else (parser.entries name (map.joined name)).map (·.filterMap decodeQuote)

/-- `decode_policies_sfv`: whether the service is direct, and whether an untrusted one is allowed. -/
def decodePoliciesSfv : Bool × Bool :=
  if (map.texts name).isEmpty then policyFlags []
  else
    match parser.dictionary (map.joined name) with
    | .error _ => policyFlags []
    | .ok entries => policyFlags entries

/-- The reader of `Attest-Expires`. -/
def decodeExpires : Nat :=
  match map.getText hdrAttestExpires with
  | none => 3600
  | some text =>
    match ((parser.item text).toOption.bind (·.bareItem.asInteger)).map
        (fun n => if 0 ≤ n then n.toNat else 3600) with
    | some secs => secs
    | none => (parseU64 (trim text)).getD 3600

/-- The reader of `Attest-Server-Signatures`; what is not a byte sequence is passed over. -/
def decodeSignatures : List Bytes :=
  match map.getText hdrAttestServerSignatures with
  | none => []
  | some text =>
    match parser.list text with
    | .error _ => []
    | .ok entries => entries.filterMap ListEntry.asByteSequence

/-- A value read from the JSON of a byte sequence, nothing when either fails. -/
def decodeJson {α : Type} (parser : Parser) (codec : JsonCodec α) (map : HeaderMap)
    (name : HeaderName) : Option α :=
  (map.decodeBytesSfv parser name).toOption.bind fun bytes => (codec.parse bytes).toOption

/-- The text of a header that must be there. -/
def requireText : Except HeaderError String :=
  match map.getText name with
  | none => .error (.Missing name.text)
  | some text => .ok text

end HeaderMap

/-! ## Requests -/

/-- `AtbCreation`. -/
inductive AtbCreation where
  | New
  | Reuse
  | Shared
deriving DecidableEq

/-- The token of `Attest-Base-Creation`. -/
def AtbCreation.token : AtbCreation → String
  | Reuse => "reuse"
  | Shared => "shared"
  | New => "new"

/-- The reader of `Attest-Base-Creation`. -/
def AtbCreation.ofText (text : String) : AtbCreation :=
  if trim text = "reuse" then Reuse else if trim text = "shared" then Shared else New

/-- `AtHsRequestHeaders`. -/
structure AtHsRequestHeaders where
  cipherSuites : List CipherSuite
  random : Bytes
  versions : List ProtocolVersion
  keySharesJson : Bytes
  date : String
  baseCreation : AtbCreation
  directAttestation : Bool
  allowUntrustedRequests : Bool
  clientQuotes : List AttestQuote
  challenge : Option Bytes
  /-- The client's signatures; no header carries them. -/
  signatures : List Bytes
  ticket : Option SessionTicket
  provenance : Option ProvenanceChain
  encryptedHello : Option Bytes

namespace AtHsRequestHeaders

variable (codecs : HeaderCodecs)

/-- The headers of a request in the order in which they are inserted; `quotes` is the value of
`Attest-Quotes`. -/
def fields (headers : AtHsRequestHeaders) (quotes : Option HeaderValue) :
    List (HeaderName × Option HeaderValue) :=
  let sfv := codecs.sfv
  [(hdrAttestVersions, some (sfv.encodeTokenList (headers.versions.map (·.display)))),
   (hdrAttestCipherSuites, some (sfv.encodeTokenList (headers.cipherSuites.map (·.display)))),
   (hdrAttestRandom, some (sfv.encodeBytesSfv headers.random)),
   (hdrAttestKeyShares, some (sfv.encodeBytesSfv headers.keySharesJson)),
   (hdrAttestPolicies,
      some (sfv.valueOr (policiesText headers.directAttestation headers.allowUntrustedRequests) "")),
   (hdrAttestDate, some (sfv.valueOr headers.date "")),
   (hdrAttestBaseCreation, some (sfv.encodeTokenSfv headers.baseCreation.token)),
   (hdrAttestQuotes, quotes),
   (hdrAttestChallenge, headers.challenge.map sfv.encodeBytesSfv),
   (hdrAttestTicket, (headers.ticket.bind codecs.tickets.render).map sfv.encodeBytesSfv),
   (hdrAttestProvenance, (headers.provenance.bind codecs.provenance.render).map sfv.encodeBytesSfv),
   (hdrAttestEncryptedHello, headers.encryptedHello.map sfv.encodeBytesSfv)]

/-- `AtHsRequestHeaders::encode`; nothing when it panics. -/
def encode (headers : AtHsRequestHeaders) : Option HeaderMap :=
  (codecs.sfv.quotesValue headers.clientQuotes).map fun quotes =>
    .ofFields (headers.fields codecs quotes)

/-- `AtHsRequestHeaders::decode`. -/
def decode (allowDeprecated : Bool) (map : HeaderMap) : Except HeaderError AtHsRequestHeaders := do
  let parser := codecs.sfv.toParser
  let random ← map.decodeBytesSfv parser hdrAttestRandom
  let keySharesJson ← map.decodeBytesSfv parser hdrAttestKeyShares
  let cipherSuiteStrs ← map.decodeTokenListStrings parser hdrAttestCipherSuites
  let cipherSuites := cipherSuiteStrs.filterMap (CipherSuite.fromStr allowDeprecated)
  if cipherSuites.isEmpty then .error (.Missing hdrAttestCipherSuites.text) else
  let versionStrs ← map.decodeTokenListStrings parser hdrAttestVersions
  let versions := versionStrs.filterMap ProtocolVersion.fromStr
  if versions.isEmpty then .error (.Missing hdrAttestVersions.text) else
  let clientQuotes ← map.decodeQuotesSfv parser hdrAttestQuotes
  let policies := map.decodePoliciesSfv parser hdrAttestPolicies
  return {
    cipherSuites, random, versions, keySharesJson, clientQuotes
    date := (map.getText hdrAttestDate).getD ""
    baseCreation := .ofText ((map.getText hdrAttestBaseCreation).getD "new")
    directAttestation := policies.1
    allowUntrustedRequests := policies.2
    challenge := (map.decodeBytesSfv parser hdrAttestChallenge).toOption
    signatures := []
    ticket := map.decodeJson parser codecs.tickets hdrAttestTicket
    provenance := map.decodeJson parser codecs.provenance hdrAttestProvenance
    encryptedHello := (map.decodeBytesSfv parser hdrAttestEncryptedHello).toOption }

end AtHsRequestHeaders

/-! ## Responses -/

/-- `AttestSecret`. -/
structure AttestSecret where
  index : UInt8
  ciphertext : Bytes
  tag : Bytes

/-- `TrustedCargo`. -/
structure TrustedCargo where
  keyIndex : UInt8
  encryptedMetadata : Bytes
  tag : Bytes
  paddingLength : UInt16

/-- `AtHsResponseHeaders`. -/
structure AtHsResponseHeaders where
  cipherSuite : CipherSuite
  random : Bytes
  keyShareJson : Bytes
  baseId : AtbId
  version : ProtocolVersion
  expiresSecs : Nat
  quotes : List AttestQuote
  /-- No header carries the secrets, nor the cargo. -/
  secrets : List AttestSecret
  cargo : Option TrustedCargo
  ticketResumption : Option SessionTicket
  serverSignatures : List Bytes
  zkProof : Option Bytes

namespace AtHsResponseHeaders

variable (codecs : HeaderCodecs)

/-- The headers of a response in the order in which they are inserted; `quotes` is the value of
`Attest-Quotes`. -/
def fields (headers : AtHsResponseHeaders) (quotes : Option HeaderValue) :
    List (HeaderName × Option HeaderValue) :=
  let sfv := codecs.sfv
  [(hdrAttestVersion, some (sfv.encodeTokenSfv headers.version.display)),
   (hdrAttestCipherSuite, some (sfv.encodeTokenSfv headers.cipherSuite.display)),
   (hdrAttestRandom, some (sfv.encodeBytesSfv headers.random)),
   (hdrAttestKeyShare, some (sfv.encodeBytesSfv headers.keyShareJson)),
   (hdrAttestBaseId, some (sfv.valueOr (codecs.uuid.display headers.baseId) "")),
   (hdrAttestExpires, some (sfv.encodeIntegerSfv headers.expiresSecs)),
   (hdrAttestQuotes, quotes),
   (hdrAttestTicketResumption,
      (headers.ticketResumption.bind codecs.tickets.render).map sfv.encodeBytesSfv),
   (hdrAttestServerSignatures, sfv.signaturesValue headers.serverSignatures),
   (hdrAttestZkProof, headers.zkProof.map sfv.encodeBytesSfv)]

/-- `AtHsResponseHeaders::encode`; nothing when it panics. -/
def encode (headers : AtHsResponseHeaders) : Option HeaderMap :=
  (codecs.sfv.quotesValue headers.quotes).map fun quotes => .ofFields (headers.fields codecs quotes)

/-- `AtHsResponseHeaders::decode`. -/
def decode (allowDeprecated : Bool) (map : HeaderMap) : Except HeaderError AtHsResponseHeaders := do
  let parser := codecs.sfv.toParser
  let random ← map.decodeBytesSfv parser hdrAttestRandom
  let keyShareJson ← map.decodeBytesSfv parser hdrAttestKeyShare
  let baseIdStr ← map.requireText hdrAttestBaseId
  let baseId ← (codecs.uuid.fromStr baseIdStr).mapError (.Invalid hdrAttestBaseId.text ·)
  let csStr ← map.requireText hdrAttestCipherSuite
  let cipherSuite ← match CipherSuite.fromStr allowDeprecated (trim csStr) with
    | none => .error (.Invalid hdrAttestCipherSuite.text "unrecognised cipher suite")
    | some suite => .ok suite
  let verStr ← map.requireText hdrAttestVersion
  let version ← match ProtocolVersion.fromStr (trim verStr) with
    | none => .error (.Invalid hdrAttestVersion.text "unrecognised protocol version")
    | some version => .ok version
  let quotes ← map.decodeQuotesSfv parser hdrAttestQuotes
  return {
    cipherSuite, random, keyShareJson, baseId, version, quotes
    expiresSecs := map.decodeExpires parser
    secrets := []
    cargo := none
    ticketResumption := map.decodeJson parser codecs.tickets hdrAttestTicketResumption
    serverSignatures := map.decodeSignatures parser
    zkProof := (map.decodeBytesSfv parser hdrAttestZkProof).toOption }

end AtHsResponseHeaders

/-! ## Preflight -/

/-- `PreflightResponseHeaders`. -/
structure PreflightResponseHeaders where
  cipherSuites : List CipherSuite
  versions : List ProtocolVersion
  challenge : Bytes
  obliviousSupported : Bool

namespace PreflightResponseHeaders

/-- The headers of a preflight response in the order in which they are inserted. -/
def fields (sfv : Sfv) (headers : PreflightResponseHeaders) : List (HeaderName × Option HeaderValue) :=
  [(hdrAttestSupportedCipherSuites, some (sfv.encodeTokenList (headers.cipherSuites.map (·.display)))),
   (hdrAttestSupportedVersions, some (sfv.encodeTokenList (headers.versions.map (·.display)))),
   (hdrAttestChallenge, some (sfv.encodeBytesSfv headers.challenge)),
   (hdrAttestTransport,
      if headers.obliviousSupported then some (sfv.encodeTokenSfv "oblivious") else none)]

/-- `PreflightResponseHeaders::encode`. -/
def encode (sfv : Sfv) (headers : PreflightResponseHeaders) : HeaderMap :=
  .ofFields (headers.fields sfv)

/-- `str::contains`. -/
def containsText (text part : String) : Bool :=
  text.toList.tails.any (part.toList.isPrefixOf ·)

/-- `PreflightResponseHeaders::decode`. -/
def decode (parser : Parser) (allowDeprecated : Bool) (map : HeaderMap) :
    Except HeaderError PreflightResponseHeaders := do
  let cipherSuitesStrs ← map.decodeTokenListStrings parser hdrAttestSupportedCipherSuites
  let versionsStrs ← map.decodeTokenListStrings parser hdrAttestSupportedVersions
  let challenge ← map.decodeBytesSfv parser hdrAttestChallenge
  return {
    cipherSuites := cipherSuitesStrs.filterMap (CipherSuite.fromStr allowDeprecated)
    versions := versionsStrs.filterMap ProtocolVersion.fromStr
    challenge
    obliviousSupported := (map.getText hdrAttestTransport).any (containsText · "oblivious") }

end PreflightResponseHeaders

/-! ## What is written -/

section Written

variable {sfv : Sfv} {text : String} {texts : List String} {quote : AttestQuote}
  {quotes : List AttestQuote} {entries : List ListEntry}

namespace Sfv

/-- A printable text becomes a value with that text. -/
theorem valueOr_string (valid : sfv.isString text = true) (fallback : String) :
    sfv.valueOr text fallback = .ofText text := by
  rw [valueOr, sfv.fromStr_string text valid, Option.getD_some]

/-- So does a serialised item. -/
theorem valueOr_item {value : Item} (written : value.Written sfv.isToken sfv.isString)
    (fallback : String) :
    sfv.valueOr (sfv.serializeItem value) fallback = .ofText (sfv.serializeItem value) :=
  valueOr_string (sfv.serializeItem_string value written) fallback

/-- And a serialised list. -/
theorem listValue_eq (sfv : Sfv) (full : entries ≠ [])
    (written : ∀ entry ∈ entries, entry.Written sfv.isToken sfv.isString) :
    ∃ text, sfv.serializeList entries = some text ∧ sfv.listValue entries = some (.ofText text) := by
  obtain ⟨text, serialized⟩ := Option.isSome_iff_exists.mp (sfv.serializeList_isSome entries full)
  have valid := sfv.serializeList_string entries text written serialized
  refine ⟨text, serialized, ?_⟩
  rw [listValue, serialized, Option.bind_some, sfv.fromStr_string text valid]

theorem tokenOrString_token (valid : sfv.isToken text = true) :
    sfv.tokenOrString text = .token text := if_pos valid

theorem tokenOrString_written (sfv : Sfv) (text : String) :
    (Item.new (sfv.tokenOrString text)).Written sfv.isToken sfv.isString := by
  refine Item.new_written ?_
  unfold tokenOrString
  split
  · assumption
  · split
    · assumption
    · exact sfv.isToken_word "unknown" (by decide)

theorem expected_eq_some {accepts : String → Bool} {result : String} :
    expected accepts text = some result ↔ accepts text = true ∧ text = result := by
  rw [expected, Option.ite_none_right_eq_some, Option.some.injEq]

theorem mapM_expected {accepts : String → Bool} {results : List String}
    (made : texts.mapM (expected accepts) = some results) :
    results = texts ∧ ∀ text ∈ texts, accepts text = true := by
  induction texts generalizing results with
  | nil =>
    cases made
    simp
  | cons text texts ih =>
    rw [List.mapM_cons] at made
    obtain ⟨first, took, made⟩ := Option.bind_eq_some_iff.mp made
    obtain ⟨rest, later, made⟩ := Option.bind_eq_some_iff.mp made
    cases made
    obtain ⟨valid, rfl⟩ := expected_eq_some.mp took
    obtain ⟨rfl, others⟩ := ih later
    exact ⟨rfl, List.forall_mem_cons.mpr ⟨valid, others⟩⟩

theorem formatParams_eq_some {format : QuoteFormat} {params : List (String × BareItem)}
    (made : sfv.formatParams format = some params) :
    (params = [] ∨ ∃ token, sfv.isToken token = true ∧ params = [("format", .token token)]) ∧
      ((params.lookup "format").bind BareItem.asToken).getD "raw" = format.display := by
  unfold formatParams at made
  by_cases raw : format = .Raw
  · rw [if_pos raw] at made
    cases made
    exact ⟨.inl rfl, by rw [raw]; rfl⟩
  · rw [if_neg raw] at made
    obtain ⟨token, took, rfl⟩ := Option.map_eq_some_iff.mp made
    obtain ⟨valid, rfl⟩ := expected_eq_some.mp took
    exact ⟨.inr ⟨_, valid, rfl⟩, by simp [BareItem.asToken]⟩

end Sfv

/-- What of a quote travels: all but its user data, the type and format as their names are read. -/
def quoteOnWire (quote : AttestQuote) : AttestQuote :=
  { quote with
    quoteType := .fromStr quote.quoteType.display
    format := .fromStr quote.format.display
    qudd := [] }

/-- The inner list of a quote can be written, and is read as what of the quote travels. -/
theorem Sfv.quoteEntry_eq_some {entry : ListEntry} (made : sfv.quoteEntry quote = some entry) :
    entry.Written sfv.isToken sfv.isString ∧ decodeQuote entry = some (quoteOnWire quote) := by
  obtain ⟨type, typed, made⟩ := Option.bind_eq_some_iff.mp made
  obtain ⟨params, formatted, made⟩ := Option.bind_eq_some_iff.mp made
  obtain ⟨uris, addressed, made⟩ := Option.bind_eq_some_iff.mp made
  cases made
  obtain ⟨validType, rfl⟩ := expected_eq_some.mp typed
  obtain ⟨written, read⟩ := formatParams_eq_some formatted
  obtain ⟨rfl, validUris⟩ := mapM_expected addressed
  constructor
  · intro item member
    simp only [List.mem_append, List.mem_cons, List.not_mem_nil, or_false, List.mem_map] at member
    rcases member with (rfl | rfl) | ⟨uri, listed, rfl⟩
    · exact Item.new_written validType
    · exact ⟨trivial, written⟩
    · exact Item.new_written (validUris uri listed)
  · have addresses : (quote.collateralUris.map fun uri => Item.new (.string uri)).filterMap
        (·.bareItem.asString) = quote.collateralUris := by
      rw [List.filterMap_map]
      exact List.filterMap_some
    simp only [decodeQuote, List.cons_append, List.nil_append, read, quoteOnWire, addresses]
    simp [Item.new, BareItem.asToken, BareItem.asByteSequence]

theorem Sfv.quoteEntries_eq_some (made : quotes.mapM sfv.quoteEntry = some entries) :
    (∀ entry ∈ entries, entry.Written sfv.isToken sfv.isString) ∧
      entries.filterMap decodeQuote = quotes.map quoteOnWire := by
  induction quotes generalizing entries with
  | nil =>
    cases made
    simp
  | cons quote rest ih =>
    rw [List.mapM_cons] at made
    obtain ⟨entry, first, made⟩ := Option.bind_eq_some_iff.mp made
    obtain ⟨others, later, made⟩ := Option.bind_eq_some_iff.mp made
    cases made
    obtain ⟨written, read⟩ := quoteEntry_eq_some first
    obtain ⟨writtenToo, readToo⟩ := ih later
    refine ⟨List.forall_mem_cons.mpr ⟨written, writtenToo⟩, ?_⟩
    rw [List.filterMap_cons_some read, readToo, List.map_cons]

/-- A quote whose conversions all succeed: what is unknown is a token, and the addresses are strings. -/
structure Sfv.Writable (sfv : Sfv) (quote : AttestQuote) : Prop where
  type : ∀ name, quote.quoteType = .Unknown name → sfv.isToken name = true
  format : ∀ name, quote.format = .Unknown name → sfv.isToken name = true
  uris : ∀ uri ∈ quote.collateralUris, sfv.isString uri = true

theorem isSome_mapM {α β : Type} (f : α → Option β) (values : List α) :
    (values.mapM f).isSome ↔ ∀ value ∈ values, (f value).isSome := by
  induction values with
  | nil => simp
  | cons value values ih =>
    rw [List.forall_mem_cons, ← ih, List.mapM_cons]
    cases f value with
    | none => simp
    | some first => cases values.mapM f <;> simp

theorem Sfv.isSome_expected (accepts : String → Bool) :
    (expected accepts text).isSome ↔ accepts text = true := by
  unfold expected
  split <;> simp_all

theorem Sfv.isSome_quoteType (sfv : Sfv) (type : QuoteType) :
    (expected sfv.isToken type.display).isSome ↔
      ∀ name, type = .Unknown name → sfv.isToken name = true := by
  rw [isSome_expected]
  cases type with
  | Unknown name => simp [QuoteType.display]
  | _ =>
    simp only [reduceCtorEq, false_implies, implies_true, iff_true]
    exact sfv.isToken_word _ (by decide)

theorem Sfv.isSome_formatParams (sfv : Sfv) (format : QuoteFormat) :
    (sfv.formatParams format).isSome ↔ ∀ name, format = .Unknown name → sfv.isToken name = true := by
  by_cases raw : format = .Raw
  · simp [formatParams, raw]
  rw [formatParams, if_neg raw, Option.isSome_map, isSome_expected]
  cases format with
  | Unknown name => simp [QuoteFormat.display]
  | _ =>
    simp only [reduceCtorEq, false_implies, implies_true, iff_true]
    exact sfv.isToken_word _ (by decide)

/-- A quote is written exactly if it is writable. -/
theorem Sfv.isSome_quoteEntry (sfv : Sfv) (quote : AttestQuote) :
    (sfv.quoteEntry quote).isSome ↔ sfv.Writable quote := by
  have uris : (quote.collateralUris.mapM (expected sfv.isString)).isSome ↔
      ∀ uri ∈ quote.collateralUris, sfv.isString uri = true := by
    simp only [isSome_mapM, isSome_expected]
  have parts : (sfv.quoteEntry quote).isSome ↔
      (expected sfv.isToken quote.quoteType.display).isSome ∧ (sfv.formatParams quote.format).isSome ∧
        (quote.collateralUris.mapM (expected sfv.isString)).isSome := by
    unfold quoteEntry
    cases expected sfv.isToken quote.quoteType.display <;> cases sfv.formatParams quote.format <;>
      cases quote.collateralUris.mapM (expected sfv.isString) <;> simp
  rw [parts, sfv.isSome_quoteType, sfv.isSome_formatParams, uris]
  exact ⟨fun held => ⟨held.1, held.2.1, held.2.2⟩, fun held => ⟨held.type, held.format, held.uris⟩⟩

/-- The value of `Attest-Quotes` is made exactly if every quote is writable. -/
theorem Sfv.isSome_quotesValue (sfv : Sfv) (quotes : List AttestQuote) :
    (sfv.quotesValue quotes).isSome ↔ ∀ quote ∈ quotes, sfv.Writable quote := by
  simp only [← sfv.isSome_quoteEntry, ← isSome_mapM]
  cases quotes with
  | nil => simp [quotesValue]
  | cons quote quotes => rw [quotesValue, if_neg (by simp), Option.isSome_map]

end Written

/-! ## What is read back -/

namespace HeaderMap

variable {sfv : Sfv} {map : HeaderMap} {name : HeaderName}

theorem decodeBytesSfv_encode {bytes : Bytes} (held : map.getAll name = [sfv.encodeBytesSfv bytes]) :
    map.decodeBytesSfv sfv.toParser name = .ok bytes := by
  have written : (Item.new (.byteSequence bytes)).Written sfv.isToken sfv.isString :=
    Item.new_written trivial
  rw [Sfv.encodeBytesSfv, Sfv.valueOr_item written] at held
  have parsed := sfv.item_serializeItem _ written
  simp only [decodeBytesSfv, get, held, List.head?_cons, HeaderValue.text_ofText, parsed]
  rfl

theorem decodeBytesSfv_optional {bytes : Option Bytes}
    (held : map.getAll name = (bytes.map sfv.encodeBytesSfv).toList) :
    (map.decodeBytesSfv sfv.toParser name).toOption = bytes := by
  cases bytes with
  | none => simp [decodeBytesSfv, get, held, Except.toOption]
  | some bytes =>
    rw [decodeBytesSfv_encode held]
    rfl

theorem entries_list {entries : List ListEntry} {text : String}
    (written : ∀ entry ∈ entries, entry.Written sfv.isToken sfv.isString)
    (serialized : sfv.serializeList entries = some text) : sfv.entries name text = .ok entries := by
  rw [Parser.entries, if_neg (sfv.serializeList_full entries text serialized),
    sfv.list_serializeList entries text written serialized]

/-- A list of tokens is read back, an empty one too. -/
theorem decodeTokenListStrings_encode {texts : List String}
    (valid : ∀ text ∈ texts, sfv.isToken text = true)
    (held : map.getAll name = [sfv.encodeTokenList texts]) :
    map.decodeTokenListStrings sfv.toParser name = .ok texts := by
  let entries := texts.map fun text => ListEntry.item (.new (sfv.tokenOrString text))
  have written : ∀ entry ∈ entries, entry.Written sfv.isToken sfv.isString := by
    intro entry member
    obtain ⟨text, _, rfl⟩ := List.mem_map.mp member
    exact sfv.tokenOrString_written text
  have readBack : entries.filterMap ListEntry.tokenText = texts := by
    rw [List.filterMap_map]
    conv_rhs => rw [← List.filterMap_some (l := texts)]
    apply List.filterMap_congr
    intro text member
    simp [ListEntry.tokenText, Item.new, Sfv.tokenOrString_token (valid text member), BareItem.asToken]
  cases serialized : sfv.serializeList entries with
  | none =>
    have empty : texts = [] := by
      by_contra full
      have some := sfv.serializeList_isSome entries (by simpa [entries] using full)
      rw [serialized] at some
      cases some
    have shown : sfv.encodeTokenList texts = .ofText "" := by rw [Sfv.encodeTokenList, serialized]
    rw [shown] at held
    obtain ⟨one, joined, _⟩ := texts_ofText held
    rw [decodeTokenListStrings, one, joined, empty]
    rfl
  | some text =>
    have shown : sfv.encodeTokenList texts = .ofText text := by
      rw [Sfv.encodeTokenList, serialized]
      exact Sfv.valueOr_string (sfv.serializeList_string _ _ written serialized) ""
    rw [shown] at held
    obtain ⟨one, joined, _⟩ := texts_ofText held
    rw [decodeTokenListStrings, one, joined, entries_list written serialized]
    simp [Except.map, readBack]

theorem decodeQuotesSfv_encode {quotes : List AttestQuote} {value : Option HeaderValue}
    (encoded : sfv.quotesValue quotes = some value) (held : map.getAll name = value.toList) :
    map.decodeQuotesSfv sfv.toParser name = .ok (quotes.map quoteOnWire) := by
  unfold Sfv.quotesValue at encoded
  by_cases empty : quotes.isEmpty
  · rw [if_pos empty] at encoded
    cases encoded
    simp [decodeQuotesSfv, HeaderMap.texts, held, List.isEmpty_iff.mp empty]
  · rw [if_neg empty] at encoded
    obtain ⟨entries, made, rfl⟩ := Option.map_eq_some_iff.mp encoded
    obtain ⟨written, read⟩ := Sfv.quoteEntries_eq_some made
    have full : entries ≠ [] := by
      rintro rfl
      rw [List.filterMap_nil, eq_comm, List.map_eq_nil_iff] at read
      exact empty (List.isEmpty_iff.mpr read)
    obtain ⟨text, serialized, shown⟩ := sfv.listValue_eq full written
    rw [shown] at held
    obtain ⟨one, joined, _⟩ := texts_ofText held
    rw [decodeQuotesSfv, one, joined, entries_list written serialized]
    simp [Except.map, read]

theorem decodePoliciesSfv_encode {direct allowUntrusted : Bool}
    (held : map.getAll name = [sfv.valueOr (policiesText direct allowUntrusted) ""]) :
    map.decodePoliciesSfv sfv.toParser name = (direct, allowUntrusted) := by
  have valid : sfv.isString (policiesText direct allowUntrusted) = true := by
    rw [sfv.isString_iff]
    have shown : (policiesText direct allowUntrusted).toList.all (fun c => ' ' ≤ c ∧ c ≤ '~') := by
      cases direct <;> cases allowUntrusted <;> decide
    simpa using shown
  rw [Sfv.valueOr_string valid] at held
  obtain ⟨one, joined, _⟩ := texts_ofText held
  rw [decodePoliciesSfv, one, joined, sfv.dictionary_policies]
  rfl

theorem getText_encodeTokenSfv (sfv : Sfv) {text : String} (valid : sfv.isToken text = true)
    (held : map.getAll name = [sfv.encodeTokenSfv text]) : map.getText name = some text := by
  rw [Sfv.encodeTokenSfv, Sfv.valueOr_item (sfv.tokenOrString_written text),
    Sfv.tokenOrString_token valid, sfv.serializeItem_token text valid] at held
  exact (texts_ofText held).2.2

theorem getText_valueOr (sfv : Sfv) {text : String} (valid : sfv.isString text = true)
    (held : map.getAll name = [sfv.valueOr text ""]) : map.getText name = some text := by
  rw [Sfv.valueOr_string valid] at held
  exact (texts_ofText held).2.2

theorem decodeJson_encode {α : Type} {codec : JsonCodec α} {value : Option α}
    (readsBack : codec.ReadsBack value)
    (held : map.getAll name = ((value.bind codec.render).map sfv.encodeBytesSfv).toList) :
    map.decodeJson sfv.toParser codec name = value := by
  rw [decodeJson, decodeBytesSfv_optional held]
  cases value with
  | none => rfl
  | some value =>
    obtain ⟨bytes, rendered, parsed⟩ := readsBack value rfl
    rw [Option.bind_some, rendered, Option.bind_some, parsed]
    rfl

theorem decodeExpires_encode {secs : Nat}
    (held : map.getAll hdrAttestExpires = [sfv.encodeIntegerSfv secs]) :
    map.decodeExpires sfv.toParser = min secs 999999999999999 := by
  have written : (Item.new (.integer (min secs 999999999999999 : Nat))).Written sfv.isToken
      sfv.isString := by
    refine Item.new_written ?_
    constructor <;> omega
  rw [Sfv.encodeIntegerSfv, Sfv.valueOr_item written] at held
  have parsed := sfv.item_serializeItem _ written
  rw [decodeExpires, (texts_ofText held).2.2]
  simp only [parsed]
  simp only [Except.toOption, Option.bind_some, Item.new, BareItem.asInteger, Option.map_some]
  rw [if_pos (Int.natCast_nonneg _), Int.toNat_natCast]

theorem decodeSignatures_encode {signatures : List Bytes}
    (held : map.getAll hdrAttestServerSignatures = (sfv.signaturesValue signatures).toList) :
    map.decodeSignatures sfv.toParser = signatures := by
  unfold Sfv.signaturesValue at held
  by_cases empty : signatures.isEmpty
  · rw [if_pos empty] at held
    simp [decodeSignatures, getText, get, held, List.isEmpty_iff.mp empty]
  · rw [if_neg empty] at held
    let entries := signatures.map fun signature => ListEntry.item (.new (.byteSequence signature))
    have full : entries ≠ [] := by
      simpa [entries] using empty
    have written : ∀ entry ∈ entries, entry.Written sfv.isToken sfv.isString := by
      intro entry member
      obtain ⟨signature, _, rfl⟩ := List.mem_map.mp member
      exact Item.new_written trivial
    obtain ⟨text, serialized, shown⟩ := sfv.listValue_eq full written
    have readBack : entries.filterMap ListEntry.asByteSequence = signatures := by
      rw [List.filterMap_map]
      exact List.filterMap_some
    rw [shown] at held
    rw [decodeSignatures, (texts_ofText held).2.2]
    simp only [sfv.list_serializeList entries text written serialized, readBack]

end HeaderMap

section Names

variable (sfv : Sfv) (allowDeprecated : Bool)

theorem isToken_suites (suites : List CipherSuite) :
    ∀ text ∈ suites.map (·.display), sfv.isToken text = true := by
  intro text member
  obtain ⟨suite, _, rfl⟩ := List.mem_map.mp member
  apply sfv.isToken_word
  cases suite <;> decide

theorem isToken_versions (versions : List ProtocolVersion) :
    ∀ text ∈ versions.map (·.display), sfv.isToken text = true := by
  intro text member
  obtain ⟨version, _, rfl⟩ := List.mem_map.mp member
  apply sfv.isToken_word
  cases version <;> decide

theorem suites_read {suites : List CipherSuite}
    (current : ∀ suite ∈ suites, suite ≠ .P256Aes256GcmSha256) :
    (suites.map (·.display)).filterMap (CipherSuite.fromStr allowDeprecated) = suites := by
  induction suites with
  | nil => rfl
  | cons suite rest ih =>
    have first := CipherSuite.fromStr_display allowDeprecated (current suite List.mem_cons_self)
    have later := ih fun other member => current other (List.mem_cons_of_mem _ member)
    simp only [List.map_cons, List.filterMap_cons, first, later]

theorem versions_read (versions : List ProtocolVersion) :
    (versions.map (·.display)).filterMap ProtocolVersion.fromStr = versions := by
  induction versions with
  | nil => rfl
  | cons version rest ih =>
    simp only [List.map_cons, List.filterMap_cons, ProtocolVersion.fromStr_display, ih]

theorem trim_suite (suite : CipherSuite) : trim suite.display = suite.display := by
  cases suite <;> decide

theorem trim_version (version : ProtocolVersion) : trim version.display = version.display := by
  cases version <;> decide

theorem AtbCreation.ofText_token (creation : AtbCreation) : ofText creation.token = creation := by
  cases creation <;> decide

theorem AtbCreation.isToken_token (creation : AtbCreation) : sfv.isToken creation.token = true := by
  apply sfv.isToken_word
  cases creation <;> decide

end Names

namespace AtHsRequestHeaders

/-- The names of the headers of a request. -/
def names : List HeaderName :=
  [hdrAttestVersions, hdrAttestCipherSuites, hdrAttestRandom, hdrAttestKeyShares, hdrAttestPolicies,
   hdrAttestDate, hdrAttestBaseCreation, hdrAttestQuotes, hdrAttestChallenge, hdrAttestTicket,
   hdrAttestProvenance, hdrAttestEncryptedHello]

theorem names_nodup : names.Nodup := by decide +kernel

variable {codecs : HeaderCodecs} {headers : AtHsRequestHeaders} {map : HeaderMap}

/-- The headers of a request can be written exactly if each of its quotes is writable. -/
theorem isSome_encode (codecs : HeaderCodecs) (headers : AtHsRequestHeaders) :
    (headers.encode codecs).isSome ↔ ∀ quote ∈ headers.clientQuotes, codecs.sfv.Writable quote := by
  rw [encode, Option.isSome_map, codecs.sfv.isSome_quotesValue]

/-- A request is read back from its headers as far as it travels: its signatures do not, nor does the
user data of its quotes. A date that is no visible text is read as `date`. -/
theorem decode_encode (allowDeprecated : Bool) (written : headers.encode codecs = some map)
    (suites : headers.cipherSuites ≠ [])
    (current : ∀ suite ∈ headers.cipherSuites, suite ≠ .P256Aes256GcmSha256)
    (versions : headers.versions ≠ []) (ticket : codecs.tickets.ReadsBack headers.ticket)
    (provenance : codecs.provenance.ReadsBack headers.provenance) :
    ∃ date, (codecs.sfv.isString headers.date = true → date = headers.date) ∧
      decode codecs allowDeprecated map = .ok { headers with
        date
        clientQuotes := headers.clientQuotes.map quoteOnWire
        signatures := [] } := by
  obtain ⟨value, quoted, rfl⟩ := Option.map_eq_some_iff.mp written
  -- The map is known only through its headers from here on.
  have held := HeaderMap.getAll_ofFields
    (show ((headers.fields codecs value).map (·.1)).Nodup from names_nodup)
  generalize HeaderMap.ofFields (headers.fields codecs value) = map at held ⊢
  simp only [fields, List.forall_mem_cons, Option.toList_some] at held
  obtain ⟨versionNames, suiteNames, random, shares, policies, date, creation, quotes, challenge,
    resumes, passed, hello, -⟩ := held
  refine ⟨(map.getText hdrAttestDate).getD "", ?_, ?_⟩
  · intro shown
    rw [HeaderMap.getText_valueOr codecs.sfv shown date, Option.getD_some]
  · have someSuite := List.isEmpty_eq_false_iff.mpr suites
    have someVersion := List.isEmpty_eq_false_iff.mpr versions
    simp only [decode, HeaderMap.decodeBytesSfv_encode random, HeaderMap.decodeBytesSfv_encode shares,
      HeaderMap.decodeTokenListStrings_encode (isToken_suites _ _) suiteNames,
      HeaderMap.decodeTokenListStrings_encode (isToken_versions _ _) versionNames,
      HeaderMap.decodeQuotesSfv_encode quoted quotes, HeaderMap.decodePoliciesSfv_encode policies,
      HeaderMap.getText_encodeTokenSfv codecs.sfv (AtbCreation.isToken_token codecs.sfv _) creation,
      HeaderMap.decodeBytesSfv_optional challenge, HeaderMap.decodeBytesSfv_optional hello,
      HeaderMap.decodeJson_encode ticket resumes, HeaderMap.decodeJson_encode provenance passed, bind,
      Except.bind, suites_read allowDeprecated current, versions_read, someSuite, someVersion,
      Bool.false_eq_true, if_false, Option.getD_some, AtbCreation.ofText_token]
    rfl

end AtHsRequestHeaders

namespace AtHsResponseHeaders

/-- The names of the headers of a response. -/
def names : List HeaderName :=
  [hdrAttestVersion, hdrAttestCipherSuite, hdrAttestRandom, hdrAttestKeyShare, hdrAttestBaseId,
   hdrAttestExpires, hdrAttestQuotes, hdrAttestTicketResumption, hdrAttestServerSignatures,
   hdrAttestZkProof]

theorem names_nodup : names.Nodup := by decide +kernel

variable {codecs : HeaderCodecs} {headers : AtHsResponseHeaders} {map : HeaderMap}

/-- The headers of a response can be written exactly if each of its quotes is writable. -/
theorem isSome_encode (codecs : HeaderCodecs) (headers : AtHsResponseHeaders) :
    (headers.encode codecs).isSome ↔ ∀ quote ∈ headers.quotes, codecs.sfv.Writable quote := by
  rw [encode, Option.isSome_map, codecs.sfv.isSome_quotesValue]

/-- A response is read back from its headers as far as it travels: its secrets and its cargo do not,
nor does the user data of its quotes. -/
theorem decode_encode (allowDeprecated : Bool) (written : headers.encode codecs = some map)
    (current : headers.cipherSuite ≠ .P256Aes256GcmSha256)
    (ticket : codecs.tickets.ReadsBack headers.ticketResumption) :
    decode codecs allowDeprecated map = .ok { headers with
      quotes := headers.quotes.map quoteOnWire
      expiresSecs := min headers.expiresSecs 999999999999999
      secrets := []
      cargo := none } := by
  obtain ⟨value, quoted, rfl⟩ := Option.map_eq_some_iff.mp written
  have held := HeaderMap.getAll_ofFields
    (show ((headers.fields codecs value).map (·.1)).Nodup from names_nodup)
  generalize HeaderMap.ofFields (headers.fields codecs value) = map at held ⊢
  simp only [fields, List.forall_mem_cons, Option.toList_some] at held
  obtain ⟨version, suite, random, share, baseId, expires, quotes, resumes, signatures, proof, -⟩ := held
  have isSuite := isToken_suites codecs.sfv [headers.cipherSuite] _ List.mem_cons_self
  have isVersion := isToken_versions codecs.sfv [headers.version] _ List.mem_cons_self
  simp only [decode, HeaderMap.requireText, HeaderMap.decodeBytesSfv_encode random,
    HeaderMap.decodeBytesSfv_encode share,
    HeaderMap.getText_valueOr codecs.sfv (codecs.uuid_string _) baseId,
    HeaderMap.getText_encodeTokenSfv codecs.sfv isSuite suite,
    HeaderMap.getText_encodeTokenSfv codecs.sfv isVersion version,
    HeaderMap.decodeQuotesSfv_encode quoted quotes, HeaderMap.decodeExpires_encode expires,
    HeaderMap.decodeSignatures_encode signatures, HeaderMap.decodeJson_encode ticket resumes,
    HeaderMap.decodeBytesSfv_optional proof, bind, Except.bind, Except.mapError,
    codecs.uuid.fromStr_display, trim_suite, trim_version,
    CipherSuite.fromStr_display allowDeprecated current, ProtocolVersion.fromStr_display]
  rfl

end AtHsResponseHeaders

/-- A preflight response is read with the challenge it was written with. -/
theorem PreflightResponseHeaders.decode_encode (sfv : Sfv) (allowDeprecated : Bool)
    (headers : PreflightResponseHeaders) :
    ∃ read, decode sfv.toParser allowDeprecated (headers.encode sfv) = .ok read ∧
      read.challenge = headers.challenge := by
  have distinct : [hdrAttestSupportedCipherSuites, hdrAttestSupportedVersions, hdrAttestChallenge,
      hdrAttestTransport].Nodup := by decide +kernel
  have held := HeaderMap.getAll_ofFields (show ((headers.fields sfv).map (·.1)).Nodup from distinct)
  rw [encode]
  generalize HeaderMap.ofFields (headers.fields sfv) = map at held ⊢
  simp only [fields, List.forall_mem_cons, Option.toList_some] at held
  obtain ⟨suites, versions, challenge, -⟩ := held
  simp only [decode, HeaderMap.decodeTokenListStrings_encode (isToken_suites _ _) suites,
    HeaderMap.decodeTokenListStrings_encode (isToken_versions _ _) versions,
    HeaderMap.decodeBytesSfv_encode challenge, bind, Except.bind]
  exact ⟨_, rfl, rfl⟩

end OpenHttpa.Headers
