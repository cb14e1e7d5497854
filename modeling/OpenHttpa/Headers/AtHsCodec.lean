import OpenHttpa.Headers.PlainCodecs

/-!
# Headers that say all of a record

The headers of a handshake carry a record of theirs whole, but for the user data of its quotes, when the
record is well formed: what is unknown in a quote is a token that is no variant's name, and nothing is in
a field without a header. They can be written at all exactly when the quotes are writable.
-/
namespace OpenHttpa.Headers

open OpenHttpa.Core Proto

/-- The names of the quote types. -/
def namedTypes : List String :=
  ["sgx", "tdx", "sev_snp", "trustzone", "tpm", "nvidia_gpu", "aws_nitro", "zk_compressed", "mock"]

/-- The names of the quote formats. -/
def namedFormats : List String := ["raw", "eat", "sev_snp_bundle_v1", "tdx_bundle_v1"]

/-- A quote that can be written and is read as itself: what is unknown is a token that is no variant's
name, and the addresses are strings. -/
structure QuoteWellFormed (sfv : Sfv) (quote : AttestQuote) : Prop where
  type : ∀ name, quote.quoteType = .Unknown name → sfv.isToken name = true ∧ name ∉ namedTypes
  format : ∀ name, quote.format = .Unknown name → sfv.isToken name = true ∧ name ∉ namedFormats
  uris : ∀ uri ∈ quote.collateralUris, sfv.isString uri = true

/-- A quote without its user data. -/
def withoutQudd (quote : AttestQuote) : AttestQuote := { quote with qudd := [] }

section Quotes

variable {sfv : Sfv} {quote : AttestQuote} {quotes : List AttestQuote}

theorem QuoteWellFormed.type_read (wellFormed : QuoteWellFormed sfv quote) :
    QuoteType.fromStr quote.quoteType.display = quote.quoteType := by
  cases variant : quote.quoteType with
  | Unknown name =>
    have other := (wellFormed.type name variant).2
    simp only [namedTypes, List.mem_cons, List.not_mem_nil, or_false, not_or] at other
    simp [QuoteType.display, QuoteType.fromStr, other]
  | _ => decide

theorem QuoteWellFormed.format_read (wellFormed : QuoteWellFormed sfv quote) :
    QuoteFormat.fromStr quote.format.display = quote.format := by
  cases variant : quote.format with
  | Unknown name =>
    have other := (wellFormed.format name variant).2
    simp only [namedFormats, List.mem_cons, List.not_mem_nil, or_false, not_or] at other
    simp [QuoteFormat.display, QuoteFormat.fromStr, other]
  | _ => decide

theorem QuoteWellFormed.writable (wellFormed : QuoteWellFormed sfv quote) : sfv.Writable quote where
  type name variant := (wellFormed.type name variant).1
  format name variant := (wellFormed.format name variant).1
  uris := wellFormed.uris

/-- Of well-formed quotes everything travels but their user data. -/
theorem map_quoteOnWire (wellFormed : ∀ quote ∈ quotes, QuoteWellFormed sfv quote) :
    quotes.map quoteOnWire = quotes.map withoutQudd := by
  refine List.map_congr_left fun quote member => ?_
  rw [quoteOnWire, (wellFormed quote member).type_read, (wellFormed quote member).format_read,
    withoutQudd]

end Quotes

/-- A request whose headers say all of it: there are suites and versions, none of them deprecated, the
date is visible, the quotes can be written, and nothing is in a field without a header. -/
structure AtHsRequestHeaders.WellFormed (sfv : Sfv) (headers : AtHsRequestHeaders) : Prop where
  suites : headers.cipherSuites ≠ []
  current : ∀ suite ∈ headers.cipherSuites, suite ≠ .P256Aes256GcmSha256
  versions : headers.versions ≠ []
  date : sfv.isString headers.date = true
  quotes : ∀ quote ∈ headers.clientQuotes, QuoteWellFormed sfv quote
  signatures : headers.signatures = []

/-- A response whose headers say all of it: the suite is not deprecated, the lifetime is a number that is
written, the quotes can be written, and nothing is in a field without a header. -/
structure AtHsResponseHeaders.WellFormed (sfv : Sfv) (headers : AtHsResponseHeaders) : Prop where
  current : headers.cipherSuite ≠ .P256Aes256GcmSha256
  expires : headers.expiresSecs ≤ 999999999999999
  quotes : ∀ quote ∈ headers.quotes, QuoteWellFormed sfv quote
  secrets : headers.secrets = []
  cargo : headers.cargo = none

/-- What is well formed is read back from its headers, with only the user data of its quotes gone. -/
theorem well_formed_read_back (codecs : HeaderCodecs) (allowDeprecated : Bool) :
    (∀ headers : AtHsRequestHeaders, headers.WellFormed codecs.sfv →
        codecs.tickets.ReadsBack headers.ticket → codecs.provenance.ReadsBack headers.provenance →
        ∃ map, headers.encode codecs = some map ∧
          AtHsRequestHeaders.decode codecs allowDeprecated map =
            .ok { headers with clientQuotes := headers.clientQuotes.map withoutQudd }) ∧
      ∀ headers : AtHsResponseHeaders, headers.WellFormed codecs.sfv →
        codecs.tickets.ReadsBack headers.ticketResumption →
        ∃ map, headers.encode codecs = some map ∧
          AtHsResponseHeaders.decode codecs allowDeprecated map =
            .ok { headers with quotes := headers.quotes.map withoutQudd } := by
  constructor
  · intro headers wellFormed ticket provenance
    obtain ⟨map, written⟩ := Option.isSome_iff_exists.mp ((headers.isSome_encode codecs).mpr
      fun quote member => (wellFormed.quotes quote member).writable)
    obtain ⟨date, shown, read⟩ := AtHsRequestHeaders.decode_encode allowDeprecated written
      wellFormed.suites wellFormed.current wellFormed.versions ticket provenance
    refine ⟨map, written, ?_⟩
    rw [read, shown wellFormed.date, map_quoteOnWire wellFormed.quotes, ← wellFormed.signatures]
  · intro headers wellFormed ticket
    obtain ⟨map, written⟩ := Option.isSome_iff_exists.mp ((headers.isSome_encode codecs).mpr
      fun quote member => (wellFormed.quotes quote member).writable)
    refine ⟨map, written, ?_⟩
    rw [AtHsResponseHeaders.decode_encode allowDeprecated written wellFormed.current ticket,
      map_quoteOnWire wellFormed.quotes, Nat.min_eq_left wellFormed.expires, ← wellFormed.secrets,
      ← wellFormed.cargo]

/-- The encoders return exactly when every quote is writable. -/
theorem encode_returns_iff (codecs : HeaderCodecs) :
    (∀ headers : AtHsRequestHeaders, (headers.encode codecs).isSome ↔
        ∀ quote ∈ headers.clientQuotes, codecs.sfv.Writable quote) ∧
      ∀ headers : AtHsResponseHeaders, (headers.encode codecs).isSome ↔
        ∀ quote ∈ headers.quotes, codecs.sfv.Writable quote :=
  ⟨AtHsRequestHeaders.isSome_encode codecs, AtHsResponseHeaders.isSome_encode codecs⟩

def someTicket : SessionTicket := ⟨[1, 2, 3], 3600, .X25519MlKem768Aes256GcmSha384, false⟩

/-- A quote of a type and a format that have no variant, with user data. -/
def unknownQuote : AttestQuote := ⟨.Unknown "keystone", .Unknown "cose", [7], [1], ["collateral/7"]⟩

theorem unknownQuote_wellFormed : QuoteWellFormed .plain unknownQuote where
  type name same := by
    cases same
    decide
  format name same := by
    cases same
    decide
  uris := by decide

def someRequest : AtHsRequestHeaders where
  cipherSuites := [.X25519MlKem768Aes256GcmSha384]
  random := [5]
  versions := [.V2]
  keySharesJson := [6]
  date := "2026-04-27T00:00:00Z"
  baseCreation := .Shared
  directAttestation := false
  allowUntrustedRequests := true
  clientQuotes := [unknownQuote]
  challenge := some [8]
  signatures := []
  ticket := some someTicket
  provenance := some ⟨[⟨1, "agent", [], "/agent", [], some unknownQuote, [], none⟩]⟩
  encryptedHello := none

def someResponse : AtHsResponseHeaders where
  cipherSuite := .X25519MlKem768Aes256GcmSha384
  random := [5]
  keyShareJson := [6]
  baseId := ⟨9⟩
  version := .V2
  expiresSecs := 999999999999999
  quotes := [unknownQuote]
  secrets := []
  cargo := none
  ticketResumption := some someTicket
  serverSignatures := [[1], [2]]
  zkProof := some [3]

/-- A type or a format that is no token and an address that is not printable: each makes both encoders
panic. -/
theorem unwritable_quotes_panic :
    [{ unknownQuote with quoteType := .Unknown "my tee" },
      { unknownQuote with format := .Unknown "" },
      { unknownQuote with collateralUris := ["https://pki.example/zürich"] }].map (fun quote =>
        (AtHsRequestHeaders.encode .plain { someRequest with clientQuotes := [quote] },
          AtHsResponseHeaders.encode .plain { someResponse with quotes := [quote] })) =
      [(none, none), (none, none), (none, none)] := rfl

/-- A request and a response are read back without the user data of their quotes, which had some. -/
theorem some_headers_read_back :
    (∃ map, someRequest.encode .plain = some map ∧ AtHsRequestHeaders.decode .plain false map =
        .ok { someRequest with clientQuotes := [withoutQudd unknownQuote] }) ∧
      (∃ map, someResponse.encode .plain = some map ∧ AtHsResponseHeaders.decode .plain false map =
        .ok { someResponse with quotes := [withoutQudd unknownQuote] }) ∧
      withoutQudd unknownQuote ≠ unknownQuote := by
  have quoted : ∀ quote ∈ [unknownQuote], QuoteWellFormed .plain quote := by
    simpa using unknownQuote_wellFormed
  have request : someRequest.WellFormed .plain := ⟨by decide, by decide, by decide, by decide,
    quoted, rfl⟩
  have response : someResponse.WellFormed .plain := ⟨by decide, by decide, quoted, rfl, rfl⟩
  have readBack := well_formed_read_back .plain false
  exact ⟨readBack.1 someRequest request (JsonCodec.ofPositional_readsBack ticketFormat_whole _)
      (JsonCodec.ofPositional_readsBack Postcard.chain_whole _),
    readBack.2 someResponse response (JsonCodec.ofPositional_readsBack ticketFormat_whole _), by decide⟩

end OpenHttpa.Headers
