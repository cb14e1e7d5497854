import OpenHttpa.Headers.Ahl

/-!
# How a covered header is read

The decoders of `openhttpa-headers/src/attest_headers.rs` on the map of a request, and what the
canonical bytes of that map leave open for them. The bytes join the texts of a header and pass over
the values that are no text. The list, quote and policy decoders read the same joined text;
`decode_bytes_sfv` reads the first value alone, whatever it is, and `decode_token_list_strings` tells
a header without a text from one with an empty text. So there are headers with the same bytes that
are read differently (`Decoder.read_same_iff`).
-/
namespace OpenHttpa.Headers

open Proto

/-- The decoders of a header. -/
inductive Decoder where
  | bytesSfv
  | tokenListStrings
  | quotesSfv
  | policiesSfv
deriving DecidableEq

namespace Decoder

/-- What the decoder returns. -/
def Reading : Decoder → Type
  | bytesSfv => Except HeaderError Bytes
  | tokenListStrings => Except HeaderError (List String)
  | quotesSfv => Except HeaderError (List AttestQuote)
  | policiesSfv => Bool × Bool

def read (parser : Parser) (map : HeaderMap) (name : HeaderName) : (decoder : Decoder) → decoder.Reading
  | bytesSfv => map.decodeBytesSfv parser name
  | tokenListStrings => map.decodeTokenListStrings parser name
  | quotesSfv => map.decodeQuotesSfv parser name
  | policiesSfv => map.decodePoliciesSfv parser name

/-- What the canonical bytes say of the header is all that its reading depends on: a byte sequence
must not be there at all, a list of tokens must not be there or must have a text that is not empty. -/
def Settled (map : HeaderMap) (name : HeaderName) : Decoder → Prop
  | bytesSfv => name ∉ map.keys
  | tokenListStrings => name ∉ map.keys ∨ map.joined name ≠ ""
  | quotesSfv => True
  | policiesSfv => True

end Decoder

namespace HeaderMap

variable {map other : HeaderMap} {name : HeaderName}

theorem canonicalizeAhl_congr (keys : map.keys = other.keys)
    (joined : ∀ name, map.joined name = other.joined name) (method path : String)
    (query : Option String) (authority : String) :
    canonicalizeAhl method path query authority map =
      canonicalizeAhl method path query authority other := by
  have names : ahlNames map = ahlNames other := by rw [ahlNames, ahlNames, keys]
  have headers : ahlHeader map = ahlHeader other := by
    funext name
    have same : ",".intercalate ((map.getAll name).filterMap (·.text)) =
        ",".intercalate ((other.getAll name).filterMap (·.text)) := joined name
    rw [ahlHeader, ahlHeader, same]
  rw [canonicalizeAhl, canonicalizeAhl, attestedHeaderList, attestedHeaderList, names, headers]

theorem attestedHeaderList_congr
    (same : ∀ name, isAttested name = true → map.getAll name = other.getAll name)
    (method path : String) (query : Option String) (authority : String) :
    attestedHeaderList method path query authority map =
      attestedHeaderList method path query authority other := by
  have entries : ∀ names : List HeaderName, (∀ name ∈ names, isAttested name = true) →
      names.mapM (ahlHeader map) = names.mapM (ahlHeader other) := by
    intro names attested
    induction names with
    | nil => rfl
    | cons name names ih =>
      have entry : ahlHeader map name = ahlHeader other name := by
        rw [ahlHeader, ahlHeader, same name (attested name List.mem_cons_self)]
      rw [List.mapM_cons, List.mapM_cons, entry,
        ih fun name member => attested name (List.mem_cons_of_mem _ member)]
  have covered : ∀ name ∈ ahlNames other, isAttested name = true := by
    intro name member
    rw [ahlNames, List.mem_mergeSort, List.mem_filter] at member
    exact member.2
  have names : ahlNames map = ahlNames other := by
    refine ahlNames_congr fun name attested => ?_
    rw [mem_keys, mem_keys, same name attested]
  rw [attestedHeaderList, attestedHeaderList, names, entries _ covered]

theorem attestedHeaderList_authority {method path : String} {query : Option String}
    {authority : String} {list : AttestedHeaderList}
    (made : attestedHeaderList method path query authority map = .ok list) (second : String) :
    attestedHeaderList method path query second map = .ok { list with authority := second } := by
  unfold attestedHeaderList at made ⊢
  dsimp only at made ⊢
  split at made
  · cases made
  · rename_i within
    rw [if_neg within]
    split at made
    · cases made
    · cases made
      rfl

def resent (map : HeaderMap) (name : HeaderName) (values : List HeaderValue) : HeaderMap :=
  ⟨values.map (name, ·) ++
    map.fields.map fun field => if field.1 = name then (name, ⟨none⟩) else field⟩

theorem getAll_resent_self (map : HeaderMap) (name : HeaderName) (values : List HeaderValue) :
    ∃ unreadable : List HeaderValue, (map.resent name values).getAll name = values ++ unreadable ∧
      ∀ value ∈ unreadable, value.text = none := by
  refine ⟨(((map.fields.map fun field => if field.1 = name then (name, ⟨none⟩) else field).filter
    (·.1 = name)).map (·.2)), ?_, ?_⟩
  · have all : (values.map (name, ·)).filter (·.1 = name) = values.map (name, ·) := by simp
    rw [getAll, resent, List.filter_append, List.map_append, all, List.map_map]
    simp [Function.comp_def]
  · intro value within
    obtain ⟨field, held, rfl⟩ := List.mem_map.mp within
    obtain ⟨stored, named⟩ := List.mem_filter.mp held
    obtain ⟨old, -, rfl⟩ := List.mem_map.mp stored
    by_cases same : old.1 = name
    · rw [if_pos same]
    · rw [if_neg same] at named
      exact absurd (by simpa using named) same

theorem getAll_resent_of_ne {second : HeaderName} (different : second ≠ name)
    (values : List HeaderValue) : (map.resent name values).getAll second = map.getAll second := by
  have none : (values.map (name, ·)).filter (·.1 = second) = [] := by
    simp [Ne.symm different]
  rw [getAll, resent, List.filter_append, none, List.nil_append, List.filter_map, List.map_map, getAll]
  have kept : ((fun field : HeaderName × HeaderValue => decide (field.1 = second)) ∘ fun field =>
      if field.1 = name then (name, ⟨Option.none⟩) else field) =
      fun field => decide (field.1 = second) := by
    funext field
    by_cases same : field.1 = name
    · simp [same]
    · simp [same]
  rw [kept]
  refine List.map_congr_left fun field within => ?_
  have named : field.1 = second := by simpa using (List.mem_filter.mp within).2
  have other : field.1 ≠ name := named ▸ different
  simp [other]

theorem keys_resent (held : name ∈ map.keys) (values : List HeaderValue) :
    (map.resent name values).keys = map.keys := by
  have names : (map.resent name values).fields.map (·.1) =
      values.map (fun _ => name) ++ map.fields.map (·.1) := by
    rw [resent, List.map_append, List.map_map, List.map_map]
    congr 1
    refine List.map_congr_left fun field _ => ?_
    by_cases same : field.1 = name
    · simp [same]
    · simp [same]
  rw [keys, List.mem_dedup] at held
  rw [keys, keys, names]
  clear names
  induction values with
  | nil => rfl
  | cons value values ih =>
    rw [List.map_cons, List.cons_append, List.dedup_cons_of_mem (List.mem_append_right _ held), ih]

theorem texts_resent_self (values : List HeaderValue) :
    (map.resent name values).texts name = values.filterMap (·.text) := by
  obtain ⟨unreadable, all, none⟩ := getAll_resent_self map name values
  rw [texts, all, List.filterMap_append, List.filterMap_eq_nil_iff.mpr none, List.append_nil]

theorem get_resent_self (value : HeaderValue) (values : List HeaderValue) :
    (map.resent name (value :: values)).get name = some value := by
  obtain ⟨unreadable, all, -⟩ := getAll_resent_self map name (value :: values)
  rw [get, all]
  rfl

theorem canonicalizeAhl_resent (held : name ∈ map.keys) {values : List HeaderValue}
    (joins : ",".intercalate (values.filterMap (·.text)) = map.joined name) (method path : String)
    (query : Option String) (authority : String) :
    canonicalizeAhl method path query authority (map.resent name values) =
      canonicalizeAhl method path query authority map := by
  refine canonicalizeAhl_congr (keys_resent held values) (fun second => ?_) method path query authority
  by_cases same : second = name
  · subst same
    rw [joined, texts_resent_self, joins]
  · rw [joined, texts, getAll_resent_of_ne same, joined, texts]

end HeaderMap

section Readings

variable {parser : Parser} {map other : HeaderMap} {name : HeaderName}

theorem HeaderMap.decodeQuotesSfv_eq : map.decodeQuotesSfv parser name =
    (parser.entries name (map.joined name)).map (·.filterMap decodeQuote) := by
  unfold HeaderMap.decodeQuotesSfv
  split
  · rename_i none
    rw [HeaderMap.joined_of_texts (List.isEmpty_iff.mp none)]
    rfl
  · rfl

theorem HeaderMap.decodePoliciesSfv_eq : map.decodePoliciesSfv parser name =
    policyFlags ((parser.dictionary (map.joined name)).toOption.getD []) := by
  unfold HeaderMap.decodePoliciesSfv
  split
  · rename_i none
    rw [HeaderMap.joined_of_texts (List.isEmpty_iff.mp none), parser.dictionary_empty]
    rfl
  · cases parser.dictionary (map.joined name) <;> rfl

theorem HeaderMap.decodeTokenListStrings_eq (full : map.texts name ≠ []) :
    map.decodeTokenListStrings parser name =
      (parser.entries name (map.joined name)).map (·.filterMap ListEntry.tokenText) := by
  rw [HeaderMap.decodeTokenListStrings, if_neg (by simpa using full)]

theorem HeaderMap.decodeBytesSfv_unreadable {value : HeaderValue} (first : map.get name = some value)
    (unreadable : value.text = none) :
    map.decodeBytesSfv parser name = .error (.Invalid name.text toStrError) := by
  rw [HeaderMap.decodeBytesSfv, first]
  dsimp only
  rw [unreadable]

theorem HeaderMap.decodeBytesSfv_readable {value : HeaderValue} {text : String}
    (first : map.get name = some value) (readable : value.text = some text) :
    map.decodeBytesSfv parser name ≠ .error (.Invalid name.text toStrError) := by
  have reason : "expected a Byte Sequence item" ≠ toStrError := by decide
  rw [HeaderMap.decodeBytesSfv, first]
  dsimp only
  rw [readable]
  dsimp only
  intro refused
  split at refused
  · rename_i failure parsed
    cases refused
    exact parser.item_reason text parsed
  · split at refused
    · exact reason (HeaderError.Invalid.inj (Except.error.inj refused)).2
    · cases refused

theorem Decoder.read_congr {decoder : Decoder} (attested : isAttested name = true)
    (settled : decoder.Settled map name) (same : attestedHeaders map = attestedHeaders other) :
    decoder.read parser other name = decoder.read parser map name := by
  obtain ⟨present, joined⟩ := agree_of_attestedHeaders attested same
  have absent : name ∉ map.keys → other.getAll name = map.getAll name := by
    intro missing
    have missingToo := mt present.mpr missing
    rw [HeaderMap.mem_keys, not_not] at missing missingToo
    rw [missing, missingToo]
  cases decoder with
  | bytesSfv =>
    show other.decodeBytesSfv parser name = map.decodeBytesSfv parser name
    rw [HeaderMap.decodeBytesSfv, HeaderMap.decodeBytesSfv, HeaderMap.get, HeaderMap.get, absent settled]
  | tokenListStrings =>
    show other.decodeTokenListStrings parser name = map.decodeTokenListStrings parser name
    rcases settled with missing | text
    · rw [HeaderMap.decodeTokenListStrings, HeaderMap.decodeTokenListStrings, joined, HeaderMap.texts,
        HeaderMap.texts, absent missing]
    · have full := mt HeaderMap.joined_of_texts text
      have fullToo := mt HeaderMap.joined_of_texts (joined ▸ text)
      rw [HeaderMap.decodeTokenListStrings_eq full, HeaderMap.decodeTokenListStrings_eq fullToo, joined]
  | quotesSfv =>
    show other.decodeQuotesSfv parser name = map.decodeQuotesSfv parser name
    rw [HeaderMap.decodeQuotesSfv_eq, HeaderMap.decodeQuotesSfv_eq, joined]
  | policiesSfv =>
    show other.decodePoliciesSfv parser name = map.decodePoliciesSfv parser name
    rw [HeaderMap.decodePoliciesSfv_eq, HeaderMap.decodePoliciesSfv_eq, joined]

theorem Decoder.read_differs (parser : Parser) {decoder : Decoder}
    (unsettled : ¬ decoder.Settled map name) :
    ∃ first second : List HeaderValue, name ∈ map.keys ∧
      ",".intercalate (first.filterMap (·.text)) = map.joined name ∧
      ",".intercalate (second.filterMap (·.text)) = map.joined name ∧
      decoder.read parser (map.resent name first) name ≠
        decoder.read parser (map.resent name second) name := by
  cases decoder with
  | bytesSfv =>
    refine ⟨[⟨none⟩, .ofText (map.joined name)], [.ofText (map.joined name)],
      not_not.mp unsettled, by simp [HeaderValue.ofText], by simp [HeaderValue.ofText], ?_⟩
    show HeaderMap.decodeBytesSfv parser _ name ≠ HeaderMap.decodeBytesSfv parser _ name
    rw [HeaderMap.decodeBytesSfv_unreadable (HeaderMap.get_resent_self _ _) rfl]
    exact (HeaderMap.decodeBytesSfv_readable (HeaderMap.get_resent_self _ _) rfl).symm
  | tokenListStrings =>
    obtain ⟨held, empty⟩ := not_or.mp unsettled
    have blank : map.joined name = "" := not_not.mp empty
    refine ⟨[], [.ofText ""], not_not.mp held, by rw [blank]; rfl, by rw [blank]; rfl, ?_⟩
    show HeaderMap.decodeTokenListStrings parser _ name ≠ HeaderMap.decodeTokenListStrings parser _ name
    have none : (map.resent name []).texts name = [] := HeaderMap.texts_resent_self []
    have one : (map.resent name [.ofText ""]).texts name = [""] :=
      HeaderMap.texts_resent_self [.ofText ""]
    have missing : (map.resent name []).decodeTokenListStrings parser name =
        .error (.Missing name.text) := by
      rw [HeaderMap.decodeTokenListStrings, none]
      rfl
    have found : (map.resent name [.ofText ""]).decodeTokenListStrings parser name = .ok [] := by
      rw [HeaderMap.decodeTokenListStrings, HeaderMap.joined, one]
      rfl
    rw [missing, found]
    intro same
    cases same
  | quotesSfv | policiesSfv => exact absurd trivial unsettled

/-- Every map with the canonical bytes of a map reads a covered header as that map does exactly if
the header is settled for its decoder. -/
theorem Decoder.read_same_iff (parser : Parser) (decoder : Decoder) (name : HeaderName)
    (attested : isAttested name = true) (method path : String) (query : Option String)
    (authority : String) (map : HeaderMap) (bytes : Bytes)
    (covered : canonicalizeAhl method path query authority map = .ok bytes) :
    (∀ other, canonicalizeAhl method path query authority other = .ok bytes →
      decoder.read parser other name = decoder.read parser map name) ↔ decoder.Settled map name := by
  constructor
  · intro alike
    by_contra unsettled
    obtain ⟨first, second, held, firstJoins, secondJoins, differ⟩ :=
      Decoder.read_differs parser unsettled
    have one := alike _ ((HeaderMap.canonicalizeAhl_resent held firstJoins ..).trans covered)
    have two := alike _ ((HeaderMap.canonicalizeAhl_resent held secondJoins ..).trans covered)
    exact differ (one.trans two.symm)
  · intro settled other coveredToo
    have bytesSame := (canonicalizeAhl_ok covered).symm.trans (canonicalizeAhl_ok coveredToo)
    have lists := AttestedHeaderList.encode_injective bytesSame
    rw [AttestedHeaderList.mk.injEq] at lists
    exact Decoder.read_congr attested settled (listedHeaders_eq_iff.mp lists.2.2.2.2)

def Parser.plain : Parser where
  item text := .ok (.new (.byteSequence (utf8 text)))
  list _ := .ok []
  dictionary _ := .ok []
  item_reason _ := by simp
  dictionary_empty := rfl

/-- Two quotes sent as two values are read alike from every map with the same bytes. -/
theorem quotes_sent_apart_settled :
    canonicalizeAhl "GET" "/" none "host" sentApart =
        .ok (AttestedHeaderList.encode ⟨"GET", "/", "", "host", [("attest-base-id", "a,b")]⟩) ∧
      ∀ other, canonicalizeAhl "GET" "/" none "host" other =
          .ok (AttestedHeaderList.encode ⟨"GET", "/", "", "host", [("attest-base-id", "a,b")]⟩) →
        Decoder.quotesSfv.read .plain other hdrAttestBaseId =
          Decoder.quotesSfv.read .plain sentApart hdrAttestBaseId := by
  have covered : canonicalizeAhl "GET" "/" none "host" sentApart =
      .ok (AttestedHeaderList.encode ⟨"GET", "/", "", "host", [("attest-base-id", "a,b")]⟩) := by
    decide +kernel
  exact ⟨covered, (Decoder.read_same_iff .plain .quotesSfv hdrAttestBaseId (by decide +kernel) "GET"
    "/" none "host" sentApart _ covered).mpr trivial⟩

def unreadableFirst : HeaderMap :=
  ⟨[(hdrAttestBaseId, ⟨none⟩), (hdrAttestBaseId, .ofText "a,b")]⟩

/-- A value that is no text in front of a byte sequence leaves the canonical bytes as they were and
makes the reader fail. -/
theorem unreadable_first_changes_reading :
    canonicalizeAhl "GET" "/" none "host" sentJoined =
        .ok (AttestedHeaderList.encode ⟨"GET", "/", "", "host", [("attest-base-id", "a,b")]⟩) ∧
      canonicalizeAhl "GET" "/" none "host" unreadableFirst =
        canonicalizeAhl "GET" "/" none "host" sentJoined ∧
      Decoder.bytesSfv.read .plain sentJoined hdrAttestBaseId = .ok (utf8 "a,b") ∧
      Decoder.bytesSfv.read .plain unreadableFirst hdrAttestBaseId =
        .error (.Invalid "attest-base-id" toStrError) := by
  have covered : canonicalizeAhl "GET" "/" none "host" sentJoined =
      .ok (AttestedHeaderList.encode ⟨"GET", "/", "", "host", [("attest-base-id", "a,b")]⟩) := by
    decide +kernel
  have coveredToo : canonicalizeAhl "GET" "/" none "host" unreadableFirst =
      .ok (AttestedHeaderList.encode ⟨"GET", "/", "", "host", [("attest-base-id", "a,b")]⟩) := by
    decide +kernel
  exact ⟨covered, coveredToo.trans covered.symm, rfl, rfl⟩

end Readings

end OpenHttpa.Headers
