import OpenHttpa.Headers.Trailers
import OpenHttpa.Lib.Delimited

/-!
# The attested header list

`canonicalize_ahl` and `update_ahl` of `openhttpa-headers/src/attest_headers.rs`: what the MAC of a
trusted request covers. A request has headers of any name, so its map is kept as the list of its
fields; the readers of the handshake see the same map through the names they know. The canonical
list is a value of its own, and its bytes are a tag and a length in front of every part, so that
they determine it.
-/
namespace OpenHttpa.Headers

open Delimited

def host : HeaderName := { text := "host" }

namespace HeaderMap

def ticket (base64 : Base64) (map : HeaderMap) : Except TrailerError DecodedTicket :=
  decodeAttestTicket base64 ((map.get hdrAttestTicket).map fun value =>
    match value.text with
    | some text => .ok text
    | none => .error toStrError)

theorem ticket_insert {base64 : Base64} {map written : HeaderMap} {nonce : UInt64}
    {mac : Bytes} {salt : Option (Octets 16)}
    (kept : written.getAll hdrAttestTicket = (map.insert hdrAttestTicket
      (.ofText (encodeAttestTicket base64 nonce mac salt))).getAll hdrAttestTicket) :
    written.ticket base64 = .ok ⟨nonce, mac, salt⟩ := by
  rw [getAll_insert_self] at kept
  simp only [ticket, get, kept, List.head?_cons, Option.map_some, HeaderValue.text_ofText]
  exact decodeAttestTicket_encode base64 nonce mac salt

end HeaderMap

def attestHeaderPrefix : String := "attest-"

def strAttestBinder : String := "attest-binder"

def maxAhlHeaders : Nat := 64

def maxAhlHeaderNameLen : Nat := 256

def maxAhlHeaderValueLen : Nat := 4096

/-- The name is that of a header the list covers: an `Attest-*` header that does not carry the MAC
itself. -/
def isAttested (name : HeaderName) : Bool :=
  let text := name.text.toLower
  attestHeaderPrefix.toList.isPrefixOf text.toList &&
    (text ≠ strAttestTicket && text ≠ strAttestBinder)

def ahlNames (map : HeaderMap) : List HeaderName :=
  (map.keys.filter isAttested).mergeSort fun left right => left.text.toLower ≤ right.text.toLower

/-- The entry of one name: its texts joined by commas, within the limits of length. -/
def ahlHeader (map : HeaderMap) (name : HeaderName) : Except HeaderError (String × String) :=
  let nameStr := name.text.toLower
  if maxAhlHeaderNameLen < nameStr.utf8ByteSize then
    .error (.ValueTooLong nameStr)
  else
    let valStr := ",".intercalate ((map.getAll name).filterMap (·.text))
    if maxAhlHeaderValueLen < valStr.utf8ByteSize then .error (.ValueTooLong nameStr)
    else .ok (nameStr, valStr)

structure AttestedHeaderList where
  method : String
  path : String
  query : String
  authority : String
  /-- The `Attest-*` headers by name. -/
  headers : List (String × String)

/-- A text after its length in bytes: `len().to_string()`, `AHL_SEPARATOR`, `as_bytes()`. -/
def ahlField (text : String) : Bytes := field (utf8 text)

def AttestedHeaderList.encode (list : AttestedHeaderList) : Bytes :=
  utf8 "7::method" ++ ahlField list.method ++
  (utf8 "5::path" ++ ahlField list.path ++
  (utf8 "6::query" ++ ahlField list.query ++
  (utf8 "10::authority" ++ ahlField list.authority ++
  list.headers.flatMap fun header => ahlField header.1 ++ ahlField header.2)))

/-- `update_ahl` up to the bytes: a list, or the first limit exceeded. -/
def attestedHeaderList (method path : String) (query : Option String) (authority : String)
    (map : HeaderMap) : Except HeaderError AttestedHeaderList :=
  let names := ahlNames map
  if maxAhlHeaders < names.length then
    .error (.TooManyHeaders maxAhlHeaders)
  else
    match names.mapM (ahlHeader map) with
    | .error failure => .error failure
    | .ok headers => .ok ⟨method.toUpper, path, query.getD "", authority, headers⟩

/-- `canonicalize_ahl`, and what `update_ahl` feeds to the MAC when it succeeds. -/
def canonicalizeAhl (method path : String) (query : Option String) (authority : String)
    (map : HeaderMap) : Except HeaderError Bytes :=
  (attestedHeaderList method path query authority map).map AttestedHeaderList.encode

theorem ahlField_delimits : Delimits ahlField := field_delimits.comp utf8_injective

theorem AttestedHeaderList.encode_injective : Function.Injective AttestedHeaderList.encode := by
  intro left right same
  obtain ⟨method, same⟩ := ahlField_delimits.tagged (utf8 "7::method") same
  obtain ⟨path, same⟩ := ahlField_delimits.tagged (utf8 "5::path") same
  obtain ⟨query, same⟩ := ahlField_delimits.tagged (utf8 "6::query") same
  obtain ⟨authority, same⟩ := ahlField_delimits.tagged (utf8 "10::authority") same
  have entries : Delimits fun header : String × String => ahlField header.1 ++ ahlField header.2 :=
    ahlField_delimits.pair ahlField_delimits
  have headers : left.headers = right.headers :=
    entries.flatMap_injective (fun header => List.append_ne_nil_of_left_ne_nil (field_ne_nil _) _)
      same
  cases left
  cases right
  simp_all

/-- The entries of the list, without the limits. -/
def listedHeaders (map : HeaderMap) : List (String × String) :=
  (ahlNames map).map fun name => (name.text, map.joined name)

variable {map : HeaderMap} {method path : String} {query : Option String} {authority : String}

theorem ahlHeader_ok {name : HeaderName} {header : String × String}
    (made : ahlHeader map name = .ok header) : header = (name.text, map.joined name) := by
  unfold ahlHeader at made
  dsimp only at made
  split at made
  · cases made
  · split at made
    · cases made
    · cases made
      rw [name.lower]
      rfl

theorem mapM_ahlHeader_ok {names : List HeaderName} {headers : List (String × String)}
    (made : names.mapM (ahlHeader map) = .ok headers) :
    headers = names.map fun name => (name.text, map.joined name) := by
  induction names generalizing headers with
  | nil =>
    cases made
    rfl
  | cons name names ih =>
    rw [List.mapM_cons] at made
    cases first : ahlHeader map name with
    | error failure =>
      rw [first] at made
      cases made
    | ok header =>
      cases later : names.mapM (ahlHeader map) with
      | error failure =>
        rw [first, later] at made
        cases made
      | ok rest =>
        rw [first, later] at made
        cases made
        rw [ahlHeader_ok first, ih later]
        rfl

theorem attestedHeaderList_ok {list : AttestedHeaderList}
    (made : attestedHeaderList method path query authority map = .ok list) :
    list = ⟨method.toUpper, path, query.getD "", authority, listedHeaders map⟩ := by
  unfold attestedHeaderList at made
  dsimp only at made
  split at made
  · cases made
  · split at made
    · cases made
    · rename_i headers entries
      cases made
      rw [mapM_ahlHeader_ok entries]
      rfl

theorem canonicalizeAhl_ok {bytes : Bytes}
    (made : canonicalizeAhl method path query authority map = .ok bytes) :
    bytes = AttestedHeaderList.encode
      ⟨method.toUpper, path, query.getD "", authority, listedHeaders map⟩ := by
  unfold canonicalizeAhl at made
  cases listed : attestedHeaderList method path query authority map with
  | error failure =>
    rw [listed] at made
    cases made
  | ok list =>
    rw [listed] at made
    cases made
    rw [attestedHeaderList_ok listed]

namespace HeaderMap

variable {map other : HeaderMap} {name : HeaderName}

theorem texts_of_not_mem (absent : name ∉ map.keys) : map.texts name = [] := by
  rw [mem_keys, not_not] at absent
  rw [texts, absent, List.filterMap_nil]

theorem joined_of_texts (none : map.texts name = []) : map.joined name = "" := by
  rw [joined, none]
  rfl

/-- The names listed are those of the headers that are there and covered. -/
theorem ahlNames_congr (same : ∀ name, isAttested name = true → (name ∈ map.keys ↔ name ∈ other.keys)) :
    ahlNames map = ahlNames other := by
  have members : (map.keys.filter isAttested).Perm (other.keys.filter isAttested) := by
    have once : ∀ names : HeaderMap, (names.keys.filter isAttested).Nodup :=
      fun names => (List.nodup_dedup _).filter _
    rw [List.perm_ext_iff_of_nodup (once map) (once other)]
    intro name
    rw [List.mem_filter, List.mem_filter]
    exact and_congr_left fun attested => same name attested
  have sorted : ∀ names : List HeaderName, (names.mergeSort fun left right =>
      decide (left.text.toLower ≤ right.text.toLower)).Pairwise
        fun left right => decide (left.text.toLower ≤ right.text.toLower) = true := by
    intro names
    refine List.pairwise_mergeSort ?_ ?_ names
    · intro first second third before after
      simp only [decide_eq_true_eq] at before after ⊢
      exact String.le_trans before after
    · intro left right
      simp only [Bool.or_eq_true, decide_eq_true_eq]
      exact String.le_total _ _
  refine List.Perm.eq_of_pairwise ?_ (sorted _) (sorted _)
    ((List.mergeSort_perm _ _).trans (members.trans (List.mergeSort_perm _ _).symm))
  intro left right _ _ before after
  simp only [decide_eq_true_eq, left.lower, right.lower] at before after
  have text : left.text = right.text := String.le_antisymm before after
  cases left
  cases right
  cases text
  rfl

end HeaderMap

/-- A header that the canonical bytes are meant to bind: one whose name starts with `attest-`, apart from
the two that carry the code itself. -/
def Covered (name : HeaderName) : Prop :=
  "attest-".toList <+: name.text.toList ∧ name.text ≠ "attest-ticket" ∧ name.text ≠ "attest-binder"

/-- What is to be bound of the headers: the covered names that are there, each with its texts joined. -/
def attestedHeaders (map : HeaderMap) : Set (HeaderName × String) :=
  {header | Covered header.1 ∧ map.getAll header.1 ≠ [] ∧ header.2 = map.joined header.1}

theorem isAttested_iff {name : HeaderName} : isAttested name = true ↔ Covered name := by
  simp [isAttested, Covered, name.lower, attestHeaderPrefix, strAttestTicket, strAttestBinder]

theorem mem_listedHeaders {name : HeaderName} {value : String} :
    (name.text, value) ∈ listedHeaders map ↔ (name, value) ∈ attestedHeaders map := by
  simp only [listedHeaders, List.mem_map, ahlNames, List.mem_mergeSort, List.mem_filter,
    HeaderMap.mem_keys, isAttested_iff, attestedHeaders, Set.mem_ofPred_eq, Prod.mk.injEq]
  constructor
  · rintro ⟨listed, ⟨held, covered⟩, text, rfl⟩
    obtain rfl : listed = name := by
      cases listed
      cases name
      cases text
      rfl
    exact ⟨covered, held, rfl⟩
  · rintro ⟨covered, held, rfl⟩
    exact ⟨name, ⟨held, covered⟩, rfl, rfl⟩

/-- Two maps with the same to be bound agree on a covered header as far as it is bound. -/
theorem agree_of_attestedHeaders {other : HeaderMap} {name : HeaderName}
    (attested : isAttested name = true) (same : attestedHeaders map = attestedHeaders other) :
    (name ∈ map.keys ↔ name ∈ other.keys) ∧ map.joined name = other.joined name := by
  have covered := isAttested_iff.mp attested
  by_cases held : name ∈ map.keys
  · have bound : (name, map.joined name) ∈ attestedHeaders other := by
      rw [← same]
      exact ⟨covered, HeaderMap.mem_keys.mp held, rfl⟩
    exact ⟨iff_of_true held (HeaderMap.mem_keys.mpr bound.2.1), bound.2.2⟩
  · have absent : name ∉ other.keys := by
      intro within
      have bound : (name, other.joined name) ∈ attestedHeaders map := by
        rw [same]
        exact ⟨covered, HeaderMap.mem_keys.mp within, rfl⟩
      exact held (HeaderMap.mem_keys.mpr bound.2.1)
    refine ⟨iff_of_false held absent, ?_⟩
    rw [HeaderMap.joined_of_texts (HeaderMap.texts_of_not_mem held),
      HeaderMap.joined_of_texts (HeaderMap.texts_of_not_mem absent)]

/-- The list has what is to be bound, and nothing else. -/
theorem listedHeaders_eq_iff {other : HeaderMap} :
    listedHeaders map = listedHeaders other ↔ attestedHeaders map = attestedHeaders other := by
  constructor
  · intro same
    ext ⟨name, value⟩
    rw [← mem_listedHeaders, ← mem_listedHeaders, same]
  · intro same
    rw [listedHeaders, listedHeaders,
      HeaderMap.ahlNames_congr fun name attested => (agree_of_attestedHeaders attested same).1]
    refine List.map_congr_left fun name member => ?_
    rw [ahlNames, List.mem_mergeSort, List.mem_filter] at member
    rw [(agree_of_attestedHeaders member.2 same).2]

/-- Two requests have the same canonical bytes exactly if they agree on what these are to bind. -/
theorem canonicalizeAhl_eq_iff {method path : String} {query : Option String} {authority : String}
    {map : HeaderMap} {bytes : Bytes}
    (made : canonicalizeAhl method path query authority map = .ok bytes)
    {method₂ path₂ : String} {query₂ : Option String} {authority₂ : String} {map₂ : HeaderMap}
    {bytes₂ : Bytes} (made₂ : canonicalizeAhl method₂ path₂ query₂ authority₂ map₂ = .ok bytes₂) :
    bytes = bytes₂ ↔
      method.toUpper = method₂.toUpper ∧ path = path₂ ∧ query.getD "" = query₂.getD "" ∧
        authority = authority₂ ∧ attestedHeaders map = attestedHeaders map₂ := by
  rw [canonicalizeAhl_ok made, canonicalizeAhl_ok made₂, AttestedHeaderList.encode_injective.eq_iff,
    AttestedHeaderList.mk.injEq, listedHeaders_eq_iff]

def sentApart : HeaderMap :=
  ⟨[(hdrAttestBaseId, .ofText "a"), (hdrAttestBaseId, .ofText "b")]⟩

def sentJoined : HeaderMap := ⟨[(hdrAttestBaseId, .ofText "a,b")]⟩

/-- Upper and lower case of the method, a query that is absent or empty, and values sent apart or
joined are not told apart. -/
theorem same_canonical_bytes :
    canonicalizeAhl "get" "/" none "host" sentApart =
      canonicalizeAhl "GET" "/" (some "") "host" sentJoined := by
  have upper : "get".toUpper = "GET" := by decide +kernel
  have upper₂ : "GET".toUpper = "GET" := by decide +kernel
  have headers : attestedHeaders sentApart = attestedHeaders sentJoined := by
    rw [← listedHeaders_eq_iff]
    decide +kernel
  cases made : canonicalizeAhl "get" "/" none "host" sentApart with
  | error failure =>
    have within : (canonicalizeAhl "get" "/" none "host" sentApart).isOk = true := by decide +kernel
    rw [made] at within
    cases within
  | ok bytes =>
    cases made₂ : canonicalizeAhl "GET" "/" (some "") "host" sentJoined with
    | error failure =>
      have within : (canonicalizeAhl "GET" "/" (some "") "host" sentJoined).isOk = true := by
        decide +kernel
      rw [made₂] at within
      cases within
    | ok bytes₂ =>
      rw [(canonicalizeAhl_eq_iff made made₂).mpr
        ⟨upper.trans upper₂.symm, rfl, rfl, rfl, headers⟩]

end OpenHttpa.Headers
