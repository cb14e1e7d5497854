import Mathlib.Data.List.Dedup
import OpenHttpa.Lib.Bytes

/-!
# Header maps

What `openhttpa-headers` takes from the crate `http`: names, values and maps of headers. A value is kept
as what `to_str` makes of it, and a map as the list of its fields.
-/
namespace OpenHttpa.Headers

/-- `http::HeaderName`, always in lower case. -/
structure HeaderName where
  /-- `as_str`. -/
  text : String
  lower : text.toLower = text := by decide +kernel
deriving DecidableEq

/-- `http::HeaderValue`: its text, when it is visible ASCII. -/
structure HeaderValue where
  text : Option String

/-- A visible text as a header value. -/
def HeaderValue.ofText (text : String) : HeaderValue := ⟨some text⟩

@[simp]
theorem HeaderValue.text_ofText (text : String) : (ofText text).text = some text := rfl

/-- `Display` for `http::header::ToStrError`. -/
def toStrError : String := "failed to convert header to a str"

/-- `http::HeaderMap`: the values of each name in order. -/
structure HeaderMap where
  fields : List (HeaderName × HeaderValue)

namespace HeaderMap

/-- `HeaderMap::new`. -/
def new : HeaderMap := ⟨[]⟩

variable (map : HeaderMap)

/-- `HeaderMap::keys`: every name once. -/
def keys : List HeaderName := (map.fields.map (·.1)).dedup

variable (name : HeaderName)

/-- `HeaderMap::get_all`. -/
def getAll : List HeaderValue :=
  (map.fields.filter (·.1 = name)).map (·.2)

/-- `HeaderMap::get`. -/
def get : Option HeaderValue := (map.getAll name).head?

/-- The first value of a header, if it is a text: `get(name).and_then(|v| v.to_str().ok())`. -/
def getText : Option String := (map.get name).bind (·.text)

/-- The values of a header that are texts: `get_all(name).iter().filter_map(|v| v.to_str().ok())`. -/
def texts : List String := (map.getAll name).filterMap (·.text)

/-- The texts of a header with commas between them. -/
def joined : String := ",".intercalate (map.texts name)

/-- `HeaderMap::insert`; earlier values are dropped. -/
def insert (value : HeaderValue) : HeaderMap :=
  ⟨map.fields.filter (·.1 ≠ name) ++ [(name, value)]⟩

/-- `insert` for a header that may be left out. -/
def put (field : HeaderName × Option HeaderValue) : HeaderMap :=
  match field.2 with
  | none => map
  | some value => map.insert field.1 value

/-- A new map with the given headers inserted in turn. -/
def ofFields (fields : List (HeaderName × Option HeaderValue)) : HeaderMap := fields.foldl put new

/-- What is inserted is all there is under its name. -/
@[simp]
theorem getAll_insert_self (value : HeaderValue) :
    (map.insert name value).getAll name = [value] := by
  simp [getAll, insert, List.filter_append]

/-- The other headers stay as they are. -/
@[simp]
theorem getAll_insert_of_ne {name other : HeaderName} (value : HeaderValue)
    (different : other ≠ name) : (map.insert name value).getAll other = map.getAll other := by
  have kept : (map.fields.filter (·.1 ≠ name)).filter (·.1 = other) =
      map.fields.filter (·.1 = other) := by
    rw [List.filter_filter]
    apply List.filter_congr
    intro entry _
    by_cases same : entry.1 = other
    · simp [same, different]
    · simp [same]
  have absent : [(name, value)].filter (·.1 = other) = [] := by simp [Ne.symm different]
  rw [getAll, insert, List.filter_append, kept, absent, List.append_nil, getAll]

variable {name} {map} {fields : List (HeaderName × Option HeaderValue)}

theorem mem_keys : name ∈ map.keys ↔ map.getAll name ≠ [] := by
  simp [keys, getAll, List.filter_eq_nil_iff]

theorem getAll_foldl_put (map : HeaderMap) (absent : name ∉ fields.map (·.1)) :
    (fields.foldl put map).getAll name = map.getAll name := by
  induction fields generalizing map with
  | nil => rfl
  | cons field fields ih =>
    rw [List.map_cons, List.mem_cons, not_or] at absent
    rw [List.foldl_cons, ih _ absent.2]
    unfold put
    split
    · rfl
    · exact getAll_insert_of_ne map _ absent.1

/-- Under distinct names, each header has the one value it was given. -/
theorem getAll_ofFields (distinct : (fields.map (·.1)).Nodup) :
    ∀ field ∈ fields, (ofFields fields).getAll field.1 = field.2.toList := by
  rintro ⟨name, value⟩ member
  obtain ⟨before, after, rfl⟩ := List.append_of_mem member
  rw [List.map_append, List.map_cons, List.nodup_append, List.nodup_cons] at distinct
  obtain ⟨_, ⟨unused, _⟩, apart⟩ := distinct
  -- The headers before it do not touch the name, and those behind it do not replace its value.
  have first : name ∉ before.map (·.1) := fun earlier => apart _ earlier _ List.mem_cons_self rfl
  have untouched : (before.foldl put new).getAll name = [] := getAll_foldl_put new first
  rw [ofFields, List.foldl_append, List.foldl_cons, getAll_foldl_put _ unused]
  cases value with
  | none => exact untouched
  | some value => exact getAll_insert_self ..

/-- A header with one value, which is a text. -/
theorem texts_ofText {text : String} (held : map.getAll name = [.ofText text]) :
    map.texts name = [text] ∧ map.joined name = text ∧ map.getText name = some text := by
  have texts : map.texts name = [text] := by simp [HeaderMap.texts, held]
  refine ⟨texts, ?_, ?_⟩
  · rw [joined, texts]
    exact String.intercalate_singleton
  · simp [getText, get, held]

end HeaderMap

/-- A response of the transport. -/
structure Response where
  status : Nat
  headers : HeaderMap
  /-- The body as `to_bytes` collects it, or why it could not. -/
  body : Except String Bytes

namespace Response

/-- `StatusCode::is_success`. -/
def isSuccess (response : Response) : Bool := 200 ≤ response.status ∧ response.status < 300

/-- A response with a text and no headers. -/
def text (status : Nat) (message : String) : Response := ⟨status, .new, .ok (utf8 message)⟩

/-- A response with headers and no body. -/
def ofHeaders (headers : HeaderMap) : Response := ⟨200, headers, .ok []⟩

end Response

end OpenHttpa.Headers
