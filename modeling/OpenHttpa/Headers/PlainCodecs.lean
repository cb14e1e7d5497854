import Mathlib.Data.List.TakeWhile
import Mathlib.Logic.Equiv.Nat
import OpenHttpa.Headers.AttestHeaders
import OpenHttpa.Lib.JsonObject

/-!
# Codecs that can be run

A text form of structured fields that has the laws of the one of `sfv`. A word stands for itself as a
token. Every other item, and every list, is a colon and the hexadecimal text of its bytes in a positional
format; no word starts with a colon.
-/
namespace OpenHttpa.Headers

open OpenHttpa.Core Positional Proto

/-- Bytes, of which only the number is written where all of them are zero. -/
def compact : Positional Bytes :=
  (varint.pair Postcard.blob).converted
    (fun bytes => if bytes = List.replicate bytes.length 0 then (bytes.length + 1, []) else (0, bytes))
    (fun (count, bytes) => some (if count = 0 then bytes else List.replicate (count - 1) 0))
    (by
      intro bytes
      by_cases zeros : bytes = List.replicate bytes.length 0
      · rw [if_pos zeros]
        exact congrArg some zeros.symm
      · rw [if_neg zeros]
        rfl)

theorem compact_whole : compact.Whole := (varint_whole.pair Postcard.blob_whole).converted _ _ _

namespace PlainSfv

/-- A kind and its bytes. -/
def parts : BareItem → Nat × Bytes
  | .integer value => (0, varint.write (Equiv.intEquivNat value))
  | .string text => (1, Postcard.text.write text)
  | .token text => (2, Postcard.text.write text)
  | .byteSequence value => (3, compact.write value)
  | .boolean value => (if value then 5 else 4, [])
  | .other => (6, [])

def ofParts : Nat × Bytes → Option BareItem
  | (0, bytes) => (varint.read bytes).map fun found => .integer (Equiv.intEquivNat.symm found.1)
  | (1, bytes) => (Postcard.text.read bytes).map fun found => .string found.1
  | (2, bytes) => (Postcard.text.read bytes).map fun found => .token found.1
  | (3, bytes) => (compact.read bytes).map fun found => .byteSequence found.1
  | (4, _) => some (.boolean false)
  | (5, _) => some (.boolean true)
  | _ => some .other

theorem ofParts_parts (bareItem : BareItem) : ofParts (parts bareItem) = some bareItem := by
  cases bareItem with
  | integer value => simp [parts, ofParts, varint_whole.read_write]
  | string text => simp [parts, ofParts, Postcard.text_whole.read_write]
  | token text => simp [parts, ofParts, Postcard.text_whole.read_write]
  | byteSequence value => simp [parts, ofParts, compact_whole.read_write]
  | boolean value => cases value <;> rfl
  | other => rfl

def bare : Positional BareItem :=
  (varint.pair Postcard.blob).converted parts ofParts ofParts_parts

def item : Positional Item :=
  (bare.pair (Postcard.text.pair bare).many).converted (fun value => (value.bareItem, value.params))
    (fun raw => some ⟨raw.1, raw.2⟩) (fun _ => rfl)

def entryParts : ListEntry → Option Item × List Item
  | .item value => (some value, [])
  | .innerList items => (none, items)

def ofEntryParts : Option Item × List Item → Option ListEntry
  | (some value, _) => some (.item value)
  | (none, items) => some (.innerList items)

theorem ofEntryParts_entryParts (entry : ListEntry) : ofEntryParts (entryParts entry) = some entry := by
  cases entry <;> rfl

def entries : Positional (List ListEntry) :=
  ((item.optional.pair item.many).converted entryParts ofEntryParts ofEntryParts_entryParts).many

theorem bare_whole : bare.Whole := (varint_whole.pair Postcard.blob_whole).converted _ _ _

theorem item_whole : item.Whole :=
  (bare_whole.pair (Postcard.text_whole.pair bare_whole).many).converted _ _ _

theorem entries_whole : entries.Whole :=
  ((item_whole.optional.pair item_whole.many).converted _ _ _).many

/-- Printable ASCII. -/
def isPrintable (text : String) : Bool := text.toList.all fun c => ' ' ≤ c ∧ c ≤ '~'

def hexText (bytes : Bytes) : String := .ofList (':' :: (hexEncode bytes).toList)

def hexBytes (text : String) : Option Bytes :=
  match text.toList with
  | ':' :: digits => hexDecode (.ofList digits)
  | _ => none

theorem hexBytes_hexText (bytes : Bytes) : hexBytes (hexText bytes) = some bytes := by
  simp [hexBytes, hexText]

theorem isPrintable_hexEncode (bytes : Bytes) : isPrintable (hexEncode bytes) = true := by
  rw [isPrintable, List.all_eq_true]
  exact fun c member => decide_eq_true (hexEncode_printable bytes c member)

theorem isPrintable_hexText (bytes : Bytes) : isPrintable (hexText bytes) = true := by
  rw [isPrintable, hexText, String.toList_ofList, List.all_cons, Bool.and_eq_true]
  exact ⟨by decide, isPrintable_hexEncode bytes⟩

theorem trim_hexText_ne (bytes : Bytes) : trim (hexText bytes) ≠ "" := by
  intro blank
  have chars := congrArg String.toList blank
  have kept : (':' :: (hexEncode bytes).toList).dropWhile isBlank = ':' :: (hexEncode bytes).toList :=
    List.dropWhile_cons_of_neg (by decide)
  rw [trim, hexText, String.toList_ofList, String.toList_ofList, kept] at chars
  have blanks := List.dropWhile_eq_nil_iff.mp (List.reverse_eq_nil_iff.mp chars) ':' (by simp)
  exact absurd blanks (by decide)

theorem hexBytes_word {text : String} (word : isWord text = true) : hexBytes text = none := by
  unfold hexBytes
  split
  · rename_i digits chars
    rw [isWord, chars] at word
    simp at word
  · rfl

theorem alphanum_printable {c : Char} (alphanum : c.isAlphanum = true) : ' ' ≤ c ∧ c ≤ '~' := by
  have classes : ((decide ('A' ≤ c ∧ c ≤ 'Z') || (decide ('a' ≤ c) && decide (c ≤ 'z'))) ||
      (decide ('0' ≤ c) && decide (c ≤ '9'))) = true := alphanum
  simp only [Bool.or_eq_true, Bool.and_eq_true, decide_eq_true_eq] at classes
  rcases classes with (⟨low, high⟩ | ⟨low, high⟩) | ⟨low, high⟩
  · exact ⟨Nat.le_trans (by decide) low, Nat.le_trans high (by decide)⟩
  · exact ⟨Nat.le_trans (by decide) low, Nat.le_trans high (by decide)⟩
  · exact ⟨Nat.le_trans (by decide) low, Nat.le_trans high (by decide)⟩

theorem isPrintable_word {text : String} (word : isWord text = true) : isPrintable text = true := by
  rw [isWord, Bool.and_eq_true, List.all_eq_true] at word
  rw [isPrintable, List.all_eq_true]
  intro c member
  have valid := word.2 c member
  simp only [Bool.or_eq_true, decide_eq_true_eq] at valid
  apply decide_eq_true
  rcases valid with ((alphanum | rfl) | rfl) | rfl
  · exact alphanum_printable alphanum
  all_goals decide

def serializeItem (value : Item) : String :=
  match value with
  | ⟨.token text, []⟩ => if isWord text then text else hexText (item.write value)
  | _ => hexText (item.write value)

def parseItem (text : String) : Except String Item :=
  match hexBytes text with
  | none => if isWord text then .ok (.new (.token text)) else .error "not an item"
  | some bytes => (item.read bytes).elim (.error "not an item") fun found => .ok found.1

def parseList (text : String) : Except String (List ListEntry) :=
  ((hexBytes text).bind entries.read).elim (.error "not a list") fun found => .ok found.1

theorem parseItem_serializeItem (value : Item) : parseItem (serializeItem value) = .ok value := by
  have others : parseItem (hexText (item.write value)) = .ok value := by
    simp [parseItem, hexBytes_hexText, item_whole.read_write]
  unfold serializeItem
  split
  · split
    · rename_i word
      simp [parseItem, hexBytes_word word, word, Item.new]
    · exact others
  · exact others

theorem isPrintable_serializeItem (value : Item) : isPrintable (serializeItem value) = true := by
  unfold serializeItem
  split
  · split
    · exact isPrintable_word ‹_›
    · exact isPrintable_hexText _
  · exact isPrintable_hexText _

theorem parseItem_reason (text : String) : parseItem text ≠ .error toStrError := by
  have other : "not an item" ≠ toStrError := by decide
  unfold parseItem
  split
  · split <;> simp [other]
  · cases item.read _ <;> simp [other]

def serializeList (list : List ListEntry) : Option String :=
  if list = [] then none else some (hexText (entries.write list))

theorem serializeList_eq {list : List ListEntry} {text : String}
    (serialized : serializeList list = some text) : text = hexText (entries.write list) := by
  unfold serializeList at serialized
  split at serialized
  · cases serialized
  · exact (Option.some.inj serialized).symm

/-- The policies and nothing else are dictionaries. -/
def parseDictionary (text : String) : Except String (List (String × ListEntry)) :=
  if text = "" then .ok []
  else
    match [(true, true), (true, false), (false, true), (false, false)].find? fun flags =>
        policiesText flags.1 flags.2 = text with
    | none => .error "not a dictionary"
    | some (direct, allowUntrusted) =>
      .ok [("direct", .item (.new (.boolean direct))),
        ("allow-untrusted", .item (.new (.boolean allowUntrusted)))]

end PlainSfv

open PlainSfv

/-- Structured fields in hexadecimal. -/
def Sfv.plain : Sfv where
  item := parseItem
  list := parseList
  dictionary := parseDictionary
  item_reason := parseItem_reason
  dictionary_empty := rfl
  isToken := isWord
  isString := isPrintable
  fromStr text := if isPrintable text then some (.ofText text) else none
  serializeItem := PlainSfv.serializeItem
  serializeList := PlainSfv.serializeList
  isToken_word _ word := word
  isString_iff text := by simp [isPrintable]
  fromStr_string _ printable := if_pos printable
  serializeItem_string value _ := isPrintable_serializeItem value
  item_serializeItem value _ := parseItem_serializeItem value
  serializeItem_token _ word := if_pos word
  serializeList_isSome list full := by rw [PlainSfv.serializeList, if_neg full, Option.isSome_some]
  serializeList_string list text _ serialized := by
    rw [serializeList_eq serialized]
    exact isPrintable_hexText _
  serializeList_full list text serialized := by
    rw [serializeList_eq serialized]
    exact trim_hexText_ne _
  list_serializeList list text _ serialized := by
    rw [serializeList_eq serialized]
    simp [parseList, hexBytes_hexText, entries_whole.read_write]
  dictionary_policies direct allowUntrusted := by
    cases direct <;> cases allowUntrusted <;> decide

/-- Identifiers in hexadecimal. -/
def UuidText.plain : UuidText where
  display id := hexEncode (beBytes 16 id.uuid.toNat)
  fromStr text :=
    match hexDecode text with
    | none => .error "not hexadecimal"
    | some bytes => .ok ⟨BitVec.ofNat 128 (ofBe bytes)⟩
  fromStr_display id := by
    have fits : id.uuid.toNat < 256 ^ 16 := id.uuid.isLt
    simp [ofBe_beBytes fits]

theorem Sfv.plain_isString : plain.isString = isPrintable := rfl

theorem UuidText.plain_display (id : AtbId) : plain.display id = hexEncode (beBytes 16 id.uuid.toNat) :=
  rfl

/-- The codec of a positional format. -/
def JsonCodec.ofPositional {α : Type} (format : Positional α) : JsonCodec α where
  render value := some (format.write value)
  parse bytes := (format.read bytes).elim (.error "unexpected end of input") fun found => .ok found.1

/-- A format that leaves nothing out reads everything back. -/
theorem JsonCodec.ofPositional_readsBack {α : Type} {format : Positional α} (whole : format.Whole)
    (value : Option α) : (ofPositional format).ReadsBack value := by
  intro held _
  exact ⟨format.write held, rfl, by simp [ofPositional, whole.read_write]⟩

/-- `SessionTicket` in positional form. -/
def ticketFormat : Positional SessionTicket :=
  (Postcard.blob.pair (varint.pair (Postcard.cipherSuite.pair Postcard.flag))).checked
    (fun ticket => (ticket.ticket, ticket.lifetime, ticket.cipherSuite, ticket.rtt0Eligible))
    (fun (ticket, lifetime, suite, eligible) => some ⟨ticket, lifetime, suite, eligible⟩)
    (by
      intro value fields
      constructor
      · rintro ⟨⟩
        rfl
      · rintro rfl
        rfl)

theorem ticketFormat_whole : ticketFormat.Whole :=
  (Postcard.blob_whole.pair (varint_whole.pair
    (Whole.pair (enumeration_whole _ _ _) Postcard.flag_whole))).checked _ _ _

/-- The codecs of all headers. -/
def HeaderCodecs.plain : HeaderCodecs where
  sfv := .plain
  uuid := .plain
  uuid_string id := by rw [Sfv.plain_isString, UuidText.plain_display, isPrintable_hexEncode]
  tickets := .ofPositional ticketFormat
  provenance := .ofPositional Postcard.chain

end OpenHttpa.Headers
