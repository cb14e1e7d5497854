import OpenHttpa.Lib.Bytes

/-!
# Flat JSON objects with hexadecimal fields

A flat object is a list of named values. A record type is read from one the way a derived reader does
it: the values of known fields are read as they come, so a value of another type is found first, and
only at the end of the object is the first field of the record that did not come reported missing;
fields that are not known are skipped. Byte strings travel in such objects as hexadecimal text, which
is read back to the bytes it was written from.
-/
namespace OpenHttpa

def hexDigit (value : Nat) : Char :=
  if value < 10 then Char.ofNat (48 + value) else Char.ofNat (87 + value)

def hexValue (digit : Char) : Option Nat :=
  if '0' ≤ digit ∧ digit ≤ '9' then some (digit.toNat - 48)
  else if 'a' ≤ digit ∧ digit ≤ 'f' then some (digit.toNat - 87)
  else if 'A' ≤ digit ∧ digit ≤ 'F' then some (digit.toNat - 55)
  else none

def hexEncode (bytes : Bytes) : String :=
  .ofList (bytes.flatMap fun byte => [hexDigit (byte.toNat / 16), hexDigit (byte.toNat % 16)])

def hexPairs : List Char → Option Bytes
  | [] => some []
  | [_] => none
  | high :: low :: rest => do
    let high ← hexValue high
    let low ← hexValue low
    let bytes ← hexPairs rest
    return UInt8.ofNat (high * 16 + low) :: bytes

def hexDecode (text : String) : Option Bytes := hexPairs text.toList

theorem hexValue_hexDigit : ∀ value < 16, hexValue (hexDigit value) = some value := by decide

@[simp]
theorem hexDecode_hexEncode (bytes : Bytes) : hexDecode (hexEncode bytes) = some bytes := by
  rw [hexDecode, hexEncode, String.toList_ofList]
  induction bytes with
  | nil => rfl
  | cons byte bytes ih =>
    have bound := byte.toNat_lt
    have high := hexValue_hexDigit (byte.toNat / 16) (by omega)
    have low := hexValue_hexDigit (byte.toNat % 16) (by omega)
    have whole : byte.toNat / 16 * 16 + byte.toNat % 16 = byte.toNat := by omega
    simp only [List.flatMap_cons, List.cons_append, List.nil_append, hexPairs, high, low, ih,
      Option.bind_eq_bind, Option.bind_some, whole, UInt8.ofNat_toNat]
    rfl

theorem hexDigit_printable : ∀ value < 16, ' ' ≤ hexDigit value ∧ hexDigit value ≤ '~' := by decide

theorem hexEncode_printable (bytes : Bytes) : ∀ c ∈ (hexEncode bytes).toList, ' ' ≤ c ∧ c ≤ '~' := by
  intro c member
  rw [hexEncode, String.toList_ofList] at member
  obtain ⟨byte, _, digit⟩ := List.mem_flatMap.mp member
  have bound := byte.toNat_lt
  simp only [List.mem_cons, List.not_mem_nil, or_false] at digit
  rcases digit with rfl | rfl
  · exact hexDigit_printable _ (by omega)
  · exact hexDigit_printable _ (by omega)

inductive JsonValue where
  | string (text : String)
  | number (value : Nat)
  | strings (texts : List String)

inductive JsonType where
  | string
  | number
  | strings
deriving DecidableEq

def JsonValue.type : JsonValue → JsonType
  | string _ => .string
  | number _ => .number
  | strings _ => .strings

inductive JsonError where
  | invalidType (field : String)
  | missingField (field : String)

abbrev JsonObject := List (String × JsonValue)

namespace JsonObject

def illTyped (fields : List (String × JsonType)) (entry : String × JsonValue) : Bool :=
  match fields.lookup entry.1 with
  | none => false
  | some type => decide (entry.2.type ≠ type)

def check (fields : List (String × JsonType)) (object : JsonObject) : Except JsonError Unit :=
  match object.find? (illTyped fields) with
  | some entry => .error (.invalidType entry.1)
  | none =>
    match fields.find? fun field => (object.lookup field.1).isNone with
    | some field => .error (.missingField field.1)
    | none => .ok ()

def string (object : JsonObject) (name : String) : String :=
  match object.lookup name with
  | some (.string text) => text
  | _ => ""

def number (object : JsonObject) (name : String) : Nat :=
  match object.lookup name with
  | some (.number value) => value
  | _ => 0

def strings (object : JsonObject) (name : String) : List String :=
  match object.lookup name with
  | some (.strings texts) => texts
  | _ => []

end JsonObject

end OpenHttpa
