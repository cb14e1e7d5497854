import OpenHttpa.Headers.HeaderMap

/-!
# Structured fields

What `openhttpa-headers` takes from the crate `sfv`, with `HeaderValue::from_str`. The texts the crates
accept, their serialisers and their parsers are parameters. Their laws are that words are tokens, that
strings are printable and visible, and that the parsers read back what the writers of
`openhttpa-headers` make.
-/
namespace OpenHttpa.Headers

/-- `BareItem`; the kinds the source never looks at are one. -/
inductive BareItem where
  | integer (value : Int)
  | string (text : String)
  | token (text : String)
  | byteSequence (value : Bytes)
  | boolean (value : Bool)
  | other
deriving DecidableEq

namespace BareItem

/-- `as_token`, as text. -/
def asToken : BareItem → Option String
  | token text => some text
  | _ => none

/-- `as_string`, as text. -/
def asString : BareItem → Option String
  | string text => some text
  | _ => none

/-- `as_byte_sequence`. -/
def asByteSequence : BareItem → Option Bytes
  | byteSequence value => some value
  | _ => none

/-- `as_boolean`. -/
def asBoolean : BareItem → Option Bool
  | boolean value => some value
  | _ => none

/-- `as_integer`. -/
def asInteger : BareItem → Option Int
  | integer value => some value
  | _ => none

end BareItem

/-- `Item`. -/
structure Item where
  bareItem : BareItem
  params : List (String × BareItem)
deriving DecidableEq

/-- `Item::new`, without parameters. -/
def Item.new (bareItem : BareItem) : Item := ⟨bareItem, []⟩

/-- `ListEntry`; the parameters of an inner list are never read. -/
inductive ListEntry where
  | item (value : Item)
  | innerList (items : List Item)
deriving DecidableEq

/-- `sfv::Parser` on a text. -/
structure Parser where
  item : String → Except String Item
  list : String → Except String (List ListEntry)
  /-- As a dictionary, its entries by key. -/
  dictionary : String → Except String (List (String × ListEntry))
  item_reason : ∀ text, item text ≠ .error toStrError
  dictionary_empty : dictionary "" = .ok []

def isBlank (c : Char) : Bool := c = ' ' || c = '\t'

/-- `str::trim`, of blanks. -/
def trim (text : String) : String :=
  .ofList (((text.toList.dropWhile isBlank).reverse.dropWhile isBlank).reverse)

/-- Letters, digits, underscores, hyphens and slashes behind a letter. -/
def isWord (text : String) : Bool :=
  text.toList.head?.any Char.isAlpha &&
    text.toList.all fun c => c.isAlphanum || c = '_' || c = '-' || c = '/'

/-- A flag as it is formatted: `u8::from`. -/
def flagDigit (flag : Bool) : String := if flag then "1" else "0"

/-- The text of `Attest-Policies`. -/
def policiesText (direct allowUntrusted : Bool) : String :=
  "direct=?" ++ flagDigit direct ++ ", allow-untrusted=?" ++ flagDigit allowUntrusted

/-- What the constructors of the crate let be written: an integer of fifteen digits, a token, a string. -/
def BareItem.Written (isToken isString : String → Bool) : BareItem → Prop
  | integer value => -999999999999999 ≤ value ∧ value ≤ 999999999999999
  | string text => isString text = true
  | token text => isToken text = true
  | byteSequence _ => True
  | boolean _ => True
  | other => False

/-- An item as it is written here, with the parameter `format` at most. -/
structure Item.Written (isToken isString : String → Bool) (item : Item) : Prop where
  bareItem : item.bareItem.Written isToken isString
  params : item.params = [] ∨ ∃ format, isToken format = true ∧ item.params = [("format", .token format)]

/-- An item, or a list of items, as it is written here. -/
def ListEntry.Written (isToken isString : String → Bool) : ListEntry → Prop
  | .item value => value.Written isToken isString
  | .innerList items => ∀ item ∈ items, item.Written isToken isString

/-- The crate `sfv`, and `HeaderValue::from_str`. -/
structure Sfv extends Parser where
  /-- `Token::from_string` takes the text. -/
  isToken : String → Bool
  /-- `String::from_string` takes the text. -/
  isString : String → Bool
  /-- `HeaderValue::from_str`, nothing when it refuses the text. -/
  fromStr : String → Option HeaderValue
  serializeItem : Item → String
  /-- `List::serialize`; an empty list is not serialised. -/
  serializeList : List ListEntry → Option String
  isToken_word : ∀ text, isWord text = true → isToken text = true
  isString_iff : ∀ text, isString text = true ↔ ∀ c ∈ text.toList, ' ' ≤ c ∧ c ≤ '~'
  fromStr_string : ∀ text, isString text = true → fromStr text = some (.ofText text)
  serializeItem_string : ∀ value, value.Written isToken isString →
    isString (serializeItem value) = true
  item_serializeItem : ∀ value, value.Written isToken isString →
    item (serializeItem value) = .ok value
  serializeItem_token : ∀ text, isToken text = true → serializeItem (.new (.token text)) = text
  serializeList_isSome : ∀ entries, entries ≠ [] → (serializeList entries).isSome
  serializeList_string : ∀ entries text, (∀ entry ∈ entries, entry.Written isToken isString) →
    serializeList entries = some text → isString text = true
  serializeList_full : ∀ entries text, serializeList entries = some text → trim text ≠ ""
  list_serializeList : ∀ entries text, (∀ entry ∈ entries, entry.Written isToken isString) →
    serializeList entries = some text → list text = .ok entries
  dictionary_policies : ∀ direct allowUntrusted,
    dictionary (policiesText direct allowUntrusted) =
      .ok [("direct", .item (.new (.boolean direct))),
        ("allow-untrusted", .item (.new (.boolean allowUntrusted)))]

/-- An item without parameters is written if its bare item is. -/
theorem Item.new_written {isToken isString : String → Bool} {bareItem : BareItem}
    (written : bareItem.Written isToken isString) : (new bareItem).Written isToken isString :=
  ⟨written, .inl rfl⟩

end OpenHttpa.Headers
