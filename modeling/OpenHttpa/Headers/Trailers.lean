import OpenHttpa.Headers.AttestHeaders

/-!
# The `Attest-Ticket` header

`openhttpa-headers/src/trailers.rs`. A ticket header is the nonce, a mode byte, the salt in 0-RTT
mode, and the MAC, in base64. Base64 is a parameter that reads back what it wrote.
-/
namespace OpenHttpa.Headers

structure Base64 where
  encode : Bytes → String
  /-- `decode_vec`, or why it refused. -/
  decode : String → Except String Bytes
  decode_encode : ∀ bytes, decode (encode bytes) = .ok bytes

def Base64.plain : Base64 where
  encode bytes := .ofList (bytes.map Char.ofUInt8)
  decode text := .ok (text.toList.map Char.toUInt8)
  decode_encode bytes := by
    have same : Char.toUInt8 ∘ Char.ofUInt8 = id := by
      funext byte
      exact UInt8.toUInt8_toUInt32 byte
    rw [String.toList_ofList, List.map_map, same, List.map_id]

inductive TrailerError where
  | Missing (name : String)
  | Invalid (name reason : String)
deriving DecidableEq

structure DecodedTicket where
  nonce : UInt64
  mac : Bytes
  salt : Option (Octets 16)
deriving DecidableEq

def attestTicketPayload (nonce : UInt64) (mac : Bytes) (salt : Option (Octets 16)) : Bytes :=
  match salt with
  | some salt => u64Be nonce ++ 1 :: salt.bytes ++ mac
  | none => u64Be nonce ++ 0 :: mac

variable (base64 : Base64) (ticket : DecodedTicket)

/-- `encode_attest_ticket`; base64 text is always a header value. -/
def encodeAttestTicket (nonce : UInt64) (mac : Bytes) (salt : Option (Octets 16)) : String :=
  base64.encode (attestTicketPayload nonce mac salt)

/-- The part of `decode_attest_ticket` behind base64, with the reason of a refusal. -/
def readAttestTicket (bytes : Bytes) : Except String DecodedTicket :=
  if bytes.length < 9 then
    .error "payload too short"
  else
    let nonce := u64OfBe (bytes.take 8)
    if bytes[8]? = some 1 then
      match Octets.ofBytes? 16 ((bytes.drop 9).take 16) with
      | none => .error "0-RTT salt missing"
      | some salt => .ok ⟨nonce, bytes.drop 25, some salt⟩
    else
      .ok ⟨nonce, bytes.drop 9, none⟩

/-- `decode_attest_ticket`; the header is absent, or its text, or why it has none. -/
def decodeAttestTicket (header : Option (Except String String)) :
    Except TrailerError DecodedTicket :=
  match header with
  | none => .error (.Missing strAttestTicket)
  | some (.error reason) => .error (.Invalid strAttestTicket reason)
  | some (.ok text) =>
    match base64.decode text with
    | .error reason => .error (.Invalid strAttestTicket reason)
    | .ok bytes => (readAttestTicket bytes).mapError (.Invalid strAttestTicket)

/-! ## What is read -/

def DecodedTicket.layout (mode : UInt8) : Bytes :=
  u64Be ticket.nonce ++ mode :: ((ticket.salt.map (·.bytes)).getD [] ++ ticket.mac)

/-- The mode byte that `encode_attest_ticket` writes. -/
def DecodedTicket.mode : UInt8 := if ticket.salt.isSome then 1 else 0

theorem DecodedTicket.layout_mode (mode : UInt8) : (ticket.layout mode)[8]? = some mode := by
  rw [layout, List.getElem?_append_right (by rw [u64Be_length]), u64Be_length]
  rfl

theorem attestTicketPayload_eq :
    attestTicketPayload ticket.nonce ticket.mac ticket.salt = ticket.layout ticket.mode := by
  obtain ⟨nonce, mac, salt⟩ := ticket
  cases salt <;> simp [attestTicketPayload, DecodedTicket.layout, DecodedTicket.mode]

theorem readAttestTicket_split {front back : Bytes} {mode : UInt8} (eight : front.length = 8) :
    readAttestTicket (front ++ mode :: back) =
      if mode = 1 then
        match Octets.ofBytes? 16 (back.take 16) with
        | none => .error "0-RTT salt missing"
        | some salt => .ok ⟨u64OfBe front, back.drop 16, some salt⟩
      else .ok ⟨u64OfBe front, back, none⟩ := by
  have long : ¬ (front ++ mode :: back).length < 9 := by
    rw [List.length_append, List.length_cons]
    omega
  have byte : (front ++ mode :: back)[8]? = some mode := by
    rw [List.getElem?_append_right (by omega), eight]
    rfl
  have rest : (front ++ mode :: back).drop 9 = back := by
    rw [List.drop_append, List.drop_eq_nil_of_le (by omega), eight]
    rfl
  have last : (front ++ mode :: back).drop 25 = back.drop 16 := by
    rw [show 25 = 9 + 16 from rfl, ← List.drop_drop, rest]
  have number : (front ++ mode :: back).take 8 = front := List.take_left' eight
  simp only [readAttestTicket, if_neg long, byte, Option.some.injEq, rest, last, number]

variable {ticket}

theorem readAttestTicket_ok_iff {bytes : Bytes} : readAttestTicket bytes = .ok ticket ↔
      ∃ mode, (mode = 1 ↔ ticket.salt.isSome) ∧ bytes = ticket.layout mode := by
  constructor
  · intro read
    by_cases short : bytes.length < 9
    · rw [readAttestTicket, if_pos short] at read
      cases read
    obtain ⟨front, mode, back, rfl, eight⟩ :
        ∃ front mode back, bytes = front ++ mode :: back ∧ front.length = 8 := by
      have some : 8 < bytes.length := by omega
      refine ⟨bytes.take 8, bytes.get ⟨8, some⟩, bytes.drop 9, ?_, ?_⟩
      · rw [List.get_eq_getElem, ← List.drop_eq_getElem_cons some, List.take_append_drop]
      · rw [List.length_take]
        omega
    rw [readAttestTicket_split eight] at read
    refine ⟨mode, ?_⟩
    split at read
    · rename_i early
      split at read
      · cases read
      · rename_i salt found
        cases read
        have sixteen := Octets.bytes_of_ofBytes? found
        simp [early, DecodedTicket.layout, u64Be_u64OfBe eight, sixteen]
    · rename_i late
      cases read
      simp [late, DecodedTicket.layout, u64Be_u64OfBe eight]
  · rintro ⟨mode, early, rfl⟩
    obtain ⟨nonce, mac, salt⟩ := ticket
    rw [DecodedTicket.layout, readAttestTicket_split (u64Be_length nonce), u64OfBe_u64Be]
    cases salt with
    | none =>
      have late : mode ≠ 1 := fun one => by simpa using early.mp one
      rw [if_neg late]
      rfl
    | some salt =>
      have taken : (salt.bytes ++ mac).take 16 = salt.bytes := List.take_left' salt.length_eq
      have dropped : (salt.bytes ++ mac).drop 16 = mac := List.drop_left' salt.length_eq
      simp only [early.mpr rfl, if_true, Option.map_some, Option.getD_some, taken, dropped,
        Octets.ofBytes?_bytes]

theorem decodeAttestTicket_encode (nonce : UInt64) (mac : Bytes) (salt : Option (Octets 16)) :
    decodeAttestTicket base64 (some (.ok (encodeAttestTicket base64 nonce mac salt))) =
      .ok ⟨nonce, mac, salt⟩ := by
  have read : readAttestTicket (attestTicketPayload nonce mac salt) = .ok ⟨nonce, mac, salt⟩ := by
    refine readAttestTicket_ok_iff.mpr ⟨_, ?_, attestTicketPayload_eq ⟨nonce, mac, salt⟩⟩
    cases salt <;> simp [DecodedTicket.mode]
  simp only [decodeAttestTicket, encodeAttestTicket, base64.decode_encode, read, Except.mapError]

/-! ## One encoding -/

def modeByte (header : Except String String) : Option UInt8 :=
  (header.toOption.bind fun text => (base64.decode text).toOption).bind (·[8]?)

theorem decodeAttestTicket_ok_iff {base64 : Base64} {header : Except String String} :
    decodeAttestTicket base64 (some header) = .ok ticket ↔ ∃ text bytes, header = .ok text ∧
      base64.decode text = .ok bytes ∧ readAttestTicket bytes = .ok ticket := by
  cases header with
  | error reason => simp [decodeAttestTicket]
  | ok text =>
    cases decoded : base64.decode text with
    | error reason => simp [decodeAttestTicket, decoded]
    | ok bytes =>
      cases read : readAttestTicket bytes <;> simp [decodeAttestTicket, decoded, read, Except.mapError]

variable (ticket)

/-- Where base64 is canonical, a header value is accepted exactly as the encoding of what is read from
it, if and only if its mode byte is 0 or 1 or it has none. -/
theorem decodeAttestTicket_encoding_iff (base64 : Base64)
    (canonical : ∀ text bytes, base64.decode text = .ok bytes → base64.encode bytes = text)
    (header : Except String String) :
    (∀ ticket, decodeAttestTicket base64 (some header) = .ok ticket ↔
        header = .ok (encodeAttestTicket base64 ticket.nonce ticket.mac ticket.salt)) ↔
      ∀ mode, modeByte base64 header = some mode → mode = 0 ∨ mode = 1 := by
  constructor
  · intro unique mode found
    cases header with
    | error reason => cases found
    | ok text =>
      cases decoded : base64.decode text with
      | error reason => simp [modeByte, decoded, Except.toOption] at found
      | ok bytes =>
        simp only [modeByte, decoded, Except.toOption, Option.bind_some] at found
        by_cases early : mode = 1
        · exact .inr early
        -- any other mode is read as 1-RTT, and the encoding of that ticket has mode 0
        obtain ⟨ticket, rtt, rfl⟩ : ∃ ticket : DecodedTicket, ticket.salt = none ∧
            bytes = ticket.layout mode := by
          have long := (List.getElem?_eq_some_iff.mp found).1
          have eight : (bytes.take 8).length = 8 := by
            rw [List.length_take]
            omega
          refine ⟨⟨u64OfBe (bytes.take 8), bytes.drop 9, none⟩, rfl, ?_⟩
          rw [DecodedTicket.layout, u64Be_u64OfBe eight, ← (List.getElem?_eq_some_iff.mp found).2]
          exact ((List.drop_eq_getElem_cons long) ▸ (List.take_append_drop 8 bytes)).symm
        have read : readAttestTicket (ticket.layout mode) = .ok ticket :=
          readAttestTicket_ok_iff.mpr ⟨mode, by simp [early, rtt], rfl⟩
        have same := (unique ticket).mp (decodeAttestTicket_ok_iff.mpr ⟨text, _, rfl, decoded, read⟩)
        cases same
        rw [encodeAttestTicket, base64.decode_encode, attestTicketPayload_eq] at decoded
        have modes := congrArg (·[8]?) (Except.ok.inj decoded)
        simp only [DecodedTicket.layout_mode, DecodedTicket.mode, rtt] at modes
        cases modes
        exact .inl rfl
  · intro plain ticket
    constructor
    · intro accepted
      obtain ⟨text, bytes, rfl, decoded, read⟩ := decodeAttestTicket_ok_iff.mp accepted
      obtain ⟨mode, early, rfl⟩ := readAttestTicket_ok_iff.mp read
      have found : modeByte base64 (.ok text) = some mode := by
        simp [modeByte, decoded, Except.toOption, DecodedTicket.layout_mode]
      have same : mode = ticket.mode := by
        rw [DecodedTicket.mode]
        rcases plain mode found with rfl | rfl
        · rw [if_neg (fun salted => absurd (early.mpr salted) (by decide))]
        · rw [if_pos (early.mp rfl)]
      rw [encodeAttestTicket, attestTicketPayload_eq, ← same, canonical text _ decoded]
    · rintro rfl
      exact decodeAttestTicket_encode base64 ticket.nonce ticket.mac ticket.salt

def Base64.strict : Base64 where
  encode := Base64.plain.encode
  decode text :=
    if Base64.plain.encode (text.toList.map Char.toUInt8) = text then Base64.plain.decode text
    else .error "invalid"
  decode_encode bytes := by
    have back : (Base64.plain.encode bytes).toList.map Char.toUInt8 = bytes :=
      Except.ok.inj (Base64.plain.decode_encode bytes)
    rw [back, if_pos rfl]
    exact Base64.plain.decode_encode bytes

theorem Base64.strict_canonical (text : String) (bytes : Bytes)
    (decoded : Base64.strict.decode text = .ok bytes) : Base64.strict.encode bytes = text := by
  simp only [strict] at decoded
  split at decoded
  · rename_i same
    cases decoded
    exact same
  · cases decoded

theorem early_header_encoding :
    let header : Except String String := .ok (encodeAttestTicket .strict 7 [3] (some (.zero 16)))
    modeByte .strict header = some 1 ∧
      ∀ ticket, decodeAttestTicket .strict (some header) = .ok ticket ↔
        header = .ok (encodeAttestTicket .strict ticket.nonce ticket.mac ticket.salt) := by
  have found : modeByte .strict (.ok (encodeAttestTicket .strict 7 [3] (some (.zero 16)))) = some 1 := by
    decide
  refine ⟨found, (decodeAttestTicket_encoding_iff .strict Base64.strict_canonical _).mpr ?_⟩
  intro mode other
  rw [found] at other
  cases other
  exact .inr rfl

/-- With mode byte 2 in place of 0, another text is accepted as the same ticket. -/
theorem altered_mode_accepted :
    let ticket : DecodedTicket := ⟨7, [3], none⟩
    let altered := Base64.strict.encode (ticket.layout 2)
    decodeAttestTicket .strict (some (.ok altered)) = .ok ticket ∧
      altered ≠ encodeAttestTicket .strict ticket.nonce ticket.mac ticket.salt := by
  decide

end OpenHttpa.Headers
