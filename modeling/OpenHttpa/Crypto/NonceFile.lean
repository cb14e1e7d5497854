import OpenHttpa.Crypto.Nonce
import OpenHttpa.Lib.Parse

/-!
# The document in the nonce file

`FileNonceStorage::load` of `openhttpa-crypto/src/nonce.rs` reads a JSON document. A file that cannot be
read and a text that is not JSON are errors, but of a document it asks nothing: a field that is not
there, or not a natural number, stands for the number a new manager starts from. So a document that lost
a field puts the counter back, and what was sent or accepted before is sent and accepted again
(`reload_safe_iff`).
-/
namespace OpenHttpa.Crypto

/-! ## The code -/

inductive Json where
  | null
  | bool (value : Bool)
  | posInt (value : UInt64)
  | negInt (value : Int64)
  | float (text : String)
  | string (text : String)
  | array (items : List Json)
  | object (entries : List (String × Json))

namespace Json

/-- `Value::index`; what is not there is `null`. -/
def index (key : String) : Json → Json
  | .object entries => (entries.lookup key).getD .null
  | _ => .null

def asU64 : Json → Option UInt64
  | .posInt value => some value
  | _ => none

end Json

/-- The document that `save` writes. -/
def nonceDocument (nextSend lastSeen : UInt64) : Json :=
  .object [("last_seen", .posInt lastSeen), ("next_send", .posInt nextSend)]

/-- `serde_json`, as the storage calls it. -/
structure Serde where
  fromStr : String → Except String Json
  toString : Json → String
  fromStr_toString : ∀ nextSend lastSeen,
    fromStr (toString (nonceDocument nextSend lastSeen)) = .ok (nonceDocument nextSend lastSeen)

inductive NonceFile where
  | absent
  | unreadable (reason : String)
  | text (content : String)

namespace NonceFile

variable (serde : Serde)

/-- The file after `FileNonceStorage::save`. -/
def saved (nextSend lastSeen : UInt64) : NonceFile :=
  .text (serde.toString (nonceDocument nextSend lastSeen))

def load : NonceFile → Except NonceError (UInt64 × UInt64)
  | .absent => .ok (1, 0)
  | .unreadable reason => .error (.Storage reason)
  | .text content => do
    let data ← (serde.fromStr content).mapError .Storage
    let next := (data.index "next_send").asU64.getD 1
    let last := (data.index "last_seen").asU64.getD 0
    return (next, last)

def withStorage (file : NonceFile) : Except NonceError NonceManager := do
  let (next, last) ← load serde file
  return ⟨next, last⟩

theorem withStorage_text_iff {content : String} {manager : NonceManager} :
    withStorage serde (.text content) = .ok manager ↔ ∃ data, serde.fromStr content = .ok data ∧
      manager = ⟨(data.index "next_send").asU64.getD 1, (data.index "last_seen").asU64.getD 0⟩ := by
  rw [withStorage, load]
  cases serde.fromStr content with
  | error reason => exact iff_of_false (by rintro ⟨⟩) (by rintro ⟨_, ⟨⟩, -⟩)
  | ok data =>
    constructor
    · rintro ⟨⟩
      exact ⟨data, rfl, rfl⟩
    · rintro ⟨_, ⟨⟩, rfl⟩
      rfl

/-- The text is not a JSON object with natural numbers in both fields. -/
def Damaged : NonceFile → Prop
  | .text content => ∀ entries, serde.fromStr content = .ok (.object entries) →
      ((Json.object entries).index "next_send").asU64 = none ∨
      ((Json.object entries).index "last_seen").asU64 = none
  | _ => False

end NonceFile

/-- The file of a storage that was only written by `save`. -/
def FileNonceStorage.onDisk (serde : Serde) (storage : FileNonceStorage) : NonceFile :=
  match storage.file with
  | none => .absent
  | some (nextSend, lastSeen) => .saved serde nextSend lastSeen

theorem FileNonceStorage.load_onDisk (serde : Serde) (storage : FileNonceStorage) :
    NonceFile.load serde (storage.onDisk serde) = .ok storage.load := by
  obtain ⟨_ | ⟨nextSend, lastSeen⟩⟩ := storage
  · rfl
  · change ((serde.fromStr _).mapError _).bind _ = _
    rw [serde.fromStr_toString]
    rfl

theorem FileNonceStorage.withStorage_onDisk (serde : Serde) (storage : FileNonceStorage) :
    NonceFile.withStorage serde (storage.onDisk serde) = .ok (.withStorage storage) := by
  unfold NonceFile.withStorage
  rw [storage.load_onDisk serde]
  rfl

/-! ## One call after the other -/

inductive NonceRequest where
  | nextSendNonce (save : Except String Unit)
  | validateRecv (nonce : UInt64) (save : Except String Unit)

def NonceRequest.events : NonceRequest → List NonceEvent
  | .nextSendNonce save => [.send 0, .step 0 save, .step 0 save, .step 0 save]
  | .validateRecv nonce save => .recv 0 nonce :: List.replicate 5 (.step 0 save)

def sequential (requests : List NonceRequest) : List NonceEvent := requests.flatMap (·.events)

namespace NonceProcess

/-- Between two calls: nothing is under way, and what was returned is covered by the manager as by the
file. -/
structure Settled (process : NonceProcess) : Prop where
  idle : process.calls 0 = none
  manager : process.CoveredBy (process.manager.nextSend, process.manager.lastSeen)
  file : process.CoveredBy process.storage.load

theorem Settled.start (storage : FileNonceStorage) : (start storage).Settled where
  idle := rfl
  manager := start_coveredBy storage _
  file := start_coveredBy storage _

variable {process : NonceProcess}

theorem run_nextSendNonce (idle : process.calls 0 = none)
    (below : process.manager.nextSend ≠ u64Max) (save : Except String Unit) :
    let after := run step process (NonceRequest.nextSendNonce save).events
    after.calls 0 = none ∧ after.accepted = process.accepted ∧
      after.manager = { process.manager with nextSend := process.manager.nextSend + 1 } ∧
      match save with
      | .ok () => after.sent = process.manager.nextSend :: process.sent ∧
          after.storage.load = (process.manager.nextSend + 1, process.manager.lastSeen)
      | .error _ => after.sent = process.sent ∧ after.storage = process.storage := by
  cases save with
  | ok =>
    simp [NonceRequest.events, run, step, idle, below, put, advance, returnSend, sent, accepted,
      Except.toOption, FileNonceStorage.save, FileNonceStorage.load]
  | error reason =>
    simp [NonceRequest.events, run, step, idle, below, put, advance, returnSend, sent, accepted,
      Except.toOption]

theorem run_validateRecv (idle : process.calls 0 = none) (nonce : UInt64)
    (save : Except String Unit) :
    let after := run step process (NonceRequest.validateRecv nonce save).events
    after.calls 0 = none ∧ after.sent = process.sent ∧
      if nonce ≤ process.manager.lastSeen then
        after.accepted = process.accepted ∧ after.manager = process.manager ∧
          after.storage = process.storage
      else
        after.manager = { process.manager with lastSeen := nonce } ∧
        match save with
        | .ok () => after.accepted = nonce :: process.accepted ∧
            after.storage.load = (process.manager.nextSend, nonce)
        | .error _ => after.accepted = process.accepted ∧ after.storage = process.storage := by
  by_cases seen : nonce ≤ process.manager.lastSeen
  · simp [NonceRequest.events, run, step, idle, put, advance, returnRecv, sent, accepted, seen,
      Except.toOption]
  · cases save with
    | ok =>
      simp [NonceRequest.events, run, step, idle, put, advance, returnRecv, sent, accepted, seen,
        Except.toOption, FileNonceStorage.save, FileNonceStorage.load]
    | error reason =>
      simp [NonceRequest.events, run, step, idle, put, advance, returnRecv, sent, accepted, seen,
        Except.toOption]

theorem CoveredBy.mono {pair more : UInt64 × UInt64}
    (covered : process.CoveredBy pair) (sends : pair.1 ≤ more.1) (recvs : pair.2 ≤ more.2) :
    process.CoveredBy more :=
  ⟨fun nonce sent => UInt64.lt_of_lt_of_le (covered.1 nonce sent) sends,
    fun nonce accepted => UInt64.le_trans (covered.2 nonce accepted) recvs⟩

theorem CoveredBy.congr {after : NonceProcess} {pair same : UInt64 × UInt64}
    (covered : process.CoveredBy pair) (sent : after.sent = process.sent)
    (accepted : after.accepted = process.accepted) (pairs : same = pair) : after.CoveredBy same := by
  unfold CoveredBy
  rw [sent, accepted, pairs]
  exact covered

theorem Settled.call (settled : process.Settled) (request : NonceRequest)
    (steady : Along step Steady process request.events) :
    (run step process request.events).Settled := by
  cases request with
  | nextSendNonce save =>
    have below : process.manager.nextSend ≠ u64Max := steady.1
    have up : process.manager.nextSend < process.manager.nextSend + 1 := by
      rw [UInt64.lt_iff_toNat_lt, toNat_succ below]
      exact Nat.lt_succ_self _
    have raised : process.CoveredBy (process.manager.nextSend + 1, process.manager.lastSeen) :=
      settled.manager.mono (UInt64.le_of_lt up) (UInt64.le_refl _)
    obtain ⟨idle, accepted, manager, rest⟩ := run_nextSendNonce settled.idle below save
    cases save with
    | ok =>
      obtain ⟨sent, file⟩ := rest
      have covered : (run step process (NonceRequest.nextSendNonce (.ok ())).events).CoveredBy
          (process.manager.nextSend + 1, process.manager.lastSeen) := by
        unfold CoveredBy
        rw [sent, accepted]
        exact ⟨List.forall_mem_cons.mpr ⟨up, raised.1⟩, raised.2⟩
      exact ⟨idle, manager ▸ covered, file ▸ covered⟩
    | error reason =>
      -- The call fails with its save: nothing is sent, and the number is given up.
      obtain ⟨sent, file⟩ := rest
      exact ⟨idle, raised.congr sent accepted (by rw [manager]),
        settled.file.congr sent accepted (by rw [file])⟩
  | validateRecv nonce save =>
    obtain ⟨idle, sent, rest⟩ := run_validateRecv settled.idle nonce save
    split at rest
    · obtain ⟨accepted, manager, file⟩ := rest
      exact ⟨idle, settled.manager.congr sent accepted (by rw [manager]),
        settled.file.congr sent accepted (by rw [file])⟩
    · next new =>
      obtain ⟨manager, rest⟩ := rest
      have raised : process.CoveredBy (process.manager.nextSend, nonce) :=
        settled.manager.mono (UInt64.le_refl _) (UInt64.le_of_lt (UInt64.not_le.mp new))
      cases save with
      | ok =>
        obtain ⟨accepted, file⟩ := rest
        have covered : (run step process (NonceRequest.validateRecv nonce (.ok ())).events).CoveredBy
            (process.manager.nextSend, nonce) := by
          unfold CoveredBy
          rw [sent, accepted]
          exact ⟨raised.1, List.forall_mem_cons.mpr ⟨UInt64.le_refl _, raised.2⟩⟩
        exact ⟨idle, manager ▸ covered, file ▸ covered⟩
      | error reason =>
        obtain ⟨accepted, file⟩ := rest
        exact ⟨idle, raised.congr sent accepted (by rw [manager]),
          settled.file.congr sent accepted (by rw [file])⟩

theorem Settled.sequential (settled : process.Settled)
    (requests : List NonceRequest) (steady : Along step Steady process (sequential requests)) :
    (run step process (sequential requests)).Settled := by
  induction requests generalizing process with
  | nil => exact settled
  | cons request requests ih =>
    obtain ⟨first, others⟩ := Along.of_append steady
    have split : Crypto.sequential (request :: requests) =
        request.events ++ Crypto.sequential requests := rfl
    rw [split, run_append]
    exact ih (settled.call request first) others

end NonceProcess

open NonceProcess in
/-- **The nonce file.** After calls one after the other, and whatever text then stands in the file: a
manager that is built from it repeats nothing that was returned, as long as its counter does not wrap,
exactly if the text is not JSON or its two fields, or what stands for them, cover what was returned. What
`save` wrote does, if no call found the counter at its end. -/
theorem reload_safe_iff (serde : Serde) (storage : FileNonceStorage) (requests : List NonceRequest) :
    (∀ content,
      (∀ manager, NonceFile.withStorage serde (.text content) = .ok manager →
        (run step (start storage) (sequential requests)).RestartsSafely
          ⟨some (manager.nextSend, manager.lastSeen)⟩) ↔
      ∀ data, serde.fromStr content = .ok data →
        (run step (start storage) (sequential requests)).CoveredBy
          ((data.index "next_send").asU64.getD 1, (data.index "last_seen").asU64.getD 0)) ∧
    (Along step Steady (start storage) (sequential requests) →
      ∀ manager, NonceFile.withStorage serde
          ((run step (start storage) (sequential requests)).storage.onDisk serde) = .ok manager →
        (run step (start storage) (sequential requests)).RestartsSafely
          ⟨some (manager.nextSend, manager.lastSeen)⟩) := by
  have earlier := (run_holds_earlier storage (sequential requests)).sent
  constructor
  · intro content
    constructor
    · intro safe data read
      exact (restartsSafely_iff earlier _).mp
        (safe _ ((NonceFile.withStorage_text_iff serde).mpr ⟨data, read, rfl⟩))
    · intro covered manager built
      obtain ⟨data, read, rfl⟩ := (NonceFile.withStorage_text_iff serde).mp built
      exact (restartsSafely_iff earlier _).mpr (covered data read)
  · intro steady manager built
    have settled := (Settled.start storage).sequential requests steady
    rw [FileNonceStorage.withStorage_onDisk] at built
    cases built
    exact (restartsSafely_iff earlier _).mpr settled.file

/-! ## A document without its fields -/

open OpenHttpa.Parser

def readNumber : Parser UInt64 := do
  let digits ← takeWhile 1 Char.isDigit
  return UInt64.ofNat (Nat.ofDigitChars 10 digits.toList 0)

def documentText (nextSend lastSeen : UInt64) : List Char :=
  "\x7b\x22last_seen\x22:".toList ++ (Nat.toDigits 10 lastSeen.toNat ++
    (",\x22next_send\x22:".toList ++ (Nat.toDigits 10 nextSend.toNat ++ ("\x7d".toList ++ []))))

def readDocument : Parser Json := do
  let _ ← literal "\x7b\x22last_seen\x22:"
  let lastSeen ← readNumber
  let _ ← literal ",\x22next_send\x22:"
  let nextSend ← readNumber
  let _ ← literal "\x7d"
  return nonceDocument nextSend lastSeen

theorem readNumber_toDigits (number : UInt64) {rest : List Char} (stops : Stops Char.isDigit rest) :
    readNumber (Nat.toDigits 10 number.toNat ++ rest) = some (number, rest) := by
  have digits : takeWhile 1 Char.isDigit (Nat.toDigits 10 number.toNat ++ rest) =
      some (String.ofList (Nat.toDigits 10 number.toNat), rest) := by
    rw [takeWhile_eq_some_iff, String.toList_ofList]
    refine ⟨rfl, List.length_pos_iff.mpr Nat.toDigits_ne_nil, fun c digit => ?_, stops⟩
    exact Nat.isDigit_of_mem_toDigits (by decide) (by decide) digit
  rw [readNumber, bind_apply, digits, Option.bind_some, String.toList_ofList,
    Nat.ofDigitChars_toDigits (by decide) (by decide), UInt64.ofNat_toNat]
  rfl

theorem readDocument_documentText (nextSend lastSeen : UInt64) :
    readDocument (documentText nextSend lastSeen) = some (nonceDocument nextSend lastSeen, []) := by
  have literals : ∀ (text : String) (rest : List Char),
      literal text (text.toList ++ rest) = some (text, rest) :=
    fun text rest => literal_eq_some_iff.mpr ⟨rfl, rfl⟩
  have comma : ∀ rest, Stops Char.isDigit (",\x22next_send\x22:".toList ++ rest) := by
    rintro rest _ ⟨⟩
    rfl
  have brace : Stops Char.isDigit ("\x7d".toList ++ []) := by
    rintro _ ⟨⟩
    rfl
  unfold readDocument documentText
  simp only [bind_apply, literals, Option.bind_some, readNumber_toDigits _ (comma _),
    readNumber_toDigits _ brace, pure_apply]

def readEmpty : Parser Json := do
  let _ ← literal "\x7b\x7d"
  return .object []

def compactSerde : Serde where
  fromStr content :=
    match (readDocument <|> readEmpty) content.toList with
    | some (data, []) => .ok data
    | _ => .error "expected value"
  toString data := String.ofList (documentText ((data.index "next_send").asU64.getD 1)
    ((data.index "last_seen").asU64.getD 0))
  fromStr_toString nextSend lastSeen := by
    have fields : documentText (((nonceDocument nextSend lastSeen).index "next_send").asU64.getD 1)
        (((nonceDocument nextSend lastSeen).index "last_seen").asU64.getD 0) =
          documentText nextSend lastSeen := rfl
    rw [fields, String.toList_ofList, orElse_apply, readDocument_documentText]
    rfl

def sendAndReceive : List NonceRequest := [.nextSendNonce (.ok ()), .validateRecv 7 (.ok ())]

open NonceProcess in
/-- After that the file is found with an empty object in it: the manager starts anew, sends 1 again and
accepts 7 again. -/
theorem empty_document_repeats :
    (run step (start ⟨none⟩) (sequential sendAndReceive)).sent = [1] ∧
    (run step (start ⟨none⟩) (sequential sendAndReceive)).accepted = [7] ∧
    (NonceFile.text "\x7b\x7d").Damaged compactSerde ∧
    NonceFile.withStorage compactSerde (.text "\x7b\x7d") = .ok ⟨1, 0⟩ ∧
    (run step (start ⟨some (1, 0)⟩) sendAlone).sent = [1] ∧
    (run step (start ⟨some (1, 0)⟩) (recvAlone 7)).accepted = [7] := by
  refine ⟨by decide +kernel, by decide +kernel, ?_, by decide +kernel, by decide +kernel,
    by decide +kernel⟩
  rintro _ ⟨⟩
  exact .inl rfl

end OpenHttpa.Crypto
