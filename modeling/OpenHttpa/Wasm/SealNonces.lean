import OpenHttpa.Lib.Counters
import OpenHttpa.Lib.Run
import OpenHttpa.Wasm.Session

/-!
# Nonces under the client write key

One browser page between two successful key derivations. Requests and chunks draw from one counter
of the session and frames from another, both from 1 and both into the nonce of the same key and IV;
`openhttpa_ws_reset` sends the frame counter back to 1, and a chunk at the last counter sends the
request counter round to 0. The encryptions of a page are distinct exactly when no call draws a
number that another counter, or an earlier life of the same one, has passed.
-/
namespace OpenHttpa.Wasm

open Crypto

structure Platform where
  cipher : Cipher
  sha384 : Bytes → Octets 48
  /-- HMAC-SHA-384. -/
  hmac384 : Octets 32 → Bytes → Bytes
  /-- `serde_wasm_bindgen::to_value` of a chunk, with the reason it refuses. -/
  toValue : SealedChunk → Option String
  /-- `hex::encode`. -/
  hex : Bytes → Bytes

/-- A call from JavaScript into an established session. -/
inductive Call where
  | sealRequest (baseId plaintext : Bytes)
  | sealWithAhl (baseId plaintext : Bytes) (routing : Routing)
  | sealChunk (baseId plaintext : Bytes) (prevHash : Option Bytes)
  | sealWs (baseId plaintext : Bytes)
  | sealWsBinary (baseId plaintext : Bytes)
  | wsReset (baseId : Bytes)
  | unsealResponse (baseId : Bytes) (ciphertext : Option Bytes)
  | unsealWs (baseId frame : Bytes)
  | unsealChunk (baseId frame : Bytes) (prevHash : Option Bytes)

/-- An outcome without its value: whether the call succeeded, what it encrypted, what it left. -/
def Outcome.trace {α : Type} (outcome : Outcome α) :
    Bool × List Encryption × Option SessionState :=
  (outcome.1.toBool, outcome.2)

def Call.perform (platform : Platform) (session : Option SessionState) :
    Call → Bool × List Encryption × Option SessionState
  | .sealRequest baseId plaintext => (openhttpaSeal platform.cipher baseId plaintext session).trace
  | .sealWithAhl baseId plaintext routing =>
    (openhttpaSealWithAhl platform.cipher platform.hmac384 baseId plaintext routing session).trace
  | .sealChunk baseId plaintext prevHash =>
    (openhttpaSealChunk platform.cipher platform.sha384 platform.toValue baseId plaintext prevHash
      session).trace
  | .sealWs baseId plaintext => (openhttpaSealWs platform.cipher baseId plaintext session).trace
  | .sealWsBinary baseId plaintext =>
    (openhttpaSealWsBinary platform.cipher baseId plaintext session).trace
  | .wsReset baseId => (openhttpaWsReset baseId session).trace
  | .unsealResponse baseId ciphertext => (openhttpaUnseal platform.cipher baseId ciphertext session).trace
  | .unsealWs baseId frame =>
    (openhttpaUnsealWs platform.cipher platform.hex baseId frame session).trace
  | .unsealChunk baseId frame prevHash =>
    (openhttpaUnsealChunk platform.cipher platform.sha384 baseId frame prevHash session).trace

/-- Which counter of the session a call draws from. -/
inductive Source where
  | request
  | frame
  | retired (index : Nat)
deriving DecidableEq

/-- A page: the stored session, and what its calls have done so far. -/
structure Page where
  session : Option SessionState
  /-- The counters given up by a reset or by wrapping. -/
  retired : List (Counter (Octets 32))
  /-- Where the present life of the request counter began. -/
  requestStart : Nat
  performed : List Encryption
  /-- The encryptions whose ciphertext was handed to JavaScript, newest first. -/
  handed : List Encryption

namespace Page

/-- The page after a successful `openhttpa_derive_session`. -/
def derived (baseId : Bytes) (keys : SessionKeys) : Page :=
  ⟨some (.established baseId keys), [], 1, [], []⟩

variable (page : Page)

def counterOf : Source → Option (Counter (Octets 32))
  | .request => page.session.map fun s =>
      ⟨s.keys.clientWriteKey, page.requestStart, s.counter.toNat⟩
  | .frame => page.session.map fun s => ⟨s.keys.clientWriteKey, 1, s.wsClientCounter.toNat⟩
  | .retired index => page.retired[index]?

def reached (baseId : Bytes) : Option SessionState :=
  page.session.filter fun s => s.baseId = baseId

def drawsFrom : Call → Option Source
  | .sealRequest baseId _ | .sealWithAhl baseId _ _ =>
    if (page.reached baseId).any fun s => s.counter ≠ u64Max then some .request else none
  | .sealChunk baseId _ (some _) => if (page.reached baseId).isSome then some .request else none
  | .sealWs baseId _ | .sealWsBinary baseId _ =>
    if (page.reached baseId).any fun s => s.wsClientCounter ≠ u64Max then some .frame else none
  | _ => none

def givesUp : Call → Option (Counter (Octets 32))
  | .wsReset baseId => (page.reached baseId).bind fun _ => page.counterOf .frame
  | .sealChunk baseId _ (some _) =>
    ((page.reached baseId).filter fun s => s.counter = u64Max).map fun s =>
      ⟨s.keys.clientWriteKey, page.requestStart, s.counter.toNat + 1⟩
  | _ => none

def requestStartAfter : Call → Nat
  | .sealChunk baseId _ (some _) =>
    if (page.reached baseId).any fun s => s.counter = u64Max then 0 else page.requestStart
  | _ => page.requestStart

variable (platform : Platform) (baseId : Bytes)

def step (page : Page) (call : Call) : Page :=
  match call.perform platform page.session with
  | (ok, performed, session) =>
    { session
      retired := page.retired ++ (page.givesUp call).toList
      requestStart := page.requestStartAfter call
      performed := performed ++ page.performed
      handed := (if ok then performed else []) ++ page.handed }

/-- The call draws no number that another counter, or an earlier life of its own, has passed. -/
def Unpassed (call : Call) : Prop :=
  ∀ source counter, page.drawsFrom call = some source → page.counterOf source = some counter →
    ∀ other rival, other ≠ source → page.counterOf other = some rival →
      rival.key = counter.key → ¬ rival.Passed counter.next

/-- The call encrypts nothing, or it succeeds. -/
def Completes (page : Page) (call : Call) : Prop :=
  (call.perform platform page.session).2.1 = [] ∨ (call.perform platform page.session).1 = true

def bank (keys : SessionKeys) (page : Page) : Bank Source (Octets 32) where
  counter := page.counterOf
  drawn := page.performed.map (Encryption.number fun _ => keys.clientWriteIv)

/-- What one call can do to a page whose session is `s`, and the counter it draws from. -/
inductive Effect (s : SessionState) (page after : Page) : Option Source → Prop where
  | quiet (left : SessionState) (session : after.session = some left) (keys : left.keys = s.keys)
      (counter : left.counter = s.counter) (frames : left.wsClientCounter = s.wsClientCounter)
      (retired : after.retired = page.retired) (start : after.requestStart = page.requestStart)
      (performed : after.performed = page.performed) : Effect s page after none
  | requested (below : s.counter ≠ u64Max)
      (session : after.session = some { s with counter := s.counter + 1 })
      (retired : after.retired = page.retired) (start : after.requestStart = page.requestStart)
      (performed : after.performed = encryptionAt s.keys s.counter :: page.performed) :
      Effect s page after (some .request)
  /-- A chunk takes the last request number, and the counter goes round. -/
  | wrapped (last : s.counter = u64Max) (session : after.session = some { s with counter := 0 })
      (retired : after.retired =
        page.retired ++ [⟨s.keys.clientWriteKey, page.requestStart, s.counter.toNat + 1⟩])
      (start : after.requestStart = 0)
      (performed : after.performed = encryptionAt s.keys s.counter :: page.performed) :
      Effect s page after (some .request)
  | framed (below : s.wsClientCounter ≠ u64Max)
      (session : after.session = some { s with wsClientCounter := s.wsClientCounter + 1 })
      (retired : after.retired = page.retired) (start : after.requestStart = page.requestStart)
      (performed : after.performed = encryptionAt s.keys s.wsClientCounter :: page.performed) :
      Effect s page after (some .frame)
  | reset (session : after.session = some { s with wsClientCounter := 1, wsServerCounter := 0 })
      (retired : after.retired =
        page.retired ++ [⟨s.keys.clientWriteKey, 1, s.wsClientCounter.toNat⟩])
      (start : after.requestStart = page.requestStart)
      (performed : after.performed = page.performed) : Effect s page after none

section Steps

variable {platform : Platform} {page : Page} {s : SessionState} {baseId : Bytes}

theorem reached_eq (held : page.session = some s) (same : s.baseId = baseId) :
    page.reached baseId = some s := by
  simp [reached, held, same]

theorem missed_eq (held : page.session = some s) (missed : s.baseId ≠ baseId) :
    page.reached baseId = none := by
  simp [reached, held, missed]

variable {call : Call} {α : Type}
  {body : SessionState → Except String α × List Encryption × SessionState}

theorem step_retired (kept : page.givesUp call = none) :
    (page.step platform call).retired = page.retired := by
  change page.retired ++ (page.givesUp call).toList = page.retired
  rw [kept, Option.toList_none, List.append_nil]

theorem step_performed {made : List Encryption} {left : Option SessionState}
    (outcome : (call.perform platform page.session).2 = (made, left)) :
    (page.step platform call).performed = made ++ page.performed := by
  change (call.perform platform page.session).2.1 ++ page.performed = _
  rw [outcome]

theorem reached_outcome (held : page.session = some s) (same : s.baseId = baseId)
    (entry : call.perform platform page.session = (withSession page.session baseId body).trace) :
    (call.perform platform page.session).2 = ((body s).2.1, some (body s).2.2) := by
  rw [entry, held]
  change (withSession (some s) baseId body).2 = _
  rw [withSession_reached same]

section Kept

variable (kept : page.givesUp call = none) (start : page.requestStartAfter call = page.requestStart)
include kept start

theorem quiet_effect {left : SessionState}
    (outcome : (call.perform platform page.session).2 = ([], some left))
    (keys : left.keys = s.keys) (counter : left.counter = s.counter)
    (frames : left.wsClientCounter = s.wsClientCounter) :
    Effect s page (page.step platform call) none :=
  .quiet left (congrArg Prod.snd outcome) keys counter frames (step_retired kept) start
    (step_performed outcome)

theorem missed_effect (outcome : (call.perform platform page.session).2 = ([], some s))
    (idle : page.drawsFrom call = none) :
    Effect s page (page.step platform call) (page.drawsFrom call) := by
  rw [idle]
  exact quiet_effect kept start outcome rfl rfl rfl

theorem requested_effect (below : s.counter ≠ u64Max)
    (outcome : (call.perform platform page.session).2 =
      ([encryptionAt s.keys s.counter], some { s with counter := s.counter + 1 })) :
    Effect s page (page.step platform call) (some .request) :=
  .requested below (congrArg Prod.snd outcome) (step_retired kept) start (step_performed outcome)

variable (held : page.session = some s)
  (entry : call.perform platform page.session = (withSession page.session baseId body).trace)
include held entry

theorem other_effect (other : s.baseId ≠ baseId) (idle : page.drawsFrom call = none) :
    Effect s page (page.step platform call) (page.drawsFrom call) := by
  refine missed_effect kept start ?_ idle
  rw [entry, held]
  exact withSession_missed other body

theorem numbered_effect
    (counter : SessionState → UInt64) {name : Source} {taken : List Encryption × SessionState}
    (effect : (body s).2 = if counter s = u64Max then ([], s) else taken)
    (source : page.drawsFrom call =
      if (page.reached baseId).any fun s => counter s ≠ u64Max then some name else none)
    (draws : counter s ≠ u64Max → (call.perform platform page.session).2 = (taken.1, some taken.2) →
      Effect s page (page.step platform call) (some name)) :
    Effect s page (page.step platform call) (page.drawsFrom call) := by
  by_cases same : s.baseId = baseId
  · have reached := reached_eq held same
    have outcome := reached_outcome held same entry
    by_cases last : counter s = u64Max
    · rw [effect, if_pos last] at outcome
      exact missed_effect kept start outcome (by simp [source, reached, last])
    · rw [effect, if_neg last] at outcome
      have drawn : page.drawsFrom call = some name := by simp [source, reached, last]
      rw [drawn]
      exact draws last outcome
  · exact other_effect kept start held entry same (by simp [source, missed_eq held same])

theorem request_effect
    (effect : (body s).2 = if s.counter = u64Max then ([], s)
      else ([encryptionAt s.keys s.counter], { s with counter := s.counter + 1 }))
    (source : page.drawsFrom call =
      if (page.reached baseId).any fun s => s.counter ≠ u64Max then some .request else none) :
    Effect s page (page.step platform call) (page.drawsFrom call) := by
  apply numbered_effect kept start held entry SessionState.counter effect source
  intro below outcome
  exact requested_effect kept start below outcome

theorem frame_effect
    (effect : (body s).2 = if s.wsClientCounter = u64Max then ([], s)
      else ([encryptionAt s.keys s.wsClientCounter],
        { s with wsClientCounter := s.wsClientCounter + 1 }))
    (source : page.drawsFrom call =
      if (page.reached baseId).any fun s => s.wsClientCounter ≠ u64Max then some .frame else none) :
    Effect s page (page.step platform call) (page.drawsFrom call) := by
  apply numbered_effect kept start held entry SessionState.wsClientCounter effect source
  intro below outcome
  exact .framed below (congrArg Prod.snd outcome) (step_retired kept) start (step_performed outcome)

theorem receive_effect (receives : Receives body s) :
    Effect s page (page.step platform call) none := by
  have outcome : (call.perform platform page.session).2 = (withSession (some s) baseId body).2 := by
    rw [entry, held]
    rfl
  by_cases same : s.baseId = baseId
  · rw [withSession_reached same, receives.silent] at outcome
    exact quiet_effect kept start outcome receives.keys receives.counter receives.frames
  · rw [withSession_missed same] at outcome
    exact quiet_effect kept start outcome rfl rfl rfl

end Kept

theorem chunk_effect (held : page.session = some s) (same : s.baseId = baseId)
    (plaintext prevHash : Bytes) :
    Effect s page (page.step platform (.sealChunk baseId plaintext (some prevHash)))
      (page.drawsFrom (.sealChunk baseId plaintext (some prevHash))) := by
  have reached := reached_eq held same
  have outcome : ((Call.sealChunk baseId plaintext (some prevHash)).perform platform
      page.session).2 =
        ([encryptionAt s.keys s.counter], some { s with counter := s.counter + 1 }) := by
    rw [reached_outcome held same rfl, sealChunkBody_effect]
  have drawn : page.drawsFrom (.sealChunk baseId plaintext (some prevHash)) = some .request := by
    simp [drawsFrom, reached]
  rw [drawn]
  by_cases last : s.counter = u64Max
  · have round : s.counter + 1 = 0 := by
      rw [last]
      rfl
    rw [round] at outcome
    refine .wrapped last (congrArg Prod.snd outcome) ?_ ?_ ?_
    · change page.retired ++ (page.givesUp (.sealChunk baseId plaintext (some prevHash))).toList = _
      simp [givesUp, reached, last]
    · change page.requestStartAfter (.sealChunk baseId plaintext (some prevHash)) = 0
      simp [requestStartAfter, reached, last]
    · change ((Call.sealChunk baseId plaintext (some prevHash)).perform platform
        page.session).2.1 ++ page.performed = _
      rw [outcome, List.singleton_append]
  · exact requested_effect (by simp [givesUp, reached, last])
      (by simp [requestStartAfter, reached, last]) last outcome

theorem reset_effect (held : page.session = some s) (same : s.baseId = baseId) :
    Effect s page (page.step platform (.wsReset baseId)) none := by
  have outcome : ((Call.wsReset baseId).perform platform page.session).2 =
      ([], some { s with wsClientCounter := 1, wsServerCounter := 0 }) := by
    rw [reached_outcome held same rfl]
  refine .reset (congrArg Prod.snd outcome) ?_ rfl ?_
  · change page.retired ++ (page.givesUp (.wsReset baseId)).toList = _
    simp [givesUp, reached_eq held same, counterOf, held]
  · change ((Call.wsReset baseId).perform platform page.session).2.1 ++ page.performed = _
    rw [outcome, List.nil_append]

theorem step_effect (platform : Platform) (held : page.session = some s) (call : Call) :
    Effect s page (page.step platform call) (page.drawsFrom call) := by
  cases call with
  | sealRequest baseId plaintext => exact request_effect rfl rfl held rfl (sealBody_effect ..) rfl
  | sealWithAhl baseId plaintext routing =>
    exact request_effect rfl rfl held rfl (sealWithAhlBody_effect ..) rfl
  | sealChunk baseId plaintext prevHash =>
    by_cases same : s.baseId = baseId
    · cases prevHash with
      | none =>
        refine missed_effect rfl rfl ?_ rfl
        rw [held]
        change (withSession (some s) baseId _).2 = _
        rw [withSession_reached same]
        rfl
      | some prevHash => exact chunk_effect held same plaintext prevHash
    · have missed := missed_eq held same
      cases prevHash with
      | none => exact other_effect rfl rfl held rfl same rfl
      | some prevHash =>
        exact other_effect (by simp [givesUp, missed]) (by simp [requestStartAfter, missed]) held rfl
          same (by simp [drawsFrom, missed])
  | sealWs | sealWsBinary => exact frame_effect rfl rfl held rfl (sealFrameBody_effect ..) rfl
  | wsReset baseId =>
    by_cases same : s.baseId = baseId
    · exact reset_effect held same
    · exact other_effect (by simp [givesUp, missed_eq held same]) rfl held rfl same rfl
  | unsealResponse baseId ciphertext => exact receive_effect rfl rfl held rfl (unsealBody_receives ..)
  | unsealWs baseId frame => exact receive_effect rfl rfl held rfl (unsealFrameBody_receives ..)
  | unsealChunk baseId frame prevHash =>
    exact receive_effect rfl rfl held rfl (unsealChunkBody_receives ..)

end Steps

structure Sound (keys : SessionKeys) (page : Page) : Prop where
  /-- The log holds exactly the numbers the counters have passed. -/
  covered : (page.bank keys).Covered
  /-- There is a session, it has these keys, and no counter is below its start. -/
  held : ∃ s, page.session = some s ∧ s.keys = keys ∧ page.requestStart ≤ s.counter.toNat ∧
    1 ≤ s.wsClientCounter.toNat
  logged : ∀ entry ∈ page.performed, ∃ number, entry.nonce = counterNonce keys.clientWriteIv number

theorem derived_sound (keys : SessionKeys) : (derived baseId keys).Sound keys where
  covered := by
    intro key value
    constructor
    · intro member
      simp [bank, derived] at member
    · rintro ⟨name, counter, found, keyed, passed⟩
      exfalso
      cases name with
      | request | frame =>
        obtain rfl : ⟨keys.clientWriteKey, 1, 1⟩ = counter := Option.some.inj found
        exact absurd passed.1 (Nat.not_le.mpr passed.2)
      | retired index => simp [bank, counterOf, derived] at found
  held := ⟨_, rfl, rfl, Nat.le_refl 1, Nat.le_refl 1⟩
  logged := by simp [derived]

variable {page after : Page} {keys : SessionKeys} {s : SessionState}

theorem counterOf_retired {counter : Counter (Octets 32)}
    (retired : after.retired = page.retired ++ [counter]) (index : Nat) :
    after.counterOf (.retired index) = if index = page.retired.length then some counter
      else page.counterOf (.retired index) := by
  change after.retired[index]? = _
  rw [retired, getElem?_append_singleton]
  rfl

theorem bank_drawn {name : Source} {start : Nat} {number : UInt64}
    (found : (page.bank keys).counter name = some ⟨keys.clientWriteKey, start, number.toNat⟩)
    (performed : after.performed = encryptionAt keys number :: page.performed)
    (moved : after.counterOf = Function.update page.counterOf name
      (some ⟨keys.clientWriteKey, start, number.toNat + 1⟩)) :
    after.bank keys = (page.bank keys).draw name := by
  rw [Bank.draw_of_some found]
  simp only [Page.bank, performed, List.map_cons, encryptionAt, Encryption.number_counterNonce, moved]

theorem Effect.bank {source : Option Source} (held : page.session = some s) (same : s.keys = keys)
    (requestOrder : page.requestStart ≤ s.counter.toNat) (frameOrder : 1 ≤ s.wsClientCounter.toNat)
    (effect : Effect s page after source) :
    Bank.Step (page.bank keys) (after.bank keys) source := by
  subst same
  have request : (page.bank s.keys).counter .request =
      some ⟨s.keys.clientWriteKey, page.requestStart, s.counter.toNat⟩ := by
    simp [Page.bank, counterOf, held]
  have frame : (page.bank s.keys).counter .frame =
      some ⟨s.keys.clientWriteKey, 1, s.wsClientCounter.toNat⟩ := by
    simp [Page.bank, counterOf, held]
  have unused : page.counterOf (.retired page.retired.length) = none := by simp [counterOf]
  cases effect with
  | quiet left session keys' counter frames retired start performed =>
    have counters : after.counterOf = page.counterOf := by
      funext name
      cases name <;> simp [counterOf, session, held, keys', counter, frames, retired, start]
    have unmoved : after.bank s.keys = page.bank s.keys := by simp [Page.bank, counters, performed]
    rw [unmoved]
    exact .quiet .same
  | requested below session retired start performed =>
    have moved : after.counterOf = Function.update page.counterOf .request
        (some ⟨s.keys.clientWriteKey, page.requestStart, s.counter.toNat + 1⟩) := by
      funext name
      cases name <;> simp [counterOf, session, held, retired, start, toNat_succ below]
    rw [bank_drawn request performed moved]
    exact .draws request requestOrder .same
  | wrapped last session retired start performed =>
    -- The counter goes round to 0; what it has passed is kept under the name of a retired one.
    have drawn : after.bank s.keys = ((page.bank s.keys).draw .request).restart .request
        (.retired page.retired.length) s.keys.clientWriteKey 0 := by
      rw [Bank.draw_of_some request]
      simp only [Page.bank, Bank.restart, performed, List.map_cons, encryptionAt,
        Encryption.number_counterNonce]
      congr 1
      funext name
      cases name with
      | request => simp [counterOf, session, start]
      | frame => simp [counterOf, session, held]
      | retired index =>
        rw [counterOf_retired retired]
        by_cases newest : index = page.retired.length
        · simp [newest]
        · simp [newest]
    have apart : Source.retired page.retired.length ≠ .request := by simp
    rw [drawn]
    refine .draws request requestOrder (.restarted _ _
      ⟨s.keys.clientWriteKey, page.requestStart, s.counter.toNat + 1⟩ _ _ ?_ ?_)
    · simp [Bank.draw_of_some request]
    · exact (Bank.draw_counter_of_ne _ apart).trans unused
  | framed below session retired start performed =>
    have moved : after.counterOf = Function.update page.counterOf .frame
        (some ⟨s.keys.clientWriteKey, 1, s.wsClientCounter.toNat + 1⟩) := by
      funext name
      cases name <;> simp [counterOf, session, held, retired, start, toNat_succ below]
    rw [bank_drawn frame performed moved]
    exact .draws frame frameOrder .same
  | reset session retired start performed =>
    have again : after.bank s.keys = (page.bank s.keys).restart .frame (.retired page.retired.length)
        s.keys.clientWriteKey 1 := by
      simp only [Page.bank, Bank.restart, performed]
      congr 1
      funext name
      cases name with
      | request => simp [counterOf, session, held, start]
      | frame => simp [counterOf, session]
      | retired index =>
        rw [counterOf_retired retired]
        by_cases newest : index = page.retired.length
        · simp [newest, counterOf, held]
        · simp [newest]
    rw [again]
    exact .quiet (.restarted _ _ _ _ _ frame unused)

theorem Effect.sound {source : Option Source} (sound : page.Sound keys) (held : page.session = some s)
    (effect : Effect s page after source) :
    after.Sound keys ∧ Bank.Step (page.bank keys) (after.bank keys) source := by
  obtain ⟨found, present, same, requestOrder, frameOrder⟩ := sound.held
  obtain rfl : found = s := Option.some.inj (present.symm.trans held)
  have step := effect.bank held same requestOrder frameOrder
  have covered := step.covered sound.covered
  have counted : ∀ number, ∃ count, (encryptionAt found.keys number).nonce =
      counterNonce keys.clientWriteIv count := fun number => ⟨number, by rw [← same]; rfl⟩
  refine ⟨?_, step⟩
  cases effect with
  | quiet left session keys' counter frames retired start performed =>
    refine ⟨covered, ⟨left, session, keys'.trans same, ?_, ?_⟩, ?_⟩
    · rw [start, counter]; exact requestOrder
    · rw [frames]; exact frameOrder
    · rw [performed]; exact sound.logged
  | requested below session retired start performed =>
    refine ⟨covered, ⟨_, session, same, ?_, frameOrder⟩, ?_⟩
    · rw [start, toNat_succ below]
      exact Nat.le_succ_of_le requestOrder
    · rw [performed, List.forall_mem_cons]
      exact ⟨counted _, sound.logged⟩
  | wrapped last session retired start performed =>
    refine ⟨covered, ⟨_, session, same, ?_, frameOrder⟩, ?_⟩
    · rw [start]; exact Nat.zero_le _
    · rw [performed, List.forall_mem_cons]
      exact ⟨counted _, sound.logged⟩
  | framed below session retired start performed =>
    refine ⟨covered, ⟨_, session, same, ?_, ?_⟩, ?_⟩
    · rw [start]; exact requestOrder
    · rw [toNat_succ below]
      exact Nat.le_succ_of_le frameOrder
    · rw [performed, List.forall_mem_cons]
      exact ⟨counted _, sound.logged⟩
  | reset session retired start performed =>
    refine ⟨covered, ⟨_, session, same, ?_, Nat.le_refl 1⟩, ?_⟩
    · rw [start]; exact requestOrder
    · rw [performed]; exact sound.logged

theorem Effect.performed_nodup_iff
    {call : Call} (sound : page.Sound keys) (held : page.session = some s)
    (effect : Effect s page after (page.drawsFrom call)) :
    after.performed.Nodup ↔ page.performed.Nodup ∧ page.Unpassed call := by
  obtain ⟨soundAfter, step⟩ := effect.sound sound held
  rw [Encryption.nodup_iff_number (fun _ => keys.clientWriteIv) sound.logged,
    Encryption.nodup_iff_number (fun _ => keys.clientWriteIv) soundAfter.logged]
  change (after.bank keys).drawn.Nodup ↔ (page.bank keys).drawn.Nodup ∧ _
  rw [step.nodup_iff sound.covered]
  refine and_congr_right fun _ => ?_
  constructor
  · intro unpassed source counter drawn present
    exact unpassed source drawn counter present
  · intro unpassed source drawn counter present
    exact unpassed source counter drawn present

variable (keys)

theorem handed_sublist (calls : List Call) :
    (run (step platform) (derived baseId keys) calls).handed.Sublist
      (run (step platform) (derived baseId keys) calls).performed := by
  refine run_invariant (fun page : Page => page.handed.Sublist page.performed)
    (fun page call part => ?_) (List.Sublist.refl []) calls
  change ((if (call.perform platform page.session).1 then (call.perform platform page.session).2.1
    else []) ++ page.handed).Sublist ((call.perform platform page.session).2.1 ++ page.performed)
  refine List.Sublist.append ?_ part
  cases (call.perform platform page.session).1 with
  | false => exact List.nil_sublist _
  | true => exact List.Sublist.refl _

theorem handed_eq_performed {calls : List Call}
    (complete : Along (step platform) (Completes platform) (derived baseId keys) calls) :
    (run (step platform) (derived baseId keys) calls).handed =
      (run (step platform) (derived baseId keys) calls).performed := by
  refine run_invariant_along (fun page : Page => page.handed = page.performed)
    (fun page call same completes => ?_) rfl complete
  change (if (call.perform platform page.session).1 then (call.perform platform page.session).2.1
    else []) ++ page.handed = (call.perform platform page.session).2.1 ++ page.performed
  rw [same]
  rcases completes with nothing | succeeded
  · rw [nothing, ite_self]
  · rw [succeeded, if_pos rfl]

end Page

open Page

/-- On a page between two derivations, no two ciphertexts handed to JavaScript share a nonce if
every sealing call draws a number that no other counter of the session, and no earlier life of its
own, has passed; and only then, if no call fails after it has encrypted. -/
theorem handed_nonces_distinct (platform : Platform) (baseId : Bytes) (keys : SessionKeys)
    (calls : List Call) :
    (Along (step platform) Unpassed (derived baseId keys) calls →
      (run (step platform) (derived baseId keys) calls).handed.Nodup) ∧
    (Along (step platform) (Completes platform) (derived baseId keys) calls →
      ((run (step platform) (derived baseId keys) calls).handed.Nodup ↔
        Along (step platform) Unpassed (derived baseId keys) calls)) := by
  have always : Along (step platform) (fun _ _ => True) (derived baseId keys) calls :=
    along_of_forall (fun _ _ => trivial) _ _
  have distinct := run_iff_along (fun page : Page => page.performed.Nodup)
    (fun page call (sound : page.Sound keys) _ => by
      obtain ⟨s, held, _⟩ := sound.held
      exact ((step_effect platform held call).sound sound held).1)
    (fun page call sound _ => by
      obtain ⟨s, held, _⟩ := sound.held
      exact (step_effect platform held call).performed_nodup_iff sound held)
    (derived_sound baseId keys) always
  have start : (derived baseId keys).performed.Nodup := List.nodup_nil
  refine ⟨fun unpassed => ?_, fun complete => ?_⟩
  · exact (handed_sublist platform baseId keys calls).nodup (distinct.mpr ⟨start, unpassed⟩)
  · rw [handed_eq_performed platform baseId keys complete, distinct]
    exact and_iff_right start

def plainPlatform : Platform := ⟨plainCipher, fun _ => .zero 48, fun _ _ => [], fun _ => none, id⟩

theorem request_and_chunk_distinct :
    (run (step plainPlatform) (derived [] .zero)
      [.sealRequest [] [], .sealChunk [] [] (some [])]).handed.Nodup ∧
    Along (step plainPlatform) Unpassed (derived [] .zero)
      [.sealRequest [] [], .sealChunk [] [] (some [])] := by
  have distinct : (run (step plainPlatform) (derived [] .zero)
      [.sealRequest [] [], .sealChunk [] [] (some [])]).handed.Nodup := by decide +kernel
  have complete : Along (step plainPlatform) (Completes plainPlatform) (derived [] .zero)
      [.sealRequest [] [], .sealChunk [] [] (some [])] := ⟨.inr rfl, .inr rfl, trivial⟩
  exact ⟨distinct, ((handed_nonces_distinct _ _ _ _).2 complete).mp distinct⟩

/-- A request and a frame of one session are handed out under the nonce of counter 1. -/
theorem request_and_frame_share_nonce :
    ¬ (run (step plainPlatform) (derived [] .zero)
      [.sealRequest [] [], .sealWs [] []]).handed.Nodup := by
  decide +kernel

/-- So are two frames on either side of a reset. -/
example : ¬ (run (step plainPlatform) (derived [] .zero)
    [.sealWs [] [], .wsReset [], .sealWs [] []]).handed.Nodup := by
  decide +kernel

end OpenHttpa.Wasm
