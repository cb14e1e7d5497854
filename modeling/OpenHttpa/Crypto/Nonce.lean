import Mathlib.Data.ENat.Basic
import Mathlib.Logic.Function.Basic
import OpenHttpa.Lib.Bytes
import OpenHttpa.Lib.Run

/-!
# The nonce manager

`NonceManager` and `FileNonceStorage` of `openhttpa-crypto/src/nonce.rs`. The manager counts the
nonces it sends with a wrapping `fetch_add` and keeps the highest nonce it received; a manager with
storage saves both numbers after every change. First one caller: what a row of `next_send_nonce`
calls returns. Then many: the calls of a process as the atomic steps they consist of, interleaved in
any order, with crashes between any two steps and restarts from the file.
-/
namespace OpenHttpa.Crypto

inductive NonceError where
  | Replay (received last : UInt64)
  | Overflow
  | Storage (reason : String)
deriving DecidableEq

/-- `NonceManager`, its storage apart. -/
structure NonceManager where
  nextSend : UInt64
  lastSeen : UInt64
deriving DecidableEq

namespace NonceManager

def new : NonceManager := ⟨1, 0⟩

variable (storage : Option (UInt64 → UInt64 → Except String Unit))

/-- `NonceManager::next_send_nonce`. A manager without storage saves nothing; one with storage calls
`save` with both numbers. The counter moves before anything is tested. -/
def nextSendNonce (manager : NonceManager) : Except NonceError UInt64 × NonceManager :=
  let prev := manager.nextSend
  let fetched := { manager with nextSend := prev + 1 }
  if prev = u64Max then
    (.error .Overflow, fetched)
  else
    match storage with
    | none => (.ok prev, fetched)
    | some save =>
      match save (prev + 1) manager.lastSeen with
      | .error reason => (.error (.Storage reason), fetched)
      | .ok () => (.ok prev, fetched)

/-- The manager before each of a row of calls, the storage answering each as it likes. -/
def before (storage : Nat → Option (UInt64 → UInt64 → Except String Unit)) (start : NonceManager) :
    Nat → NonceManager
  | 0 => start
  | calls + 1 => (nextSendNonce (storage calls) (before storage start calls)).2

/-- The results of these calls. -/
def sends (storage : Nat → Option (UInt64 → UInt64 → Except String Unit)) (start : NonceManager)
    (call : Nat) : Except NonceError UInt64 :=
  (nextSendNonce (storage call) (before storage start call)).1

theorem nextSendNonce_nextSend
    (manager : NonceManager) : (nextSendNonce storage manager).2.nextSend = manager.nextSend + 1 := by
  unfold nextSendNonce
  dsimp only
  split
  · rfl
  · split
    · rfl
    · split <;> rfl

theorem nextSendNonce_overflow (manager : NonceManager) :
    (nextSendNonce storage manager).1 = .error .Overflow ↔ manager.nextSend = u64Max := by
  unfold nextSendNonce
  dsimp only
  split
  · simp_all
  · rename_i below
    refine iff_of_false ?_ below
    split
    · simp
    · split <;> simp

theorem nextSendNonce_ok {storage : Option (UInt64 → UInt64 → Except String Unit)}
    {manager : NonceManager} {nonce : UInt64} (sent : (nextSendNonce storage manager).1 = .ok nonce) :
    nonce = manager.nextSend := by
  unfold nextSendNonce at sent
  dsimp only at sent
  split at sent
  · cases sent
  · split at sent
    · cases sent
      rfl
    · split at sent
      · cases sent
      · cases sent
        rfl

variable (storage : Nat → Option (UInt64 → UInt64 → Except String Unit)) (start : NonceManager)

theorem before_nextSend (call : Nat) :
    (before storage start call).nextSend.toNat = (start.nextSend.toNat + call) % 2 ^ 64 := by
  induction call with
  | zero =>
    have bound := start.nextSend.toNat_lt
    rw [before]
    omega
  | succ call ih =>
    rw [before, nextSendNonce_nextSend, UInt64.toNat_add, ih]
    have one : (1 : UInt64).toNat = 1 := rfl
    omega

theorem sends_distinct {first second : Nat}
    (within : start.nextSend.toNat + first < 2 ^ 64) (withinToo : start.nextSend.toNat + second < 2 ^ 64)
    {nonce : UInt64} (one : sends storage start first = .ok nonce)
    (two : sends storage start second = .ok nonce) : first = second := by
  have firstNumber := congrArg UInt64.toNat (nextSendNonce_ok one)
  have secondNumber := congrArg UInt64.toNat (nextSendNonce_ok two)
  rw [before_nextSend] at firstNumber secondNumber
  omega

theorem sends_overflow (call : Nat) : sends storage start call = .error .Overflow ↔
    (start.nextSend.toNat + call) % 2 ^ 64 = 2 ^ 64 - 1 := by
  rw [sends, nextSendNonce_overflow, ← before_nextSend storage start call, ← UInt64.toNat_inj]
  rfl

/-- From any start, over any number of calls, finite or not: the nonces returned are distinct and an
overflow stays one exactly if there are no more calls than numbers left, the overflow counted. -/
theorem sends_safe_iff (length : ℕ∞) :
    ((∀ first second : Nat, first < length → second < length → ∀ nonce,
        sends storage start first = .ok nonce → sends storage start second = .ok nonce →
          first = second) ∧
      ∀ first second : Nat, first < second → second < length →
        sends storage start first = .error .Overflow →
          sends storage start second = .error .Overflow) ↔
      length ≤ (2 ^ 64 - start.nextSend.toNat : Nat) := by
  have bound := start.nextSend.toNat_lt
  constructor
  · rintro ⟨-, stays⟩
    by_contra long
    rw [not_le] at long
    -- the last call within the numbers overflows, and the one after it finds the counter at zero
    have ends : sends storage start (2 ^ 64 - 1 - start.nextSend.toNat) = .error .Overflow := by
      rw [sends_overflow]
      omega
    have again := stays _ (2 ^ 64 - start.nextSend.toNat) (by omega) long ends
    rw [sends_overflow] at again
    omega
  · intro short
    have within : ∀ call : Nat, call < length → start.nextSend.toNat + call < 2 ^ 64 := by
      intro call before
      have less := lt_of_lt_of_le before short
      rw [Nat.cast_lt] at less
      omega
    refine ⟨?_, ?_⟩
    · intro first second firstIn secondIn nonce one two
      exact sends_distinct storage start (within first firstIn) (within second secondIn) one two
    · intro first second earlier secondIn ends
      have last := within second secondIn
      rw [sends_overflow] at ends
      omega

/-- A manager loaded at the last number: the first call overflows, the second returns zero. -/
theorem overflow_starts_again :
    sends (fun _ => none) ⟨u64Max, 0⟩ 0 = .error .Overflow ∧
      sends (fun _ => none) ⟨u64Max, 0⟩ 1 = .ok 0 := by
  decide

end NonceManager

/-- `FileNonceStorage`: the pair in the file, if there is a file. -/
structure FileNonceStorage where
  /-- `next_send` and `last_seen`. -/
  file : Option (UInt64 × UInt64)

namespace FileNonceStorage

/-- `FileNonceStorage::save`, when it succeeds. -/
def save (_storage : FileNonceStorage) (nextSend lastSeen : UInt64) : FileNonceStorage :=
  ⟨some (nextSend, lastSeen)⟩

def load (storage : FileNonceStorage) : UInt64 × UInt64 := storage.file.getD (1, 0)

end FileNonceStorage

def NonceManager.withStorage (storage : FileNonceStorage) : NonceManager :=
  ⟨storage.load.1, storage.load.2⟩

/-- Where a call stands between two of its atomic steps. -/
inductive NonceCall where
  /-- `next_send_nonce` after `fetch_add`; it reads `last_seen` next. -/
  | sendFetched (prev : UInt64)
  | sendRead (prev last : UInt64)
  | sendSaved (prev : UInt64)
  /-- `validate_recv` at the head of its loop; it reads `last_seen` next. -/
  | recvCalled (nonce : UInt64)
  /-- It tries `compare_exchange` next. -/
  | recvRead (nonce last : UInt64)
  /-- It reads `next_send` next. -/
  | recvAdvanced (nonce : UInt64)
  | recvNext (nonce next : UInt64)
  | recvSaved (nonce : UInt64)

/-- A process whose threads share a manager. -/
structure NonceProcess where
  storage : FileNonceStorage
  manager : NonceManager
  calls : Nat → Option NonceCall
  /-- What `next_send_nonce` has returned, newest first. -/
  sends : List (Except NonceError UInt64)
  /-- What `validate_recv` has returned for which nonce, newest first. -/
  recvs : List (UInt64 × Except NonceError Unit)

inductive NonceEvent where
  /-- A thread calls `next_send_nonce`, up to its `fetch_add`. -/
  | send (thread : Nat)
  | recv (thread : Nat) (nonce : UInt64)
  /-- The call of a thread takes its next step; a save in it goes as said. -/
  | step (thread : Nat) (save : Except String Unit)
  /-- The process ends at once and is started again with `with_storage`. -/
  | restart

namespace NonceProcess

variable (storage : FileNonceStorage)

def start : NonceProcess :=
  ⟨storage, .withStorage storage, fun _ => none, [], []⟩

variable (process : NonceProcess)

/-- The nonces `next_send_nonce` has returned. -/
def sent : List UInt64 := process.sends.filterMap (·.toOption)

/-- The nonces `validate_recv` has accepted. -/
def accepted : List UInt64 :=
  process.recvs.filterMap fun answer => answer.2.toOption.map fun _ => answer.1

def put (thread : Nat) (call : Option NonceCall) : NonceProcess :=
  { process with calls := Function.update process.calls thread call }

def returnSend (thread : Nat) (answer : Except NonceError UInt64) : NonceProcess :=
  { process.put thread none with sends := answer :: process.sends }

def returnRecv (thread : Nat) (nonce : UInt64) (answer : Except NonceError Unit) : NonceProcess :=
  { process.put thread none with recvs := (nonce, answer) :: process.recvs }

def advance (thread : Nat) (save : Except String Unit) : NonceCall → NonceProcess
  | .sendFetched prev => process.put thread (some (.sendRead prev process.manager.lastSeen))
  | .sendRead prev last =>
    match save with
    | .error reason => process.returnSend thread (.error (.Storage reason))
    | .ok () =>
      { process.put thread (some (.sendSaved prev)) with storage := process.storage.save (prev + 1) last }
  | .sendSaved prev => process.returnSend thread (.ok prev)
  | .recvCalled nonce =>
    let last := process.manager.lastSeen
    if nonce ≤ last then process.returnRecv thread nonce (.error (.Replay nonce last))
    else process.put thread (some (.recvRead nonce last))
  | .recvRead nonce last =>
    if process.manager.lastSeen = last then
      { process.put thread (some (.recvAdvanced nonce)) with
        manager := { process.manager with lastSeen := nonce } }
    else
      process.put thread (some (.recvCalled nonce))
  | .recvAdvanced nonce => process.put thread (some (.recvNext nonce process.manager.nextSend))
  | .recvNext nonce next =>
    match save with
    | .error reason => process.returnRecv thread nonce (.error (.Storage reason))
    | .ok () =>
      { process.put thread (some (.recvSaved nonce)) with storage := process.storage.save next nonce }
  | .recvSaved nonce => process.returnRecv thread nonce (.ok ())

/-- One event of the process. -/
def step (process : NonceProcess) : NonceEvent → NonceProcess
  | .send thread =>
    match process.calls thread with
    | some _ => process
    | none =>
      let prev := process.manager.nextSend
      let fetched := { process with manager := { process.manager with nextSend := prev + 1 } }
      if prev = u64Max then fetched.returnSend thread (.error .Overflow)
      else fetched.put thread (some (.sendFetched prev))
  | .recv thread nonce =>
    match process.calls thread with
    | some _ => process
    | none => process.put thread (some (.recvCalled nonce))
  | .step thread save =>
    match process.calls thread with
    | none => process
    | some call => process.advance thread save call
  | .restart => { start process.storage with sends := process.sends, recvs := process.recvs }

/-- A pair from which a restart repeats nothing that was returned. -/
def CoveredBy (pair : UInt64 × UInt64) : Prop :=
  (∀ nonce ∈ process.sent, nonce < pair.1) ∧ ∀ nonce ∈ process.accepted, nonce ≤ pair.2

/-- No save that succeeds writes a pair that does not cover what was returned, and no call returns a
nonce the file does not cover. -/
def NotStale : NonceEvent → Prop
  | .step thread save =>
    match process.calls thread, save with
    | some (.sendRead prev last), .ok () => process.CoveredBy (prev + 1, last)
    | some (.recvNext nonce next), .ok () => process.CoveredBy (next, nonce)
    | some (.sendSaved prev), _ => prev < process.storage.load.1
    | some (.recvSaved nonce), _ => nonce ≤ process.storage.load.2
    | _, _ => True
  | _ => True

/-- The process goes on running, and no call finds the counter at its end. -/
def Steady : NonceEvent → Prop
  | .send _ => process.manager.nextSend ≠ u64Max
  | .restart => False
  | _ => True

section Returns

variable (process : NonceProcess) (thread : Nat) (nonce : UInt64)

@[simp]
theorem returnSend_sent : (process.returnSend thread (.ok nonce)).sent = nonce :: process.sent := rfl

@[simp]
theorem returnSend_accepted (answer : Except NonceError UInt64) :
    (process.returnSend thread answer).accepted = process.accepted := rfl

@[simp]
theorem returnSend_storage (answer : Except NonceError UInt64) :
    (process.returnSend thread answer).storage = process.storage := rfl

@[simp]
theorem returnRecv_accepted :
    (process.returnRecv thread nonce (.ok ())).accepted = nonce :: process.accepted := rfl

@[simp]
theorem returnRecv_sent (answer : Except NonceError Unit) :
    (process.returnRecv thread nonce answer).sent = process.sent := rfl

@[simp]
theorem returnRecv_storage (answer : Except NonceError Unit) :
    (process.returnRecv thread nonce answer).storage = process.storage := rfl

end Returns

variable {process}

theorem covered_step_iff (covered : process.CoveredBy process.storage.load) (event : NonceEvent) :
    (process.step event).CoveredBy (process.step event).storage.load ↔ process.NotStale event := by
  cases event with
  | send thread =>
    refine iff_of_true ?_ trivial
    simp only [step]
    split
    · exact covered
    · split
      · exact covered
      · exact covered
  | recv thread nonce =>
    refine iff_of_true ?_ trivial
    simp only [step]
    split
    · exact covered
    · exact covered
  | restart => exact iff_of_true covered trivial
  | step thread save =>
    cases held : process.calls thread with
    | none =>
      simp only [step, NotStale, held]
      exact iff_of_true covered trivial
    | some call =>
      simp only [step, NotStale, held]
      cases call with
      | sendRead | recvNext =>
        cases save with
        | error reason => exact iff_of_true covered trivial
        | ok => exact Iff.rfl
      | sendSaved prev =>
        simp only [advance, CoveredBy, returnSend_sent, returnSend_storage, returnSend_accepted,
          List.forall_mem_cons]
        exact ⟨fun now => now.1.1, fun fits => ⟨⟨fits, covered.1⟩, covered.2⟩⟩
      | recvSaved nonce =>
        simp only [advance, CoveredBy, returnRecv_accepted, returnRecv_storage, returnRecv_sent,
          List.forall_mem_cons]
        exact ⟨fun now => now.2.1, fun fits => ⟨covered.1, fits, covered.2⟩⟩
      | sendFetched | recvAdvanced => exact iff_of_true covered trivial
      | recvCalled | recvRead =>
        refine iff_of_true ?_ trivial
        simp only [advance]
        split
        · exact covered
        · exact covered

section Numbers

variable (sendable receivable : UInt64 → Prop)

/-- A call carries numbers of these kinds: one to send, or one that was found above `last_seen`. -/
def Carries : NonceCall → Prop
  | .sendFetched prev | .sendRead prev _ | .sendSaved prev => sendable prev
  | .recvCalled _ => True
  | .recvRead nonce _ | .recvAdvanced nonce | .recvNext nonce _ | .recvSaved nonce => receivable nonce

/-- Only numbers of these kinds are under way, were sent and were accepted. -/
structure Holds (process : NonceProcess) : Prop where
  calls : ∀ thread call, process.calls thread = some call → Carries sendable receivable call
  sent : ∀ nonce ∈ process.sent, sendable nonce
  accepted : ∀ nonce ∈ process.accepted, receivable nonce

variable {sendable receivable} {process : NonceProcess} {thread : Nat}

theorem holds_start (storage : FileNonceStorage) : Holds sendable receivable (start storage) where
  calls := by simp [start]
  sent := by simp [start, NonceProcess.sent]
  accepted := by simp [start, NonceProcess.accepted]

variable (holds : Holds sendable receivable process)
include holds

theorem Holds.put {moved : Option NonceCall}
    (fresh : ∀ call, moved = some call → Carries sendable receivable call) :
    Holds sendable receivable (process.put thread moved) where
  calls := by
    intro other call found
    by_cases same : other = thread
    · subst same
      exact fresh call (by simpa [NonceProcess.put] using found)
    · exact holds.calls other call (by simpa [NonceProcess.put, same] using found)
  sent := holds.sent
  accepted := holds.accepted

theorem Holds.drop : Holds sendable receivable (process.put thread none) :=
  holds.put (by simp)

theorem Holds.move (call : NonceCall) (fresh : Carries sendable receivable call) :
    Holds sendable receivable (process.put thread (some call)) :=
  holds.put (by rintro _ ⟨⟩; exact fresh)

theorem Holds.advance (fresh : ∀ nonce, process.manager.lastSeen < nonce → receivable nonce)
    {call : NonceCall} (held : process.calls thread = some call) (save : Except String Unit) :
    Holds sendable receivable (process.advance thread save call) := by
  have own := holds.calls thread call held
  cases call with
  | sendFetched prev => exact holds.move (.sendRead prev _) own
  | sendRead prev last =>
    cases save with
    | error reason => exact { holds.drop with }
    | ok => exact { holds.move (.sendSaved prev) own with }
  | sendSaved prev =>
    exact { holds.drop with sent := List.forall_mem_cons.mpr ⟨own, holds.sent⟩ }
  | recvCalled nonce =>
    simp only [NonceProcess.advance]
    split
    · exact { holds.drop with }
    · rename_i new
      exact holds.move (.recvRead nonce _) (fresh nonce (UInt64.not_le.mp new))
  | recvRead nonce last =>
    simp only [NonceProcess.advance]
    split
    · exact { holds.move (.recvAdvanced nonce) own with }
    · exact holds.move (.recvCalled nonce) trivial
  | recvAdvanced nonce => exact holds.move (.recvNext nonce _) own
  | recvNext nonce next =>
    cases save with
    | error reason => exact { holds.drop with }
    | ok => exact { holds.move (.recvSaved nonce) own with }
  | recvSaved nonce =>
    exact { holds.drop with accepted := List.forall_mem_cons.mpr ⟨own, holds.accepted⟩ }

theorem Holds.step (next : process.manager.nextSend ≠ u64Max → sendable process.manager.nextSend)
    (fresh : ∀ nonce, process.manager.lastSeen < nonce → receivable nonce) (event : NonceEvent) :
    Holds sendable receivable (process.step event) := by
  cases event with
  | send thread =>
    simp only [NonceProcess.step]
    split
    · exact holds
    · split
      · exact { holds.drop with }
      · rename_i below
        exact { holds.move (.sendFetched process.manager.nextSend) (next below) with }
  | recv thread nonce =>
    simp only [NonceProcess.step]
    split
    · exact holds
    · exact holds.move (.recvCalled nonce) trivial
  | step thread save =>
    simp only [NonceProcess.step]
    split
    · exact holds
    · rename_i call held
      exact holds.advance fresh held save
  | restart => exact { holds with calls := by simp [NonceProcess.step, start] }

omit holds

theorem manager_step (process : NonceProcess) (event : NonceEvent) :
    (process.step event).manager = process.manager ∨
      (∃ thread, event = .send thread ∧ (process.step event).manager =
        { process.manager with nextSend := process.manager.nextSend + 1 }) ∨
      (∃ thread nonce last, process.calls thread = some (.recvRead nonce last) ∧
        (process.step event).manager = { process.manager with lastSeen := nonce }) ∨
      event = .restart := by
  cases event with
  | send thread =>
    simp only [NonceProcess.step]
    split
    · exact .inl rfl
    · split <;> exact .inr (.inl ⟨thread, rfl, rfl⟩)
  | recv thread nonce =>
    simp only [NonceProcess.step]
    split <;> exact .inl rfl
  | step thread save =>
    simp only [NonceProcess.step]
    split
    · exact .inl rfl
    · rename_i call held
      cases call with
      | sendRead | recvNext => cases save <;> exact .inl rfl
      | recvCalled nonce => simp only [NonceProcess.advance]; split <;> exact .inl rfl
      | recvRead nonce last =>
        simp only [NonceProcess.advance]
        split
        · exact .inr (.inr (.inl ⟨thread, nonce, last, held, rfl⟩))
        · exact .inl rfl
      | _ => exact .inl rfl
  | restart => exact .inr (.inr (.inr rfl))

end Numbers

theorem run_holds_earlier (events : List NonceEvent) :
    Holds (· ≠ u64Max) (fun _ => True) (run step (start storage) events) :=
  run_invariant _ (fun _ event holds => holds.step id (fun _ _ => trivial) event)
    (holds_start storage) events

/-- A running process has only come to numbers above the pair it was started from. -/
structure Above (pair : UInt64 × UInt64) (process : NonceProcess) : Prop where
  nextSend : pair.1 ≤ process.manager.nextSend
  lastSeen : pair.2 ≤ process.manager.lastSeen
  holds : Holds (pair.1 ≤ ·) (pair.2 < ·) process

theorem Above.step {pair : UInt64 × UInt64} (above : Above pair process)
    (event : NonceEvent) (steady : process.Steady event) : Above pair (process.step event) := by
  have holds := above.holds.step (fun _ => above.nextSend)
    (fun _ fresh => UInt64.lt_of_le_of_lt above.lastSeen fresh) event
  rcases manager_step process event with same | ⟨thread, rfl, sent⟩ |
    ⟨thread, nonce, last, held, stored⟩ | rfl
  · exact ⟨same ▸ above.nextSend, same ▸ above.lastSeen, holds⟩
  · refine ⟨?_, sent ▸ above.lastSeen, holds⟩
    have succ := toNat_succ steady
    have low := UInt64.le_iff_toNat_le.mp above.nextSend
    rw [sent, UInt64.le_iff_toNat_le]
    dsimp only
    omega
  · have own : pair.2 < nonce := above.holds.calls thread _ held
    exact ⟨stored ▸ above.nextSend, stored ▸ UInt64.le_of_lt own, holds⟩
  · exact absurd steady id

theorem run_above {events : List NonceEvent} (steady : Along step Steady (start storage) events) :
    Above storage.load (run step (start storage) events) :=
  run_invariant_along _ (fun _ event above met => above.step event met)
    ⟨UInt64.le_refl _, UInt64.le_refl _, holds_start storage⟩ steady

/-- One call of `next_send_nonce` with no other between its steps. -/
def sendAlone : List NonceEvent := [.send 0, .step 0 (.ok ()), .step 0 (.ok ()), .step 0 (.ok ())]

/-- One call of `validate_recv` with no other between its steps. -/
def recvAlone (nonce : UInt64) : List NonceEvent := .recv 0 nonce :: List.replicate 5 (.step 0 (.ok ()))

theorem run_sendAlone (idle : process.calls 0 = none) (below : process.manager.nextSend ≠ u64Max) :
    let after := run step process sendAlone
    ((process.manager.nextSendNonce (some fun _ _ => .ok ())) =
        (.ok process.manager.nextSend, after.manager)) ∧
      after.sent = process.manager.nextSend :: process.sent ∧ after.calls 0 = none ∧
      Along step Steady process sendAlone := by
  simp [sendAlone, run, Along, step, Steady, idle, below, put, advance, returnSend,
    NonceManager.nextSendNonce, sent, Except.toOption]

theorem run_recvAlone (idle : process.calls 0 = none) {nonce : UInt64}
    (above : process.manager.lastSeen < nonce) :
    nonce ∈ (run step process (recvAlone nonce)).accepted ∧
      Along step Steady process (recvAlone nonce) := by
  have fresh : ¬ nonce ≤ process.manager.lastSeen := UInt64.not_le.mpr above
  simp [recvAlone, run, Along, step, Steady, idle, put, advance, returnRecv, accepted, fresh,
    Except.toOption]

theorem sends_reach (idle : process.calls 0 = none) {nonce : UInt64}
    (ahead : process.manager.nextSend ≤ nonce) (below : nonce ≠ u64Max) :
    ∃ events, Along step Steady process events ∧ nonce ∈ (run step process events).sent := by
  obtain ⟨distance, far⟩ : ∃ distance, nonce.toNat = process.manager.nextSend.toNat + distance :=
    Nat.exists_eq_add_of_le (UInt64.le_iff_toNat_le.mp ahead)
  have top : u64Max.toNat = 2 ^ 64 - 1 := rfl
  have short : nonce.toNat ≠ u64Max.toNat := fun same => below (UInt64.toNat_inj.mp same)
  have bound := nonce.toNat_lt
  induction distance generalizing process with
  | zero =>
    have here : process.manager.nextSend = nonce := UInt64.toNat_inj.mp far.symm
    obtain ⟨-, sent, -, steady⟩ := run_sendAlone idle (here ▸ below)
    exact ⟨sendAlone, steady, by rw [sent, here]; exact List.mem_cons_self⟩
  | succ distance ih =>
    have passed : process.manager.nextSend ≠ u64Max := by
      intro last
      rw [last] at far
      omega
    obtain ⟨moved, -, idleAgain, steady⟩ := run_sendAlone idle passed
    have next : (run step process sendAlone).manager.nextSend = process.manager.nextSend + 1 := by
      have counted := NonceManager.nextSendNonce_nextSend (some fun _ _ => .ok ()) process.manager
      rwa [moved] at counted
    have succ := toNat_succ passed
    obtain ⟨events, later, reached⟩ := ih idleAgain
      (by rw [next, UInt64.le_iff_toNat_le]; omega) (by rw [next]; omega)
    exact ⟨sendAlone ++ events, steady.append later, by rwa [run_append]⟩

/-- A restart from the file repeats no nonce that the process sent and none that it accepted, as long as
its counter does not wrap. -/
def RestartsSafely (process : NonceProcess) (storage : FileNonceStorage) : Prop :=
  ∀ after, Along step Steady (start storage) after →
    (∀ nonce ∈ process.sent, nonce ∉ (run step (start storage) after).sent) ∧
    ∀ nonce ∈ process.accepted, nonce ∉ (run step (start storage) after).accepted

theorem restartsSafely_iff (earlier : ∀ nonce ∈ process.sent, nonce ≠ u64Max)
    (storage : FileNonceStorage) :
    process.RestartsSafely storage ↔ process.CoveredBy storage.load := by
  constructor
  · intro safe
    have idle : (start storage).calls 0 = none := rfl
    refine ⟨fun nonce returned => ?_, fun nonce returned => ?_⟩
    · by_contra passed
      obtain ⟨after, steady, again⟩ :=
        sends_reach idle (UInt64.not_lt.mp passed) (earlier nonce returned)
      exact (safe after steady).1 nonce returned again
    · by_contra passed
      obtain ⟨again, steady⟩ := run_recvAlone idle (UInt64.not_le.mp passed)
      exact (safe _ steady).2 nonce returned again
  · intro covered after steady
    have above := run_above storage steady
    refine ⟨fun nonce returned again => ?_, fun nonce returned again => ?_⟩
    · exact absurd (covered.1 nonce returned) (UInt64.not_lt.mpr (above.holds.sent nonce again))
    · exact absurd (covered.2 nonce returned) (UInt64.not_le.mpr (above.holds.accepted nonce again))

theorem start_coveredBy (pair : UInt64 × UInt64) : (start storage).CoveredBy pair :=
  ⟨by simp [start, sent], by simp [start, accepted]⟩

/-- After every crash at any point of a run, a restart from the file repeats no nonce that was sent
and none that was accepted, as long as its counter does not wrap, exactly if no step of the run was
stale. -/
theorem restart_safe_iff (storage : FileNonceStorage) (events : List NonceEvent) :
    (∀ before, before <+: events → ∀ after,
      Along step Steady (start (run step (start storage) before).storage) after →
        (∀ nonce ∈ (run step (start storage) before).sent,
          nonce ∉ (run step (start (run step (start storage) before).storage) after).sent) ∧
        ∀ nonce ∈ (run step (start storage) before).accepted,
          nonce ∉ (run step (start (run step (start storage) before).storage) after).accepted) ↔
      Along step NotStale (start storage) events := by
  rw [← always_iff_along (fun process => process.CoveredBy process.storage.load)
    (fun process event covered => covered_step_iff covered event) (start_coveredBy storage _) events]
  refine forall_congr' fun before => imp_congr_right fun _ => ?_
  exact restartsSafely_iff (run_holds_earlier storage before).sent _

/-- Two threads send and a third receives: the first takes number 1 and reads `last_seen`, the second
takes number 2, saves and returns, the third accepts 7 and saves, and only then the first saves. -/
def staleSave : List NonceEvent :=
  [.send 0, .step 0 (.ok ())] ++
    [.send 1, .step 1 (.ok ()), .step 1 (.ok ()), .step 1 (.ok ())] ++
    (.recv 2 7 :: List.replicate 5 (.step 2 (.ok ()))) ++
    [.step 0 (.ok ()), .step 0 (.ok ())]

/-- A save that comes late takes back a sent and a received nonce. -/
theorem stale_save_repeats :
    (run step (start ⟨none⟩) staleSave).sent = [1, 2] ∧
      (run step (start ⟨none⟩) staleSave).accepted = [7] ∧
      (run step (start (run step (start ⟨none⟩) staleSave).storage) sendAlone).sent = [2] ∧
      (run step (start (run step (start ⟨none⟩) staleSave).storage) (recvAlone 7)).accepted = [7] := by
  decide +kernel

end NonceProcess

end OpenHttpa.Crypto
