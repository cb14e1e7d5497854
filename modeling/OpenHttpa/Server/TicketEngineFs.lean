import OpenHttpa.Core.Ticket
import OpenHttpa.Lib.Counters

/-!
# The ticket key file

`FileTicketEngine` of `openhttpa-server/src/ticket_engine_fs.rs`: one ticket engine and the file its
keys are kept in. The counter of a key lives in memory; a copy of the engine has a copy of the
counter, and the file has the counter of the last write. Every engine object that the processes on
one file ever make stands for a counter of a bank: cloning an engine or loading the file opens a
counter where another one of its key already stands. So no nonce repeats under a key exactly when no
ticket is sealed with a number that another engine with the key has passed.
-/
namespace OpenHttpa.Server

open OpenHttpa.Core Crypto

structure EngineCopy where
  engine : TicketEngine
  first : Nat
  alive : Bool

def EngineCopy.counter (copy : EngineCopy) : Counter (Octets 32) :=
  ⟨copy.engine.currentKey.key, copy.first, copy.engine.currentKey.counter.toNat⟩

def EngineCopy.drawnCounter (copy : EngineCopy) : Counter (Octets 32) :=
  ⟨copy.engine.currentKey.key, copy.first, copy.engine.currentKey.counter.toNat + 1⟩

def EngineCopy.ofEngine (engine : TicketEngine) : EngineCopy :=
  ⟨engine, engine.currentKey.counter.toNat, true⟩

structure TicketHost where
  copies : List EngineCopy
  main : Option Nat
  /-- The key file: `EngineState`, the keys and counters of an engine. -/
  file : Option TicketEngine
  /-- The counters given up by rotations and by wrapping. -/
  retired : List (Counter (Octets 32))
  log : List Encryption

/-- What can happen; `io` says whether an access to the file succeeds. -/
inductive HostEvent where
  /-- `FileTicketEngine::new`, with the bytes of a key should there be no file. -/
  | launch (fresh : Octets 32) (io : Bool)
  /-- `seal_session` on an engine. -/
  | sealSession (copy : Nat) (state : DurableSessionState) (lifetime : Nat)
  | rotate (fresh : Octets 32) (io : Bool)
  /-- `TicketEngine::rotate` on an engine, the `FileTicketEngine`'s own or a clone. -/
  | rotateEngine (copy : Nat) (fresh : Octets 32)
  | persist (io : Bool)
  | cloneEngine (copy : Nat)
  | crash

namespace TicketHost

def start : TicketHost := ⟨[], none, none, [], []⟩

variable (host : TicketHost)

def usable (index : Nat) : Option EngineCopy :=
  (host.copies[index]?).filter fun copy => copy.alive

def add (engine : TicketEngine) : TicketHost :=
  { host with copies := host.copies ++ [.ofEngine engine] }

/-- `FileTicketEngine::new`; a second one is not made while the first is in use. -/
def launch (fresh : Octets 32) (io : Bool) : TicketHost :=
  match host.main, io with
  | some _, _ => host
  | none, false => host
  | none, true =>
    let engine := host.file.getD (.new (.generate fresh))
    { host.add engine with main := some host.copies.length, file := some engine }

/-- `TicketEngine::rotate` on an engine object. -/
def rotateEngine (index : Nat) (fresh : Octets 32) : TicketHost :=
  match host.usable index with
  | none => host
  | some copy =>
    { host with
      copies := host.copies.set index (.ofEngine (copy.engine.rotate fresh))
      retired := host.retired ++ [copy.counter] }

/-- `FileTicketEngine::persist`; the file is replaced by renaming, or left as it is. -/
def persist (io : Bool) : TicketHost :=
  match host.main.bind host.usable, io with
  | some copy, true => { host with file := some copy.engine }
  | _, _ => host

/-- `seal_session` on an engine object. The last number of a counter sends it back to zero. -/
def sealSession (cipher : Cipher) (time : Codec Nat) (host : TicketHost) (index : Nat)
    (state : DurableSessionState) (lifetime : Nat) : TicketHost :=
  match host.usable index with
  | none => host
  | some copy =>
    let sealed := copy.engine.sealSession cipher time state lifetime
    let log := sealed.2.1 ++ host.log
    if copy.engine.currentKey.counter = u64Max then
      { host with
        copies := host.copies.set index { copy with engine := sealed.2.2, first := 0 }
        retired := host.retired ++ [copy.drawnCounter]
        log }
    else
      { host with copies := host.copies.set index { copy with engine := sealed.2.2 }, log }

variable (cipher : Cipher) (time : Codec Nat)

def step (time : Codec Nat) (host : TicketHost) : HostEvent → TicketHost
  | .launch fresh io => host.launch fresh io
  | .sealSession index state lifetime => host.sealSession cipher time index state lifetime
  | .rotate fresh io =>
    match host.main with
    | none => host
    | some index => (host.rotateEngine index fresh).persist io
  | .rotateEngine index fresh => host.rotateEngine index fresh
  | .persist io => host.persist io
  | .cloneEngine index =>
    match host.usable index with
    | none => host
    | some copy => host.add copy.engine
  | .crash =>
    { host with copies := host.copies.map fun copy => { copy with alive := false }, main := none }

/-- The counters of the bank: one for each engine object, and those given up. -/
inductive Holder where
  | copy (index : Nat)
  | retired (index : Nat)
deriving DecidableEq

def counterOf : Holder → Option (Counter (Octets 32))
  | .copy index => (host.copies[index]?).map EngineCopy.counter
  | .retired index => host.retired[index]?

def bank : Bank Holder (Octets 32) :=
  ⟨host.counterOf, host.log.map (Encryption.number fun _ => .zero 12)⟩

def drawsFrom : HostEvent → Option Holder
  | .sealSession index _ _ => (host.usable index).map fun _ => .copy index
  | _ => none

/-- A ticket is sealed with a number that no other engine object with its key, nor an earlier life of
its own, has passed. -/
def Unpassed (event : HostEvent) : Prop :=
  ∀ holder counter, host.drawsFrom event = some holder → host.counterOf holder = some counter →
    ∀ other rival, other ≠ holder → host.counterOf other = some rival →
      rival.key = counter.key → ¬ rival.Passed counter.next

variable {host} {index : Nat} {copy : EngineCopy}

theorem usable_some (found : host.usable index = some copy) : host.copies[index]? = some copy :=
  (Option.filter_eq_some_iff.mp found).1

theorem counterOf_usable (found : host.usable index = some copy) :
    host.counterOf (.copy index) = some copy.counter := by
  simp only [counterOf, usable_some found, Option.map_some]

theorem counterOf_add (host : TicketHost) (engine : TicketEngine) :
    (host.add engine).counterOf = Function.update host.counterOf (.copy host.copies.length)
      (some (EngineCopy.ofEngine engine).counter) := by
  funext holder
  cases holder with
  | copy index =>
    by_cases last : index = host.copies.length
    · subst last
      simp [counterOf, add]
    · have other : Holder.copy index ≠ .copy host.copies.length := by
        intro same
        exact last (Holder.copy.inj same)
      rw [Function.update_of_ne other]
      simp only [counterOf, add, getElem?_append_singleton, if_neg last]
  | retired index => rfl

theorem counterOf_set {after : TicketHost} {left : EngineCopy}
    (found : host.copies[index]? = some copy) (copies : after.copies = host.copies.set index left)
    (retired : after.retired = host.retired) :
    after.counterOf = Function.update host.counterOf (.copy index) (some left.counter) := by
  obtain ⟨inside, _⟩ := List.getElem?_eq_some_iff.mp found
  funext holder
  cases holder with
  | copy other =>
    by_cases same : index = other
    · subst same
      simp [counterOf, copies, inside]
    · have apart : Holder.copy other ≠ .copy index := by
        intro equal
        exact same (Holder.copy.inj equal).symm
      rw [Function.update_of_ne apart]
      simp only [counterOf, copies, List.getElem?_set_ne same]
  | retired other => simp [counterOf, retired]

theorem counterOf_retire (host : TicketHost) (counter : Counter (Octets 32)) :
    { host with retired := host.retired ++ [counter] }.counterOf =
      Function.update host.counterOf (.retired host.retired.length) (some counter) := by
  funext holder
  cases holder with
  | copy index => rfl
  | retired index =>
    by_cases last : index = host.retired.length
    · subst last
      simp [counterOf]
    · have other : Holder.retired index ≠ .retired host.retired.length := by
        intro same
        exact last (Holder.retired.inj same)
      rw [Function.update_of_ne other]
      simp only [counterOf, getElem?_append_singleton, if_neg last]

theorem counterOf_set_retire {after : TicketHost} {left : EngineCopy}
    {counter : Counter (Octets 32)} (found : host.copies[index]? = some copy)
    (copies : after.copies = host.copies.set index left)
    (retired : after.retired = host.retired ++ [counter]) :
    after.counterOf =
      Function.update (Function.update host.counterOf (.retired host.retired.length) (some counter))
        (.copy index) (some left.counter) := by
  have before : ({ host with retired := host.retired ++ [counter] } : TicketHost).copies[index]? =
      some copy := found
  rw [← counterOf_retire]
  exact counterOf_set before copies retired

variable (host)

theorem counterOf_retired_length : host.counterOf (.retired host.retired.length) = none := by
  simp [counterOf]

theorem add_rearranged (engine : TicketEngine) :
    Bank.Rearranged host.bank (host.add engine).bank := by
  have opened : (host.add engine).bank = host.bank.openAt (.copy host.copies.length)
      engine.currentKey.key engine.currentKey.counter.toNat := by
    unfold bank Bank.openAt
    rw [counterOf_add]
    rfl
  rw [opened]
  apply Bank.Rearranged.opened
  simp [bank, counterOf]

theorem rotateEngine_rearranged (index : Nat) (fresh : Octets 32) :
    Bank.Rearranged host.bank (host.rotateEngine index fresh).bank := by
  unfold rotateEngine
  cases found : host.usable index with
  | none => exact .same
  | some copy =>
    have held := counterOf_usable found
    have restarted : bank { host with
        copies := host.copies.set index (.ofEngine (copy.engine.rotate fresh))
        retired := host.retired ++ [copy.counter] } =
          host.bank.restart (.copy index) (.retired host.retired.length) fresh 1 := by
      have counters : counterOf { host with
          copies := host.copies.set index (.ofEngine (copy.engine.rotate fresh))
          retired := host.retired ++ [copy.counter] } = _ :=
        counterOf_set_retire (usable_some found) rfl rfl
      simp only [bank, Bank.restart, counters, held]
      rfl
    dsimp only
    rw [restarted]
    exact .restarted _ _ copy.counter _ _ held (counterOf_retired_length host)

theorem persist_eq (io : Bool) : ∃ file, host.persist io = { host with file } := by
  unfold persist
  split
  · exact ⟨_, rfl⟩
  · exact ⟨host.file, rfl⟩

theorem persist_bank (io : Bool) : (host.persist io).bank = host.bank := by
  obtain ⟨file, written⟩ := host.persist_eq io
  rw [written]
  rfl

variable {host}

variable (found : host.usable index = some copy)
include found

theorem draw_copy : host.bank.draw (.copy index) =
      ⟨Function.update host.counterOf (.copy index) (some copy.drawnCounter),
        (host.log.map (Encryption.number fun _ => .zero 12)).cons
          (Encryption.number (fun _ => .zero 12)
            ⟨copy.engine.currentKey.key, ticketNonce copy.engine.currentKey.counter⟩)⟩ := by
  have number : Encryption.number (fun _ => .zero 12)
      ⟨copy.engine.currentKey.key, ticketNonce copy.engine.currentKey.counter⟩ =
        (copy.counter.key, copy.counter.next) := by
    rw [ticketNonce_eq]
    exact Encryption.number_counterNonce (fun _ => .zero 12) _ _
  have held : host.bank.counter (.copy index) = some copy.counter := counterOf_usable found
  rw [number]
  exact Bank.draw_of_some held

theorem sealSession_below (below : copy.engine.currentKey.counter ≠ u64Max)
    (state : DurableSessionState) (lifetime : Nat) :
    (host.sealSession cipher time index state lifetime).bank = host.bank.draw (.copy index) := by
  have sealed : host.sealSession cipher time index state lifetime =
      { host with
        copies := host.copies.set index { copy with
          engine := (copy.engine.sealSession cipher time state lifetime).2.2 }
        log := (copy.engine.sealSession cipher time state lifetime).2.1 ++ host.log } := by
    simp only [sealSession, found, if_neg below]
  have moved : EngineCopy.counter { copy with
      engine := (copy.engine.sealSession cipher time state lifetime).2.2 } = copy.drawnCounter := by
    rw [TicketEngine.sealSession_effect]
    simp only [EngineCopy.counter, EngineCopy.drawnCounter, toNat_succ below]
  have counters : (host.sealSession cipher time index state lifetime).counterOf =
      Function.update host.counterOf (.copy index) (some copy.drawnCounter) := by
    rw [sealed, ← moved]
    exact counterOf_set (usable_some found) rfl rfl
  rw [draw_copy found, bank, counters, sealed, TicketEngine.sealSession_effect]
  rfl

theorem sealSession_last (last : copy.engine.currentKey.counter = u64Max)
    (state : DurableSessionState) (lifetime : Nat) :
    (host.sealSession cipher time index state lifetime).bank =
      (host.bank.draw (.copy index)).restart (.copy index) (.retired host.retired.length)
        copy.engine.currentKey.key 0 := by
  have sealed : host.sealSession cipher time index state lifetime =
      { host with
        copies := host.copies.set index { copy with
          engine := (copy.engine.sealSession cipher time state lifetime).2.2, first := 0 }
        retired := host.retired ++ [copy.drawnCounter]
        log := (copy.engine.sealSession cipher time state lifetime).2.1 ++ host.log } := by
    simp only [sealSession, found, if_pos last]
  have begun : EngineCopy.counter { copy with
      engine := (copy.engine.sealSession cipher time state lifetime).2.2, first := 0 } =
        ⟨copy.engine.currentKey.key, 0, 0⟩ := by
    rw [TicketEngine.sealSession_effect]
    simp only [EngineCopy.counter, last]
    rfl
  have apart : Holder.retired host.retired.length ≠ .copy index := by simp
  have counters : (host.sealSession cipher time index state lifetime).counterOf =
      Function.update (Function.update host.counterOf (.retired host.retired.length)
        (some copy.drawnCounter)) (.copy index) (some ⟨copy.engine.currentKey.key, 0, 0⟩) := by
    rw [sealed, ← begun]
    exact counterOf_set_retire (usable_some found) rfl rfl
  rw [draw_copy found, bank, counters, sealed, TicketEngine.sealSession_effect]
  have overwritten : ∀ begun : Option (Counter (Octets 32)),
      Function.update (Function.update (Function.update host.counterOf (.copy index)
        (some copy.drawnCounter)) (.retired host.retired.length) (some copy.drawnCounter))
          (.copy index) begun =
        Function.update (Function.update host.counterOf (.retired host.retired.length)
          (some copy.drawnCounter)) (.copy index) begun := by
    intro begun
    rw [Function.update_comm apart.symm, Function.update_idem]
  simp only [Bank.restart, Function.update_self, overwritten]
  rfl

theorem sealSession_bank (ordered : copy.counter.start ≤ copy.counter.next)
    (state : DurableSessionState)
    (lifetime : Nat) : Bank.Step host.bank (host.sealSession cipher time index state lifetime).bank
      (some (.copy index)) := by
  apply Bank.Step.draws (counterOf_usable found) ordered
  by_cases last : copy.engine.currentKey.counter = u64Max
  · rw [sealSession_last cipher time found last]
    apply Bank.Rearranged.restarted _ _ copy.drawnCounter
    · simp [draw_copy found]
    · simp [draw_copy found, counterOf_retired_length]
  · rw [sealSession_below cipher time found last]
    exact .same

omit found

/-- Every counter is at or beyond its start, every nonce is that of a number, and the numbers used are
those the counters have passed. -/
structure Sound (host : TicketHost) : Prop where
  ordered : ∀ copy ∈ host.copies, copy.first ≤ copy.engine.currentKey.counter.toNat
  counted : ∀ entry ∈ host.log, ∃ number, entry.nonce = counterNonce (.zero 12) number
  covered : host.bank.Covered

theorem start_sound : start.Sound := by
  refine ⟨by simp [start], by simp [start], ?_⟩
  intro key value
  constructor
  · intro member
    simp [bank, start] at member
  · rintro ⟨name, counter, found, _⟩
    cases name <;> simp [bank, counterOf, start] at found

theorem step_bank (sound : host.Sound) (event : HostEvent) :
    Bank.Step host.bank (host.step cipher time event).bank (host.drawsFrom event) := by
  cases event with
  | launch fresh io =>
    apply Bank.Step.quiet
    simp only [step, launch]
    split
    · exact .same
    · exact .same
    · exact host.add_rearranged _
  | sealSession index state lifetime =>
    cases found : host.usable index with
    | none =>
      simp only [step, sealSession, drawsFrom, found, Option.map_none]
      exact .quiet .same
    | some copy =>
      have ordered := sound.ordered copy (List.mem_of_getElem? (usable_some found))
      simp only [drawsFrom, found, Option.map_some]
      exact sealSession_bank cipher time found ordered state lifetime
  | rotate fresh io =>
    apply Bank.Step.quiet
    simp only [step]
    split
    · exact .same
    · rw [persist_bank]
      exact host.rotateEngine_rearranged _ fresh
  | rotateEngine index fresh => exact .quiet (host.rotateEngine_rearranged index fresh)
  | persist io =>
    apply Bank.Step.quiet
    simp only [step, persist_bank]
    exact .same
  | cloneEngine index =>
    apply Bank.Step.quiet
    simp only [step]
    split
    · exact .same
    · exact host.add_rearranged _
  | crash =>
    apply Bank.Step.quiet
    have same : (host.step cipher time .crash).bank = host.bank := by
      simp only [bank, step]
      congr 1
      funext holder
      cases holder with
      | copy index =>
        simp only [counterOf, List.getElem?_map, Option.map_map]
        rfl
      | retired index => rfl
    rw [same]
    exact .same

theorem ordered_add (sound : host.Sound) (engine : TicketEngine) :
    ∀ copy ∈ (host.add engine).copies,
      copy.first ≤ copy.engine.currentKey.counter.toNat :=
  forall_mem_concat sound.ordered (Nat.le_refl _)

theorem step_ordered (sound : host.Sound) (event : HostEvent) :
    ∀ copy ∈ (host.step cipher time event).copies,
      copy.first ≤ copy.engine.currentKey.counter.toNat := by
  have rotated : ∀ index fresh, ∀ copy ∈ (host.rotateEngine index fresh).copies,
      copy.first ≤ copy.engine.currentKey.counter.toNat := by
    intro index fresh
    unfold rotateEngine
    split
    · exact sound.ordered
    · exact forall_mem_set sound.ordered (Nat.le_refl _)
  have persisted : ∀ (other : TicketHost) io, (other.persist io).copies = other.copies := by
    intro other io
    obtain ⟨file, written⟩ := other.persist_eq io
    rw [written]
  cases event with
  | launch fresh io =>
    simp only [step, launch]
    split
    · exact sound.ordered
    · exact sound.ordered
    · exact ordered_add sound _
  | sealSession index state lifetime =>
    simp only [step, sealSession]
    cases found : host.usable index with
    | none => exact sound.ordered
    | some copy =>
      have before := sound.ordered copy (List.mem_of_getElem? (usable_some found))
      simp only [TicketEngine.sealSession_effect]
      by_cases last : copy.engine.currentKey.counter = u64Max
      -- The number wraps round to 0, and a counter that starts there takes over.
      · rw [if_pos last]
        exact forall_mem_set sound.ordered (Nat.zero_le _)
      · rw [if_neg last]
        refine forall_mem_set sound.ordered ?_
        have next := toNat_succ last
        dsimp only
        omega
  | rotate fresh io =>
    simp only [step]
    split
    · exact sound.ordered
    · rw [persisted]
      exact rotated _ fresh
  | rotateEngine index fresh => exact rotated index fresh
  | persist io =>
    simp only [step, persisted]
    exact sound.ordered
  | cloneEngine index =>
    simp only [step]
    split
    · exact sound.ordered
    · exact ordered_add sound _
  | crash =>
    intro copy member
    obtain ⟨before, inside, rfl⟩ := List.mem_map.mp member
    exact sound.ordered before inside

theorem step_log (host : TicketHost) (event : HostEvent) :
    (host.step cipher time event).log = host.log ∨
      ∃ key counter, (host.step cipher time event).log = ⟨key, ticketNonce counter⟩ :: host.log := by
  have rotated : ∀ index fresh, (host.rotateEngine index fresh).log = host.log := by
    intro index fresh
    unfold rotateEngine
    split <;> rfl
  have persisted : ∀ (other : TicketHost) io, (other.persist io).log = other.log := by
    intro other io
    obtain ⟨file, written⟩ := other.persist_eq io
    rw [written]
  cases event with
  | launch fresh io =>
    refine .inl ?_
    simp only [step, launch]
    split <;> rfl
  | sealSession index state lifetime =>
    simp only [step, sealSession]
    cases host.usable index with
    | none => exact .inl rfl
    | some copy =>
      refine .inr ⟨copy.engine.currentKey.key, copy.engine.currentKey.counter, ?_⟩
      simp only [TicketEngine.sealSession_effect]
      split <;> rfl
  | rotate fresh io =>
    refine .inl ?_
    simp only [step]
    split
    · rfl
    · rw [persisted, rotated]
  | rotateEngine index fresh => exact .inl (rotated index fresh)
  | persist io => exact .inl (persisted host io)
  | cloneEngine index =>
    refine .inl ?_
    simp only [step]
    split <;> rfl
  | crash => exact .inl rfl

theorem step_sound (sound : host.Sound)
    (event : HostEvent) : (host.step cipher time event).Sound := by
  refine ⟨step_ordered cipher time sound event, ?_, (step_bank cipher time sound event).covered
    sound.covered⟩
  rcases host.step_log cipher time event with same | ⟨key, counter, more⟩
  · rw [same]
    exact sound.counted
  · rw [more, List.forall_mem_cons]
    exact ⟨⟨counter, ticketNonce_eq counter⟩, sound.counted⟩

theorem step_nodup_iff (sound : host.Sound) (event : HostEvent) :
    (host.step cipher time event).log.Nodup ↔ host.log.Nodup ∧ host.Unpassed event := by
  rw [Encryption.nodup_iff_number (fun _ => .zero 12) sound.counted,
    Encryption.nodup_iff_number (fun _ => .zero 12) (step_sound cipher time sound event).counted]
  change (host.step cipher time event).bank.drawn.Nodup ↔ host.bank.drawn.Nodup ∧ _
  rw [(step_bank cipher time sound event).nodup_iff sound.covered]
  refine and_congr_right fun _ => ?_
  constructor
  · intro unpassed holder counter source held
    exact unpassed holder source counter held
  · intro unpassed holder source counter held
    exact unpassed holder counter source held

/-- Over every run on a key file, no two tickets are encrypted under one key with one nonce exactly
when every ticket is sealed with a number that no other engine object with its key has passed. -/
theorem ticket_nonces_distinct_iff (cipher : Cipher) (time : Codec Nat) (events : List HostEvent) :
    (run (step cipher time) start events).log.Nodup ↔
      Along (step cipher time) Unpassed start events := by
  have whole := run_iff_along (fun host : TicketHost => host.log.Nodup)
    (fun _ event sound _ => step_sound cipher time sound event)
    (fun _ event sound _ => step_nodup_iff cipher time sound event)
    start_sound (along_of_forall (fun _ _ => trivial) start events)
  rw [whole]
  exact and_iff_right List.nodup_nil

def plainState : DurableSessionState := TicketEngine.attestedState none

/-- A ticket is sealed, the process crashes, and the next one seals a ticket. -/
def sealedAcrossCrash : List HostEvent :=
  [.launch (.zero 32) true, .sealSession 0 plainState 60, .crash,
    .launch (.repeated 32 1) true, .sealSession 1 plainState 60]

/-- The two tickets share key and nonce: the counter on file is that of the first launch. -/
theorem crash_repeats_nonce :
    (run (step plainCipher TicketEngine.varintTime) start sealedAcrossCrash).log =
        [⟨.zero 32, ticketNonce 1⟩, ⟨.zero 32, ticketNonce 1⟩] ∧
      ¬ (run (step plainCipher TicketEngine.varintTime) start sealedAcrossCrash).log.Nodup := by
  have repeated : (run (step plainCipher TicketEngine.varintTime) start sealedAcrossCrash).log =
      [⟨.zero 32, ticketNonce 1⟩, ⟨.zero 32, ticketNonce 1⟩] := rfl
  refine ⟨repeated, ?_⟩
  rw [repeated]
  decide

end TicketHost

end OpenHttpa.Server
