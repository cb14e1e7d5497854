import Mathlib.Data.List.MinMax
import OpenHttpa.Lib.Assoc
import OpenHttpa.Lib.Bytes
import OpenHttpa.Lib.Run

/-!
# The store of resumption tickets

`PskStore` of `openhttpa-core/src/state.rs`. A ticket is stored under its identifier with the time at
which it expires, and taken out by the first that asks for it. A full store evicts the ticket that
expires first. It does so before it looks whether the new ticket takes the place of one that it holds, so
storing under an identifier again can evict the ticket of another (`psk_store_iff`).
-/
namespace OpenHttpa.Core

structure PskEntry where
  psk : Bytes
  expiresAt : Nat

/-- The order in which a `HashMap` goes over its entries: nothing is said about it. -/
structure HashOrder where
  of : List (Bytes × PskEntry) → List (Bytes × PskEntry)
  perm : ∀ entries, (of entries).Perm entries

structure PskStore where
  tickets : Table Bytes PskEntry
  maxCapacity : Nat
  pskTtl : Nat

namespace PskStore

/-- `PskStore::new` with `with_capacity` and `with_ttl`. -/
def new (maxCapacity pskTtl : Nat) : PskStore := ⟨.empty, maxCapacity, pskTtl⟩

/-- `retain(|_, v| v.expires_at > now)`. -/
def unexpired (now : Nat) (tickets : Table Bytes PskEntry) : Table Bytes PskEntry :=
  tickets.retain fun entry => if now < entry.expiresAt then some entry else none

/-- `iter().min_by_key(|(_, v)| v.expires_at)`: of several, the first in the order of the map. -/
def oldest (order : HashOrder) (tickets : Table Bytes PskEntry) : Option (Bytes × PskEntry) :=
  (order.of tickets.entries).argmin fun ticket => ticket.2.expiresAt

/-- The `while` loop of `store_psk`, for at most as many turns as there is fuel. -/
def evictLoop (order : HashOrder) (maxCapacity : Nat) :
    Nat → Table Bytes PskEntry → Table Bytes PskEntry
  | 0, tickets => tickets
  | fuel + 1, tickets =>
    if maxCapacity ≤ tickets.size then
      match oldest order tickets with
      | some ticket => evictLoop order maxCapacity fuel (tickets.remove ticket.1)
      | none => tickets
    else tickets

/-- The `while` loop of `store_psk`: each turn takes a ticket out, so there are no more turns than
tickets. -/
def evict (order : HashOrder) (maxCapacity : Nat) (tickets : Table Bytes PskEntry) :
    Table Bytes PskEntry := evictLoop order maxCapacity tickets.size tickets

variable (store : PskStore)

def storePsk (order : HashOrder) (now : Nat) (ticketId psk : Bytes) : Bool × PskStore :=
  let tickets := evict order store.maxCapacity (unexpired now store.tickets)
  if store.maxCapacity ≤ tickets.size then (false, { store with tickets })
  else (true, { store with tickets := tickets.insert ticketId ⟨psk, now + store.pskTtl⟩ })

def takePsk (now : Nat) (ticketId : Bytes) : Option Bytes × PskStore :=
  let rest := { store with tickets := store.tickets.remove ticketId }
  match store.tickets.find ticketId with
  | some entry => if now < entry.expiresAt then (some entry.psk, rest) else (none, rest)
  | none => (none, rest)

def purgeExpired (now : Nat) : PskStore :=
  { store with tickets := unexpired now store.tickets }

/-! ## What a call does -/

theorem find_unexpired (now : Nat) (tickets : Table Bytes PskEntry) (id : Bytes) (entry : PskEntry) :
    (unexpired now tickets).find id = some entry ↔
      tickets.find id = some entry ∧ now < entry.expiresAt := by
  rw [unexpired, Table.find_retain]
  cases tickets.find id with
  | none => simp
  | some stored =>
    rw [Option.bind_some]
    split
    · next valid =>
      constructor
      · rintro ⟨rfl⟩
        exact ⟨rfl, valid⟩
      · exact fun found => found.1
    · next expired =>
      constructor
      · rintro ⟨⟩
      · rintro ⟨⟨rfl⟩, valid⟩
        exact absurd valid expired

variable {tickets : Table Bytes PskEntry} {order : HashOrder}

theorem unexpired_eq_self {now : Nat}
    (whole : (unexpired now tickets).size = tickets.size) : unexpired now tickets = tickets := by
  refine Table.retain_eq_self ?_ whole
  intro entry after kept
  split at kept
  · exact (Option.some.inj kept).symm
  · cases kept

theorem unexpired_of_forall {now : Nat}
    (valid : ∀ id entry, tickets.find id = some entry → now < entry.expiresAt) :
    unexpired now tickets = tickets :=
  Table.retain_of_forall fun id entry found => if_pos (valid id entry found)

theorem oldest_spec {ticket : Bytes × PskEntry} (found : oldest order tickets = some ticket) :
    tickets.find ticket.1 = some ticket.2 ∧
      ∀ id entry, tickets.find id = some entry → ticket.2.expiresAt ≤ entry.expiresAt := by
  constructor
  · apply Assoc.lookup_of_mem tickets.distinct
    exact (order.perm _).subset (List.argmin_mem found)
  · intro id entry other
    have member : (id, entry) ∈ order.of tickets.entries :=
      (order.perm _).symm.subset (Assoc.mem_of_lookup other)
    exact List.le_of_mem_argmin (f := fun ticket => ticket.2.expiresAt) member found

theorem oldest_eq_none :
    oldest order tickets = none ↔ tickets.size = 0 := by
  rw [oldest, List.argmin_eq_none, Table.size, List.length_eq_zero_iff]
  constructor
  · intro none
    exact List.nil_perm.mp (none ▸ order.perm _)
  · intro none
    exact List.perm_nil.mp (none ▸ order.perm tickets.entries)

theorem size_remove_oldest {ticket : Bytes × PskEntry} (found : oldest order tickets = some ticket) :
    (tickets.remove ticket.1).size + 1 = tickets.size := by
  have taken := tickets.size_remove ticket.1
  rw [(oldest_spec found).1] at taken
  exact taken

theorem evict_eq (order : HashOrder) (maxCapacity : Nat) (tickets : Table Bytes PskEntry) :
    evict order maxCapacity tickets =
      if maxCapacity ≤ tickets.size then
        match oldest order tickets with
        | some ticket => evict order maxCapacity (tickets.remove ticket.1)
        | none => tickets
      else tickets := by
  unfold evict
  cases found : oldest order tickets with
  | none =>
    rw [oldest_eq_none.mp found]
    simp [evictLoop]
  | some ticket =>
    rw [← size_remove_oldest found]
    simp only [evictLoop, found, size_remove_oldest found]

def FullOfUnexpired (now : Nat) : Prop :=
  store.tickets.size = store.maxCapacity ∧
    ∀ id entry, store.tickets.find id = some entry → now < entry.expiresAt

/-- What storing does: nothing fits, there is room among the unexpired tickets, or a ticket goes. -/
inductive Stored (store : PskStore) (order : HashOrder) (now : Nat) (id psk : Bytes) :
    Bool × PskStore → Prop
  | refused (zero : store.maxCapacity = 0) :
      Stored store order now id psk (false, store.purgeExpired now)
  | room (room : (unexpired now store.tickets).size < store.maxCapacity) :
      Stored store order now id psk (true, { store with
        tickets := (unexpired now store.tickets).insert id ⟨psk, now + store.pskTtl⟩ })
  | evicted {ticket : Bytes × PskEntry} (full : store.FullOfUnexpired now)
      (found : oldest order store.tickets = some ticket) :
      Stored store order now id psk (true, { store with
        tickets := (store.tickets.remove ticket.1).insert id ⟨psk, now + store.pskTtl⟩ })

theorem storePsk_cases {store : PskStore} (bounded : store.tickets.size ≤ store.maxCapacity)
    (order : HashOrder) (now : Nat) (id psk : Bytes) :
    Stored store order now id psk (store.storePsk order now id psk) := by
  have fewer : (unexpired now store.tickets).size ≤ store.tickets.size := Table.size_retain_le ..
  unfold storePsk
  rw [evict_eq]
  by_cases room : (unexpired now store.tickets).size < store.maxCapacity
  · simp only [if_neg (Nat.not_le_of_lt room)]
    exact .room room
  · have all : (unexpired now store.tickets).size = store.tickets.size := by omega
    have same := unexpired_eq_self all
    have full : store.tickets.size = store.maxCapacity := by omega
    have valid : ∀ id entry, store.tickets.find id = some entry → now < entry.expiresAt := by
      intro id entry found
      rw [← same, find_unexpired] at found
      exact found.2
    rw [if_pos (Nat.le_of_not_lt room), same]
    cases found : oldest order store.tickets with
    | none =>
      have zero : store.maxCapacity = 0 := full ▸ oldest_eq_none.mp found
      simp only [full, le_refl, if_true]
      have refused : Stored store order now id psk (false, store.purgeExpired now) := .refused zero
      rw [purgeExpired, same] at refused
      exact refused
    | some ticket =>
      have less := size_remove_oldest found
      have stops : ¬store.maxCapacity ≤ (store.tickets.remove ticket.1).size := by omega
      dsimp only
      rw [evict_eq, if_neg stops, if_neg stops]
      exact .evicted ⟨full, valid⟩ found

variable {store} {order : HashOrder} {now : Nat} {id psk : Bytes} {result : Bool × PskStore}

variable (taken : Stored store order now id psk result)
include taken

theorem Stored.limits :
    result.2.maxCapacity = store.maxCapacity ∧ result.2.pskTtl = store.pskTtl := by
  cases taken <;> exact ⟨rfl, rfl⟩

theorem Stored.size_le (bounded : store.tickets.size ≤ store.maxCapacity) :
    result.2.tickets.size ≤ store.maxCapacity := by
  cases taken with
  | refused zero => exact (Table.size_retain_le ..).trans bounded
  | room room => exact (Table.size_insert_le ..).trans room
  | evicted full found =>
    have less := size_remove_oldest found
    exact (Table.size_insert_le ..).trans (less.le.trans bounded)

theorem Stored.find {other : Bytes} {entry : PskEntry}
    (found : result.2.tickets.find other = some entry) :
    (result.1 = true ∧ other = id ∧ entry = ⟨psk, now + store.pskTtl⟩) ∨
      (result.1 = true → other ≠ id) ∧ store.tickets.find other = some entry := by
  cases taken with
  | refused zero => exact .inr ⟨nofun, ((find_unexpired ..).mp found).1⟩
  | room room =>
    dsimp only at found
    rw [Table.find_insert] at found
    split at found
    · next same => exact .inl ⟨rfl, same, (Option.some.inj found).symm⟩
    · next apart => exact .inr ⟨fun _ => apart, ((find_unexpired ..).mp found).1⟩
  | evicted full evicted =>
    dsimp only at found
    rw [Table.find_insert] at found
    split at found
    · next same => exact .inl ⟨rfl, same, (Option.some.inj found).symm⟩
    · next apart =>
      rw [Table.find_remove] at found
      split at found
      · cases found
      · exact .inr ⟨fun _ => apart, found⟩

omit taken

variable (store)

theorem takePsk_eq (now : Nat) (id : Bytes) : store.takePsk now id =
      (((unexpired now store.tickets).find id).map PskEntry.psk,
        { store with tickets := store.tickets.remove id }) := by
  unfold takePsk unexpired
  rw [Table.find_retain]
  cases store.tickets.find id with
  | none => rfl
  | some entry =>
    rw [Option.bind_some]
    dsimp only
    split <;> rfl

/-! ## Which tickets go -/

/-- A store takes out, or changes, the unexpired ticket of another identifier. -/
def Loses (after : PskStore) (now : Nat) (id other : Bytes) : Prop :=
  other ≠ id ∧ ∃ entry, store.tickets.find other = some entry ∧ now < entry.expiresAt ∧
    after.tickets.find other ≠ some entry

/-- A ticket goes for a good reason: the identifier is new to a store full of unexpired tickets, and it is
the only one to go and expires first. -/
structure JustEviction (store after : PskStore) (now : Nat) (id other : Bytes) : Prop where
  absent : store.tickets.find id = none
  full : store.FullOfUnexpired now
  only : ∀ another, Loses store after now id another → another = other
  earliest : ∀ entry, store.tickets.find other = some entry →
    ∀ another kept, store.tickets.find another = some kept → entry.expiresAt ≤ kept.expiresAt

/-- Storing takes out the unexpired ticket of another only to make room for a new one. -/
def EvictsJustly (order : HashOrder) (now : Nat) (id psk : Bytes) : Prop :=
  ∀ other, Loses store (store.storePsk order now id psk).2 now id other →
    JustEviction store (store.storePsk order now id psk).2 now id other

/-- The ticket is renewed in a full store whose oldest is another. -/
def Displaces (order : HashOrder) (now : Nat) (id : Bytes) : Prop :=
  store.FullOfUnexpired now ∧ (store.tickets.find id).isSome ∧
    ∃ ticket, oldest order store.tickets = some ticket ∧ ticket.1 ≠ id

variable {store}

theorem Stored.loses_iff (taken : Stored store order now id psk result)
    (bounded : store.tickets.size ≤ store.maxCapacity) (other : Bytes) :
    Loses store result.2 now id other ↔ other ≠ id ∧ store.FullOfUnexpired now ∧
      ∃ entry, oldest order store.tickets = some (other, entry) := by
  cases taken with
  | refused zero =>
    constructor
    · rintro ⟨-, entry, found, valid, gone⟩
      exact absurd ((find_unexpired ..).mpr ⟨found, valid⟩) gone
    · rintro ⟨-, -, entry, found⟩
      have less := size_remove_oldest found
      omega
  | room room =>
    constructor
    · rintro ⟨apart, entry, found, valid, gone⟩
      dsimp only at gone
      rw [Table.find_insert_of_ne _ _ apart] at gone
      exact absurd ((find_unexpired ..).mpr ⟨found, valid⟩) gone
    · rintro ⟨-, ⟨full, valid⟩, -⟩
      rw [unexpired_of_forall valid] at room
      omega
  | @evicted ticket full evicted =>
    constructor
    · rintro ⟨apart, entry, found, valid, gone⟩
      dsimp only at gone
      rw [Table.find_insert_of_ne _ _ apart, Table.find_remove] at gone
      have same : other = ticket.1 := by
        by_contra different
        rw [if_neg different] at gone
        exact gone found
      exact ⟨apart, full, ticket.2, same ▸ evicted⟩
    · rintro ⟨apart, -, entry, found⟩
      have same : ticket = (other, entry) := Option.some.inj (evicted.symm.trans found)
      have held := (oldest_spec found).1
      refine ⟨apart, entry, held, full.2 other entry held, ?_⟩
      dsimp only
      rw [Table.find_insert_of_ne _ _ apart, Table.find_remove, same, if_pos rfl]
      exact nofun

theorem evictsJustly_iff (bounded : store.tickets.size ≤ store.maxCapacity) (order : HashOrder)
    (now : Nat) (id psk : Bytes) :
    store.EvictsJustly order now id psk ↔ ¬store.Displaces order now id := by
  have loses := (storePsk_cases bounded order now id psk).loses_iff bounded
  constructor
  · rintro justly ⟨full, present, ticket, found, apart⟩
    have just := justly ticket.1 ((loses ticket.1).mpr ⟨apart, full, ticket.2, found⟩)
    rw [just.absent] at present
    cases present
  · intro displaces other lost
    obtain ⟨apart, full, entry, found⟩ := (loses other).mp lost
    refine ⟨?_, full, ?_, ?_⟩
    · by_contra present
      exact displaces ⟨full, Option.isSome_iff_ne_none.mpr present, (other, entry), found, apart⟩
    · intro another gone
      obtain ⟨-, -, kept, evicted⟩ := (loses another).mp gone
      exact congrArg Prod.fst (Option.some.inj (evicted.symm.trans found))
    · intro stored held
      have same : entry = stored := Option.some.inj ((oldest_spec found).1.symm.trans held)
      exact same ▸ (oldest_spec found).2

end PskStore

/-! ## Runs -/

inductive TicketDeed where
  | stored (psk : Bytes) (now : Nat)
  | returned (psk : Bytes)

/-- A call on the store. -/
inductive PskEvent where
  | storePsk (order : HashOrder) (now : Nat) (ticketId psk : Bytes)
  | takePsk (now : Nat) (ticketId : Bytes)
  | purgeExpired (now : Nat)

/-- The store and what became of each ticket. -/
structure PskHistory where
  store : PskStore
  deeds : List (Bytes × TicketDeed)

namespace PskHistory

open PskStore

def new (maxCapacity pskTtl : Nat) : PskHistory := ⟨.new maxCapacity pskTtl, []⟩

def step (history : PskHistory) : PskEvent → PskHistory
  | .storePsk order now id psk =>
    let (stored, store) := history.store.storePsk order now id psk
    ⟨store, if stored then (id, .stored psk now) :: history.deeds else history.deeds⟩
  | .takePsk now id =>
    match history.store.takePsk now id with
    | (some psk, store) => ⟨store, (id, .returned psk) :: history.deeds⟩
    | (none, store) => ⟨store, history.deeds⟩
  | .purgeExpired now => { history with store := history.store.purgeExpired now }

/-- The last that was done under the identifier was to store this key, and it has not expired. -/
def Available (pskTtl : Nat) (history : PskHistory) (now : Nat) (id psk : Bytes) : Prop :=
  ∃ start, history.deeds.lookup id = some (.stored psk start) ∧ now < start + pskTtl

/-- What holds of a store with this capacity and lifetime: it is within the capacity, and its tickets are
the last that were stored, and not returned since. -/
structure Sound (maxCapacity pskTtl : Nat) (history : PskHistory) : Prop where
  capacity : history.store.maxCapacity = maxCapacity
  ttl : history.store.pskTtl = pskTtl
  bounded : history.store.tickets.size ≤ history.store.maxCapacity
  origin : ∀ id entry, history.store.tickets.find id = some entry →
    ∃ start, history.deeds.lookup id = some (.stored entry.psk start) ∧
      entry.expiresAt = start + pskTtl

variable {maxCapacity pskTtl : Nat}

theorem sound_new (maxCapacity pskTtl : Nat) : Sound maxCapacity pskTtl (new maxCapacity pskTtl) where
  capacity := rfl
  ttl := rfl
  bounded := Nat.zero_le _
  origin _ _ found := nomatch found

theorem Sound.storePsk {history : PskHistory} (sound : Sound maxCapacity pskTtl history)
    (order : HashOrder) (now : Nat) (id psk : Bytes) :
    Sound maxCapacity pskTtl (history.step (.storePsk order now id psk)) := by
  have taken := storePsk_cases sound.bounded order now id psk
  refine ⟨taken.limits.1.trans sound.capacity, taken.limits.2.trans sound.ttl, ?_, ?_⟩
  · exact (taken.size_le sound.bounded).trans taken.limits.1.ge
  · intro other entry found
    rcases taken.find found with ⟨stored, rfl, rfl⟩ | ⟨apart, before⟩
    · refine ⟨now, ?_, by rw [sound.ttl]⟩
      simp only [step, stored, if_true]
      exact List.lookup_cons_self ..
    · obtain ⟨start, last, expires⟩ := sound.origin other entry before
      refine ⟨start, ?_, expires⟩
      simp only [step]
      split
      · next stored => rw [Assoc.lookup_cons_of_ne (apart stored), last]
      · exact last

theorem Sound.takePsk {history : PskHistory} (sound : Sound maxCapacity pskTtl history) (now : Nat)
    (id : Bytes) : Sound maxCapacity pskTtl (history.step (.takePsk now id)) := by
  have store : (history.step (.takePsk now id)).store =
      { history.store with tickets := history.store.tickets.remove id } := by
    simp only [step, takePsk_eq]
    split <;> simp_all
  have deeds : ∀ other, other ≠ id →
      (history.step (.takePsk now id)).deeds.lookup other = history.deeds.lookup other := by
    intro other apart
    simp only [step]
    split
    · exact Assoc.lookup_cons_of_ne apart
    · rfl
  refine ⟨?_, ?_, ?_, ?_⟩
  · rw [store]
    exact sound.capacity
  · rw [store]
    exact sound.ttl
  · rw [store]
    exact (Table.size_remove_le ..).trans sound.bounded
  · intro other entry found
    rw [store, Table.find_remove] at found
    split at found
    · cases found
    · next apart =>
      rw [deeds other apart]
      exact sound.origin other entry found

theorem Sound.step {history : PskHistory} (sound : Sound maxCapacity pskTtl history)
    (event : PskEvent) : Sound maxCapacity pskTtl (history.step event) := by
  cases event with
  | storePsk order now id psk => exact sound.storePsk order now id psk
  | takePsk now id => exact sound.takePsk now id
  | purgeExpired now =>
    refine ⟨sound.capacity, sound.ttl, (Table.size_retain_le ..).trans sound.bounded, ?_⟩
    intro id entry found
    exact sound.origin id entry ((find_unexpired ..).mp found).1

theorem Sound.available {history : PskHistory} (sound : Sound maxCapacity pskTtl history) {now : Nat}
    {id psk : Bytes} (returned : (history.store.takePsk now id).1 = some psk) :
    history.Available pskTtl now id psk := by
  rw [takePsk_eq] at returned
  obtain ⟨entry, found, rfl⟩ := Option.map_eq_some_iff.mp returned
  obtain ⟨held, valid⟩ := (find_unexpired ..).mp found
  obtain ⟨start, last, expires⟩ := sound.origin id entry held
  exact ⟨start, last, expires ▸ valid⟩

end PskHistory

open PskHistory

/-- After any calls at any times, the store is within its capacity, and it returns a key only if it is the
last that was stored under the identifier, has not expired and was not returned since. Storing evicts a
ticket of another identifier justly exactly if it does not displace it. -/
theorem psk_store_iff (maxCapacity pskTtl : Nat) (events : List PskEvent) :
    let history := run step (new maxCapacity pskTtl) events
    history.store.tickets.size ≤ maxCapacity ∧
      (∀ now id psk, (history.store.takePsk now id).1 = some psk →
        history.Available pskTtl now id psk) ∧
      ∀ order now id psk, history.store.EvictsJustly order now id psk ↔
        ¬history.store.Displaces order now id := by
  have sound := run_invariant (Sound maxCapacity pskTtl) (fun _ event sound => sound.step event)
    (sound_new maxCapacity pskTtl) events
  refine ⟨sound.bounded.trans sound.capacity.le, ?_, ?_⟩
  · intro now id psk returned
    exact sound.available returned
  · intro order now id psk
    exact PskStore.evictsJustly_iff sound.bounded order now id psk

def keptOrder : HashOrder := ⟨id, List.Perm.refl⟩

/-- The second of two tickets is stored again, and the first is gone. -/
theorem renewal_displaces :
    let store := (run step (new 2 10)
      [.storePsk keptOrder 0 [1] [7], .storePsk keptOrder 1 [2] [8]]).store
    store.tickets.find [1] = some ⟨[7], 10⟩ ∧
      (store.storePsk keptOrder 2 [2] [9]).2.tickets.find [1] = none ∧
      ¬store.EvictsJustly keptOrder 2 [2] [9] := by
  refine ⟨rfl, rfl, fun justly => ?_⟩
  have absent := (justly [1] ⟨by decide, ⟨[7], 10⟩, rfl, by decide, nofun⟩).absent
  cases absent

end OpenHttpa.Core
