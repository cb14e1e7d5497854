import Mathlib.Logic.Function.Basic
import Mathlib.Data.List.Nodup

/-!
# Counters that share a key

Several counters may hand out numbers under one key. A bank holds the counters by name and remembers
every number drawn, with its key. A counter has passed a number when it started at or below it and
has moved beyond it; the numbers drawn under a key are exactly those that some counter of the key
has passed (`Bank.Covered`). So a draw repeats a number under its key exactly when another counter
of the key has already passed it (`Bank.draw_nodup_iff`). A counter that begins again is set aside
under a name of its own, so that its past keeps counting (`Bank.restart`).
-/
namespace OpenHttpa

section Lists

variable {α : Type*} {items : List α} {index : Nat} {other item : α}

theorem getElem?_append_singleton (items : List α) (item : α) (index : Nat) :
    (items ++ [item])[index]? = if index = items.length then some item else items[index]? := by
  rcases Nat.lt_trichotomy index items.length with inside | rfl | outside
  · rw [List.getElem?_append_left inside, if_neg (by omega)]
  · simp
  · rw [if_neg (by omega), List.getElem?_eq_none (by simp; omega),
      List.getElem?_eq_none (by omega)]

theorem mem_set_iff {old : α} (was : items[index]? = some old) (item : α) (apart : other ≠ old) :
    other ∈ items.set index item ↔ other = item ∨ other ∈ items := by
  obtain ⟨inside, -⟩ := List.getElem?_eq_some_iff.mp was
  constructor
  · intro member
    exact (List.mem_or_eq_of_mem_set member).symm
  · rintro (rfl | member)
    · exact List.mem_set inside other
    · obtain ⟨place, found⟩ := List.mem_iff_getElem?.mp member
      have elsewhere : index ≠ place := by
        rintro rfl
        exact apart (Option.some_inj.mp (found.symm.trans was))
      exact List.mem_of_getElem? ((List.getElem?_set_ne elsewhere).trans found)

theorem mem_of_mem_append (member : other ∈ items ++ [item]) (apart : other ≠ item) : other ∈ items :=
  (List.mem_append.mp member).resolve_right fun now => apart (List.mem_singleton.mp now)

theorem mem_of_mem_set
    (member : other ∈ items.set index item) (apart : other ≠ item) : other ∈ items :=
  (List.mem_or_eq_of_mem_set member).resolve_right apart

theorem forall_mem_set {P : α → Prop}
    (each : ∀ other ∈ items, P other) (here : P item) : ∀ other ∈ items.set index item, P other := by
  intro other member
  rcases List.mem_or_eq_of_mem_set member with before | rfl
  · exact each other before
  · exact here

theorem forall_mem_concat {P : α → Prop}
    (each : ∀ other ∈ items, P other) (here : P item) : ∀ other ∈ items ++ [item], P other :=
  List.forall_mem_append.mpr ⟨each, List.forall_mem_singleton.mpr here⟩

theorem map_set_of_eq {β : Type*} {f : α → β} (found : items[index]? = some other)
    (same : f item = f other) : (items.set index item).map f = items.map f := by
  obtain ⟨inside, rfl⟩ := List.getElem?_eq_some_iff.mp found
  have within : index < (items.map f).length := by rwa [List.length_map]
  rw [List.map_set, same, ← List.getElem_map f (h := within), List.set_getElem_self]

theorem getElem?_of_getElem?_set {place : Nat}
    (found : (items.set index item)[place]? = some other) (apart : other ≠ item) :
    items[place]? = some other ∧ place ≠ index := by
  rw [List.getElem?_set] at found
  split at found
  · split at found
    · exact absurd (Option.some_inj.mp found).symm apart
    · cases found
  · next elsewhere => exact ⟨found, fun same => elsewhere same.symm⟩

end Lists

variable {ι κ : Type*}

@[ext]
structure Counter (κ : Type*) where
  key : κ
  start : Nat
  next : Nat

/-- The counter started at or below a number and has moved beyond it. -/
def Counter.Passed (counter : Counter κ) (value : Nat) : Prop :=
  counter.start ≤ value ∧ value < counter.next

/-- Named counters and the numbers drawn so far, newest first. -/
structure Bank (ι κ : Type*) where
  /-- The counter of a name, if it has been opened. -/
  counter : ι → Option (Counter κ)
  drawn : List (κ × Nat)

namespace Bank

def empty : Bank ι κ := ⟨fun _ => none, []⟩

variable (bank : Bank ι κ)

def Covered : Prop :=
  ∀ key value, (key, value) ∈ bank.drawn ↔
    ∃ name counter, bank.counter name = some counter ∧ counter.key = key ∧
      counter.Passed value

def Unpassed (name : ι) : Prop :=
  ∀ counter, bank.counter name = some counter →
    ∀ other rival, other ≠ name → bank.counter other = some rival →
      rival.key = counter.key → ¬ rival.Passed counter.next

theorem empty_covered : (empty : Bank ι κ).Covered := by
  intro key value
  simp [empty]

variable [DecidableEq ι]

def openAt (name : ι) (key : κ) (start : Nat) : Bank ι κ :=
  { bank with counter := Function.update bank.counter name (some ⟨key, start, start⟩) }

def draw (name : ι) : Bank ι κ :=
  match bank.counter name with
  | none => bank
  | some counter =>
    { counter := Function.update bank.counter name
        (some { counter with next := counter.next + 1 })
      drawn := (counter.key, counter.next) :: bank.drawn }

variable {bank} {name : ι} {counter : Counter κ} {after : Bank ι κ}

theorem draw_of_some (found : bank.counter name = some counter) :
    bank.draw name =
      { counter := Function.update bank.counter name
          (some { counter with next := counter.next + 1 })
        drawn := (counter.key, counter.next) :: bank.drawn } := by
  simp [draw, found]

theorem draw_counter_of_ne (bank : Bank ι κ) {other : ι} (apart : other ≠ name) :
    (bank.draw name).counter other = bank.counter other := by
  cases found : bank.counter name with
  | none => simp [draw, found]
  | some counter => simp [draw_of_some found, apart]

theorem openAt_covered (covered : bank.Covered)
    (unused : bank.counter name = none) (key : κ) (start : Nat) :
    (bank.openAt name key start).Covered := by
  intro drawnKey value
  change (drawnKey, value) ∈ bank.drawn ↔ _
  rw [covered drawnKey value]
  constructor
  · rintro ⟨other, counter, found, keyed, passed⟩
    have distinct : other ≠ name := by
      rintro rfl
      simp [unused] at found
    exact ⟨other, counter, by simpa [openAt, distinct] using found, keyed, passed⟩
  · rintro ⟨other, counter, found, keyed, passed⟩
    by_cases same : other = name
    · subst same
      simp only [openAt, Function.update_self, Option.some.injEq] at found
      subst found
      exact absurd passed.1 (Nat.not_le.mpr passed.2)
    · simp only [openAt, Function.update_of_ne same] at found
      exact ⟨other, counter, found, keyed, passed⟩

/-- Set a counter aside under another name and begin again under its own. -/
def restart (bank : Bank ι κ) (name archive : ι) (key : κ) (start : Nat) : Bank ι κ :=
  { bank with
    counter := Function.update (Function.update bank.counter archive (bank.counter name)) name
      (some ⟨key, start, start⟩) }

theorem restart_covered (covered : bank.Covered) {archive : ι}
    (held : bank.counter name = some counter)
    (unused : bank.counter archive = none) (key : κ) (start : Nat) :
    (bank.restart name archive key start).Covered := by
  have apart : archive ≠ name := by
    rintro rfl
    simp [unused] at held
  intro drawnKey value
  change (drawnKey, value) ∈ bank.drawn ↔ _
  rw [covered drawnKey value]
  constructor
  · rintro ⟨other, rival, found, keyed, passed⟩
    by_cases same : other = name
    · subst same
      refine ⟨archive, rival, ?_, keyed, passed⟩
      simp only [restart, Function.update_of_ne apart, Function.update_self, found]
    · have distinct : other ≠ archive := by
        rintro rfl
        simp [unused] at found
      refine ⟨other, rival, ?_, keyed, passed⟩
      simp only [restart, Function.update_of_ne same, Function.update_of_ne distinct, found]
  · rintro ⟨other, rival, found, keyed, passed⟩
    by_cases same : other = name
    · subst same
      simp only [restart, Function.update_self, Option.some.injEq] at found
      subst found
      exact absurd passed.1 (Nat.not_le.mpr passed.2)
    · simp only [restart, Function.update_of_ne same] at found
      by_cases archived : other = archive
      · subst archived
        rw [Function.update_self] at found
        exact ⟨name, rival, found, keyed, passed⟩
      · rw [Function.update_of_ne archived] at found
        exact ⟨other, rival, found, keyed, passed⟩

theorem passed_succ (counter : Counter κ) (ordered : counter.start ≤ counter.next) (value : Nat) :
    Counter.Passed { counter with next := counter.next + 1 } value ↔
      value = counter.next ∨ counter.Passed value := by
  simp only [Counter.Passed]
  omega

theorem draw_covered (covered : bank.Covered)
    (found : bank.counter name = some counter) (ordered : counter.start ≤ counter.next) :
    (bank.draw name).Covered := by
  intro key value
  rw [draw_of_some found]
  simp only [List.mem_cons, Prod.mk.injEq, covered key value]
  constructor
  · rintro (⟨rfl, rfl⟩ | ⟨other, rival, held, keyed, passed⟩)
    · exact ⟨name, { counter with next := counter.next + 1 }, Function.update_self .., rfl,
        (passed_succ counter ordered _).mpr (.inl rfl)⟩
    · by_cases same : other = name
      · subst same
        obtain rfl : counter = rival := by simpa [found] using held
        exact ⟨other, { counter with next := counter.next + 1 }, Function.update_self .., keyed,
          (passed_succ counter ordered _).mpr (.inr passed)⟩
      · exact ⟨other, rival, by rw [Function.update_of_ne same, held], keyed, passed⟩
  · rintro ⟨other, rival, held, keyed, passed⟩
    by_cases same : other = name
    · subst same
      rw [Function.update_self, Option.some.injEq] at held
      subst held
      rcases (passed_succ counter ordered value).mp passed with rfl | before
      · exact .inl ⟨keyed.symm, rfl⟩
      · exact .inr ⟨other, counter, found, keyed, before⟩
    · rw [Function.update_of_ne same] at held
      exact .inr ⟨other, rival, held, keyed, passed⟩

theorem draw_nodup_iff (covered : bank.Covered) (found : bank.counter name = some counter) :
    (bank.draw name).drawn.Nodup ↔ bank.drawn.Nodup ∧ bank.Unpassed name := by
  rw [draw_of_some found, List.nodup_cons, and_comm, and_congr_right_iff]
  intro _
  rw [covered counter.key counter.next]
  constructor
  · intro fresh held heldFound other rival distinct rivalFound keyed passed
    obtain rfl : counter = held := by simpa [found] using heldFound
    exact fresh ⟨other, rival, rivalFound, keyed, passed⟩
  · rintro unpassed ⟨other, rival, rivalFound, keyed, passed⟩
    by_cases same : other = name
    · subst same
      obtain rfl : counter = rival := by simpa [found] using rivalFound
      exact absurd passed.2 (Nat.lt_irrefl _)
    · exact unpassed counter found other rival same rivalFound keyed passed

def drawFrom (bank : Bank ι κ) : Option ι → Bank ι κ
  | none => bank
  | some name => bank.draw name

/-- Nothing is drawn, but a counter may be opened, or set aside to begin again. -/
inductive Rearranged (bank : Bank ι κ) : Bank ι κ → Prop where
  | same : Rearranged bank bank
  | opened (name : ι) (key : κ) (start : Nat) (unused : bank.counter name = none) :
      Rearranged bank (bank.openAt name key start)
  | restarted (name archive : ι) (counter : Counter κ) (key : κ) (start : Nat)
      (held : bank.counter name = some counter) (unused : bank.counter archive = none) :
      Rearranged bank (bank.restart name archive key start)

theorem Rearranged.covered (moved : Rearranged bank after)
    (covered : bank.Covered) : after.Covered := by
  cases moved with
  | same => exact covered
  | opened name key start unused => exact openAt_covered covered unused key start
  | restarted name archive counter key start held unused =>
    exact restart_covered covered held unused key start

theorem Rearranged.drawn_eq (moved : Rearranged bank after) :
    after.drawn = bank.drawn := by
  cases moved <;> rfl

/-- One step of a machine that keeps a bank: at most one draw, then at most one rearrangement. -/
structure Step (bank after : Bank ι κ) (source : Option ι) : Prop where
  held : ∀ name, source = some name →
    ∃ counter, bank.counter name = some counter ∧ counter.start ≤ counter.next
  moved : Rearranged (bank.drawFrom source) after

theorem Step.quiet (moved : Rearranged bank after) : Step bank after none :=
  ⟨nofun, moved⟩

theorem Step.draws (held : bank.counter name = some counter) (ordered : counter.start ≤ counter.next)
    (moved : Rearranged (bank.draw name) after) : Step bank after (some name) := by
  refine ⟨?_, moved⟩
  rintro _ ⟨⟩
  exact ⟨counter, held, ordered⟩

theorem Step.covered {source : Option ι} (step : Step bank after source)
    (covered : bank.Covered) : after.Covered := by
  refine step.moved.covered ?_
  cases source with
  | none => exact covered
  | some name =>
    obtain ⟨counter, held, ordered⟩ := step.held name rfl
    exact draw_covered covered held ordered

theorem Step.nodup_iff {source : Option ι} (step : Step bank after source) (covered : bank.Covered) :
    after.drawn.Nodup ↔ bank.drawn.Nodup ∧ ∀ name, source = some name → bank.Unpassed name := by
  rw [step.moved.drawn_eq]
  cases source with
  | none => simp [drawFrom]
  | some name =>
    obtain ⟨counter, held, ordered⟩ := step.held name rfl
    simp [drawFrom, draw_nodup_iff covered held]

end Bank

end OpenHttpa
