import Mathlib.Data.List.Basic
import Mathlib.Data.List.Induction
import Mathlib.Data.Set.Basic
import OpenHttpa.Lib.Run

/-!
# Registers that refuse what they dominate

A register holds at most one value. An offered value takes the place of the held one unless it is
below it in a preorder, so of two values that are not comparable the later one stays. Copies of one
register that are offered the same values in different orders agree exactly when some of the values
all look the same and every other value lies strictly below each of them. A register that once took
a value never takes one below it again exactly when every value it takes is above the one that it
replaces.
-/
namespace OpenHttpa.Register

variable {α β : Type*} (below : α → α → Prop) [DecidableRel below]

/-- Offer a value to a register: it is taken unless it is below the held one. -/
def offer (held : Option α) (next : α) : Option α :=
  match held with
  | none => some next
  | some current => if below next current then some current else some next

theorem offer_cases (held : Option α) (next : α) :
    offer below held next = some next ∨
      ∃ current, held = some current ∧ below next current ∧
        offer below held next = some current := by
  unfold offer
  cases held with
  | none => exact .inl rfl
  | some current =>
    by_cases under : below next current
    · exact .inr ⟨current, rfl, under, if_pos under⟩
    · exact .inl (if_neg under)

variable {values : List α} {value : α}

theorem held_mem {held : Option α}
    (last : run (offer below) held values = some value) : held = some value ∨ value ∈ values := by
  induction values generalizing held with
  | nil => exact .inl last
  | cons next rest ih =>
    rcases ih last with first | later
    · rcases offer_cases below held next with taken | ⟨current, was, -, kept⟩
      · rw [taken, Option.some_inj] at first
        exact .inr (by simp [first])
      · rw [kept] at first
        exact .inl (was.trans first)
    · exact .inr (List.mem_cons_of_mem next later)

theorem held_of_ne_nil (given : values ≠ []) (held : Option α) :
    ∃ value, run (offer below) held values = some value := by
  obtain ⟨front, last, rfl⟩ := List.eq_nil_or_concat values |>.resolve_left given
  rw [List.concat_eq_append, run_append]
  rcases offer_cases below (run (offer below) held front) last with taken | ⟨current, -, -, kept⟩
  · exact ⟨last, taken⟩
  · exact ⟨current, kept⟩

theorem run_map {rename : α → α}
    (keeps : ∀ first second, below (rename first) (rename second) ↔ below first second)
    (held : Option α) (values : List α) :
    run (offer below) (held.map rename) (values.map rename) =
      (run (offer below) held values).map rename := by
  induction values generalizing held with
  | nil => rfl
  | cons next rest ih =>
    have step : offer below (held.map rename) (rename next) =
        (offer below held next).map rename := by
      cases held with
      | none => rfl
      | some current =>
        by_cases under : below next current
        · simp [offer, under, (keeps next current).mpr under]
        · simp [offer, under, (keeps next current).not.mpr under]
    rw [List.map_cons, run_cons, run_cons, step, ih]

/-! ## Copies that are offered the same values -/

def Covers (values offered : List α) : Prop := ∀ value, value ∈ offered ↔ value ∈ values

/-- The winners look the same, and every other value is strictly below each of them. -/
structure Decides (view : α → β) (values : List α) (winners : Set α) : Prop where
  among : ∀ value ∈ winners, value ∈ values
  nonempty : values ≠ [] → winners.Nonempty
  alike : ∀ first ∈ winners, ∀ second ∈ winners, view first = view second
  under : ∀ value ∈ values, value ∉ winners → ∀ winner ∈ winners, below value winner
  above : ∀ value ∈ values, value ∉ winners → ∀ winner ∈ winners, ¬ below winner value

variable {below}

theorem Decides.holds {view : α → β} {winners : Set α}
    (decides : Decides below view values winners) {offered : List α}
    (inside : ∀ value ∈ offered, value ∈ values) {winner : α} (wins : winner ∈ winners)
    (reached : winner ∈ offered) :
    ∃ holder ∈ winners, run (offer below) none offered = some holder := by
  induction offered using List.reverseRecOn with
  | nil => cases reached
  | append_singleton front last ih =>
    have insideFront : ∀ value ∈ front, value ∈ values := fun value member =>
      inside value (List.mem_append_left _ member)
    have lastInside : last ∈ values := inside last (by simp)
    rw [run_append]
    change ∃ holder ∈ winners, offer below (run (offer below) none front) last = some holder
    rcases offer_cases below (run (offer below) none front) last with
      taken | ⟨current, was, under, kept⟩
    · by_cases lastWins : last ∈ winners
      · exact ⟨last, lastWins, taken⟩
      · -- A winner came before; it is held, and the last value is below it.
        have earlier : winner ∈ front := by
          rcases List.mem_append.mp reached with before | now
          · exact before
          · exact absurd (List.mem_singleton.mp now ▸ wins) lastWins
        obtain ⟨holder, holderWins, held⟩ := ih insideFront earlier
        refine ⟨holder, holderWins, ?_⟩
        rw [held]
        exact if_pos (decides.under last lastInside lastWins holder holderWins)
    · refine ⟨current, ?_, kept⟩
      by_contra loses
      have currentInside : current ∈ values :=
        insideFront current ((held_mem below was).resolve_left nofun)
      rcases List.mem_append.mp reached with before | now
      · obtain ⟨holder, holderWins, held⟩ := ih insideFront before
        rw [was, Option.some_inj] at held
        exact loses (held ▸ holderWins)
      · have lastWins : last ∈ winners := List.mem_singleton.mp now ▸ wins
        exact decides.above current currentInside loses last lastWins under

variable (below) in
def CanHold (values : List α) (value : α) : Prop :=
  ∃ offered, Covers values offered ∧ run (offer below) none offered = some value

theorem CanHold.mem (can : CanHold below values value) :
    value ∈ values := by
  obtain ⟨offered, covers, ends⟩ := can
  exact (covers value).mp ((held_mem below ends).resolve_left nofun)

theorem CanHold.of_not_below {holder : α}
    (can : CanHold below values holder) (member : value ∈ values) (apart : ¬ below value holder) :
    CanHold below values value := by
  obtain ⟨offered, covers, ends⟩ := can
  refine ⟨offered ++ [value], ?_, ?_⟩
  · intro other
    rw [List.mem_append, covers other, List.mem_singleton]
    exact ⟨fun either => either.elim id fun same => same ▸ member, .inl⟩
  · rw [run_append, ends]
    exact if_neg apart

section Preorder

variable (refl : ∀ value, below value value)
  (trans : ∀ first second third, below first second → below second third → below first third)
include refl trans

theorem CanHold.of_equivalent {values : List α} {holder value : α}
    (can : CanHold below values holder) (member : value ∈ values) (low : below value holder)
    (high : below holder value) : CanHold below values value := by
  classical
  have holderMember := can.mem
  obtain ⟨offered, covers, ends⟩ := can
  let rename : α → α := fun other => if other = holder then value else other
  have renamed : rename holder = value := if_pos rfl
  have level : ∀ other, below (rename other) other ∧ below other (rename other) := by
    intro other
    by_cases same : other = holder
    · rw [same, renamed]
      exact ⟨low, high⟩
    · simp only [rename, if_neg same]
      exact ⟨refl other, refl other⟩
  have keeps : ∀ first second, below (rename first) (rename second) ↔ below first second := by
    intro first second
    constructor
    · intro moved
      exact trans _ _ _ (level first).2 (trans _ _ _ moved (level second).1)
    · intro plain
      exact trans _ _ _ (level first).1 (trans _ _ _ plain (level second).2)
  refine ⟨offered.map rename ++ [holder], ?_, ?_⟩
  · intro other
    rw [List.mem_append, List.mem_map, List.mem_singleton]
    constructor
    · rintro (⟨source, sourceOffered, rfl⟩ | rfl)
      · by_cases same : source = holder
        · rw [same, renamed]
          exact member
        · simp only [rename, if_neg same]
          exact (covers source).mp sourceOffered
      · exact holderMember
    · intro inside
      by_cases same : other = holder
      · exact .inr same
      · exact .inl ⟨other, (covers other).mpr inside, if_neg same⟩
  · have moved := run_map below keeps none offered
    rw [Option.map_none] at moved
    rw [run_append, moved, ends, Option.map_some, renamed]
    exact if_pos high

theorem converge_iff (view : α → β) (values : List α) :
    (∀ first second, Covers values first → Covers values second →
      (run (offer below) none first).map view = (run (offer below) none second).map view) ↔
    ∃ winners, Decides below view values winners := by
  constructor
  · intro converge
    refine ⟨{value | CanHold below values value}, ?_, ?_, ?_, ?_, ?_⟩
    · exact fun value can => CanHold.mem can
    · intro given
      obtain ⟨value, ends⟩ := held_of_ne_nil below given none
      exact ⟨value, values, fun _ => Iff.rfl, ends⟩
    · rintro first ⟨firstOffered, firstCovers, firstEnds⟩ second
        ⟨secondOffered, secondCovers, secondEnds⟩
      have same := converge _ _ firstCovers secondCovers
      rw [firstEnds, secondEnds] at same
      exact Option.some_inj.mp same
    · intro value member loses winner wins
      by_contra apart
      exact loses (CanHold.of_not_below wins member apart)
    · intro value member loses winner wins high
      by_cases low : below value winner
      · exact loses (CanHold.of_equivalent refl trans wins member low high)
      · exact loses (CanHold.of_not_below wins member low)
  · rintro ⟨winners, decides⟩ first second firstCovers secondCovers
    by_cases empty : values = []
    · have nothing : ∀ {offered : List α}, Covers values offered → offered = [] := by
        intro offered covers
        refine List.eq_nil_iff_forall_not_mem.mpr fun value member => ?_
        have inside := (covers value).mp member
        rw [empty] at inside
        cases inside
      rw [nothing firstCovers, nothing secondCovers]
    · obtain ⟨winner, wins⟩ := decides.nonempty empty
      have ends : ∀ {offered : List α}, Covers values offered →
          ∃ holder ∈ winners, run (offer below) none offered = some holder := fun covers =>
        decides.holds (fun value member => (covers value).mp member) wins
          ((covers winner).mpr (decides.among winner wins))
      obtain ⟨one, oneWins, oneEnds⟩ := ends firstCovers
      obtain ⟨other, otherWins, otherEnds⟩ := ends secondCovers
      rw [oneEnds, otherEnds, Option.map_some, Option.map_some,
        decides.alike one oneWins other otherWins]

end Preorder

/-! ## Values once taken -/

section Taken

variable {κ : Type*} [DecidableEq κ] (below)

def Current (held : κ → Option α) (taken : List (κ × α)) : Prop :=
  ∀ entry ∈ taken, ∃ value, held entry.1 = some value ∧ below entry.2 value

def Sourced (held : κ → Option α) (taken : List (κ × α)) : Prop :=
  ∀ name value, held name = some value → (name, value) ∈ taken

variable {below}

theorem Sourced.take {held : κ → Option α} {taken : List (κ × α)} (sourced : Sourced held taken)
    (name : κ) (value : α) :
    Sourced (Function.update held name (some value)) (taken ++ [(name, value)]) := by
  intro other found was
  by_cases same : other = name
  · subst same
    rw [Function.update_self, Option.some_inj] at was
    simp [was]
  · rw [Function.update_of_ne same] at was
    exact List.mem_append_left _ (sourced other found was)

omit [DecidableRel below] in
theorem current_take_iff (refl : ∀ value, below value value)
    (trans : ∀ first second third, below first second → below second third → below first third)
    {held : κ → Option α} {taken : List (κ × α)} (current : Current below held taken)
    (sourced : Sourced held taken) (name : κ) (value : α) :
    Current below (Function.update held name (some value)) (taken ++ [(name, value)]) ↔
      ∀ replaced, held name = some replaced → below replaced value := by
  constructor
  · intro still replaced was
    have member : (name, replaced) ∈ taken ++ [(name, value)] :=
      List.mem_append_left _ (sourced name replaced was)
    obtain ⟨now, holds, under⟩ := still _ member
    rw [Function.update_self, Option.some_inj] at holds
    exact holds ▸ under
  · intro above entry member
    rcases List.mem_append.mp member with before | now
    · obtain ⟨was, holds, under⟩ := current entry before
      by_cases same : entry.1 = name
      · refine ⟨value, by rw [same, Function.update_self], ?_⟩
        exact trans _ _ _ under (above was (same ▸ holds))
      · exact ⟨was, by rw [Function.update_of_ne same, holds], under⟩
    · rw [List.mem_singleton.mp now]
      exact ⟨value, Function.update_self .., refl value⟩

end Taken

end OpenHttpa.Register
