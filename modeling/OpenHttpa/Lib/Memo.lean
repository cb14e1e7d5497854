import OpenHttpa.Lib.Assoc
import OpenHttpa.Lib.Run

/-!
# A function asked through a cache

Values of a function are kept in a cache under keys of its arguments. A call looks the key of its
question up, and only if nothing is there does it evaluate the function and store the value. Calls run
next to each other, so other steps may come between the two, and entries may be dropped at any time.
Whatever the order, every call is answered by a value of the function at some question that was asked
with the same key (`Memo.Sound`). So all answers are right exactly when a value that can be kept under
a key is the value at every question with that key (`Memo.allRight_iff`).
-/
namespace OpenHttpa

structure LruCache (κ β : Type) where
  capacity : Nat
  entries : List (κ × β)

namespace LruCache

variable {κ β : Type} [DecidableEq κ]

def get (cache : LruCache κ β) (key : κ) : Option β × LruCache κ β :=
  match cache.entries.lookup key with
  | none => (none, cache)
  | some value =>
    (some value, { cache with entries := (key, value) :: Assoc.without cache.entries key })

/-- Store a value as the most recently used one; an entry too many is dropped at the other end. -/
def put (cache : LruCache κ β) (key : κ) (value : β) : LruCache κ β :=
  { cache with entries := ((key, value) :: Assoc.without cache.entries key).take cache.capacity }

def drop (cache : LruCache κ β) (key : κ) : LruCache κ β :=
  { cache with entries := Assoc.without cache.entries key }

variable {cache : LruCache κ β} {key : κ}

theorem mem_of_get {value : β}
    (found : (cache.get key).1 = some value) : (key, value) ∈ cache.entries := by
  unfold get at found
  split at found
  · cases found
  · rename_i held
    cases found
    exact Assoc.mem_of_lookup held

theorem mem_of_mem_get {entry : κ × β}
    (member : entry ∈ (cache.get key).2.entries) : entry ∈ cache.entries := by
  unfold get at member
  split at member
  · exact member
  · rename_i value found
    rcases List.mem_cons.mp member with rfl | later
    · exact Assoc.mem_of_lookup found
    · exact (List.mem_filter.mp later).1

theorem mem_of_mem_put {value : β} {entry : κ × β} (member : entry ∈ (cache.put key value).entries) :
    entry = (key, value) ∨ entry ∈ cache.entries := by
  rcases List.mem_cons.mp (List.mem_of_mem_take member) with first | later
  · exact .inl first
  · exact .inr (List.mem_filter.mp later).1

theorem get_put (cache : LruCache κ β) (room : 0 < cache.capacity) (key : κ) (value : β) :
    ((cache.put key value).get key).1 = some value := by
  obtain ⟨capacity, enough⟩ := Nat.exists_eq_succ_of_ne_zero (Nat.ne_of_gt room)
  have found : (cache.put key value).entries.lookup key = some value := by
    rw [put, enough]
    exact List.lookup_cons_self
  unfold get
  rw [found]

end LruCache

namespace Memo

variable {α β ε κ : Type}

inductive Call (α β ε : Type) where
  | asked (question : α)
  /-- Nothing was there; the function is to be evaluated. -/
  | missed (question : α)
  | answered (question : α) (answer : Except ε β)
deriving DecidableEq

def Call.question : Call α β ε → α
  | asked question => question
  | missed question => question
  | answered question _ => question

structure State (α β ε κ : Type) where
  cache : LruCache κ β
  calls : List (Call α β ε)

def State.new (capacity : Nat) : State α β ε κ := ⟨⟨capacity, []⟩, []⟩

/-- One locked step of a call, the beginning of one, or the loss of an entry. -/
inductive Event (α κ : Type) where
  | ask (question : α)
  | look (index : Nat)
  | store (index : Nat)
  | drop (key : κ)

variable [DecidableEq κ] (keyOf : α → κ) (value : α → Except ε β)

/-- The machine; a step that no call is about to take does nothing. A failed evaluation is not
stored. -/
def step (state : State α β ε κ) : Event α κ → State α β ε κ
  | .ask question => { state with calls := state.calls ++ [.asked question] }
  | .look index =>
    match state.calls[index]? with
    | some (.asked question) =>
      match state.cache.get (keyOf question) with
      | (some kept, cache) => ⟨cache, state.calls.set index (.answered question (.ok kept))⟩
      | (none, cache) => ⟨cache, state.calls.set index (.missed question)⟩
    | _ => state
  | .store index =>
    match state.calls[index]? with
    | some (.missed question) =>
      match value question with
      | .error failure =>
        { state with calls := state.calls.set index (.answered question (.error failure)) }
      | .ok found =>
        ⟨state.cache.put (keyOf question) found,
          state.calls.set index (.answered question (.ok found))⟩
    | _ => state
  | .drop key => { state with cache := state.cache.drop key }

structure Sound (state : State α β ε κ) : Prop where
  cached : ∀ key kept, (key, kept) ∈ state.cache.entries →
    ∃ call ∈ state.calls, keyOf call.question = key ∧ value call.question = .ok kept
  answered : ∀ question answer, .answered question answer ∈ state.calls → answer = value question ∨
    ∃ kept, answer = .ok kept ∧ ∃ call ∈ state.calls,
      keyOf call.question = keyOf question ∧ value call.question = .ok kept

variable {keyOf value}

theorem exists_call_set {calls : List (Call α β ε)} {index : Nat} {before after : Call α β ε}
    (there : calls[index]? = some before) (same : after.question = before.question)
    (good : α → Prop) (some : ∃ call ∈ calls, good call.question) :
    ∃ call ∈ calls.set index after, good call.question := by
  obtain ⟨call, member, holds⟩ := some
  obtain ⟨place, inside, rfl⟩ := List.getElem_of_mem member
  by_cases here : place = index
  · subst here
    have old : calls[place] = before := by
      rw [List.getElem?_eq_getElem inside] at there
      exact Option.some.inj there
    refine ⟨after, List.mem_set inside after, ?_⟩
    rw [same, ← old]
    exact holds
  · refine ⟨calls[place], ?_, holds⟩
    have unmoved : (calls.set index after)[place]? = Option.some calls[place] := by
      rw [List.getElem?_set_ne (Ne.symm here), List.getElem?_eq_getElem inside]
    exact List.mem_of_getElem? unmoved

namespace Sound

variable {state : State α β ε κ} (sound : Sound keyOf value state)
include sound

omit [DecidableEq κ] in
theorem advance {index : Nat} {before after : Call α β ε} {cache : LruCache κ β}
    (there : state.calls[index]? = some before) (same : after.question = before.question)
    (kept : ∀ key found, (key, found) ∈ cache.entries → (key, found) ∈ state.cache.entries ∨
      keyOf before.question = key ∧ value before.question = .ok found)
    (right : ∀ answer, after = .answered before.question answer → answer = value before.question ∨
      ∃ found, answer = .ok found ∧ ∃ call ∈ state.calls,
        keyOf call.question = keyOf before.question ∧ value call.question = .ok found) :
    Sound keyOf value ⟨cache, state.calls.set index after⟩ where
  cached key found member := by
    apply exists_call_set there same fun question =>
      keyOf question = key ∧ value question = .ok found
    rcases kept key found member with old | ⟨here, evaluated⟩
    · exact sound.cached key found old
    · exact ⟨before, List.mem_of_getElem? there, here, evaluated⟩
  answered question answer member := by
    have carried : answer = value question ∨ ∃ found, answer = .ok found ∧ ∃ call ∈ state.calls,
        keyOf call.question = keyOf question ∧ value call.question = .ok found := by
      rcases List.mem_or_eq_of_mem_set member with old | new
      · exact sound.answered question answer old
      · have asked : question = before.question := by
          rw [← same, ← new]
          rfl
        subst asked
        exact right answer new.symm
    refine carried.imp id ?_
    rintro ⟨found, returned, asked⟩
    exact ⟨found, returned, exists_call_set there same
      (fun other => keyOf other = keyOf question ∧ value other = .ok found) asked⟩

omit [DecidableEq κ] in
theorem ask (question : α) :
    Sound keyOf value { state with calls := state.calls ++ [.asked question] } := by
  constructor
  · intro key kept member
    obtain ⟨call, there, holds⟩ := sound.cached key kept member
    exact ⟨call, List.mem_append_left _ there, holds⟩
  · intro other answer member
    rcases List.mem_append.mp member with old | new
    · refine (sound.answered other answer old).imp id ?_
      rintro ⟨kept, returned, call, there, holds⟩
      exact ⟨kept, returned, call, List.mem_append_left _ there, holds⟩
    · simp at new

theorem look (index : Nat) : Sound keyOf value (Memo.step keyOf value state (.look index)) := by
  unfold Memo.step
  dsimp only
  split
  · rename_i question there
    have old := @LruCache.mem_of_mem_get κ β _ state.cache (keyOf question)
    split
    · rename_i kept cache looked
      have stored := LruCache.mem_of_get (congrArg Prod.fst looked)
      rw [looked] at old
      refine sound.advance there rfl (fun _ _ member => .inl (old member)) ?_
      intro answer returned
      cases returned
      exact .inr ⟨kept, rfl, sound.cached _ _ stored⟩
    · rename_i cache looked
      rw [looked] at old
      exact sound.advance there rfl (fun _ _ member => .inl (old member)) nofun
  · exact sound

theorem store (index : Nat) : Sound keyOf value (Memo.step keyOf value state (.store index)) := by
  unfold Memo.step
  dsimp only
  split
  · rename_i question there
    split
    · rename_i failure failed
      refine sound.advance there rfl (fun _ _ member => .inl member) ?_
      intro answer returned
      cases returned
      exact .inl failed.symm
    · rename_i found evaluated
      refine sound.advance there rfl ?_ ?_
      · intro key kept member
        rcases LruCache.mem_of_mem_put member with new | old
        · cases new
          exact .inr ⟨rfl, evaluated⟩
        · exact .inl old
      · intro answer returned
        cases returned
        exact .inl evaluated.symm
  · exact sound

theorem step (event : Event α κ) : Sound keyOf value (Memo.step keyOf value state event) := by
  cases event with
  | ask question => exact sound.ask question
  | look index => exact sound.look index
  | store index => exact sound.store index
  | drop key =>
    refine ⟨fun other kept member => ?_, sound.answered⟩
    exact sound.cached other kept (List.mem_filter.mp member).1

end Sound

theorem sound_run (capacity : Nat) (events : List (Event α κ)) :
    Sound keyOf value (run (step keyOf value) (.new capacity) events) := by
  refine run_invariant (Sound keyOf value) (fun _ event sound => sound.step event) ?_ events
  exact ⟨nofun, nofun⟩

def AllRight (value : α → Except ε β) (state : State α β ε κ) : Prop :=
  ∀ question answer, .answered question answer ∈ state.calls → answer = value question

theorem allRight_of_agree {capacity : Nat} {events : List (Event α κ)}
    (agree : ∀ first ∈ (run (step keyOf value) (.new capacity) events).calls,
      ∀ second ∈ (run (step keyOf value) (.new capacity) events).calls,
        keyOf first.question = keyOf second.question →
          ∀ kept, value first.question = .ok kept → value second.question = .ok kept) :
    AllRight value (run (step keyOf value) (.new capacity) events) := by
  intro question answer member
  rcases (sound_run capacity events).answered question answer member with
    right | ⟨kept, rfl, call, there, same, found⟩
  · exact right
  · exact (agree call there _ member same kept found).symm

theorem second_answered {capacity : Nat} (room : 0 < capacity) {first second : α} {kept : β}
    (same : keyOf first = keyOf second) (found : value first = .ok kept) :
    .answered second (.ok kept) ∈ (run (step keyOf value) (.new capacity)
      [.ask first, .look 0, .store 0, .ask second, .look 1]).calls := by
  have hit := LruCache.get_put ⟨capacity, []⟩ room (keyOf first) kept
  simp only [run_cons, run_nil, step, State.new, List.nil_append, List.getElem?_cons_zero, LruCache.get,
    List.lookup_nil, List.set_cons_zero, found, List.cons_append, List.getElem?_cons_succ,
    List.set_cons_succ] at hit ⊢
  rw [← same]
  split at hit
  · cases hit
  · cases hit
    simp

theorem allRight_iff {capacity : Nat} (room : 0 < capacity) :
    (∀ events : List (Event α κ), AllRight value (run (step keyOf value) (.new capacity) events)) ↔
      ∀ first second, keyOf first = keyOf second →
        ∀ kept, value first = .ok kept → value second = .ok kept := by
  constructor
  · intro right first second same kept found
    exact (right _ second (.ok kept) (second_answered room same found)).symm
  · intro determined events
    exact allRight_of_agree fun first _ second _ => determined first.question second.question

end Memo

end OpenHttpa
