import Mathlib.Data.List.Basic

/-!
# Runs of a state machine

A machine is a function from a state and an event to the next state; a run folds it over a list
of events. `Along` says that every event of a run met a condition in the state before it, and
`total` adds up a weight of the events. The rules take what one step does to what a run does: for
invariants, with a condition on the steps or without, for properties that a step gains or loses exactly
with a condition, for the events that matter, and for measures.
-/
namespace OpenHttpa

variable {σ ε : Type*}

/-- The state after the events. -/
def run (step : σ → ε → σ) (state : σ) (events : List ε) : σ := events.foldl step state

/-- Every event meets the condition in the state before it. -/
def Along (step : σ → ε → σ) (guard : σ → ε → Prop) : σ → List ε → Prop
  | _, [] => True
  | state, event :: rest => guard state event ∧ Along step guard (step state event) rest

variable {step : σ → ε → σ} {guard : σ → ε → Prop} {state : σ} {events : List ε}

theorem along_of_forall (always : ∀ state event, guard state event) (state : σ) (events : List ε) :
    Along step guard state events := by
  induction events generalizing state with
  | nil => trivial
  | cons event rest ih => exact ⟨always state event, ih _⟩

theorem Along.and {first second : σ → ε → Prop}
    (one : Along step first state events) (other : Along step second state events) :
    Along step (fun state event => first state event ∧ second state event) state events := by
  induction events generalizing state with
  | nil => trivial
  | cons event rest ih => exact ⟨⟨one.1, other.1⟩, ih one.2 other.2⟩

theorem along_of_last {good : σ → Prop} (back : ∀ state event, good (step state event) → good state)
    (last : good (events.foldl step state)) :
    Along step (fun state _ => good state) state events := by
  have reached : ∀ {state : σ} {events : List ε}, good (events.foldl step state) → good state := by
    intro state events
    induction events generalizing state with
    | nil => exact id
    | cons event rest ih => exact fun last => back state event (ih last)
  induction events generalizing state with
  | nil => trivial
  | cons event rest ih => exact ⟨reached last, ih last⟩

variable (step)

@[simp]
theorem run_nil (state : σ) : run step state [] = state := rfl

@[simp]
theorem run_cons (state : σ) (event : ε) (rest : List ε) :
    run step state (event :: rest) = run step (step state event) rest := rfl

theorem run_append (state : σ) (first second : List ε) :
    run step state (first ++ second) = run step (run step state first) second := List.foldl_append

variable {first second : List ε} {taken : σ → ε → Prop} {inv : σ → Prop}

variable {step}

theorem Along.append
    (one : Along step guard state first) (two : Along step guard (run step state first) second) :
    Along step guard state (first ++ second) := by
  induction first generalizing state with
  | nil => exact two
  | cons event rest ih => exact ⟨one.1, ih one.2 two⟩

theorem Along.of_append (both : Along step guard state (first ++ second)) :
    Along step guard state first ∧ Along step guard (run step state first) second := by
  induction first generalizing state with
  | nil => exact ⟨trivial, both⟩
  | cons event rest ih =>
    obtain ⟨one, two⟩ := ih both.2
    exact ⟨⟨both.1, one⟩, two⟩

theorem run_invariant_along (inv : σ → Prop)
    (preserved : ∀ state event, inv state → guard state event → inv (step state event))
    (start : inv state) (along : Along step guard state events) :
    inv (run step state events) := by
  induction events generalizing state with
  | nil => exact start
  | cons event rest ih =>
    obtain ⟨met, later⟩ := along
    exact ih (preserved state event start met) later

theorem run_invariant (inv : σ → Prop) (preserved : ∀ state event, inv state → inv (step state event))
    (start : inv state) (events : List ε) : inv (run step state events) := by
  induction events generalizing state with
  | nil => exact start
  | cons event rest ih => exact ih (preserved state event start)

theorem run_filter {mine : ε → Bool} (related : σ → σ → Prop)
    (own : ∀ first second event, mine event = true → related first second →
      related (step first event) (step second event))
    (other : ∀ first second event, mine event = false → related first second →
      related (step first event) second)
    {first second : σ} (start : related first second) (events : List ε) :
    related (run step first events) (run step second (events.filter mine)) := by
  induction events generalizing first second with
  | nil => exact start
  | cons event rest ih =>
    cases kind : mine event with
    | true =>
      rw [List.filter_cons_of_pos kind]
      exact ih (own first second event kind start)
    | false =>
      rw [List.filter_cons_of_neg (by simp [kind])]
      exact ih (other first second event kind start)

theorem run_iff_along (good : σ → Prop)
    (preserved : ∀ state event, inv state → taken state event → inv (step state event))
    (exact : ∀ state event, inv state → taken state event →
      (good (step state event) ↔ good state ∧ guard state event))
    (start : inv state) (along : Along step taken state events) :
    good (run step state events) ↔ good state ∧ Along step guard state events := by
  induction events generalizing state with
  | nil => simp [Along]
  | cons event rest ih =>
    obtain ⟨met, later⟩ := along
    rw [run_cons, ih (preserved state event start met) later, exact state event start met]
    simp only [Along, and_assoc]

theorem always_iff_along_taken (good : σ → Prop)
    (preserved : ∀ state event, inv state → taken state event → inv (step state event))
    (exact : ∀ state event, inv state → taken state event → good state →
      (good (step state event) ↔ guard state event)) (sound : inv state) (start : good state)
    (along : Along step taken state events) :
    (∀ front, front <+: events → good (run step state front)) ↔ Along step guard state events := by
  induction events generalizing state with
  | nil =>
    refine ⟨fun _ => trivial, fun _ front first => ?_⟩
    rw [List.prefix_nil.mp first]
    exact start
  | cons event rest ih =>
    obtain ⟨met, later⟩ := along
    have next := ih (preserved state event sound met)
    constructor
    · intro always
      have kept : good (step state event) := always [event] (by simp)
      refine ⟨(exact state event sound met start).mp kept, (next kept later).mp ?_⟩
      intro front first
      exact always (event :: front) (List.prefix_cons_inj event |>.mpr first)
    · rintro ⟨holds, after⟩ front first
      rcases List.prefix_cons_iff.mp first with rfl | ⟨tail, rfl, follows⟩
      · exact start
      · have kept : good (step state event) := (exact state event sound met start).mpr holds
        exact (next kept later).mpr after tail follows

theorem always_iff_along (good : σ → Prop)
    (exact : ∀ state event, good state → (good (step state event) ↔ guard state event))
    (start : good state) (events : List ε) :
    (∀ taken, taken <+: events → good (run step state taken)) ↔ Along step guard state events :=
  @always_iff_along_taken σ ε step guard state events (fun _ _ => True) (fun _ => True) good
    (fun _ _ _ _ => trivial) (fun state event _ _ => exact state event) trivial start
    (along_of_forall (fun _ _ => trivial) state events)

/-- The weights of the events, added up. -/
def total (step : σ → ε → σ) (weight : σ → ε → Nat) : σ → List ε → Nat
  | _, [] => 0
  | state, event :: rest => weight state event + total step weight (step state event) rest

theorem run_saturates {weight : σ → ε → Nat} {cap : Nat} (lost : σ → Prop)
    (measure : σ → Nat) (forever : ∀ state event, lost state → lost (step state event))
    (raised : ∀ state event, lost (step state event) ∨
      measure (step state event) = min (measure state + weight state event) cap)
    (bounded : measure state ≤ cap) (events : List ε) :
    lost (run step state events) ∨
      measure (run step state events) =
        min (measure state + total step weight state events) cap := by
  induction events generalizing state with
  | nil =>
    refine .inr ?_
    rw [run_nil, total]
    omega
  | cons event rest ih =>
    rw [run_cons]
    rcases raised state event with gone | first
    · exact .inl (run_invariant lost forever gone rest)
    · have later : measure (step state event) ≤ cap := by omega
      rcases ih later with gone | whole
      · exact .inl gone
      · refine .inr ?_
        rw [whole, total]
        omega

end OpenHttpa
