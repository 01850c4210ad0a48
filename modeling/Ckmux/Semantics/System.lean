import Mathlib

/-!
# Systems and their runs

A system is the states it may start in, the events a state allows and where each
leads. What holds of every reachable state is proved by `Reachable.invariant`:
once at the start and once for a step.
-/

namespace Ckmux.Semantics

universe u v

/-- A deterministic system driven by events. -/
structure System (State : Type u) (Event : Type v) where
  initial : State → Prop
  allows : State → Event → Prop
  step : State → Event → State

namespace System

variable {State : Type u} {Event : Type v} {system : System State Event}

/-- A run: the events taken so far, each allowed where it was taken. -/
inductive Runs (system : System State Event) : State → List Event → State → Prop where
  | initial {state : State} (valid : system.initial state) : Runs system state [] state
  | step {start state : State} {events : List Event} {event : Event}
      (prior : Runs system start events state) (allowed : system.allows state event) :
      Runs system start (events ++ [event]) (system.step state event)

/-- A state some run leads to. -/
def Reachable (system : System State Event) (state : State) : Prop :=
  ∃ start events, system.Runs start events state

/-- The system kept to steps that meet a condition. -/
def guarded (system : System State Event) (condition : State → Event → Prop) :
    System State Event where
  initial := system.initial
  allows state event := system.allows state event ∧ condition state event
  step := system.step

/-- A condition changes nothing about where a step leads. -/
@[simp] theorem guarded_step (condition : State → Event → Prop) :
    (system.guarded condition).step = system.step := rfl

/-- Where a run may start is reached. -/
theorem Reachable.start {state : State} (valid : system.initial state) : system.Reachable state :=
  ⟨state, [], .initial valid⟩

/-- An allowed step leads from what is reached to what is. -/
theorem Reachable.next {state : State} {event : Event} (reached : system.Reachable state)
    (allowed : system.allows state event) : system.Reachable (system.step state event) := by
  obtain ⟨start, events, run⟩ := reached
  exact ⟨start, events ++ [event], run.step allowed⟩

/-- An allowed step whose end is known by another name. -/
theorem Reachable.take {state later : State} (reached : system.Reachable state) (event : Event)
    (allowed : system.allows state event) (leads : system.step state event = later) :
    system.Reachable later :=
  leads ▸ reached.next allowed

/-- Events that are allowed one after another. -/
def AllowsAll (system : System State Event) : State → List Event → Prop
  | _, [] => True
  | state, event :: events =>
      system.allows state event ∧ system.AllowsAll (system.step state event) events

instance AllowsAll.decidable [∀ state event, Decidable (system.allows state event)] :
    ∀ (state : State) (events : List Event), Decidable (system.AllowsAll state events)
  | _, [] => .isTrue trivial
  | state, event :: events =>
      have := AllowsAll.decidable (system.step state event) events
      inferInstanceAs (Decidable (_ ∧ _))

/-- Events allowed one after another, cut in two. -/
theorem AllowsAll.append {state : State} {first second : List Event} :
    system.AllowsAll state (first ++ second) ↔
      system.AllowsAll state first ∧ system.AllowsAll (first.foldl system.step state) second := by
  induction first generalizing state with
  | nil => exact ⟨fun allowed => ⟨trivial, allowed⟩, fun allowed => allowed.2⟩
  | cons event events ih => exact (and_congr_right fun _ => ih).trans (and_assoc ..).symm

/-- A run is its events, allowed one after another from where it starts. -/
theorem Runs.taken {start state : State} {events : List Event}
    (run : system.Runs start events state) :
    system.initial start ∧ system.AllowsAll start events ∧ events.foldl system.step start = state := by
  induction run with
  | initial valid => exact ⟨valid, trivial, rfl⟩
  | step prior allowed ih =>
      obtain ⟨valid, taken, rfl⟩ := ih
      refine ⟨valid, AllowsAll.append.mpr ⟨taken, allowed, trivial⟩, ?_⟩
      rw [List.foldl_concat]

/-- Allowed events lead from what is reachable to what is. -/
theorem Reachable.follow {state : State} (reached : system.Reachable state) (events : List Event)
    (allowed : system.AllowsAll state events) :
    system.Reachable (events.foldl system.step state) := by
  induction events generalizing state with
  | nil => exact reached
  | cons event events ih => exact ih (reached.next allowed.1) allowed.2

/-- Allowed events carry a run on. -/
theorem Runs.follow {start state : State} {before : List Event}
    (prior : system.Runs start before state) (events : List Event)
    (allowed : system.AllowsAll state events) :
    system.Runs start (before ++ events) (events.foldl system.step state) := by
  induction events generalizing state before with
  | nil => simpa using prior
  | cons event events ih => simpa using ih (prior.step allowed.1) allowed.2

/-- What holds at the start and is kept by every step holds wherever a run leads. -/
theorem Reachable.invariant {kept : State → Prop}
    (start : ∀ state, system.initial state → kept state)
    (step : ∀ state event, kept state → system.allows state event →
      kept (system.step state event))
    {state : State} (reached : system.Reachable state) : kept state := by
  obtain ⟨first, events, run⟩ := reached
  induction run with
  | initial valid => exact start _ valid
  | step prior allowed ih => exact step _ _ ih allowed

/-- A system followed by another: wherever the one is led, the other has been led to what
shows it. -/
theorem Reachable.followed {Other : Type*} {Act : Type*} {other : System Other Act}
    {shown : State → Other → Prop}
    (start : ∀ state, system.initial state → ∃ seen, other.initial seen ∧ shown state seen)
    (step : ∀ state event seen, system.Reachable state → shown state seen →
      system.allows state event → ∃ acts, other.AllowsAll seen acts ∧
        shown (system.step state event) (acts.foldl other.step seen))
    {state : State} (reached : system.Reachable state) :
    ∃ seen, other.Reachable seen ∧ shown state seen := by
  have both : system.Reachable state ∧ ∃ seen, other.Reachable seen ∧ shown state seen := by
    apply Reachable.invariant ?_ ?_ reached
    · intro state valid
      obtain ⟨seen, begins, shows_first⟩ := start state valid
      exact ⟨.start valid, seen, .start begins, shows_first⟩
    · rintro state event ⟨here, seen, led, shows_here⟩ allowed
      obtain ⟨acts, taken, shows_next⟩ := step state event seen here shows_here allowed
      exact ⟨here.next allowed, _, led.follow acts taken, shows_next⟩
  exact both.2

/-- Every step of a run meets a condition where it is taken. -/
def Throughout (system : System State Event) (condition : State → Event → Prop) :
    State → List Event → Prop
  | _, [] => True
  | state, event :: events =>
      condition state event ∧ system.Throughout condition (system.step state event) events

instance Throughout.decidable {condition : State → Event → Prop}
    [decided : ∀ state event, Decidable (condition state event)] :
    ∀ (state : State) (events : List Event), Decidable (system.Throughout condition state events)
  | _, [] => .isTrue trivial
  | state, event :: events =>
      have := decided state event
      have : Decidable (system.Throughout condition (system.step state event) events) :=
        Throughout.decidable _ events
      inferInstanceAs (Decidable (_ ∧ _))

/-- Allowed events that meet a condition all along are allowed by the system kept to it. -/
theorem AllowsAll.guard {weaker condition : State → Event → Prop}
    (meets : ∀ state event, weaker state event → condition state event) {state : State}
    {events : List Event} (allowed : system.AllowsAll state events)
    (along : system.Throughout weaker state events) :
    (system.guarded condition).AllowsAll state events := by
  induction events generalizing state with
  | nil => trivial
  | cons event events ih =>
      exact ⟨⟨allowed.1, meets _ _ along.1⟩, ih allowed.2 along.2⟩

/-- Two conditions that come to the same where the invariant holds come to the same all
along a run. -/
theorem throughout_congr {kept : State → Prop} {first second : State → Event → Prop}
    (step : ∀ state event, kept state → system.allows state event →
      kept (system.step state event))
    (same : ∀ state event, kept state → system.allows state event →
      (first state event ↔ second state event))
    {state : State} (holds : kept state) {events : List Event}
    (allowed : system.AllowsAll state events) :
    system.Throughout first state events ↔ system.Throughout second state events := by
  induction events generalizing state with
  | nil => exact Iff.rfl
  | cons event events ih =>
      obtain ⟨now, later⟩ := allowed
      exact and_congr (same state event holds now) (ih (step state event holds now) later)

/-- What a step keeps exactly if it meets a condition is kept all along a run exactly if
every step meets it. -/
theorem throughout_kept_iff {sound kept : State → Prop} {condition : State → Event → Prop}
    (step : ∀ state event, sound state → system.allows state event →
      sound (system.step state event))
    (same : ∀ state event, sound state → kept state → system.allows state event →
      (kept (system.step state event) ↔ condition state event))
    {state : State} (healthy : sound state) (holds : kept state) {events : List Event}
    (allowed : system.AllowsAll state events) :
    system.Throughout (fun state event => kept (system.step state event)) state events ↔
      system.Throughout condition state events := by
  induction events generalizing state with
  | nil => exact Iff.rfl
  | cons event events ih =>
      obtain ⟨now, later⟩ := allowed
      have here := same state event healthy holds now
      constructor
      · rintro ⟨still, rest⟩
        exact ⟨here.mp still, (ih (step _ _ healthy now) still later).mp rest⟩
      · rintro ⟨met, rest⟩
        exact ⟨here.mpr met, (ih (step _ _ healthy now) (here.mpr met) later).mpr rest⟩

/-- A condition on steps only takes runs away. -/
theorem Reachable.unguarded {condition : State → Event → Prop} {state : State}
    (reached : (system.guarded condition).Reachable state) : system.Reachable state := by
  obtain ⟨start, events, run⟩ := reached
  refine ⟨start, events, ?_⟩
  induction run with
  | initial valid => exact .initial valid
  | step prior allowed ih => exact ih.step allowed.1

/-- Of two conditions on steps, the first may be forgotten. -/
theorem Reachable.loosened {first second : State → Event → Prop} {state : State}
    (reached : ((system.guarded first).guarded second).Reachable state) :
    (system.guarded second).Reachable state := by
  obtain ⟨start, events, run⟩ := reached
  refine ⟨start, events, ?_⟩
  induction run with
  | initial valid => exact .initial valid
  | step prior allowed ih => exact ih.step ⟨allowed.1.1, allowed.2⟩

end System

end Ckmux.Semantics
