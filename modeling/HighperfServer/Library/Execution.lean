import Mathlib.Data.List.Basic

namespace HighperfServer.Library

/-- A machine fixes an initial state and a guarded step. -/
structure Machine (State Event : Type) where
  initial : State
  step : State → Event → Option State

namespace Machine
variable {State Event : Type} (machine : Machine State Event)

/-- A run replays the events in order and fails at a disabled event. -/
def run : State → List Event → Option State
  | state, [] => some state
  | state, event :: rest => (machine.step state event).bind fun next => run next rest

/-- A reachable state ends some run from the initial state. -/
def Reachable (state : State) : Prop :=
  ∃ events, machine.run machine.initial events = some state

/-- Every enabled step of the run meets the guard in the state before it. -/
def Meets (guard : State → Event → Prop) : State → List Event → Prop
  | _, [] => True
  | state, event :: rest => ∀ next, machine.step state event = some next →
      guard state event ∧ Meets guard next rest

/-- The property holds in every state that the run visits. -/
def Always (property : State → Prop) : State → List Event → Prop
  | state, [] => property state
  | state, event :: rest => property state ∧
      ∀ next, machine.step state event = some next → Always property next rest

@[simp] theorem run_nil (state : State) : machine.run state [] = some state := rfl

@[simp] theorem run_cons (state : State) (event : Event) (rest : List Event) :
    machine.run state (event :: rest) =
      (machine.step state event).bind fun next => machine.run next rest := rfl

/-- A run splits at every position of its event list. -/
theorem run_append (state : State) (first second : List Event) :
    machine.run state (first ++ second) =
      (machine.run state first).bind fun middle => machine.run middle second := by
  induction first generalizing state with
  | nil => rfl
  | cons event rest ih =>
      simp only [List.cons_append, run_cons, ih, Option.bind_assoc]

/-- An enabled step and the run after it form a run. -/
theorem run_step {state next final : State} {event : Event} {rest : List Event}
    (enabled : machine.step state event = some next) (tail : machine.run next rest = some final) :
    machine.run state (event :: rest) = some final := by
  rw [run_cons, enabled]
  exact tail

/-- A run from a reachable state ends in a reachable state. -/
theorem Reachable.run {machine : Machine State Event} {state final : State} {events : List Event}
    (reachable : machine.Reachable state) (ran : machine.run state events = some final) :
    machine.Reachable final := by
  obtain ⟨before, reached⟩ := reachable
  refine ⟨before ++ events, ?_⟩
  rw [run_append, reached]
  exact ran

/-- An invariant of every step is an invariant of every run. -/
theorem run_invariant {property : State → Prop}
    (preserved : ∀ state event next, property state →
      machine.step state event = some next → property next)
    {state final : State} {events : List Event} (holds : property state)
    (ran : machine.run state events = some final) : property final := by
  induction events generalizing state with
  | nil =>
      obtain rfl := Option.some.inj ran
      exact holds
  | cons event rest ih =>
      obtain ⟨next, enabled, tail⟩ := Option.bind_eq_some_iff.mp ran
      exact ih (preserved state event next holds enabled) tail

/-- What every step carries from the past to the past with its event holds of every run. -/
theorem run_history {property : List Event → State → Prop}
    (preserved : ∀ past state event next, property past state →
      machine.step state event = some next → property (past ++ [event]) next)
    {past events : List Event} {state final : State} (holds : property past state)
    (ran : machine.run state events = some final) : property (past ++ events) final := by
  induction events generalizing past state with
  | nil =>
      obtain rfl := Option.some.inj ran
      rwa [List.append_nil]
  | cons event rest ih =>
      obtain ⟨next, enabled, tail⟩ := Option.bind_eq_some_iff.mp ran
      have longer := ih (preserved past state event next holds enabled) tail
      rwa [List.append_assoc] at longer

/-- An inductive invariant holds in every reachable state. -/
theorem reachable_invariant {property : State → Prop} (start : property machine.initial)
    (preserved : ∀ state event next, property state →
      machine.step state event = some next → property next)
    {state : State} (reachable : machine.Reachable state) : property state := by
  obtain ⟨events, ran⟩ := reachable
  exact machine.run_invariant preserved start ran

/-- A part that stays or takes its own steps is reachable whenever the whole is. -/
theorem Reachable.project {Part PartEvent : Type} {machine : Machine State Event}
    {part : Machine Part PartEvent} (view : State → Part)
    (start : view machine.initial = part.initial)
    (steps : ∀ state event next, machine.step state event = some next →
      view next = view state ∨ ∃ inner, part.step (view state) inner = some (view next))
    {state : State} (reachable : machine.Reachable state) : part.Reachable (view state) := by
  have initial : part.Reachable (view machine.initial) := ⟨[], by rw [start]; rfl⟩
  apply machine.reachable_invariant initial _ reachable
  intro before event next reached enabled
  rcases steps before event next enabled with same | ⟨inner, moved⟩
  · rw [same]
    exact reached
  · have one : part.run (view before) [inner] = some (view next) := part.run_step moved rfl
    exact reached.run one

/-- A decidable guard is checked along the run. -/
instance decidableMeets (guard : State → Event → Prop) [∀ state event, Decidable (guard state event)] :
    (state : State) → (events : List Event) → Decidable (machine.Meets guard state events)
  | _, [] => .isTrue trivial
  | state, event :: rest =>
      match stepped : machine.step state event with
      | none => .isTrue fun _ enabled => absurd (stepped.symm.trans enabled) (by simp)
      | some next =>
          have := decidableMeets guard next rest
          decidable_of_iff (guard state event ∧ machine.Meets guard next rest)
            ⟨fun both _ enabled => Option.some.inj (stepped.symm.trans enabled) ▸ both,
              fun meets => meets next stepped⟩

/-- A guard that keeps an invariant carries every consequence of the invariant along the run. -/
theorem Meets.consequence {machine : Machine State Event} {guard result : State → Event → Prop}
    {property : State → Prop}
    (preserved : ∀ state event next, property state → guard state event →
      machine.step state event = some next → result state event ∧ property next)
    {state : State} {events : List Event} (holds : property state)
    (meets : machine.Meets guard state events) : machine.Meets result state events := by
  induction events generalizing state with
  | nil => trivial
  | cons event rest ih =>
      intro next enabled
      obtain ⟨guarded, meetsTail⟩ := meets next enabled
      obtain ⟨now, kept⟩ := preserved state event next holds guarded enabled
      exact ⟨now, ih kept meetsTail⟩

/-- A guard that keeps an invariant keeps what the invariant implies in every state of the run. -/
theorem Meets.always {machine : Machine State Event} {guard : State → Event → Prop}
    {property result : State → Prop}
    (preserved : ∀ state event next, property state → guard state event →
      machine.step state event = some next → property next)
    (implies : ∀ state, property state → result state) {state : State} {events : List Event}
    (holds : property state) (meets : machine.Meets guard state events) :
    machine.Always result state events := by
  induction events generalizing state with
  | nil => exact implies state holds
  | cons event rest ih =>
      refine ⟨implies state holds, ?_⟩
      intro next enabled
      obtain ⟨guarded, meetsTail⟩ := meets next enabled
      exact ih (preserved state event next holds guarded enabled) meetsTail

/-- What holds in every state of a run holds in its last one. -/
theorem Always.last {machine : Machine State Event} {property : State → Prop}
    {state final : State} {events : List Event} (always : machine.Always property state events)
    (ran : machine.run state events = some final) : property final := by
  induction events generalizing state with
  | nil =>
      obtain rfl := Option.some.inj ran
      exact always
  | cons event rest ih =>
      obtain ⟨next, enabled, tail⟩ := Option.bind_eq_some_iff.mp ran
      exact ih (always.2 next enabled) tail

/-- A guard that decides each step of the invariant states decides the property along the run. -/
theorem always_iff_meets {guard : State → Event → Prop} {invariant property : State → Prop}
    (kept : ∀ state event next, invariant state → machine.step state event = some next →
      invariant next)
    (decides : ∀ state event next, invariant state → property state →
      machine.step state event = some next → (guard state event ↔ property next))
    {state : State} (holds : invariant state) (start : property state) (events : List Event) :
    machine.Always property state events ↔ machine.Meets guard state events := by
  induction events generalizing state with
  | nil => exact ⟨fun _ => trivial, fun _ => start⟩
  | cons event rest ih =>
      constructor
      · intro always next enabled
        have visited := always.2 next enabled
        have reached : property next := by
          cases rest with
          | nil => exact visited
          | cons _ _ => exact visited.1
        have later := kept state event next holds enabled
        exact ⟨(decides state event next holds start enabled).mpr reached,
          (ih later reached).mp visited⟩
      · intro meets
        refine ⟨start, ?_⟩
        intro next enabled
        obtain ⟨guarded, meetsTail⟩ := meets next enabled
        have reached := (decides state event next holds start enabled).mp guarded
        exact (ih (kept state event next holds enabled) reached).mpr meetsTail

end Machine

end HighperfServer.Library
