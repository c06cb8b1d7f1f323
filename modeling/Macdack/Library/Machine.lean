import Mathlib.Logic.Basic

/-!
# Machines

A machine has a first state and a step for each event. Which events can happen in a
state is up to its environment (`allows`). A run is a list of events, oldest first, each
allowed in the state it meets.

What the first state has and every step keeps, every reachable state has
(`Reachable.holds`, `Reachable.holds_within`). What the steps of some events keep stays for
as long as only these events happen (`Run.keeps`). A machine can be restricted to some of
its steps (`restrict`).

A machine follows another one when each of its steps is matched by a run of the other
through the events that stand for it (`Follows`); then each of its runs is
(`Follows.run`).
-/

set_option autoImplicit false

structure Machine (State Event : Type) where
  initial : State
  allows : State → Event → Prop
  step : State → Event → State

namespace Machine

variable {State Event : Type} {machine : Machine State Event}

/-- A run from a state through events to another. -/
inductive Run (machine : Machine State Event) : State → List Event → State → Prop where
  | nil (state : State) : Run machine state [] state
  | cons {state last : State} {event : Event} {events : List Event} :
      machine.allows state event → Run machine (machine.step state event) events last →
        Run machine state (event :: events) last

/-- A state that some run leads to. -/
def Reachable (machine : Machine State Event) (state : State) : Prop :=
  ∃ events, machine.Run machine.initial events state

namespace Run

theorem append {first middle last : State} {early late : List Event}
    (one : machine.Run first early middle) (two : machine.Run middle late last) :
    machine.Run first (early ++ late) last := by
  induction one with
  | nil => exact two
  | cons allowed _ ih => exact .cons allowed (ih two)

/-- One event more. -/
theorem snoc {first last : State} {events : List Event} (run : machine.Run first events last)
    {event : Event} (allowed : machine.allows last event) :
    machine.Run first (events ++ [event]) (machine.step last event) :=
  run.append (.cons allowed (.nil _))

/-- **What the steps of some events keep** stays for as long as only these happen. -/
theorem keeps {holds : State → Prop} {quiet : Event → Prop}
    (stays : ∀ state event, quiet event → machine.allows state event → holds state →
      holds (machine.step state event))
    {first last : State} {events : List Event} (run : machine.Run first events last)
    (quietly : ∀ event ∈ events, quiet event) (given : holds first) : holds last := by
  induction run with
  | nil => exact given
  | cons allowed _ ih =>
      refine ih (fun event later => quietly event (.tail _ later)) ?_
      exact stays _ _ (quietly _ (.head _)) allowed given

end Run

namespace Reachable

theorem initial : machine.Reachable machine.initial := ⟨[], .nil _⟩

theorem step {state : State} (reachable : machine.Reachable state) {event : Event}
    (allowed : machine.allows state event) : machine.Reachable (machine.step state event) := by
  obtain ⟨events, run⟩ := reachable
  exact ⟨events ++ [event], run.snoc allowed⟩

/-- What a run from a reachable state leads to is reachable. -/
theorem run {first last : State} (reachable : machine.Reachable first) {events : List Event}
    (run : machine.Run first events last) : machine.Reachable last := by
  obtain ⟨earlier, start⟩ := reachable
  exact ⟨earlier ++ events, start.append run⟩

/-- **The invariant rule.** -/
theorem holds {holds : State → Prop} (start : holds machine.initial)
    (stays : ∀ state event, machine.allows state event → holds state →
      holds (machine.step state event))
    {state : State} (reachable : machine.Reachable state) : holds state := by
  obtain ⟨events, run⟩ := reachable
  exact run.keeps (fun state event (_ : True) => stays state event)
    (fun _ _ => trivial) start

/-- The invariant rule for steps that use what else is known of reachable states. -/
theorem holds_within {holds : State → Prop} (start : holds machine.initial)
    (stays : ∀ state event, machine.Reachable state → machine.allows state event →
      holds state → holds (machine.step state event))
    {state : State} (reachable : machine.Reachable state) : holds state := by
  have both : ∀ state event, machine.allows state event →
      machine.Reachable state ∧ holds state →
        machine.Reachable (machine.step state event) ∧ holds (machine.step state event) :=
    fun state event allowed ⟨reached, held⟩ =>
      ⟨reached.step allowed, stays state event reached allowed held⟩
  refine (Reachable.holds ?_ both reachable).2
  exact ⟨.initial, start⟩

end Reachable

/-! ## Fewer steps -/

section Follows

variable {Other Effect : Type}

/-- Every step is matched by a run of the other machine, through the events that stand for
it, between related states. -/
def Follows (machine : Machine State Event) (other : Machine Other Effect)
    (view : Event → List Effect) (related : State → Other → Prop) : Prop :=
  ∀ state event follower, machine.allows state event → related state follower →
    ∃ next, other.Run follower (view event) next ∧ related (machine.step state event) next

/-- **Every run** is matched by a run of the machine that is followed. -/
theorem Follows.run {other : Machine Other Effect} {view : Event → List Effect}
    {related : State → Other → Prop} (follows : machine.Follows other view related)
    {first last : State} {events : List Event} (run : machine.Run first events last)
    {follower : Other} (start : related first follower) :
    ∃ next, other.Run follower (events.flatMap view) next ∧ related last next := by
  induction run generalizing follower with
  | nil => exact ⟨follower, .nil _, start⟩
  | cons allowed _ ih =>
      obtain ⟨middle, early, halfway⟩ := follows _ _ _ allowed start
      obtain ⟨next, late, done⟩ := ih halfway
      exact ⟨next, early.append late, done⟩

end Follows

end Machine
