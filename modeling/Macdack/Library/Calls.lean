import Mathlib.Logic.Basic

/-!
# Programs over calls that can fail

A program that works on an outside state through calls is a tree: it returns a
value, or it makes a call and goes on with the answer (`Program`). A `Device`
says how the state answers a call and what becomes of it. Running a program gives
its value and the state it leaves, and `visited` lists every state it passes, which
are the states that an interruption can leave behind.

`Holds` is a triple with a fourth part for interruptions: from a state of the
precondition the program ends in the postcondition, and `always` holds of every
state it passes. The rules `Holds.ret`, `Holds.ask`, `Holds.bind` and
`Holds.attempt` follow the shape of a program, the last one for programs that stop
at the first error. `Makes` bounds the calls of a program, and what each of these keeps
the program keeps (`Holds.of_makes`).
-/

set_option autoImplicit false

namespace Calls

/-- A program that returns a value or makes a call and goes on. -/
inductive Program (Call : Type) (Answer : Call → Type) (α : Type) : Type where
  | ret (value : α)
  | call (request : Call) (next : Answer request → Program Call Answer α)

/-- What a state answers to a call, and the state after it. -/
abbrev Device (Call : Type) (Answer : Call → Type) (State : Type) :=
  (request : Call) → State → Answer request × State

variable {Call : Type} {Answer : Call → Type} {State α β ε : Type}

namespace Program

def bind (next : α → Program Call Answer β) : Program Call Answer α → Program Call Answer β
  | ret value => next value
  | call request rest => call request fun answer => (rest answer).bind next

instance : Monad (Program Call Answer) where
  pure := ret
  bind program next := program.bind next

/-- The program that makes one call. -/
def ask (request : Call) : Program Call Answer (Answer request) := call request ret

/-- The value of a run and the state it leaves. -/
def run (device : Device Call Answer State) : Program Call Answer α → State → α × State
  | ret value, state => (value, state)
  | call request next, state =>
      run device (next (device request state).1) (device request state).2

/-- The states that a run passes, from the first to the last. -/
def visited (device : Device Call Answer State) : Program Call Answer α → State → List State
  | ret _, state => [state]
  | call request next, state =>
      state :: visited device (next (device request state).1) (device request state).2

variable (device : Device Call Answer State)

@[simp] theorem run_pure (value : α) (state : State) :
    run device (pure value : Program Call Answer α) state = (value, state) := rfl

@[simp] theorem run_ask (request : Call) (state : State) :
    run device (ask request) state = device request state := rfl

/-- **A sequence runs its parts one after the other.** -/
@[simp] theorem run_bind (program : Program Call Answer α) (next : α → Program Call Answer β)
    (state : State) :
    run device (program >>= next) state =
      run device (next (run device program state).1) (run device program state).2 := by
  induction program generalizing state with
  | ret value => rfl
  | call request rest ih => exact ih (device request state).1 (device request state).2

/-- A state that a sequence passes is passed by one of its parts. -/
theorem mem_visited_bind {program : Program Call Answer α} {next : α → Program Call Answer β}
    {state seen : State} (member : seen ∈ visited device (program >>= next) state) :
    seen ∈ visited device program state ∨
      seen ∈ visited device (next (run device program state).1) (run device program state).2 := by
  induction program generalizing state with
  | ret value => exact .inr member
  | call request rest ih =>
      rcases List.mem_cons.mp member with rfl | later
      · exact .inl List.mem_cons_self
      · rcases ih (device request state).1 later with first | second
        · exact .inl (List.mem_cons_of_mem _ first)
        · exact .inr second

/-- Every call of the program is an allowed one. -/
def Makes (allowed : Call → Prop) : Program Call Answer α → Prop
  | ret _ => True
  | call request next => allowed request ∧ ∀ answer, (next answer).Makes allowed

namespace Makes

variable {allowed : Call → Prop}

theorem ask {request : Call} (isAllowed : allowed request) :
    (Program.ask request : Program Call Answer (Answer request)).Makes allowed :=
  ⟨isAllowed, fun _ => trivial⟩

theorem bind {program : Program Call Answer α} {next : α → Program Call Answer β}
    (first : program.Makes allowed) (second : ∀ value, (next value).Makes allowed) :
    (program >>= next).Makes allowed := by
  induction program with
  | ret value => exact second value
  | call request rest ih => exact ⟨first.1, fun answer => ih answer (first.2 answer)⟩

/-- A sequence that stops at the first error. -/
theorem attempt {program : ExceptT ε (Program Call Answer) α}
    {next : α → ExceptT ε (Program Call Answer) β} (first : program.run.Makes allowed)
    (second : ∀ value, (next value).run.Makes allowed) :
    (program >>= next).run.Makes allowed := by
  rw [ExceptT.run_bind]
  refine first.bind ?_
  rintro (error | value)
  · exact trivial
  · exact second value

end Makes

end Program

/-! ## Triples -/

/-- From every state of `pre` the program ends in `post`, and every state it passes
is in `always`. -/
structure Holds (device : Device Call Answer State) (pre : State → Prop)
    (program : Program Call Answer α) (post : α → State → Prop) (always : State → Prop) :
    Prop where
  ends : ∀ state, pre state → post (program.run device state).1 (program.run device state).2
  passes : ∀ state, pre state → ∀ seen ∈ program.visited device state, always seen

/-- What holds after a part of a sequence that stops at the first error: `mid` when
the sequence goes on, and `post` of the whole when it stops. -/
def Attempted (mid : α → State → Prop) (post : Except ε β → State → Prop)
    (always : State → Prop) : Except ε α → State → Prop
  | .ok value, state => mid value state
  | .error error, state => post (.error error) state ∧ always state

namespace Holds

variable {device : Device Call Answer State} {pre : State → Prop} {always : State → Prop}
  {post : β → State → Prop}

theorem ret {value : β} (given : ∀ state, pre state → post value state ∧ always state) :
    Holds device pre (.ret value) post always where
  ends := fun state holds => (given state holds).1
  passes := by
    intro state holds seen member
    rw [List.mem_singleton.mp member]
    exact (given state holds).2

/-- One call. -/
theorem ask {request : Call} {post : Answer request → State → Prop}
    (before : ∀ state, pre state → always state)
    (after : ∀ state, pre state →
      post (device request state).1 (device request state).2 ∧ always (device request state).2) :
    Holds device pre (.ask request) post always where
  ends := fun state holds => (after state holds).1
  passes := by
    intro state holds seen member
    rcases List.mem_cons.mp member with rfl | later
    · exact before _ holds
    · rw [List.mem_singleton.mp later]
      exact (after state holds).2

theorem bind {program : Program Call Answer α} {next : α → Program Call Answer β}
    (mid : α → State → Prop) (first : Holds device pre program mid always)
    (second : ∀ value, Holds device (mid value) (next value) post always) :
    Holds device pre (program >>= next) post always where
  ends := by
    intro state holds
    rw [Program.run_bind]
    exact (second _).ends _ (first.ends state holds)
  passes := by
    intro state holds seen member
    rcases Program.mem_visited_bind device member with early | late
    · exact first.passes state holds seen early
    · exact (second _).passes _ (first.ends state holds) seen late

/-- A sequence that stops at the first error. An error of the first part is the
result of the whole. -/
theorem attempt {program : ExceptT ε (Program Call Answer) α}
    {next : α → ExceptT ε (Program Call Answer) β} {post : Except ε β → State → Prop}
    (mid : α → State → Prop)
    (first : Holds device pre program.run (Attempted mid post always) always)
    (second : ∀ value, Holds device (mid value) (next value).run post always) :
    Holds device pre (program >>= next).run post always := by
  rw [ExceptT.run_bind]
  refine Holds.bind _ first ?_
  rintro (error | value)
  · exact Holds.ret fun state holds => holds
  · exact second value

/-- **What every allowed call keeps, the program keeps.** -/
theorem of_makes {allowed : Call → Prop} {program : Program Call Answer β}
    (makes : program.Makes allowed)
    (keeps : ∀ request, allowed request → ∀ state, pre state → pre (device request state).2) :
    Holds device pre program (fun _ => pre) pre := by
  induction program with
  | ret value => exact Holds.ret fun state holds => ⟨holds, holds⟩
  | call request next ih =>
      have first : Holds device pre (Program.ask request) (fun _ => pre) pre :=
        Holds.ask (fun _ holds => holds)
          fun state holds => ⟨keeps request makes.1 state holds, keeps request makes.1 state holds⟩
      exact first.bind _ fun answer => ih answer (makes.2 answer)

/-- A precondition that is not about the state is a hypothesis. -/
theorem assuming {program : Program Call Answer β} {fact : Prop}
    (holds : fact → Holds device pre program post always) :
    Holds device (fun state => fact ∧ pre state) program post always where
  ends := fun state given => (holds given.1).ends state given.2
  passes := fun state given => (holds given.1).passes state given.2

/-- Weaker claims about more states. -/
theorem weaken {program : Program Call Answer β} {pre' : State → Prop}
    {post' : β → State → Prop} {always' : State → Prop}
    (holds : Holds device pre program post always) (narrows : ∀ state, pre' state → pre state)
    (widens : ∀ value state, post value state → post' value state)
    (covers : ∀ state, always state → always' state) :
    Holds device pre' program post' always' where
  ends := fun state given => widens _ _ (holds.ends state (narrows state given))
  passes := fun state given seen member =>
    covers seen (holds.passes state (narrows state given) seen member)

end Holds

end Calls
