import Mathlib.Logic.Basic

/-!
# Computations that return, fail or panic

A function of the modelled language returns a value, returns an error, or
panics. An error is a chain of messages, the outermost first, as an error with
contexts attached prints it. A panic is what an index out of range, an
overflowing subtraction or an unwrapped absent value does.

`Outcome` is the `Except` monad over the two ways of not returning. The
functions below are the primitive operations that can fail or panic, and each
has a lemma that says when it returns.
-/

set_option autoImplicit false

universe u

/-- The two ways a computation does not return a value. -/
inductive Stop where
  | error (chain : List String)
  | panic
  deriving DecidableEq, Repr

/-- A computation that returns a value, fails with an error, or panics. -/
abbrev Outcome (α : Type u) := Except Stop α

namespace Outcome

variable {α β : Type u}

/-- Outcomes of comparable values are comparable. -/
instance {α : Type u} [DecidableEq α] : DecidableEq (Outcome α)
  | .ok a, .ok b => decidable_of_iff (a = b) ⟨congrArg _, Except.ok.inj⟩
  | .error a, .error b => decidable_of_iff (a = b) ⟨congrArg _, Except.error.inj⟩
  | .ok _, .error _ => isFalse fun equal => by cases equal
  | .error _, .ok _ => isFalse fun equal => by cases equal

/-- Fail with one message. -/
def fail (message : String) : Outcome α := .error (.error [message])

/-- Panic. -/
def panicked : Outcome α := .error .panic

/-- Fail with the message unless the condition holds. -/
def ensure (condition : Bool) (message : String) : Outcome PUnit.{u + 1} :=
  if condition then .ok ⟨⟩ else fail message

/-- Attach a message in front of the error of a computation. A panic is not an
error and passes through. -/
def context (message : String) : Outcome α → Outcome α
  | .error (.error chain) => .error (.error (message :: chain))
  | other => other

/-- An absent value is an error. -/
def required (message : String) : Option α → Outcome α
  | some value => .ok value
  | none => fail message

/-- An absent value is a panic. -/
def unwrap : Option α → Outcome α
  | some value => .ok value
  | none => panicked

/-- Run a check on each element in order, up to the first that does not
return. -/
def each (check : α → Outcome PUnit.{u + 1}) : List α → Outcome PUnit.{u + 1}
  | [] => .ok ⟨⟩
  | value :: rest => check value >>= fun _ => each check rest

/-! ## When the primitives return -/

@[simp] theorem pure_eq_ok (value : α) : (pure value : Outcome α) = .ok value := rfl

@[simp] theorem bind_ok (value : α) (next : α → Outcome β) :
    ((.ok value : Outcome α) >>= next) = next value := rfl

@[simp] theorem bind_error (stop : Stop) (next : α → Outcome β) :
    ((.error stop : Outcome α) >>= next) = .error stop := rfl

@[simp] theorem ensure_true (message : String) :
    (ensure true message : Outcome PUnit.{u + 1}) = .ok ⟨⟩ := rfl

@[simp] theorem ensure_false (message : String) :
    (ensure false message : Outcome PUnit.{u + 1}) = fail message := rfl

@[simp] theorem required_some (message : String) (value : α) :
    required message (some value) = .ok value := rfl

@[simp] theorem required_none (message : String) :
    required message (none : Option α) = fail message := rfl

@[simp] theorem unwrap_some (value : α) : unwrap (some value) = .ok value := rfl

@[simp] theorem context_ok (message : String) (value : α) :
    context message (.ok value) = .ok value := rfl

/-- A bind returns exactly when both of its parts do. -/
theorem bind_eq_ok {x : Outcome α} {next : α → Outcome β} {result : β} :
    (x >>= next) = .ok result ↔ ∃ value, x = .ok value ∧ next value = .ok result := by
  cases x with
  | ok value => simp
  | error stop => simp

theorem map_eq_ok {change : α → β} {x : Outcome α} {result : β} :
    change <$> x = .ok result ↔ ∃ value, x = .ok value ∧ change value = result := by
  change (x >>= fun value => .ok (change value)) = .ok result ↔ _
  simp only [bind_eq_ok, Except.ok.injEq]

theorem ensure_eq_ok {condition : Bool} {message : String} {value : PUnit.{u + 1}} :
    ensure condition message = .ok value ↔ condition = true := by
  cases condition with
  | true => simp
  | false => simp [fail]

theorem context_eq_ok {message : String} {x : Outcome α} {value : α} :
    context message x = .ok value ↔ x = .ok value := by
  cases x with
  | ok _ => simp
  | error stop => cases stop <;> simp [context]

theorem context_error (message : String) (stop : Stop) :
    ∃ other, context message (.error stop : Outcome α) = .error other := by
  cases stop <;> exact ⟨_, rfl⟩

theorem context_error_ne_ok (message : String) (stop : Stop) (value : α) :
    context message (.error stop : Outcome α) ≠ .ok value := by
  rw [ne_eq, context_eq_ok]
  nofun

theorem each_eq_ok {check : α → Outcome PUnit.{u + 1}} {values : List α} {result : PUnit.{u + 1}} :
    each check values = .ok result ↔ ∀ value ∈ values, check value = .ok ⟨⟩ := by
  induction values with
  | nil => simp [each]
  | cons value rest ih =>
      rw [each, bind_eq_ok, List.forall_mem_cons, ← ih]
      constructor
      · rintro ⟨_, first, later⟩
        exact ⟨first, later⟩
      · rintro ⟨first, later⟩
        exact ⟨_, first, later⟩

theorem required_eq_ok {message : String} {found : Option α} {value : α} :
    required message found = .ok value ↔ found = some value := by
  cases found with
  | some _ => simp
  | none => simp [fail]

/-! ## Computations that do not panic -/

/-- The computation returns or fails. -/
def Steady (x : Outcome α) : Prop := x ≠ .error .panic

theorem steady_ok (value : α) : Steady (.ok value : Outcome α) := nofun

theorem steady_fail (message : String) : Steady (fail message : Outcome α) := nofun

theorem steady_ensure (condition : Bool) (message : String) :
    Steady (ensure condition message : Outcome PUnit.{u + 1}) := by
  cases condition with
  | true => exact steady_ok _
  | false => exact steady_fail message

theorem steady_required (message : String) (found : Option α) :
    Steady (required message found) := by
  cases found with
  | some value => exact steady_ok value
  | none => exact steady_fail message

/-- The error of a steady computation is no panic, whatever it becomes the result of. -/
theorem Steady.of_error {x : Outcome α} {stop : Stop} (steady : Steady x)
    (failed : x = .error stop) : Steady (.error stop : Outcome β) := by
  rintro ⟨rfl⟩
  exact steady failed

theorem Steady.context {x : Outcome α} (steady : Steady x) (message : String) :
    Steady (Outcome.context message x) := by
  match x with
  | .ok value => exact steady_ok value
  | .error (.error chain) => nofun
  | .error .panic => exact absurd rfl steady

/-- **A sequence is steady** when both of its parts are. The second one may use what the
first one returned. -/
theorem Steady.bind {x : Outcome α} {next : α → Outcome β} (first : Steady x)
    (second : ∀ value, x = .ok value → Steady (next value)) : Steady (x >>= next) := by
  match x with
  | .ok value => exact second value rfl
  | .error (.error chain) => nofun
  | .error .panic => exact absurd rfl first

theorem steady_each {check : α → Outcome PUnit.{u + 1}} {values : List α}
    (checks : ∀ value ∈ values, Steady (check value)) : Steady (each check values) := by
  induction values with
  | nil => exact steady_ok _
  | cons value rest ih =>
      rw [List.forall_mem_cons] at checks
      exact checks.1.bind fun _ _ => ih checks.2

/-- A computed check of a result gives a result that passes it. -/
theorem exists_of_any {x : Outcome α} {check : α → Bool} (passed : x.toOption.any check = true) :
    ∃ value, x = .ok value ∧ check value = true := by
  cases x with
  | ok value => exact ⟨value, rfl, passed⟩
  | error stop => cases passed

end Outcome
