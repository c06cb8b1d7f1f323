import Mathlib.Data.List.Basic
import Std.Data.ExtTreeMap.Lemmas

/-!
# Values that arrive in fragments

A value is sent as fragments, each under the key of the value, and the
fragments of different values may be mixed. The value of a key is the
concatenation of its fragments in order, and a key without fragments has no
value (`gather`). A list of fragments cuts a family of values when it holds each
of them in one or more pieces and nothing else (`Cuts`); gathering undoes every
cut (`cuts_iff`).

`absorb` collects fragments into a map, appending to what the map holds
(`getElem?_absorb`). Collecting into the empty map gives exactly the gathered
values (`getElem?_absorb_empty`).
-/

set_option autoImplicit false

namespace Fragments

universe u v

variable {κ : Type u} {α : Type v}

section Gather

variable [DecidableEq κ]

/-- The value of a key: its fragments in order, put together. -/
def gather (key : κ) : List (κ × List α) → Option (List α)
  | [] => none
  | (other, piece) :: rest =>
      if other = key then some (piece ++ (gather key rest).getD []) else gather key rest

@[simp] theorem gather_nil (key : κ) : gather key ([] : List (κ × List α)) = none := rfl

theorem gather_cons_self (key : κ) (piece : List α) (rest : List (κ × List α)) :
    gather key ((key, piece) :: rest) = some (piece ++ (gather key rest).getD []) :=
  if_pos rfl

theorem gather_cons_of_ne {key other : κ} (different : other ≠ key) (piece : List α)
    (rest : List (κ × List α)) : gather key ((other, piece) :: rest) = gather key rest :=
  if_neg different

/-- Appending an absent value to a value, or two values to each other. -/
theorem merge_getD (first second : Option (List α)) :
    (Option.merge (· ++ ·) first second).getD [] = first.getD [] ++ second.getD [] := by
  cases first <;> cases second <;> simp

theorem gather_append (key : κ) (first second : List (κ × List α)) :
    gather key (first ++ second) =
      Option.merge (· ++ ·) (gather key first) (gather key second) := by
  induction first with
  | nil => simp
  | cons fragment first ih =>
      obtain ⟨other, piece⟩ := fragment
      rw [List.cons_append]
      by_cases same : other = key
      · subst same
        rw [gather_cons_self, gather_cons_self, ih, merge_getD]
        cases gather other second <;> simp
      · rw [gather_cons_of_ne same, gather_cons_of_ne same, ih]

/-- A key has a value exactly when it has a fragment. -/
theorem gather_eq_none_iff {key : κ} {fragments : List (κ × List α)} :
    gather key fragments = none ↔ ∀ fragment ∈ fragments, fragment.1 ≠ key := by
  induction fragments with
  | nil => simp
  | cons fragment fragments ih =>
      obtain ⟨other, piece⟩ := fragment
      by_cases same : other = key
      · subst same
        simp [gather_cons_self]
      · simp [gather_cons_of_ne same, ih, same]

/-- Fragments under other keys do not count, wherever they are put. -/
theorem gather_insert {key : κ} {inserted : List (κ × List α)}
    (others : ∀ fragment ∈ inserted, fragment.1 ≠ key) (first second : List (κ × List α)) :
    gather key (first ++ (inserted ++ second)) = gather key (first ++ second) := by
  rw [gather_append, gather_append, gather_eq_none_iff.mpr others, Option.merge_none_left,
    ← gather_append]

/-- The fragments of one value gather to it. A value without fragments is
absent. -/
theorem gather_map_self (key : κ) (pieces : List (List α)) :
    gather key (pieces.map fun piece => (key, piece)) =
      if pieces = [] then none else some pieces.flatten := by
  induction pieces with
  | nil => simp
  | cons piece pieces ih =>
      rw [List.map_cons, gather_cons_self, ih, if_neg (List.cons_ne_nil _ _), List.flatten_cons]
      by_cases last : pieces = []
      · subst last
        simp
      · rw [if_neg last]
        rfl

theorem gather_map_of_ne {key other : κ} (different : other ≠ key) (pieces : List (List α)) :
    gather key (pieces.map fun piece => (other, piece)) = none := by
  rw [gather_eq_none_iff]
  intro fragment member
  obtain ⟨piece, -, rfl⟩ := List.mem_map.mp member
  exact different

/-! ## Cutting values -/

/-- The pieces under a key, in order. -/
def pieces (key : κ) (fragments : List (κ × List α)) : List (List α) :=
  (fragments.filter fun fragment => fragment.1 = key).map Prod.snd

theorem gather_eq_pieces (key : κ) (fragments : List (κ × List α)) :
    gather key fragments =
      if pieces key fragments = [] then none else some (pieces key fragments).flatten := by
  induction fragments with
  | nil => rfl
  | cons fragment fragments ih =>
      obtain ⟨other, piece⟩ := fragment
      by_cases same : other = key
      · have head : pieces key ((other, piece) :: fragments) = piece :: pieces key fragments := by
          rw [pieces, List.filter_cons_of_pos (by simpa using same)]
          rfl
        subst same
        rw [gather_cons_self, ih, head, if_neg (List.cons_ne_nil _ _), List.flatten_cons]
        by_cases last : pieces other fragments = []
        · rw [if_pos last, last]
          rfl
        · rw [if_neg last]
          rfl
      · have head : pieces key ((other, piece) :: fragments) = pieces key fragments := by
          rw [pieces, List.filter_cons_of_neg (by simpa using same)]
          rfl
        rw [gather_cons_of_ne same, ih, head]

/-- The fragments are the values, each cut into one or more pieces, with the
pieces of different values mixed in any way. -/
structure Cuts (values : κ → Option (List α)) (fragments : List (κ × List α)) : Prop where
  present : ∀ key value, values key = some value →
    pieces key fragments ≠ [] ∧ (pieces key fragments).flatten = value
  absent : ∀ key, values key = none → pieces key fragments = []

/-- **Gathering undoes every cut.** -/
theorem cuts_iff {values : κ → Option (List α)} {fragments : List (κ × List α)} :
    Cuts values fragments ↔ ∀ key, values key = gather key fragments := by
  constructor
  · intro cuts key
    rw [gather_eq_pieces]
    cases found : values key with
    | none => rw [if_pos (cuts.absent key found)]
    | some value =>
        obtain ⟨nonempty, whole⟩ := cuts.present key value found
        rw [if_neg nonempty, whole]
  · intro gathered
    refine ⟨?_, ?_⟩
    · intro key value found
      rw [gathered, gather_eq_pieces] at found
      by_cases empty : pieces key fragments = []
      · rw [if_pos empty] at found
        cases found
      · rw [if_neg empty] at found
        exact ⟨empty, Option.some.inj found⟩
    · intro key missing
      rw [gathered, gather_eq_pieces] at missing
      by_contra nonempty
      rw [if_neg nonempty] at missing
      cases missing

end Gather

/-! ## Collecting into a map -/

section Absorb

variable [Ord κ] [Std.TransOrd κ]

/-- Append a piece to the value of a key, starting it where there is none. -/
def append (values : Std.ExtTreeMap κ (List α)) (key : κ) (piece : List α) :
    Std.ExtTreeMap κ (List α) :=
  values.alter key fun held => some (held.getD [] ++ piece)

/-- Collect fragments in order. -/
def absorb (values : Std.ExtTreeMap κ (List α)) (fragments : List (κ × List α)) :
    Std.ExtTreeMap κ (List α) :=
  fragments.foldl (fun held fragment => append held fragment.1 fragment.2) values

@[simp] theorem absorb_nil (values : Std.ExtTreeMap κ (List α)) : absorb values [] = values := rfl

@[simp] theorem absorb_cons (values : Std.ExtTreeMap κ (List α)) (fragment : κ × List α)
    (fragments : List (κ × List α)) :
    absorb values (fragment :: fragments) =
      absorb (append values fragment.1 fragment.2) fragments := rfl

theorem absorb_append (values : Std.ExtTreeMap κ (List α)) (first second : List (κ × List α)) :
    absorb values (first ++ second) = absorb (absorb values first) second :=
  List.foldl_append

variable [Std.LawfulEqOrd κ] [DecidableEq κ]

theorem getElem?_append (values : Std.ExtTreeMap κ (List α)) (key other : κ) (piece : List α) :
    (append values key piece)[other]? =
      if key = other then some (values[other]?.getD [] ++ piece) else values[other]? := by
  rw [append, Std.ExtTreeMap.getElem?_alter]
  by_cases same : key = other
  · subst same
    simp
  · rw [if_neg same, if_neg]
    simpa using same

/-- **What a map holds after collecting**: what it held, and the fragments of
the key behind it. -/
theorem getElem?_absorb (values : Std.ExtTreeMap κ (List α)) (fragments : List (κ × List α))
    (key : κ) :
    (absorb values fragments)[key]? =
      Option.merge (· ++ ·) values[key]? (gather key fragments) := by
  induction fragments generalizing values with
  | nil => simp
  | cons fragment fragments ih =>
      obtain ⟨other, piece⟩ := fragment
      rw [absorb_cons, ih, getElem?_append]
      by_cases same : other = key
      · subst same
        rw [if_pos rfl, gather_cons_self]
        cases values[other]? <;> cases gather other fragments <;> simp
      · rw [if_neg same, gather_cons_of_ne same]

theorem getElem?_absorb_empty (fragments : List (κ × List α)) (key : κ) :
    (absorb (∅ : Std.ExtTreeMap κ (List α)) fragments)[key]? = gather key fragments := by
  rw [getElem?_absorb, Std.ExtTreeMap.getElem?_empty, Option.merge_none_left]

end Absorb

end Fragments
