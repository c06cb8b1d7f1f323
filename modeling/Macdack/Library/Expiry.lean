import Mathlib.Data.List.Basic
import Mathlib.Data.Option.Basic

/-!
# Entries that expire

A table counts the uses of keys. An entry may go when its key has not been used for
`ttl`, and going through all entries is a cleanup, which is made when the table is used
or looked at and the last cleanup is at least `period` ago (`Table.clean`).

A history is the list of what happened, the newest first. The table of an ordered
history is described by the last uses and the last cleanup alone (`Tracks`,
`tracks_run`). So an entry is there for at least `ttl` (`run_use_recent`,
`run_look_recent`) and gone after `ttl + period` (`run_use_stale`, `run_look_stale`),
and between two cleanups at least `period` passes (`cleanups_spaced`).
-/

set_option autoImplicit false

namespace Expiry

universe u

variable {κ : Type u}

/-! ## Tables and what happens to them -/

/-- Each key's number of uses with the time of the last one, and the time of the last
cleanup. -/
structure Table (κ : Type u) where
  entries : κ → Option (ℕ × ℕ)
  cleaned : Option ℕ

inductive Event (κ : Type u) where
  | use (key : κ) (now : ℕ)
  | look (now : ℕ)

/-- When an event happens. -/
def Event.time : Event κ → ℕ
  | .use _ now => now
  | .look now => now

namespace Table

def empty : Table κ := ⟨fun _ => none, none⟩

/-- The last cleanup, if there was one, is at least `period` ago. -/
def due (period : ℕ) (table : Table κ) (now : ℕ) : Bool :=
  table.cleaned.all fun last => decide (period ≤ now - last)

/-- A cleanup, if it is time for one. -/
def clean (ttl period : ℕ) (table : Table κ) (now : ℕ) : Table κ :=
  if table.due period now then
    ⟨fun key => (table.entries key).filter fun entry => decide (now - entry.2 < ttl), some now⟩
  else table

variable [DecidableEq κ]

/-- One more use of a key. -/
def use (table : Table κ) (key : κ) (now : ℕ) : Table κ where
  entries other :=
    if key = other then some (((table.entries key).getD (0, now)).1 + 1, now)
    else table.entries other
  cleaned := table.cleaned

def step (ttl period : ℕ) (table : Table κ) : Event κ → Table κ
  | .use key now => (table.clean ttl period now).use key now
  | .look now => table.clean ttl period now

@[simp] theorem use_self (table : Table κ) (key : κ) (now : ℕ) :
    (table.use key now).entries key =
      some (((table.entries key).getD (0, now)).1 + 1, now) :=
  if_pos rfl

theorem use_of_ne (table : Table κ) {key other : κ} (different : key ≠ other) (now : ℕ) :
    (table.use key now).entries other = table.entries other :=
  if_neg different

end Table

/-! ## Histories -/

/-- The times of a history, the newest first, do not decrease. -/
def InOrder (history : List (Event κ)) : Prop :=
  history.Pairwise fun newer older => older.time ≤ newer.time

section Histories

variable [DecidableEq κ]

/-- The time of the last use of a key. -/
def lastUse (key : κ) : List (Event κ) → Option ℕ
  | [] => none
  | .use other now :: older => if other = key then some now else lastUse key older
  | .look _ :: older => lastUse key older

/-- The table after a history. -/
def run (ttl period : ℕ) : List (Event κ) → Table κ
  | [] => Table.empty
  | event :: older => (run ttl period older).step ttl period event

/-- The times at which a cleanup was made, the newest first. -/
def cleanups (ttl period : ℕ) : List (Event κ) → List ℕ
  | [] => []
  | event :: older =>
      if (run ttl period older).due period event.time then
        event.time :: cleanups ttl period older
      else cleanups ttl period older

theorem lastUse_use_self (key : κ) (now : ℕ) (older : List (Event κ)) :
    lastUse key (.use key now :: older) = some now :=
  if_pos rfl

theorem lastUse_use_of_ne {key other : κ} (different : other ≠ key) (now : ℕ)
    (older : List (Event κ)) : lastUse key (.use other now :: older) = lastUse key older :=
  if_neg different

end Histories

/-! ## One cleanup -/

section Clean

variable {ttl period now : ℕ} {table : Table κ}

/-- A cleanup was made, or the last one is less than `period` ago. -/
theorem clean_cases (ttl period : ℕ) (table : Table κ) (now : ℕ) :
    (table.due period now = true ∧ table.clean ttl period now =
        ⟨fun key => (table.entries key).filter fun entry => decide (now - entry.2 < ttl),
          some now⟩) ∨
      (∃ last, table.cleaned = some last ∧ now - last < period) ∧
        table.clean ttl period now = table := by
  by_cases due : table.due period now = true
  · exact .inl ⟨due, if_pos due⟩
  · refine .inr ⟨?_, if_neg due⟩
    cases cleaned : table.cleaned with
    | none => exact absurd (by rw [Table.due, cleaned, Option.all_none]) due
    | some last =>
        refine ⟨last, rfl, ?_⟩
        rw [Table.due, cleaned, Option.all_some, decide_eq_true_eq] at due
        exact Nat.lt_of_not_le due

/-- A key that was used less than `ttl` ago keeps its entry. -/
theorem clean_of_recent {key : κ} {count seen : ℕ} (period : ℕ)
    (entry : table.entries key = some (count, seen)) (recent : now < seen + ttl)
    (positive : 0 < ttl) : (table.clean ttl period now).entries key = some (count, seen) := by
  rcases clean_cases ttl period table now with ⟨-, cleaned⟩ | ⟨-, kept⟩
  · rw [cleaned]
    change (table.entries key).filter _ = _
    rw [entry, Option.filter_some, if_pos]
    exact decide_eq_true (by omega)
  · rw [kept, entry]

end Clean

/-! ## What the table says of the history -/

/-- At a time, a table shows the last uses that the last cleanup has left. -/
structure Tracks [DecidableEq κ] (ttl : ℕ) (history : List (Event κ)) (now : ℕ)
    (table : Table κ) : Prop where
  seen : ∀ key seen, (∃ count, table.entries key = some (count, seen)) ↔
    lastUse key history = some seen ∧ ∀ last, table.cleaned = some last → last < seen + ttl
  past : ∀ last, table.cleaned = some last → last ≤ now

section Tracks

variable [DecidableEq κ] {ttl period now later : ℕ} {history : List (Event κ)} {table : Table κ}

theorem tracks_empty (ttl now : ℕ) : Tracks ttl ([] : List (Event κ)) now Table.empty := by
  refine ⟨fun key seen => ⟨?_, ?_⟩, nofun⟩
  · rintro ⟨_, ⟨⟩⟩
  · rintro ⟨⟨⟩, -⟩

namespace Tracks

theorem mono (tracks : Tracks ttl history now table) (order : now ≤ later) :
    Tracks ttl history later table :=
  ⟨tracks.seen, fun last cleaned => Nat.le_trans (tracks.past last cleaned) order⟩

/-- **A cleanup** keeps the relation. -/
theorem clean (period : ℕ) (positive : 0 < ttl) (tracks : Tracks ttl history now table) :
    Tracks ttl history now (table.clean ttl period now) := by
  rcases clean_cases ttl period table now with ⟨-, cleaned⟩ | ⟨-, kept⟩
  · rw [cleaned]
    refine ⟨fun key seen => ?_, ?_⟩
    · simp only [Option.filter_eq_some_iff, decide_eq_true_eq, Option.some.injEq, forall_eq',
        exists_and_right, tracks.seen]
      constructor
      · rintro ⟨⟨used, -⟩, recent⟩
        exact ⟨used, by omega⟩
      · rintro ⟨used, recent⟩
        refine ⟨⟨used, fun last earlier => ?_⟩, by omega⟩
        exact Nat.lt_of_le_of_lt (tracks.past last earlier) recent
    · rintro _ ⟨⟩
      exact Nat.le_refl now
  · rw [kept]
    exact tracks

/-- **A use** keeps the relation. -/
theorem use (positive : 0 < ttl) (tracks : Tracks ttl history now table) (key : κ) :
    Tracks ttl (.use key now :: history) now (table.use key now) := by
  refine ⟨fun other seen => ?_, tracks.past⟩
  by_cases same : key = other
  · subst same
    rw [Table.use_self, lastUse_use_self]
    constructor
    · rintro ⟨count, ⟨⟩⟩
      refine ⟨rfl, fun last earlier => ?_⟩
      have past := tracks.past last earlier
      omega
    · rintro ⟨⟨⟩, -⟩
      exact ⟨_, rfl⟩
  · rw [Table.use_of_ne _ same, lastUse_use_of_ne same]
    exact tracks.seen other seen

theorem step (period : ℕ) (positive : 0 < ttl) (event : Event κ)
    (tracks : Tracks ttl history event.time table) :
    Tracks ttl (event :: history) event.time (table.step ttl period event) := by
  cases event with
  | use key now => exact (tracks.clean period positive).use positive key
  | look now =>
      have looked := tracks.clean period positive
      exact ⟨looked.seen, looked.past⟩

/-- A key that was used less than `ttl` ago has an entry. -/
theorem entry_of_recent (tracks : Tracks ttl history now table) {key : κ} {seen : ℕ}
    (used : lastUse key history = some seen) (recent : now < seen + ttl) :
    ∃ count, table.entries key = some (count, seen) :=
  (tracks.seen key seen).mpr
    ⟨used, fun last earlier => Nat.lt_of_le_of_lt (tracks.past last earlier) recent⟩

/-- Behind a cleanup no entry is as old as `ttl + period`. -/
theorem entry_clean (positive : 0 < ttl) (spaced : 0 < period)
    (tracks : Tracks ttl history now table) {key : κ} {count seen : ℕ}
    (entry : (table.clean ttl period now).entries key = some (count, seen)) :
    lastUse key history = some seen ∧ now < seen + ttl + period := by
  have shown := ((tracks.clean period positive).seen key seen).mp ⟨count, entry⟩
  refine ⟨shown.1, ?_⟩
  rcases clean_cases ttl period table now with ⟨-, cleaned⟩ | ⟨⟨last, cleaned, near⟩, kept⟩
  · have left := shown.2 now (by rw [cleaned])
    omega
  · have left := shown.2 last (by rw [kept, cleaned])
    omega

end Tracks

end Tracks

/-! ## Runs -/

section Runs

variable [DecidableEq κ] {ttl period now : ℕ} {history : List (Event κ)}

/-- **The table of an ordered history** shows its last uses. -/
theorem tracks_run (period : ℕ) (positive : 0 < ttl) (order : InOrder history)
    (past : ∀ event ∈ history, event.time ≤ now) :
    Tracks ttl history now (run ttl period history) := by
  induction history generalizing now with
  | nil => exact tracks_empty ttl now
  | cons event older ih =>
      obtain ⟨latest, order⟩ := List.pairwise_cons.mp order
      exact ((ih order latest).step period positive event).mono (past event (.head older))

section Next

variable {key : κ} (period)

/-- A use soon after the last one counts on. -/
theorem run_use_recent (positive : 0 < ttl) (order : InOrder (.use key now :: history)) {seen : ℕ}
    (used : lastUse key history = some seen) (recent : now < seen + ttl) :
    ∃ count, (run ttl period history).entries key = some (count, seen) ∧
      (run ttl period (.use key now :: history)).entries key = some (count + 1, now) := by
  obtain ⟨past, order⟩ := List.pairwise_cons.mp order
  obtain ⟨count, entry⟩ :=
    (tracks_run period positive order past).entry_of_recent used recent
  refine ⟨count, entry, ?_⟩
  change ((Table.clean ttl period _ now).use key now).entries key = _
  rw [Table.use_self, clean_of_recent period entry recent positive]
  rfl

/-- A first use, or one long after the last one, starts anew. -/
theorem run_use_stale (positive : 0 < ttl) (spaced : 0 < period)
    (order : InOrder (.use key now :: history))
    (stale : ∀ seen, lastUse key history = some seen → seen + ttl + period ≤ now) :
    (run ttl period (.use key now :: history)).entries key = some (1, now) := by
  obtain ⟨past, order⟩ := List.pairwise_cons.mp order
  have tracks := tracks_run period positive order past
  change ((Table.clean ttl period _ now).use key now).entries key = _
  rw [Table.use_self]
  cases entry : (Table.clean ttl period (run ttl period history) now).entries key with
  | none => rfl
  | some value =>
      obtain ⟨used, young⟩ := tracks.entry_clean positive spaced entry
      exact absurd young (Nat.not_lt_of_le (stale _ used))

/-- A look shows every key that was used less than `ttl` ago, with its count. -/
theorem run_look_recent (positive : 0 < ttl) (order : InOrder (.look now :: history)) {seen : ℕ}
    (used : lastUse key history = some seen) (recent : now < seen + ttl) :
    ∃ count, (run ttl period history).entries key = some (count, seen) ∧
      (run ttl period (.look now :: history)).entries key = some (count, seen) := by
  obtain ⟨past, order⟩ := List.pairwise_cons.mp order
  obtain ⟨count, entry⟩ :=
    (tracks_run period positive order past).entry_of_recent used recent
  exact ⟨count, entry, clean_of_recent period entry recent positive⟩

/-- A look shows no key that was not used in the last `ttl + period`. -/
theorem run_look_stale (positive : 0 < ttl) (spaced : 0 < period)
    (order : InOrder (.look now :: history)) {count seen : ℕ}
    (entry : (run ttl period (.look now :: history)).entries key = some (count, seen)) :
    lastUse key history = some seen ∧ now < seen + ttl + period := by
  obtain ⟨past, order⟩ := List.pairwise_cons.mp order
  exact (tracks_run period positive order past).entry_clean positive spaced entry

end Next

/-! ## Cleanups -/

/-- The table holds the time of the latest cleanup. -/
theorem cleaned_run (ttl period : ℕ) (history : List (Event κ)) :
    (run ttl period history).cleaned = (cleanups ttl period history).head? := by
  induction history with
  | nil => rfl
  | cons event older ih =>
      have stepped : (run ttl period (event :: older)).cleaned =
          ((run ttl period older).clean ttl period event.time).cleaned := by
        cases event <;> rfl
      rw [stepped, cleanups]
      rcases clean_cases ttl period (run ttl period older) event.time with
        ⟨due, cleaned⟩ | ⟨⟨last, cleaned, near⟩, kept⟩
      · rw [cleaned, if_pos due, List.head?_cons]
      · rw [kept, if_neg, ih]
        rw [Table.due, cleaned, Option.all_some, decide_eq_true_eq]
        exact Nat.not_le_of_lt near

/-- **Between two cleanups** at least `period` passes. -/
theorem cleanups_spaced (ttl : ℕ) (spaced : 0 < period) (history : List (Event κ)) :
    (cleanups ttl period history).Pairwise fun later earlier => earlier + period ≤ later := by
  induction history with
  | nil => exact .nil
  | cons event older ih =>
      rw [cleanups]
      by_cases due : (run ttl period older).due period event.time = true
      · rw [if_pos due]
        refine .cons (fun earlier made => ?_) ih
        rw [Table.due, cleaned_run] at due
        cases before : cleanups ttl period older with
        | nil =>
            rw [before] at made
            exact absurd made List.not_mem_nil
        | cons last others =>
            rw [before, List.head?_cons, Option.all_some, decide_eq_true_eq] at due
            rw [before] at made ih
            rcases List.mem_cons.mp made with rfl | made
            · omega
            · have gap := List.rel_of_pairwise_cons ih made
              omega
      · rw [if_neg due]
        exact ih

end Runs

end Expiry
