import Mathlib.Algebra.BigOperators.Group.List.Lemmas
import Mathlib.Algebra.GroupWithZero.Nat
import Mathlib.Algebra.Order.BigOperators.Group.List
import Mathlib.Algebra.Order.Ring.Nat
import Std.Data.ExtTreeMap.Lemmas

/-!
# Tallies

A tally has a counter for each key that occurred. It is the tally of a log when it has the
keys of the log and counts each as often as it occurs there (`Counts`); then the counters
add up to the length of the log (`Counts.total_eq`).

Where entries may have been dropped, the counters that are left are at most those of the
log, and so is their sum (`total_le`).
-/

set_option autoImplicit false

namespace Tally

variable {κ : Type} [DecidableEq κ]

/-! ## Sums -/

/-- One key counts for at most one. -/
theorem sum_map_single {keys : List κ} (nodup : keys.Nodup) (key : κ) :
    (keys.map fun other => if key == other then 1 else 0).sum =
      if key ∈ keys then 1 else 0 := by
  induction keys with
  | nil => rfl
  | cons first keys ih =>
      obtain ⟨fresh, nodup⟩ := List.nodup_cons.mp nodup
      rw [List.map_cons, List.sum_cons, ih nodup]
      by_cases same : key = first
      · subst same
        rw [if_neg fresh, if_pos List.mem_cons_self, if_pos (beq_self_eq_true key)]
      · rw [if_neg (by rwa [beq_iff_eq]), Nat.zero_add]
        simp only [List.mem_cons, same, false_or]

/-- How often the keys of a list occur in a log. -/
theorem sum_map_count {keys : List κ} (nodup : keys.Nodup) (log : List κ) :
    (keys.map fun key => log.count key).sum = log.countP fun key => decide (key ∈ keys) := by
  induction log with
  | nil => simp
  | cons key log ih =>
      simp only [List.count_cons, List.countP_cons, List.sum_map_add, ih, decide_eq_true_eq]
      rw [sum_map_single nodup]

/-! ## Counters -/

section Maps

variable [Ord κ] [Std.TransOrd κ]

/-- One more of a key. -/
def bump (tally : Std.ExtTreeMap κ ℕ) (key : κ) : Std.ExtTreeMap κ ℕ :=
  tally.alter key fun count => some (count.getD 0 + 1)

/-- The tally of a log. -/
def Counts (tally : Std.ExtTreeMap κ ℕ) (log : List κ) : Prop :=
  ∀ key, tally[key]? = if key ∈ log then some (log.count key) else none

theorem counts_empty : Counts (∅ : Std.ExtTreeMap κ ℕ) [] := by
  intro key
  rw [Std.ExtTreeMap.getElem?_empty, if_neg List.not_mem_nil]

theorem Counts.bump [Std.LawfulEqOrd κ] {tally : Std.ExtTreeMap κ ℕ} {log : List κ}
    (counts : Counts tally log) (key : κ) : Counts (Tally.bump tally key) (key :: log) := by
  intro other
  rw [Tally.bump, Std.ExtTreeMap.getElem?_alter]
  by_cases same : key = other
  · subst same
    rw [if_pos Std.ReflCmp.compare_self, counts key, if_pos (List.mem_cons_self),
      List.count_cons_self]
    by_cases member : key ∈ log
    · rw [if_pos member]
      rfl
    · rw [if_neg member, List.count_eq_zero_of_not_mem member]
      rfl
  · have order : ¬compare key other = .eq := fun equal =>
      same (Std.LawfulEqOrd.eq_of_compare equal)
    rw [if_neg order, counts other, List.count_cons_of_ne same]
    simp only [List.mem_cons, Ne.symm same, false_or]

/-- The entries of a map, one size each. -/
def total {β : Type} (map : Std.ExtTreeMap κ β) (size : β → ℕ) : ℕ :=
  (map.toList.map fun entry => size entry.2).sum

variable {β : Type} {map : Std.ExtTreeMap κ β} {size : β → ℕ} {log : List κ}

/-- **What is left of a tally** adds up to at most the length of the log. -/
theorem total_le [Std.LawfulEqOrd κ]
    (bounded : ∀ key value, map[key]? = some value → size value ≤ log.count key) :
    total map size ≤ log.length := by
  have each : total map size ≤ (map.toList.map fun entry => log.count entry.1).sum := by
    refine List.sum_le_sum fun entry member => bounded entry.1 entry.2 ?_
    exact Std.ExtTreeMap.mem_toList_iff_getElem?_eq_some.mp member
  have keys : (map.toList.map fun entry => log.count entry.1) =
      map.keys.map fun key => log.count key := by
    rw [← Std.ExtTreeMap.map_fst_toList_eq_keys, List.map_map]
    rfl
  rw [keys, sum_map_count Std.ExtTreeMap.nodup_keys] at each
  exact each.trans List.countP_le_length

/-- **The counters of a tally** add up to the length of the log. -/
theorem Counts.total_eq [Std.LawfulEqOrd κ] {tally : Std.ExtTreeMap κ ℕ}
    (counts : Counts tally log) : total tally id = log.length := by
  have each : total tally id = (tally.keys.map fun key => log.count key).sum := by
    rw [total, ← Std.ExtTreeMap.map_fst_toList_eq_keys, List.map_map]
    refine congrArg List.sum (List.map_congr_left fun entry member => ?_)
    have found := Std.ExtTreeMap.mem_toList_iff_getElem?_eq_some.mp member
    rw [counts entry.1] at found
    split at found
    · exact (Option.some.inj found).symm
    · cases found
  rw [each, sum_map_count Std.ExtTreeMap.nodup_keys, List.countP_eq_length]
  intro key member
  rw [decide_eq_true_eq, Std.ExtTreeMap.mem_keys, Std.ExtTreeMap.mem_iff_isSome_getElem?,
    counts key, if_pos member]
  rfl

end Maps

end Tally
