import Mathlib.Data.List.TakeDrop
import Macdack.Library.Outcome

/-!
# Reading and writing ranges of a buffer

A buffer is a list. `slice` reads a range and `overwrite` replaces the elements
from a position on. Reading gives back what was written at the same range
(`slice_overwrite_self`) and does not see a write beside it
(`slice_overwrite_before`, `slice_overwrite_after`). Writes beside each other
commute (`overwrite_comm`).

`overwriteAll` makes several writes. A range apart from all of them keeps its
elements (`slice_overwriteAll_of_apart`), and writes apart from each other are
all read back (`slice_overwriteAll_of_mem`).

`sliceChecked` and `copyFromSlice` are the operations of the modelled language:
they panic on a range outside the buffer or on a source of another length.
-/

set_option autoImplicit false

namespace Buffer

universe u

variable {α : Type u}

/-- The elements at positions `low` up to `high`. -/
def slice (buffer : List α) (low high : ℕ) : List α := (buffer.take high).drop low

/-- Replace the elements from `low` on by those of the source. -/
def overwrite (buffer : List α) (low : ℕ) (source : List α) : List α :=
  buffer.take low ++ (source ++ buffer.drop (low + source.length))

/-- Read a range, or panic. -/
def sliceChecked (buffer : List α) (low high : ℕ) : Outcome (List α) :=
  if low ≤ high ∧ high ≤ buffer.length then .ok (slice buffer low high) else Outcome.panicked

/-- Read from a position to the end, or panic. What is read is no longer than
the buffer. -/
def suffixChecked (buffer : List α) (low : ℕ) :
    Outcome {suffix : List α // suffix.length ≤ buffer.length} :=
  if low ≤ buffer.length then .ok ⟨buffer.drop low, by simp⟩ else Outcome.panicked

/-- Read one element, or panic. -/
def index (buffer : List α) (position : ℕ) : Outcome α := Outcome.unwrap buffer[position]?

/-- Copy a source of exactly the length of the range over it, or panic. -/
def copyFromSlice (buffer : List α) (low high : ℕ) (source : List α) : Outcome (List α) :=
  if low ≤ high ∧ high ≤ buffer.length ∧ source.length = high - low then
    .ok (overwrite buffer low source)
  else
    Outcome.panicked

/-! ## Lengths -/

@[simp] theorem length_slice (buffer : List α) (low high : ℕ) :
    (slice buffer low high).length = min high buffer.length - low := by
  simp [slice]

theorem length_slice_of_le {buffer : List α} {low high : ℕ} (inside : high ≤ buffer.length) :
    (slice buffer low high).length = high - low := by
  rw [length_slice, Nat.min_eq_left inside]

theorem length_overwrite {buffer source : List α} {low : ℕ}
    (fits : low + source.length ≤ buffer.length) :
    (overwrite buffer low source).length = buffer.length := by
  simp only [overwrite, List.length_append, List.length_take, List.length_drop]
  omega

/-- The length of a buffer of known length stays. -/
theorem length_overwrite_of {buffer source : List α} {low length : ℕ}
    (known : buffer.length = length) (fits : low + source.length ≤ length) :
    (overwrite buffer low source).length = length := by
  rw [length_overwrite (by rwa [known]), known]

/-! ## When the checked operations return -/

theorem sliceChecked_eq {buffer : List α} {low high : ℕ} (ordered : low ≤ high)
    (inside : high ≤ buffer.length) :
    sliceChecked buffer low high = .ok (slice buffer low high) :=
  if_pos ⟨ordered, inside⟩

theorem suffixChecked_eq {buffer : List α} {low : ℕ} (inside : low ≤ buffer.length) :
    suffixChecked buffer low = .ok ⟨buffer.drop low, (List.drop_sublist low buffer).length_le⟩ :=
  if_pos inside

theorem copyFromSlice_eq {buffer source : List α} {low high : ℕ} (ordered : low ≤ high)
    (inside : high ≤ buffer.length) (same : source.length = high - low) :
    copyFromSlice buffer low high source = .ok (overwrite buffer low source) :=
  if_pos ⟨ordered, inside, same⟩

theorem index_eq {buffer : List α} {position : ℕ} (inside : position < buffer.length) :
    index buffer position = .ok buffer[position] := by
  simp [index, List.getElem?_eq_getElem inside]

/-! ## Elements after a write -/

theorem getElem?_slice (buffer : List α) (low high position : ℕ) :
    (slice buffer low high)[position]? =
      if low + position < high then buffer[low + position]? else none := by
  simp only [slice, List.getElem?_drop, List.getElem?_take]

theorem getElem?_overwrite {buffer source : List α} {low : ℕ}
    (fits : low + source.length ≤ buffer.length) (position : ℕ) :
    (overwrite buffer low source)[position]? =
      if low ≤ position ∧ position < low + source.length then source[position - low]?
      else buffer[position]? := by
  have lengthTake : (buffer.take low).length = low := by
    rw [List.length_take]
    omega
  rw [overwrite]
  by_cases before : position < low
  · rw [List.getElem?_append_left (by omega), List.getElem?_take_of_lt before, if_neg (by omega)]
  · rw [List.getElem?_append_right (by omega), lengthTake]
    by_cases within : position < low + source.length
    · rw [List.getElem?_append_left (by omega), if_pos (by omega)]
    · rw [List.getElem?_append_right (by omega), List.getElem?_drop, if_neg (by omega)]
      congr 1
      omega

/-! ## Reading after a write -/

/-- A read inside the written range sees the source. -/
theorem slice_overwrite_within {buffer source : List α} {low start high : ℕ}
    (fits : low + source.length ≤ buffer.length) (after : low ≤ start)
    (before : high ≤ low + source.length) :
    slice (overwrite buffer low source) start high = slice source (start - low) (high - low) := by
  apply List.ext_getElem?
  intro position
  rw [getElem?_slice, getElem?_slice, getElem?_overwrite fits]
  by_cases within : start + position < high
  · rw [if_pos within, if_pos (by omega), if_pos (by omega)]
    congr 1
    omega
  · rw [if_neg within, if_neg (by omega)]

theorem slice_overwrite_self {buffer source : List α} {low high : ℕ}
    (fits : high ≤ buffer.length) (same : high = low + source.length) :
    slice (overwrite buffer low source) low high = source := by
  subst same
  rw [slice_overwrite_within fits (Nat.le_refl _) (Nat.le_refl _), Nat.sub_self,
    Nat.add_sub_cancel_left, slice, List.take_length, List.drop_zero]

/-- A read that ends before the write does not see it. -/
theorem slice_overwrite_before {buffer source : List α} {low start high : ℕ}
    (fits : low + source.length ≤ buffer.length) (before : high ≤ low) :
    slice (overwrite buffer low source) start high = slice buffer start high := by
  apply List.ext_getElem?
  intro position
  rw [getElem?_slice, getElem?_slice, getElem?_overwrite fits]
  by_cases within : start + position < high
  · rw [if_pos within, if_pos within, if_neg (by omega)]
  · rw [if_neg within, if_neg within]

/-- A read that starts after the write does not see it. -/
theorem slice_overwrite_after {buffer source : List α} {low start high : ℕ}
    (fits : low + source.length ≤ buffer.length) (after : low + source.length ≤ start) :
    slice (overwrite buffer low source) start high = slice buffer start high := by
  apply List.ext_getElem?
  intro position
  rw [getElem?_slice, getElem?_slice, getElem?_overwrite fits,
    if_neg (c := low ≤ start + position ∧ _) (by omega)]

/-- Buffers that agree on a range agree on the ranges inside of it. -/
theorem slice_congr {first second : List α} {low high start stop : ℕ}
    (same : slice first low high = slice second low high) (after : low ≤ start)
    (before : stop ≤ high) : slice first start stop = slice second start stop := by
  apply List.ext_getElem?
  intro position
  rw [getElem?_slice, getElem?_slice]
  by_cases within : start + position < stop
  · have read := congrArg (·[start - low + position]?) same
    have place : low + (start - low + position) = start + position := by omega
    simp only [getElem?_slice, place, if_pos (Nat.lt_of_lt_of_le within before)] at read
    rw [if_pos within, if_pos within, read]
  · rw [if_neg within, if_neg within]

/-- A range is cut at any position inside of it. -/
theorem slice_append_slice (buffer : List α) {low middle high : ℕ} (after : low ≤ middle)
    (before : middle ≤ high) :
    slice buffer low high = slice buffer low middle ++ slice buffer middle high := by
  have first : slice buffer low middle = (slice buffer low high).take (middle - low) := by
    rw [slice, slice, List.take_drop, List.take_take, Nat.add_sub_cancel' after,
      Nat.min_eq_left before]
  have second : slice buffer middle high = (slice buffer low high).drop (middle - low) := by
    rw [slice, slice, List.drop_drop, Nat.add_sub_cancel' after]
  rw [first, second, List.take_append_drop]

/-- A read inside the front part of a concatenation does not see the rest. -/
theorem slice_append_left {front rest : List α} {low high : ℕ} (inside : high ≤ front.length) :
    slice (front ++ rest) low high = slice front low high := by
  rw [slice, slice, List.take_append_of_le_length inside]

/-- Writing what is there changes nothing. -/
theorem overwrite_of_slice_eq {buffer source : List α} {low : ℕ}
    (same : slice buffer low (low + source.length) = source) :
    overwrite buffer low source = buffer := by
  have front : buffer.take low = (buffer.take (low + source.length)).take low := by
    rw [List.take_take, Nat.min_eq_left (Nat.le_add_right _ _)]
  calc overwrite buffer low source
      = buffer.take low ++ (slice buffer low (low + source.length) ++
          buffer.drop (low + source.length)) := by rw [same, overwrite]
    _ = (buffer.take (low + source.length)) ++ buffer.drop (low + source.length) := by
        rw [slice, ← List.append_assoc, front, List.take_append_drop]
    _ = buffer := List.take_append_drop _ _

/-! ## Writes beside each other and over each other -/

theorem overwrite_append_left {front rest source : List α} {low : ℕ}
    (fits : low + source.length ≤ front.length) :
    overwrite (front ++ rest) low source = overwrite front low source ++ rest := by
  simp only [overwrite, List.append_assoc]
  rw [List.take_append_of_le_length (by omega), List.drop_append_of_le_length (by omega)]

/-- A copy into the front part of a concatenation changes that part. -/
theorem copyFromSlice_append_left {front rest source : List α} {low high : ℕ}
    (ordered : low ≤ high) (inside : high ≤ front.length) (same : source.length = high - low) :
    copyFromSlice (front ++ rest) low high source = .ok (overwrite front low source ++ rest) := by
  rw [copyFromSlice_eq ordered (by rw [List.length_append]; omega) same,
    overwrite_append_left (by omega)]

theorem overwrite_comm {buffer first second : List α} {low high : ℕ}
    (apart : low + first.length ≤ high) (fits : high + second.length ≤ buffer.length) :
    overwrite (overwrite buffer low first) high second =
      overwrite (overwrite buffer high second) low first := by
  have fitsFirst : low + first.length ≤ buffer.length := by omega
  apply List.ext_getElem?
  intro position
  rw [getElem?_overwrite (by rw [length_overwrite fitsFirst]; exact fits),
    getElem?_overwrite fitsFirst,
    getElem?_overwrite (by rw [length_overwrite fits]; exact fitsFirst),
    getElem?_overwrite fits]
  by_cases inFirst : low ≤ position ∧ position < low + first.length
  · rw [if_neg (by omega), if_pos inFirst, if_pos inFirst]
  · rw [if_neg inFirst, if_neg inFirst]

/-- A write at the start of an earlier write replaces the front of it. -/
theorem overwrite_overwrite_front {buffer front rest source : List α} {low : ℕ}
    (same : source.length = front.length)
    (fits : low + (front ++ rest).length ≤ buffer.length) :
    overwrite (overwrite buffer low (front ++ rest)) low source =
      overwrite buffer low (source ++ rest) := by
  have lengths : (source ++ rest).length = (front ++ rest).length := by simp [same]
  have within : low + source.length ≤ buffer.length := by
    simp only [List.length_append] at fits
    omega
  apply List.ext_getElem?
  intro position
  rw [getElem?_overwrite (by rw [length_overwrite fits]; exact within),
    getElem?_overwrite fits, getElem?_overwrite (by rw [lengths]; exact fits), lengths]
  simp only [List.length_append]
  by_cases inSource : low ≤ position ∧ position < low + source.length
  · rw [if_pos inSource, if_pos (by omega), List.getElem?_append_left (by omega)]
  · rw [if_neg inSource]
    by_cases inRest : low ≤ position ∧ position < low + (front.length + rest.length)
    · rw [if_pos inRest, if_pos inRest, List.getElem?_append_right (by omega),
        List.getElem?_append_right (by omega), same]
    · rw [if_neg inRest, if_neg inRest]

/-! ## Several writes -/

/-- Make writes in order. -/
def overwriteAll (buffer : List α) (writes : List (ℕ × List α)) : List α :=
  writes.foldl (fun held write => overwrite held write.1 write.2) buffer

/-- The writes end within the given length. -/
def Fits (length : ℕ) (writes : List (ℕ × List α)) : Prop :=
  ∀ write ∈ writes, write.1 + write.2.length ≤ length

/-- The range from `low` to `high` is apart from every write. -/
def Apart (low high : ℕ) (writes : List (ℕ × List α)) : Prop :=
  ∀ write ∈ writes, high ≤ write.1 ∨ write.1 + write.2.length ≤ low

theorem overwriteAll_append (buffer : List α) (first second : List (ℕ × List α)) :
    overwriteAll buffer (first ++ second) = overwriteAll (overwriteAll buffer first) second :=
  List.foldl_append

theorem length_overwriteAll {writes : List (ℕ × List α)} {buffer : List α} {length : ℕ}
    (known : buffer.length = length) (fits : Fits length writes) :
    (overwriteAll buffer writes).length = length := by
  induction writes generalizing buffer with
  | nil => exact known
  | cons write writes ih =>
      obtain ⟨head, tail⟩ := List.forall_mem_cons.mp fits
      exact ih (length_overwrite_of known head) tail

theorem slice_overwriteAll_of_apart {writes : List (ℕ × List α)} {buffer : List α} {low high : ℕ}
    (fits : Fits buffer.length writes) (apart : Apart low high writes) :
    slice (overwriteAll buffer writes) low high = slice buffer low high := by
  induction writes generalizing buffer with
  | nil => rfl
  | cons write writes ih =>
      obtain ⟨headFits, tailFits⟩ := List.forall_mem_cons.mp fits
      obtain ⟨headApart, tailApart⟩ := List.forall_mem_cons.mp apart
      rw [overwriteAll, List.foldl_cons]
      change slice (overwriteAll (overwrite buffer write.1 write.2) writes) low high = _
      rw [ih (by rw [length_overwrite headFits]; exact tailFits) tailApart]
      rcases headApart with before | after
      · exact slice_overwrite_before headFits before
      · exact slice_overwrite_after headFits after

/-- What a write wrote is read back, in whole or in part, when the later writes
are apart from what is read. -/
theorem slice_overwriteAll_of_mem (earlier : List (ℕ × List α)) {later : List (ℕ × List α)}
    {buffer source : List α} {position low high : ℕ}
    (fits : Fits buffer.length (earlier ++ (position, source) :: later))
    (apart : Apart low high later) (after : position ≤ low)
    (before : high ≤ position + source.length) :
    slice (overwriteAll buffer (earlier ++ (position, source) :: later)) low high =
      slice source (low - position) (high - position) := by
  obtain ⟨earlierFits, restFits⟩ := List.forall_mem_append.mp fits
  obtain ⟨writeFits, laterFits⟩ := List.forall_mem_cons.mp restFits
  have length := length_overwriteAll rfl earlierFits
  rw [overwriteAll_append, overwriteAll, List.foldl_cons]
  change slice (overwriteAll (overwrite (overwriteAll buffer earlier) position source) later)
    low high = _
  have written : (overwrite (overwriteAll buffer earlier) position source).length =
      buffer.length := length_overwrite_of length writeFits
  rw [slice_overwriteAll_of_apart (by rw [written]; exact laterFits) apart,
    slice_overwrite_within (by rw [length]; exact writeFits) after before]

/-- A whole write is read back when the later writes are apart from it. -/
theorem slice_overwriteAll_self (earlier : List (ℕ × List α)) {later : List (ℕ × List α)}
    {buffer source : List α} {position : ℕ}
    (fits : Fits buffer.length (earlier ++ (position, source) :: later))
    (apart : Apart position (position + source.length) later) :
    slice (overwriteAll buffer (earlier ++ (position, source) :: later)) position
      (position + source.length) = source := by
  rw [slice_overwriteAll_of_mem earlier fits apart (Nat.le_refl _) (Nat.le_refl _), Nat.sub_self,
    Nat.add_sub_cancel_left, slice, List.take_length, List.drop_zero]

/-- A write apart from others may be made before them. -/
theorem overwrite_overwriteAll_comm {writes : List (ℕ × List α)} {buffer source : List α}
    {low : ℕ} (inside : low + source.length ≤ buffer.length) (fits : Fits buffer.length writes)
    (apart : Apart low (low + source.length) writes) :
    overwrite (overwriteAll buffer writes) low source =
      overwriteAll (overwrite buffer low source) writes := by
  induction writes generalizing buffer with
  | nil => rfl
  | cons write writes ih =>
      obtain ⟨headFits, tailFits⟩ := List.forall_mem_cons.mp fits
      obtain ⟨headApart, tailApart⟩ := List.forall_mem_cons.mp apart
      have length := length_overwrite headFits
      have swap : overwrite (overwrite buffer write.1 write.2) low source =
          overwrite (overwrite buffer low source) write.1 write.2 := by
        rcases headApart with before | after
        · exact (overwrite_comm before headFits).symm
        · exact overwrite_comm after inside
      change overwrite (overwriteAll (overwrite buffer write.1 write.2) writes) low source =
        overwriteAll (overwrite (overwrite buffer low source) write.1 write.2) writes
      rw [ih (by rw [length]; exact inside) (by rw [length]; exact tailFits) tailApart, swap]

/-- A write over the front of an earlier write, when the writes between are apart
from it, is a change of that earlier write. -/
theorem overwrite_overwriteAll_front (earlier : List (ℕ × List α)) {later : List (ℕ × List α)}
    {buffer front rest source : List α} {position : ℕ}
    (fits : Fits buffer.length (earlier ++ (position, front ++ rest) :: later))
    (same : source.length = front.length)
    (apart : Apart position (position + source.length) later) :
    overwrite (overwriteAll buffer (earlier ++ (position, front ++ rest) :: later)) position
        source =
      overwriteAll buffer (earlier ++ (position, source ++ rest) :: later) := by
  obtain ⟨earlierFits, restFits⟩ := List.forall_mem_append.mp fits
  obtain ⟨writeFits, laterFits⟩ := List.forall_mem_cons.mp restFits
  have length := length_overwriteAll rfl earlierFits
  have written := length_overwrite_of length writeFits
  have inside : position + source.length ≤ buffer.length := by
    simp only [List.length_append] at writeFits
    omega
  rw [overwriteAll_append, overwriteAll_append]
  change overwrite (overwriteAll (overwrite (overwriteAll buffer earlier) position (front ++ rest))
      later) position source =
    overwriteAll (overwrite (overwriteAll buffer earlier) position (source ++ rest)) later
  rw [overwrite_overwriteAll_comm (by rw [written]; exact inside) (by rw [written]; exact laterFits)
    apart, overwrite_overwrite_front same (by rw [length]; exact writeFits)]

end Buffer
