import Macdack.Library.OptionStream

/-!
# Walking a stream of tagged fields

A walk goes through the fields of any byte string, whether it is a stream or not. It
gives the fields it passes and the reason why it stops (`walk`). Streams have pads and
an end mark when they are marked, and nothing but fields when they are not.

A walk that goes by positions sees the rest of the byte string at every step
(`walk_drop_field` and the lemmas beside it). Scanning a marked stream is walking it, and
the stop decides whether there is an error (`scan_eq_walk`).
-/

set_option autoImplicit false

namespace OptionStream

/-- Why a walk stops. -/
inductive Stopped where
  | endMark
  | exhausted
  | missingLength (code : UInt8)
  | truncated (code : UInt8) (length : ℕ)
  deriving DecidableEq, Repr

/-- The error of a scan that stops so. -/
def Stopped.malformed : Stopped → Option Malformed
  | .endMark => none
  | .exhausted => none
  | .missingLength _ => some .missingLength
  | .truncated code _ => some (.truncated code)

/-- The fields that were passed and the reason why the walk stopped. -/
abbrev Walk := List (UInt8 × List UInt8) × Stopped

/-- One more field in front of a walk. -/
def Walk.pass (field : UInt8 × List UInt8) (walk : Walk) : Walk := (field :: walk.1, walk.2)

/-- Walk through a byte string with or without pads and an end mark. -/
def walk (marked : Bool) : List UInt8 → Walk
  | [] => ([], .exhausted)
  | code :: rest =>
      if marked = true ∧ code = 255 then ([], .endMark)
      else if marked = true ∧ code = 0 then walk marked rest
      else
        match rest with
        | [] => ([], .missingLength code)
        | length :: tail =>
            if tail.length < length.toNat then ([], .truncated code length.toNat)
            else Walk.pass (code, tail.take length.toNat) (walk marked (tail.drop length.toNat))
termination_by bytes => bytes.length
decreasing_by
  · simp
  · simp only [List.length_drop, List.length_cons]
    omega

/-- A code of a field: in a marked stream it is neither the pad nor the end mark. -/
def IsField (marked : Bool) (code : UInt8) : Prop := marked = true → code ≠ 255 ∧ code ≠ 0

variable {marked : Bool}

@[simp] theorem walk_nil (marked : Bool) : walk marked [] = ([], .exhausted) := by
  rw [walk]

theorem walk_end (rest : List UInt8) : walk true (255 :: rest) = ([], .endMark) := by
  rw [walk.eq_def]
  exact if_pos ⟨rfl, rfl⟩

theorem walk_pad (rest : List UInt8) : walk true (0 :: rest) = walk true rest := by
  rw [walk.eq_def]
  exact (if_neg (by decide)).trans (if_pos ⟨rfl, rfl⟩)

theorem walk_missing {code : UInt8} (field : IsField marked code) :
    walk marked [code] = ([], .missingLength code) := by
  rw [walk.eq_def]
  exact (if_neg fun mark => (field mark.1).1 mark.2).trans
    (if_neg fun pad => (field pad.1).2 pad.2)

theorem walk_code {code : UInt8} (field : IsField marked code) (length : UInt8)
    (tail : List UInt8) : walk marked (code :: length :: tail) =
      if tail.length < length.toNat then ([], .truncated code length.toNat)
      else Walk.pass (code, tail.take length.toNat) (walk marked (tail.drop length.toNat)) := by
  rw [walk.eq_def]
  exact (if_neg fun mark => (field mark.1).1 mark.2).trans
    (if_neg fun pad => (field pad.1).2 pad.2)

/-! ## Scanning is walking -/

/-- What a scan makes of a walk: the fields, unless the stop is an error. -/
def Walk.scanned (walk : Walk) : Except Malformed (List (UInt8 × List UInt8)) :=
  match walk.2.malformed with
  | none => .ok walk.1
  | some malformed => .error malformed

theorem Walk.scanned_pass (field : UInt8 × List UInt8) (walk : Walk) :
    (Walk.pass field walk).scanned = addFragment field walk.scanned := by
  rw [Walk.scanned, Walk.scanned, Walk.pass]
  cases walk.2.malformed <;> rfl

theorem scan_eq_walk (bytes : List UInt8) : scan bytes = (walk true bytes).scanned := by
  induction bytes using scan.induct with
  | case1 => rw [scan_nil, walk_nil, Walk.scanned, Stopped.malformed]
  | case2 rest => rw [scan_end, walk_end, Walk.scanned, Stopped.malformed]
  | case3 rest _ ih => rw [scan_pad, walk_pad, ih]
  | case4 code nonEnd nonPad =>
      rw [scan_missing nonPad nonEnd, walk_missing fun _ => ⟨nonEnd, nonPad⟩, Walk.scanned,
        Stopped.malformed]
  | case5 code nonEnd nonPad length tail short =>
      rw [scan_code nonPad nonEnd, walk_code fun _ => ⟨nonEnd, nonPad⟩, if_pos short,
        if_pos short, Walk.scanned, Stopped.malformed]
  | case6 code nonEnd nonPad length tail long ih =>
      rw [scan_code nonPad nonEnd, walk_code fun _ => ⟨nonEnd, nonPad⟩, if_neg long,
        if_neg long, Walk.scanned_pass, ih]

/-- The walk through a well-formed area passes its fields and stops without an error. -/
theorem walk_render (area : Area) :
    (walk true area.render).1 = area.fragments ∧ (walk true area.render).2.malformed = none := by
  have scanned := scan_render area
  rw [scan_eq_walk, Walk.scanned] at scanned
  cases stopped : (walk true area.render).2.malformed with
  | none =>
      rw [stopped] at scanned
      exact ⟨Except.ok.inj scanned, rfl⟩
  | some malformed =>
      rw [stopped] at scanned
      cases scanned

/-! ## Walking by positions -/

section Positions

variable {bytes : List UInt8} {position : ℕ}

theorem walk_drop_exhausted (marked : Bool) (outside : bytes.length ≤ position) :
    walk marked (bytes.drop position) = ([], .exhausted) := by
  rw [List.drop_eq_nil_of_le outside, walk_nil]

theorem walk_drop_end (inside : position < bytes.length) (mark : bytes[position] = 255) :
    walk true (bytes.drop position) = ([], .endMark) := by
  rw [List.drop_eq_getElem_cons inside, mark, walk_end]

theorem walk_drop_pad (inside : position < bytes.length) (pad : bytes[position] = 0) :
    walk true (bytes.drop position) = walk true (bytes.drop (position + 1)) := by
  rw [List.drop_eq_getElem_cons inside, pad, walk_pad]

theorem walk_drop_missing (inside : position < bytes.length)
    (field : IsField marked bytes[position]) (short : bytes.length ≤ position + 1) :
    walk marked (bytes.drop position) = ([], .missingLength bytes[position]) := by
  rw [List.drop_eq_getElem_cons inside, List.drop_eq_nil_of_le short, walk_missing field]

theorem walk_drop_truncated (inside : position + 1 < bytes.length)
    (field : IsField marked bytes[position])
    (short : bytes.length < position + 2 + bytes[position + 1].toNat) :
    walk marked (bytes.drop position) =
      ([], .truncated bytes[position] bytes[position + 1].toNat) := by
  rw [List.drop_eq_getElem_cons (Nat.lt_of_succ_lt inside), List.drop_eq_getElem_cons inside,
    walk_code field, if_pos]
  rw [List.length_drop]
  omega

theorem walk_drop_field (inside : position + 1 < bytes.length)
    (field : IsField marked bytes[position])
    (long : position + 2 + bytes[position + 1].toNat ≤ bytes.length) :
    walk marked (bytes.drop position) =
      Walk.pass (bytes[position],
          (bytes.drop (position + 2)).take bytes[position + 1].toNat)
        (walk marked (bytes.drop (position + 2 + bytes[position + 1].toNat))) := by
  rw [List.drop_eq_getElem_cons (Nat.lt_of_succ_lt inside), List.drop_eq_getElem_cons inside,
    walk_code field, if_neg, List.drop_drop]
  rw [List.length_drop]
  omega

end Positions

/-! ## Outlines -/

/-- The ways in which a walk stops. -/
inductive StopKind where
  | endMark
  | exhausted
  | missingLength
  | truncated
  deriving DecidableEq, Repr

def Stopped.kind : Stopped → StopKind
  | .endMark => .endMark
  | .exhausted => .exhausted
  | .missingLength _ => .missingLength
  | .truncated _ _ => .truncated

/-- The codes and the lengths of the fields of a walk, and how it stops. -/
abbrev Outline := List (UInt8 × ℕ) × StopKind

/-- What is left of a walk without the contents of its fields. -/
def Walk.outline (walk : Walk) : Outline :=
  (walk.1.map fun field => (field.1, field.2.length), walk.2.kind)

end OptionStream
