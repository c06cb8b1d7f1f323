import Macdack.MacText

/-!
# Host names

`valid_hostname` is the check of the host names and of the domains of the client rows.
`validHostname_iff` says which names pass: one or more labels between dots, with a dot
behind the last one or without it, of at most 253 bytes without that dot. A label has one to
63 letters, digits and hyphens, and no hyphen at its ends.
-/

set_option autoImplicit false

namespace Macdack

/-- A letter, a digit or a hyphen. -/
def isNameChar (c : Char) : Bool := isAsciiAlphanumeric c || c == '-'

/-- One label of a host name. -/
structure IsLabel (label : List Char) : Prop where
  nonempty : label ≠ []
  short : label.length ≤ 63
  first : label.head? ≠ some '-'
  last : label.getLast? ≠ some '-'
  chars : ∀ c ∈ label, isNameChar c = true

/-- The labels of a host name. -/
structure IsHostname (labels : List (List Char)) : Prop where
  nonempty : labels ≠ []
  each : ∀ label ∈ labels, IsLabel label
  short : (['.'].intercalate labels).length ≤ 253

variable {c : Char} {label name : List Char} {labels : List (List Char)}

/-- Letters and digits are visible ASCII characters. -/
theorem bounds_of_alphanumeric (isChar : isAsciiAlphanumeric c = true) :
    0x30 ≤ c.toNat ∧ c.toNat ≤ 0x7a := by
  simp only [isAsciiAlphanumeric, Bool.or_eq_true, Bool.and_eq_true, decide_eq_true_eq,
    Char.le_def, UInt32.le_iff_toNat_le] at isChar
  change 0x30 ≤ c.val.toNat ∧ c.val.toNat ≤ 0x7a
  rcases isChar with (⟨low, high⟩ | ⟨low, high⟩) | ⟨low, high⟩
  · exact ⟨low, Nat.le_trans high (by decide)⟩
  · exact ⟨Nat.le_trans (by decide) low, high⟩
  · exact ⟨Nat.le_trans (by decide) low, Nat.le_trans high (by decide)⟩

/-- The characters of a name are visible ASCII characters and no dots. -/
theorem bounds_of_isNameChar (isChar : isNameChar c = true) :
    0x2d ≤ c.toNat ∧ c.toNat ≤ 0x7a ∧ c ≠ '.' := by
  rw [isNameChar, Bool.or_eq_true, beq_iff_eq] at isChar
  rcases isChar with isChar | rfl
  · obtain ⟨low, high⟩ := bounds_of_alphanumeric isChar
    refine ⟨Nat.le_trans (by decide) low, high, ?_⟩
    rintro rfl
    exact absurd low (by decide)
  · decide

/-- A text of characters of names has as many bytes. -/
theorem lengthOf_of_isNameChar (chars : ∀ c ∈ name, isNameChar c = true) :
    Text.lengthOf name = name.length :=
  Text.lengthOf_of_ascii fun c member =>
    Nat.lt_of_le_of_lt (bounds_of_isNameChar (chars c member)).2.1 (by decide)

/-- **The check of a label.** -/
theorem isLabel_iff : IsLabel label ↔
    (!label.isEmpty && decide (Text.lengthOf label ≤ 63) && label.head? != some '-' &&
      label.getLast? != some '-' && label.all fun c => isAsciiAlphanumeric c || c == '-') =
        true := by
  simp only [Bool.and_eq_true, Bool.not_eq_true', List.isEmpty_eq_false_iff, decide_eq_true_eq,
    bne_iff_ne, List.all_eq_true]
  constructor
  · intro isLabel
    rw [lengthOf_of_isNameChar isLabel.chars]
    exact ⟨⟨⟨⟨isLabel.nonempty, isLabel.short⟩, isLabel.first⟩, isLabel.last⟩, isLabel.chars⟩
  · rintro ⟨⟨⟨⟨nonempty, short⟩, first⟩, last⟩, chars⟩
    rw [lengthOf_of_isNameChar chars] at short
    exact ⟨nonempty, short, first, last, chars⟩

theorem IsLabel.dot_notMem (isLabel : IsLabel label) : '.' ∉ label :=
  fun member => (bounds_of_isNameChar (isLabel.chars '.' member)).2.2 rfl

/-- Labels between dots are taken apart again. -/
theorem splitOn_labels (nonempty : labels ≠ []) (each : ∀ label ∈ labels, IsLabel label) :
    (['.'].intercalate labels).splitOn '.' = labels :=
  List.splitOn_intercalate '.' (fun label member => (each label member).dot_notMem) nonempty

/-- Labels between dots have visible ASCII characters. -/
theorem bounds_of_labels (each : ∀ label ∈ labels, IsLabel label) :
    ∀ c ∈ ['.'].intercalate labels, 0x2d ≤ c.toNat ∧ c.toNat ≤ 0x7a := by
  intro c member
  by_cases dot : c = '.'
  · rw [dot]
    decide
  · obtain ⟨label, listed, inside⟩ := (mem_intercalate dot).mp member
    obtain ⟨low, high, -⟩ := bounds_of_isNameChar ((each label listed).chars c inside)
    exact ⟨low, high⟩

theorem lengthOf_labels (each : ∀ label ∈ labels, IsLabel label) :
    Text.lengthOf (['.'].intercalate labels) = (['.'].intercalate labels).length :=
  Text.lengthOf_of_ascii fun c member =>
    Nat.lt_of_le_of_lt (bounds_of_labels each c member).2 (by decide)

/-- A host name does not end in a dot. -/
theorem getLast?_labels (nonempty : labels ≠ []) (each : ∀ label ∈ labels, IsLabel label) :
    (['.'].intercalate labels).getLast? ≠ some '.' := by
  induction labels with
  | nil => exact absurd rfl nonempty
  | cons label labels ih =>
      rw [List.forall_mem_cons] at each
      cases labels with
      | nil =>
          rw [List.intercalate_singleton]
          exact fun dot => each.1.dot_notMem (List.mem_of_getLast? dot)
      | cons next rest =>
          have some : ['.'].intercalate (next :: rest) ≠ [] := by
            intro empty
            have split := splitOn_labels (List.cons_ne_nil next rest) each.2
            rw [empty] at split
            exact (List.forall_mem_cons.mp each.2).1.nonempty (List.cons.inj split).1.symm
          rw [List.intercalate_cons_cons, List.getLast?_append_of_ne_nil _ some]
          exact ih (List.cons_ne_nil next rest) each.2

/-- What the check of the labels accepts. -/
theorem labels_iff : (!name.isEmpty && decide (Text.lengthOf name ≤ 253) &&
    (name.splitOn '.').all fun label =>
      !label.isEmpty && decide (Text.lengthOf label ≤ 63) && label.head? != some '-' &&
        label.getLast? != some '-' && label.all fun c => isAsciiAlphanumeric c || c == '-') =
          true ↔
    ∃ labels, IsHostname labels ∧ name = ['.'].intercalate labels := by
  rw [Bool.and_eq_true, Bool.and_eq_true, decide_eq_true_eq, List.all_eq_true]
  simp only [← isLabel_iff]
  constructor
  · rintro ⟨⟨-, short⟩, each⟩
    have joined : ['.'].intercalate (name.splitOn '.') = name := List.intercalate_splitOn '.'
    refine ⟨name.splitOn '.', ⟨List.splitOn_ne_nil _ _, each, ?_⟩, joined.symm⟩
    rw [← lengthOf_labels each, joined]
    exact short
  · rintro ⟨labels, isHostname, rfl⟩
    rw [splitOn_labels isHostname.nonempty isHostname.each, lengthOf_labels isHostname.each]
    refine ⟨⟨?_, isHostname.short⟩, isHostname.each⟩
    rw [Bool.not_eq_true', List.isEmpty_eq_false_iff]
    intro empty
    have split := splitOn_labels isHostname.nonempty isHostname.each
    rw [empty, List.splitOn_nil] at split
    exact (isHostname.each [] (split ▸ .head _)).nonempty rfl

/-- The text is a host name, with a dot behind it or without. -/
def NamesHost (name : String) : Prop :=
  ∃ labels, IsHostname labels ∧ (name.toList = ['.'].intercalate labels ∨
    name.toList = ['.'].intercalate labels ++ ['.'])

/-- **Which names are host names.** -/
theorem validHostname_iff {name : String} : validHostname name = true ↔ NamesHost name := by
  rw [validHostname, labels_iff, stripDot, NamesHost]
  constructor
  · rintro ⟨labels, isHostname, stripped⟩
    refine ⟨labels, isHostname, ?_⟩
    by_cases dot : name.toList.getLast? = some '.'
    · rw [if_pos dot] at stripped
      obtain ⟨front, whole⟩ := List.getLast?_eq_some_iff.mp dot
      rw [whole, List.dropLast_concat] at stripped
      exact .inr (by rw [whole, stripped])
    · rw [if_neg dot] at stripped
      exact .inl stripped
  · rintro ⟨labels, isHostname, bare | dotted⟩
    · rw [bare, if_neg (getLast?_labels isHostname.nonempty isHostname.each)]
      exact ⟨labels, isHostname, rfl⟩
    · rw [dotted, if_pos List.getLast?_concat, List.dropLast_concat]
      exact ⟨labels, isHostname, rfl⟩

/-- A host name has visible ASCII characters. -/
theorem bounds_of_validHostname {name : String} (valid : validHostname name = true) :
    ∀ c ∈ name.toList, 0x2d ≤ c.toNat ∧ c.toNat ≤ 0x7a := by
  obtain ⟨labels, isHostname, bare | dotted⟩ := validHostname_iff.mp valid
  · rw [bare]
    exact bounds_of_labels isHostname.each
  · rw [dotted, List.forall_mem_append, List.forall_mem_singleton]
    exact ⟨bounds_of_labels isHostname.each, by decide⟩

end Macdack
