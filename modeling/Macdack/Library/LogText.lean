import Mathlib.Algebra.GroupWithZero.Nat
import Mathlib.Data.List.Basic
import Macdack.Library.Outcome

/-!
# Texts for a log

A text for a log has printable seven-bit characters and line breaks, and nothing else,
so that it cannot be taken for more than it is. `Breaks` says this of a text together
with the number of its line breaks.

The relation goes with the way in which texts are put together (`Breaks.append`,
`breaks_join`, `breaks_intercalate`, `Breaks.addLines`), numbers have no line breaks
(`breaks_nat`, `breaks_int`), and of a given text it is decided. `Writes` is the relation
for a function that can fail: it returns a text, with so many line breaks.
-/

set_option autoImplicit false

namespace LogText

/-- A blank or a visible seven-bit character. -/
abbrev IsPrintable (c : Char) : Prop := 0x20 ≤ c.toNat ∧ c.toNat ≤ 0x7e

/-- A text of printable characters and so many line breaks. -/
structure Breaks (text : String) (count : ℕ) : Prop where
  printed : ∀ c ∈ text.toList, c = '\n' ∨ IsPrintable c
  count : text.toList.count '\n' = count

/-- The number of lines of a text. -/
def lineCount (text : String) : ℕ := text.toList.count '\n' + 1

/-- The relation, computed character by character. -/
def hasBreaks (text : String) (count : ℕ) : Bool :=
  (text.toList.all fun c => c == '\n' || decide (IsPrintable c)) &&
    text.toList.count '\n' == count

theorem hasBreaks_iff {text : String} {count : ℕ} :
    hasBreaks text count = true ↔ Breaks text count := by
  simp only [hasBreaks, Bool.and_eq_true, List.all_eq_true, Bool.or_eq_true, beq_iff_eq,
    decide_eq_true_eq]
  exact ⟨fun both => ⟨both.1, both.2⟩, fun breaks => ⟨breaks.printed, breaks.count⟩⟩

instance (text : String) (count : ℕ) : Decidable (Breaks text count) :=
  decidable_of_iff _ hasBreaks_iff

/-- A text without line breaks. -/
theorem breaks_of_printable {text : String} (printable : ∀ c ∈ text.toList, IsPrintable c) :
    Breaks text 0 := by
  refine ⟨fun c member => .inr (printable c member), List.count_eq_zero.mpr fun member => ?_⟩
  exact absurd (printable '\n' member).1 (by decide)

theorem breaks_ofList {text : List Char} (printable : ∀ c ∈ text, IsPrintable c) :
    Breaks (String.ofList text) 0 := by
  apply breaks_of_printable
  rw [String.toList_ofList]
  exact printable

/-! ## Putting texts together -/

section Together

variable {first second : String} {before after : ℕ}

theorem Breaks.append (left : Breaks first before) (right : Breaks second after) :
    Breaks (first ++ second) (before + after) := by
  refine ⟨fun c member => ?_, ?_⟩
  · rw [String.toList_append, List.mem_append] at member
    exact member.elim (left.printed c) (right.printed c)
  · rw [String.toList_append, List.count_append, left.count, right.count]

/-- A text without line breaks behind another. -/
theorem Breaks.add (left : Breaks first before) (right : Breaks second 0) :
    Breaks (first ++ second) before :=
  left.append right

theorem breaks_empty : Breaks "" 0 := by decide

theorem breaks_join {texts : List String} (each : ∀ text ∈ texts, Breaks text 0) :
    Breaks (String.join texts) 0 := by
  induction texts with
  | nil =>
      rw [String.join_nil]
      exact breaks_empty
  | cons text texts ih =>
      obtain ⟨head, tail⟩ := List.forall_mem_cons.mp each
      rw [String.join_cons]
      exact head.add (ih tail)

theorem breaks_intercalate {separator : String} (between : Breaks separator 0)
    {texts : List String} (each : ∀ text ∈ texts, Breaks text 0) :
    Breaks (separator.intercalate texts) 0 := by
  induction texts with
  | nil => exact breaks_empty
  | cons text texts ih =>
      obtain ⟨head, tail⟩ := List.forall_mem_cons.mp each
      by_cases last : texts = []
      · subst last
        exact head
      · rw [String.intercalate_cons_of_ne_nil last]
        exact (head.add between).add (ih tail)

/-- A list of items, each by its text. -/
theorem breaks_list {α : Type} {separator : String} (between : Breaks separator 0)
    {text : α → String} (each : ∀ item, Breaks (text item) 0) (items : List α) :
    Breaks (separator.intercalate (items.map text)) 0 := by
  apply breaks_intercalate between
  intro written listed
  obtain ⟨item, -, rfl⟩ := List.mem_map.mp listed
  exact each item

/-- Lines behind a text, each with a line break in front. -/
theorem Breaks.addLines {lines : List String} (each : ∀ line ∈ lines, Breaks line 0)
    (breaks : Breaks first before) :
    Breaks (lines.foldl (fun out line => out ++ "\n" ++ line) first) (before + lines.length) := by
  induction lines generalizing first before with
  | nil => exact breaks
  | cons line lines ih =>
      obtain ⟨head, tail⟩ := List.forall_mem_cons.mp each
      have opened : Breaks "\n" 1 := by decide
      rw [List.foldl_cons, List.length_cons, Nat.add_comm lines.length, ← Nat.add_assoc]
      exact ih tail ((breaks.append opened).add head)

end Together

/-! ## Numbers -/

theorem isPrintable_of_isDigit {c : Char} (digit : c.isDigit = true) : IsPrintable c := by
  rw [Char.isDigit, Bool.and_eq_true, decide_eq_true_eq, decide_eq_true_eq] at digit
  have low : 48 ≤ c.toNat := digit.1
  have high : c.toNat ≤ 57 := digit.2
  constructor <;> omega

theorem breaks_nat (number : ℕ) : Breaks (toString number) 0 := by
  apply breaks_of_printable
  intro c member
  rw [Nat.toString_eq_repr, Nat.toList_repr] at member
  exact isPrintable_of_isDigit (Nat.isDigit_of_mem_toDigits (by decide) (by decide) member)

theorem breaks_int (number : Int) : Breaks (toString number) 0 := by
  cases number with
  | ofNat number => exact breaks_nat number
  | negSucc number =>
      have sign : Breaks "-" 0 := by decide
      exact sign.add (breaks_nat (number + 1))

/-! ## Functions that write -/

/-- A text is returned, and it has so many line breaks. -/
def Writes (written : Outcome String) (count : ℕ) : Prop :=
  ∃ text, written = .ok text ∧ Breaks text count

theorem Breaks.writes {text : String} {count : ℕ} (breaks : Breaks text count) :
    Writes (.ok text) count :=
  ⟨text, rfl, breaks⟩

/-- **A loop** that writes for each item behind what is written writes the lines of all. -/
theorem Breaks.foldlM {α : Type} {write : String → α → Outcome String} {lines : α → ℕ}
    {items : List α} (each : ∀ item ∈ items, ∀ {out : String} {before : ℕ}, Breaks out before →
      Writes (write out item) (before + lines item)) {out : String} {before : ℕ}
    (breaks : Breaks out before) :
    Writes (items.foldlM write out) (before + (items.map lines).sum) := by
  induction items generalizing out before with
  | nil => exact breaks.writes
  | cons item items ih =>
      obtain ⟨head, tail⟩ := List.forall_mem_cons.mp each
      obtain ⟨text, written, more⟩ := head breaks
      rw [List.foldlM_cons, written, List.map_cons, List.sum_cons, ← Nat.add_assoc]
      exact ih tail more

/-- Whatever is there, so much is written behind it. -/
def Adds (write : String → Outcome String) (block : String) : Prop :=
  ∀ out, write out = .ok (out ++ block)

/-- **A loop** that adds a block for each item adds the blocks in order. -/
theorem Adds.foldlM {α : Type} {write : String → α → Outcome String} {items : List α}
    {blocks : List String} (each : List.Forall₂ (fun item => Adds (write · item)) items blocks) :
    Adds (items.foldlM write) (String.join blocks) := by
  induction each with
  | nil =>
      intro out
      rw [String.join_nil, String.append_empty]
      rfl
  | @cons item block items blocks first _ ih =>
      intro out
      have begun : write out item = .ok (out ++ block) := first out
      change List.foldlM write out (item :: items) = _
      rw [List.foldlM_cons, begun, String.join_cons, ← String.append_assoc]
      exact ih (out ++ block)

/-- Lines behind a text are a block of their own. -/
theorem foldl_lines (lines : List String) (out : String) :
    lines.foldl (fun out line => out ++ "\n" ++ line) out =
      out ++ String.join (lines.map ("\n" ++ ·)) := by
  induction lines generalizing out with
  | nil => rw [List.map_nil, String.join_nil, String.append_empty, List.foldl_nil]
  | cons line lines ih =>
      rw [List.foldl_cons, ih, List.map_cons, String.join_cons, ← String.append_assoc,
        ← String.append_assoc]

end LogText
