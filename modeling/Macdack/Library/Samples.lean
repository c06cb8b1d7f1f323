import Mathlib.Data.List.Basic
import Macdack.Library.Labels

/-!
# Samples

A text of samples has a line for each: a name, possibly a label block, a blank and a
value. A comment `# TYPE` says of what kind the metric of a name is. Every line ends with
a line break.

A reader gets the lines back from a text (`readText_render`) when names are names and the
values and kinds are words, that is, they are not empty and have no blank or line break.
-/

set_option autoImplicit false

namespace Samples

inductive Line where
  | typed (name kind : List Char)
  | sample (name : List Char) (labels : List Labels.Label) (value : List Char)
  deriving DecidableEq, Repr

/-! ## Rendering -/

/-- The beginning of a comment with a kind. -/
def marker : List Char := "# TYPE ".toList

/-- A sample without labels has no block. -/
def renderBlock : List Labels.Label → List Char
  | [] => []
  | label :: labels => Labels.render (label :: labels)

def Line.render : Line → List Char
  | typed name kind => marker ++ (name ++ ' ' :: kind)
  | sample name labels value => name ++ (renderBlock labels ++ ' ' :: value)

def renderText (lines : List Line) : List Char := lines.flatMap fun line => line.render ++ ['\n']

/-! ## Reading -/

def isWord (text : List Char) : Bool := !text.isEmpty && text.all fun c => c != ' ' && c != '\n'

/-- A word behind a blank. -/
def readWord : List Char → Option (List Char)
  | ' ' :: word => if isWord word then some word else none
  | _ => none

/-- A name, and what follows it. -/
def readName (text : List Char) : Option (List Char × List Char) :=
  if Labels.isName (text.takeWhile Labels.isNameChar) then
    some (text.takeWhile Labels.isNameChar, text.dropWhile Labels.isNameChar)
  else none

/-- The labels and the value of a sample. -/
def readSample (text : List Char) : Option (List Labels.Label × List Char) :=
  if text.head? = some '{' then
    (Labels.readBlock text).bind fun read => (readWord read.2).map fun value => (read.1, value)
  else (readWord text).map fun value => ([], value)

def readLine (line : List Char) : Option Line :=
  if line.take 7 = marker then
    (readName (line.drop 7)).bind fun read => (readWord read.2).map (Line.typed read.1)
  else
    (readName line).bind fun read =>
      (readSample read.2).map fun sample => .sample read.1 sample.1 sample.2

def readText (text : List Char) : Option (List Line) :=
  if (text.splitOn '\n').getLast? = some [] then (text.splitOn '\n').dropLast.mapM readLine
  else none

/-- The name and the labels of a sample. -/
def Line.key : Line → Option (List Char × List Labels.Label)
  | typed _ _ => none
  | sample name labels _ => some (name, labels)

/-! ## Reading undoes rendering -/

/-- What can be read back. -/
def Line.Valid : Line → Prop
  | typed name kind => Labels.isName name = true ∧ isWord kind = true
  | sample name labels value => Labels.isName name = true ∧
      (∀ label ∈ labels, Labels.isName label.1 = true) ∧ isWord value = true

theorem isNameChar_of_isName {name : List Char} (valid : Labels.isName name = true) :
    ∀ c ∈ name, Labels.isNameChar c = true := by
  cases name with
  | nil => nofun
  | cons first later =>
      rw [Labels.isName, Bool.and_eq_true, List.all_eq_true] at valid
      rw [List.forall_mem_cons]
      refine ⟨?_, valid.2⟩
      have start := valid.1
      rw [Labels.isNameStart, Bool.or_eq_true] at start
      rw [Labels.isNameChar, Char.isAlphanum, Bool.or_eq_true, Bool.or_eq_true]
      exact start.imp_left .inl

/-- A name ends at the first character that cannot be in one. -/
theorem readName_append {name : List Char} (valid : Labels.isName name = true) {c : Char}
    (ends : Labels.isNameChar c = false) (rest : List Char) :
    readName (name ++ c :: rest) = some (name, c :: rest) := by
  have chars := isNameChar_of_isName valid
  have stop : ¬Labels.isNameChar c = true := by rw [ends]; exact Bool.false_ne_true
  rw [readName, List.takeWhile_append_of_pos chars, List.takeWhile_cons_of_neg stop,
    List.append_nil, if_pos valid, List.dropWhile_append_of_pos chars,
    List.dropWhile_cons_of_neg stop]

theorem readWord_cons {word : List Char} (valid : isWord word = true) :
    readWord (' ' :: word) = some word := by
  rw [readWord, if_pos valid]

theorem readSample_render {labels : List Labels.Label}
    (names : ∀ label ∈ labels, Labels.isName label.1 = true) {value : List Char}
    (valid : isWord value = true) :
    readSample (renderBlock labels ++ ' ' :: value) = some (labels, value) := by
  cases labels with
  | nil =>
      have blank : ¬(' ' :: value).head? = some '{' := by
        rw [List.head?_cons]
        decide
      rw [renderBlock, List.nil_append, readSample, if_neg blank, readWord_cons valid]
      rfl
  | cons label labels =>
      have block : (renderBlock (label :: labels) ++ ' ' :: value).head? = some '{' := rfl
      rw [readSample, if_pos block, renderBlock, Labels.readBlock_render names, Option.bind_some,
        readWord_cons valid]
      rfl

/-- A sample is no comment. -/
theorem take_ne_marker {name : List Char} (valid : Labels.isName name = true) (rest : List Char) :
    (name ++ rest).take 7 ≠ marker := by
  cases name with
  | nil => cases valid
  | cons c name =>
      intro same
      have first := congrArg List.head? same
      rw [List.cons_append, List.take_succ_cons, List.head?_cons] at first
      obtain rfl : c = '#' := Option.some.inj first
      cases valid

theorem readLine_render {line : Line} (valid : line.Valid) :
    readLine line.render = some line := by
  cases line with
  | typed name kind =>
      obtain ⟨isName, word⟩ := valid
      have front : (Line.typed name kind).render.take 7 = marker := by
        rw [Line.render]
        exact List.take_left' rfl
      have back : (Line.typed name kind).render.drop 7 = name ++ ' ' :: kind := by
        rw [Line.render]
        exact List.drop_left' rfl
      rw [readLine, if_pos front, back, readName_append isName (by decide), Option.bind_some,
        readWord_cons word]
      rfl
  | sample name labels value =>
      obtain ⟨isName, names, word⟩ := valid
      have read : readName (Line.sample name labels value).render =
          some (name, renderBlock labels ++ ' ' :: value) := by
        cases labels with
        | nil => exact readName_append isName (by decide) value
        | cons label labels => exact readName_append isName (by decide) _
      have other : ¬(Line.sample name labels value).render.take 7 = marker :=
        take_ne_marker isName _
      rw [readLine, if_neg other, read, Option.bind_some,
        readSample_render names word]
      rfl

theorem newline_notMem_name {name : List Char} (valid : Labels.isName name = true) :
    '\n' ∉ name := fun member => absurd (isNameChar_of_isName valid _ member) (by decide)

theorem newline_notMem_word {word : List Char} (valid : isWord word = true) : '\n' ∉ word := by
  rw [isWord, Bool.and_eq_true, List.all_eq_true] at valid
  intro member
  exact absurd (valid.2 _ member) (by decide)

/-- **A rendered line** is one line. -/
theorem newline_notMem_render {line : Line} (valid : line.Valid) : '\n' ∉ line.render := by
  cases line with
  | typed name kind =>
      obtain ⟨isName, word⟩ := valid
      have front : '\n' ∉ marker := by decide
      simp only [Line.render, List.mem_append, List.mem_cons, not_or]
      exact ⟨front, newline_notMem_name isName, by decide, newline_notMem_word word⟩
  | sample name labels value =>
      obtain ⟨isName, names, word⟩ := valid
      have block : '\n' ∉ renderBlock labels := by
        cases labels with
        | nil => exact List.not_mem_nil
        | cons label labels => exact Labels.newline_notMem_render names
      simp only [Line.render, List.mem_append, List.mem_cons, not_or]
      exact ⟨newline_notMem_name isName, block, by decide, newline_notMem_word word⟩

theorem splitOn_renderText {lines : List Line} (valid : ∀ line ∈ lines, line.Valid) :
    (renderText lines).splitOn '\n' = lines.map Line.render ++ [[]] := by
  induction lines with
  | nil => rfl
  | cons line lines ih =>
      obtain ⟨first, others⟩ := List.forall_mem_cons.mp valid
      have plain : ∀ c ∈ line.render, (c == '\n') = false := by
        intro c member
        rw [beq_eq_false_iff_ne]
        rintro rfl
        exact newline_notMem_render first member
      have split := List.splitOnP_append_cons_of_forall_mem plain '\n' (beq_self_eq_true '\n')
        (renderText lines)
      rw [renderText, List.flatMap_cons, List.append_assoc, List.singleton_append, ← renderText,
        List.splitOn_eq_splitOnP, split, ← List.splitOn_eq_splitOnP, ih others]
      rfl

/-- **Reading undoes rendering.** -/
theorem readText_render {lines : List Line} (valid : ∀ line ∈ lines, line.Valid) :
    readText (renderText lines) = some lines := by
  rw [readText, splitOn_renderText valid, List.getLast?_concat, if_pos rfl, List.dropLast_concat]
  induction lines with
  | nil => rfl
  | cons line lines ih =>
      obtain ⟨first, others⟩ := List.forall_mem_cons.mp valid
      rw [List.map_cons, List.mapM_cons, readLine_render first, ih others]
      rfl

end Samples
