import Macdack.Library.Labels
import Macdack.Runtime.Metrics

/-!
# The text of client request series

`GET /metrics` writes a line for each client request series: the name of the metric, the
block of the five labels, and the count. A location or a hostname comes from a quoted
field of the table, so it may hold any character, and `escape_label` replaces the three
that a label value cannot hold.

The three passes of `escape_label` come to one escape of each character
(`toList_escapeLabel`), so a block is the rendering of its five labels
(`toList_labelBlock`). `label_rendering_lossless` is that a block is one line, that a
reader gets the labels back from it, and that no two series have the same block.
-/

set_option autoImplicit false

namespace Macdack

/-! ## Rendering -/

/-- `str::replace` of a character. -/
def replaceChar (text : String) (pattern : Char) (replacement : String) : String :=
  String.ofList (text.toList.flatMap fun c => if c = pattern then replacement.toList else [c])

def escapeLabel (value : String) : String :=
  replaceChar (replaceChar (replaceChar value '\\' "\\\\") '\n' "\\n") '"' "\\\""

/-- The braces of a line and what stands between them. -/
def labelBlock (labels : RequestLabels) : String :=
  "\x7blocation=\"" ++ escapeLabel labels.location ++ "\",hostname=\"" ++
    escapeLabel labels.hostname ++ "\",stage=\"" ++ escapeLabel labels.stage ++ "\",route=\"" ++
      escapeLabel labels.route ++ "\",message=\"" ++ escapeLabel labels.message ++ "\"\x7d"

def requestLine (labels : RequestLabels) (count : ℕ) : String :=
  "macdack_client_requests_total" ++ labelBlock labels ++ " " ++ toString count

/-- The part of the answer with the client request series. -/
def requestLines (series : RequestSeries) : String :=
  "# TYPE macdack_client_requests_total counter\n" ++
    String.join (series.toList.map fun entry => requestLine entry.1 entry.2.1 ++ "\n")

/-- The labels of a series with their names. -/
def namedLabels (labels : RequestLabels) : List Labels.Label :=
  [("location".toList, labels.location.toList), ("hostname".toList, labels.hostname.toList),
    ("stage".toList, labels.stage.toList), ("route".toList, labels.route.toList),
    ("message".toList, labels.message.toList)]

/-! ## Three passes are one -/

@[simp] theorem toList_replaceChar (text : String) (pattern : Char) (replacement : String) :
    (replaceChar text pattern replacement).toList =
      text.toList.flatMap fun c => if c = pattern then replacement.toList else [c] :=
  String.toList_ofList

/-- **The passes of `escape_label`** escape each character once: no pass meets a character
that an earlier one wrote and that it would replace. -/
theorem toList_escapeLabel (value : String) :
    (escapeLabel value).toList = Labels.escape value.toList := by
  simp only [escapeLabel, toList_replaceChar, List.flatMap_assoc, Labels.escape]
  congr 1
  funext c
  by_cases backslash : c = '\\'
  · subst backslash
    rfl
  by_cases lineBreak : c = '\n'
  · subst lineBreak
    rfl
  by_cases quote : c = '"'
  · subst quote
    rfl
  · simp [Labels.escapeChar, backslash, lineBreak, quote]

/-- **A block** is the rendering of the five labels. -/
theorem toList_labelBlock (labels : RequestLabels) :
    (labelBlock labels).toList = Labels.render (namedLabels labels) := by
  unfold labelBlock
  simp [toList_escapeLabel, namedLabels, Labels.render, Labels.renderRest, Labels.renderLabel]

theorem isName_namedLabels (labels : RequestLabels) :
    ∀ label ∈ namedLabels labels, Labels.isName label.1 = true := by
  intro label listed
  have named : label.1 ∈ ["location".toList, "hostname".toList, "stage".toList, "route".toList,
      "message".toList] := List.mem_map_of_mem listed
  have valid : ∀ name ∈ ["location".toList, "hostname".toList, "stage".toList, "route".toList,
      "message".toList], Labels.isName name = true := by decide
  exact valid label.1 named

theorem namedLabels_injective : Function.Injective namedLabels := by
  intro labels other same
  simp only [namedLabels, List.cons.injEq, Prod.mk.injEq, true_and, and_true,
    String.toList_inj] at same
  obtain ⟨location, hostname, stage, route, message⟩ := labels
  obtain ⟨rfl, rfl, rfl, rfl, rfl⟩ := same
  rfl

/-! ## Reading a block -/

/-- **The rendering of labels is lossless.** A block is one line, a reader of label blocks
gets the five labels back from it whatever follows, and different series have different
blocks. -/
theorem label_rendering_lossless :
    (∀ labels, '\n' ∉ (labelBlock labels).toList ∧
      ∀ rest, Labels.readBlock ((labelBlock labels).toList ++ rest) =
        some (namedLabels labels, rest)) ∧
      Function.Injective labelBlock := by
  refine ⟨fun labels => ⟨?_, fun rest => ?_⟩, fun labels other same => ?_⟩
  · rw [toList_labelBlock]
    exact Labels.newline_notMem_render (isName_namedLabels labels)
  · rw [toList_labelBlock]
    exact Labels.readBlock_render (isName_namedLabels labels) rest
  · apply namedLabels_injective
    apply Labels.render_injective (isName_namedLabels labels) (isName_namedLabels other)
    rw [← toList_labelBlock, ← toList_labelBlock, same]

end Macdack
