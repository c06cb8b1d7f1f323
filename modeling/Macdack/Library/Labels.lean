import Mathlib.Data.List.Basic

/-!
# Label blocks

A label block lists names with quoted values, `{name="value",…}`, on one line. In a
value a backslash, a quotation mark and a line break are escaped, each by a backslash
and one more character. The reader of a value stops at the first quotation mark that
is not escaped.

Reading undoes rendering, whatever the values are and whatever follows the block
(`readBlock_render`). So a rendered block is one line (`newline_notMem_render`) and
different labels are rendered differently (`render_injective`).
-/

set_option autoImplicit false

namespace Labels

/-- A name and its value. -/
abbrev Label := List Char × List Char

/-! ## Rendering -/

def escapeChar (c : Char) : List Char :=
  if c = '\\' then ['\\', '\\']
  else if c = '"' then ['\\', '"']
  else if c = '\n' then ['\\', 'n']
  else [c]

def escape (value : List Char) : List Char := value.flatMap escapeChar

def renderLabel (label : Label) : List Char :=
  label.1 ++ '=' :: '"' :: (escape label.2 ++ ['"'])

/-- The labels behind the first one. -/
def renderRest (labels : List Label) : List Char :=
  labels.flatMap fun label => ',' :: renderLabel label

def render : List Label → List Char
  | [] => ['{', '}']
  | label :: labels => '{' :: (renderLabel label ++ (renderRest labels ++ ['}']))

/-! ## Reading -/

/-- What a character behind a backslash stands for. -/
def unescape (c : Char) : Option Char :=
  if c = '\\' then some '\\'
  else if c = '"' then some '"'
  else if c = 'n' then some '\n'
  else none

/-- A value up to its closing quotation mark, and what follows it. -/
def readValue : List Char → Option (List Char × List Char)
  | [] => none
  | c :: rest =>
      if c = '"' then some ([], rest)
      else if c = '\n' then none
      else if c = '\\' then
        match rest with
        | [] => none
        | escaped :: later =>
            (unescape escaped).bind fun c =>
              (readValue later).map fun read => (c :: read.1, read.2)
      else (readValue rest).map fun read => (c :: read.1, read.2)

def isNameStart (c : Char) : Bool := c.isAlpha || c == '_'

def isNameChar (c : Char) : Bool := c.isAlphanum || c == '_'

/-- A name that can stand in a block. -/
def isName : List Char → Bool
  | [] => false
  | c :: rest => isNameStart c && rest.all isNameChar

/-- A label, and what follows it. -/
def readLabel (text : List Char) : Option (Label × List Char) :=
  if isName (text.takeWhile isNameChar) then
    match text.dropWhile isNameChar with
    | '=' :: '"' :: rest =>
        (readValue rest).map fun read => ((text.takeWhile isNameChar, read.1), read.2)
    | _ => none
  else none

theorem readValue_quote (rest : List Char) : readValue ('"' :: rest) = some ([], rest) := by
  rw [readValue.eq_def]
  rfl

/-- What is left of a text is shorter. -/
theorem length_readValue {text : List Char} : ∀ {value rest : List Char},
    readValue text = some (value, rest) → rest.length < text.length := by
  induction text using readValue.induct with
  | case1 => nofun
  | case2 later =>
      intro value rest read
      rw [readValue_quote] at read
      cases read
      exact Nat.lt_succ_self _
  | case3 later =>
      intro value rest read
      rw [readValue.eq_def] at read
      cases read
  | case4 => nofun
  | case5 escaped later _ _ ih =>
      intro value rest read
      obtain ⟨c, -, inner⟩ := Option.bind_eq_some_iff.mp read
      obtain ⟨⟨front, back⟩, readLater, split⟩ := Option.map_eq_some_iff.mp inner
      obtain ⟨-, rfl⟩ := Prod.mk.inj split
      have shorter := ih readLater
      simp only [List.length_cons]
      omega
  | case6 c later notQuote notBreak notBackslash ih =>
      intro value rest read
      rw [readValue.eq_def] at read
      simp only [if_neg notQuote, if_neg notBreak, if_neg notBackslash] at read
      obtain ⟨⟨front, back⟩, readLater, split⟩ := Option.map_eq_some_iff.mp read
      obtain ⟨-, rfl⟩ := Prod.mk.inj split
      exact Nat.lt_succ_of_lt (ih readLater)

theorem length_readLabel {text rest : List Char} {label : Label}
    (read : readLabel text = some (label, rest)) : rest.length < text.length := by
  rw [readLabel] at read
  split at read
  · have shorter := (List.dropWhile_sublist isNameChar (l := text)).length_le
    split at read
    · rename_i later found
      obtain ⟨⟨value, back⟩, readLater, split⟩ := Option.map_eq_some_iff.mp read
      obtain ⟨-, rfl⟩ := Prod.mk.inj split
      have inside : back.length < later.length := length_readValue readLater
      rw [found, List.length_cons, List.length_cons] at shorter
      change back.length < text.length
      omega
    · cases read
  · cases read

/-- The labels behind the first one, up to the closing brace. -/
def readRest : List Char → Option (List Label × List Char)
  | '}' :: rest => some ([], rest)
  | ',' :: text =>
      match _read : readLabel text with
      | none => none
      | some (label, later) => (readRest later).map fun read => (label :: read.1, read.2)
  | _ => none
termination_by text => text.length
decreasing_by
  have := length_readLabel _read
  simp only [List.length_cons]
  omega

/-- A block, and what follows it. -/
def readBlock : List Char → Option (List Label × List Char)
  | '{' :: text =>
      if text.head? = some '}' then some ([], text.tail)
      else
        (readLabel text).bind fun first =>
          (readRest first.2).map fun read => (first.1 :: read.1, read.2)
  | _ => none

/-! ## Reading undoes rendering -/

/-- One escaped character, in front of anything. -/
theorem readValue_escapeChar (c : Char) (text : List Char) :
    readValue (escapeChar c ++ text) = (readValue text).map fun read => (c :: read.1, read.2) := by
  rw [escapeChar]
  split
  · rename_i isBackslash
    subst isBackslash
    rfl
  split
  · rename_i isQuote
    subst isQuote
    rfl
  split
  · rename_i isBreak
    subst isBreak
    rfl
  rename_i notBackslash notQuote notBreak
  rw [List.singleton_append, readValue.eq_def]
  simp only [if_neg notQuote, if_neg notBreak, if_neg notBackslash]

/-- **A value** is read up to its closing quotation mark, whatever follows. -/
theorem readValue_escape (value rest : List Char) :
    readValue (escape value ++ '"' :: rest) = some (value, rest) := by
  induction value with
  | nil => exact readValue_quote rest
  | cons c value ih =>
      rw [escape, List.flatMap_cons, List.append_assoc, ← escape, readValue_escapeChar, ih]
      rfl

theorem readLabel_render {name : List Char} (valid : isName name = true)
    (value rest : List Char) :
    readLabel (renderLabel (name, value) ++ rest) = some ((name, value), rest) := by
  have chars : ∀ c ∈ name, isNameChar c = true := by
    cases name with
    | nil => nofun
    | cons first later =>
        rw [isName, Bool.and_eq_true, List.all_eq_true] at valid
        rw [List.forall_mem_cons]
        refine ⟨?_, valid.2⟩
        have start := valid.1
        rw [isNameStart, Bool.or_eq_true] at start
        rw [isNameChar, Char.isAlphanum, Bool.or_eq_true, Bool.or_eq_true]
        exact start.imp_left .inl
  have text : renderLabel (name, value) ++ rest =
      name ++ '=' :: '"' :: (escape value ++ '"' :: rest) := by
    rw [renderLabel, List.append_assoc, List.cons_append, List.cons_append, List.append_assoc]
    rfl
  have taken : (renderLabel (name, value) ++ rest).takeWhile isNameChar = name := by
    rw [text, List.takeWhile_append_of_pos chars, List.takeWhile_cons_of_neg (by decide),
      List.append_nil]
  have dropped : (renderLabel (name, value) ++ rest).dropWhile isNameChar =
      '=' :: '"' :: (escape value ++ '"' :: rest) := by
    rw [text, List.dropWhile_append_of_pos chars, List.dropWhile_cons_of_neg (by decide)]
  rw [readLabel, taken, if_pos valid, dropped]
  change (readValue (escape value ++ '"' :: rest)).map _ = _
  rw [readValue_escape]
  rfl

theorem readRest_render {labels : List Label} (names : ∀ label ∈ labels, isName label.1 = true)
    (rest : List Char) : readRest (renderRest labels ++ '}' :: rest) = some (labels, rest) := by
  induction labels with
  | nil => rw [renderRest, List.flatMap_nil, List.nil_append, readRest]
  | cons label labels ih =>
      obtain ⟨head, tail⟩ := List.forall_mem_cons.mp names
      have first := readLabel_render head label.2 (renderRest labels ++ '}' :: rest)
      rw [renderRest, List.flatMap_cons, List.append_assoc, List.cons_append, ← renderRest,
        readRest]
      split
      · rename_i missing
        rw [first] at missing
        cases missing
      · rename_i other later found
        rw [first] at found
        obtain ⟨rfl, rfl⟩ := Prod.mk.inj (Option.some.inj found)
        rw [ih tail]
        rfl

/-- **Reading undoes rendering**, whatever the values are and whatever follows. -/
theorem readBlock_render {labels : List Label} (names : ∀ label ∈ labels, isName label.1 = true)
    (rest : List Char) : readBlock (render labels ++ rest) = some (labels, rest) := by
  cases labels with
  | nil => rfl
  | cons label labels =>
      obtain ⟨head, tail⟩ := List.forall_mem_cons.mp names
      have first := readLabel_render head label.2 (renderRest labels ++ '}' :: rest)
      have text : render (label :: labels) ++ rest =
          '{' :: (renderLabel label ++ (renderRest labels ++ '}' :: rest)) := by
        rw [render, List.cons_append, List.append_assoc, List.append_assoc]
        rfl
      have labelled :
          (renderLabel label ++ (renderRest labels ++ '}' :: rest)).head? ≠ some '}' := by
        obtain ⟨name, value⟩ := label
        cases name with
        | nil => cases head
        | cons c name =>
            rintro ⟨⟩
            cases head
      rw [text, readBlock, if_neg labelled, first, Option.bind_some, readRest_render tail]
      rfl

/-- Different labels are rendered differently. -/
theorem render_injective {first second : List Label}
    (firstNames : ∀ label ∈ first, isName label.1 = true)
    (secondNames : ∀ label ∈ second, isName label.1 = true) (same : render first = render second) :
    first = second := by
  have read := readBlock_render firstNames []
  rw [same, readBlock_render secondNames, Option.some.injEq, Prod.mk.injEq] at read
  exact read.1.symm

/-! ## One line -/

theorem newline_notMem_escape (value : List Char) : '\n' ∉ escape value := by
  rw [escape, List.mem_flatMap]
  rintro ⟨c, -, member⟩
  rw [escapeChar] at member
  split at member
  · revert member
    decide
  split at member
  · revert member
    decide
  split at member
  · revert member
    decide
  · rename_i other
    exact other (List.mem_singleton.mp member).symm

theorem newline_notMem_renderLabel {name : List Char} (valid : isName name = true)
    (value : List Char) : '\n' ∉ renderLabel (name, value) := by
  have plain : '\n' ∉ name := by
    cases name with
    | nil => nofun
    | cons first later =>
        rw [isName, Bool.and_eq_true, List.all_eq_true] at valid
        rw [List.mem_cons]
        rintro (rfl | member)
        · cases valid.1
        · cases valid.2 _ member
  rw [renderLabel, List.mem_append, List.mem_cons, List.mem_cons, List.mem_append,
    List.mem_singleton]
  rintro (member | wrong | wrong | member | wrong)
  · exact plain member
  · cases wrong
  · cases wrong
  · exact newline_notMem_escape value member
  · cases wrong

/-- **A block is one line.** -/
theorem newline_notMem_render {labels : List Label}
    (names : ∀ label ∈ labels, isName label.1 = true) : '\n' ∉ render labels := by
  cases labels with
  | nil => decide
  | cons label labels =>
      obtain ⟨head, tail⟩ := List.forall_mem_cons.mp names
      rw [render, List.mem_cons, List.mem_append, List.mem_append, List.mem_singleton, renderRest,
        List.mem_flatMap]
      rintro (wrong | member | ⟨other, listed, member⟩ | wrong)
      · cases wrong
      · exact newline_notMem_renderLabel head label.2 member
      · rcases List.mem_cons.mp member with wrong | inside
        · cases wrong
        · exact newline_notMem_renderLabel (tail other listed) other.2 inside
      · cases wrong

end Labels
