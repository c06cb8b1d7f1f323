import Mathlib.Data.List.Basic
import Macdack.Library.Fragments

/-!
# Streams of tagged fields

An area of a message holds a stream of tagged fields. A field is a code, a
length byte and that many value bytes. The code `0` is a pad without a length,
and the code `255` ends the stream: what follows it is not read. A stream
without an end mark ends with the area.

`Area` is a well-formed area: its fields carry their own bounds, so an area
that cannot be written cannot be built. `scan` reads the fields of a byte
string. Reading what an area renders to gives its fields back (`scan_render`),
and a byte string that is read without an error is the rendering of an area
(`exists_area_of_scan`).

A value longer than a length byte can count is cut into fragments
(`encode`, `exists_items_encodeAll`). A table lists the value of each code or none, and
what is scanned from an encoded table gathers to the values of the table
(`gather_table`).
-/

set_option autoImplicit false

namespace OptionStream

/-! ## Areas -/

/-- A field that can be written: its code is neither the pad nor the end mark,
and its length fits a byte. -/
structure Field where
  code : UInt8
  value : List UInt8
  code_ne_pad : code ≠ 0
  code_ne_end : code ≠ 255
  length_le : value.length ≤ 255

/-- One element of a stream. -/
inductive Item where
  | pad
  | field (content : Field)

/-- How a stream ends: with the end mark and bytes nobody reads, or with the
area. -/
inductive Ending where
  | endMark (trailing : List UInt8)
  | exhausted

/-- A well-formed area. -/
structure Area where
  items : List Item
  ending : Ending

/-- The code and the value of a field. -/
def Field.fragment (field : Field) : UInt8 × List UInt8 := (field.code, field.value)

def Field.render (field : Field) : List UInt8 :=
  field.code :: UInt8.ofNat field.value.length :: field.value

def Item.render : Item → List UInt8
  | .pad => [0]
  | .field content => content.render

def Ending.render : Ending → List UInt8
  | .endMark trailing => 255 :: trailing
  | .exhausted => []

/-- The bytes of an area. -/
def Area.render (area : Area) : List UInt8 :=
  area.items.flatMap Item.render ++ area.ending.render

def Item.fragments : Item → List (UInt8 × List UInt8)
  | .pad => []
  | .field content => [content.fragment]

/-- The fields of an area in order, without the pads. -/
def Area.fragments (area : Area) : List (UInt8 × List UInt8) :=
  area.items.flatMap Item.fragments

/-! ## Scanning -/

/-- Why a byte string is not an area. -/
inductive Malformed where
  | missingLength
  | truncated (code : UInt8)
  deriving DecidableEq, Repr

/-- Put one more fragment in front of what was scanned. -/
def addFragment (fragment : UInt8 × List UInt8) :
    Except Malformed (List (UInt8 × List UInt8)) → Except Malformed (List (UInt8 × List UInt8))
  | .ok fragments => .ok (fragment :: fragments)
  | .error malformed => .error malformed

/-- The fields of a byte string, or the first reason that it is not an area. -/
def scan : List UInt8 → Except Malformed (List (UInt8 × List UInt8))
  | [] => .ok []
  | code :: rest =>
      if code = 255 then .ok []
      else if code = 0 then scan rest
      else
        match rest with
        | [] => .error .missingLength
        | length :: tail =>
            if tail.length < length.toNat then .error (.truncated code)
            else addFragment (code, tail.take length.toNat) (scan (tail.drop length.toNat))
termination_by bytes => bytes.length
decreasing_by
  · simp
  · simp only [List.length_drop, List.length_cons]
    omega

@[simp] theorem scan_nil : scan [] = .ok [] := by
  rw [scan]

@[simp] theorem scan_end (trailing : List UInt8) : scan (255 :: trailing) = .ok [] := by
  rw [scan.eq_def]
  exact if_pos rfl

@[simp] theorem scan_pad (rest : List UInt8) : scan (0 :: rest) = scan rest := by
  rw [scan.eq_def]
  exact (if_neg (by decide)).trans (if_pos rfl)

/-- A code that is neither a pad nor the end mark needs a length. -/
theorem scan_missing {code : UInt8} (nonPad : code ≠ 0) (nonEnd : code ≠ 255) :
    scan [code] = .error .missingLength := by
  rw [scan.eq_def]
  exact (if_neg nonEnd).trans (if_neg nonPad)

/-- A code and a length are followed by that many bytes. -/
theorem scan_code {code : UInt8} (nonPad : code ≠ 0) (nonEnd : code ≠ 255) (length : UInt8)
    (tail : List UInt8) :
    scan (code :: length :: tail) =
      if tail.length < length.toNat then .error (.truncated code)
      else addFragment (code, tail.take length.toNat) (scan (tail.drop length.toNat)) := by
  rw [scan.eq_def]
  exact (if_neg nonEnd).trans (if_neg nonPad)

theorem addFragment_eq_ok {fragment : UInt8 × List UInt8} {fragments : List (UInt8 × List UInt8)}
    {scanned : Except Malformed (List (UInt8 × List UInt8))} :
    addFragment fragment scanned = .ok fragments ↔
      ∃ rest, scanned = .ok rest ∧ fragments = fragment :: rest := by
  cases scanned with
  | ok rest => simp [addFragment, eq_comm]
  | error malformed => simp [addFragment]

/-- Scanning a field in front of anything reads that field. -/
theorem scan_field (field : Field) (rest : List UInt8) :
    scan (field.render ++ rest) = addFragment field.fragment (scan rest) := by
  have length : (UInt8.ofNat field.value.length).toNat = field.value.length := by
    rw [UInt8.toNat_ofNat']
    have := field.length_le
    omega
  rw [Field.render, List.cons_append, List.cons_append,
    scan_code field.code_ne_pad field.code_ne_end, length, if_neg (by simp), List.take_left,
    List.drop_left]
  rfl

/-- Scanning items in front of anything reads their fields, and then what
follows. -/
theorem scan_items (items : List Item) (rest : List UInt8) :
    scan (items.flatMap Item.render ++ rest) =
      (scan rest).map (items.flatMap Item.fragments ++ ·) := by
  induction items with
  | nil =>
      change scan rest = (scan rest).map id
      rw [Except.map_id]
      rfl
  | cons item items ih =>
      rw [List.flatMap_cons, List.append_assoc]
      cases item with
      | pad =>
          change scan (0 :: (items.flatMap Item.render ++ rest)) = _
          rw [scan_pad, ih]
          rfl
      | field content =>
          change scan (content.render ++ (items.flatMap Item.render ++ rest)) = _
          rw [scan_field, ih]
          cases scan rest with
          | ok later => rfl
          | error malformed => rfl

/-- **Reading what was written.** Scanning an area gives its fields. -/
theorem scan_render (area : Area) : scan area.render = .ok area.fragments := by
  obtain ⟨items, ending⟩ := area
  induction items with
  | nil =>
      cases ending with
      | endMark trailing => exact scan_end trailing
      | exhausted => exact scan_nil
  | cons item items ih =>
      cases item with
      | pad =>
          change scan (0 :: (Area.mk items ending).render) = _
          rw [scan_pad, ih]
          rfl
      | field content =>
          change scan ((content.render ++ items.flatMap Item.render) ++ ending.render) = _
          rw [List.append_assoc, scan_field]
          change addFragment _ (scan (Area.mk items ending).render) = _
          rw [ih]
          rfl

/-- **Nothing else is accepted.** A byte string that scans is the rendering of
an area with the fields scanned. The induction is on the length: each step of
the scanner consumes one item. -/
theorem exists_area_of_scan : ∀ (bytes : List UInt8) {fragments : List (UInt8 × List UInt8)},
    scan bytes = .ok fragments → ∃ area : Area, area.render = bytes ∧ area.fragments = fragments
  | [], fragments, scanned => by
      rw [scan_nil, Except.ok.injEq] at scanned
      exact ⟨⟨[], .exhausted⟩, rfl, scanned⟩
  | code :: rest, fragments, scanned => by
      by_cases isEnd : code = 255
      · subst isEnd
        rw [scan_end, Except.ok.injEq] at scanned
        exact ⟨⟨[], .endMark rest⟩, rfl, scanned⟩
      by_cases isPad : code = 0
      · subst isPad
        rw [scan_pad] at scanned
        obtain ⟨area, rendered, read⟩ := exists_area_of_scan rest scanned
        refine ⟨⟨.pad :: area.items, area.ending⟩, ?_, read⟩
        change 0 :: area.render = _
        rw [rendered]
      cases rest with
      | nil =>
          rw [scan_missing isPad isEnd] at scanned
          cases scanned
      | cons length tail =>
          rw [scan_code isPad isEnd] at scanned
          by_cases short : tail.length < length.toNat
          · rw [if_pos short] at scanned
            cases scanned
          rw [if_neg short, addFragment_eq_ok] at scanned
          obtain ⟨later, scannedRest, split⟩ := scanned
          obtain ⟨area, rendered, read⟩ := exists_area_of_scan (tail.drop length.toNat) scannedRest
          have taken : (tail.take length.toNat).length = length.toNat := by
            rw [List.length_take]
            omega
          have bound : length.toNat ≤ 255 := by
            have := length.toNat_lt
            omega
          let field : Field :=
            ⟨code, tail.take length.toNat, isPad, isEnd, by rw [taken]; exact bound⟩
          have renderField : field.render = code :: length :: tail.take length.toNat := by
            change code :: UInt8.ofNat (tail.take length.toNat).length :: _ = _
            rw [taken, UInt8.ofNat_toNat]
          refine ⟨⟨.field field :: area.items, area.ending⟩, ?_, ?_⟩
          · change (field.render ++ _) ++ _ = _
            rw [List.append_assoc]
            change field.render ++ area.render = _
            rw [renderField, rendered, List.cons_append, List.cons_append, List.take_append_drop]
          · change field.fragment :: area.fragments = _
            rw [read, split]
            rfl
termination_by bytes => bytes.length
decreasing_by
  · simp
  · subst_vars
    simp only [List.length_drop, List.length_cons]
    omega

/-! ## Encoding long values -/

/-- Cut a list into pieces of the given size, the last one possibly shorter. -/
def chunks {α : Type} (size : ℕ) (positive : 0 < size) (values : List α) : List (List α) :=
  if values = [] then []
  else values.take size :: chunks size positive (values.drop size)
termination_by values.length
decreasing_by
  rename_i nonempty
  have := List.length_pos_iff.mpr nonempty
  simp only [List.length_drop]
  omega

theorem chunks_nil {α : Type} (size : ℕ) (positive : 0 < size) :
    chunks size positive ([] : List α) = [] := by
  rw [chunks, if_pos rfl]

theorem chunks_of_ne_nil {α : Type} {size : ℕ} (positive : 0 < size) {values : List α}
    (nonempty : values ≠ []) :
    chunks size positive values = values.take size :: chunks size positive (values.drop size) := by
  rw [chunks, if_neg nonempty]

/-- The pieces put together are the list. -/
theorem flatten_chunks {α : Type} (size : ℕ) (positive : 0 < size) (values : List α) :
    (chunks size positive values).flatten = values := by
  induction values using chunks.induct size positive with
  | case1 => rw [chunks_nil, List.flatten_nil]
  | case2 values nonempty ih =>
      rw [chunks_of_ne_nil positive nonempty, List.flatten_cons, ih, List.take_append_drop]

theorem length_le_of_mem_chunks {α : Type} {size : ℕ} (positive : 0 < size) {values piece : List α}
    (member : piece ∈ chunks size positive values) : piece.length ≤ size := by
  induction values using chunks.induct size positive with
  | case1 =>
      rw [chunks_nil] at member
      cases member
  | case2 values nonempty ih =>
      rw [chunks_of_ne_nil positive nonempty] at member
      rcases List.mem_cons.mp member with rfl | later
      · exact List.length_take_le _ _
      · exact ih later

/-- A list of `n` elements is cut into `n / size` pieces, rounded up. -/
theorem length_chunks {α : Type} (size : ℕ) (positive : 0 < size) (values : List α) :
    (chunks size positive values).length = (values.length + (size - 1)) / size := by
  induction values using chunks.induct size positive with
  | case1 =>
      rw [chunks_nil, List.length_nil, List.length_nil, Nat.zero_add,
        Nat.div_eq_of_lt (by omega)]
  | case2 values nonempty ih =>
      have some := List.length_pos_iff.mpr nonempty
      rw [chunks_of_ne_nil positive nonempty, List.length_cons, ih, List.length_drop]
      by_cases short : values.length ≤ size
      · rw [Nat.sub_eq_zero_of_le short, Nat.zero_add, Nat.div_eq_of_lt (by omega)]
        have one : (values.length + (size - 1)) / size = 1 :=
          Nat.div_eq_of_lt_le (by omega) (by omega)
        rw [one]
      · have split : values.length + (size - 1) = (values.length - size + (size - 1)) + size := by
          omega
        rw [split, Nat.add_div_right _ positive]

/-- The fragments of one value. An empty value has none. -/
def fragmentsOf (code : UInt8) (value : List UInt8) : List (UInt8 × List UInt8) :=
  (chunks 255 (by decide) value).map fun piece => (code, piece)

/-- The bytes of one value, fragment by fragment. -/
def encode (code : UInt8) (value : List UInt8) : List UInt8 :=
  (chunks 255 (by decide) value).flatMap fun piece =>
    code :: UInt8.ofNat piece.length :: piece

/-- The bytes of several values in order. -/
def encodeAll (entries : List (UInt8 × List UInt8)) : List UInt8 :=
  entries.flatMap fun entry => encode entry.1 entry.2

@[simp] theorem encode_nil (code : UInt8) : encode code [] = [] := by
  rw [encode, chunks_nil, List.flatMap_nil]

@[simp] theorem encodeAll_cons (entry : UInt8 × List UInt8) (entries : List (UInt8 × List UInt8)) :
    encodeAll (entry :: entries) = encode entry.1 entry.2 ++ encodeAll entries := rfl

theorem encodeAll_append (first second : List (UInt8 × List UInt8)) :
    encodeAll (first ++ second) = encodeAll first ++ encodeAll second :=
  List.flatMap_append

/-- A short value is one piece. -/
theorem encode_of_short {code : UInt8} {value : List UInt8} (nonempty : value ≠ [])
    (short : value.length ≤ 255) :
    encode code value = code :: UInt8.ofNat value.length :: value := by
  rw [encode, chunks_of_ne_nil (by decide) nonempty, List.take_of_length_le short,
    List.drop_eq_nil_of_le short, chunks_nil, List.flatMap_cons, List.flatMap_nil, List.append_nil]

/-- Two bytes for each started piece, and the value. -/
theorem length_encode (code : UInt8) (value : List UInt8) :
    (encode code value).length = value.length + (value.length + 254) / 255 * 2 := by
  have pieces : ∀ parts : List (List UInt8),
      (parts.flatMap fun piece => code :: UInt8.ofNat piece.length :: piece).length =
        parts.flatten.length + parts.length * 2 := by
    intro parts
    induction parts with
    | nil => rfl
    | cons piece parts ih =>
        simp only [List.flatMap_cons, List.length_append, ih, List.length_cons, List.flatten_cons]
        omega
  rw [encode, pieces, flatten_chunks, length_chunks]

/-- The pieces of one value are items of an area. -/
theorem exists_items_of_pieces {code : UInt8} (nonPad : code ≠ 0) (nonEnd : code ≠ 255)
    {pieces : List (List UInt8)} (short : ∀ piece ∈ pieces, piece.length ≤ 255) :
    ∃ items : List Item,
      items.flatMap Item.render =
          (pieces.flatMap fun piece => code :: UInt8.ofNat piece.length :: piece) ∧
        items.flatMap Item.fragments = pieces.map fun piece => (code, piece) := by
  induction pieces with
  | nil => exact ⟨[], rfl, rfl⟩
  | cons piece pieces ih =>
      obtain ⟨headShort, tailShort⟩ := List.forall_mem_cons.mp short
      obtain ⟨items, rendered, read⟩ := ih tailShort
      refine ⟨.field ⟨code, piece, nonPad, nonEnd, headShort⟩ :: items, ?_, ?_⟩
      · rw [List.flatMap_cons, List.flatMap_cons, rendered]
        rfl
      · rw [List.flatMap_cons, List.map_cons, read]
        rfl

/-- Encoded values are items of an area, with the fragments of the values. -/
theorem exists_items_encodeAll {entries : List (UInt8 × List UInt8)}
    (codes : ∀ entry ∈ entries, entry.1 ≠ 0 ∧ entry.1 ≠ 255) :
    ∃ items : List Item, items.flatMap Item.render = encodeAll entries ∧
      items.flatMap Item.fragments = entries.flatMap fun entry => fragmentsOf entry.1 entry.2 := by
  induction entries with
  | nil => exact ⟨[], rfl, rfl⟩
  | cons entry entries ih =>
      obtain ⟨head, tail⟩ := List.forall_mem_cons.mp codes
      obtain ⟨later, laterRendered, laterRead⟩ := ih tail
      obtain ⟨items, rendered, read⟩ := exists_items_of_pieces head.1 head.2
        (fun piece (member : piece ∈ chunks 255 (by decide) entry.2) =>
          length_le_of_mem_chunks (by decide) member)
      refine ⟨items ++ later, ?_, ?_⟩
      · rw [List.flatMap_append, rendered, laterRendered, encodeAll_cons, encode]
      · rw [List.flatMap_append, read, laterRead, List.flatMap_cons, fragmentsOf]

/-! ## Tables of values -/

/-- A table of values, with none for a code that is left out. -/
abbrev Table := List (UInt8 × Option (List UInt8))

namespace Table

/-- The values that are present. A value left out is an empty one, which has no
fragments. -/
def entries (table : Table) : List (UInt8 × List UInt8) :=
  table.map fun row => (row.1, row.2.getD [])

/-- The bytes of a table. -/
def encode (table : Table) : List UInt8 := encodeAll table.entries

/-- The value of a code. An empty value counts as none. -/
def value (table : Table) (code : UInt8) : Option (List UInt8) :=
  (table.lookup code).join.filter fun value => !value.isEmpty

@[simp] theorem encode_nil : encode [] = [] := rfl

@[simp] theorem encode_cons_none (code : UInt8) (table : Table) :
    encode ((code, none) :: table) = encode table :=
  congrArg (· ++ encode table) (OptionStream.encode_nil code)

@[simp] theorem encode_cons_some (code : UInt8) (value : List UInt8) (table : Table) :
    encode ((code, some value) :: table) = OptionStream.encode code value ++ encode table := rfl

theorem encode_append (first second : Table) :
    encode (first ++ second) = encode first ++ encode second := by
  rw [encode, entries, List.map_append, encodeAll_append]
  rfl

theorem value_cons_of_ne {code other : UInt8} (different : code ≠ other)
    (held : Option (List UInt8)) (table : Table) :
    value ((other, held) :: table) code = table.value code := by
  rw [value, value, List.lookup_cons, beq_false_of_ne different]

theorem value_append_of_ne {code other : UInt8} (different : code ≠ other)
    (held : Option (List UInt8)) (table : Table) :
    value (table ++ [(other, held)]) code = table.value code := by
  rw [value, value, List.lookup_append, List.lookup_cons, beq_false_of_ne different,
    List.lookup_nil, Option.or_none]

/-- A value of a table is listed. -/
theorem mem_of_value {table : Table} {code : UInt8} {held : List UInt8}
    (found : table.value code = some held) : (code, some held) ∈ table := by
  rw [value, Option.filter_eq_some_iff, Option.join_eq_some_iff, List.lookup_eq_some_iff] at found
  obtain ⟨⟨earlier, later, rfl, -⟩, -⟩ := found
  exact List.mem_append_right _ List.mem_cons_self

theorem lookup_of_value {table : Table} {code : UInt8} {held : List UInt8}
    (found : table.value code = some held) : table.lookup code = some (some held) := by
  rw [value, Option.filter_eq_some_iff, Option.join_eq_some_iff] at found
  exact found.1

theorem ne_nil_of_value {table : Table} {code : UInt8} {held : List UInt8}
    (found : table.value code = some held) : held ≠ [] := by
  rw [value, Option.filter_eq_some_iff, Bool.not_eq_true', List.isEmpty_eq_false_iff] at found
  exact found.2

end Table

/-- A short value is one fragment. -/
theorem fragmentsOf_of_short {code : UInt8} {value : List UInt8} (nonempty : value ≠ [])
    (short : value.length ≤ 255) : fragmentsOf code value = [(code, value)] := by
  rw [fragmentsOf, chunks_of_ne_nil (by decide) nonempty, List.take_of_length_le short,
    List.drop_eq_nil_of_le short, chunks_nil, List.map_singleton]

/-- A short value of a table is one of its fragments. -/
theorem Table.mem_fragments {table : Table} {code : UInt8} {held : List UInt8}
    (found : table.value code = some held) (short : held.length ≤ 255) :
    (code, held) ∈ table.entries.flatMap fun entry => fragmentsOf entry.1 entry.2 := by
  rw [List.mem_flatMap]
  refine ⟨(code, held), List.mem_map.mpr ⟨_, mem_of_value found, rfl⟩, ?_⟩
  rw [fragmentsOf_of_short (ne_nil_of_value found) short]
  exact List.mem_singleton_self _

theorem gather_fragmentsOf (code : UInt8) (value : List UInt8) :
    Fragments.gather code (fragmentsOf code value) =
      (some value).filter fun value => !value.isEmpty := by
  rw [fragmentsOf, Fragments.gather_map_self, flatten_chunks]
  cases value with
  | nil => rw [chunks_nil, if_pos rfl]; rfl
  | cons byte rest =>
      rw [chunks_of_ne_nil (by decide) (List.cons_ne_nil _ _), if_neg (List.cons_ne_nil _ _)]
      rfl

/-- **The fragments of a table gather to its values**, when no code is listed
twice. -/
theorem gather_table {table : Table} (distinct : (table.map Prod.fst).Nodup) (code : UInt8) :
    Fragments.gather code (table.entries.flatMap fun entry => fragmentsOf entry.1 entry.2) =
      table.value code := by
  induction table with
  | nil => rfl
  | cons row table ih =>
      obtain ⟨other, held⟩ := row
      rw [List.map_cons, List.nodup_cons] at distinct
      have later := ih distinct.2
      rw [Table.entries, List.map_cons, List.flatMap_cons, Fragments.gather_append]
      change Option.merge _ _ (Fragments.gather code
        (Table.entries table |>.flatMap fun entry => fragmentsOf entry.1 entry.2)) = _
      by_cases same : code = other
      · subst same
        have absent : Table.value table code = none := by
          have missing : table.lookup code = none := by
            rw [List.lookup_eq_none_iff]
            intro row member
            refine bne_iff_ne.mpr fun same => ?_
            exact distinct.1 (List.mem_map.mpr ⟨row, member, same.symm⟩)
          rw [Table.value, missing]
          rfl
        rw [later, absent, Option.merge_none_right, gather_fragmentsOf, Table.value,
          List.lookup_cons_self]
        cases held <;> rfl
      · have other_none : Fragments.gather code (fragmentsOf other (held.getD [])) = none :=
          Fragments.gather_map_of_ne (Ne.symm same) _
        rw [other_none, Option.merge_none_left, later, Table.value, Table.value,
          List.lookup_cons, beq_false_of_ne same]

end OptionStream
