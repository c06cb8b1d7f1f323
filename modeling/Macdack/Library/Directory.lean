import Mathlib.Data.List.Basic
import Macdack.Library.Calls

/-!
# A directory that survives crashes

A directory maps names to files. What a name stands for is durable only after the
directory was synced, and what a file holds only after the file was synced. Until
then a crash may keep or undo each change of a name, and may leave any bytes in a
file.

A single name is a `Cell`: a durable value and the newer values that are not
durable yet, the last of them live. Changes put values, syncing the directory
settles the cell, and a crash leaves one of the possible values. `Directory.cell`
is the cell of a name, and the lemmas of the last sections say what each call does
to it.
-/

set_option autoImplicit false

/-! ## Cells -/

/-- A value with the newer values that a crash may undo, oldest first. -/
structure Cell (α : Type) where
  durable : Option α
  newer : List (Option α)

namespace Cell

variable {α β : Type}

/-- The value that is read. -/
def live (cell : Cell α) : Option α := cell.newer.getLast?.getD cell.durable

/-- The values that a crash may leave. -/
def possible (cell : Cell α) : List (Option α) := cell.durable :: cell.newer

/-- Set the value, not durably. -/
def put (cell : Cell α) (value : Option α) : Cell α :=
  { cell with newer := cell.newer ++ [value] }

/-- Make the live value durable. -/
def settle (cell : Cell α) : Cell α := ⟨cell.live, []⟩

/-- Look the values up elsewhere. -/
def read (look : α → Option β) (cell : Cell α) : Cell β :=
  ⟨cell.durable.bind look, cell.newer.map fun value => value.bind look⟩

/-- A crash leaves one of the possible values, durably. -/
structure Crash (before after : Cell α) : Prop where
  settled : after.newer = []
  durable : after.durable ∈ before.possible

@[simp] theorem live_put (cell : Cell α) (value : Option α) : (cell.put value).live = value := by
  simp [live, put]

@[simp] theorem live_settle (cell : Cell α) : cell.settle.live = cell.live := rfl

@[simp] theorem possible_put (cell : Cell α) (value : Option α) :
    (cell.put value).possible = cell.possible ++ [value] := rfl

@[simp] theorem possible_settle (cell : Cell α) : cell.settle.possible = [cell.live] := rfl

theorem live_mem_possible (cell : Cell α) : cell.live ∈ cell.possible := by
  rw [live, possible]
  cases last : cell.newer.getLast? with
  | none => exact List.mem_cons_self
  | some value => exact List.mem_cons_of_mem _ (List.mem_of_getLast? last)

theorem live_read (look : α → Option β) (cell : Cell α) :
    (cell.read look).live = cell.live.bind look := by
  rw [live, live, read, List.getLast?_map]
  cases cell.newer.getLast? with
  | none => rfl
  | some value => rfl

theorem possible_read (look : α → Option β) (cell : Cell α) :
    (cell.read look).possible = cell.possible.map fun value => value.bind look := rfl

theorem read_put (look : α → Option β) (cell : Cell α) (value : Option α) :
    (cell.put value).read look = (cell.read look).put (value.bind look) := by
  simp [read, put]

theorem read_settle (look : α → Option β) (cell : Cell α) :
    cell.settle.read look = (cell.read look).settle := by
  rw [settle, settle, live_read]
  rfl

/-- Two ways of looking up that agree on the possible values. -/
theorem read_congr {look other : α → Option β} (cell : Cell α)
    (agree : ∀ value, some value ∈ cell.possible → look value = other value) :
    cell.read look = cell.read other := by
  have bound : ∀ value ∈ cell.possible, value.bind look = value.bind other := by
    intro value member
    cases value with
    | none => rfl
    | some held => exact agree held member
  rw [read, read, bound cell.durable List.mem_cons_self]
  congr 1
  exact List.map_congr_left fun value member => bound value (List.mem_cons_of_mem _ member)

theorem Crash.possible_subset {before after : Cell α} (crash : Crash before after)
    {value : Option α} (member : value ∈ after.possible) : value ∈ before.possible := by
  rw [possible, crash.settled] at member
  rw [List.mem_singleton.mp member]
  exact crash.durable

end Cell

/-! ## Directories -/

/-- What a file holds, and whether a crash keeps it. -/
structure File (Byte : Type) where
  data : List Byte
  synced : Bool
  deriving DecidableEq

/-- A change of names. It refers to a file by its number. -/
inductive Change (Name : Type) where
  | link (name : Name) (file : ℕ)
  | move (source target : Name) (file : ℕ)
  | unlink (name : Name)

variable {Name Byte : Type} [DecidableEq Name]

/-- What a change makes of a name, if it is about this name. -/
def Change.effect (name : Name) : Change Name → Option (Option ℕ)
  | link other file => if name = other then some (some file) else none
  | move source target file =>
      if name = target then some (some file) else if name = source then some none else none
  | unlink other => if name = other then some none else none

/-- A directory: its files by number, the durable names, and the changes that are
not durable yet. Every name stands for one of the files. -/
structure Directory (Name Byte : Type) [DecidableEq Name] where
  made : Bool
  files : List (File Byte)
  saved : Name → Option ℕ
  pending : List (Change Name)
  saved_lt : ∀ name file, saved name = some file → file < files.length
  pending_lt : ∀ change ∈ pending, ∀ name file, change.effect name = some (some file) →
    file < files.length

namespace Directory

/-- What a name stands for. -/
def entry (dir : Directory Name Byte) (name : Name) : Cell ℕ :=
  ⟨dir.saved name, dir.pending.filterMap (Change.effect name)⟩

/-- The file of a name. -/
def lookup (dir : Directory Name Byte) (name : Name) : Option ℕ := (dir.entry name).live

/-- The files that a name can stand for. -/
def cell (dir : Directory Name Byte) (name : Name) : Cell (File Byte) :=
  (dir.entry name).read fun file => dir.files[file]?

/-- What is read under a name. -/
def content (dir : Directory Name Byte) (name : Name) : Option (List Byte) :=
  (dir.cell name).live.map File.data

theorem lt_of_entry (dir : Directory Name Byte) {name : Name} {file : ℕ}
    (possible : some file ∈ (dir.entry name).possible) : file < dir.files.length := by
  rcases List.mem_cons.mp possible with durable | newer
  · exact dir.saved_lt name file durable.symm
  · obtain ⟨change, member, effect⟩ := List.mem_filterMap.mp newer
    exact dir.pending_lt change member name file effect

theorem lt_of_lookup (dir : Directory Name Byte) {name : Name} {file : ℕ}
    (found : dir.lookup name = some file) : file < dir.files.length :=
  dir.lt_of_entry (found.symm ▸ (dir.entry name).live_mem_possible :
    some file ∈ (dir.entry name).possible)

/-! ## Changes -/

/-- A new empty file under a name. -/
def create (dir : Directory Name Byte) (name : Name) : Directory Name Byte where
  made := dir.made
  files := dir.files ++ [⟨[], false⟩]
  saved := dir.saved
  pending := dir.pending ++ [.link name dir.files.length]
  saved_lt := by
    intro other file found
    rw [List.length_append]
    exact Nat.lt_add_right _ (dir.saved_lt other file found)
  pending_lt := by
    intro change member other file effect
    rw [List.length_append, List.length_singleton]
    rcases List.mem_append.mp member with old | new
    · exact Nat.lt_add_right _ (dir.pending_lt change old other file effect)
    · rw [List.mem_singleton.mp new, Change.effect] at effect
      split at effect
      · cases effect
        exact Nat.lt_succ_self _
      · cases effect

/-- Change what a file holds. -/
def modify (dir : Directory Name Byte) (file : ℕ) (change : File Byte → File Byte) :
    Directory Name Byte where
  made := dir.made
  files := dir.files.modify file change
  saved := dir.saved
  pending := dir.pending
  saved_lt := by
    intro name other found
    rw [List.length_modify]
    exact dir.saved_lt name other found
  pending_lt := by
    intro change member name other effect
    rw [List.length_modify]
    exact dir.pending_lt change member name other effect

/-- Move a name onto another. -/
def move (dir : Directory Name Byte) (source target : Name) (file : ℕ)
    (found : dir.lookup source = some file) : Directory Name Byte where
  made := dir.made
  files := dir.files
  saved := dir.saved
  pending := dir.pending ++ [.move source target file]
  saved_lt := dir.saved_lt
  pending_lt := by
    intro change member name other effect
    rcases List.mem_append.mp member with old | new
    · exact dir.pending_lt change old name other effect
    · rw [List.mem_singleton.mp new, Change.effect] at effect
      split at effect
      · cases effect
        exact dir.lt_of_lookup found
      · split at effect <;> cases effect

def unlink (dir : Directory Name Byte) (name : Name) : Directory Name Byte where
  made := dir.made
  files := dir.files
  saved := dir.saved
  pending := dir.pending ++ [.unlink name]
  saved_lt := dir.saved_lt
  pending_lt := by
    intro change member other file effect
    rcases List.mem_append.mp member with old | new
    · exact dir.pending_lt change old other file effect
    · rw [List.mem_singleton.mp new, Change.effect] at effect
      split at effect <;> cases effect

/-- Make every change of names durable. -/
def settle (dir : Directory Name Byte) : Directory Name Byte where
  made := dir.made
  files := dir.files
  saved := dir.lookup
  pending := []
  saved_lt := fun _ _ found => dir.lt_of_lookup found
  pending_lt := nofun

/-- What a crash can leave: some of the changes of names, in their order, and the
files with the bytes of those that were synced. The directory itself is there. -/
structure Crash (before after : Directory Name Byte) : Prop where
  made : after.made = before.made
  names : ∃ kept : List (Change Name), kept.Sublist before.pending ∧
    ∀ name, after.saved name =
      (kept.filterMap (Change.effect name)).getLast?.getD (before.saved name)
  pending : after.pending = []
  files : ∀ (number : ℕ) (file : File Byte), before.files[number]? = some file →
    file.synced = true → after.files[number]? = some file

/-- The directory without the changes of names that are not durable. -/
def forget (dir : Directory Name Byte) : Directory Name Byte where
  made := dir.made
  files := dir.files
  saved := dir.saved
  pending := []
  saved_lt := dir.saved_lt
  pending_lt := nofun

/-- A crash can undo every change of names that is not durable. -/
theorem crash_forget (dir : Directory Name Byte) : dir.Crash dir.forget where
  made := rfl
  names := ⟨[], List.nil_sublist _, fun _ => rfl⟩
  pending := rfl
  files := fun _ _ held _ => held

/-! ## What the changes do to the cell of a name -/

theorem entry_of_change (dir after : Directory Name Byte) (change : Change Name) (name : Name)
    (saved : after.saved = dir.saved) (pending : after.pending = dir.pending ++ [change]) :
    after.entry name =
      match change.effect name with
      | none => dir.entry name
      | some value => (dir.entry name).put value := by
  rw [entry, entry, saved, pending, List.filterMap_append, List.filterMap_cons]
  cases change.effect name with
  | none => simp
  | some value => rfl

theorem lookup_create (dir : Directory Name Byte) (name : Name) :
    (dir.create name).lookup name = some dir.files.length := by
  rw [lookup, entry_of_change dir (dir.create name) (.link name dir.files.length) name rfl rfl,
    Change.effect, if_pos rfl, Cell.live_put]

/-- A change that is about other names leaves what a name stands for. -/
theorem lookup_of_change (dir after : Directory Name Byte) (change : Change Name) {name : Name}
    (saved : after.saved = dir.saved) (pending : after.pending = dir.pending ++ [change])
    (apart : change.effect name = none) : after.lookup name = dir.lookup name := by
  rw [lookup, lookup, entry_of_change dir after change name saved pending, apart]

theorem lookup_create_of_ne (dir : Directory Name Byte) {name other : Name} (ne : name ≠ other) :
    (dir.create other).lookup name = dir.lookup name :=
  dir.lookup_of_change _ (.link other dir.files.length) rfl rfl (if_neg ne)

theorem lookup_unlink_of_ne (dir : Directory Name Byte) {name other : Name} (ne : name ≠ other) :
    (dir.unlink other).lookup name = dir.lookup name :=
  dir.lookup_of_change _ (.unlink other) rfl rfl (if_neg ne)

theorem lookup_unlink (dir : Directory Name Byte) (name : Name) :
    (dir.unlink name).lookup name = none := by
  rw [lookup, entry_of_change dir (dir.unlink name) (.unlink name) name rfl rfl, Change.effect,
    if_pos rfl, Cell.live_put]

theorem lookup_move_of_ne (dir : Directory Name Byte) {source target name : Name} {file : ℕ}
    (found : dir.lookup source = some file) (notSource : name ≠ source)
    (notTarget : name ≠ target) :
    (dir.move source target file found).lookup name = dir.lookup name := by
  refine dir.lookup_of_change _ (.move source target file) rfl rfl ?_
  rw [Change.effect, if_neg notTarget, if_neg notSource]

/-- A name that is moved away stands for nothing. -/
theorem lookup_move_source (dir : Directory Name Byte) {source target : Name} {file : ℕ}
    (found : dir.lookup source = some file) (ne : source ≠ target) :
    (dir.move source target file found).lookup source = none := by
  rw [lookup, entry_of_change dir (dir.move source target file found) (.move source target file)
    source rfl rfl, Change.effect, if_neg ne, if_pos rfl, Cell.live_put]

theorem entry_create_of_ne (dir : Directory Name Byte) {name other : Name} (ne : name ≠ other) :
    (dir.create other).entry name = dir.entry name := by
  rw [entry_of_change dir (dir.create other) (.link other dir.files.length) name rfl rfl,
    Change.effect, if_neg ne]

theorem cell_create_of_ne (dir : Directory Name Byte) {name other : Name} (ne : name ≠ other) :
    (dir.create other).cell name = dir.cell name := by
  rw [cell, cell, entry_create_of_ne dir ne]
  refine Cell.read_congr (dir.entry name) fun file possible => ?_
  exact List.getElem?_append_left (dir.lt_of_entry possible)

/-- A name that cannot stand for the file keeps its cell. -/
theorem cell_modify_of_ne (dir : Directory Name Byte) {name : Name} {file : ℕ}
    (apart : some file ∉ (dir.entry name).possible) (change : File Byte → File Byte) :
    (dir.modify file change).cell name = dir.cell name := by
  refine Cell.read_congr (dir.entry name) fun other possible => ?_
  have ne : file ≠ other := fun same => apart (same ▸ possible)
  change (dir.files.modify file change)[other]? = _
  rw [List.getElem?_modify]
  simp [ne]

theorem cell_move_target (dir : Directory Name Byte) {source target : Name} {file : ℕ}
    (found : dir.lookup source = some file) :
    (dir.move source target file found).cell target =
      (dir.cell target).put dir.files[file]? := by
  rw [cell, entry_of_change dir (dir.move source target file found) (.move source target file)
    target rfl rfl, Change.effect, if_pos rfl]
  exact Cell.read_put _ _ _

theorem cell_unlink_of_ne (dir : Directory Name Byte) {name other : Name} (ne : name ≠ other) :
    (dir.unlink other).cell name = dir.cell name := by
  rw [cell, entry_of_change dir (dir.unlink other) (.unlink other) name rfl rfl, Change.effect,
    if_neg ne]
  rfl

theorem cell_settle (dir : Directory Name Byte) (name : Name) :
    dir.settle.cell name = (dir.cell name).settle :=
  Cell.read_settle _ (dir.entry name)

/-- **A crash of the directory is a crash of each cell** whose files are synced. -/
theorem Crash.cell {before after : Directory Name Byte} (crash : Crash before after) {name : Name}
    (synced : ∀ file, some file ∈ (before.cell name).possible → file.synced = true) :
    Cell.Crash (before.cell name) (after.cell name) := by
  obtain ⟨kept, sublist, names⟩ := crash.names
  have found : after.saved name ∈ (before.entry name).possible := by
    rw [names]
    cases last : (kept.filterMap (Change.effect name)).getLast? with
    | none => exact List.mem_cons_self
    | some value =>
        exact List.mem_cons_of_mem _
          ((sublist.filterMap (Change.effect name)).mem (List.mem_of_getLast? last))
  have held : (after.saved name).bind (fun file => after.files[file]?) =
      (after.saved name).bind fun file => before.files[file]? := by
    cases stands : after.saved name with
    | none => rfl
    | some number =>
        rw [stands] at found
        have bound := before.lt_of_entry found
        obtain ⟨file, isFile⟩ : ∃ file, before.files[number]? = some file :=
          ⟨before.files[number], List.getElem?_eq_getElem bound⟩
        have possible : some file ∈ (before.cell name).possible := by
          rw [Directory.cell, Cell.possible_read]
          exact List.mem_map.mpr ⟨_, found, isFile⟩
        change after.files[number]? = before.files[number]?
        rw [isFile, crash.files number file isFile (synced file possible)]
  constructor
  · change ((after.pending.filterMap _).map _) = []
    rw [crash.pending]
    rfl
  · change (after.saved name).bind _ ∈ _
    rw [held, Directory.cell, Cell.possible_read]
    exact List.mem_map_of_mem found

end Directory
