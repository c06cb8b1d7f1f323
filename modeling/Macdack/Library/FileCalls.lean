import Macdack.Library.Directory

/-!
# The calls on a directory

The operations of the operating system that work on one directory. A call can meet
a fault, which the environment decides; without one it does what it is for, or it
answers the error that the directory gives.

The second half is about replacing a file: a new file is written under another
name, synced, moved onto the target, and the directory is synced. The rules say
what each of these calls does to the cell of the target, whatever faults there
are. `Prepared` is what holds between the creation of the new file and its move.
-/

set_option autoImplicit false

open Calls

/-- The kinds of error of a call. -/
inductive IoError where
  | notFound
  | alreadyExists
  | isADirectory
  | badHandle
  | os (code : ℕ)
  deriving DecidableEq, Repr

/-- A fault of a call. When a write fails it may have written some bytes. -/
structure Fault where
  error : IoError
  written : ℕ

/-- The calls. An open file is referred to by its number. -/
inductive FileCall (Name Byte : Type) where
  | createDirAll
  | createNew (name : Name)
  | writeAll (file : ℕ) (bytes : List Byte)
  | syncAll (file : ℕ)
  | rename (source target : Name)
  | openDir
  | syncDir
  | remove (name : Name)
  | read (name : Name)

namespace FileCall

variable {Name Byte : Type}

/-- What a call gives when it succeeds. -/
@[reducible] def Value : FileCall Name Byte → Type
  | createNew _ => ℕ
  | read _ => List Byte
  | _ => Unit

/-- What a call answers. -/
@[reducible] def Answer (call : FileCall Name Byte) : Type := Except IoError call.Value

variable [DecidableEq Name]

/-- A call that meets no fault. -/
def proceed : (call : FileCall Name Byte) → Directory Name Byte →
    call.Answer × Directory Name Byte
  | createDirAll, dir => (.ok (), { dir with made := true })
  | createNew name, dir =>
      if dir.made then
        if (dir.lookup name).isSome then (.error .alreadyExists, dir)
        else (.ok dir.files.length, dir.create name)
      else (.error .notFound, dir)
  | writeAll file bytes, dir =>
      if file < dir.files.length then
        (.ok (), dir.modify file fun held => ⟨held.data ++ bytes, false⟩)
      else (.error .badHandle, dir)
  | syncAll file, dir =>
      if file < dir.files.length then
        (.ok (), dir.modify file fun held => ⟨held.data, true⟩)
      else (.error .badHandle, dir)
  | rename source target, dir =>
      match found : dir.lookup source with
      | some file => (.ok (), dir.move source target file found)
      | none => (.error .notFound, dir)
  | openDir, dir => (if dir.made then .ok () else .error .notFound, dir)
  | syncDir, dir => (.ok (), dir.settle)
  | remove name, dir =>
      if (dir.lookup name).isSome then (.ok (), dir.unlink name) else (.error .notFound, dir)
  | read name, dir =>
      (match dir.content name with
        | some data => .ok data
        | none => .error .notFound, dir)

/-- What a call leaves that meets a fault. -/
def leave (fault : Fault) : FileCall Name Byte → Directory Name Byte → Directory Name Byte
  | writeAll file bytes, dir =>
      dir.modify file fun held => ⟨held.data ++ bytes.take fault.written, false⟩
  | _, dir => dir

/-- The directory, with the faults that the environment decides. -/
def device (faults : FileCall Name Byte → Option Fault) :
    Device (FileCall Name Byte) Answer (Directory Name Byte) := fun call dir =>
  match faults call with
  | some fault => (.error fault.error, call.leave fault dir)
  | none => call.proceed dir

theorem device_of_fault {faults : FileCall Name Byte → Option Fault} {call : FileCall Name Byte}
    {fault : Fault} (met : faults call = some fault) (dir : Directory Name Byte) :
    device faults call dir = (.error fault.error, call.leave fault dir) := by
  rw [device, met]

theorem device_of_none {faults : FileCall Name Byte → Option Fault} {call : FileCall Name Byte}
    (free : faults call = none) (dir : Directory Name Byte) :
    device faults call dir = call.proceed dir := by
  rw [device, free]

theorem proceed_rename {source target : Name} {file : ℕ} {dir : Directory Name Byte}
    (found : dir.lookup source = some file) :
    (rename source target : FileCall Name Byte).proceed dir =
      (.ok (), dir.move source target file found) := by
  rw [proceed]
  split
  · rename_i other same
    obtain rfl : file = other := Option.some.inj (found.symm.trans same)
    rfl
  · rename_i missing
    rw [found] at missing
    cases missing

/-! ## What each call can do -/

section Inversion

variable (faults : FileCall Name Byte → Option Fault) (dir : Directory Name Byte)

theorem createDirAll_cases :
    (∃ error, device faults createDirAll dir = (.error error, dir) ∧
      faults createDirAll ≠ none) ∨
    (device faults createDirAll dir = (.ok (), { dir with made := true }) ∧
      faults createDirAll = none) := by
  cases met : faults createDirAll with
  | some fault => exact .inl ⟨fault.error, device_of_fault met dir, nofun⟩
  | none => exact .inr ⟨device_of_none met dir, rfl⟩

/-- Creating a file fails by a fault, without a directory, or on a name in use. -/
theorem createNew_cases (name : Name) :
    (∃ error, device faults (createNew name) dir = (.error error, dir) ∧
      (faults (createNew name) ≠ none ∨ dir.made = false ∨ (dir.lookup name).isSome = true)) ∨
    (device faults (createNew name) dir = (.ok dir.files.length, dir.create name) ∧
      faults (createNew name) = none ∧ (dir.lookup name).isSome = false) := by
  cases met : faults (createNew name) with
  | some fault => exact .inl ⟨fault.error, device_of_fault met dir, .inl nofun⟩
  | none =>
      rw [device_of_none met, proceed]
      by_cases made : dir.made = true
      · rw [if_pos made]
        by_cases used : (dir.lookup name).isSome = true
        · rw [if_pos used]
          exact .inl ⟨.alreadyExists, rfl, .inr (.inr used)⟩
        · rw [if_neg used]
          exact .inr ⟨rfl, rfl, Bool.eq_false_iff.mpr used⟩
      · rw [if_neg made]
        exact .inl ⟨.notFound, rfl, .inr (.inl (Bool.eq_false_iff.mpr made))⟩

/-- A write to an open file leaves some of the bytes, and all of them if it
returns. -/
theorem writeAll_cases {file : ℕ} (isOpen : file < dir.files.length) (bytes : List Byte) :
    (∃ error written, device faults (writeAll file bytes) dir =
        (.error error, dir.modify file fun held => ⟨held.data ++ written, false⟩) ∧
      faults (writeAll file bytes) ≠ none) ∨
    (device faults (writeAll file bytes) dir =
        (.ok (), dir.modify file fun held => ⟨held.data ++ bytes, false⟩) ∧
      faults (writeAll file bytes) = none) := by
  cases met : faults (writeAll file bytes) with
  | some fault => exact .inl ⟨fault.error, _, device_of_fault met dir, nofun⟩
  | none =>
      rw [device_of_none met, proceed, if_pos isOpen]
      exact .inr ⟨rfl, rfl⟩

theorem syncAll_cases {file : ℕ} (isOpen : file < dir.files.length) :
    (∃ error, device faults (syncAll file) dir = (.error error, dir) ∧
      faults (syncAll file) ≠ none) ∨
    (device faults (syncAll file) dir =
        (.ok (), dir.modify file fun held => ⟨held.data, true⟩) ∧
      faults (syncAll file) = none) := by
  cases met : faults (syncAll file) with
  | some fault => exact .inl ⟨fault.error, device_of_fault met dir, nofun⟩
  | none =>
      rw [device_of_none met, proceed, if_pos isOpen]
      exact .inr ⟨rfl, rfl⟩

theorem rename_cases {source : Name} (target : Name) {file : ℕ}
    (found : dir.lookup source = some file) :
    (∃ error, device faults (rename source target) dir = (.error error, dir) ∧
      faults (rename source target) ≠ none) ∨
    (device faults (rename source target) dir = (.ok (), dir.move source target file found) ∧
      faults (rename source target) = none) := by
  cases met : faults (rename source target) with
  | some fault => exact .inl ⟨fault.error, device_of_fault met dir, nofun⟩
  | none => exact .inr ⟨(device_of_none met dir).trans (proceed_rename found), rfl⟩

theorem openDir_cases (made : dir.made = true) :
    (∃ error, device faults openDir dir = (.error error, dir) ∧ faults openDir ≠ none) ∨
    (device faults openDir dir = (.ok (), dir) ∧ faults openDir = none) := by
  cases met : faults openDir with
  | some fault => exact .inl ⟨fault.error, device_of_fault met dir, nofun⟩
  | none =>
      rw [device_of_none met, proceed, if_pos made]
      exact .inr ⟨rfl, rfl⟩

theorem syncDir_cases :
    (∃ error, device faults syncDir dir = (.error error, dir) ∧ faults syncDir ≠ none) ∨
    (device faults syncDir dir = (.ok (), dir.settle) ∧ faults syncDir = none) := by
  cases met : faults syncDir with
  | some fault => exact .inl ⟨fault.error, device_of_fault met dir, nofun⟩
  | none => exact .inr ⟨device_of_none met dir, rfl⟩

/-- Whatever it answers, removing a name leaves the directory or unlinks the
name. -/
theorem remove_cases (name : Name) :
    (device faults (remove name) dir).2 = dir ∨
      (device faults (remove name) dir).2 = dir.unlink name := by
  cases met : faults (remove name) with
  | some fault =>
      rw [device_of_fault met]
      exact .inl rfl
  | none =>
      rw [device_of_none met, proceed]
      split
      · exact .inr rfl
      · exact .inl rfl

/-- Reading changes nothing. Without a fault it gives the content. -/
theorem read_cases (name : Name) :
    (device faults (read name) dir).2 = dir ∧
      (faults (read name) = none → (device faults (read name) dir).1 =
        match dir.content name with
        | some data => .ok data
        | none => .error .notFound) := by
  cases met : faults (read name) with
  | some fault =>
      rw [device_of_fault met]
      exact ⟨rfl, nofun⟩
  | none =>
      rw [device_of_none met]
      exact ⟨rfl, fun _ => rfl⟩

end Inversion

/-! ## The names of a call -/

/-- The names that a call may change. -/
def names : FileCall Name Byte → List Name
  | createNew name => [name]
  | rename source target => [source, target]
  | remove name => [name]
  | _ => []

/-- **A call leaves the other names**, whatever faults there are. -/
theorem lookup_device_of_notMem (faults : FileCall Name Byte → Option Fault)
    (call : FileCall Name Byte) (dir : Directory Name Byte) {name : Name}
    (apart : name ∉ call.names) : (device faults call dir).2.lookup name = dir.lookup name := by
  cases met : faults call with
  | some fault =>
      rw [device_of_fault met]
      cases call <;> rfl
  | none =>
      rw [device_of_none met]
      cases call with
      | createDirAll => rfl
      | createNew other =>
          rw [proceed]
          split
          · split
            · rfl
            · exact dir.lookup_create_of_ne (List.ne_of_not_mem_cons apart)
          · rfl
      | writeAll file bytes =>
          rw [proceed]
          split <;> rfl
      | syncAll file =>
          rw [proceed]
          split <;> rfl
      | rename source target =>
          change name ∉ [source, target] at apart
          rw [List.mem_cons, not_or] at apart
          obtain ⟨notSource, rest⟩ := apart
          rw [proceed]
          split
          · rename_i file found
            exact dir.lookup_move_of_ne found notSource (List.ne_of_not_mem_cons rest)
          · rfl
      | openDir => rfl
      | syncDir => rfl
      | remove other =>
          rw [proceed]
          split
          · exact dir.lookup_unlink_of_ne (List.ne_of_not_mem_cons apart)
          · rfl
      | read other => rfl

/-- A removal that meets no fault leaves no file under the name. -/
theorem lookup_remove {faults : FileCall Name Byte → Option Fault} {name : Name}
    (free : faults (remove name) = none) (dir : Directory Name Byte) :
    (device faults (remove name) dir).2.lookup name = none := by
  rw [device_of_none free, proceed]
  split
  · exact dir.lookup_unlink name
  · rename_i absent
    exact Option.not_isSome_iff_eq_none.mp absent

/-- A move that returns takes the old name away. -/
theorem lookup_rename {faults : FileCall Name Byte → Option Fault} {source target : Name}
    (ne : source ≠ target) {dir : Directory Name Byte} {value : Unit}
    (moved : (device faults (rename source target) dir).1 = .ok value) :
    (device faults (rename source target) dir).2.lookup source = none := by
  cases found : dir.lookup source with
  | none =>
      cases met : faults (rename source target) with
      | some fault =>
          rw [device_of_fault met] at moved
          cases moved
      | none =>
          rw [device_of_none met, proceed] at moved
          split at moved
          · rename_i file same
            rw [found] at same
            cases same
          · cases moved
  | some file =>
      rcases rename_cases faults dir target found with ⟨error, answered, -⟩ | ⟨answered, -⟩
      · rw [answered] at moved
        cases moved
      · rw [answered]
        exact dir.lookup_move_source found ne

/-! ## A new file for a target -/

/-- A new file, under a name that is not the target, while the cell of the target
is still `base`. -/
structure Prepared (target temp : Name) (base : Cell (File Byte)) (number : ℕ)
    (file : File Byte) (dir : Directory Name Byte) : Prop where
  cell : dir.cell target = base
  lookup : dir.lookup temp = some number
  apart : some number ∉ (dir.entry target).possible
  held : dir.files[number]? = some file

namespace Prepared

variable {target temp : Name} {base : Cell (File Byte)} {number : ℕ} {file : File Byte}
  {dir : Directory Name Byte}

/-- Creating the file. -/
theorem create (ne : target ≠ temp) (cell : dir.cell target = base) :
    Prepared target temp base dir.files.length ⟨[], false⟩ (dir.create temp) where
  cell := (dir.cell_create_of_ne ne).trans cell
  lookup := dir.lookup_create temp
  apart := by
    intro possible
    rw [dir.entry_create_of_ne ne] at possible
    exact Nat.lt_irrefl _ (dir.lt_of_entry possible)
  held := by
    change (dir.files ++ [_])[dir.files.length]? = _
    rw [List.getElem?_append_right (Nat.le_refl _), Nat.sub_self]
    rfl

theorem number_lt (prepared : Prepared target temp base number file dir) :
    number < dir.files.length :=
  dir.lt_of_lookup prepared.lookup

/-- Writing to it or syncing it. -/
theorem modify (prepared : Prepared target temp base number file dir)
    (change : File Byte → File Byte) :
    Prepared target temp base number (change file) (dir.modify number change) where
  cell := (dir.cell_modify_of_ne prepared.apart change).trans prepared.cell
  lookup := prepared.lookup
  apart := prepared.apart
  held := by
    change (dir.files.modify number change)[number]? = _
    rw [List.getElem?_modify, prepared.held]
    simp

/-- **Moving it onto the target** puts it into the cell of the target. -/
theorem cell_move (prepared : Prepared target temp base number file dir) :
    (dir.move temp target number prepared.lookup).cell target = base.put (some file) := by
  rw [dir.cell_move_target prepared.lookup, prepared.cell, prepared.held]

end Prepared

end FileCall
