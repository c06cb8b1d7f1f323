import Macdack.Config
import Macdack.Library.FileCalls

/-!
# Persisting a snapshot

`persistBlocking` writes the bytes of a snapshot to the state file: to a temporary
file first, which it syncs and moves onto the state file before it syncs the
directory. The directory is the one that holds the state file.

`persistBlocking_holds` says how it can end, whatever faults its calls meet, and
what every point of it leaves of the state file. It ends early, with the state
file as it was; or late, after the move but before the directory is synced; or it
returns.
-/

set_option autoImplicit false

namespace Macdack

open Calls

/-- The directory that holds the state file. -/
abbrev StateDir := Directory String UInt8

abbrev Syscall := FileCall String UInt8

/-- Programs that call the operating system. -/
abbrev Syscalls := Program Syscall fun call => call.Answer

/-- The environment's decision which calls fail. -/
abbrev Faults := Syscall → Option Fault

/-- Make a call, and stop at its error. -/
def attempt (call : Syscall) : ExceptT IoError Syscalls call.Value := ExceptT.mk (.ask call)

/-- The name of the temporary file of a process for one of its writes. -/
def temporaryName (name : String) (pid sequence : ℕ) : String :=
  "." ++ name ++ "." ++ toString pid ++ "." ++ toString sequence ++ ".tmp"

/-- The closure of `persist_blocking`. -/
def replaceFile (temp name : String) (bytes : Bytes) : ExceptT IoError Syscalls Unit := do
  let file ← attempt (.createNew temp)
  attempt (.writeAll file bytes)
  attempt (.syncAll file)
  attempt (.rename temp name)
  attempt .openDir
  attempt .syncDir

/-- The closure, and the removal of the temporary file after an error. -/
def replaceOrRemove (temp name : String) (bytes : Bytes) : Syscalls (Except IoError Unit) := do
  let result ← (replaceFile temp name bytes).run
  match result with
  | .ok () => return .ok ()
  | .error error => do
      let _ ← Program.ask (.remove temp)
      return .error error

/-- The error of a call as an error of the program. -/
def ofIo (ioText : IoError → String) : Except IoError Unit → Outcome Unit
  | .ok () => .ok ()
  | .error error => Outcome.fail (ioText error)

/-- Write the bytes to the path. Beside the result it gives the number of the next
temporary file. When a directory is at the path, or a separator ends it, `rename` fails with
an error of its own, which is a fault of this call here. -/
def persistBlocking (ioText : IoError → String) (path : PathBuf) (bytes : Bytes)
    (pid sequence : ℕ) : Syscalls (Outcome Unit × ℕ) := do
  let made : Except IoError Unit ← Program.ask FileCall.createDirAll
  match made with
  | .error error => return (Outcome.fail (ioText error), sequence)
  | .ok () =>
      match path.fileName with
      | none => return (Outcome.fail "state path needs a filename", sequence)
      | some name => do
          let result ← replaceOrRemove (temporaryName name pid sequence) name bytes
          return (ofIo ioText result, sequence + 1)

/-- A temporary file is never the state file. -/
theorem ne_temporaryName (name : String) (pid sequence : ℕ) :
    name ≠ temporaryName name pid sequence := by
  intro same
  have lengths := congrArg String.length same
  simp only [temporaryName, String.length_append] at lengths
  have dot : ".".length = 1 := rfl
  omega

/-! ## How it ends -/

/-- Nothing stands in the way of the calls up to the move. -/
structure Clear (faults : Faults) (temp name : String) (bytes : Bytes) (before : StateDir) :
    Prop where
  unused : (before.lookup temp).isSome = false
  create : faults (.createNew temp) = none
  write : faults (.writeAll before.files.length bytes) = none
  sync : faults (.syncAll before.files.length) = none
  move : faults (.rename temp name) = none

/-- How replacing a file ends: early, with the cell of the file as it was; late,
with the new content in the cell; or with the new content settled. -/
inductive Replaced (faults : Faults) (temp name : String) (bytes : Bytes) (before : StateDir) :
    Except IoError Unit → StateDir → Prop where
  | early {error : IoError} {after : StateDir} :
      after.cell name = before.cell name → ¬Clear faults temp name bytes before →
        Replaced faults temp name bytes before (.error error) after
  | late {error : IoError} {after : StateDir} : Clear faults temp name bytes before →
      after.cell name = (before.cell name).put (some ⟨bytes, true⟩) →
        (faults .openDir ≠ none ∨ faults .syncDir ≠ none) →
          Replaced faults temp name bytes before (.error error) after
  | done {after : StateDir} : Clear faults temp name bytes before →
      after.cell name = ((before.cell name).put (some ⟨bytes, true⟩)).settle →
        faults .openDir = none → faults .syncDir = none →
          Replaced faults temp name bytes before (.ok ()) after

/-- What every point of a replacement leaves of the file. -/
def Passes (name : String) (bytes : Bytes) (before seen : StateDir) : Prop :=
  seen.cell name = before.cell name ∨
    seen.cell name = (before.cell name).put (some ⟨bytes, true⟩) ∨
    seen.cell name = ((before.cell name).put (some ⟨bytes, true⟩)).settle

section Replace

variable {faults : Faults} {temp name : String} {bytes : Bytes} {before : StateDir}

/-- The state between the creation of the temporary file and its move. -/
def Writing (temp name : String) (before : StateDir) (file : File UInt8) (dir : StateDir) : Prop :=
  FileCall.Prepared name temp (before.cell name) before.files.length file dir ∧ dir.made = true

theorem Writing.passes {file : File UInt8} {dir : StateDir}
    (writing : Writing temp name before file dir) : Passes name bytes before dir :=
  .inl writing.1.cell

/-- An attempt that leaves the cell as it was when it fails. -/
theorem attempt_early {call : Syscall} {pre : StateDir → Prop}
    (mid : call.Value → StateDir → Prop)
    (passes : ∀ dir, pre dir → Passes name bytes before dir)
    (cases : ∀ dir, pre dir →
      (∃ error after, FileCall.device faults call dir = (.error error, after) ∧
        after.cell name = before.cell name ∧ ¬Clear faults temp name bytes before) ∨
      ∃ value after, FileCall.device faults call dir = (.ok value, after) ∧ mid value after ∧
        Passes name bytes before after) :
    Holds (FileCall.device faults) pre (attempt call).run
      (Attempted mid (Replaced faults temp name bytes before) (Passes name bytes before))
      (Passes name bytes before) := by
  refine Holds.ask passes fun dir holds => ?_
  rcases cases dir holds with ⟨error, after, answered, cell, blocked⟩ |
    ⟨value, after, answered, given, seen⟩
  · rw [answered]
    exact ⟨⟨.early cell blocked, .inl cell⟩, .inl cell⟩
  · rw [answered]
    exact ⟨given, seen⟩

/-- **Making the move durable.** -/
theorem commit_holds (clear : Clear faults temp name bytes before) :
    Holds (FileCall.device faults)
      (fun dir => dir.cell name = (before.cell name).put (some ⟨bytes, true⟩) ∧ dir.made = true)
      (do attempt .openDir; attempt .syncDir : ExceptT IoError Syscalls Unit).run
      (Replaced faults temp name bytes before) (Passes name bytes before) := by
  refine Holds.attempt (fun _ dir => dir.cell name =
    (before.cell name).put (some ⟨bytes, true⟩) ∧ faults .openDir = none)
    (Holds.ask ?_ ?_) fun _ => Holds.ask ?_ ?_
  · rintro dir ⟨cell, -⟩
    exact .inr (.inl cell)
  · rintro dir ⟨cell, made⟩
    rcases FileCall.openDir_cases faults dir made with ⟨error, answered, fault⟩ | ⟨answered, free⟩
    · rw [answered]
      exact ⟨⟨.late clear cell (.inl fault), .inr (.inl cell)⟩, .inr (.inl cell)⟩
    · rw [answered]
      exact ⟨⟨cell, free⟩, .inr (.inl cell)⟩
  · rintro dir ⟨cell, -⟩
    exact .inr (.inl cell)
  · rintro dir ⟨cell, opened⟩
    rcases FileCall.syncDir_cases faults dir with ⟨error, answered, fault⟩ | ⟨answered, free⟩
    · rw [answered]
      exact ⟨.late clear cell (.inr fault), .inr (.inl cell)⟩
    · have settled :
          dir.settle.cell name = ((before.cell name).put (some ⟨bytes, true⟩)).settle := by
        rw [dir.cell_settle, cell]
      rw [answered]
      exact ⟨.done clear settled opened free, .inr (.inr settled)⟩

/-- Creating the temporary file. -/
theorem createNew_holds (ne : name ≠ temp) (made : before.made = true) :
    Holds (FileCall.device faults) (· = before) (attempt (.createNew temp)).run
      (Attempted (fun file dir => file = before.files.length ∧
          (faults (.createNew temp) = none ∧ (before.lookup temp).isSome = false) ∧
          Writing temp name before ⟨[], false⟩ dir)
        (Replaced faults temp name bytes before) (Passes name bytes before))
      (Passes name bytes before) := by
  refine attempt_early _ ?_ ?_
  · rintro dir rfl
    exact .inl rfl
  · rintro dir rfl
    rcases FileCall.createNew_cases faults dir temp with ⟨error, answered, reason⟩ |
      ⟨answered, free⟩
    · refine .inl ⟨error, dir, answered, rfl, fun clear => ?_⟩
      rcases reason with fault | unmade | used
      · exact fault clear.create
      · exact absurd made (by rw [unmade]; decide)
      · exact absurd used (by rw [clear.unused]; decide)
    · have writing : Writing temp name dir ⟨[], false⟩ (dir.create temp) :=
        ⟨FileCall.Prepared.create ne rfl, made⟩
      exact .inr ⟨_, _, answered, ⟨rfl, free, writing⟩, writing.passes⟩

/-- **Replacing a file**, whatever faults there are. -/
theorem replaceFile_holds (ne : name ≠ temp) (made : before.made = true) :
    Holds (FileCall.device faults) (· = before) (replaceFile temp name bytes).run
      (Replaced faults temp name bytes before) (Passes name bytes before) := by
  refine Holds.attempt _ (createNew_holds ne made) fun file => ?_
  refine Holds.attempt (fun _ dir => file = before.files.length ∧
    (faults (.createNew temp) = none ∧ (before.lookup temp).isSome = false ∧
      faults (.writeAll before.files.length bytes) = none) ∧
    Writing temp name before ⟨bytes, false⟩ dir) (attempt_early _ ?_ ?_) fun _ => ?_
  · rintro dir ⟨-, -, writing⟩
    exact writing.passes
  · rintro dir ⟨rfl, ⟨create, unused⟩, writing⟩
    rcases FileCall.writeAll_cases faults dir writing.1.number_lt bytes with
      ⟨error, written, answered, fault⟩ | ⟨answered, write⟩
    · exact .inl ⟨error, _, answered, (writing.1.modify _).cell, fun clear => fault clear.write⟩
    · have wrote : Writing temp name before ⟨bytes, false⟩ (dir.modify before.files.length
          fun held => ⟨held.data ++ bytes, false⟩) :=
        ⟨writing.1.modify fun held => ⟨held.data ++ bytes, false⟩, writing.2⟩
      exact .inr ⟨_, _, answered, ⟨rfl, ⟨create, unused, write⟩, wrote⟩, wrote.passes⟩
  refine Holds.attempt (fun _ dir => file = before.files.length ∧
    (faults (.createNew temp) = none ∧ (before.lookup temp).isSome = false ∧
      faults (.writeAll before.files.length bytes) = none ∧
      faults (.syncAll before.files.length) = none) ∧
    Writing temp name before ⟨bytes, true⟩ dir) (attempt_early _ ?_ ?_) fun _ => ?_
  · rintro dir ⟨-, -, writing⟩
    exact writing.passes
  · rintro dir ⟨rfl, ⟨create, unused, write⟩, writing⟩
    rcases FileCall.syncAll_cases faults dir writing.1.number_lt with
      ⟨error, answered, fault⟩ | ⟨answered, sync⟩
    · exact .inl ⟨error, _, answered, writing.1.cell, fun clear => fault clear.sync⟩
    · have synced : Writing temp name before ⟨bytes, true⟩ (dir.modify before.files.length
          fun held => ⟨held.data, true⟩) :=
        ⟨writing.1.modify fun held => ⟨held.data, true⟩, writing.2⟩
      exact .inr ⟨_, _, answered, ⟨rfl, ⟨create, unused, write, sync⟩, synced⟩, synced.passes⟩
  refine Holds.attempt (fun _ dir => Clear faults temp name bytes before ∧
    dir.cell name = (before.cell name).put (some ⟨bytes, true⟩) ∧ dir.made = true)
    (attempt_early _ ?_ ?_) fun _ => ?_
  · rintro dir ⟨-, -, writing⟩
    exact writing.passes
  · rintro dir ⟨rfl, ⟨create, unused, write, sync⟩, writing⟩
    rcases FileCall.rename_cases faults dir name writing.1.lookup with
      ⟨error, answered, fault⟩ | ⟨answered, move⟩
    · exact .inl ⟨error, _, answered, writing.1.cell, fun clear => fault clear.move⟩
    · have moved := writing.1.cell_move
      exact .inr ⟨_, _, answered, ⟨⟨unused, create, write, sync, move⟩, moved, writing.2⟩,
        .inr (.inl moved)⟩
  exact Holds.assuming commit_holds

/-- How a failed replacement ends does not depend on what happens to other
names. -/
theorem Replaced.of_cell {error : IoError} {dir after : StateDir}
    (replaced : Replaced faults temp name bytes before (.error error) dir)
    (same : after.cell name = dir.cell name) :
    Replaced faults temp name bytes before (.error error) after := by
  cases replaced with
  | early cell blocked => exact .early (same.trans cell) blocked
  | late clear cell fault => exact .late clear (same.trans cell) fault

theorem Passes.of_replaced {result : Except IoError Unit} {dir : StateDir}
    (replaced : Replaced faults temp name bytes before result dir) :
    Passes name bytes before dir := by
  cases replaced with
  | early cell => exact .inl cell
  | late _ cell => exact .inr (.inl cell)
  | done _ cell => exact .inr (.inr cell)

/-- Removing the temporary file after an error changes nothing of this. -/
theorem replaceOrRemove_holds (ne : name ≠ temp) (made : before.made = true) :
    Holds (FileCall.device faults) (· = before) (replaceOrRemove temp name bytes)
      (Replaced faults temp name bytes before) (Passes name bytes before) := by
  refine Holds.bind _ (replaceFile_holds ne made) ?_
  rintro (error | ⟨⟩)
  · have removed : ∀ dir : StateDir,
        ((FileCall.device faults (.remove temp) dir).2).cell name = dir.cell name := by
      intro dir
      rcases FileCall.remove_cases faults dir temp with kept | unlinked
      · rw [kept]
      · rw [unlinked, dir.cell_unlink_of_ne ne]
    refine Holds.bind (fun _ dir => Replaced faults temp name bytes before (.error error) dir)
      (Holds.ask ?_ ?_) fun _ => Holds.ret ?_
    · exact fun dir replaced => .of_replaced replaced
    · intro dir replaced
      have after := replaced.of_cell (removed dir)
      exact ⟨after, .of_replaced after⟩
    · exact fun dir replaced => ⟨replaced, .of_replaced replaced⟩
  · exact Holds.ret fun dir replaced => ⟨replaced, .of_replaced replaced⟩

end Replace

/-! ## Persisting -/

/-- Nothing stands in the way of the calls up to the move. -/
def Unhindered (faults : Faults) (path : PathBuf) (pid sequence : ℕ) (bytes : Bytes)
    (before : StateDir) : Prop :=
  faults .createDirAll = none ∧ ∃ name, path.fileName = some name ∧
    Clear faults (temporaryName name pid sequence) name bytes before

/-- How persisting ends. -/
inductive Persisted (faults : Faults) (path : PathBuf) (pid sequence : ℕ) (bytes : Bytes)
    (before : StateDir) : Outcome Unit → StateDir → Prop where
  | early {text : String} {after : StateDir} :
      (∀ name, path.fileName = some name → after.cell name = before.cell name) →
        ¬Unhindered faults path pid sequence bytes before →
          Persisted faults path pid sequence bytes before (Outcome.fail text) after
  | late {name text : String} {after : StateDir} :
      Unhindered faults path pid sequence bytes before → path.fileName = some name →
        after.cell name = (before.cell name).put (some ⟨bytes, true⟩) →
          (faults .openDir ≠ none ∨ faults .syncDir ≠ none) →
            Persisted faults path pid sequence bytes before (Outcome.fail text) after
  | done {name : String} {after : StateDir} :
      Unhindered faults path pid sequence bytes before → path.fileName = some name →
        after.cell name = ((before.cell name).put (some ⟨bytes, true⟩)).settle →
          faults .openDir = none → faults .syncDir = none →
            Persisted faults path pid sequence bytes before (.ok ()) after

theorem Persisted.passes {faults : Faults} {path : PathBuf} {pid sequence : ℕ} {bytes : Bytes}
    {before after : StateDir} {result : Outcome Unit}
    (persisted : Persisted faults path pid sequence bytes before result after) {name : String}
    (isFile : path.fileName = some name) : Passes name bytes before after := by
  have same : ∀ {other : String}, path.fileName = some other → other = name := fun found =>
    Option.some.inj (found.symm.trans isFile)
  cases persisted with
  | early cell => exact .inl (cell name isFile)
  | late _ found cell =>
      obtain rfl := same found
      exact .inr (.inl cell)
  | done _ found cell =>
      obtain rfl := same found
      exact .inr (.inr cell)

/-- The calls on the files do not depend on whether the directory was there. -/
theorem clear_made {faults : Faults} {temp name : String} {bytes : Bytes} {before : StateDir} :
    Clear faults temp name bytes { before with made := true } ↔
      Clear faults temp name bytes before :=
  ⟨fun clear => ⟨clear.unused, clear.create, clear.write, clear.sync, clear.move⟩,
    fun clear => ⟨clear.unused, clear.create, clear.write, clear.sync, clear.move⟩⟩

/-- Persisting ends as replacing the file does. -/
theorem Persisted.of_replaced {faults : Faults} {path : PathBuf} {pid sequence : ℕ} {bytes : Bytes}
    {before after : StateDir} {result : Except IoError Unit} (ioText : IoError → String)
    (free : faults .createDirAll = none) {name : String} (isFile : path.fileName = some name)
    (replaced : Replaced faults (temporaryName name pid sequence) name bytes
      { before with made := true } result after) :
    Persisted faults path pid sequence bytes before (ofIo ioText result) after := by
  have same : ∀ {other : String}, path.fileName = some other → name = other := fun found =>
    Option.some.inj (isFile.symm.trans found)
  cases replaced with
  | early cell blocked =>
      refine .early ?_ ?_
      · intro other found
        obtain rfl := same found
        exact cell
      · rintro ⟨-, other, found, clear⟩
        obtain rfl := same found
        exact blocked (clear_made.mpr clear)
  | late clear cell fault =>
      exact .late ⟨free, name, isFile, clear_made.mp clear⟩ isFile cell fault
  | done clear cell opened synced =>
      exact .done ⟨free, name, isFile, clear_made.mp clear⟩ isFile cell opened synced

/-- **Persisting a snapshot**, whatever faults there are. -/
theorem persistBlocking_holds (faults : Faults) (ioText : IoError → String) (path : PathBuf)
    (bytes : Bytes) (pid sequence : ℕ) (before : StateDir) :
    Holds (FileCall.device faults) (· = before) (persistBlocking ioText path bytes pid sequence)
      (fun result after => Persisted faults path pid sequence bytes before result.1 after)
      (fun seen => ∀ name, path.fileName = some name → Passes name bytes before seen) := by
  refine Holds.bind (fun made dir => match made with
    | .error _ => dir = before ∧ faults .createDirAll ≠ none
    | .ok _ => faults .createDirAll = none ∧ dir = { before with made := true })
    (Holds.ask ?_ ?_) ?_
  · rintro dir rfl name -
    exact .inl rfl
  · rintro dir rfl
    rcases FileCall.createDirAll_cases faults dir with ⟨error, answered, fault⟩ | ⟨answered, free⟩
    · rw [answered]
      exact ⟨⟨rfl, fault⟩, fun name _ => .inl rfl⟩
    · rw [answered]
      exact ⟨⟨free, rfl⟩, fun name _ => .inl rfl⟩
  rintro (error | ⟨⟩)
  · refine Holds.ret ?_
    rintro dir ⟨rfl, fault⟩
    exact ⟨.early (fun _ _ => rfl) fun free => fault free.1, fun name _ => .inl rfl⟩
  refine Holds.assuming fun free => ?_
  cases isFile : path.fileName with
  | none =>
      refine Holds.ret ?_
      rintro dir rfl
      refine ⟨.early (fun _ _ => rfl) ?_, nofun⟩
      rintro ⟨-, name, found, -⟩
      rw [isFile] at found
      cases found
  | some name =>
      have replaced : Holds (FileCall.device faults) (· = { before with made := true })
          (replaceOrRemove (temporaryName name pid sequence) name bytes)
          (Replaced faults (temporaryName name pid sequence) name bytes
            { before with made := true })
          (Passes name bytes before) :=
        replaceOrRemove_holds (ne_temporaryName name pid sequence) rfl
      refine Holds.bind _ (replaced.weaken (fun _ given => given) (fun _ _ given => given) ?_)
        fun result => Holds.ret ?_
      · rintro seen passes _ ⟨rfl⟩
        exact passes
      · intro dir replaced
        have passes : Passes name bytes { before with made := true } dir :=
          Passes.of_replaced replaced
        refine ⟨.of_replaced ioText free isFile replaced, ?_⟩
        rintro _ ⟨rfl⟩
        exact passes

end Macdack
