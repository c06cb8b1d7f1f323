import Std.Data.String.ToNat
import Macdack.Runtime.Sync

/-!
# Temporary files over restarts

The name of a temporary file has the process id and a counter that starts at zero in
every process. Within a process the counter keeps these names apart
(`persistBlocking_ahead`). Over restarts it does not: a process that is killed between
the creation and the move leaves its file behind, and the next process with the same id
finds it in the way (`persist_blocked_by_stale_file`).

`persist_after_restarts` says for every state that a history of processes reaches when a
call without faults completes, and that a history whose processes find no file under
their own id has no other obstacle.
-/

set_option autoImplicit false

namespace Macdack

open Calls

/-! ## Temporary files -/

/-- The temporary files of one process have different names. -/
theorem temporaryName_injective {name : String} {pid sequence other : ℕ}
    (same : temporaryName name pid sequence = temporaryName name pid other) :
    sequence = other := by
  simp only [temporaryName, String.append_left_inj, String.append_right_inj] at same
  exact Nat.repr_inj.mp same

/-- The temporary files of processes with different ids have different names. -/
theorem pid_of_temporaryName {name : String} {pid other sequence later : ℕ}
    (same : temporaryName name pid sequence = temporaryName name other later) : pid = other := by
  have dotless : ∀ number : ℕ, '.' ∉ (toString number).toList := by
    intro number member
    rw [Nat.toString_eq_repr, Nat.toList_repr] at member
    exact absurd (Nat.isDigit_of_mem_toDigits (by decide) (by decide) member) (by decide)
  have dotted : ∀ pid sequence : ℕ, (temporaryName name pid sequence).toList =
      ("." ++ name ++ ".").toList ++
        ((toString pid).toList ++ '.' :: ((toString sequence).toList ++ ".tmp".toList)) := by
    intro pid sequence
    simp [temporaryName]
  have digits : ∀ (number : ℕ) (rest : List Char), ((toString number).toList ++
      '.' :: rest).takeWhile (· != '.') = (toString number).toList := by
    intro number rest
    rw [List.takeWhile_append_of_pos, List.takeWhile_cons_of_neg (by decide), List.append_nil]
    intro c member
    rw [bne_iff_ne]
    rintro rfl
    exact dotless number member
  have texts := congrArg String.toList same
  rw [dotted, dotted, List.append_cancel_left_eq] at texts
  have numbers := congrArg (List.takeWhile (· != '.')) texts
  rw [digits, digits] at numbers
  exact Nat.repr_inj.mp (String.toList_inj.mp numbers)

/-- Replacing a file makes calls about the file and its temporary file only. -/
theorem makes_replaceOrRemove (temp name : String) (bytes : Bytes) :
    (replaceOrRemove temp name bytes).Makes fun call => ∀ other ∈ call.names,
      other = temp ∨ other = name := by
  have silent : ∀ {call : Syscall}, call.names = [] →
      (attempt call).run.Makes fun call => ∀ other ∈ call.names, other = temp ∨ other = name := by
    intro call none
    refine Program.Makes.ask ?_
    rw [none]
    exact nofun
  have replaces : (replaceFile temp name bytes).run.Makes fun call => ∀ other ∈ call.names,
      other = temp ∨ other = name := by
    refine Program.Makes.attempt (Program.Makes.ask ?_) fun file => ?_
    · exact List.forall_mem_singleton.mpr (.inl rfl)
    refine Program.Makes.attempt (silent rfl) fun _ => ?_
    refine Program.Makes.attempt (silent rfl) fun _ => ?_
    refine Program.Makes.attempt (Program.Makes.ask ?_) fun _ => ?_
    · exact List.forall_mem_cons.mpr ⟨.inl rfl, List.forall_mem_singleton.mpr (.inr rfl)⟩
    exact Program.Makes.attempt (silent rfl) fun _ => silent rfl
  refine replaces.bind ?_
  rintro (error | ⟨⟩)
  · refine Program.Makes.bind (Program.Makes.ask ?_) fun _ => trivial
    exact List.forall_mem_singleton.mpr (.inl rfl)
  · exact trivial

/-- Persisting makes calls about the state file and one temporary file only. -/
theorem makes_persistBlocking (ioText : IoError → String) {path : PathBuf} {name : String}
    (isFile : path.fileName = some name) (bytes : Bytes) (pid sequence : ℕ) :
    (persistBlocking ioText path bytes pid sequence).Makes fun call => ∀ other ∈ call.names,
      other = temporaryName name pid sequence ∨ other = name := by
  refine Program.Makes.bind (Program.Makes.ask fun _ => (absurd · List.not_mem_nil)) ?_
  rintro (error | ⟨⟩)
  · exact trivial
  · rw [isFile]
    exact (makes_replaceOrRemove (temporaryName name pid sequence) name bytes).bind
      fun _ => trivial

/-- No temporary file of a process stands in the way of its next writes. -/
def Ahead (name : String) (pid sequence : ℕ) (dir : StateDir) : Prop :=
  ∀ later, sequence ≤ later → dir.lookup (temporaryName name pid later) = none

/-- A call that names none of these files keeps them away. -/
theorem Ahead.device {name : String} {pid sequence : ℕ} {dir : StateDir}
    (ahead : Ahead name pid sequence dir) (faults : Faults) {call : Syscall}
    (apart : ∀ later, sequence ≤ later → temporaryName name pid later ∉ call.names) :
    Ahead name pid sequence (FileCall.device faults call dir).2 := by
  intro later behind
  rw [FileCall.lookup_device_of_notMem faults call dir (apart later behind)]
  exact ahead later behind

/-- **Persisting keeps ahead**: the number of the next temporary file is above those of
all files that are left. -/
theorem persistBlocking_ahead (faults : Faults) (ioText : IoError → String) {path : PathBuf}
    {name : String} (isFile : path.fileName = some name) (bytes : Bytes) (pid sequence : ℕ) :
    Holds (FileCall.device faults) (Ahead name pid sequence)
      (persistBlocking ioText path bytes pid sequence)
      (fun result dir => Ahead name pid result.2 dir) (fun _ => True) := by
  refine Holds.bind (fun _ => Ahead name pid sequence) (Holds.ask (fun _ _ => trivial) ?_) ?_
  · exact fun dir ahead => ⟨ahead.device faults fun _ _ => List.not_mem_nil, trivial⟩
  rintro (error | ⟨⟩)
  · exact Holds.ret fun dir ahead => ⟨ahead, trivial⟩
  · rw [isFile]
    have keeps : ∀ call : Syscall,
        (∀ other ∈ call.names, other = temporaryName name pid sequence ∨ other = name) →
        ∀ dir, Ahead name pid (sequence + 1) dir →
          Ahead name pid (sequence + 1) (FileCall.device faults call dir).2 := by
      intro call names dir ahead
      refine ahead.device faults fun later behind member => ?_
      rcases names _ member with same | same
      · have := temporaryName_injective same
        omega
      · exact ne_temporaryName name pid later same.symm
    have replaced := Holds.of_makes
      (makes_replaceOrRemove (temporaryName name pid sequence) name bytes) keeps
    refine Holds.bind (fun _ => Ahead name pid (sequence + 1))
      (replaced.weaken ?_ (fun _ _ ahead => ahead) fun _ _ => trivial) fun result => ?_
    · exact fun dir ahead later behind => ahead later (Nat.le_of_succ_le behind)
    · exact Holds.ret fun dir ahead => ⟨ahead, trivial⟩

/-! ## Rounds -/

@[simp] theorem record_pid (memory : Memory) (clock : ℕ) (result : Outcome Unit) :
    (memory.record clock result).pid = memory.pid := by
  rcases result with (chain | _) | _ <;> rfl

@[simp] theorem record_sequence (memory : Memory) (clock : ℕ) (result : Outcome Unit) :
    (memory.record clock result).sequence = memory.sequence := by
  rcases result with (chain | _) | _ <;> rfl

/-- The process is ahead of the temporary files under its name. -/
def Memory.Ahead (memory : Memory) (name : String) (dir : StateDir) : Prop :=
  Macdack.Ahead name memory.pid memory.sequence dir

section Rounds

variable (foreign : Foreign) {path : PathBuf} {name : String} (isFile : path.fileName = some name)
  (round : Round) (memory : Memory)

include isFile

theorem update_ahead (download : Download) (clients : Clients) :
    Holds (FileCall.device round.faults) (memory.Ahead name)
      (update foreign path round.activated memory download clients)
      (fun result => result.2.Ahead name) (fun _ => True) := by
  refine Holds.bind _ (persistBlocking_ahead round.faults foreign.ioText isFile download.body
    memory.pid memory.sequence) ?_
  rintro ⟨saved, sequence⟩
  cases saved with
  | error stop => exact Holds.ret fun dir ahead => ⟨ahead, trivial⟩
  | ok _ => exact Holds.ret fun dir ahead => ⟨ahead, trivial⟩

/-- **A turn of the loop keeps ahead.** -/
theorem syncRound_ahead :
    Holds (FileCall.device round.faults) (memory.Ahead name) (syncRound foreign path round memory)
      (fun result => result.2.Ahead name) (fun _ => True) := by
  have polls : Holds (FileCall.device round.faults) (memory.Ahead name)
      (poll foreign path round.activated round.answer memory) (fun result => result.2.Ahead name)
      (fun _ => True) := by
    cases meaning foreign memory round.answer with
    | rejected rejects =>
        rw [poll_of_rejects path round.activated rejects]
        exact Holds.ret fun dir ahead => ⟨ahead, trivial⟩
    | unchanged fetched =>
        rw [poll_of_unchanged path round.activated fetched]
        exact Holds.ret fun dir ahead => ⟨ahead, trivial⟩
    | same fetched cached =>
        rw [poll_of_same path round.activated fetched cached]
        exact Holds.ret fun dir ahead => ⟨ahead, trivial⟩
    | new brings =>
        rw [poll_of_brings path round.activated brings]
        exact update_ahead foreign isFile round memory _ _
  refine Holds.bind _ polls ?_
  rintro ⟨result, polled⟩
  refine Holds.ret fun dir ahead => ⟨?_, trivial⟩
  rw [Memory.Ahead, record_pid, record_sequence]
  exact ahead

/-- A turn makes calls about the state file and one temporary file only. -/
theorem makes_syncRound :
    (syncRound foreign path round memory).Makes fun call => ∀ other ∈ call.names,
      other = temporaryName name memory.pid memory.sequence ∨ other = name := by
  refine Program.Makes.bind ?_ fun _ => trivial
  cases meaning foreign memory round.answer with
  | rejected rejects =>
      rw [poll_of_rejects path round.activated rejects]
      exact trivial
  | unchanged fetched =>
      rw [poll_of_unchanged path round.activated fetched]
      exact trivial
  | same fetched cached =>
      rw [poll_of_same path round.activated fetched cached]
      exact trivial
  | new brings =>
      rw [poll_of_brings path round.activated brings]
      refine (makes_persistBlocking foreign.ioText isFile _ memory.pid memory.sequence).bind ?_
      rintro ⟨saved | saved, sequence⟩ <;> exact trivial

/-- **A turn leaves the names of other processes alone**, at every point of it. -/
theorem syncRound_apart {pid : ℕ} (apart : pid ≠ memory.pid) (sequence : ℕ) :
    Holds (FileCall.device round.faults) (Ahead name pid sequence)
      (syncRound foreign path round memory) (fun _ => Ahead name pid sequence)
      (Ahead name pid sequence) := by
  refine Holds.of_makes (makes_syncRound foreign isFile round memory) fun call names dir ahead => ?_
  refine ahead.device round.faults fun later _ member => ?_
  rcases names _ member with same | same
  · exact apart (pid_of_temporaryName same)
  · exact ne_temporaryName name pid later same.symm

end Rounds

/-! ## A call without faults -/

/-- No call meets a fault. -/
def noFaults : Faults := fun _ => none

/-- The temporary file of the next call does not exist. -/
def Ready (path : PathBuf) (memory : Memory) (dir : StateDir) : Prop :=
  ∃ name, path.fileName = some name ∧
    dir.lookup (temporaryName name memory.pid memory.sequence) = none

/-- A call without faults that is not interrupted. -/
def persistRun (foreign : Foreign) (path : PathBuf) (bytes : Bytes) (memory : Memory)
    (dir : StateDir) : (Outcome Unit × ℕ) × StateDir :=
  (persistBlocking foreign.ioText path bytes memory.pid memory.sequence).run
    (FileCall.device noFaults) dir

/-- It returns, the state file has the bytes, and the temporary file is gone. -/
def Completes (foreign : Foreign) (path : PathBuf) (bytes : Bytes) (memory : Memory)
    (dir : StateDir) : Prop :=
  (persistRun foreign path bytes memory dir).1.1 = .ok () ∧
    ∃ name, path.fileName = some name ∧
      (persistRun foreign path bytes memory dir).2.content name = some bytes ∧
      (persistRun foreign path bytes memory dir).2.lookup
        (temporaryName name memory.pid memory.sequence) = none

/-- Without faults nothing but the temporary file is in the way. -/
theorem unhindered_noFaults {path : PathBuf} {memory : Memory} {bytes : Bytes} {dir : StateDir} :
    Unhindered noFaults path memory.pid memory.sequence bytes dir ↔ Ready path memory dir := by
  constructor
  · rintro ⟨-, name, isFile, clear⟩
    exact ⟨name, isFile, Option.not_isSome_iff_eq_none.mp (Bool.eq_false_iff.mp clear.unused)⟩
  · rintro ⟨name, isFile, absent⟩
    exact ⟨rfl, name, isFile, by rw [absent]; rfl, rfl, rfl, rfl, rfl⟩

/-- A call that returns what it is asked for. -/
theorem attempt_gives {faults : Faults} {call : Syscall} {pre : StateDir → Prop}
    {mid : StateDir → Prop} {post : StateDir → Prop}
    (gives : ∀ dir, pre dir → ∀ value, (FileCall.device faults call dir).1 = .ok value →
      mid (FileCall.device faults call dir).2) :
    Holds (FileCall.device faults) pre (attempt call).run
      (Attempted (fun _ => mid) (fun (result : Except IoError Unit) dir =>
        result = .ok () → post dir) fun _ => True) (fun _ => True) := by
  refine Holds.ask (fun _ _ => trivial) fun dir holds => ⟨?_, trivial⟩
  cases answered : (FileCall.device faults call dir).1 with
  | error error => exact ⟨nofun, trivial⟩
  | ok value => exact gives dir holds value answered

/-- A replacement that returns has moved the temporary file away. -/
theorem replaceFile_clean {faults : Faults} {temp name : String} (ne : temp ≠ name)
    (bytes : Bytes) :
    Holds (FileCall.device faults) (fun _ => True) (replaceFile temp name bytes).run
      (fun result dir => result = .ok () → dir.lookup temp = none) (fun _ => True) := by
  have keeps : ∀ {call : Syscall}, call.names = [] → ∀ dir : StateDir, dir.lookup temp = none →
      (FileCall.device faults call dir).2.lookup temp = none := by
    intro call silent dir absent
    rw [FileCall.lookup_device_of_notMem faults call dir (by rw [silent]; exact List.not_mem_nil),
      absent]
  refine Holds.attempt (fun _ _ => True) (attempt_gives fun _ _ _ _ => trivial) fun file => ?_
  refine Holds.attempt (fun _ _ => True) (attempt_gives fun _ _ _ _ => trivial) fun _ => ?_
  refine Holds.attempt (fun _ _ => True) (attempt_gives fun _ _ _ _ => trivial) fun _ => ?_
  refine Holds.attempt (fun _ dir => dir.lookup temp = none)
    (attempt_gives fun dir _ value moved => FileCall.lookup_rename ne moved) fun _ => ?_
  refine Holds.attempt (fun _ dir => dir.lookup temp = none)
    (attempt_gives fun dir absent _ _ => keeps rfl dir absent) fun _ => ?_
  exact Holds.ask (fun _ _ => trivial) fun dir absent => ⟨fun _ => keeps rfl dir absent, trivial⟩

/-- **A call that returns leaves no temporary file.** -/
theorem persistBlocking_clean {faults : Faults} (ioText : IoError → String) {path : PathBuf}
    {name : String} (isFile : path.fileName = some name) (bytes : Bytes) (pid sequence : ℕ) :
    Holds (FileCall.device faults) (fun _ => True) (persistBlocking ioText path bytes pid sequence)
      (fun result dir => result.1 = .ok () → dir.lookup (temporaryName name pid sequence) = none)
      (fun _ => True) := by
  refine Holds.bind (fun _ _ => True)
    (Holds.ask (fun _ _ => trivial) fun _ _ => ⟨trivial, trivial⟩) ?_
  rintro (error | ⟨⟩)
  · exact Holds.ret fun dir _ => ⟨nofun, trivial⟩
  · rw [isFile]
    refine Holds.bind (fun (result : Except IoError Unit) dir => result = .ok () →
      dir.lookup (temporaryName name pid sequence) = none) ?_ fun result => ?_
    · refine Holds.bind _ (replaceFile_clean (ne_temporaryName name pid sequence).symm bytes) ?_
      rintro (error | ⟨⟩)
      · refine Holds.bind (fun _ _ => True)
          (Holds.ask (fun _ _ => trivial) fun _ _ => ⟨trivial, trivial⟩) fun _ => ?_
        exact Holds.ret fun dir _ => ⟨nofun, trivial⟩
      · exact Holds.ret fun dir clean => ⟨clean, trivial⟩
    · refine Holds.ret fun dir clean => ⟨fun returned => clean ?_, trivial⟩
      cases result with
      | error error => cases returned
      | ok _ => rfl

/-- How a call without faults ends. -/
theorem Persisted.of_noFaults {path : PathBuf} {pid sequence : ℕ} {bytes : Bytes}
    {before after : StateDir} {result : Outcome Unit}
    (persisted : Persisted noFaults path pid sequence bytes before result after) :
    (result = .ok () ↔ Unhindered noFaults path pid sequence bytes before) ∧
      (result = .ok () → ∀ name, path.fileName = some name → after.content name = some bytes) := by
  cases persisted with
  | early _ hindered => exact ⟨iff_of_false nofun hindered, nofun⟩
  | late _ _ _ fault => exact fault.elim (absurd rfl) (absurd rfl)
  | done unhindered isFile cell =>
      refine ⟨iff_of_true rfl unhindered, fun _ other isOther => ?_⟩
      obtain rfl := Option.some.inj (isFile.symm.trans isOther)
      rw [Directory.content, cell, Cell.live_settle, Cell.live_put]
      rfl

/-- **When a call completes.** -/
theorem completes_iff {foreign : Foreign} {path : PathBuf} {bytes : Bytes} {memory : Memory}
    {dir : StateDir} : Completes foreign path bytes memory dir ↔ Ready path memory dir := by
  have persisted := (persistBlocking_holds noFaults foreign.ioText path bytes memory.pid
    memory.sequence dir).ends dir rfl
  obtain ⟨returns, content⟩ := Persisted.of_noFaults persisted
  rw [unhindered_noFaults] at returns
  constructor
  · rintro ⟨returned, -⟩
    exact returns.mp returned
  · intro ready
    have returned := returns.mpr ready
    obtain ⟨name, isFile, -⟩ := ready
    refine ⟨returned, name, isFile, content returned name isFile, ?_⟩
    exact (persistBlocking_clean foreign.ioText isFile bytes memory.pid memory.sequence).ends dir
      trivial returned

/-- A turn of the loop takes over a table: it returns, the table is served, and the
state file has its body. -/
def TakesOver (foreign : Foreign) (path : PathBuf) (system : System) (round : Round)
    (body : Bytes) (clients : Clients) : Prop :=
  (system.round foreign path round).1 = .ok () ∧
    (system.round foreign path round).2.memory.shared.snapshot = some clients ∧
    ∃ name, path.fileName = some name ∧
      (system.round foreign path round).2.dir.content name = some body

/-- **When a valid update is taken over.** -/
theorem takesOver_iff {foreign : Foreign} {path : PathBuf} {system : System} {round : Round}
    (free : round.faults = noFaults) {download : Download} {clients : Clients}
    (brings : Brings foreign system.memory round.answer download clients) :
    TakesOver foreign path system round download.body clients ↔
      Ready path system.memory system.dir := by
  obtain ⟨result, memory, dir, turn, polled⟩ := round_polled foreign path system round
  rw [TakesOver, turn, record_snapshot]
  rcases polled.of_brings brings with ⟨stop, rfl, -, persisted⟩ | ⟨rfl, -, served, persisted⟩
  · rw [free] at persisted
    obtain ⟨returns, -⟩ := persisted.of_noFaults
    rw [unhindered_noFaults] at returns
    refine iff_of_false ?_ fun ready => absurd (returns.mpr ready) nofun
    rintro ⟨returned, -⟩
    exact Outcome.context_error_ne_ok _ _ _ returned
  · rw [free] at persisted
    obtain ⟨returns, content⟩ := persisted.of_noFaults
    rw [unhindered_noFaults] at returns
    have ready := returns.mp rfl
    refine iff_of_true ⟨rfl, served, ?_⟩ ready
    obtain ⟨name, isFile, -⟩ := ready
    exact ⟨name, isFile, content rfl name isFile⟩

/-! ## Restarts -/

/-- What can happen to a state directory: processes that start on it one after the other,
poll, are killed or replaced between two polls and at any point inside one, and losses
of power in between. A process starts only when `allowed` holds of its process id and
the directory it finds. -/
inductive Restarts (foreign : Foreign) (path : PathBuf) (allowed : ℕ → StateDir → Prop)
    (original : StateDir) : Option Memory → StateDir → Prop where
  | start : Restarts foreign path allowed original none original
  | boot {dir : StateDir} (pid : ℕ) (faults : Faults) :
      Restarts foreign path allowed original none dir → allowed pid dir →
        Restarts foreign path allowed original (some (boot foreign path pid faults dir).memory)
          (boot foreign path pid faults dir).dir
  | poll {memory : Memory} {dir : StateDir} (round : Round) :
      Restarts foreign path allowed original (some memory) dir →
        Restarts foreign path allowed original
          (some (System.round foreign path ⟨memory, dir⟩ round).2.memory)
          (System.round foreign path ⟨memory, dir⟩ round).2.dir
  | kill {memory : Memory} {dir : StateDir} :
      Restarts foreign path allowed original (some memory) dir →
        Restarts foreign path allowed original none dir
  | killInside {memory : Memory} {dir seen : StateDir} (round : Round) :
      Restarts foreign path allowed original (some memory) dir →
        seen ∈ (syncRound foreign path round memory).visited (FileCall.device round.faults) dir →
          Restarts foreign path allowed original none seen
  | powerLoss {dir after : StateDir} :
      Restarts foreign path allowed original none dir → dir.Crash after →
        Restarts foreign path allowed original none after

/-- The directory has no temporary file of an earlier process with this id. -/
def NoneLeft (path : PathBuf) (pid : ℕ) (dir : StateDir) : Prop :=
  ∀ name, path.fileName = some name → Ahead name pid 0 dir

theorem numbers_load (foreign : Foreign) (memory : Memory) (saved : Except IoError Bytes) :
    (load foreign memory saved).pid = memory.pid ∧
      (load foreign memory saved).sequence = memory.sequence := by
  rw [load.eq_def]
  split
  · split <;> exact ⟨rfl, rfl⟩
  · exact ⟨rfl, rfl⟩
  · exact ⟨rfl, rfl⟩

/-- A process starts with its own id and its counter at zero. -/
theorem numbers_boot (foreign : Foreign) (path : PathBuf) (pid : ℕ) (faults : Faults)
    (dir : StateDir) : (boot foreign path pid faults dir).memory.pid = pid ∧
      (boot foreign path pid faults dir).memory.sequence = 0 := by
  rw [boot, startup, Program.run_bind, Program.run_pure]
  exact numbers_load foreign (Memory.initial pid) _

/-- **The counter keeps the names of a process apart.** When every process starts without
a temporary file of an earlier one with its id, none is in the way later. -/
theorem ahead_of_restarts {foreign : Foreign} {path : PathBuf} {allowed : ℕ → StateDir → Prop}
    {original dir : StateDir} {process : Option Memory} {name : String}
    (isFile : path.fileName = some name)
    (noneLeft : ∀ pid dir, allowed pid dir → NoneLeft path pid dir)
    (restarts : Restarts foreign path allowed original process dir) :
    ∀ memory, process = some memory → memory.Ahead name dir := by
  induction restarts with
  | start => rintro _ ⟨⟩
  | @boot dir pid faults _ isAllowed _ =>
      rintro _ ⟨rfl⟩
      obtain ⟨isPid, isFirst⟩ := numbers_boot foreign path pid faults dir
      rw [Memory.Ahead, isPid, isFirst, (boot_loads foreign path pid faults dir).1]
      exact noneLeft pid dir isAllowed name isFile
  | @poll memory dir round _ ih =>
      rintro _ ⟨rfl⟩
      exact (syncRound_ahead foreign isFile round memory).ends dir (ih memory rfl)
  | kill => rintro _ ⟨⟩
  | killInside => rintro _ ⟨⟩
  | powerLoss => rintro _ ⟨⟩

/-- **Persisting after restarts.** In every state that a history of processes on one
directory reaches, whatever kills, faults and losses of power it had:

* a call without faults that is not interrupted returns, leaves its bytes in the state
  file and no temporary file of its own, exactly when its temporary file does not exist
  when it starts;
* a turn of the loop without faults that brings a valid table takes it over under exactly
  the same condition;
* in a history whose processes all start without a temporary file of their process id the
  condition holds in every state, so both go through. -/
theorem persist_after_restarts {foreign : Foreign} {path : PathBuf}
    {allowed : ℕ → StateDir → Prop} {original dir : StateDir} {memory : Memory}
    (restarts : Restarts foreign path allowed original (some memory) dir) :
    (∀ bytes, Completes foreign path bytes memory dir ↔ Ready path memory dir) ∧
    (∀ round download clients, round.faults = noFaults →
      Brings foreign memory round.answer download clients →
        (TakesOver foreign path ⟨memory, dir⟩ round download.body clients ↔
          Ready path memory dir)) ∧
    ((∀ pid dir, allowed pid dir → NoneLeft path pid dir) →
      ∀ name, path.fileName = some name →
        (∀ bytes, Completes foreign path bytes memory dir) ∧
        ∀ round download clients, round.faults = noFaults →
          Brings foreign memory round.answer download clients →
            TakesOver foreign path ⟨memory, dir⟩ round download.body clients) := by
  have takesOver : ∀ (round : Round) (download : Download) (clients : Clients),
      round.faults = noFaults → Brings foreign memory round.answer download clients →
        (TakesOver foreign path ⟨memory, dir⟩ round download.body clients ↔
          Ready path memory dir) :=
    fun round download clients free brings => takesOver_iff free brings
  refine ⟨fun bytes => completes_iff, takesOver, ?_⟩
  intro noneLeft name isFile
  have ahead := ahead_of_restarts isFile noneLeft restarts memory rfl
  have ready : Ready path memory dir := ⟨name, isFile, ahead _ (Nat.le_refl _)⟩
  exact ⟨fun bytes => completes_iff.mpr ready,
    fun round download clients free brings => (takesOver round download clients free brings).mpr
      ready⟩

/-! ## A stale file -/

/-- The directories that the first download of a process passes. -/
def passedDirs : List StateDir :=
  (syncRound plainForeign shippedPath (tableRound Clients.shipped) emptySystem.memory).visited
    (FileCall.device noFaults) emptySystem.dir

/-- The directory when the process is killed right after it created its temporary file. -/
def interruptedDir : StateDir := passedDirs.getD 2 emptyDir

theorem mem_passedDirs : interruptedDir ∈ passedDirs := by
  have long : 2 < passedDirs.length := by decide +kernel
  rw [interruptedDir, List.getD_eq_getElem?_getD, List.getElem?_eq_getElem long, Option.getD_some]
  exact List.getElem_mem long

/-- The next process, with the same process id. -/
def restartedSystem : System := boot plainForeign shippedPath 1 noFaults interruptedDir

/-- The next process, with another process id. -/
def renumberedSystem : System := boot plainForeign shippedPath 2 noFaults interruptedDir

/-- A table is new to a process that has downloaded none. -/
theorem brings_table {memory : Memory} (nothing : memory.cache.body = none) {table : String}
    (short : (Text.asBytes table).length ≤ maxCsvBytes) {clients : Clients}
    (parsed : Clients.parse Clients.plainReader table = .ok clients) :
    Brings plainForeign memory (tableRound table).answer ⟨Text.asBytes table, none, none⟩
      clients where
  fetched := by
    have whole : receive [] [Text.asBytes table] none = .ok (Text.asBytes table) :=
      (receive_eq_ok_iff (Nat.zero_le _)).mpr ⟨(List.append_nil _).symm, rfl, short⟩
    change (receive [] [Text.asBytes table] none >>= fun bytes =>
      pure (some (⟨bytes, none, none⟩ : Download))) = _
    rw [whole]
    rfl
  new := by
    rw [nothing]
    exact (Option.some_ne_none _).symm
  decoded := by
    rw [decode, fromUtf8, Text.fromUtf8_asBytes]
    exact parsed

/-- The killed process left its file, and the next one has another id: it completes its calls,
and takes over the table. -/
theorem persist_after_restarts_killed :
    (renumberedSystem.dir.lookup ".clients.csv.1.0.tmp").isSome = true ∧
      Completes plainForeign shippedPath (Text.asBytes Clients.shipped) renumberedSystem.memory
        renumberedSystem.dir ∧
      ∃ clients, TakesOver plainForeign shippedPath renumberedSystem
        (tableRound Clients.shipped) (Text.asBytes Clients.shipped) clients := by
  have first : NoneLeft shippedPath 1 emptyDir := fun _ _ _ _ => rfl
  have second : NoneLeft shippedPath 2 interruptedDir := by
    intro name isFile
    refine (syncRound_apart plainForeign isFile (tableRound Clients.shipped) emptySystem.memory
      ?_ 0).passes emptySystem.dir (fun _ _ => rfl) _ mem_passedDirs
    decide
  have booted : Restarts plainForeign shippedPath (NoneLeft shippedPath) emptyDir
      (some emptySystem.memory) emptySystem.dir := .boot 1 _ .start first
  have restarted : Restarts plainForeign shippedPath (NoneLeft shippedPath) emptyDir
      (some renumberedSystem.memory) renumberedSystem.dir :=
    .boot 2 noFaults (booted.killInside (tableRound Clients.shipped) mem_passedDirs) second
  obtain ⟨completes, takesOver⟩ :=
    (persist_after_restarts restarted).2.2 (fun _ _ left => left) "clients.csv" rfl
  obtain ⟨left, nothing, short⟩ : (renumberedSystem.dir.lookup ".clients.csv.1.0.tmp").isSome =
      true ∧ renumberedSystem.memory.cache.body = none ∧
        (Text.asBytes Clients.shipped).length ≤ maxCsvBytes := by decide +kernel
  obtain ⟨clients, parsed, -⟩ := Clients.exists_parse_shipped
  have taken := takesOver (tableRound Clients.shipped) _ clients rfl
    (brings_table nothing short parsed)
  have whole : ∀ system : System, (⟨system.memory, system.dir⟩ : System) = system := fun _ => rfl
  rw [whole] at taken
  exact ⟨left, completes _, clients, taken⟩

/-- **A stale temporary file.** The process after the killed one has the same id and
starts to count at zero again: its first call meets no fault and fails, and the valid
table is not taken over. -/
theorem persist_blocked_by_stale_file :
    Restarts plainForeign shippedPath (fun _ _ => True) emptyDir (some restartedSystem.memory)
        restartedSystem.dir ∧
      ¬Completes plainForeign shippedPath (Text.asBytes Clients.shipped) restartedSystem.memory
        restartedSystem.dir ∧
      (restartedSystem.round plainForeign shippedPath (tableRound Clients.shipped)).1 ≠ .ok () ∧
      (restartedSystem.round plainForeign shippedPath
        (tableRound Clients.shipped)).2.dir.content "clients.csv" = none := by
  have booted : Restarts plainForeign shippedPath (fun _ _ => True) emptyDir
      (some emptySystem.memory) emptySystem.dir := .boot 1 _ .start trivial
  obtain ⟨fails, refused, absent⟩ :
      (persistRun plainForeign shippedPath (Text.asBytes Clients.shipped) restartedSystem.memory
        restartedSystem.dir).1.1 ≠ .ok () ∧
      (restartedSystem.round plainForeign shippedPath (tableRound Clients.shipped)).1 ≠ .ok () ∧
      (restartedSystem.round plainForeign shippedPath
        (tableRound Clients.shipped)).2.dir.content "clients.csv" = none := by decide +kernel
  have killed := booted.killInside (tableRound Clients.shipped) mem_passedDirs
  exact ⟨.boot 1 _ killed trivial, fun completes => fails completes.1, refused, absent⟩

end Macdack
