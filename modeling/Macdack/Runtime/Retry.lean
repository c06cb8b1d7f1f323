import Macdack.Runtime.Restart

/-!
# Retrying after restarts

A temporary file that an earlier process left behind makes an update fail
(`persist_blocked_by_stale_file`), but the update that fails removes it, and the next one
counts on. So each stale file costs at most one update, whatever faults the turns in between
meet (`stale_files_cost_one_update`), and turns whose removals meet no fault leave no file
behind (`turns_leave_no_litter`).
-/

set_option autoImplicit false

namespace Macdack

open Calls

/-! ## What persisting does to other names -/

/-- Under the numbers from `sequence` on the files are those of before. -/
def SameAhead (name : String) (pid sequence : ℕ) (before dir : StateDir) : Prop :=
  ∀ later, sequence ≤ later → dir.lookup (temporaryName name pid later) =
    before.lookup (temporaryName name pid later)

/-- A call that names none of these files leaves them. -/
theorem SameAhead.device {name : String} {pid sequence : ℕ} {before dir : StateDir}
    (same : SameAhead name pid sequence before dir) (faults : Faults) {call : Syscall}
    (apart : ∀ later, sequence ≤ later → temporaryName name pid later ∉ call.names) :
    SameAhead name pid sequence before (FileCall.device faults call dir).2 := by
  intro later behind
  rw [FileCall.lookup_device_of_notMem faults call dir (apart later behind), same later behind]

section Persist

variable (faults : Faults) (ioText : IoError → String) {path : PathBuf} {name : String}
  (isFile : path.fileName = some name) (bytes : Bytes) (pid sequence : ℕ) (before : StateDir)

include isFile

/-- **Persisting uses one number** and leaves the files under those behind it. -/
theorem persistBlocking_sameAhead :
    Holds (FileCall.device faults) (· = before)
      (persistBlocking ioText path bytes pid sequence)
      (fun result dir => SameAhead name pid result.2 before dir ∧ sequence ≤ result.2 ∧
        (faults .createDirAll = none → result.2 = sequence + 1)) (fun _ => True) := by
  refine Holds.bind (fun made dir => SameAhead name pid sequence before dir ∧
    ∀ error, made = .error error → faults .createDirAll ≠ none) (Holds.ask (fun _ _ => trivial) ?_)
    ?_
  · rintro dir rfl
    have same : SameAhead name pid sequence dir (FileCall.device faults .createDirAll dir).2 :=
      SameAhead.device (fun _ _ => rfl) faults fun _ _ => List.not_mem_nil
    refine ⟨⟨same, fun error failed free => ?_⟩, trivial⟩
    rw [FileCall.device_of_none free] at failed
    cases failed
  rintro (error | ⟨⟩)
  · refine Holds.ret fun dir given => ⟨⟨given.1, Nat.le_refl _, fun free => ?_⟩, trivial⟩
    exact absurd free (given.2 error rfl)
  · rw [isFile]
    have keeps : ∀ call : Syscall,
        (∀ other ∈ call.names, other = temporaryName name pid sequence ∨ other = name) →
        ∀ dir, SameAhead name pid (sequence + 1) before dir →
          SameAhead name pid (sequence + 1) before (FileCall.device faults call dir).2 := by
      intro call names dir same
      refine same.device faults fun later behind member => ?_
      rcases names _ member with equal | equal
      · have := temporaryName_injective equal
        omega
      · exact ne_temporaryName name pid later equal.symm
    have replaced := Holds.of_makes
      (makes_replaceOrRemove (temporaryName name pid sequence) name bytes) keeps
    refine Holds.bind (fun _ => SameAhead name pid (sequence + 1) before)
      (replaced.weaken ?_ (fun _ _ same => same) fun _ _ => trivial) fun result => ?_
    · exact fun dir given later behind => given.1 later (Nat.le_of_succ_le behind)
    · exact Holds.ret fun dir same =>
        ⟨⟨same, Nat.le_succ _, fun _ => rfl⟩, trivial⟩

omit isFile in
/-- Unless its removal meets a fault, a replacement leaves no temporary file. -/
theorem replaceOrRemove_clean {temp : String} (ne : temp ≠ name)
    (free : faults (.remove temp) = none) :
    Holds (FileCall.device faults) (fun _ => True) (replaceOrRemove temp name bytes)
      (fun _ dir => dir.lookup temp = none) (fun _ => True) := by
  refine Holds.bind _ (replaceFile_clean ne bytes) ?_
  rintro (error | ⟨⟩)
  · refine Holds.bind (fun _ dir => dir.lookup temp = none)
      (Holds.ask (fun _ _ => trivial) fun dir _ => ⟨FileCall.lookup_remove free dir, trivial⟩)
      fun _ => Holds.ret fun dir clean => ⟨clean, trivial⟩
  · exact Holds.ret fun dir clean => ⟨clean rfl, trivial⟩

omit isFile in
/-- A replacement leaves the other names. -/
theorem replaceOrRemove_others {temp other : String} (notTemp : other ≠ temp)
    (notFile : other ≠ name) :
    Holds (FileCall.device faults) (fun dir => dir.lookup other = before.lookup other)
      (replaceOrRemove temp name bytes) (fun _ dir => dir.lookup other = before.lookup other)
      (fun _ => True) := by
  have keeps : ∀ call : Syscall, (∀ named ∈ call.names, named = temp ∨ named = name) →
      ∀ dir : StateDir, dir.lookup other = before.lookup other →
        (FileCall.device faults call dir).2.lookup other = before.lookup other := by
    intro call names dir same
    rw [FileCall.lookup_device_of_notMem faults call dir fun member => ?_, same]
    rcases names other member with equal | equal
    · exact notTemp equal
    · exact notFile equal
  exact (Holds.of_makes (makes_replaceOrRemove temp name bytes) keeps).weaken
    (fun _ same => same) (fun _ _ same => same) fun _ _ => trivial

/-- **Persisting adds no file** beside the state file, unless a removal meets a fault. -/
theorem persistBlocking_tidy (free : ∀ temp, faults (.remove temp) = none) {other : String}
    (notFile : other ≠ name) :
    Holds (FileCall.device faults) (· = before)
      (persistBlocking ioText path bytes pid sequence)
      (fun _ dir => dir.lookup other = none ∨ dir.lookup other = before.lookup other)
      (fun _ => True) := by
  refine Holds.bind (fun _ dir => dir.lookup other = before.lookup other)
    (Holds.ask (fun _ _ => trivial) ?_) ?_
  · rintro dir rfl
    exact ⟨FileCall.lookup_device_of_notMem faults _ dir List.not_mem_nil, trivial⟩
  rintro (error | ⟨⟩)
  · exact Holds.ret fun dir same => ⟨.inr same, trivial⟩
  · rw [isFile]
    have replaced : Holds (FileCall.device faults)
        (fun dir => dir.lookup other = before.lookup other)
        (replaceOrRemove (temporaryName name pid sequence) name bytes)
        (fun _ dir => dir.lookup other = none ∨ dir.lookup other = before.lookup other)
        (fun _ => True) := by
      by_cases isTemp : other = temporaryName name pid sequence
      · subst isTemp
        have clean := replaceOrRemove_clean faults bytes notFile (free _)
        exact clean.weaken (fun _ _ => trivial) (fun _ _ => .inl) fun _ _ => trivial
      · have others := replaceOrRemove_others faults bytes before isTemp notFile
        exact others.weaken (fun _ same => same) (fun _ _ => .inr) fun _ _ => trivial
    exact Holds.bind _ replaced fun result => Holds.ret fun dir same => ⟨same, trivial⟩

end Persist

/-! ## Turns of the loop -/

section Turns

variable {foreign : Foreign} {path : PathBuf} {system : System} {round : Round}

/-- What persisting a body gives. -/
def persisting (foreign : Foreign) (path : PathBuf) (system : System) (round : Round)
    (body : Bytes) : (Outcome Unit × ℕ) × StateDir :=
  (persistBlocking foreign.ioText path body system.memory.pid system.memory.sequence).run
    (FileCall.device round.faults) system.dir

/-- A turn that brings a table leaves what persisting it leaves. -/
theorem round_of_brings (path : PathBuf) {download : Download} {clients : Clients}
    (brings : Brings foreign system.memory round.answer download clients) :
    (system.round foreign path round).2.dir =
        (persisting foreign path system round download.body).2 ∧
      (system.round foreign path round).2.memory.sequence =
        (persisting foreign path system round download.body).1.2 ∧
      (system.round foreign path round).2.memory.pid = system.memory.pid := by
  rw [System.round, syncRound, Program.run_bind, poll_of_brings path round.activated brings, update,
    Program.run_bind, persisting]
  generalize (persistBlocking foreign.ioText path download.body system.memory.pid
    system.memory.sequence).run (FileCall.device round.faults) system.dir = saved
  obtain ⟨⟨result, sequence⟩, dir⟩ := saved
  cases result with
  | ok _ => exact ⟨rfl, rfl, rfl⟩
  | error stop => exact ⟨rfl, record_sequence _ _ _, record_pid _ _ _⟩

/-- Another turn makes no call. -/
theorem round_of_not_brings (path : PathBuf)
    (nothing : ¬∃ download clients, Brings foreign system.memory round.answer download clients) :
    (system.round foreign path round).2.dir = system.dir ∧
      (system.round foreign path round).2.memory.sequence = system.memory.sequence ∧
      (system.round foreign path round).2.memory.pid = system.memory.pid := by
  obtain ⟨result, memory, dir, turn, ends⟩ := round_polled foreign path system round
  rw [turn, record_sequence, record_pid]
  cases ends with
  | rejected => exact ⟨rfl, rfl, rfl⟩
  | unchanged => exact ⟨rfl, rfl, rfl⟩
  | same => exact ⟨rfl, rfl, rfl⟩
  | unsaved _ brings => exact absurd ⟨_, _, brings⟩ nothing
  | saved _ brings => exact absurd ⟨_, _, brings⟩ nothing

/-- The numbers of the stale files that the process has still to meet. -/
def Covers (name : String) (stale : List ℕ) (system : System) : Prop :=
  ∀ later, system.memory.sequence ≤ later →
    (system.dir.lookup (temporaryName name system.memory.pid later)).isSome = true →
      later ∈ stale

/-- **One turn** meets no new stale file. -/
theorem Covers.turn (foreign : Foreign) {name : String} (isFile : path.fileName = some name)
    {stale : List ℕ} (covers : Covers name stale system) (round : Round) :
    Covers name stale (system.round foreign path round).2 ∧
      system.memory.sequence ≤ (system.round foreign path round).2.memory.sequence := by
  by_cases new : ∃ download clients, Brings foreign system.memory round.answer download clients
  · obtain ⟨download, clients, brings⟩ := new
    obtain ⟨dir, sequence, pid⟩ := round_of_brings path brings
    obtain ⟨same, grows, -⟩ := (persistBlocking_sameAhead round.faults foreign.ioText isFile
      download.body system.memory.pid system.memory.sequence system.dir).ends system.dir rfl
    rw [Covers, dir, sequence, pid]
    refine ⟨fun later behind found => covers later (Nat.le_trans grows behind) ?_, grows⟩
    rw [← same later behind]
    exact found
  · obtain ⟨dir, sequence, pid⟩ := round_of_not_brings path new
    rw [Covers, dir, sequence, pid]
    exact ⟨covers, Nat.le_refl _⟩

/-- A turn without faults that brings a table and does not take it over met a stale file. -/
theorem Covers.missed {name : String} (isFile : path.fileName = some name) {stale : List ℕ}
    (covers : Covers name stale system) (free : round.faults = noFaults) {download : Download}
    {clients : Clients} (brings : Brings foreign system.memory round.answer download clients)
    (missed : ¬TakesOver foreign path system round download.body clients) :
    system.memory.sequence ∈ stale ∧
      (system.round foreign path round).2.memory.sequence = system.memory.sequence + 1 := by
  constructor
  · refine covers _ (Nat.le_refl _) (Option.isSome_iff_ne_none.mpr fun unused => ?_)
    exact missed ((takesOver_iff free brings).mpr ⟨name, isFile, unused⟩)
  · obtain ⟨-, -, next⟩ := (persistBlocking_sameAhead round.faults foreign.ioText isFile
      download.body system.memory.pid system.memory.sequence system.dir).ends system.dir rfl
    rw [(round_of_brings path brings).2.1]
    exact next (by rw [free]; rfl)

/-- Turns of the loop, the latest last, with the number of those that met no fault, brought a
valid table and did not take it over. -/
inductive Turns (foreign : Foreign) (path : PathBuf) (allowed : Round → Prop)
    (start : System) : ℕ → System → Prop where
  | start : Turns foreign path allowed start 0 start
  | turn {missed : ℕ} {system : System} (round : Round) :
      Turns foreign path allowed start missed system → allowed round →
        Turns foreign path allowed start missed (system.round foreign path round).2
  | missed {missed : ℕ} {system : System} {round : Round} {download : Download}
      {clients : Clients} : Turns foreign path allowed start missed system →
        round.faults = noFaults → Brings foreign system.memory round.answer download clients →
          ¬TakesOver foreign path system round download.body clients →
            Turns foreign path allowed start (missed + 1) (system.round foreign path round).2

/-- How many of the stale files are still ahead. -/
def aheadOf (sequence : ℕ) (stale : List ℕ) : ℕ :=
  stale.countP fun number => decide (sequence ≤ number)

theorem aheadOf_le {sequence next : ℕ} (grows : sequence ≤ next) (stale : List ℕ) :
    aheadOf next stale ≤ aheadOf sequence stale := by
  refine List.countP_mono_left fun number _ behind => ?_
  exact decide_eq_true (Nat.le_trans grows (of_decide_eq_true behind))

/-- A stale file that was met is behind. -/
theorem aheadOf_succ_lt {sequence : ℕ} {stale : List ℕ} (member : sequence ∈ stale) :
    aheadOf (sequence + 1) stale < aheadOf sequence stale := by
  obtain ⟨front, back, rfl⟩ := List.append_of_mem member
  have before := aheadOf_le (Nat.le_add_right sequence 1) front
  have after := aheadOf_le (Nat.le_add_right sequence 1) back
  rw [aheadOf, aheadOf] at before after
  rw [aheadOf, aheadOf, List.countP_append, List.countP_append, List.countP_cons_of_neg (by simp),
    List.countP_cons_of_pos (by simp)]
  omega

variable {allowed : Round → Prop} {start last : System} {missed : ℕ} {name : String}

/-- Every missed table used up a stale file. -/
theorem Turns.covers (turns : Turns foreign path allowed start missed last)
    (isFile : path.fileName = some name) {stale : List ℕ} (covers : Covers name stale start) :
    Covers name stale last ∧ missed + aheadOf last.memory.sequence stale ≤ stale.length := by
  induction turns with
  | start => exact ⟨covers, by rw [Nat.zero_add]; exact List.countP_le_length⟩
  | turn round turns isAllowed ih =>
      obtain ⟨covers, bound⟩ := ih
      obtain ⟨next, grows⟩ := covers.turn foreign isFile round
      exact ⟨next, Nat.le_trans (Nat.add_le_add_left (aheadOf_le grows stale) _) bound⟩
  | missed turns free brings failed ih =>
      obtain ⟨covers, bound⟩ := ih
      obtain ⟨next, -⟩ := covers.turn foreign isFile _
      obtain ⟨member, counts⟩ := covers.missed isFile free brings failed
      have fewer := aheadOf_succ_lt member
      rw [counts]
      exact ⟨next, by omega⟩

/-- **Stale files cost one update each.** In every sequence of turns of a process, with any
answers and any faults, no more updates that met no fault are missed than there were stale
temporary files under the numbers that it had still to use. Once as many were missed, every
later update without a fault is taken over. -/
theorem stale_files_cost_one_update (isFile : path.fileName = some name) {stale : List ℕ}
    (covers : Covers name stale start) (turns : Turns foreign path allowed start missed last) :
    missed ≤ stale.length ∧ (missed = stale.length →
      ∀ (round : Round) (download : Download) (clients : Clients), round.faults = noFaults →
        Brings foreign last.memory round.answer download clients →
          TakesOver foreign path last round download.body clients) := by
  obtain ⟨-, bound⟩ := turns.covers isFile covers
  refine ⟨Nat.le_of_add_right_le bound, fun all round download clients free brings => ?_⟩
  by_contra failed
  obtain ⟨-, more⟩ := (turns.missed free brings failed).covers isFile covers
  omega

/-- **Turns leave no litter.** When no removal meets a fault, every file beside the state
file that is there after any sequence of turns was there before. -/
theorem turns_leave_no_litter (isFile : path.fileName = some name)
    (turns : Turns foreign path (fun round => ∀ temp, round.faults (.remove temp) = none) start
      missed last) {other : String} (notFile : other ≠ name)
    (found : (last.dir.lookup other).isSome = true) :
    (start.dir.lookup other).isSome = true := by
  have step : ∀ (system : System) (round : Round),
      (∀ temp, round.faults (.remove temp) = none) →
        ((system.round foreign path round).2.dir.lookup other).isSome = true →
          (system.dir.lookup other).isSome = true := by
    intro system round free found
    by_cases new : ∃ download clients, Brings foreign system.memory round.answer download clients
    · obtain ⟨download, clients, brings⟩ := new
      have tidy := (persistBlocking_tidy round.faults foreign.ioText isFile download.body
        system.memory.pid system.memory.sequence system.dir free notFile).ends system.dir rfl
      rw [(round_of_brings path brings).1, persisting] at found
      rcases tidy with gone | same
      · rw [gone] at found
        cases found
      · rwa [same] at found
    · rwa [(round_of_not_brings path new).1] at found
  induction turns with
  | start => exact found
  | turn round turns free ih => exact ih (step _ round free found)
  | missed turns free brings failed ih =>
      exact ih (step _ _ (fun temp => by rw [free]; rfl) found)

end Turns

/-! ## One stale file -/

/-- A process that starts beside the temporary file of an earlier one with its id. -/
def staleSystem : System := ⟨Memory.initial 1, emptyDir.create ".clients.csv.1.0.tmp"⟩

theorem covers_staleSystem : Covers "clients.csv" [0] staleSystem := by
  intro later _ found
  by_cases first : later = 0
  · rw [first]
    exact .head _
  · have other : temporaryName "clients.csv" 1 later ≠ ".clients.csv.1.0.tmp" := fun same =>
      first (temporaryName_injective (same : _ = temporaryName "clients.csv" 1 0))
    change ((emptyDir.create _).lookup (temporaryName "clients.csv" 1 later)).isSome = true
      at found
    rw [emptyDir.lookup_create_of_ne other] at found
    cases found

/-- An empty table is new to a process that has downloaded none. -/
theorem brings_empty {memory : Memory} (nothing : memory.cache.body = none) :
    ∃ clients, Brings plainForeign memory (tableRound "").answer ⟨[], none, none⟩ clients := by
  have parses : (Clients.parse Clients.plainReader "").toOption.isSome = true := by decide +kernel
  cases parsed : Clients.parse Clients.plainReader "" with
  | error stop =>
      rw [parsed] at parses
      cases parses
  | ok clients => exact ⟨clients, brings_table nothing (Nat.zero_le _) parsed⟩

/-- The first update of this process is missed, and the second is taken over. -/
theorem stale_files_cost_one_update_first : ∃ clients,
    ¬TakesOver plainForeign shippedPath staleSystem (tableRound "") [] clients ∧
      TakesOver plainForeign shippedPath
        (staleSystem.round plainForeign shippedPath (tableRound "")).2 (tableRound "") []
        clients := by
  obtain ⟨failed, nothing⟩ : (staleSystem.round plainForeign shippedPath (tableRound "")).1 ≠
      .ok () ∧ (staleSystem.round plainForeign shippedPath
        (tableRound "")).2.memory.cache.body = none := by
    decide +kernel
  obtain ⟨clients, brings⟩ := brings_empty (show staleSystem.memory.cache.body = none from rfl)
  obtain ⟨others, again⟩ := brings_empty nothing
  obtain rfl : clients = others := Except.ok.inj (brings.decoded.symm.trans again.decoded)
  have missed : ¬TakesOver plainForeign shippedPath staleSystem (tableRound "") [] clients :=
    fun takes => failed takes.1
  have turns : Turns plainForeign shippedPath (fun _ => True) staleSystem 1
      (staleSystem.round plainForeign shippedPath (tableRound "")).2 :=
    Turns.start.missed rfl brings missed
  exact ⟨clients, missed, (stale_files_cost_one_update rfl covers_staleSystem turns).2 rfl
    (tableRound "") _ clients rfl again⟩

/-- A process that starts beside the temporary file of a process with another id. -/
def otherSystem : System := ⟨Memory.initial 2, emptyDir.create ".clients.csv.1.0.tmp"⟩

/-- Its first update leaves this file where it was, and the next temporary file is not left
beside it. -/
theorem turns_leave_no_litter_first :
    ((otherSystem.round plainForeign shippedPath (tableRound "")).2.dir.lookup
      ".clients.csv.1.0.tmp").isSome = true ∧
    (otherSystem.dir.lookup ".clients.csv.1.0.tmp").isSome = true ∧
    ((otherSystem.round plainForeign shippedPath (tableRound "")).2.dir.lookup
      ".clients.csv.2.0.tmp").isSome = false := by
  have turns : Turns plainForeign shippedPath
      (fun round => ∀ temp, round.faults (.remove temp) = none) otherSystem 0
      (otherSystem.round plainForeign shippedPath (tableRound "")).2 :=
    Turns.start.turn (tableRound "") fun _ => rfl
  have found : ((otherSystem.round plainForeign shippedPath (tableRound "")).2.dir.lookup
      ".clients.csv.1.0.tmp").isSome = true := by
    decide +kernel
  have none : (otherSystem.dir.lookup ".clients.csv.2.0.tmp").isSome ≠ true := by
    decide +kernel
  refine ⟨found, turns_leave_no_litter rfl turns (by decide) found, Bool.eq_false_iff.mpr ?_⟩
  exact fun left => none (turns_leave_no_litter rfl turns (by decide) left)

end Macdack
