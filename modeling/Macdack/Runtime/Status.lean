import Macdack.Runtime.Sync

/-!
# The sync status

`GET /health` and `GET /metrics` report the status and the counters of `run_sync`.
They are written in three places: by the load of the saved table, by the activation
of a download inside of a poll, and by the loop after a poll. `Truthful` is what they
say together of the data, in terms of the polls that have finished, and
`status_truthful` proves it for every state of `run_sync` before its first poll and
between two polls.
-/

set_option autoImplicit false

namespace Macdack

open Calls

/-! ## The states between two polls -/

/-- What reading the state file gives at the start. -/
def savedFile (path : PathBuf) (faults : Faults) (dir : StateDir) : Except IoError Bytes :=
  ((readState path).run (FileCall.device faults) dir).1

/-- A finished poll: its inputs and its result. -/
abbrev FinishedPoll := Round × Outcome Unit

/-- The states of `run_sync` before its first poll and between two polls, with the
polls that have finished, the latest first. A panic ends the task, so no poll comes
after one. -/
inductive BetweenPolls (foreign : Foreign) (path : PathBuf) (pid : ℕ) (faults : Faults)
    (dir : StateDir) : List FinishedPoll → System → Prop where
  | loaded : (∀ bytes, savedFile path faults dir = .ok bytes →
        loadSaved foreign bytes ≠ .error .panic) →
      BetweenPolls foreign path pid faults dir [] (boot foreign path pid faults dir)
  | polled {polls : List FinishedPoll} {system : System} (round : Round) :
      BetweenPolls foreign path pid faults dir polls system →
        (system.round foreign path round).1 ≠ .error .panic →
          BetweenPolls foreign path pid faults dir
            ((round, (system.round foreign path round).1) :: polls)
            (system.round foreign path round).2

/-! ## What the status says -/

/-- The saved file was loaded, or there was none. -/
def LoadedOrMissing (foreign : Foreign) (saved : Except IoError Bytes) : Prop :=
  (∃ bytes clients, saved = .ok bytes ∧ loadSaved foreign bytes = .ok clients) ∨
    saved = .error .notFound

/-- The latest poll succeeded. Before any poll, the saved file was loaded or there was
none. -/
def NothingWrong (foreign : Foreign) (saved : Except IoError Bytes) : List FinishedPoll → Prop
  | [] => LoadedOrMissing foreign saved
  | latest :: _ => latest.2 = .ok ()

/-- The active table is that of a body which a poll of this process downloaded, and
the cache holds the body. The age of the data is that of its activation. -/
def FromDownload (foreign : Foreign) (polls : List FinishedPoll) (memory : Memory) : Prop :=
  ∃ (round : Round) (response : Response) (download : Download) (clients : Clients),
    (round, .ok ()) ∈ polls ∧ round.answer = .received response ∧ download.From response ∧
      decode foreign download.body = .ok clients ∧ memory.shared.snapshot = some clients ∧
        memory.cache.body = some download.body ∧
          memory.shared.status.dataSince = some round.activated

/-- The active table is that of the saved file. -/
def FromState (foreign : Foreign) (saved : Except IoError Bytes) (memory : Memory) : Prop :=
  ∃ bytes clients, saved = .ok bytes ∧ loadSaved foreign bytes = .ok clients ∧
    memory.shared.snapshot = some clients

/-- What the status says of the data. -/
structure TruthfulData (foreign : Foreign) (saved : Except IoError Bytes)
    (polls : List FinishedPoll) (memory : Memory) : Prop where
  source : memory.shared.status.source.isSome ↔ memory.shared.snapshot.isSome
  since : memory.shared.status.source = some .remote ↔ memory.shared.status.dataSince.isSome
  cached : memory.shared.status.source = some .remote ↔ memory.cache.body.isSome
  remote : memory.shared.status.source = some .remote → FromDownload foreign polls memory
  state : memory.shared.status.source = some .state → FromState foreign saved memory

/-- What the status and the counters say of the data and of the finished polls. -/
structure Truthful (foreign : Foreign) (saved : Except IoError Bytes) (polls : List FinishedPoll)
    (memory : Memory) : Prop extends TruthfulData foreign saved polls memory where
  success : memory.shared.status.lastSuccess.isSome → memory.shared.status.source = some .remote
  error : memory.shared.status.lastError = none ↔ NothingWrong foreign saved polls
  finished : memory.shared.syncSuccess + memory.shared.syncErrors = polls.length
  writes : memory.shared.stateWriteErrors ≤ memory.shared.syncErrors

/-! ## The start -/

theorem memory_boot (foreign : Foreign) (path : PathBuf) (pid : ℕ) (faults : Faults)
    (dir : StateDir) : (boot foreign path pid faults dir).memory =
      load foreign (Memory.initial pid) (savedFile path faults dir) := by
  rw [boot, startup, Program.run_bind, Program.run_pure, savedFile]

/-- A process that has an error from its start, or nothing at all. -/
theorem truthful_initial {foreign : Foreign} {saved : Except IoError Bytes} {memory : Memory}
    (snapshot : memory.shared.snapshot = none) (cache : memory.cache = ⟨none, none, none⟩)
    (counters : memory.shared.syncSuccess = 0 ∧ memory.shared.syncErrors = 0 ∧
      memory.shared.stateWriteErrors = 0)
    (status : memory.shared.status.source = none ∧ memory.shared.status.lastSuccess = none ∧
      memory.shared.status.dataSince = none)
    (error : memory.shared.status.lastError = none ↔ LoadedOrMissing foreign saved) :
    Truthful foreign saved [] memory := by
  obtain ⟨successes, errors, writes⟩ := counters
  obtain ⟨source, success, since⟩ := status
  refine ⟨⟨?_, ?_, ?_, ?_, ?_⟩, ?_, error, ?_, ?_⟩
  · rw [source, snapshot]
    rfl
  · rw [source, since]
    exact iff_of_false nofun nofun
  · rw [source, cache]
    exact iff_of_false nofun nofun
  · rw [source]
    nofun
  · rw [source]
    nofun
  · rw [success]
    nofun
  · rw [successes, errors]
    rfl
  · rw [writes]
    exact Nat.zero_le _

/-- A state file that is there and cannot be read is an error. -/
theorem load_unreadable (foreign : Foreign) (memory : Memory) {error : IoError}
    (missing : error ≠ .notFound) :
    load foreign memory (.error error) = memory.readError (foreign.ioText error) := by
  cases error with
  | notFound => exact absurd rfl missing
  | alreadyExists => rfl
  | isADirectory => rfl
  | badHandle => rfl
  | os code => rfl

/-- **Loading the saved file** is reported as it ended. -/
theorem truthful_load (foreign : Foreign) (pid : ℕ) {saved : Except IoError Bytes}
    (returned : ∀ bytes, saved = .ok bytes → loadSaved foreign bytes ≠ .error .panic) :
    Truthful foreign saved [] (load foreign (Memory.initial pid) saved) := by
  cases saved with
  | ok bytes =>
      rw [load]
      cases loaded : loadSaved foreign bytes with
      | ok clients =>
          have notRemote : some Source.state ≠ some .remote := by decide
          refine ⟨⟨iff_of_true rfl rfl, iff_of_false notRemote Bool.false_ne_true,
            iff_of_false notRemote Bool.false_ne_true, fun remote => absurd remote notRemote, ?_⟩,
            fun success => absurd success Bool.false_ne_true,
            iff_of_true rfl (.inl ⟨bytes, clients, rfl, loaded⟩), rfl, Nat.zero_le _⟩
          exact fun _ => ⟨bytes, clients, rfl, loaded, rfl⟩
      | error stop =>
          cases stop with
          | panic => exact absurd loaded (returned bytes rfl)
          | error chain =>
              refine truthful_initial rfl rfl ⟨rfl, rfl, rfl⟩ ⟨rfl, rfl, rfl⟩ ?_
              refine iff_of_false (Option.some_ne_none _) ?_
              rintro (⟨_, clients, ⟨rfl⟩, accepted⟩ | missing)
              · rw [loaded] at accepted
                cases accepted
              · cases missing
  | error error =>
      by_cases missing : error = .notFound
      · subst missing
        exact truthful_initial rfl rfl ⟨rfl, rfl, rfl⟩ ⟨rfl, rfl, rfl⟩
          (iff_of_true rfl (.inr rfl))
      · rw [load_unreadable foreign _ missing]
        refine truthful_initial rfl rfl ⟨rfl, rfl, rfl⟩ ⟨rfl, rfl, rfl⟩ ?_
        refine iff_of_false (Option.some_ne_none _) ?_
        rintro (⟨_, _, wrong, -⟩ | ⟨⟨⟩⟩)
        · cases wrong
        · exact missing rfl

/-! ## A poll -/

@[simp] theorem record_source (memory : Memory) (clock : ℕ) (result : Outcome Unit) :
    (memory.record clock result).shared.status.source = memory.shared.status.source := by
  rcases result with (chain | _) | _ <;> rfl

@[simp] theorem record_dataSince (memory : Memory) (clock : ℕ) (result : Outcome Unit) :
    (memory.record clock result).shared.status.dataSince = memory.shared.status.dataSince := by
  rcases result with (chain | _) | _ <;> rfl

/-- The data and what is known of it have not changed. -/
structure SameReport (before after : Memory) : Prop where
  snapshot : after.shared.snapshot = before.shared.snapshot
  body : after.cache.body = before.cache.body
  source : after.shared.status.source = before.shared.status.source
  dataSince : after.shared.status.dataSince = before.shared.status.dataSince

section Step

variable {foreign : Foreign} {saved : Except IoError Bytes} {polls : List FinishedPoll}
  {memory polled : Memory}

/-- What is said of the data stays while the data does. -/
theorem TruthfulData.congr (truthful : TruthfulData foreign saved polls memory)
    (same : SameReport memory polled) : TruthfulData foreign saved polls polled where
  source := by
    rw [same.source, same.snapshot]
    exact truthful.source
  since := by
    rw [same.source, same.dataSince]
    exact truthful.since
  cached := by
    rw [same.source, same.body]
    exact truthful.cached
  remote := by
    intro isRemote
    rw [same.source] at isRemote
    obtain ⟨round, response, download, clients, member, answered, whole, decoded, active, cached,
      activated⟩ := truthful.remote isRemote
    exact ⟨round, response, download, clients, member, answered, whole, decoded,
      same.snapshot.trans active, same.body.trans cached, same.dataSince.trans activated⟩
  state := by
    intro isState
    rw [same.source] at isState
    obtain ⟨bytes, clients, isSaved, loaded, active⟩ := truthful.state isState
    exact ⟨bytes, clients, isSaved, loaded, same.snapshot.trans active⟩

/-- A download of an earlier poll stays one. -/
theorem TruthfulData.later (truthful : TruthfulData foreign saved polls memory)
    (latest : FinishedPoll) : TruthfulData foreign saved (latest :: polls) memory where
  source := truthful.source
  since := truthful.since
  cached := truthful.cached
  remote := by
    intro isRemote
    obtain ⟨round, response, download, clients, member, others⟩ := truthful.remote isRemote
    exact ⟨round, response, download, clients, List.mem_cons_of_mem _ member, others⟩
  state := truthful.state

/-- **Recording a result** counts it and keeps what is said of the data. A success
needs data that was downloaded. -/
theorem Truthful.of_record {round : Round} {result : Outcome Unit}
    (data : TruthfulData foreign saved ((round, result) :: polls) polled)
    (success : polled.shared.status.lastSuccess.isSome →
      polled.shared.status.source = some .remote)
    (counted : polled.shared.syncSuccess + polled.shared.syncErrors = polls.length)
    (finished : result ≠ .error .panic)
    (returned : result = .ok () → polled.shared.status.source = some .remote ∧
      polled.shared.stateWriteErrors ≤ polled.shared.syncErrors)
    (writes : polled.shared.stateWriteErrors ≤ polled.shared.syncErrors + 1) :
    Truthful foreign saved ((round, result) :: polls) (polled.record round.finished result) where
  toTruthfulData := by
    refine data.congr ⟨record_snapshot _ _ _, ?_, record_source _ _ _, record_dataSince _ _ _⟩
    rw [record_cache]
  success := by
    rw [record_source]
    match result with
    | .ok () => exact fun _ => (returned rfl).1
    | .error (.error chain) => exact success
    | .error .panic => exact absurd rfl finished
  error := by
    match result with
    | .ok () => exact iff_of_true rfl rfl
    | .error (.error chain) => exact iff_of_false nofun nofun
    | .error .panic => exact absurd rfl finished
  finished := by
    match result with
    | .ok () =>
        change polled.shared.syncSuccess + 1 + polled.shared.syncErrors = polls.length + 1
        omega
    | .error (.error chain) =>
        change polled.shared.syncSuccess + (polled.shared.syncErrors + 1) = polls.length + 1
        omega
    | .error .panic => exact absurd rfl finished
  writes := by
    match result with
    | .ok () => exact (returned rfl).2
    | .error (.error chain) => exact writes
    | .error .panic => exact absurd rfl finished

/-- **A turn of the loop** is reported as it ended. -/
theorem Truthful.of_polled {path : PathBuf} {round : Round} {before after : StateDir}
    {result : Outcome Unit} (truthful : Truthful foreign saved polls memory)
    (ends : Polled foreign path round memory before result polled after)
    (finished : result ≠ .error .panic) :
    Truthful foreign saved ((round, result) :: polls) (polled.record round.finished result) := by
  have downloaded : memory.cache.body.isSome → memory.shared.status.source = some .remote :=
    truthful.cached.mpr
  have data := truthful.toTruthfulData
  have written := truthful.writes
  cases ends with
  | rejected =>
      exact .of_record (data.later _) truthful.success truthful.finished finished nofun
        (Nat.le_succ_of_le written)
  | unchanged fetched =>
      obtain ⟨-, body, cached⟩ := unchanged_of_fetch fetched
      have isRemote := downloaded (Option.isSome_iff_exists.mpr ⟨body, cached⟩)
      exact .of_record (data.later _) truthful.success truthful.finished finished
        (fun _ => ⟨isRemote, written⟩) (Nat.le_succ_of_le written)
  | same fetched cached =>
      have isRemote := downloaded (Option.isSome_iff_exists.mpr ⟨_, cached⟩)
      exact .of_record ((data.later _).congr ⟨rfl, cached.symm, rfl, rfl⟩) truthful.success
        truthful.finished finished (fun _ => ⟨isRemote, written⟩) (Nat.le_succ_of_le written)
  | unsaved sequence brings persisted =>
      exact .of_record ((data.later _).congr ⟨rfl, rfl, rfl, rfl⟩) truthful.success
        truthful.finished finished
        (fun returned => absurd returned (Outcome.context_error_ne_ok _ _ _))
        (Nat.succ_le_succ written)
  | @saved download clients sequence _ brings persisted =>
      obtain ⟨response, answered, whole⟩ := from_of_fetch brings.fetched
      refine .of_record ⟨iff_of_true rfl rfl, iff_of_true rfl rfl, iff_of_true rfl rfl, ?_, nofun⟩
        (fun _ => rfl) truthful.finished finished (fun _ => ⟨rfl, written⟩)
        (Nat.le_succ_of_le written)
      exact fun _ => ⟨round, response, download, clients, List.mem_cons_self, answered, whole,
        brings.decoded, rfl, rfl, rfl⟩

end Step

/-! ## The status -/

/-- **The sync status tells the truth about the data.** For every state file and every
sequence of polls, in every state of `run_sync` before its first poll and between two
polls:

* a source is reported exactly when a table is active;
* the source is remote exactly when an age of the data is reported, and exactly when a
  body is cached, and then the active table is that of a body which a poll of this
  process downloaded; otherwise it is that of the saved file;
* a time of success is reported for a remote source only;
* no error is reported exactly when the latest poll succeeded or, before any poll, the
  saved file was loaded or did not exist;
* successes and errors are as many as finished polls, and no more errors of writing the
  state file than errors. -/
theorem status_truthful {foreign : Foreign} {path : PathBuf} {pid : ℕ} {faults : Faults}
    {dir : StateDir} {polls : List FinishedPoll} {system : System}
    (between : BetweenPolls foreign path pid faults dir polls system) :
    Truthful foreign (savedFile path faults dir) polls system.memory := by
  induction between with
  | loaded returned =>
      rw [memory_boot]
      exact truthful_load foreign pid returned
  | @polled polls system round _ finished ih =>
      obtain ⟨result, memory, after, turn, ends⟩ := round_polled foreign path system round
      rw [turn] at finished ⊢
      exact ih.of_polled ends finished

/-- The shipped table is downloaded to an empty directory. -/
theorem status_truthful_synced : Truthful plainForeign (.error .notFound)
    [(tableRound Clients.shipped, .ok ())] syncedSystem.memory := by
  have returned : (emptySystem.round plainForeign shippedPath (tableRound Clients.shipped)).1 =
      .ok () := by
    decide +kernel
  have loaded : BetweenPolls plainForeign shippedPath 1 (fun _ => none) emptyDir [] emptySystem :=
    .loaded fun bytes isSaved => by cases isSaved
  have between := loaded.polled (tableRound Clients.shipped) (by rw [returned]; nofun)
  rw [returned] at between
  exact status_truthful between

end Macdack
