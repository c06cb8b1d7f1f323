import Macdack.Runtime.Sync

/-!
# Recovery

The state file over many processes. A process loads the file and polls; it can be
killed between two polls and at any point inside one, and power can be lost while
none runs (`Life`). A history records which tables were handed to persisting, in
order, and for which of them this returned.

Whatever is found on a restart is the original file, or the complete body of one of
these tables, and none that was handed over later has been persisted
(`Found`). The startup load accepts it, with the table that the body had
when it was downloaded (`recovery`).
-/

set_option autoImplicit false

namespace Macdack

open Calls

/-! ## Lives -/

/-- A table that was handed to persisting, and whether this returned. -/
structure Attempt where
  body : Bytes
  clients : Clients
  done : Bool

/-- What a poll hands to persisting. -/
def attempted (foreign : Foreign) (memory : Memory) (answer : Answer) (done : Bool) :
    List Attempt :=
  match fetch foreign memory.cache answer with
  | .ok (some download) =>
      if memory.cache.body = some download.body then []
      else
        match decode foreign download.body with
        | .ok clients => [⟨download.body, clients, done⟩]
        | .error _ => []
  | _ => []

/-- What can happen to the state file: processes that run on it one after the other,
are killed at any point, and losses of power in between. -/
inductive Life (foreign : Foreign) (path : PathBuf) (original : StateDir) :
    Option Memory → StateDir → List Attempt → Prop where
  | start : Life foreign path original none original []
  | boot {dir : StateDir} {history : List Attempt} (pid : ℕ) (faults : Faults) :
      Life foreign path original none dir history →
        Life foreign path original (some (boot foreign path pid faults dir).memory)
          (boot foreign path pid faults dir).dir history
  | poll {memory : Memory} {dir : StateDir} {history : List Attempt} (round : Round) :
      Life foreign path original (some memory) dir history →
        Life foreign path original
          (some (System.round foreign path ⟨memory, dir⟩ round).2.memory)
          (System.round foreign path ⟨memory, dir⟩ round).2.dir
          (history ++ attempted foreign memory round.answer
            (decide ((System.round foreign path ⟨memory, dir⟩ round).1 = .ok ())))
  | kill {memory : Memory} {dir : StateDir} {history : List Attempt} :
      Life foreign path original (some memory) dir history →
        Life foreign path original none dir history
  | killInside {memory : Memory} {dir seen : StateDir} {history : List Attempt} (round : Round) :
      Life foreign path original (some memory) dir history →
        seen ∈ (syncRound foreign path round memory).visited (FileCall.device round.faults) dir →
          Life foreign path original none seen
            (history ++ attempted foreign memory round.answer false)
  | powerLoss {dir after : StateDir} {history : List Attempt} :
      Life foreign path original none dir history → dir.Crash after →
        Life foreign path original none after history

/-- An original state file that is durable, and absent or loadable. -/
structure Original (foreign : Foreign) (name : String) (dir : StateDir) : Prop where
  settled : dir.pending = []
  synced : ∀ file, (dir.cell name).live = some file → file.synced = true
  loadable : ∀ bytes, dir.content name = some bytes →
    ∃ clients, loadSaved foreign bytes = .ok clients

/-! ## What is found -/

/-- The content is the original one and nothing has been persisted, or it is the body
of an attempt and nothing has been persisted after it. -/
def Found (original : Option Bytes) (history : List Attempt) (content : Option Bytes) : Prop :=
  (content = original ∧ ∀ attempt ∈ history, attempt.done = false) ∨
    ∃ earlier attempt later, history = earlier ++ attempt :: later ∧
      content = some attempt.body ∧ ∀ other ∈ later, other.done = false

theorem Found.append {original content : Option Bytes} {history : List Attempt}
    (found : Found original history content) {attempt : Attempt} (failed : attempt.done = false) :
    Found original (history ++ [attempt]) content := by
  rcases found with ⟨isOriginal, none⟩ | ⟨earlier, last, later, rfl, isLast, none⟩
  · refine .inl ⟨isOriginal, ?_⟩
    exact List.forall_mem_append.mpr ⟨none, List.forall_mem_singleton.mpr failed⟩
  · refine .inr ⟨earlier, last, later ++ [attempt], ?_, isLast, ?_⟩
    · rw [List.append_assoc, List.cons_append]
    · exact List.forall_mem_append.mpr ⟨none, List.forall_mem_singleton.mpr failed⟩

theorem Found.last (original : Option Bytes) (history : List Attempt) (attempt : Attempt) :
    Found original (history ++ [attempt]) (some attempt.body) :=
  .inr ⟨history, attempt, [], rfl, rfl, nofun⟩

/-- **The invariant**: every file that a crash can leave under the name is synced, and
its content is one that may be found. -/
def Kept (original : Option Bytes) (history : List Attempt) (cell : Cell (File UInt8)) : Prop :=
  ∀ value ∈ cell.possible, (∀ file, value = some file → file.synced = true) ∧
    Found original history (value.map File.data)

namespace Kept

variable {original : Option Bytes} {history : List Attempt} {cell : Cell (File UInt8)}

theorem found (kept : Kept original history cell) :
    Found original history (cell.live.map File.data) :=
  (kept _ cell.live_mem_possible).2

theorem append (kept : Kept original history cell) {attempt : Attempt}
    (failed : attempt.done = false) : Kept original (history ++ [attempt]) cell :=
  fun value possible => ⟨(kept value possible).1, (kept value possible).2.append failed⟩

/-- A new file that is not settled. -/
theorem put (kept : Kept original history cell) (attempt : Attempt)
    (failed : attempt.done = false) :
    Kept original (history ++ [attempt]) (cell.put (some ⟨attempt.body, true⟩)) := by
  intro value possible
  rw [Cell.possible_put] at possible
  rcases List.mem_append.mp possible with old | new
  · exact kept.append failed value old
  · rw [List.mem_singleton.mp new]
    exact ⟨by rintro _ ⟨rfl⟩; rfl, Found.last original history attempt⟩

/-- A new file that is settled is the only one. -/
theorem settle (original : Option Bytes) (history : List Attempt) (cell : Cell (File UInt8))
    (attempt : Attempt) : Kept original (history ++ [attempt])
      (cell.put (some ⟨attempt.body, true⟩)).settle := by
  intro value possible
  rw [Cell.possible_settle, Cell.live_put] at possible
  rw [List.mem_singleton.mp possible]
  exact ⟨by rintro _ ⟨rfl⟩; rfl, Found.last original history attempt⟩

theorem crash (kept : Kept original history cell) {after : Cell (File UInt8)}
    (crash : Cell.Crash cell after) : Kept original history after :=
  fun value possible => kept value (crash.possible_subset possible)

end Kept

/-! ## One poll -/

section Poll

variable {foreign : Foreign} {memory : Memory} {answer : Answer}

theorem attempted_of_brings {download : Download} {clients : Clients}
    (brings : Brings foreign memory answer download clients) (done : Bool) :
    attempted foreign memory answer done = [⟨download.body, clients, done⟩] := by
  rw [attempted, brings.fetched]
  simp only [if_neg brings.new, brings.decoded]

/-- Nothing is handed over, or one table that the answer brings. -/
theorem attempted_cases (foreign : Foreign) (memory : Memory) (answer : Answer) (done : Bool) :
    attempted foreign memory answer done = [] ∨
      ∃ download clients, Brings foreign memory answer download clients ∧
        attempted foreign memory answer done = [⟨download.body, clients, done⟩] := by
  cases meaning foreign memory answer with
  | rejected rejects =>
      cases rejects with
      | fetch refused => exact .inl (by rw [attempted, refused])
      | decode fetched new refused =>
          left
          rw [attempted, fetched]
          simp only [if_neg new, refused]
  | unchanged fetched => exact .inl (by rw [attempted, fetched])
  | same fetched cached =>
      left
      rw [attempted, fetched]
      exact if_pos cached
  | new brings => exact .inr ⟨_, _, brings, attempted_of_brings brings done⟩

/-- What is handed over is a complete table. -/
theorem complete_of_attempted {done : Bool} {attempt : Attempt}
    (member : attempt ∈ attempted foreign memory answer done) :
    attempt.body.length ≤ maxCsvBytes ∧ decode foreign attempt.body = .ok attempt.clients := by
  rcases attempted_cases foreign memory answer done with none | ⟨download, clients, brings, one⟩
  · rw [none] at member
    cases member
  · rw [one] at member
    obtain ⟨response, -, complete⟩ := from_of_fetch brings.fetched
    rw [List.mem_singleton.mp member]
    exact ⟨complete.short, brings.decoded⟩

variable {original : Option Bytes} {history : List Attempt} {name : String}
  {before after : StateDir}

/-- A poll that leaves the file as it was keeps the invariant. -/
theorem Kept.unchanged (kept : Kept original history (before.cell name))
    (foreign : Foreign) (memory : Memory) (answer : Answer) :
    Kept original (history ++ attempted foreign memory answer false) (before.cell name) := by
  rcases attempted_cases foreign memory answer false with none | ⟨_, _, _, one⟩
  · rw [none, List.append_nil]
    exact kept
  · rw [one]
    exact kept.append rfl

/-- **Every point of a poll** keeps the invariant. -/
theorem Kept.of_passes {path : PathBuf} {round : Round} {seen : StateDir}
    (kept : Kept original history (before.cell name)) (isFile : path.fileName = some name)
    (passes : PollPasses foreign path round memory before seen) :
    Kept original (history ++ attempted foreign memory round.answer false)
      (seen.cell name) := by
  rcases passes with rfl | ⟨download, clients, brings, passes⟩
  · exact kept.unchanged foreign memory round.answer
  · rw [attempted_of_brings brings]
    rcases passes name isFile with same | put | settled
    · rw [same]
      exact kept.append rfl
    · rw [put]
      exact kept.put ⟨download.body, clients, false⟩ rfl
    · rw [settled]
      exact Kept.settle original history _ ⟨download.body, clients, false⟩

/-- A poll whose answer brings no table hands nothing over. -/
theorem attempted_of_not_brings {foreign : Foreign} {memory : Memory} {answer : Answer}
    (none : ¬∃ download clients, Brings foreign memory answer download clients) (done : Bool) :
    attempted foreign memory answer done = [] := by
  rcases attempted_cases foreign memory answer done with nothing | ⟨_, _, brings, -⟩
  · exact nothing
  · exact absurd ⟨_, _, brings⟩ none

/-- **A finished poll** keeps the invariant, and if it returns the new file is
durable. -/
theorem Kept.of_polled {path : PathBuf} {round : Round} {polled : Memory} {result : Outcome Unit}
    (kept : Kept original history (before.cell name)) (isFile : path.fileName = some name)
    (ends : Polled foreign path round memory before result polled after) :
    Kept original (history ++ attempted foreign memory round.answer
      (decide (result = .ok ()))) (after.cell name) := by
  have passed := kept.of_passes isFile ends.passes
  by_cases new : ∃ download clients, Brings foreign memory round.answer download clients
  · obtain ⟨download, clients, brings⟩ := new
    rcases ends.of_brings brings with ⟨stop, rfl, -, -⟩ | ⟨rfl, -, -, persisted⟩
    · rw [decide_eq_false (Outcome.context_error_ne_ok _ _ _)]
      exact passed
    · cases persisted with
      | done _ found cell =>
          obtain rfl := Option.some.inj (found.symm.trans isFile)
          rw [attempted_of_brings brings, cell]
          exact Kept.settle original history _ ⟨_, _, true⟩
  · rw [attempted_of_not_brings new] at passed ⊢
    exact passed

end Poll

/-! ## Every life -/

section Life

variable {foreign : Foreign} {path : PathBuf} {original dir : StateDir}
  {process : Option Memory} {history : List Attempt}

/-- **Every life keeps the invariant.** -/
theorem kept_of_life {name : String} (isFile : path.fileName = some name)
    (initial : Original foreign name original)
    (life : Life foreign path original process dir history) :
    Kept (original.content name) history (dir.cell name) := by
  induction life with
  | start =>
      have settled : (original.cell name).possible = [(original.cell name).live] := by
        rw [Directory.cell, Directory.entry, initial.settled]
        rfl
      intro value possible
      rw [settled] at possible
      rw [List.mem_singleton.mp possible]
      exact ⟨initial.synced, .inl ⟨rfl, by simp⟩⟩
  | @boot dir _ pid faults _ ih =>
      rw [(boot_loads foreign path pid faults dir).1]
      exact ih
  | @poll memory dir _ round _ ih =>
      obtain ⟨result, polled, after, turn, ends⟩ := round_polled foreign path ⟨memory, dir⟩ round
      rw [turn]
      exact ih.of_polled isFile ends
  | kill _ ih => exact ih
  | @killInside memory dir seen _ round _ member ih =>
      -- Every state that the calls of the poll pass counts, not only the last one.
      exact ih.of_passes isFile ((syncRound_holds foreign path round memory dir).passes dir rfl seen
        member)
  | powerLoss _ crash ih =>
      exact ih.crash (crash.cell fun file possible => (ih _ possible).1 file rfl)

/-- Every attempt of a life is a complete table. -/
theorem attempt_of_life (life : Life foreign path original process dir history) :
    ∀ attempt ∈ history, attempt.body.length ≤ maxCsvBytes ∧
      decode foreign attempt.body = .ok attempt.clients := by
  induction life with
  | start => nofun
  | boot _ _ _ ih => exact ih
  | poll _ _ ih =>
      exact List.forall_mem_append.mpr ⟨ih, fun _ member => complete_of_attempted member⟩
  | kill _ ih => exact ih
  | killInside _ _ _ ih =>
      exact List.forall_mem_append.mpr ⟨ih, fun _ member => complete_of_attempted member⟩
  | powerLoss _ _ ih => exact ih

end Life

/-- **Crash consistency and recovery.** Whatever happens to processes that start on
a durable state file which is absent or loadable: the file that is found is the
original one or the complete body of a table that was downloaded, and if persisting
any table has returned it is this one or a later one. A process that starts on it
loads it, with the table that the body decoded to when it was downloaded. -/
theorem recovery (foreign : Foreign) (path : PathBuf) {name : String}
    (isFile : path.fileName = some name) {original dir : StateDir} {process : Option Memory}
    {history : List Attempt} (initial : Original foreign name original)
    (life : Life foreign path original process dir history) :
    Found (original.content name) history (dir.content name) ∧
      (∀ attempt ∈ history, decode foreign attempt.body = .ok attempt.clients) ∧
      ∀ pid faults, faults (.read name) = none →
        (dir.content name = none →
          (boot foreign path pid faults dir).memory.shared.snapshot = none) ∧
        ∀ body, dir.content name = some body → ∃ clients,
          decode foreign body = .ok clients ∧
            (boot foreign path pid faults dir).memory.shared.snapshot = some clients := by
  have found := (kept_of_life isFile initial life).found
  have attempts := attempt_of_life life
  refine ⟨found, fun attempt member => (attempts attempt member).2, ?_⟩
  intro pid faults free
  have loaded := (boot_loads foreign path pid faults dir).2.2 name isFile free
  refine ⟨fun absent => by rw [loaded, absent]; rfl, ?_⟩
  intro body content
  have accepted : ∃ clients, loadSaved foreign body = .ok clients ∧
      decode foreign body = .ok clients := by
    change Found _ _ (dir.content name) at found
    rcases found with ⟨isOriginal, -⟩ | ⟨earlier, attempt, later, rfl, isBody, -⟩
    · obtain ⟨clients, loads⟩ := initial.loadable body (isOriginal.symm.trans content)
      exact ⟨clients, loads, (decode_of_loadSaved loads).2⟩
    · obtain ⟨short, decoded⟩ := attempts attempt (List.mem_append_right _ List.mem_cons_self)
      obtain rfl : attempt.body = body := Option.some.inj (isBody.symm.trans content)
      exact ⟨attempt.clients, loadSaved_of_decode short decoded, decoded⟩
  obtain ⟨clients, loads, decoded⟩ := accepted
  refine ⟨clients, decoded, ?_⟩
  rw [loaded, content, savedTable, Option.bind_some, loads]
  rfl

theorem original_emptyDir : Original plainForeign "clients.csv" emptyDir where
  settled := rfl
  synced := nofun
  loadable := nofun

/-- The shipped table is persisted, the next one is not synced, and a crash undoes the
move: the shipped table is loaded. -/
theorem recovery_unsynced :
    unsyncedSystem.dir.content "clients.csv" = some (Text.asBytes movedTable) ∧
    ∃ clients, decode plainForeign (Text.asBytes Clients.shipped) = .ok clients ∧
      (boot plainForeign shippedPath 1 (fun _ => none)
        unsyncedSystem.dir.forget).memory.shared.snapshot = some clients := by
  have contents : unsyncedSystem.dir.content "clients.csv" = some (Text.asBytes movedTable) ∧
      unsyncedSystem.dir.forget.content "clients.csv" = some (Text.asBytes Clients.shipped) := by
    decide +kernel
  have booted :
      Life plainForeign shippedPath emptyDir (some emptySystem.memory) emptySystem.dir [] :=
    .boot 1 (fun _ => none) .start
  have polls : ∀ (system : System) (history : List Attempt) (round : Round),
      Life plainForeign shippedPath emptyDir (some system.memory) system.dir history →
        ∃ history, Life plainForeign shippedPath emptyDir
          (some (system.round plainForeign shippedPath round).2.memory)
          (system.round plainForeign shippedPath round).2.dir history :=
    fun system history round life => ⟨_, .poll round life⟩
  obtain ⟨first, syncedLife⟩ := polls emptySystem [] (tableRound Clients.shipped) booted
  obtain ⟨second, life⟩ := polls syncedSystem first unsyncedRound syncedLife
  have restart := life.kill.powerLoss unsyncedSystem.dir.crash_forget
  obtain ⟨-, -, restarted⟩ := recovery plainForeign shippedPath rfl original_emptyDir restart
  exact ⟨contents.1, (restarted 1 (fun _ => none) rfl).2 _ contents.2⟩

end Macdack
