import Macdack.Runtime.Sync

/-!
# Agreement of memory and disk

After a poll that returns, the state file should hold the cached body and the
active table should be the table of this body (`Agrees`). This holds unless a poll
replaces the state file and then fails to make this durable while another body is
cached: the file has the new body, the cache and the table keep the old one, and a
later poll that finds the source unchanged returns without writing the file again
(`agreement_fails`).

`agreement_of_run` is exact. In a run without such a poll every poll that returns
ends in agreement, and after such a poll the next answer that the source has not
changed ends in disagreement.
-/

set_option autoImplicit false

namespace Macdack

open Calls

/-- The state file holds the cached body, its table is active, and a process that
starts now serves it. -/
def Agrees (foreign : Foreign) (path : PathBuf) (system : System) : Prop :=
  ∃ name body clients, path.fileName = some name ∧
    system.memory.cache.body = some body ∧
    system.dir.content name = some body ∧
    system.memory.shared.snapshot = some clients ∧
    decode foreign body = .ok clients ∧
    ∀ pid faults, faults (.read name) = none →
      (boot foreign path pid faults system.dir).memory.shared.snapshot = some clients

/-- The copies of a body. -/
structure Copies (foreign : Foreign) (path : PathBuf) (system : System) (body : Bytes) :
    Prop where
  short : body.length ≤ maxCsvBytes
  file : ∃ name, path.fileName = some name ∧ system.dir.content name = some body
  table : ∃ clients, system.memory.shared.snapshot = some clients ∧
    decode foreign body = .ok clients

/-- The invariant of the loop: a cached body has its copies. -/
def Consistent (foreign : Foreign) (path : PathBuf) (system : System) : Prop :=
  ∀ body, system.memory.cache.body = some body → Copies foreign path system body

/-- The poll replaces the state file and fails afterwards, while another body is
cached. -/
structure Harms (foreign : Foreign) (path : PathBuf) (system : System) (round : Round) :
    Prop where
  cached : ∃ body, system.memory.cache.body = some body
  replaces : ∃ download clients, Brings foreign system.memory round.answer download clients ∧
    Unhindered round.faults path system.memory.pid system.memory.sequence download.body system.dir
  fails : round.faults .openDir ≠ none ∨ round.faults .syncDir ≠ none

section Agreement

variable {foreign : Foreign} {path : PathBuf}

theorem agrees_of_consistent {system : System} (consistent : Consistent foreign path system)
    {body : Bytes} (cached : system.memory.cache.body = some body) :
    Agrees foreign path system := by
  obtain ⟨short, ⟨name, isFile, content⟩, clients, table, decoded⟩ := consistent body cached
  refine ⟨name, body, clients, isFile, cached, content, table, decoded, ?_⟩
  intro pid faults free
  rw [(boot_loads foreign path pid faults system.dir).2.2 name isFile free, content, savedTable,
    Option.bind_some, loadSaved_of_decode short decoded]
  rfl

theorem consistent_boot (pid : ℕ) (faults : Faults) (dir : StateDir) :
    Consistent foreign path (boot foreign path pid faults dir) := by
  intro body cached
  rw [(boot_loads foreign path pid faults dir).2.1] at cached
  cases cached

/-- What is put into the cell of a file is its content. -/
theorem content_of_put {name : String} {body : Bytes} {before after : StateDir}
    (cell : after.cell name = ((before.cell name).put (some ⟨body, true⟩)).settle ∨
      after.cell name = (before.cell name).put (some ⟨body, true⟩)) :
    after.content name = some body := by
  rw [Directory.content]
  rcases cell with settled | put
  · rw [settled, Cell.live_settle, Cell.live_put]
    rfl
  · rw [put, Cell.live_put]
    rfl

/-- **One turn keeps the invariant**, unless it does the harm. -/
theorem consistent_round {system : System} (consistent : Consistent foreign path system)
    {round : Round} (harmless : ¬Harms foreign path system round) :
    Consistent foreign path (system.round foreign path round).2 := by
  obtain ⟨result, memory, dir, turn, polled⟩ := round_polled foreign path system round
  rw [turn]
  intro body cached
  rw [record_cache] at cached
  suffices copies : Copies foreign path ⟨memory, dir⟩ body by
    obtain ⟨short, file, table⟩ := copies
    exact ⟨short, file, by rwa [record_snapshot]⟩
  cases polled with
  | rejected => exact consistent body cached
  | unchanged => exact consistent body cached
  | same fetched held =>
      obtain ⟨short, file, table⟩ := consistent body (held.trans cached)
      exact ⟨short, file, table⟩
  | unsaved sequence brings persisted =>
      obtain ⟨short, ⟨name, isFile, content⟩, table⟩ := consistent body cached
      cases persisted with
      | early cell =>
          refine ⟨short, ⟨name, isFile, ?_⟩, table⟩
          rw [Directory.content, cell name isFile]
          exact content
      | late unhindered _ _ fault =>
          -- The file has the new body here and the cache the old one.
          exact absurd ⟨⟨body, cached⟩, ⟨_, _, brings, unhindered⟩, fault⟩ harmless
  | saved sequence brings persisted =>
      obtain ⟨response, -, complete⟩ := from_of_fetch brings.fetched
      cases cached
      cases persisted with
      | done _ isFile cell =>
          exact ⟨complete.short, ⟨_, isFile, content_of_put (.inl cell)⟩, _, rfl, brings.decoded⟩

/-- After a poll that returns a body is cached. -/
theorem cached_of_ok {system : System} {round : Round}
    (returned : (system.round foreign path round).1 = .ok ()) :
    ∃ body, (system.round foreign path round).2.memory.cache.body = some body := by
  obtain ⟨result, memory, dir, turn, polled⟩ := round_polled foreign path system round
  rw [turn] at returned ⊢
  change result = .ok () at returned
  rw [record_cache]
  cases polled with
  | rejected => cases returned
  | unchanged fetched => exact (unchanged_of_fetch fetched).2
  | same => exact ⟨_, rfl⟩
  | unsaved => exact absurd returned (Outcome.context_error_ne_ok _ _ _)
  | saved => exact ⟨_, rfl⟩

/-- **A run without the harm keeps the invariant.** -/
theorem consistent_of_run {pid : ℕ} {faults : Faults} {dir : StateDir} {system : System}
    (run : Run foreign path (fun system round => ¬Harms foreign path system round)
      (boot foreign path pid faults dir) system) : Consistent foreign path system := by
  induction run with
  | start => exact consistent_boot pid faults dir
  | round round _ harmless ih => exact consistent_round ih harmless

/-! ## What the harm does -/

/-- The poll that does the harm leaves the cache as it was, and another body in the
state file. -/
theorem content_of_harms {system : System} {round : Round}
    (harms : Harms foreign path system round) :
    (system.round foreign path round).2.memory.cache = system.memory.cache ∧
      ∃ name body, path.fileName = some name ∧ system.memory.cache.body ≠ some body ∧
        (system.round foreign path round).2.dir.content name = some body := by
  obtain ⟨-, ⟨download, clients, brings, unhindered⟩, fails⟩ := harms
  obtain ⟨result, memory, dir, turn, polled⟩ := round_polled foreign path system round
  rw [turn]
  change (memory.record _ _).cache = _ ∧ ∃ name body, _ ∧ _ ∧ dir.content name = some body
  rw [record_cache]
  rcases polled.of_brings brings with ⟨stop, -, cache, persisted⟩ | ⟨-, -, -, persisted⟩
  · cases persisted with
    | early _ hindered => exact absurd unhindered hindered
    | late _ isFile cell =>
        exact ⟨cache, _, _, isFile, brings.new, content_of_put (.inr cell)⟩
  · cases persisted with
    | done _ _ _ opened synced =>
        rcases fails with fault | fault
        · exact absurd opened fault
        · exact absurd synced fault

variable (foreign path) in
/-- With a cached body it returns and changes neither the cache nor the file. -/
theorem round_unchanged {system : System} {body : Bytes}
    (cached : system.memory.cache.body = some body) :
    (system.round foreign path unchangedRound).1 = .ok () ∧
      (system.round foreign path unchangedRound).2.memory.cache = system.memory.cache ∧
      (system.round foreign path unchangedRound).2.dir = system.dir := by
  have fetched : fetch foreign system.memory.cache unchangedRound.answer = .ok none := by
    rw [unchangedRound, fetch, Macdack.download, if_pos rfl, cached]
    rfl
  have turn : system.round foreign path unchangedRound =
      (.ok (), ⟨system.memory.record 0 (.ok ()), system.dir⟩) := by
    rw [System.round, syncRound, Program.run_bind, poll_of_unchanged path _ fetched]
    rfl
  rw [turn]
  exact ⟨rfl, record_cache _ _ _, rfl⟩

/-- **After the harm an unchanged answer ends in disagreement.** -/
theorem disagrees_of_harms {system : System} {round : Round}
    (harms : Harms foreign path system round) :
    ((system.round foreign path round).2.round foreign path unchangedRound).1 = .ok () ∧
      ¬Agrees foreign path
        ((system.round foreign path round).2.round foreign path unchangedRound).2 := by
  obtain ⟨cache, name, body, isFile, other, content⟩ := content_of_harms harms
  obtain ⟨held, cached⟩ := harms.cached
  rw [← cache] at cached other
  obtain ⟨returned, sameCache, sameDir⟩ := round_unchanged foreign path cached
  refine ⟨returned, ?_⟩
  rintro ⟨otherName, otherBody, _, found, otherCached, otherContent, -⟩
  obtain rfl : name = otherName := Option.some.inj (isFile.symm.trans found)
  rw [sameDir, content] at otherContent
  rw [sameCache, ← otherContent] at otherCached
  exact other otherCached

end Agreement

/-- **Agreement of memory and disk, exactly.** In a run from any state file in which
no poll replaces the state file and fails afterwards while a body is cached, every
poll that returns ends in agreement. A poll that does this is followed by
disagreement as soon as the source answers that it has not changed. -/
theorem agreement_of_run (foreign : Foreign) (path : PathBuf) (pid : ℕ) (faults : Faults)
    (dir : StateDir) (system : System)
    (run : Run foreign path (fun system round => ¬Harms foreign path system round)
      (boot foreign path pid faults dir) system) (round : Round) :
    (¬Harms foreign path system round →
      (system.round foreign path round).1 = .ok () →
        Agrees foreign path (system.round foreign path round).2) ∧
    (Harms foreign path system round →
      ((system.round foreign path round).2.round foreign path unchangedRound).1 = .ok () ∧
        ¬Agrees foreign path
          ((system.round foreign path round).2.round foreign path unchangedRound).2) := by
  constructor
  · intro harmless returned
    obtain ⟨body, cached⟩ := cached_of_ok returned
    exact agrees_of_consistent (consistent_round (consistent_of_run run) harmless) cached
  · exact disagrees_of_harms

/-! ## The harm in a run -/

/-- The third poll returns, with another body in the state file than in the cache. -/
theorem agreement_fails : ¬∀ (foreign : Foreign) (path : PathBuf) (pid : ℕ) (faults : Faults)
    (dir : StateDir) (system : System),
    Run foreign path (fun _ _ => True) (boot foreign path pid faults dir) system →
      ∀ round, (system.round foreign path round).1 = .ok () →
        Agrees foreign path (system.round foreign path round).2 := by
  intro agrees
  have run : Run plainForeign shippedPath (fun _ _ => True) emptySystem unsyncedSystem :=
    .round unsyncedRound (.round (tableRound Clients.shipped) .start trivial) trivial
  have third : (unsyncedSystem.round plainForeign shippedPath unchangedRound).1 = .ok () ∧
      (unsyncedSystem.round plainForeign shippedPath unchangedRound).2.memory.cache.body =
        some (Text.asBytes Clients.shipped) ∧
      (unsyncedSystem.round plainForeign shippedPath unchangedRound).2.dir.content "clients.csv" =
        some (Text.asBytes movedTable) := by
    decide +kernel
  obtain ⟨returned, cached, content⟩ := third
  obtain ⟨name, body, _, isFile, otherCached, otherContent, -⟩ :=
    agrees plainForeign shippedPath 1 (fun _ => none) emptyDir unsyncedSystem run unchangedRound
      returned
  obtain rfl : "clients.csv" = name := Option.some.inj isFile
  rw [content, Option.some.injEq] at otherContent
  rw [cached, Option.some.injEq, ← otherContent] at otherCached
  exact absurd otherCached (by decide +kernel)

/-- The first poll of an empty directory ends in agreement. -/
theorem agreement_of_run_first : (emptySystem.round plainForeign shippedPath
      (tableRound Clients.shipped)).1 = .ok () ∧ Agrees plainForeign shippedPath syncedSystem := by
  have returned : (emptySystem.round plainForeign shippedPath
      (tableRound Clients.shipped)).1 = .ok () := by
    decide +kernel
  refine ⟨returned, ?_⟩
  refine (agreement_of_run plainForeign shippedPath 1 (fun _ => none) emptyDir emptySystem .start
    (tableRound Clients.shipped)).1 ?_ returned
  rintro ⟨-, -, fault | fault⟩
  · exact fault rfl
  · exact fault rfl

end Macdack
