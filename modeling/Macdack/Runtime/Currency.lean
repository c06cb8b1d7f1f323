import Macdack.Runtime.Failures

/-!
# The served table is current

The source may change its body between polls, and it sends validators or none with
each. It never issues one set of validators for two bodies, and it answers that
nothing has changed only when its body is the one it issued with the validators of
the request (`Honest`). Then after every poll that returns, the active table is
that of the source's body at this poll (`current_of_ok`). The invariant is that the
cached validators were issued for the cached body, and that its table is active.
-/

set_option autoImplicit false

namespace Macdack

open Calls

/-- Validators, by their two headers. -/
abbrev Validators := Option Bytes × Option Bytes

/-- At least one validator is there. -/
def Validators.nonempty (validators : Validators) : Prop :=
  validators.1.isSome = true ∨ validators.2.isSome = true

/-- The answers that a source with the body `current` can give to a request of the
cache, when `issues` are the validators it sends with its bodies. A complete body
is the current one; it can also arrive broken, or not at all. -/
inductive Honest (issues : Validators → Bytes → Prop) (cache : RemoteCache) (current : Bytes) :
    Answer → Prop where
  | failed (chain : List String) : Honest issues cache current (.failed chain)
  | broken {response : Response} : response.failure ≠ none → response.status ≠ 304 →
      Honest issues cache current (.received response)
  | other {response : Response} : response.status ≠ 200 → response.status ≠ 304 →
      Honest issues cache current (.received response)
  | complete {response : Response} : response.status = 200 →
      response.chunks.flatten = current → issues (response.etag, response.modified) current →
        Honest issues cache current (.received response)
  | unchanged {response : Response} : response.status = 304 →
      Validators.nonempty cache.validators → issues cache.validators current →
        Honest issues cache current (.received response)

/-- One set of validators is issued for one body. -/
def Distinct (issues : Validators → Bytes → Prop) : Prop :=
  ∀ validators first second, Validators.nonempty validators → issues validators first →
    issues validators second → first = second

/-- A body is served: its table is active. -/
structure Serves (foreign : Foreign) (memory : Memory) (body : Bytes) : Prop where
  short : body.length ≤ maxCsvBytes
  table : ∃ clients, memory.shared.snapshot = some clients ∧ decode foreign body = .ok clients

/-- The invariant: the cached body was issued with the cached validators, and it is
served. -/
def Tracks (foreign : Foreign) (issues : Validators → Bytes → Prop) (memory : Memory) : Prop :=
  ∀ body, memory.cache.body = some body →
    issues memory.cache.validators body ∧ Serves foreign memory body

section Currency

variable {foreign : Foreign} {path : PathBuf} {issues : Validators → Bytes → Prop}

/-- A download from an honest source is its current body, with validators issued
for it. -/
theorem issues_of_download {cache : RemoteCache} {current : Bytes} {answer : Answer}
    (honest : Honest issues cache current answer) {download : Download}
    (fetched : fetch foreign cache answer = .ok (some download)) :
    download.body = current ∧ issues download.cache.validators current ∧
      download.body.length ≤ maxCsvBytes := by
  obtain ⟨response, rfl, complete⟩ := from_of_fetch fetched
  cases honest with
  | broken failed => exact absurd complete.complete failed
  | other wrong => exact absurd complete.status wrong
  | complete _ whole issued =>
      rw [← complete.etag, ← complete.modified] at issued
      exact ⟨complete.body.trans whole, issued, complete.short⟩
  | unchanged status => exact absurd (complete.status.symm.trans status) (by decide)

/-- An honest answer that nothing has changed means that the cached body is
current. -/
theorem current_of_unchanged (distinct : Distinct issues) {memory : Memory}
    (tracks : Tracks foreign issues memory) {current : Bytes} {answer : Answer}
    (honest : Honest issues memory.cache current answer)
    (fetched : fetch foreign memory.cache answer = .ok none) :
    memory.cache.body = some current := by
  obtain ⟨⟨response, rfl, status⟩, body, cached⟩ := unchanged_of_fetch fetched
  cases honest with
  | broken _ changed => exact absurd status changed
  | other _ changed => exact absurd status changed
  | complete isOk => exact absurd (isOk.symm.trans status) (by decide)
  | unchanged _ sent issued =>
      rw [cached, distinct _ _ _ sent (tracks body cached).1 issued]

variable (path) in
/-- **One turn keeps the invariant**, and when it returns the current body is
cached. -/
theorem tracks_round (distinct : Distinct issues) {system : System}
    (tracks : Tracks foreign issues system.memory) {round : Round} {current : Bytes}
    (honest : Honest issues system.memory.cache current round.answer) :
    Tracks foreign issues (system.round foreign path round).2.memory ∧
      ((system.round foreign path round).1 = .ok () →
        (system.round foreign path round).2.memory.cache.body = some current) := by
  obtain ⟨result, memory, dir, turn, polled⟩ := round_polled foreign path system round
  rw [turn]
  suffices kept : Tracks foreign issues memory ∧
      (result = .ok () → memory.cache.body = some current) by
    refine ⟨?_, by rw [record_cache]; exact kept.2⟩
    intro body cached
    rw [record_cache] at cached ⊢
    obtain ⟨issued, short, table⟩ := kept.1 body cached
    exact ⟨issued, short, by rwa [record_snapshot]⟩
  cases polled with
  | rejected => exact ⟨tracks, nofun⟩
  | unchanged fetched =>
      exact ⟨tracks, fun _ => current_of_unchanged distinct tracks honest fetched⟩
  | same fetched held =>
      -- The new validators were issued for the cached body as well.
      obtain ⟨isCurrent, issued, short⟩ := issues_of_download honest fetched
      refine ⟨?_, fun _ => congrArg some isCurrent⟩
      rintro _ ⟨rfl⟩
      exact ⟨isCurrent ▸ issued, short, (tracks _ held).2.table⟩
  | unsaved =>
      constructor
      · intro body cached
        obtain ⟨issued, short, table⟩ := tracks body cached
        exact ⟨issued, short, table⟩
      · exact fun returned => absurd returned (Outcome.context_error_ne_ok _ _ _)
  | saved sequence brings =>
      obtain ⟨isCurrent, issued, short⟩ := issues_of_download honest brings.fetched
      refine ⟨?_, fun _ => congrArg some isCurrent⟩
      rintro _ ⟨rfl⟩
      exact ⟨isCurrent ▸ issued, short, _, rfl, brings.decoded⟩

/-- When a poll returns with a body that was not cached, its answer brought this
body. -/
theorem brings_of_new (distinct : Distinct issues) {system : System}
    (tracks : Tracks foreign issues system.memory) {round : Round} {current : Bytes}
    (honest : Honest issues system.memory.cache current round.answer)
    (new : system.memory.cache.body ≠ some current)
    (returned : (system.round foreign path round).1 = .ok ()) :
    ∃ download clients, Brings foreign system.memory round.answer download clients ∧
      download.body = current := by
  obtain ⟨result, memory, dir, turn, polled⟩ := round_polled foreign path system round
  rw [turn] at returned
  change result = .ok () at returned
  cases polled with
  | rejected => cases returned
  | unchanged fetched => exact absurd (current_of_unchanged distinct tracks honest fetched) new
  | same fetched held =>
      rw [(issues_of_download honest fetched).1] at held
      exact absurd held new
  | unsaved => exact absurd returned (Outcome.context_error_ne_ok _ _ _)
  | saved _ brings => exact ⟨_, _, brings, (issues_of_download honest brings.fetched).1⟩

/-- **A run with an honest source keeps the invariant.** -/
theorem tracks_of_run (distinct : Distinct issues) {pid : ℕ} {faults : Faults} {dir : StateDir}
    {system : System}
    (run : Run foreign path
      (fun system round => ∃ current, Honest issues system.memory.cache current round.answer)
      (boot foreign path pid faults dir) system) : Tracks foreign issues system.memory := by
  induction run with
  | start =>
      intro body cached
      rw [(boot_loads foreign path pid faults dir).2.1] at cached
      cases cached
  | round round _ honest ih =>
      obtain ⟨current, honest⟩ := honest
      exact (tracks_round path distinct ih honest).1

end Currency

/-- A new body that fails to persist makes the poll fail. -/
theorem persisted_of_ok {foreign : Foreign} {path : PathBuf} {system : System} {round : Round}
    {download : Download} {clients : Clients}
    (brings : Brings foreign system.memory round.answer download clients)
    (returned : (system.round foreign path round).1 = .ok ()) :
    ((persistBlocking foreign.ioText path download.body system.memory.pid
      system.memory.sequence).run (FileCall.device round.faults) system.dir).1.1 = .ok () := by
  rw [result_round] at returned
  cases persisted : ((persistBlocking foreign.ioText path download.body system.memory.pid
      system.memory.sequence).run (FileCall.device round.faults) system.dir).1.1 with
  | ok _ => rfl
  | error stop =>
      obtain ⟨other, failed⟩ := fails_of_pollFails foreign path round system.memory system.dir
        (.unsaved brings persisted)
      rw [returned] at failed
      cases failed

/-- **A poll that returns means that the served table is current.** For a source that
never issues one set of validators for two bodies and answers honestly, in every run
from any state file, failures of any kind included: when a poll returns, the source's
body is within the limit, the active table is its table, and if this body was not
cached before, persisting it has returned. So no poll returns while the body is
invalid, too large, or new and failing to persist. -/
theorem current_of_ok (foreign : Foreign) (path : PathBuf) (issues : Validators → Bytes → Prop)
    (distinct : Distinct issues) (pid : ℕ) (faults : Faults) (dir : StateDir) (system : System)
    (run : Run foreign path
      (fun system round => ∃ current, Honest issues system.memory.cache current round.answer)
      (boot foreign path pid faults dir) system)
    (round : Round) (current : Bytes)
    (honest : Honest issues system.memory.cache current round.answer)
    (returned : (system.round foreign path round).1 = .ok ()) :
    current.length ≤ maxCsvBytes ∧
      (∃ clients, decode foreign current = .ok clients ∧
        (system.round foreign path round).2.memory.shared.snapshot = some clients) ∧
      (system.memory.cache.body ≠ some current →
        ((persistBlocking foreign.ioText path current system.memory.pid
          system.memory.sequence).run (FileCall.device round.faults) system.dir).1.1 = .ok ()) := by
  have tracks := tracks_of_run distinct run
  obtain ⟨kept, cached⟩ := tracks_round path distinct tracks honest
  obtain ⟨-, short, clients, table, decoded⟩ := kept current (cached returned)
  refine ⟨short, ⟨clients, decoded, table⟩, fun new => ?_⟩
  obtain ⟨download, _, brings, rfl⟩ := brings_of_new distinct tracks honest new returned
  exact persisted_of_ok brings returned

/-- The shipped table with an entity tag. -/
def taggedRound : Round where
  answer := .received ⟨200, none, some [34, 97, 34], none, [Text.asBytes Clients.shipped], none⟩
  faults := fun _ => none
  activated := 0
  finished := 0

/-- The process after it was downloaded. -/
def taggedSystem : System := (emptySystem.round plainForeign shippedPath taggedRound).2

/-- A source that only ever sends this. -/
def taggedIssues (validators : Validators) (body : Bytes) : Prop :=
  validators = (some [34, 97, 34], none) ∧ body = Text.asBytes Clients.shipped

theorem distinct_taggedIssues : Distinct taggedIssues := by
  rintro validators first second - ⟨-, rfl⟩ ⟨-, rfl⟩
  rfl

/-- The shipped table with an entity tag, and then the answer that nothing has
changed. -/
theorem current_of_ok_unchanged : ∃ clients,
    decode plainForeign (Text.asBytes Clients.shipped) = .ok clients ∧
      (taggedSystem.round plainForeign shippedPath unchangedRound).2.memory.shared.snapshot =
        some clients := by
  obtain ⟨returned, sent⟩ :
      (taggedSystem.round plainForeign shippedPath unchangedRound).1 = .ok () ∧
        taggedSystem.memory.cache.validators = (some [34, 97, 34], none) := by
    decide +kernel
  have first : Honest taggedIssues emptySystem.memory.cache (Text.asBytes Clients.shipped)
      taggedRound.answer := .complete rfl List.flatten_singleton ⟨rfl, rfl⟩
  have second : Honest taggedIssues taggedSystem.memory.cache (Text.asBytes Clients.shipped)
      unchangedRound.answer := by
    refine .unchanged rfl ?_ ?_
    · rw [sent]
      exact .inl rfl
    · rw [sent]
      exact ⟨rfl, rfl⟩
  have run : Run plainForeign shippedPath
      (fun system round => ∃ current, Honest taggedIssues system.memory.cache current round.answer)
      emptySystem taggedSystem := .round taggedRound .start ⟨_, first⟩
  exact (current_of_ok plainForeign shippedPath taggedIssues distinct_taggedIssues 1
    (fun _ => none) emptyDir taggedSystem run unchangedRound (Text.asBytes Clients.shipped) second
    returned).2.1

end Macdack
