import Macdack.Clients
import Macdack.Runtime.Persist

/-!
# Synchronizing with the remote table

`startup` loads the saved table, `poll` asks the remote source once, and
`syncRound` is one turn of the loop of `run_sync`, with what it records of the
result. What comes from outside is an input of a round: the answer of the HTTP
client, the faults of the calls, and two readings of the clock. The texts of errors
of other crates and the reader of the CSV format are parameters (`Foreign`).

A panic ends the task and nothing is recorded. The construction of the HTTP client
before the loop is left out: when it fails there is no round.

`Meaning` is what an answer comes to for a process. `poll_holds` lists how a poll can
end (`Polled`), and every result about rounds is a case analysis of it.
-/

set_option autoImplicit false

namespace Macdack

open Calls

/-- The reader of CSV records, and the texts of errors of other crates. -/
structure Foreign where
  csv : CsvReader
  utf8Error : Bytes → String
  ioText : IoError → String
  statusError : ℕ → String
  statusName : ℕ → String

/-- `MAX_CSV_BYTES`. -/
def maxCsvBytes : ℕ := 16 * 1024 * 1024

/-! ## The state of the process -/

/-- Where the active snapshot comes from. -/
inductive Source where
  | state
  | remote
  deriving DecidableEq, Repr

structure SyncStatus where
  source : Option Source
  lastSuccess : Option ℕ
  dataSince : Option ℕ
  lastError : Option String

/-- The part of `Shared` that the synchronizer writes. -/
structure Shared where
  snapshot : Option Clients
  syncSuccess : ℕ
  syncErrors : ℕ
  stateReadErrors : ℕ
  stateWriteErrors : ℕ
  status : SyncStatus

structure RemoteCache where
  etag : Option Bytes
  modified : Option Bytes
  body : Option Bytes
  deriving DecidableEq

/-- The memory of a process: the shared state, the cache of the loop, and the
counter of temporary files. -/
structure Memory where
  shared : Shared
  cache : RemoteCache
  pid : ℕ
  sequence : ℕ

namespace Memory

/-- The memory of a process that has just started. -/
def initial (pid : ℕ) : Memory where
  shared := ⟨none, 0, 0, 0, 0, none, none, none, none⟩
  cache := ⟨none, none, none⟩
  pid := pid
  sequence := 0

/-- Activate a downloaded snapshot. -/
def activate (memory : Memory) (clients : Clients) (clock : ℕ) : Memory :=
  { memory with shared := { memory.shared with
      snapshot := some clients
      status := { memory.shared.status with source := some .remote, dataSince := some clock } } }

/-- Count an error of writing the state file. -/
def writeError (memory : Memory) : Memory :=
  { memory with shared := { memory.shared with
      stateWriteErrors := memory.shared.stateWriteErrors + 1 } }

/-- `state_read_error`. -/
def readError (memory : Memory) (text : String) : Memory :=
  { memory with shared := { memory.shared with
      stateReadErrors := memory.shared.stateReadErrors + 1
      status := { memory.shared.status with lastError := some text } } }

/-- Record the result of a poll. -/
def record (memory : Memory) (clock : ℕ) : Outcome Unit → Memory
  | .ok () => { memory with shared := { memory.shared with
      syncSuccess := memory.shared.syncSuccess + 1
      status := { memory.shared.status with lastSuccess := some clock, lastError := none } } }
  | .error (.error chain) => { memory with shared := { memory.shared with
      syncErrors := memory.shared.syncErrors + 1
      status := { memory.shared.status with lastError := some (": ".intercalate chain) } } }
  | .error .panic => memory

end Memory

/-! ## Loading and decoding -/

/-- `std::str::from_utf8`. -/
def fromUtf8 (foreign : Foreign) (bytes : Bytes) : Outcome String :=
  Outcome.required (foreign.utf8Error bytes) (Text.fromUtf8 bytes)

/-- The table of a downloaded body. -/
def decode (foreign : Foreign) (bytes : Bytes) : Outcome Clients := do
  let text ← Outcome.context "CSV is not UTF-8" (fromUtf8 foreign bytes)
  Clients.parse foreign.csv text

/-- The table of a saved file. -/
def loadSaved (foreign : Foreign) (bytes : Bytes) : Outcome Clients := do
  Outcome.ensure (decide (bytes.length ≤ maxCsvBytes)) "saved CSV exceeds size limit"
  let text ← fromUtf8 foreign bytes
  Clients.parse foreign.csv text

/-- Read the state file. A path without a file name is a directory. -/
def readState (path : PathBuf) : Syscalls (Except IoError Bytes) :=
  match path.fileName with
  | none => return .error .isADirectory
  | some name => Program.ask (FileCall.read name)

/-- What the process makes of the state file. A missing file is no error. -/
def load (foreign : Foreign) (memory : Memory) : Except IoError Bytes → Memory
  | .ok bytes =>
      match loadSaved foreign bytes with
      | .ok clients => { memory with shared := { memory.shared with
          snapshot := some clients
          status := { memory.shared.status with source := some .state } } }
      | .error (.error chain) => memory.readError (chain.headD "")
      | .error .panic => memory
  | .error .notFound => memory
  | .error error => memory.readError (foreign.ioText error)

/-- What `run_sync` does before the first poll. -/
def startup (foreign : Foreign) (path : PathBuf) (pid : ℕ) : Syscalls Memory := do
  let saved ← readState path
  return load foreign (Memory.initial pid) saved

/-! ## Fetching -/

/-- A response, with the chunks of its body up to the end or up to an error. -/
structure Response where
  status : ℕ
  contentLength : Option ℕ
  etag : Option Bytes
  modified : Option Bytes
  chunks : List Bytes
  failure : Option (List String)

/-- What the HTTP client gives for a request. -/
inductive Answer where
  | failed (chain : List String)
  | received (response : Response)

/-- A complete body with its validators. -/
structure Download where
  body : Bytes
  etag : Option Bytes
  modified : Option Bytes

/-- What the cache holds after the download. -/
def Download.cache (download : Download) : RemoteCache :=
  ⟨download.etag, download.modified, some download.body⟩

/-- The loop over the chunks. -/
def receive : Bytes → List Bytes → Option (List String) → Outcome Bytes
  | bytes, [], none => .ok bytes
  | _, [], some chain => .error (.error chain)
  | bytes, chunk :: rest, failure =>
      if maxCsvBytes < bytes.length + chunk.length then Outcome.fail "CSV exceeds size limit"
      else receive (bytes ++ chunk) rest failure

/-- The statuses that `error_for_status_ref` refuses. -/
def isErrorStatus (status : ℕ) : Bool := decide (400 ≤ status ∧ status < 600)

/-- The download of a response, none when the source has not changed. -/
def download (foreign : Foreign) (cache : RemoteCache) (response : Response) :
    Outcome (Option Download) :=
  if response.status = 304 then
    if cache.body.isNone then
      Outcome.fail "304 received without a previously downloaded snapshot"
    else .ok none
  else do
    Outcome.ensure (!isErrorStatus response.status) (foreign.statusError response.status)
    Outcome.ensure (decide (response.status = 200))
      ("expected HTTP 200 or cached 304, received " ++ foreign.statusName response.status)
    Outcome.ensure (!response.contentLength.any fun length => decide (maxCsvBytes < length))
      "CSV exceeds size limit"
    let bytes ← receive [] response.chunks response.failure
    return some ⟨bytes, response.etag, response.modified⟩

/-- The part of a poll up to the complete body. -/
def fetch (foreign : Foreign) (cache : RemoteCache) : Answer → Outcome (Option Download)
  | .failed chain => Outcome.context "fetch CSV" (.error (.error chain))
  | .received response => download foreign cache response

/-! ## Polling -/

/-- The validators of the request: its `If-None-Match` and `If-Modified-Since`
headers. -/
def RemoteCache.validators (cache : RemoteCache) : Option Bytes × Option Bytes :=
  (cache.etag, cache.modified)

/-- Save and activate a new table. -/
def update (foreign : Foreign) (path : PathBuf) (clock : ℕ) (memory : Memory)
    (download : Download) (clients : Clients) : Syscalls (Outcome Unit × Memory) := do
  let (saved, sequence) ←
    persistBlocking foreign.ioText path download.body memory.pid memory.sequence
  let memory := { memory with sequence := sequence }
  match saved with
  | .error stop =>
      -- The cache keeps the last table, also when the file was already replaced.
      return (Outcome.context "save client snapshot" (.error stop), memory.writeError)
  | .ok () => return (.ok (), { memory.activate clients clock with cache := download.cache })

/-- Ask the remote source once. -/
def poll (foreign : Foreign) (path : PathBuf) (clock : ℕ) (answer : Answer) (memory : Memory) :
    Syscalls (Outcome Unit × Memory) :=
  match fetch foreign memory.cache answer with
  | .error stop => return (.error stop, memory)
  | .ok none => return (.ok (), memory)
  | .ok (some download) =>
      if memory.cache.body = some download.body then
        -- The table is not written again, but the validators are the new ones.
        return (.ok (), { memory with cache := download.cache })
      else
        match decode foreign download.body with
        | .error stop => return (.error stop, memory)
        | .ok clients => update foreign path clock memory download clients

/-- The inputs of one turn of the loop. -/
structure Round where
  answer : Answer
  faults : Faults
  activated : ℕ
  finished : ℕ

/-- One turn of the loop. -/
def syncRound (foreign : Foreign) (path : PathBuf) (round : Round) (memory : Memory) :
    Syscalls (Outcome Unit × Memory) := do
  let (result, memory) ← poll foreign path round.activated round.answer memory
  return (result, memory.record round.finished result)

/-! ## What a complete body is -/

/-- **The loop over the chunks** returns all of them, when none is broken and they are
within the limit together. -/
theorem receive_eq_ok_iff {bytes body : Bytes} {chunks : List Bytes}
    {failure : Option (List String)} (small : bytes.length ≤ maxCsvBytes) :
    receive bytes chunks failure = .ok body ↔
      body = bytes ++ chunks.flatten ∧ failure = none ∧ body.length ≤ maxCsvBytes := by
  induction chunks generalizing bytes with
  | nil =>
      rw [List.flatten_nil, List.append_nil]
      cases failure with
      | none =>
          rw [receive, Except.ok.injEq]
          constructor
          · rintro rfl
            exact ⟨rfl, rfl, small⟩
          · rintro ⟨rfl, -, -⟩
            rfl
      | some chain => simp [receive]
  | cons chunk rest ih =>
      rw [receive, List.flatten_cons, ← List.append_assoc]
      by_cases above : maxCsvBytes < bytes.length + chunk.length
      · rw [if_pos above]
        constructor
        · nofun
        · rintro ⟨rfl, -, short⟩
          rw [List.length_append, List.length_append] at short
          omega
      · rw [if_neg above]
        exact ih (by rw [List.length_append]; exact Nat.not_lt.mp above)

/-- A download is the complete body of an answer with status 200. -/
structure Download.From (download : Download) (response : Response) : Prop where
  status : response.status = 200
  complete : response.failure = none
  body : download.body = response.chunks.flatten
  etag : download.etag = response.etag
  modified : download.modified = response.modified
  short : download.body.length ≤ maxCsvBytes

theorem from_of_fetch {foreign : Foreign} {cache : RemoteCache} {answer : Answer}
    {download : Download} (fetched : fetch foreign cache answer = .ok (some download)) :
    ∃ response, answer = .received response ∧ download.From response := by
  cases answer with
  | failed chain => cases fetched
  | received response =>
      rw [fetch, Macdack.download] at fetched
      split at fetched
      · split at fetched <;> cases fetched
      · simp only [Outcome.bind_eq_ok, Outcome.ensure_eq_ok, Outcome.pure_eq_ok, Except.ok.injEq,
          Option.some.injEq, decide_eq_true_eq] at fetched
        obtain ⟨_, -, _, status, _, -, bytes, received, rfl⟩ := fetched
        obtain ⟨whole, complete, short⟩ := (receive_eq_ok_iff (Nat.zero_le _)).mp received
        exact ⟨response, rfl, status, complete, whole, rfl, rfl, short⟩

/-- The source has not changed only in an answer with status 304, and only when a
body is cached. -/
theorem unchanged_of_fetch {foreign : Foreign} {cache : RemoteCache} {answer : Answer}
    (fetched : fetch foreign cache answer = .ok none) :
    (∃ response, answer = .received response ∧ response.status = 304) ∧
      ∃ body, cache.body = some body := by
  cases answer with
  | failed chain => cases fetched
  | received response =>
      rw [fetch, Macdack.download] at fetched
      split at fetched
      · rename_i status
        split at fetched
        · cases fetched
        · rename_i cached
          exact ⟨⟨response, rfl, status⟩, Option.ne_none_iff_exists'.mp (by simpa using cached)⟩
      · simp only [Outcome.bind_eq_ok, Outcome.pure_eq_ok, Except.ok.injEq, reduceCtorEq,
          and_false, exists_false] at fetched

/-- **Both checks of a body agree.** A body within the limit that decodes is loaded
from the state file with the same table. -/
theorem loadSaved_of_decode {foreign : Foreign} {body : Bytes} {clients : Clients}
    (short : body.length ≤ maxCsvBytes) (decoded : decode foreign body = .ok clients) :
    loadSaved foreign body = .ok clients := by
  rw [decode, Outcome.bind_eq_ok] at decoded
  obtain ⟨text, utf8, parsed⟩ := decoded
  rw [Outcome.context_eq_ok] at utf8
  rw [loadSaved, decide_eq_true short, Outcome.ensure_true, Outcome.bind_ok, utf8, Outcome.bind_ok,
    parsed]

/-- What is loaded from the state file decodes to the same table. -/
theorem decode_of_loadSaved {foreign : Foreign} {body : Bytes} {clients : Clients}
    (loaded : loadSaved foreign body = .ok clients) :
    body.length ≤ maxCsvBytes ∧ decode foreign body = .ok clients := by
  rw [loadSaved, Outcome.bind_eq_ok] at loaded
  obtain ⟨_, short, loaded⟩ := loaded
  rw [Outcome.ensure_eq_ok, decide_eq_true_eq] at short
  rw [Outcome.bind_eq_ok] at loaded
  obtain ⟨text, utf8, parsed⟩ := loaded
  rw [decode, utf8, Outcome.context_ok, Outcome.bind_ok, parsed]
  exact ⟨short, rfl⟩

/-! ## How a poll ends -/

/-- The answer brings a table that is not the cached one. -/
structure Brings (foreign : Foreign) (memory : Memory) (answer : Answer) (download : Download)
    (clients : Clients) : Prop where
  fetched : fetch foreign memory.cache answer = .ok (some download)
  new : memory.cache.body ≠ some download.body
  decoded : decode foreign download.body = .ok clients

/-- The answer brings no table, and the poll fails without a call. -/
inductive Rejects (foreign : Foreign) (memory : Memory) (answer : Answer) (stop : Stop) :
    Prop where
  | fetch : fetch foreign memory.cache answer = .error stop → Rejects foreign memory answer stop
  | decode {download : Download} : fetch foreign memory.cache answer = .ok (some download) →
      memory.cache.body ≠ some download.body → decode foreign download.body = .error stop →
        Rejects foreign memory answer stop

/-- What an answer comes to. -/
inductive Meaning (foreign : Foreign) (memory : Memory) (answer : Answer) : Prop where
  | rejected {stop : Stop} : Rejects foreign memory answer stop → Meaning foreign memory answer
  | unchanged : fetch foreign memory.cache answer = .ok none → Meaning foreign memory answer
  | same {download : Download} : fetch foreign memory.cache answer = .ok (some download) →
      memory.cache.body = some download.body → Meaning foreign memory answer
  | new {download : Download} {clients : Clients} :
      Brings foreign memory answer download clients → Meaning foreign memory answer

/-- **Every answer** is of one of these kinds. -/
theorem meaning (foreign : Foreign) (memory : Memory) (answer : Answer) :
    Meaning foreign memory answer := by
  cases fetched : fetch foreign memory.cache answer with
  | error stop => exact .rejected (.fetch fetched)
  | ok outcome =>
      cases outcome with
      | none => exact .unchanged fetched
      | some download =>
          by_cases cached : memory.cache.body = some download.body
          · exact .same fetched cached
          · cases decoded : decode foreign download.body with
            | error stop => exact .rejected (.decode fetched cached decoded)
            | ok clients => exact .new ⟨fetched, cached, decoded⟩

theorem Brings.download_eq {foreign : Foreign} {memory : Memory} {answer : Answer}
    {download other : Download} {clients : Clients}
    (brings : Brings foreign memory answer download clients)
    (fetched : fetch foreign memory.cache answer = .ok (some other)) : download = other :=
  Option.some.inj (Except.ok.inj (brings.fetched.symm.trans fetched))

section Meaning

variable {foreign : Foreign} {memory : Memory} {answer : Answer} (path : PathBuf) (clock : ℕ)

theorem poll_of_rejects {stop : Stop} (rejects : Rejects foreign memory answer stop) :
    poll foreign path clock answer memory = .ret (.error stop, memory) := by
  cases rejects with
  | fetch refused =>
      rw [poll, refused]
      rfl
  | decode fetched new refused =>
      rw [poll, fetched]
      simp only [if_neg new, refused]
      rfl

theorem poll_of_unchanged (fetched : fetch foreign memory.cache answer = .ok none) :
    poll foreign path clock answer memory = .ret (.ok (), memory) := by
  rw [poll, fetched]
  rfl

theorem poll_of_same {download : Download}
    (fetched : fetch foreign memory.cache answer = .ok (some download))
    (cached : memory.cache.body = some download.body) :
    poll foreign path clock answer memory =
      .ret (.ok (), { memory with cache := download.cache }) := by
  rw [poll, fetched]
  simp only [if_pos cached]
  rfl

theorem poll_of_brings {download : Download} {clients : Clients}
    (brings : Brings foreign memory answer download clients) :
    poll foreign path clock answer memory =
      update foreign path clock memory download clients := by
  rw [poll, brings.fetched]
  simp only [if_neg brings.new, brings.decoded]

end Meaning

/-- How a poll ends. -/
inductive Polled (foreign : Foreign) (path : PathBuf) (round : Round) (memory : Memory)
    (before : StateDir) : Outcome Unit → Memory → StateDir → Prop where
  | rejected {stop : Stop} : Rejects foreign memory round.answer stop →
      Polled foreign path round memory before (.error stop) memory before
  | unchanged : fetch foreign memory.cache round.answer = .ok none →
      Polled foreign path round memory before (.ok ()) memory before
  | same {download : Download} :
      fetch foreign memory.cache round.answer = .ok (some download) →
        memory.cache.body = some download.body →
          Polled foreign path round memory before (.ok ()) { memory with cache := download.cache }
            before
  | unsaved {download : Download} {clients : Clients} {stop : Stop} (sequence : ℕ)
      {after : StateDir} : Brings foreign memory round.answer download clients →
        Persisted round.faults path memory.pid memory.sequence download.body before (.error stop)
          after →
          Polled foreign path round memory before
            (Outcome.context "save client snapshot" (.error stop))
            { memory with sequence := sequence }.writeError after
  | saved {download : Download} {clients : Clients} (sequence : ℕ) {after : StateDir} :
      Brings foreign memory round.answer download clients →
        Persisted round.faults path memory.pid memory.sequence download.body before (.ok ())
          after →
          Polled foreign path round memory before (.ok ())
            { { memory with sequence := sequence }.activate clients round.activated with
              cache := download.cache } after

/-- What a point of a poll leaves of the state file. -/
def PollPasses (foreign : Foreign) (path : PathBuf) (round : Round) (memory : Memory)
    (before seen : StateDir) : Prop :=
  seen = before ∨ ∃ download clients, Brings foreign memory round.answer download clients ∧
    ∀ name, path.fileName = some name → Passes name download.body before seen

theorem Polled.passes {foreign : Foreign} {path : PathBuf} {round : Round} {memory polled : Memory}
    {before after : StateDir} {result : Outcome Unit}
    (ends : Polled foreign path round memory before result polled after) :
    PollPasses foreign path round memory before after := by
  cases ends with
  | rejected => exact .inl rfl
  | unchanged => exact .inl rfl
  | same => exact .inl rfl
  | unsaved _ brings persisted => exact .inr ⟨_, _, brings, fun _ isFile => persisted.passes isFile⟩
  | saved _ brings persisted => exact .inr ⟨_, _, brings, fun _ isFile => persisted.passes isFile⟩

/-- A poll whose answer brings a table ends as persisting it does. -/
theorem Polled.of_brings {foreign : Foreign} {path : PathBuf} {round : Round}
    {memory polled : Memory} {before after : StateDir} {result : Outcome Unit}
    {download : Download} {clients : Clients}
    (ends : Polled foreign path round memory before result polled after)
    (brings : Brings foreign memory round.answer download clients) :
    (∃ stop, result = Outcome.context "save client snapshot" (.error stop) ∧
      polled.cache = memory.cache ∧
      Persisted round.faults path memory.pid memory.sequence download.body before (.error stop)
        after) ∨
    (result = .ok () ∧ polled.cache = download.cache ∧ polled.shared.snapshot = some clients ∧
      Persisted round.faults path memory.pid memory.sequence download.body before (.ok ())
        after) := by
  cases ends with
  | rejected rejects =>
      cases rejects with
      | fetch refused =>
          rw [brings.fetched] at refused
          cases refused
      | decode fetched _ refused =>
          obtain rfl := brings.download_eq fetched
          rw [brings.decoded] at refused
          cases refused
  | unchanged fetched =>
      rw [brings.fetched] at fetched
      cases fetched
  | same fetched held =>
      obtain rfl := brings.download_eq fetched
      exact absurd held brings.new
  | unsaved sequence others persisted =>
      obtain rfl := brings.download_eq others.fetched
      exact .inl ⟨_, rfl, rfl, persisted⟩
  | saved sequence others persisted =>
      obtain rfl := brings.download_eq others.fetched
      obtain rfl := Except.ok.inj (brings.decoded.symm.trans others.decoded)
      exact .inr ⟨rfl, rfl, rfl, persisted⟩

section Poll

variable (foreign : Foreign) (path : PathBuf) (round : Round) (memory : Memory)
  (before : StateDir)

theorem update_holds {download : Download} {clients : Clients}
    (brings : Brings foreign memory round.answer download clients) :
    Holds (FileCall.device round.faults) (· = before)
      (update foreign path round.activated memory download clients)
      (fun result after => Polled foreign path round memory before result.1 result.2 after)
      (PollPasses foreign path round memory before) := by
  have persisted := persistBlocking_holds round.faults foreign.ioText path download.body memory.pid
    memory.sequence before
  refine Holds.bind _ (persisted.weaken (fun _ given => given) (fun _ _ given => given) ?_) ?_
  · exact fun seen passes => .inr ⟨download, clients, brings, passes⟩
  rintro ⟨saved, sequence⟩
  cases saved with
  | error stop =>
      refine Holds.ret fun dir persisted => ?_
      have ends := Polled.unsaved sequence brings persisted
      exact ⟨ends, ends.passes⟩
  | ok _ =>
      refine Holds.ret fun dir persisted => ?_
      have ends := Polled.saved sequence brings persisted
      exact ⟨ends, ends.passes⟩

/-- **How a poll ends**, and what every point of it leaves of the state file. -/
theorem poll_holds :
    Holds (FileCall.device round.faults) (· = before)
      (poll foreign path round.activated round.answer memory)
      (fun result after => Polled foreign path round memory before result.1 result.2 after)
      (PollPasses foreign path round memory before) := by
  cases meaning foreign memory round.answer with
  | rejected rejects =>
      rw [poll_of_rejects path round.activated rejects]
      refine Holds.ret ?_
      rintro dir rfl
      exact ⟨.rejected rejects, .inl rfl⟩
  | unchanged fetched =>
      rw [poll_of_unchanged path round.activated fetched]
      refine Holds.ret ?_
      rintro dir rfl
      exact ⟨.unchanged fetched, .inl rfl⟩
  | same fetched cached =>
      rw [poll_of_same path round.activated fetched cached]
      refine Holds.ret ?_
      rintro dir rfl
      exact ⟨.same fetched cached, .inl rfl⟩
  | new brings =>
      rw [poll_of_brings path round.activated brings]
      exact update_holds foreign path round memory before brings

/-- **A turn of the loop** is a poll, and its result recorded. -/
theorem syncRound_holds :
    Holds (FileCall.device round.faults) (· = before) (syncRound foreign path round memory)
      (fun result after => ∃ polled,
        Polled foreign path round memory before result.1 polled after ∧
          result.2 = polled.record round.finished result.1)
      (PollPasses foreign path round memory before) := by
  refine Holds.bind _ (poll_holds foreign path round memory before) ?_
  rintro ⟨result, polled⟩
  exact Holds.ret fun dir ends => ⟨⟨polled, ends, rfl⟩, ends.passes⟩

end Poll

/-! ## Runs of the loop -/

/-- A process with the directory of its state file. -/
structure System where
  memory : Memory
  dir : StateDir

/-- A process that has loaded the saved table. -/
def boot (foreign : Foreign) (path : PathBuf) (pid : ℕ) (faults : Faults) (dir : StateDir) :
    System :=
  let loaded := (startup foreign path pid).run (FileCall.device faults) dir
  ⟨loaded.1, loaded.2⟩

/-- The table that a state file gives. -/
def savedTable (foreign : Foreign) (saved : Option Bytes) : Option Clients :=
  saved.bind fun bytes => (loadSaved foreign bytes).toOption

theorem cache_load (foreign : Foreign) (pid : ℕ) (saved : Except IoError Bytes) :
    (load foreign (Memory.initial pid) saved).cache = ⟨none, none, none⟩ := by
  rw [load.eq_def]
  split
  · split <;> rfl
  · rfl
  · rfl

theorem snapshot_load (foreign : Foreign) (pid : ℕ) (bytes : Bytes) :
    (load foreign (Memory.initial pid) (.ok bytes)).shared.snapshot =
      (loadSaved foreign bytes).toOption := by
  rw [load]
  split
  · rename_i clients loaded
    rw [loaded]
    rfl
  · rename_i chain loaded
    rw [loaded]
    rfl
  · rename_i loaded
    rw [loaded]
    rfl

/-- **Loading** leaves the directory as it is and the cache empty, and activates the
table of the state file. -/
theorem boot_loads (foreign : Foreign) (path : PathBuf) (pid : ℕ) (faults : Faults)
    (dir : StateDir) :
    (boot foreign path pid faults dir).dir = dir ∧
      (boot foreign path pid faults dir).memory.cache = ⟨none, none, none⟩ ∧
      ∀ name, path.fileName = some name → faults (.read name) = none →
        (boot foreign path pid faults dir).memory.shared.snapshot =
          savedTable foreign (dir.content name) := by
  cases isFile : path.fileName with
  | none =>
      have loaded : boot foreign path pid faults dir =
          ⟨load foreign (Memory.initial pid) (.error .isADirectory), dir⟩ := by
        rw [boot, startup, readState, isFile]
        rfl
      rw [loaded]
      exact ⟨rfl, rfl, nofun⟩
  | some name =>
      obtain ⟨kept, given⟩ := FileCall.read_cases faults dir name
      have loaded : boot foreign path pid faults dir =
          ⟨load foreign (Memory.initial pid) (FileCall.device faults (.read name) dir).1, dir⟩ := by
        rw [boot, startup, readState, isFile, Program.run_bind, Program.run_ask, Program.run_pure,
          kept]
      rw [loaded]
      refine ⟨rfl, cache_load foreign pid _, ?_⟩
      rintro _ ⟨rfl⟩ free
      rw [given free]
      cases dir.content name with
      | none => rfl
      | some bytes => exact snapshot_load foreign pid bytes

namespace System

/-- The result of a turn of the loop, and the system after it. -/
def round (foreign : Foreign) (path : PathBuf) (system : System) (round : Round) :
    Outcome Unit × System :=
  let turn := (syncRound foreign path round system.memory).run
    (FileCall.device round.faults) system.dir
  (turn.1.1, ⟨turn.1.2, turn.2⟩)

end System

/-- The systems that rounds allowed by `allowed` reach from a start. -/
inductive Run (foreign : Foreign) (path : PathBuf) (allowed : System → Round → Prop)
    (start : System) : System → Prop where
  | start : Run foreign path allowed start start
  | round {system : System} (round : Round) : Run foreign path allowed start system →
      allowed system round → Run foreign path allowed start (system.round foreign path round).2

/-- The same for a system. -/
theorem round_polled (foreign : Foreign) (path : PathBuf) (system : System) (round : Round) :
    ∃ result memory dir, system.round foreign path round =
        (result, ⟨memory.record round.finished result, dir⟩) ∧
      Polled foreign path round system.memory system.dir result memory dir := by
  obtain ⟨memory, polled, recorded⟩ :=
    (syncRound_holds foreign path round system.memory system.dir).ends system.dir rfl
  exact ⟨_, memory, _, Prod.ext rfl (congrArg (System.mk · _) recorded), polled⟩

/-- The result of a turn is that of its poll. -/
theorem result_round (foreign : Foreign) (path : PathBuf) (system : System) (round : Round) :
    (system.round foreign path round).1 =
      ((poll foreign path round.activated round.answer system.memory).run
        (FileCall.device round.faults) system.dir).1.1 := by
  rw [System.round, syncRound, Program.run_bind]
  rfl

/-- Recording a result changes neither what is served nor the cache. -/
@[simp] theorem record_snapshot (memory : Memory) (clock : ℕ) (result : Outcome Unit) :
    (memory.record clock result).shared.snapshot = memory.shared.snapshot := by
  rcases result with (chain | _) | _ <;> rfl

@[simp] theorem record_cache (memory : Memory) (clock : ℕ) (result : Outcome Unit) :
    (memory.record clock result).cache = memory.cache := by
  rcases result with (chain | _) | _ <;> rfl

/-! ## A plain run -/

/-- Parameters for examples. -/
def plainForeign : Foreign where
  csv := Clients.plainReader
  utf8Error _ := "invalid utf-8"
  ioText _ := "Input/output error"
  statusError _ := "HTTP status error"
  statusName _ := "another status"

/-- A directory without the state file. -/
def emptyDir : StateDir where
  made := true
  files := []
  saved _ := none
  pending := []
  saved_lt := nofun
  pending_lt := nofun

/-- A complete answer with the given table, and no fault. -/
def tableRound (table : String) : Round where
  answer := .received ⟨200, none, none, none, [Text.asBytes table], none⟩
  faults := fun _ => none
  activated := 0
  finished := 0

/-- An answer that the source has not changed. -/
def unchangedRound : Round where
  answer := .received ⟨304, none, none, none, [], none⟩
  faults := fun _ => none
  activated := 0
  finished := 0

/-- The state file of the shipped configuration. -/
def shippedPath : PathBuf := Config.shipped.clientsSource.stateFile

/-- A process on an empty directory. -/
def emptySystem : System := boot plainForeign shippedPath 1 (fun _ => none) emptyDir

/-- The process after the shipped table was downloaded. -/
def syncedSystem : System :=
  (emptySystem.round plainForeign shippedPath (tableRound Clients.shipped)).2

/-- A table with another row for the first client. -/
def movedTable : String :=
  "dc1,host.name1,example.internal,uefi,1500,AA:BB:CC:DD:EE:FF,1.2.3.9,24,1.2.3.1\n"

/-- The download of the other table, whose directory sync fails. -/
def unsyncedRound : Round :=
  { tableRound movedTable with
    faults := fun call => match call with
      | .syncDir => some ⟨.os 5, 0⟩
      | _ => none }

/-- The process after the other table was downloaded and not synced. -/
def unsyncedSystem : System := (syncedSystem.round plainForeign shippedPath unsyncedRound).2

end Macdack
