import Macdack.Library.Machine
import Macdack.Dhcp.Traffic
import Macdack.Runtime.Recovery
import Macdack.Runtime.Status
import Macdack.Runtime.Steady

/-!
# The whole service

`main` starts three tasks in one process: `serve`, `run_sync` and the HTTP listener. They
share the snapshot and the metrics. `service` puts them together as a machine whose state
is the running process, the directory of its state file, and a log of the replies that were
handed to the socket. Processes end and others start on the directory that is left, with
any validated configuration.

Of what the synchronizer writes, `serve` reads the snapshot only, once for each datagram. So
for `serve` a turn is one event, which happens when the snapshot is written, and a datagram
that arrives during a turn comes before it or after it. The HTTP side reads the status as
well, which is written in other lock sections than the snapshot; the module on lock sections
takes a turn apart for it. A kill can come at any point inside a turn.

Every table that is served is that of the original state file or one that was downloaded,
and every reply is made from such a table (`sound_of_reachable`). Nothing that arrives ends
a process, or takes its table or its socket away (`no_input_ends_the_service`).
-/

set_option autoImplicit false

namespace Macdack

/-! ## Receiving -/

/-- The server address that the configuration gives: the identifier, or else the address
that the socket is bound to. -/
def explicitServer (config : Config) : Option Ipv4Addr :=
  config.dhcp.serverIdentifier.or
    (if config.dhcp.listenIp.isUnspecified then none else some config.dhcp.listenIp)

/-- A datagram as the socket gives it, with the local address that it arrived at. -/
structure Arrival where
  bytes : Bytes
  localIp : Ipv4Addr
  now : Instant
  sendable : Bool

/-- The local address counts only when the configuration gives none. -/
def Arrival.datagram (arrival : Arrival) (config : Config) : Datagram where
  bytes := arrival.bytes
  server := (explicitServer config).getD arrival.localIp
  now := arrival.now
  sendable := arrival.sendable

/-! ## Processes -/

/-- A running process. `memory` is what `run_sync` holds, none before it has read the state
file, and `listening` is `dhcp_ready`. -/
structure Process where
  config : Config
  pid : ℕ
  memory : Option Memory
  traffic : Traffic
  listening : Bool

namespace Process

/-- A process that has just started. -/
def initial (config : Config) (pid : ℕ) : Process := ⟨config, pid, none, .initial, false⟩

/-- The active snapshot. -/
def snapshot (process : Process) : Option Clients :=
  process.memory.bind fun memory => memory.shared.snapshot

end Process

/-- A reply that was handed to the socket, with what it was made from. -/
structure Sent where
  config : Config
  server : Ipv4Addr
  bytes : Bytes
  reply : Reply

/-- The running process, the state directory, the tables that were handed to persisting, and
the replies, the latest first. -/
structure Service where
  process : Option Process
  dir : StateDir
  attempts : List Attempt
  sent : List Sent

def Service.snapshot (service : Service) : Option Clients := service.process.bind Process.snapshot

/-! ## Steps -/

/-- What can happen. The environment chooses the inputs and what a kill or a loss of power
leaves of the directory. -/
inductive ServiceEvent where
  | started (config : Config) (pid : ℕ)
  | loaded (faults : Faults)
  | bound
  | polled (round : Round)
  | received (arrival : Arrival)
  | scraped (now : Instant)
  | killed
  | killedInside (round : Round) (left : StateDir)
  | lostPower (left : StateDir)

/-- A panic, which ends the process. -/
def panics {α : Type} : Outcome α → Bool
  | .error .panic => true
  | _ => false

/-- Loading what was read of the state file panics. -/
def loadPanics (foreign : Foreign) : Except IoError Bytes → Bool
  | .ok bytes => panics (loadSaved foreign bytes)
  | .error _ => false

namespace Service

variable (foreign : Foreign) (path : PathBuf)

/-- `run_sync` reads the state file. -/
def load (service : Service) (faults : Faults) : Service :=
  match service.process with
  | none => service
  | some process =>
      let booted := boot foreign path process.pid faults service.dir
      { service with
        process :=
          if loadPanics foreign (savedFile path faults service.dir) then none
          else some { process with memory := some booted.memory }
        dir := booted.dir }

/-- `run_sync` makes a turn of its loop. -/
def poll (service : Service) (round : Round) : Service :=
  match service.process with
  | none => service
  | some process =>
      match process.memory with
      | none => service
      | some memory =>
          let turn := System.round foreign path ⟨memory, service.dir⟩ round
          { service with
            process :=
              if panics turn.1 then none
              else some { process with memory := some turn.2.memory }
            dir := turn.2.dir
            attempts := service.attempts ++
              attempted foreign memory round.answer (decide (turn.1 = .ok ())) }

/-- `serve` handles a datagram. -/
def receive (service : Service) (arrival : Arrival) : Service :=
  match service.process with
  | none => service
  | some process =>
      let datagram := arrival.datagram process.config
      let served := serveDatagram process.config process.snapshot datagram process.traffic
      match served.1 with
      | .error _ => { service with process := none }
      | .ok answer =>
          { service with
            process := some { process with traffic := served.2 }
            sent := (answer.map (Sent.mk process.config datagram.server datagram.bytes)).toList ++
              service.sent }

/-- The process ends inside of a turn of the synchronizer. -/
def interrupt (service : Service) (round : Round) (left : StateDir) : Service :=
  match service.process.bind Process.memory with
  | none => service
  | some memory =>
      { service with
        process := none
        dir := left
        attempts := service.attempts ++ attempted foreign memory round.answer false }

def step (service : Service) : ServiceEvent → Service
  | .started config pid => { service with process := some (.initial config pid) }
  | .loaded faults => service.load foreign path faults
  | .bound => { service with
      process := service.process.map fun process => { process with listening := true } }
  | .polled round => service.poll foreign path round
  | .received arrival => service.receive arrival
  | .scraped now => { service with
      process := service.process.map fun process =>
        { process with traffic := (process.traffic.scrape now).2 } }
  | .killed => { service with process := none }
  | .killedInside round left => service.interrupt foreign round left
  | .lostPower left => { service with dir := left }

/-- When an event can happen. A process starts with a configuration that was loaded, which
names the state file; it polls after it has read this file, and receives when it listens. -/
def Allows (envFilter : String → Outcome PUnit) (service : Service) : ServiceEvent → Prop
  | .started config _ => service.process = none ∧ config.clientsSource.stateFile = path ∧
      config.validate envFilter = .ok ⟨⟩
  | .loaded _ => ∃ process, service.process = some process ∧ process.memory = none
  | .bound => ∃ process, service.process = some process
  | .polled _ => ∃ process memory, service.process = some process ∧ process.memory = some memory
  | .received _ => ∃ process, service.process = some process ∧ process.listening = true
  | .scraped _ => ∃ process, service.process = some process
  | .killed => ∃ process, service.process = some process
  | .killedInside round left => ∃ process memory, service.process = some process ∧
      process.memory = some memory ∧
        left ∈ (syncRound foreign path round memory).visited (FileCall.device round.faults)
          service.dir
  | .lostPower left => service.process = none ∧ service.dir.Crash left

/-- The machine on a directory where nothing has run. -/
def machine (envFilter : String → Outcome PUnit) (original : StateDir) :
    Machine Service ServiceEvent where
  initial := ⟨none, original, [], []⟩
  allows := Allows foreign path envFilter
  step := step foreign path

end Service

/-! ## The tables that can be served -/

/-- A table that can be served: that of the original state file, or a downloaded one. -/
inductive Known (foreign : Foreign) (path : PathBuf) (original : StateDir)
    (attempts : List Attempt) (clients : Clients) : Prop where
  | original {name : String} {bytes : Bytes} : path.fileName = some name →
      original.content name = some bytes → loadSaved foreign bytes = .ok clients →
        Known foreign path original attempts clients
  | downloaded {attempt : Attempt} : attempt ∈ attempts → attempt.clients = clients →
      Known foreign path original attempts clients

/-- The original state file is durable, and absent or loadable. -/
def Durable (foreign : Foreign) (path : PathBuf) (original : StateDir) : Prop :=
  ∀ name, path.fileName = some name → Original foreign name original

section Tables

variable {foreign : Foreign} {path : PathBuf} {original dir : StateDir}
  {attempts : List Attempt} {clients : Clients}

theorem Known.more (known : Known foreign path original attempts clients) (more : List Attempt) :
    Known foreign path original (attempts ++ more) clients := by
  cases known with
  | original isFile content loaded => exact .original isFile content loaded
  | downloaded member same => exact .downloaded (List.mem_append_left more member) same

/-- A table that a process loads was in the state file. -/
theorem content_of_boot {pid : ℕ} {faults : Faults}
    (active : (boot foreign path pid faults dir).memory.shared.snapshot = some clients) :
    ∃ name bytes, path.fileName = some name ∧ dir.content name = some bytes ∧
      loadSaved foreign bytes = .ok clients := by
  rw [memory_boot] at active
  cases isFile : path.fileName with
  | none =>
      rw [savedFile, readState, isFile] at active
      cases active
  | some name =>
      have read : savedFile path faults dir = (FileCall.device faults (.read name) dir).1 := by
        rw [savedFile, readState, isFile]
        rfl
      rw [read] at active
      cases met : faults (.read name) with
      | some fault =>
          rw [FileCall.device_of_fault met] at active
          obtain ⟨error, written⟩ := fault
          cases error <;> cases active
      | none =>
          rw [(FileCall.read_cases faults dir name).2 met] at active
          cases content : dir.content name with
          | none =>
              rw [content] at active
              cases active
          | some bytes =>
              rw [content, snapshot_load] at active
              refine ⟨name, bytes, rfl, content, ?_⟩
              cases loaded : loadSaved foreign bytes with
              | ok table =>
                  rw [loaded] at active
                  cases active
                  rfl
              | error stop =>
                  rw [loaded] at active
                  cases active

/-- What is found in the state file is a known table. -/
theorem known_of_content (durable : Durable foreign path original) {process : Option Memory}
    (life : Life foreign path original process dir attempts) {name : String} {bytes : Bytes}
    (isFile : path.fileName = some name) (content : dir.content name = some bytes)
    (loaded : loadSaved foreign bytes = .ok clients) :
    Known foreign path original attempts clients := by
  have found : Found (original.content name) attempts (dir.content name) :=
    (kept_of_life isFile (durable name isFile) life).found
  rcases found with ⟨isOriginal, -⟩ | ⟨earlier, attempt, later, rfl, isBody, -⟩
  · exact .original isFile (isOriginal.symm.trans content) loaded
  · have member : attempt ∈ earlier ++ attempt :: later := List.mem_append_right _ (.head _)
    obtain rfl : attempt.body = bytes := Option.some.inj (isBody.symm.trans content)
    have decoded := (attempt_of_life life attempt member).2
    exact .downloaded member
      (Except.ok.inj (decoded.symm.trans (decode_of_loadSaved loaded).2))

/-- A turn serves the table that was active, or one that it hands to persisting. -/
theorem snapshot_round {system : System} {round : Round}
    (active : (system.round foreign path round).2.memory.shared.snapshot = some clients)
    (done : Bool) : system.memory.shared.snapshot = some clients ∨
      ∃ attempt ∈ attempted foreign system.memory round.answer done,
        attempt.clients = clients := by
  obtain ⟨result, memory, dir, turn, ends⟩ := round_polled foreign path system round
  rw [turn, record_snapshot] at active
  cases ends with
  | rejected => exact .inl active
  | unchanged => exact .inl active
  | same => exact .inl active
  | unsaved => exact .inl active
  | @saved download table sequence after brings persisted =>
      obtain rfl : table = clients := Option.some.inj active
      refine .inr ⟨⟨download.body, table, done⟩, ?_, rfl⟩
      rw [attempted_of_brings brings]
      exact .head _

/-- A body that decodes holds a text that parses. -/
theorem parse_of_decode {bytes : Bytes} (decoded : decode foreign bytes = .ok clients) :
    ∃ text, Clients.parse foreign.csv text = .ok clients := by
  rw [decode, Outcome.bind_eq_ok] at decoded
  obtain ⟨text, -, parsed⟩ := decoded
  exact ⟨text, parsed⟩

/-- Known tables are parsed ones. -/
theorem parse_of_known {process : Option Memory}
    (life : Life foreign path original process dir attempts)
    (known : Known foreign path original attempts clients) :
    ∃ text, Clients.parse foreign.csv text = .ok clients := by
  cases known with
  | original _ _ loaded => exact parse_of_decode (decode_of_loadSaved loaded).2
  | downloaded member same =>
      subst same
      exact parse_of_decode (attempt_of_life life _ member).2

end Tables

/-! ## What holds in every state -/

/-- The reply is one that `serve` makes from a known table. -/
def Sent.FromTable (foreign : Foreign) (path : PathBuf) (original : StateDir)
    (attempts : List Attempt) (sent : Sent) : Prop :=
  ∃ clients, Known foreign path original attempts clients ∧
    serveReply (some clients) sent.config sent.server sent.bytes = .ok (some sent.reply)

/-- The directory and the attempts are those of a life of processes, every configuration was
validated, and what is served comes from known tables. -/
structure Service.Sound (foreign : Foreign) (path : PathBuf) (envFilter : String → Outcome PUnit)
    (original : StateDir) (service : Service) : Prop where
  life : Life foreign path original (service.process.bind Process.memory) service.dir
    service.attempts
  valid : ∀ process, service.process = some process →
    process.config.validate envFilter = .ok ⟨⟩
  active : ∀ clients, service.snapshot = some clients →
    Known foreign path original service.attempts clients
  sent : ∀ sent ∈ service.sent, sent.config.validate envFilter = .ok ⟨⟩ ∧
    sent.FromTable foreign path original service.attempts

section Sound

variable {foreign : Foreign} {path : PathBuf} {envFilter : String → Outcome PUnit}
  {original : StateDir} {service : Service}

/-- Without a process only the log matters. -/
theorem Service.Sound.stopped {dir : StateDir} {attempts : List Attempt} {log : List Sent}
    (life : Life foreign path original none dir attempts)
    (sent : ∀ sent ∈ log, sent.config.validate envFilter = .ok ⟨⟩ ∧
      sent.FromTable foreign path original attempts) :
    Service.Sound foreign path envFilter original ⟨none, dir, attempts, log⟩ where
  life := life
  valid := fun _ running => absurd running.symm (Option.some_ne_none _)
  active := fun _ active => absurd active.symm (Option.some_ne_none _)
  sent := sent

/-- A process that ends leaves what it did. -/
theorem Service.Sound.ended (sound : service.Sound foreign path envFilter original)
    {dir : StateDir} {attempts : List Attempt}
    (life : Life foreign path original none dir (service.attempts ++ attempts)) :
    Service.Sound foreign path envFilter original
      ⟨none, dir, service.attempts ++ attempts, service.sent⟩ := by
  refine .stopped life fun sent member => ?_
  obtain ⟨valid, clients, known, replied⟩ := sound.sent sent member
  exact ⟨valid, clients, known.more attempts, replied⟩

/-- What a process that runs on serves is known. -/
theorem Service.Sound.ran (sound : service.Sound foreign path envFilter original)
    (process : Process) (valid : process.config.validate envFilter = .ok ⟨⟩)
    {dir : StateDir} {attempts : List Attempt}
    (life : Life foreign path original process.memory dir (service.attempts ++ attempts))
    (active : ∀ clients, process.snapshot = some clients →
      Known foreign path original (service.attempts ++ attempts) clients) :
    Service.Sound foreign path envFilter original
      ⟨some process, dir, service.attempts ++ attempts, service.sent⟩ where
  life := life
  valid := by
    rintro _ ⟨rfl⟩
    exact valid
  active := active
  sent := by
    intro sent member
    obtain ⟨valid, clients, known, replied⟩ := sound.sent sent member
    exact ⟨valid, clients, known.more attempts, replied⟩

/-- Loading ends the process, or gives it its memory. -/
theorem Service.load_cases (faults : Faults) {process : Process}
    (running : service.process = some process) {booted : System}
    (isBooted : boot foreign path process.pid faults service.dir = booted) :
    (loadPanics foreign (savedFile path faults service.dir) = true ∧
      service.load foreign path faults = ⟨none, booted.dir, service.attempts, service.sent⟩) ∨
    (loadPanics foreign (savedFile path faults service.dir) = false ∧
      service.load foreign path faults =
        ⟨some { process with memory := some booted.memory }, booted.dir, service.attempts,
          service.sent⟩) := by
  rw [Service.load, running]
  simp only [isBooted]
  cases loadPanics foreign (savedFile path faults service.dir) with
  | true => exact .inl ⟨rfl, rfl⟩
  | false => exact .inr ⟨rfl, rfl⟩

/-- A turn ends the process, or gives it its next memory. -/
theorem Service.poll_cases (round : Round) {process : Process} {memory : Memory}
    (running : service.process = some process) (loaded : process.memory = some memory)
    {turn : Outcome Unit × System}
    (isTurn : System.round foreign path ⟨memory, service.dir⟩ round = turn) :
    (panics turn.1 = true ∧ service.poll foreign path round = ⟨none, turn.2.dir,
      service.attempts ++ attempted foreign memory round.answer (decide (turn.1 = .ok ())),
      service.sent⟩) ∨
    (panics turn.1 = false ∧ service.poll foreign path round =
      ⟨some { process with memory := some turn.2.memory }, turn.2.dir,
        service.attempts ++ attempted foreign memory round.answer (decide (turn.1 = .ok ())),
        service.sent⟩) := by
  rw [Service.poll, running]
  simp only [loaded, isTurn]
  cases panics turn.1 with
  | true => exact .inl ⟨rfl, rfl⟩
  | false => exact .inr ⟨rfl, rfl⟩

theorem Service.Sound.load (durable : Durable foreign path original)
    (sound : service.Sound foreign path envFilter original) (faults : Faults) {process : Process}
    (running : service.process = some process) (unloaded : process.memory = none) :
    (service.load foreign path faults).Sound foreign path envFilter original := by
  have life := sound.life
  rw [running, Option.bind_some, unloaded] at life
  have booted := Life.boot process.pid faults life
  rw [← List.append_nil service.attempts] at booted
  rcases Service.load_cases faults running rfl with ⟨-, ended⟩ | ⟨-, goes⟩
  · rw [ended, ← List.append_nil service.attempts]
    exact sound.ended booted.kill
  · rw [goes, ← List.append_nil service.attempts]
    refine sound.ran { process with
      memory := some (boot foreign path process.pid faults service.dir).memory }
      (sound.valid process running) booted fun clients active => ?_
    obtain ⟨name, bytes, isFile, content, loaded⟩ := content_of_boot active
    rw [List.append_nil]
    exact known_of_content durable life isFile content loaded

theorem Service.Sound.poll (sound : service.Sound foreign path envFilter original) (round : Round)
    {process : Process} {memory : Memory} (running : service.process = some process)
    (loaded : process.memory = some memory) :
    (service.poll foreign path round).Sound foreign path envFilter original := by
  have life := sound.life
  rw [running, Option.bind_some, loaded] at life
  have polled := life.poll round
  rcases Service.poll_cases round running loaded rfl with ⟨-, ended⟩ | ⟨-, goes⟩
  · rw [ended]
    exact sound.ended polled.kill
  · rw [goes]
    refine sound.ran { process with
      memory := some (System.round foreign path ⟨memory, service.dir⟩ round).2.memory }
      (sound.valid process running) polled fun clients active => ?_
    rcases snapshot_round active (decide
      ((System.round foreign path ⟨memory, service.dir⟩ round).1 = .ok ())) with
      before | ⟨attempt, member, same⟩
    · refine (sound.active clients ?_).more _
      rw [Service.snapshot, running, Option.bind_some, Process.snapshot, loaded]
      exact before
    · exact .downloaded (List.mem_append_right _ member) same

/-- A reply needs an active snapshot. -/
theorem exists_snapshot_of_serveReply {snapshot : Option Clients} {config : Config}
    {server : Ipv4Addr} {bytes : Bytes} {reply : Reply}
    (served : serveReply snapshot config server bytes = .ok (some reply)) :
    ∃ clients, snapshot = some clients := by
  cases snapshot with
  | some clients => exact ⟨clients, rfl⟩
  | none =>
      rw [serveReply, Outcome.bind_eq_ok] at served
      obtain ⟨packet, -, served⟩ := served
      cases served

/-- The answer of a round of `serve` is the one of `serveReply`. -/
theorem serveReply_of_serveDatagram {config : Config} {snapshot : Option Clients}
    {datagram : Datagram} {traffic : Traffic} {reply : Reply}
    (served : (serveDatagram config snapshot datagram traffic).1 = .ok (some reply)) :
    serveReply snapshot config datagram.server datagram.bytes = .ok (some reply) := by
  rw [serveDatagram_reply] at served
  match replied : serveReply snapshot config datagram.server datagram.bytes with
  | .ok answer =>
      rw [replied] at served
      exact served
  | .error (.error chain) =>
      rw [replied] at served
      cases served
  | .error .panic =>
      rw [replied] at served
      cases served

/-- How a round of `serve` goes on: the process ends by a panic, or the answer is logged. -/
theorem Service.receive_cases (arrival : Arrival) {process : Process}
    (running : service.process = some process) {served : Outcome (Option Reply) × Traffic}
    (isServed : serveDatagram process.config process.snapshot
      (arrival.datagram process.config) process.traffic = served) :
    (∃ stop, served.1 = .error stop ∧
      service.receive arrival = ⟨none, service.dir, service.attempts, service.sent⟩) ∨
    ∃ answer, served.1 = .ok answer ∧ service.receive arrival =
      ⟨some { process with traffic := served.2 }, service.dir, service.attempts,
        (answer.map (Sent.mk process.config (arrival.datagram process.config).server
          arrival.bytes)).toList ++ service.sent⟩ := by
  obtain ⟨result, traffic⟩ := served
  rw [Service.receive, running]
  simp only [isServed]
  cases result with
  | error stop => exact .inl ⟨stop, rfl, rfl⟩
  | ok answer => exact .inr ⟨answer, rfl, rfl⟩

theorem Service.Sound.receive (sound : service.Sound foreign path envFilter original)
    (arrival : Arrival) {process : Process} (running : service.process = some process) :
    (service.receive arrival).Sound foreign path envFilter original := by
  have life := sound.life
  have active := sound.active
  have valid := sound.valid process running
  rw [running, Option.bind_some] at life
  rw [Service.snapshot, running, Option.bind_some] at active
  rcases Service.receive_cases arrival running rfl with ⟨stop, -, ended⟩ | ⟨answer, served, goes⟩
  · rw [ended]
    refine .stopped ?_ sound.sent
    cases memory : process.memory with
    | none => rwa [memory] at life
    | some held =>
        rw [memory] at life
        exact life.kill
  · rw [goes]
    refine ⟨life, ?_, active, ?_⟩
    · intro other isOther
      rw [← Option.some.inj isOther]
      exact valid
    · intro sent member
      rcases List.mem_append.mp member with new | old
      · rw [Option.mem_toList, Option.map_eq_some_iff] at new
        obtain ⟨reply, rfl, rfl⟩ := new
        have replied := serveReply_of_serveDatagram served
        obtain ⟨clients, isActive⟩ := exists_snapshot_of_serveReply replied
        rw [isActive] at replied
        exact ⟨valid, clients, active clients isActive, replied⟩
      · exact sound.sent sent old

theorem Service.Sound.interrupt (sound : service.Sound foreign path envFilter original)
    {round : Round} {left : StateDir} {process : Process} {memory : Memory}
    (running : service.process = some process) (loaded : process.memory = some memory)
    (passed : left ∈ (syncRound foreign path round memory).visited
      (FileCall.device round.faults) service.dir) :
    (service.interrupt foreign round left).Sound foreign path envFilter original := by
  have life := sound.life
  rw [running, Option.bind_some, loaded] at life
  rw [Service.interrupt, running, Option.bind_some, loaded]
  exact sound.ended (life.killInside round passed)

/-- **Every event** keeps the service sound. -/
theorem Service.Sound.step (durable : Durable foreign path original)
    (sound : service.Sound foreign path envFilter original) {event : ServiceEvent}
    (allowed : service.Allows foreign path envFilter event) :
    (service.step foreign path event).Sound foreign path envFilter original := by
  cases event with
  | started config pid =>
      obtain ⟨stopped, -, valid⟩ := allowed
      have life := sound.life
      rw [stopped] at life
      refine ⟨life, fun other isOther => ?_,
        fun _ active => absurd active.symm (Option.some_ne_none _), sound.sent⟩
      rw [← Option.some.inj isOther]
      exact valid
  | loaded faults =>
      obtain ⟨process, running, unloaded⟩ := allowed
      exact sound.load durable faults running unloaded
  | bound =>
      obtain ⟨process, running⟩ := allowed
      have life := sound.life
      have active := sound.active
      rw [Service.snapshot, running] at active
      rw [running] at life
      rw [Service.step, running]
      refine ⟨life, fun other isOther => ?_, active, sound.sent⟩
      rw [← Option.some.inj isOther]
      exact sound.valid process running
  | polled round =>
      obtain ⟨process, memory, running, loaded⟩ := allowed
      exact sound.poll round running loaded
  | received arrival =>
      obtain ⟨process, running, -⟩ := allowed
      exact sound.receive arrival running
  | scraped now =>
      obtain ⟨process, running⟩ := allowed
      have life := sound.life
      have active := sound.active
      rw [Service.snapshot, running] at active
      rw [running] at life
      rw [Service.step, running]
      refine ⟨life, fun other isOther => ?_, active, sound.sent⟩
      rw [← Option.some.inj isOther]
      exact sound.valid process running
  | killed =>
      have ended : Life foreign path original none service.dir service.attempts := by
        have life := sound.life
        cases memory : service.process.bind Process.memory with
        | none => rwa [memory] at life
        | some held =>
            rw [memory] at life
            exact life.kill
      exact .stopped ended sound.sent
  | killedInside round left =>
      obtain ⟨process, memory, running, loaded, passed⟩ := allowed
      exact sound.interrupt running loaded passed
  | lostPower left =>
      obtain ⟨stopped, crash⟩ := allowed
      have life := sound.life
      rw [stopped] at life
      refine ⟨?_, sound.valid, sound.active, sound.sent⟩
      rw [Service.step, stopped]
      exact life.powerLoss crash

/-- **Every state is sound**, whatever happens to processes, datagrams, downloads, calls and
the power. -/
theorem sound_of_reachable (durable : Durable foreign path original)
    (reachable : (Service.machine foreign path envFilter original).Reachable service) :
    service.Sound foreign path envFilter original := by
  have start : Service.Sound foreign path envFilter original ⟨none, original, [], []⟩ :=
    .stopped .start fun _ member => absurd member List.not_mem_nil
  exact reachable.holds start fun state event allowed sound => sound.step durable allowed

/-! ## What holds whatever the state file was -/

/-- The configuration was validated, and the active table was parsed. -/
structure Service.Sane (foreign : Foreign) (envFilter : String → Outcome PUnit)
    (service : Service) : Prop where
  valid : ∀ process, service.process = some process →
    process.config.validate envFilter = .ok ⟨⟩
  parsed : ∀ clients, service.snapshot = some clients →
    ∃ text, Clients.parse foreign.csv text = .ok clients

theorem Service.Sane.of_stopped {dir : StateDir} {attempts : List Attempt} {log : List Sent} :
    Service.Sane foreign envFilter ⟨none, dir, attempts, log⟩ where
  valid := fun _ running => absurd running.symm (Option.some_ne_none _)
  parsed := fun _ active => absurd active.symm (Option.some_ne_none _)

/-- It depends on the configuration and on the active table. -/
theorem Service.Sane.congr {before after : Service} (sane : before.Sane foreign envFilter)
    (config : after.process.map Process.config = before.process.map Process.config)
    (same : after.snapshot = before.snapshot) : after.Sane foreign envFilter where
  valid := by
    intro process running
    rw [running, Option.map_some] at config
    obtain ⟨earlier, isEarlier, isConfig⟩ := Option.map_eq_some_iff.mp config.symm
    rw [← isConfig]
    exact sane.valid earlier isEarlier
  parsed := by
    intro clients active
    exact sane.parsed clients (same.symm.trans active)

/-- A process that runs on with a table that was parsed. -/
theorem Service.Sane.ran (sane : service.Sane foreign envFilter) {process : Process}
    (running : service.process = some process) {memory : Option Memory} {dir : StateDir}
    {attempts : List Attempt} {log : List Sent}
    (parsed : ∀ clients, (memory.bind fun memory => memory.shared.snapshot) = some clients →
      ∃ text, Clients.parse foreign.csv text = .ok clients) :
    Service.Sane foreign envFilter ⟨some { process with memory }, dir, attempts, log⟩ where
  valid := by
    rintro _ ⟨rfl⟩
    exact sane.valid process running
  parsed := parsed

/-- **Every event** keeps the service sane. -/
theorem Service.Sane.step (sane : service.Sane foreign envFilter) {event : ServiceEvent}
    (allowed : service.Allows foreign path envFilter event) :
    (service.step foreign path event).Sane foreign envFilter := by
  cases event with
  | started config pid =>
      obtain ⟨-, -, valid⟩ := allowed
      refine ⟨fun process running => ?_, fun _ active =>
        absurd active.symm (Option.some_ne_none _)⟩
      rw [← Option.some.inj running]
      exact valid
  | loaded faults =>
      obtain ⟨process, running, -⟩ := allowed
      rw [Service.step]
      rcases Service.load_cases faults running rfl with ⟨-, ended⟩ | ⟨-, goes⟩
      · rw [ended]
        exact .of_stopped
      · rw [goes]
        refine sane.ran running fun clients active => ?_
        obtain ⟨_, bytes, -, -, loaded⟩ := content_of_boot active
        exact parse_of_decode (decode_of_loadSaved loaded).2
  | bound =>
      obtain ⟨process, running⟩ := allowed
      refine sane.congr ?_ ?_
      · rw [Service.step, running]
        rfl
      · rw [Service.step, Service.snapshot, Service.snapshot, running]
        rfl
  | polled round =>
      obtain ⟨process, memory, running, loaded⟩ := allowed
      rw [Service.step]
      rcases Service.poll_cases round running loaded rfl with ⟨-, ended⟩ | ⟨-, goes⟩
      · rw [ended]
        exact .of_stopped
      · rw [goes]
        refine sane.ran running fun clients active => ?_
        rcases snapshot_round active true with before | ⟨attempt, member, rfl⟩
        · refine sane.parsed clients ?_
          rw [Service.snapshot, running, Option.bind_some, Process.snapshot, loaded]
          exact before
        · exact parse_of_decode (complete_of_attempted member).2
  | received arrival =>
      obtain ⟨process, running, -⟩ := allowed
      rw [Service.step]
      rcases Service.receive_cases arrival running rfl with ⟨stop, -, ended⟩ | ⟨answer, -, goes⟩
      · rw [ended]
        exact .of_stopped
      · rw [goes]
        refine sane.congr ?_ ?_
        · rw [running]
          rfl
        · rw [Service.snapshot, Service.snapshot, running]
          rfl
  | scraped now =>
      obtain ⟨process, running⟩ := allowed
      refine sane.congr ?_ ?_
      · rw [Service.step, running]
        rfl
      · rw [Service.step, Service.snapshot, Service.snapshot, running]
        rfl
  | killed => exact .of_stopped
  | killedInside round left =>
      obtain ⟨process, memory, running, loaded, -⟩ := allowed
      rw [Service.step, Service.interrupt, running, Option.bind_some, loaded]
      exact .of_stopped
  | lostPower left => exact sane.congr rfl rfl

/-- A sound service is sane. -/
theorem Service.Sound.sane (sound : service.Sound foreign path envFilter original) :
    service.Sane foreign envFilter where
  valid := sound.valid
  parsed := fun clients active => parse_of_known sound.life (sound.active clients active)

/-- **Every state is sane**, also with a state file that cannot be loaded. -/
theorem sane_of_reachable
    (reachable : (Service.machine foreign path envFilter original).Reachable service) :
    service.Sane foreign envFilter :=
  reachable.holds .of_stopped fun _ _ allowed sane => sane.step allowed

/-! ## No input ends the service -/

/-- What a process keeps while it runs: its configuration, its state file once it has read
it, its table once it has one, and its socket. -/
structure Process.Continues (before after : Process) : Prop where
  config : after.config = before.config
  pid : after.pid = before.pid
  loaded : before.memory.isSome → after.memory.isSome
  snapshot : before.snapshot.isSome → after.snapshot.isSome
  listening : before.listening = true → after.listening = true

theorem Process.Continues.trans {first second third : Process} (one : first.Continues second)
    (two : second.Continues third) : first.Continues third where
  config := two.config.trans one.config
  pid := two.pid.trans one.pid
  loaded := two.loaded ∘ one.loaded
  snapshot := two.snapshot ∘ one.snapshot
  listening := two.listening ∘ one.listening

/-- The process goes on. -/
def Service.GoesOn (process : Process) (service : Service) : Prop :=
  ∃ after, service.process = some after ∧ process.Continues after

theorem not_panics {α : Type} {x : Outcome α} (steady : x.Steady) : panics x = false := by
  match x with
  | .ok _ => rfl
  | .error (.error _) => rfl
  | .error .panic => exact absurd rfl steady

/-- A turn of the synchronizer keeps a table active. -/
theorem snapshot_isSome_round {system : System} (round : Round)
    (active : system.memory.shared.snapshot.isSome) :
    (system.round foreign path round).2.memory.shared.snapshot.isSome := by
  obtain ⟨result, memory, dir, turn, ends⟩ := round_polled foreign path system round
  rw [turn, record_snapshot]
  cases ends with
  | rejected => exact active
  | unchanged => exact active
  | same => exact active
  | unsaved => exact active
  | saved => rfl

/-- The clients of a served table have masks. -/
theorem Service.Sane.maskable (sane : service.Sane foreign envFilter) {process : Process}
    (running : service.process = some process) {clients : Clients}
    (active : process.snapshot = some clients) {mac : Mac} {client : Client}
    (found : clients.records[mac]? = some client) : client.Maskable := by
  have isActive : service.snapshot = some clients := by
    rw [Service.snapshot, running, Option.bind_some, active]
  obtain ⟨text, isTable⟩ := sane.parsed clients isActive
  exact (Clients.valid_of_parse isTable found).maskable

/-- The events that are inputs of a process. -/
def ServiceEvent.isInput : ServiceEvent → Bool
  | .loaded _ | .bound | .polled _ | .received _ | .scraped _ => true
  | .started _ _ | .killed | .killedInside _ _ | .lostPower _ => false

/-- **One input** does not end a process. -/
theorem Service.Sane.goesOn (calm : foreign.Calm) (sane : service.Sane foreign envFilter)
    {event : ServiceEvent} (isInput : event.isInput = true)
    (allowed : service.Allows foreign path envFilter event) {process : Process}
    (running : service.process = some process) :
    (service.step foreign path event).GoesOn process := by
  cases event with
  | started config pid => cases isInput
  | loaded faults =>
      obtain ⟨other, same, unloaded⟩ := allowed
      obtain rfl : other = process := Option.some.inj (same.symm.trans running)
      have returned : loadPanics foreign (savedFile path faults service.dir) = false := by
        cases savedFile path faults service.dir with
        | ok bytes => exact not_panics (steady_loadSaved calm bytes)
        | error error => rfl
      rw [Service.step, Service.load, running]
      simp only [returned]
      refine ⟨_, rfl, rfl, rfl, fun _ => rfl, fun active => ?_, id⟩
      rw [Process.snapshot, unloaded] at active
      cases active
  | bound =>
      rw [Service.step, running]
      exact ⟨_, rfl, rfl, rfl, id, id, fun _ => rfl⟩
  | polled round =>
      obtain ⟨other, memory, same, loaded⟩ := allowed
      obtain rfl : other = process := Option.some.inj (same.symm.trans running)
      rw [Service.step, Service.poll, running]
      simp only [loaded, not_panics (steady_round calm path ⟨memory, service.dir⟩ round)]
      refine ⟨_, rfl, rfl, rfl, fun _ => rfl, fun active => ?_, id⟩
      rw [Process.snapshot, loaded] at active
      have kept : ∀ system : System, system.memory.shared.snapshot.isSome →
          (system.round foreign path round).2.memory.shared.snapshot.isSome :=
        fun _ => snapshot_isSome_round round
      exact kept ⟨memory, service.dir⟩ active
  | received arrival =>
      have steady := steady_serveReply (fun clients active mac client =>
        sane.maskable running active) (Config.valid_of_validate (sane.valid process running))
        (arrival.datagram process.config).server (arrival.datagram process.config).bytes
      rw [Service.step]
      rcases Service.receive_cases arrival running rfl with ⟨stop, failed, -⟩ | ⟨answer, -, goes⟩
      · rw [serveDatagram_reply] at failed
        match replied : serveReply process.snapshot process.config
          (arrival.datagram process.config).server (arrival.datagram process.config).bytes with
        | .ok answer =>
            rw [replied] at failed
            cases failed
        | .error (.error chain) =>
            rw [replied] at failed
            cases failed
        | .error .panic => exact absurd replied steady
      · rw [goes]
        exact ⟨_, rfl, rfl, rfl, id, id, id⟩
  | scraped now =>
      rw [Service.step, running]
      exact ⟨_, rfl, rfl, rfl, id, id, id⟩
  | killed => cases isInput
  | killedInside round left => cases isInput
  | lostPower left => cases isInput

/-- Through a run of inputs a process goes on. -/
theorem Service.Sane.goesOn_run (calm : foreign.Calm) (sane : service.Sane foreign envFilter)
    {process : Process} (running : service.process = some process) {events : List ServiceEvent}
    {last : Service}
    (run : (Service.machine foreign path envFilter original).Run service events last)
    (inputs : ∀ event ∈ events, event.isInput = true) : last.GoesOn process := by
  have start : service.Sane foreign envFilter ∧ service.GoesOn process :=
    ⟨sane, process, running, rfl, rfl, id, id, id⟩
  have stays : ∀ (state : Service) (event : ServiceEvent), event.isInput = true →
      (Service.machine foreign path envFilter original).allows state event →
        state.Sane foreign envFilter ∧ state.GoesOn process →
          (state.step foreign path event).Sane foreign envFilter ∧
            (state.step foreign path event).GoesOn process := by
    rintro state event isInput allowed ⟨sane, middle, isMiddle, before⟩
    obtain ⟨after, isAfter, continues⟩ := sane.goesOn calm isInput allowed isMiddle
    exact ⟨sane.step allowed, after, isAfter, before.trans continues⟩
  exact (run.keeps stays inputs start).2

/-- **No input ends the service.** From any state that can be reached, through any datagrams,
answers of the remote source, failing calls, state files and scrapes, the running process
goes on with its configuration; once it has a table it always has one, and once it listens
it always does. -/
theorem no_input_ends_the_service (calm : foreign.Calm)
    (reachable : (Service.machine foreign path envFilter original).Reachable service)
    {process : Process} (running : service.process = some process) {events : List ServiceEvent}
    {last : Service}
    (run : (Service.machine foreign path envFilter original).Run service events last)
    (inputs : ∀ event ∈ events, event.isInput = true) : last.GoesOn process :=
  (sane_of_reachable reachable).goesOn_run calm running run inputs

/-! ## Inputs always can come -/

/-- A process that has read its state file and listens. -/
def Service.Serving (service : Service) : Prop :=
  ∃ process memory, service.process = some process ∧ process.memory = some memory ∧
    process.listening = true

/-- The inputs of a process that serves. -/
def ServiceEvent.isRequest : ServiceEvent → Bool
  | .polled _ | .received _ | .scraped _ => true
  | _ => false

/-- **A process that serves takes every input**, and serves on. -/
theorem Service.Serving.run (calm : foreign.Calm) (sane : service.Sane foreign envFilter)
    (serving : service.Serving) {events : List ServiceEvent}
    (requests : ∀ event ∈ events, event.isRequest = true) :
    (Service.machine foreign path envFilter original).Run service events
        (events.foldl (Service.step foreign path) service) ∧
      (events.foldl (Service.step foreign path) service).Serving := by
  induction events generalizing service with
  | nil => exact ⟨.nil service, serving⟩
  | cons event events ih =>
      obtain ⟨isRequest, later⟩ := List.forall_mem_cons.mp requests
      obtain ⟨process, memory, running, loaded, listening⟩ := serving
      have allowed : service.Allows foreign path envFilter event := by
        cases event with
        | polled round => exact ⟨process, memory, running, loaded⟩
        | received arrival => exact ⟨process, running, listening⟩
        | scraped now => exact ⟨process, running⟩
        | started | loaded | bound | killed | killedInside | lostPower => cases isRequest
      have isInput : event.isInput = true := by
        cases event with
        | polled | received | scraped => rfl
        | started | loaded | bound | killed | killedInside | lostPower => cases isRequest
      obtain ⟨after, isAfter, continues⟩ := sane.goesOn calm isInput allowed running
      obtain ⟨held, isHeld⟩ :=
        Option.isSome_iff_exists.mp (continues.loaded (by rw [loaded]; rfl))
      obtain ⟨run, serves⟩ := ih (sane.step allowed)
        ⟨after, held, isAfter, isHeld, continues.listening listening⟩ later
      exact ⟨.cons allowed run, serves⟩

/-- **A process that has started comes to serve**, whatever its state file is and whatever
calls fail. -/
theorem Service.Sane.run_of_started (calm : foreign.Calm) (sane : service.Sane foreign envFilter)
    {process : Process} (running : service.process = some process)
    (unloaded : process.memory = none) (faults : Faults) {events : List ServiceEvent}
    (requests : ∀ event ∈ events, event.isRequest = true) :
    (Service.machine foreign path envFilter original).Run service
        (.loaded faults :: .bound :: events)
        ((.loaded faults :: .bound :: events).foldl (Service.step foreign path) service) ∧
      Service.Serving
        ((.loaded faults :: .bound :: events).foldl (Service.step foreign path) service) := by
  have loading : service.Allows foreign path envFilter (.loaded faults) :=
    ⟨process, running, unloaded⟩
  obtain ⟨after, isAfter, -⟩ := sane.goesOn calm rfl loading running
  have loaded := sane.step loading
  have binding :
      (service.step foreign path (.loaded faults)).Allows foreign path envFilter .bound :=
    ⟨after, isAfter⟩
  have held : ∃ memory, after.memory = some memory := by
    rw [Service.step] at isAfter
    rcases Service.load_cases faults running rfl with ⟨-, ended⟩ | ⟨-, goes⟩
    · rw [ended] at isAfter
      cases isAfter
    · rw [goes] at isAfter
      obtain rfl := Option.some.inj isAfter
      exact ⟨_, rfl⟩
  obtain ⟨memory, isHeld⟩ := held
  have serving :
      ((service.step foreign path (.loaded faults)).step foreign path .bound).Serving := by
    refine ⟨{ after with listening := true }, memory, ?_, isHeld, rfl⟩
    change (service.step foreign path (.loaded faults)).process.map _ = _
    rw [isAfter]
    rfl
  obtain ⟨run, serves⟩ := serving.run calm (loaded.step binding) requests
  exact ⟨.cons loading (.cons binding run), serves⟩

end Sound

/-! ## A plain run -/

/-- The machine of the shipped configuration on an empty directory. -/
def shippedMachine : Machine Service ServiceEvent :=
  Service.machine plainForeign shippedPath (fun _ => .ok ⟨⟩) emptyDir

theorem durable_emptyDir : Durable plainForeign shippedPath emptyDir := by
  rintro name isFile
  obtain rfl : "clients.csv" = name := Option.some.inj isFile
  exact original_emptyDir

theorem calm_plainForeign : plainForeign.Calm := by
  intro text row member
  obtain ⟨index, bound, rfl⟩ := List.mem_mapIdx.mp member
  exact Outcome.steady_ok _

theorem allows_started :
    shippedMachine.allows shippedMachine.initial (.started Config.shipped 1) :=
  ⟨rfl, rfl, Config.validate_shipped⟩

/-- The process that has started. -/
def startedService : Service :=
  shippedMachine.step shippedMachine.initial (.started Config.shipped 1)

/-- A DISCOVER of the first client of the shipped file. -/
def discoverArrival : Arrival := ⟨Packet.wire 1 [], .new 192 0 2 10, 0, true⟩

/-- A DISCOVER of the second client. -/
def otherArrival : Arrival := ⟨(Packet.wire 1 []).set 33 0xaa, .new 192 0 2 10, 0, true⟩

/-- The process reads its state file, listens, downloads the shipped table and answers both
clients. -/
def servedInputs : List ServiceEvent :=
  [.loaded fun _ => none, .bound, .polled (tableRound Clients.shipped),
    .received discoverArrival, .received otherArrival]

/-- The process after that. -/
def servedService : Service := servedInputs.foldl shippedMachine.step startedService

theorem reachable_started : shippedMachine.Reachable startedService :=
  Machine.Reachable.initial.step allows_started

theorem run_served : shippedMachine.Run startedService servedInputs servedService ∧
    servedService.Serving :=
  (sane_of_reachable reachable_started).run_of_started calm_plainForeign rfl rfl _
    (List.forall_mem_cons.mpr ⟨rfl, List.forall_mem_cons.mpr
      ⟨rfl, List.forall_mem_singleton.mpr rfl⟩⟩)

theorem reachable_served : shippedMachine.Reachable servedService :=
  reachable_started.run run_served.1

/-- A malformed datagram and a scrape. -/
def laterInputs : List ServiceEvent := [.received ⟨[], .unspecified, 1, true⟩, .scraped 2]

/-- They leave the process that has answered. -/
theorem no_input_ends_the_served : ∃ process, servedService.process = some process ∧
    (laterInputs.foldl shippedMachine.step servedService).GoesOn process := by
  have requests : ∀ event ∈ laterInputs, event.isRequest = true :=
    List.forall_mem_cons.mpr ⟨rfl, List.forall_mem_singleton.mpr rfl⟩
  have inputs : ∀ event ∈ laterInputs, event.isInput = true :=
    List.forall_mem_cons.mpr ⟨rfl, List.forall_mem_singleton.mpr rfl⟩
  have run : shippedMachine.Run servedService laterInputs
      (laterInputs.foldl shippedMachine.step servedService) :=
    (run_served.2.run calm_plainForeign (sane_of_reachable reachable_served) requests).1
  obtain ⟨process, memory, running, -⟩ := run_served.2
  exact ⟨process, running, no_input_ends_the_service calm_plainForeign reachable_served running
    run inputs⟩

/-- The process is killed, and the next one reads the state file and listens. -/
def restartEvents : List ServiceEvent :=
  [.killed, .started Config.shipped 2, .loaded fun _ => none, .bound]

def resumedService : Service := restartEvents.foldl shippedMachine.step servedService

/-- This one downloads a table with another address for the first client. -/
def movedService : Service := shippedMachine.step resumedService (.polled (tableRound movedTable))

/-- The first client selects the offer that it got before the restart. -/
def selectingArrival : Arrival :=
  ⟨Packet.wire 3 [(50, [1, 2, 3, 4]), (54, [192, 0, 2, 10])], .new 192 0 2 10, 1, true⟩

theorem reachable_resumed : shippedMachine.Reachable resumedService ∧ resumedService.Serving := by
  have resumes : ∀ service : Service, shippedMachine.Reachable service → service.Serving →
      shippedMachine.Reachable (restartEvents.foldl shippedMachine.step service) ∧
        (restartEvents.foldl shippedMachine.step service).Serving := by
    intro service reachable serving
    obtain ⟨process, memory, running, -⟩ := serving
    have killed := reachable.step
      (show shippedMachine.allows service .killed from ⟨process, running⟩)
    have started := killed.step (show shippedMachine.allows _ (.started Config.shipped 2) from
      ⟨rfl, rfl, Config.validate_shipped⟩)
    obtain ⟨run, serves⟩ := (sane_of_reachable started).run_of_started calm_plainForeign rfl rfl
      (fun _ => none) fun _ member => absurd member List.not_mem_nil
    exact ⟨started.run run, serves⟩
  exact resumes servedService reachable_served run_served.2

theorem reachable_moved : shippedMachine.Reachable movedService ∧ movedService.Serving := by
  have polls : ∀ service : Service, shippedMachine.Reachable service → service.Serving →
      shippedMachine.Reachable (shippedMachine.step service (.polled (tableRound movedTable))) ∧
        (shippedMachine.step service (.polled (tableRound movedTable))).Serving := by
    intro service reachable serving
    have requests : ∀ event ∈ [ServiceEvent.polled (tableRound movedTable)],
        event.isRequest = true := List.forall_mem_singleton.mpr rfl
    obtain ⟨run, serves⟩ := serving.run calm_plainForeign (sane_of_reachable reachable) requests
    exact ⟨reachable.run run, serves⟩
  exact polls resumedService reachable_resumed.1 reachable_resumed.2

deriving instance DecidableEq for DhcpConfig, HttpConfig, LoggingConfig, ClientOptions,
  BootFiles, BootConfig, ClientsSource, Config

/-- What is read off a reply in the log. -/
structure SentFacts where
  config : Config
  server : Ipv4Addr
  bytes : Bytes
  station : Bytes
  address : Bytes
  deriving DecidableEq

def Sent.facts (sent : Sent) : SentFacts :=
  ⟨sent.config, sent.server, sent.bytes, sent.reply.chaddr, sent.reply.yiaddr⟩

/-- **The plain run**: one table is persisted, two stations are offered their addresses, and
two requests are counted. The table is active again after the restart. Then the first client
has another address, and its request gets one reply more. -/
theorem plain_run :
    servedService.attempts.map (fun attempt =>
        (attempt.done, attempt.clients.records[Clients.shippedClient.mac]?)) =
      [(true, some Clients.shippedClient)] ∧
    servedService.sent.map Sent.facts =
      [⟨Config.shipped, .new 192 0 2 10, otherArrival.bytes, [0xaa, 0xbb, 0xcc, 0xdd, 0xee, 0xaa],
          [1, 2, 3, 5]⟩,
        ⟨Config.shipped, .new 192 0 2 10, discoverArrival.bytes,
          [0xaa, 0xbb, 0xcc, 0xdd, 0xee, 0xff], [1, 2, 3, 4]⟩] ∧
    servedService.process.map (fun process => process.traffic.requestLabels.series.keys) =
      some [⟨"dc1", "host.name1", "os", "default", "discover"⟩,
        ⟨"dc1", "host.name2", "os", "default", "discover"⟩] ∧
    servedService.snapshot.isSome = true ∧ resumedService.snapshot.isSome = true ∧
    resumedService.process.map Process.config = some Config.shipped ∧
    movedService.process.map Process.config = some Config.shipped ∧
    (movedService.snapshot.bind fun clients =>
      (clients.records[Clients.shippedClient.mac]?).map Client.ip) = some (.new 1 2 3 9) ∧
    (movedService.receive selectingArrival).sent.length = 3 := by
  decide +kernel

end Macdack
