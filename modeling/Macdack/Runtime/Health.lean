import Macdack.Dhcp.Accounting
import Macdack.Runtime.Assignments
import Macdack.Runtime.Report
import Macdack.Runtime.Sections

/-!
# What health says of the service

`GET /health` answers with 200 exactly when it finds a table and then a bound socket. It reads
the status after that, and other tasks go on between its reads. `Reads` says so: a report is
put together from three moments of one process.

Of the first moment and the last one the report says what clients get. With 503 no datagram is
answered when the request comes. With 200 every request to which a reply is due gets that
reply when the report is sent, and reports stay 200 through every input (`health_truthful`).
The fields agree with each other, except that a table is seen before its source.
-/

set_option autoImplicit false

namespace Macdack

section Health

variable {foreign : Foreign} {path : PathBuf} {envFilter : String → Outcome PUnit}
  {original : StateDir} {service : Service} {process : Process}

/-! ## Server addresses -/

theorem usableServer_of_isUnicast {ip : Ipv4Addr} (unicast : isUnicast ip = true) :
    usableServer ip := by
  simp only [isUnicast, Bool.and_eq_true, Bool.not_eq_true'] at unicast
  exact ⟨unicast.1.1.1, unicast.1.2, unicast.1.1.2⟩

/-- The address that a validated configuration gives can be used. -/
theorem usableServer_of_explicit {config : Config}
    (validated : config.validate envFilter = .ok ⟨⟩) {server : Ipv4Addr}
    (explicit : explicitServer config = some server) : usableServer server := by
  simp only [Config.validate, Outcome.bind_eq_ok, Outcome.ensure_eq_ok, Outcome.each_eq_ok,
    Bool.or_eq_true] at validated
  obtain ⟨_, listens, _, identifies, -⟩ := validated
  rw [explicitServer] at explicit
  cases identifier : config.dhcp.serverIdentifier with
  | some ip =>
      rw [identifier, Option.some_or, Option.some.injEq] at explicit
      subst explicit
      rw [identifier] at identifies
      exact usableServer_of_isUnicast (identifies ip (.head _))
  | none =>
      rw [identifier, Option.none_or] at explicit
      by_cases wildcard : config.dhcp.listenIp.isUnspecified = true
      · rw [if_pos wildcard] at explicit
        cases explicit
      · rw [if_neg wildcard, Option.some.injEq] at explicit
        rw [← explicit]
        exact usableServer_of_isUnicast (listens.resolve_left wildcard)

/-- Without an address in the configuration the one that the datagram arrived at counts. -/
theorem usableServer_datagram {config : Config} (validated : config.validate envFilter = .ok ⟨⟩)
    {arrival : Arrival} (arrived : explicitServer config = none → usableServer arrival.localIp) :
    usableServer (arrival.datagram config).server := by
  change usableServer ((explicitServer config).getD arrival.localIp)
  cases explicit : explicitServer config with
  | some server => exact usableServer_of_explicit validated explicit
  | none => exact arrived explicit

/-! ## What clients get -/

/-- The fate of a datagram that gets this reply. -/
theorem fate_of_reply {config : Config} {snapshot : Option Clients} {datagram : Datagram}
    {packet : Packet} {client : Client} {reply : Reply}
    (parsed : Packet.parse datagram.bytes = .ok packet)
    (found : clientOf snapshot packet = some client)
    (replied : Macdack.reply packet client config datagram.server = .ok (some reply)) :
    fate config snapshot datagram =
      .replied reply.message reply.relayOptionOmitted datagram.sendable := by
  obtain ⟨message, isDue, -⟩ := reply_header (Packet.wellFormed_of_parse parsed) replied
  have bootMode := (due_eq_some_iff.mp isDue).2.1
  rw [fate, parsed]
  simp only [found, Option.map_some, Option.getD_some]
  rw [fateOfClient, if_neg (by rw [bootMode]; exact Bool.false_ne_true), replied]

/-- A reply that can be sent is counted as a response. -/
theorem responses_of_reply {config : Config} {snapshot : Option Clients} {datagram : Datagram}
    {packet : Packet} {client : Client} {reply : Reply} (traffic : Traffic)
    (parsed : Packet.parse datagram.bytes = .ok packet)
    (found : clientOf snapshot packet = some client)
    (replied : Macdack.reply packet client config datagram.server = .ok (some reply))
    (sendable : datagram.sendable = true) :
    (serveDatagram config snapshot datagram traffic).2.responses = traffic.responses + 1 := by
  rw [serveDatagram_fate, Fate.responses_count, fate_of_reply parsed found replied, sendable]
  rfl

/-- Every request to which a reply is due, whose reply is not too large and can be sent, is
answered. -/
def Service.AnswersDue (service : Service) (process : Process) : Prop :=
  ∀ (arrival : Arrival) (packet : Packet) (client : Client) (message : UInt8),
    Packet.parse arrival.bytes = .ok packet →
    clientOf process.snapshot packet = some client →
    (explicitServer process.config = none → usableServer arrival.localIp) →
    due packet client (arrival.datagram process.config).server = some message →
    bareSize packet client process.config (arrival.datagram process.config).server message ≤
      sizeLimit packet →
    arrival.sendable = true →
    ∃ reply traffic, reply.message = message ∧
      traffic.responses = process.traffic.responses + 1 ∧ service.receive arrival =
        ⟨some { process with traffic }, service.dir, service.attempts,
          ⟨process.config, (arrival.datagram process.config).server, arrival.bytes, reply⟩ ::
            service.sent⟩

/-- Every due request is answered. -/
theorem Service.Sane.answersDue (sane : service.Sane foreign envFilter)
    (running : service.process = some process) : service.AnswersDue process := by
  intro arrival packet client message parsed found arrived isDue fits sendable
  obtain ⟨clients, active, listed⟩ := exists_record found
  have validated := sane.valid process running
  have replied := reply_of_due (usableServer_datagram validated arrived)
    (Packet.wellFormed_of_parse parsed) (Config.valid_of_validate validated) isDue
    (.inr (sane.maskable running active listed))
  rw [if_neg (Nat.not_lt.mpr fits)] at replied
  have served := serveReply_of_reply parsed listed replied
  rw [← active] at served
  have counted := responses_of_reply process.traffic parsed found replied sendable
  exact ⟨_, _, rfl, counted, receive_of_serveReply arrival running served⟩

/-- Without a table no datagram is answered. -/
theorem sent_of_no_table (arrival : Arrival) (running : service.process = some process)
    (missing : process.snapshot = none) : (service.receive arrival).sent = service.sent := by
  rcases Service.receive_cases arrival running rfl with ⟨stop, -, ended⟩ | ⟨answer, served, goes⟩
  · rw [ended]
  · cases answer with
    | none =>
        rw [goes]
        rfl
    | some reply =>
        obtain ⟨clients, active⟩ :=
          exists_snapshot_of_serveReply (serveReply_of_serveDatagram served)
        rw [missing] at active
        cases active

/-! ## The report -/

/-- What the process shares, also before it has read the state file. -/
def Process.shared (process : Process) : Shared :=
  (process.memory.getD (Memory.initial process.pid)).shared

theorem Process.snapshot_shared (process : Process) :
    process.shared.snapshot = process.snapshot := by
  rw [shared, snapshot]
  cases process.memory <;> rfl

/-- A report of one process, with what it reads at three moments. Inputs come between them. -/
inductive Reads (foreign : Foreign) (path : PathBuf) (envFilter : String → Outcome PUnit)
    (original : StateDir) (first last : Moment) : HealthReport → Prop where
  | read {second : Moment} {early late : List MomentEvent} {opened bound closed : Process}
      (clock : ℕ) : (Moment.machine foreign path envFilter original).Run first early second →
        (Moment.machine foreign path envFilter original).Run second late last →
          (∀ event ∈ early ++ late, event.isInput = true) →
            first.service.process = some opened → second.service.process = some bound →
              last.service.process = some closed →
                Reads foreign path envFilter original first last
                  (health (clientCount opened.snapshot) bound.listening closed.shared.status clock)

/-- The two status codes, by the table and the socket that were read. -/
theorem status_health (snapshot : Option Clients) (dhcpReady : Bool) (status : SyncStatus)
    (clock : ℕ) : (health (clientCount snapshot) dhcpReady status clock).status =
      if snapshot.isSome && dhcpReady then 200 else 503 := by
  rw [clientCount, health, Option.isSome_map]

section Status

variable {snapshot : Option Clients} {dhcpReady : Bool} {status : SyncStatus} {clock : ℕ}

theorem status_health_eq_ok_iff :
    (health (clientCount snapshot) dhcpReady status clock).status = 200 ↔
      snapshot.isSome = true ∧ dhcpReady = true := by
  rw [status_health, ← Bool.and_eq_true]
  cases snapshot.isSome && dhcpReady <;> decide

theorem status_health_eq_unavailable_iff :
    (health (clientCount snapshot) dhcpReady status clock).status = 503 ↔
      snapshot = none ∨ dhcpReady = false := by
  rw [status_health, ← Option.isSome_eq_false_iff.trans Option.isNone_iff_eq_none,
    ← Bool.and_eq_false_iff]
  cases snapshot.isSome && dhcpReady <;> decide

end Status

/-- What the report of a process says of the service. -/
structure HealthTruthful (foreign : Foreign) (path : PathBuf)
    (envFilter : String → Outcome PUnit) (original : StateDir) (first last : Moment)
    (report : HealthReport) : Prop where
  code : report.status = 200 ∨ report.status = 503
  /-- Without a table or a socket nothing is sent. -/
  unavailable : report.status = 503 → ∀ arrival,
    first.service.Allows foreign path envFilter (.received arrival) →
      (first.service.receive arrival).sent = first.service.sent
  /-- With both every due request is answered. -/
  available : report.status = 200 → ∃ process, last.service.process = some process ∧
    process.listening = true ∧ last.service.AnswersDue process
  /-- It stays so through every input. -/
  stays : report.status = 200 → ∀ (events : List MomentEvent) (next final : Moment)
    (later : HealthReport), (Moment.machine foreign path envFilter original).Run last events next →
      (∀ event ∈ events, event.isInput = true) →
        Reads foreign path envFilter original next final later → later.status = 200
  source : report.source.isSome → last.service.snapshot.isSome
  /-- A table without a source gets it in the next lock section. -/
  sourceless : last.service.snapshot.isSome → report.source = none →
    ∃ write rest, last.pending = write :: rest ∧ write.givesSource = true
  age : report.dataAgeSeconds.isSome ↔ report.source = some .remote
  success : report.lastSuccessfulSync.isSome → report.source = some .remote
  clients : report.clients = (clientCount first.service.snapshot).getD 0

/-- What a process shows of its data, before it has read the state file and after. -/
theorem Moment.Shows.status {moment : Moment} (shows : moment.Shows)
    (running : moment.service.process = some process) :
    process.shared.Dated ∧
    (process.shared.status.source.isSome → moment.service.snapshot.isSome) ∧
    (moment.service.snapshot.isSome → process.shared.status.source = none →
      ∃ write rest, moment.pending = write :: rest ∧ write.givesSource = true) := by
  have active : moment.service.snapshot = process.shared.snapshot := by
    rw [Service.snapshot, running, Option.bind_some, Process.snapshot_shared]
  rw [active, Process.shared]
  cases loaded : process.memory with
  | none =>
      exact ⟨(Shown.initial process.pid).dated, id, fun table => absurd table Bool.false_ne_true⟩
  | some memory =>
      obtain ⟨shared, shown, isShared⟩ := shows
      obtain rfl : memory.shared = shared := isShared process memory running loaded
      refine ⟨shown.dated, shown.active, fun table missing => ?_⟩
      rcases shown.source table with source | pending
      · rw [Option.getD_some] at missing
        rw [missing] at source
        cases source
      · exact pending

/-- A report that is made at once. -/
theorem Reads.at_once {moment : Moment} (running : moment.service.process = some process)
    (clock : ℕ) : Reads foreign path envFilter original moment moment
      (health (clientCount process.snapshot) process.listening process.shared.status clock) :=
  .read clock (.nil _) (.nil _) nofun running running running

/-- A report that reads the status when the turn has ended. -/
theorem Reads.to_rest {moment : Moment} (running : moment.service.process = some process)
    {last : Process} (lasting : moment.complete.process = some last) (clock : ℕ) :
    Reads foreign path envFilter original moment ⟨moment.complete, []⟩
      (health (clientCount process.snapshot) process.listening last.shared.status clock) := by
  refine .read clock (.nil _) moment.run_pending ?_ running running lasting
  intro event member
  obtain ⟨-, -, rfl⟩ := List.mem_map.mp member
  rfl

/-- A report comes from one process, which goes on between its reads. -/
theorem Reads.exists_processes (calm : foreign.Calm) {first last : Moment}
    (reachable : (Moment.machine foreign path envFilter original).Reachable first)
    {report : HealthReport} (reads : Reads foreign path envFilter original first last report) :
    (Moment.machine foreign path envFilter original).Reachable last ∧
      ∃ (opened bound closed : Process) (clock : ℕ), first.service.process = some opened ∧
        last.service.process = some closed ∧ opened.Continues bound ∧ bound.Continues closed ∧
          report =
            health (clientCount opened.snapshot) bound.listening closed.shared.status clock := by
  cases reads with
  | @read second early late opened bound closed clock one two inputs first middle lasting =>
      obtain ⟨earlyInputs, lateInputs⟩ := List.forall_mem_append.mp inputs
      have reached := reachable.run one
      obtain ⟨_, isBound, before⟩ := Moment.goesOn_run calm reachable first one earlyInputs
      obtain rfl := Option.some.inj (middle.symm.trans isBound)
      obtain ⟨_, isClosed, after⟩ := Moment.goesOn_run calm reached middle two lateInputs
      obtain rfl := Option.some.inj (lasting.symm.trans isClosed)
      exact ⟨reached.run two, opened, bound, closed, clock, first, lasting, before, after, rfl⟩

/-- **Health tells what clients get.** A request of `/health` comes at any moment that can be
reached, and its reads are as far apart as any inputs take, in the middle of a turn too. The
report is 200 or 503. With 503 no datagram was answered when the request came. With 200 every
request to which a reply is due, and whose reply is not too large and can be sent, gets it
when the report is sent, and all later reports are 200 through every input. A source is
reported of a table only, and of every table but one that was set in the lock section before.
An age is reported exactly of a remote table, and a time of success only of a remote one. -/
theorem health_truthful (calm : foreign.Calm) {first last : Moment}
    (reachable : (Moment.machine foreign path envFilter original).Reachable first)
    {report : HealthReport} (reads : Reads foreign path envFilter original first last report) :
    HealthTruthful foreign path envFilter original first last report := by
  obtain ⟨reached, opened, bound, closed, clock, running, lasting, before, after, rfl⟩ :=
    reads.exists_processes calm reachable
  obtain ⟨dated, active, sourceless⟩ := (complete_of_reachable reached).2.status lasting
  refine ⟨?_, ?_, ?_, ?_, active, sourceless, ?_, dated.success, ?_⟩
  · rw [status_health]
    split
    · exact .inl rfl
    · exact .inr rfl
  · rintro unavailable arrival ⟨other, same, listening⟩
    obtain rfl : other = opened := Option.some.inj (same.symm.trans running)
    refine sent_of_no_table arrival running ?_
    rcases status_health_eq_unavailable_iff.mp unavailable with missing | unbound
    · exact missing
    · rw [before.listening listening] at unbound
      cases unbound
  · intro available
    exact ⟨closed, lasting, after.listening (status_health_eq_ok_iff.mp available).2,
      (Moment.sane_of_reachable reached).answersDue lasting⟩
  · intro available events next final later between inputs reads
    obtain ⟨table, listening⟩ := status_health_eq_ok_iff.mp available
    obtain ⟨-, others, ready, _, time, isOthers, -, earlier, -, rfl⟩ :=
      reads.exists_processes calm (reached.run between)
    obtain ⟨_, isNext, continues⟩ := Moment.goesOn_run calm reached lasting between inputs
    obtain rfl := Option.some.inj (isOthers.symm.trans isNext)
    have goesOn := (before.trans after).trans continues
    exact status_health_eq_ok_iff.mpr ⟨goesOn.snapshot table,
      earlier.listening ((after.trans continues).listening listening)⟩
  · change (dataAge closed.shared.status clock).isSome ↔ closed.shared.status.source = _
    rw [dataAge, Option.isSome_map]
    exact dated.since.symm
  · rw [Service.snapshot, running, Option.bind_some]
    rfl

end Health

/-! ## A report in the middle of a turn -/

/-- The machine of the moments of the plain run. -/
def plainMoments : Machine Moment MomentEvent :=
  Moment.machine plainForeign shippedPath (fun _ => .ok ⟨⟩) emptyDir

/-- A process that listens and has not polled. -/
def boundMoment : Moment :=
  [.service (.started Config.shipped 1), .service (.loaded fun _ => none),
    .service .bound].foldl plainMoments.step plainMoments.initial

/-- It downloads the shipped table, which is set. -/
def openedMoment : Moment :=
  plainMoments.step boundMoment (.service (.polled (tableRound Clients.shipped)))

/-- What is read of the process. -/
def readings (service : Service) : Option (Option ℕ × Bool × Option Source) :=
  service.process.map fun process =>
    (clientCount process.snapshot, process.listening, process.shared.status.source)

theorem plain_moments :
    boundMoment.pending.isEmpty = true ∧
      boundMoment.service.process.map (fun process => process.memory.isSome) = some true ∧
      readings openedMoment.service = some (some 2, true, none) ∧
      readings openedMoment.complete = some (some 2, true, some .remote) := by
  decide +kernel

theorem reachable_openedMoment : plainMoments.Reachable openedMoment := by
  have polls : ∀ (moment : Moment) (round : Round), plainMoments.Reachable moment →
      moment.pending.isEmpty = true →
        moment.service.process.map (fun process => process.memory.isSome) = some true →
          plainMoments.Reachable (plainMoments.step moment (.service (.polled round))) := by
    intro moment round reachable rests loaded
    obtain ⟨process, running, held⟩ := Option.map_eq_some_iff.mp loaded
    obtain ⟨memory, isMemory⟩ := Option.isSome_iff_exists.mp held
    exact reachable.step ⟨⟨process, memory, running, isMemory⟩, List.isEmpty_iff.mp rests⟩
  have binds : ∀ moment : Moment, plainMoments.Reachable moment →
      (plainMoments.step moment (.service .bound)).service.process.map
        (fun process => process.memory.isSome) = some true →
          plainMoments.Reachable (plainMoments.step moment (.service .bound)) := by
    intro moment reachable loaded
    obtain ⟨_, isBound, -⟩ := Option.map_eq_some_iff.mp loaded
    obtain ⟨process, running, -⟩ := Option.map_eq_some_iff.mp isBound
    exact reachable.step ⟨⟨process, running⟩, trivial⟩
  obtain ⟨rests, loaded, -⟩ := plain_moments
  have started := (Machine.Reachable.initial : plainMoments.Reachable _).step
    (show plainMoments.allows _ (.service (.started Config.shipped 1)) from
      ⟨⟨rfl, rfl, Config.validate_shipped⟩, trivial⟩)
  have opened := started.step (show plainMoments.allows _ (.service (.loaded fun _ => none)) from
    ⟨⟨_, rfl, rfl⟩, rfl⟩)
  exact polls boundMoment _ (binds _ opened loaded) rests loaded

/-- A report that begins when the table was set has no source, unless it ends later. -/
theorem health_truthful_opened :
    (∃ report, report.status = 200 ∧ report.source = none ∧
      HealthTruthful plainForeign shippedPath (fun _ => .ok ⟨⟩) emptyDir openedMoment openedMoment
        report) ∧
    ∃ report, report.status = 200 ∧ report.source = some .remote ∧
      HealthTruthful plainForeign shippedPath (fun _ => .ok ⟨⟩) emptyDir openedMoment
        ⟨openedMoment.complete, []⟩ report := by
  obtain ⟨-, -, opened, completed⟩ := plain_moments
  obtain ⟨first, running, isOpened⟩ := Option.map_eq_some_iff.mp opened
  obtain ⟨last, lasting, isCompleted⟩ := Option.map_eq_some_iff.mp completed
  simp only [Prod.mk.injEq] at isOpened isCompleted
  obtain ⟨count, listening, missing⟩ := isOpened
  obtain ⟨-, -, remote⟩ := isCompleted
  have available : ∀ status, (health (clientCount first.snapshot) first.listening status 0).status =
      200 := by
    intro status
    rw [count, listening]
    rfl
  exact ⟨⟨_, available first.shared.status, missing, health_truthful calm_plainForeign
      reachable_openedMoment (.at_once running 0)⟩,
    _, available last.shared.status, remote, health_truthful calm_plainForeign
      reachable_openedMoment (.to_rest running lasting 0)⟩

end Macdack
