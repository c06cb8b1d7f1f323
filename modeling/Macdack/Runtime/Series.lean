import Macdack.Dhcp.Accounting
import Macdack.Runtime.Service

/-!
# The metrics of the service

`Server.run` is `serve` alone, with the datagrams, table changes and scrapes of a history.
Every process of the service is where `Server.run` is after a history of the datagrams that
it received, with tables that the service knows (`follows_of_reachable`). So what holds of
the metrics of `serve` alone holds of every process, through downloads, failing calls and
restarts: the clients that its series name are rows of known tables (`series_of_service`),
and its counters account for exactly the datagrams that came in since it started
(`counters_of_service`).
-/

set_option autoImplicit false

namespace Macdack

/-! ## The datagrams of a history -/

/-- The datagram that an event of `serve` brings. -/
def ServerEvent.datagram : ServerEvent → Option Datagram
  | .received datagram => some datagram
  | _ => none

/-- The datagram that an event of the service brings to a process. -/
def ServiceEvent.datagram (config : Config) : ServiceEvent → Option Datagram
  | .received arrival => some (arrival.datagram config)
  | _ => none

/-- While `serve` runs on, every datagram is handled. -/
theorem map_handled {config : Config} {history : List ServerEvent}
    (alive : (Server.run config history).alive = true) :
    (handled config history).map Prod.snd = history.filterMap ServerEvent.datagram := by
  induction history with
  | nil => rfl
  | cons event older ih =>
      cases event with
      | received datagram =>
          rw [Server.run, Server.step] at alive
          by_cases before : (Server.run config older).alive = true
          · rw [handled, if_pos before, List.map_cons, ih before]
            rfl
          · rw [if_neg before] at alive
            exact absurd alive before
      | replaced snapshot => exact ih alive
      | scraped now => exact ih alive

/-! ## Processes and `serve` -/

/-- The process is where `serve` is after a history of these datagrams, the newest first,
with known tables. -/
def Process.FollowsServer (foreign : Foreign) (path : PathBuf) (original : StateDir)
    (attempts : List Attempt) (datagrams : List Datagram) (process : Process) : Prop :=
  ∃ history, Server.run process.config history = ⟨process.snapshot, process.traffic, true⟩ ∧
    history.filterMap ServerEvent.datagram = datagrams ∧
      ∀ clients, .replaced (some clients) ∈ history →
        Known foreign path original attempts clients

section Series

variable {foreign : Foreign} {path : PathBuf} {envFilter : String → Outcome PUnit}
  {original : StateDir} {service : Service} {process : Process} {attempts : List Attempt}
  {datagrams : List Datagram}

namespace Process.FollowsServer

/-- A process that has just started. -/
theorem initial (config : Config) (pid : ℕ) :
    (Process.initial config pid).FollowsServer foreign path original attempts [] :=
  ⟨[], rfl, rfl, fun _ member => absurd member List.not_mem_nil⟩

/-- With other memory, the process has replaced its table. -/
theorem replaced (follows : process.FollowsServer foreign path original attempts datagrams)
    (more : List Attempt) (memory : Option Memory)
    (active : ∀ clients, Process.snapshot { process with memory } = some clients →
      Known foreign path original (attempts ++ more) clients) :
    Process.FollowsServer foreign path original (attempts ++ more) datagrams
      { process with memory } := by
  obtain ⟨history, ran, brought, known⟩ := follows
  refine ⟨.replaced (Process.snapshot { process with memory }) :: history, ?_, brought,
    fun clients member => ?_⟩
  · rw [Server.run, ran]
    rfl
  · rcases List.mem_cons.mp member with same | older
    · exact active clients (ServerEvent.replaced.inj same).symm
    · exact (known clients older).more more

/-- A datagram that is answered or dropped is one more of the history. -/
theorem received (follows : process.FollowsServer foreign path original attempts datagrams)
    (datagram : Datagram) {answer : Option Reply}
    (answered : (serveDatagram process.config process.snapshot datagram process.traffic).1 =
      .ok answer) :
    Process.FollowsServer foreign path original attempts (datagram :: datagrams) { process with
      traffic := (serveDatagram process.config process.snapshot datagram process.traffic).2 } := by
  obtain ⟨history, ran, brought, known⟩ := follows
  refine ⟨.received datagram :: history, ?_, by rw [← brought]; rfl, fun clients member => ?_⟩
  · rw [Server.run, ran, Server.step]
    simp only [answered]
    rfl
  · rcases List.mem_cons.mp member with other | older
    · cases other
    · exact known clients older

theorem scraped (follows : process.FollowsServer foreign path original attempts datagrams)
    (now : Instant) :
    Process.FollowsServer foreign path original attempts datagrams
      { process with traffic := (process.traffic.scrape now).2 } := by
  obtain ⟨history, ran, brought, known⟩ := follows
  refine ⟨.scraped now :: history, ?_, brought, fun clients member => ?_⟩
  · rw [Server.run, ran]
    rfl
  · rcases List.mem_cons.mp member with other | older
    · cases other
    · exact known clients older

end Process.FollowsServer

/-- **An input** is an event of `serve`, when the process goes on. -/
theorem Service.Sound.follows_input (durable : Durable foreign path original)
    (sound : service.Sound foreign path envFilter original)
    (running : service.process = some process)
    (follows : process.FollowsServer foreign path original service.attempts datagrams)
    {event : ServiceEvent} (isInput : event.isInput = true)
    (allowed : service.Allows foreign path envFilter event) {after : Process}
    (goes : (service.step foreign path event).process = some after) :
    after.config = process.config ∧ after.FollowsServer foreign path original
      (service.step foreign path event).attempts
        ((event.datagram process.config).toList ++ datagrams) := by
  have active := (sound.step durable allowed).active
  cases event with
  | started config pid => cases isInput
  | loaded faults =>
      rw [Service.step] at active goes ⊢
      rcases Service.load_cases faults running rfl with ⟨-, ended⟩ | ⟨-, next⟩
      · rw [ended] at goes
        exact absurd goes.symm (Option.some_ne_none _)
      · rw [next] at active goes ⊢
        obtain rfl := Option.some.inj goes
        rw [← List.append_nil service.attempts] at active ⊢
        exact ⟨rfl, follows.replaced [] _ active⟩
  | bound =>
      rw [Service.step, running] at goes
      obtain rfl := Option.some.inj goes
      exact ⟨rfl, follows⟩
  | polled round =>
      obtain ⟨other, memory, same, loaded⟩ := allowed
      obtain rfl := Option.some.inj (same.symm.trans running)
      rw [Service.step] at active goes ⊢
      rcases Service.poll_cases round running loaded rfl with ⟨-, ended⟩ | ⟨-, next⟩
      · rw [ended] at goes
        exact absurd goes.symm (Option.some_ne_none _)
      · rw [next] at active goes ⊢
        obtain rfl := Option.some.inj goes
        exact ⟨rfl, follows.replaced _ _ active⟩
  | received arrival =>
      rw [Service.step] at goes ⊢
      rcases Service.receive_cases arrival running rfl with
        ⟨stop, -, ended⟩ | ⟨answer, served, next⟩
      · rw [ended] at goes
        exact absurd goes.symm (Option.some_ne_none _)
      · rw [next] at goes ⊢
        obtain rfl := Option.some.inj goes
        exact ⟨rfl, follows.received _ served⟩
  | scraped now =>
      rw [Service.step, running] at goes
      obtain rfl := Option.some.inj goes
      exact ⟨rfl, follows.scraped now⟩
  | killed => cases isInput
  | killedInside round left => cases isInput
  | lostPower left => cases isInput

/-- The running process follows `serve`. -/
def Service.FollowsServer (foreign : Foreign) (path : PathBuf) (original : StateDir)
    (service : Service) : Prop :=
  ∀ process, service.process = some process →
    ∃ datagrams, process.FollowsServer foreign path original service.attempts datagrams

/-- **Every event** keeps the process in step with `serve`. -/
theorem Service.FollowsServer.step (durable : Durable foreign path original)
    (sound : service.Sound foreign path envFilter original)
    (follows : service.FollowsServer foreign path original) {event : ServiceEvent}
    (allowed : service.Allows foreign path envFilter event) :
    (service.step foreign path event).FollowsServer foreign path original := by
  intro after goes
  have inputs : ∀ process, service.process = some process → event.isInput = true →
      ∃ datagrams, after.FollowsServer foreign path original
        (service.step foreign path event).attempts datagrams := by
    intro process running isInput
    obtain ⟨datagrams, follows⟩ := follows process running
    exact ⟨_, (sound.follows_input durable running follows isInput allowed goes).2⟩
  cases event with
  | started config pid =>
      obtain rfl := Option.some.inj goes
      exact ⟨[], .initial config pid⟩
  | loaded faults =>
      obtain ⟨process, running, -⟩ := allowed
      exact inputs process running rfl
  | bound =>
      obtain ⟨process, running⟩ := allowed
      exact inputs process running rfl
  | polled round =>
      obtain ⟨process, -, running, -⟩ := allowed
      exact inputs process running rfl
  | received arrival =>
      obtain ⟨process, running, -⟩ := allowed
      exact inputs process running rfl
  | scraped now =>
      obtain ⟨process, running⟩ := allowed
      exact inputs process running rfl
  | killed => exact absurd goes.symm (Option.some_ne_none _)
  | killedInside round left =>
      obtain ⟨process, memory, running, loaded, -⟩ := allowed
      rw [Service.step, Service.interrupt, running, Option.bind_some, loaded] at goes
      exact absurd goes.symm (Option.some_ne_none _)
  | lostPower left =>
      obtain ⟨stopped, -⟩ := allowed
      rw [Service.step, stopped] at goes
      exact absurd goes.symm (Option.some_ne_none _)

/-- **Every process of the service follows `serve`.** -/
theorem follows_of_reachable (durable : Durable foreign path original)
    (reachable : (Service.machine foreign path envFilter original).Reachable service) :
    service.FollowsServer foreign path original := by
  have start : Service.FollowsServer foreign path original ⟨none, original, [], []⟩ :=
    fun _ running => absurd running.symm (Option.some_ne_none _)
  exact reachable.holds_within start fun state event reached allowed follows =>
    follows.step durable (sound_of_reachable durable reached) allowed

/-! ## Which clients the metrics name -/

/-- The site of a series is unknown, or that of a row of a known table. -/
def NamesKnown (foreign : Foreign) (path : PathBuf) (original : StateDir)
    (attempts : List Attempt) (labels : RequestLabels) : Prop :=
  (labels.location = "unknown" ∧ labels.hostname = "unknown") ∨
    ∃ (clients : Clients) (mac : Mac) (client : Client),
      Known foreign path original attempts clients ∧ clients.records[mac]? = some client ∧
        labels.location = client.location ∧ labels.hostname = client.hostname

/-- **The series of the service.** In every state that the service can reach, whatever
datagrams came in, whatever was downloaded and whichever calls failed, every series of the
requests of the running process names nobody or a client of a known table, and the sites of
the known tables bound the number of its series. -/
theorem series_of_service (durable : Durable foreign path original)
    (reachable : (Service.machine foreign path envFilter original).Reachable service)
    (running : service.process = some process) :
    (∀ labels ∈ process.traffic.requestLabels.series, labels = invalidLabels ∨
      Allowed labels ∧ NamesKnown foreign path original service.attempts labels) ∧
    (∀ sites : List (String × String), (∀ clients,
        Known foreign path original service.attempts clients →
          ∀ (mac : Mac) client, clients.records[mac]? = some client →
            (client.location, client.hostname) ∈ sites) →
      process.traffic.requestLabels.series.size ≤ 1 + 40 * (1 + sites.length)) := by
  obtain ⟨-, history, ran, -, known⟩ := follows_of_reachable durable reachable process running
  have traffic : process.traffic = (Server.run process.config history).traffic := by rw [ran]
  rw [traffic]
  refine ⟨fun labels member => ?_, fun sites listed => ?_⟩
  · rcases source_of_series member with invalid | ⟨allowed, nobody | named⟩
    · exact .inl invalid
    · exact .inr ⟨allowed, .inl nobody⟩
    · obtain ⟨clients, datagram, packet, client, ⟨older, suffix, -, active⟩, -, row, site⟩ := named
      have replaced := suffix.subset (.tail _ (replaced_of_snapshot active))
      exact .inr ⟨allowed, .inr ⟨clients, packet.mac, client, known clients replaced, row, site⟩⟩
  · exact size_series_le fun clients replaced => listed clients (known clients replaced)

/-! ## What the counters count -/

/-- Through a run of inputs a process follows `serve` on the datagrams of the run. -/
theorem Service.Sound.follows_run (calm : foreign.Calm) (durable : Durable foreign path original)
    {events : List ServiceEvent} {last : Service}
    (run : (Service.machine foreign path envFilter original).Run service events last)
    (sound : service.Sound foreign path envFilter original)
    (running : service.process = some process)
    (follows : process.FollowsServer foreign path original service.attempts datagrams)
    (inputs : ∀ event ∈ events, event.isInput = true) :
    ∃ after, last.process = some after ∧ after.config = process.config ∧
      after.FollowsServer foreign path original last.attempts
        ((events.filterMap (ServiceEvent.datagram process.config)).reverse ++ datagrams) := by
  induction run generalizing process datagrams with
  | nil => exact ⟨process, running, rfl, follows⟩
  | @cons state last event events allowed _ ih =>
      rw [List.forall_mem_cons] at inputs
      obtain ⟨middle, goes, -⟩ := sound.sane.goesOn calm inputs.1 allowed running
      obtain ⟨config, next⟩ := sound.follows_input durable running follows inputs.1 allowed goes
      obtain ⟨after, isAfter, same, done⟩ := ih (sound.step durable allowed) goes next inputs.2
      refine ⟨after, isAfter, same.trans config, ?_⟩
      rw [config] at done
      have order : (((event :: events).filterMap (ServiceEvent.datagram process.config)).reverse ++
          datagrams) = (events.filterMap (ServiceEvent.datagram process.config)).reverse ++
            ((event.datagram process.config).toList ++ datagrams) := by
        rw [List.filterMap_cons]
        cases event.datagram process.config with
        | none => rfl
        | some datagram =>
            rw [List.reverse_cons, List.append_assoc]
            rfl
      rw [order]
      exact done

/-- **The counters of the service.** From the start of a process, through any datagrams,
downloads, failing calls and scrapes: the process is where `serve` is after a history of
exactly these datagrams, with tables that the service knows. It has counted every one of
them as a request, and every request as unknown, mismatched, answered, failed or silently
dropped. -/
theorem counters_of_service (calm : foreign.Calm) (durable : Durable foreign path original)
    (reachable : (Service.machine foreign path envFilter original).Reachable service)
    {config : Config} {pid : ℕ}
    (allowed : service.Allows foreign path envFilter (.started config pid))
    {events : List ServiceEvent} {last : Service}
    (run : (Service.machine foreign path envFilter original).Run
      (service.step foreign path (.started config pid)) events last)
    (inputs : ∀ event ∈ events, event.isInput = true) :
    ∃ process history, last.process = some process ∧
      Server.run config history = ⟨process.snapshot, process.traffic, true⟩ ∧
      (history.filterMap ServerEvent.datagram).reverse =
        events.filterMap (ServiceEvent.datagram config) ∧
      (∀ clients, .replaced (some clients) ∈ history →
        Known foreign path original last.attempts clients) ∧
      process.traffic.requests = (events.filterMap (ServiceEvent.datagram config)).length ∧
      process.traffic.requests + (fates config history).countP Fate.isOmitted =
        process.traffic.unknown + process.traffic.bootModeMismatches +
          process.traffic.responses + process.traffic.errors +
            (fates config history).count .silent := by
  have startable : (Service.machine foreign path envFilter original).allows service
      (.started config pid) := allowed
  have sound := sound_of_reachable durable (reachable.step startable)
  have started : Process.FollowsServer foreign path original service.attempts []
      (.initial config pid) := .initial config pid
  obtain ⟨process, running, same, history, ran, brought, known⟩ :=
    sound.follows_run calm durable run rfl started inputs
  rw [show process.config = config from same] at ran
  rw [List.append_nil] at brought
  have alive : (Server.run config history).alive = true := by rw [ran]
  have traffic : process.traffic = (Server.run config history).traffic := by rw [ran]
  have accounts := accounts_run config history
  have requests : process.traffic.requests =
      (events.filterMap (ServiceEvent.datagram config)).length := by
    have length := congrArg List.length (map_handled alive)
    rw [brought, List.length_map, List.length_reverse] at length
    rw [traffic, accounts.requests, fates, List.length_map, length]
    rfl
  refine ⟨process, history, running, ran, ?_, known, requests, ?_⟩
  · rw [brought, List.reverse_reverse]
    rfl
  · rw [traffic]
    have never := List.count_eq_zero_of_not_mem (panicked_not_mem alive)
    have every := length_fates (fates config history)
    rw [accounts.requests, accounts.unknown, accounts.mismatches, accounts.responses,
      accounts.errors, every, never, Nat.add_zero]

end Series

/-! ## The plain run -/

/-- The two answered DISCOVERs of the plain run have one series each, with the labels of their
clients. -/
theorem series_of_served : ∃ process, servedService.process = some process ∧
    process.traffic.requestLabels.series.keys =
      [⟨"dc1", "host.name1", "os", "default", "discover"⟩,
        ⟨"dc1", "host.name2", "os", "default", "discover"⟩] ∧
    ∀ labels ∈ process.traffic.requestLabels.series, labels = invalidLabels ∨
      Allowed labels ∧ NamesKnown plainForeign shippedPath emptyDir servedService.attempts
        labels := by
  obtain ⟨-, -, series, -⟩ := plain_run
  obtain ⟨process, running, keys⟩ := Option.map_eq_some_iff.mp series
  exact ⟨process, running, keys, (series_of_service durable_emptyDir reachable_served running).1⟩

/-- The process has counted two requests. -/
theorem counters_of_served : ∃ process, servedService.process = some process ∧
    process.traffic.requests = 2 := by
  have inputs : ∀ event ∈ servedInputs, event.isInput = true :=
    List.forall_mem_cons.mpr ⟨rfl, List.forall_mem_cons.mpr ⟨rfl, List.forall_mem_cons.mpr ⟨rfl,
      List.forall_mem_cons.mpr ⟨rfl, List.forall_mem_singleton.mpr rfl⟩⟩⟩⟩
  obtain ⟨process, history, running, -, -, -, requests, -⟩ :=
    counters_of_service calm_plainForeign durable_emptyDir .initial allows_started run_served.1
      inputs
  exact ⟨process, running, requests⟩

end Macdack
