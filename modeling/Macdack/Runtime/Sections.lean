import Macdack.Runtime.Service

/-!
# Lock sections

What `run_sync` does in a turn is seen by the other tasks bit by bit: the table is set in one
lock section, its source and age in the next one, and the result of the turn after both. A
request of `/health` that comes in between sees some of it.

`Write` is one lock section or one counter. Loading the state file and a turn of the loop are
their writes, one after the other (`shared_load`, `shared_round`). A `Moment` is the service as
the other tasks see it, with the writes that are still to come. The table comes first. So
`serve`, which reads nothing else, sees a turn as one event, and the machine of moments follows
that of the service (`follows_service`). `Shown` is what holds of the status at every moment.
-/

set_option autoImplicit false

namespace Macdack

/-! ## Writes -/

/-- What one lock section of the synchronizer, or one of its counters, writes. -/
inductive Write where
  | snapshot (clients : Clients)
  | fromState
  | fromRemote (clock : ℕ)
  | stateReadErrors
  | stateWriteErrors
  | syncSuccess
  | syncErrors
  | finished (clock : ℕ)
  | lastError (text : String)

def Shared.write (shared : Shared) : Write → Shared
  | .snapshot clients => { shared with snapshot := some clients }
  | .fromState => { shared with status := { shared.status with source := some .state } }
  | .fromRemote clock => { shared with
      status := { shared.status with source := some .remote, dataSince := some clock } }
  | .stateReadErrors => { shared with stateReadErrors := shared.stateReadErrors + 1 }
  | .stateWriteErrors => { shared with stateWriteErrors := shared.stateWriteErrors + 1 }
  | .syncSuccess => { shared with syncSuccess := shared.syncSuccess + 1 }
  | .syncErrors => { shared with syncErrors := shared.syncErrors + 1 }
  | .finished clock => { shared with
      status := { shared.status with lastSuccess := some clock, lastError := none } }
  | .lastError text => { shared with status := { shared.status with lastError := some text } }

/-- The writes of `run_sync` for what it reads of the state file. -/
def loadWrites (foreign : Foreign) : Except IoError Bytes → List Write
  | .ok bytes =>
      match loadSaved foreign bytes with
      | .ok clients => [.snapshot clients, .fromState]
      | .error (.error chain) => [.stateReadErrors, .lastError (chain.headD "")]
      | .error .panic => []
  | .error .notFound => []
  | .error error => [.stateReadErrors, .lastError (foreign.ioText error)]

/-- The writes of `poll`, which are those of a new table, by the result of persisting it. -/
def pollWrites (foreign : Foreign) (memory : Memory) (round : Round) (result : Outcome Unit) :
    List Write :=
  match fetch foreign memory.cache round.answer with
  | .ok (some download) =>
      if memory.cache.body = some download.body then []
      else
        match decode foreign download.body, result with
        | .ok clients, .ok () => [.snapshot clients, .fromRemote round.activated]
        | .ok _, .error _ => [.stateWriteErrors]
        | .error _, _ => []
  | _ => []

/-- The writes of the loop for the result of a poll. -/
def recordWrites (clock : ℕ) : Outcome Unit → List Write
  | .ok () => [.syncSuccess, .finished clock]
  | .error (.error chain) => [.syncErrors, .lastError (": ".intercalate chain)]
  | .error .panic => []

/-- The writes of one turn of the loop. -/
def turnWrites (foreign : Foreign) (memory : Memory) (round : Round) (result : Outcome Unit) :
    List Write :=
  pollWrites foreign memory round result ++ recordWrites round.finished result

section Writes

variable {foreign : Foreign} {path : PathBuf} {round : Round} {memory polled : Memory}
  {before after : StateDir} {result : Outcome Unit}

/-- **Loading** is its writes. -/
theorem shared_load (foreign : Foreign) (memory : Memory) (saved : Except IoError Bytes) :
    (load foreign memory saved).shared =
      (loadWrites foreign saved).foldl Shared.write memory.shared := by
  rw [load.eq_def, loadWrites.eq_def]
  cases saved with
  | ok bytes =>
      simp only
      match loadSaved foreign bytes with
      | .ok clients => rfl
      | .error (.error chain) => rfl
      | .error .panic => rfl
  | error error => cases error <;> rfl

/-- Recording a result is its writes. -/
theorem shared_record (memory : Memory) (clock : ℕ) (result : Outcome Unit) :
    (memory.record clock result).shared =
      (recordWrites clock result).foldl Shared.write memory.shared := by
  match result with
  | .ok () => rfl
  | .error (.error chain) => rfl
  | .error .panic => rfl

theorem pollWrites_of_brings {download : Download} {clients : Clients}
    (brings : Brings foreign memory round.answer download clients) :
    pollWrites foreign memory round (.ok ()) = [.snapshot clients, .fromRemote round.activated] ∧
      ∀ stop, pollWrites foreign memory round (.error stop) = [.stateWriteErrors] := by
  have writes : ∀ result, pollWrites foreign memory round result =
      match result with
      | .ok () => [.snapshot clients, .fromRemote round.activated]
      | .error _ => [.stateWriteErrors] := by
    intro result
    rw [pollWrites, brings.fetched]
    simp only [if_neg brings.new, brings.decoded]
    cases result <;> rfl
  exact ⟨writes _, fun _ => writes _⟩

theorem pollWrites_of_rejects {stop : Stop} (rejects : Rejects foreign memory round.answer stop)
    (result : Outcome Unit) : pollWrites foreign memory round result = [] := by
  cases rejects with
  | fetch refused => rw [pollWrites, refused]
  | decode fetched new refused =>
      rw [pollWrites, fetched]
      simp only [if_neg new, refused]

theorem pollWrites_of_unchanged (fetched : fetch foreign memory.cache round.answer = .ok none)
    (result : Outcome Unit) : pollWrites foreign memory round result = [] := by
  rw [pollWrites, fetched]

theorem pollWrites_of_same {download : Download}
    (fetched : fetch foreign memory.cache round.answer = .ok (some download))
    (cached : memory.cache.body = some download.body) (result : Outcome Unit) :
    pollWrites foreign memory round result = [] := by
  rw [pollWrites, fetched]
  exact if_pos cached

/-- A poll is its writes. -/
theorem shared_polled (ends : Polled foreign path round memory before result polled after) :
    polled.shared =
      (pollWrites foreign memory round result).foldl Shared.write memory.shared := by
  cases ends with
  | rejected rejects => rw [pollWrites_of_rejects rejects, List.foldl_nil]
  | unchanged fetched => rw [pollWrites_of_unchanged fetched, List.foldl_nil]
  | same fetched cached => rw [pollWrites_of_same fetched cached, List.foldl_nil]
  | @unsaved download clients stop sequence after brings =>
      obtain ⟨other, failed⟩ := Outcome.context_error "save client snapshot" stop
      rw [failed, (pollWrites_of_brings brings).2]
      rfl
  | saved sequence brings =>
      rw [(pollWrites_of_brings brings).1]
      rfl

/-- **A turn of the loop** is its writes. -/
theorem shared_round (foreign : Foreign) (path : PathBuf) (system : System) (round : Round) :
    (system.round foreign path round).2.memory.shared =
      (turnWrites foreign system.memory round (system.round foreign path round).1).foldl
        Shared.write system.memory.shared := by
  obtain ⟨result, memory, dir, turn, ends⟩ := round_polled foreign path system round
  rw [turn, turnWrites, List.foldl_append, ← shared_polled ends]
  exact shared_record memory round.finished result

end Writes

/-! ## Moments -/

/-- The process with other values of what it shares. -/
def Process.mapShared (change : Shared → Shared) (process : Process) : Process :=
  { process with
    memory := process.memory.map fun memory => { memory with shared := change memory.shared } }

def Service.mapShared (change : Shared → Shared) (service : Service) : Service :=
  { service with process := service.process.map (Process.mapShared change) }

/-- The service as the other tasks see it, and what the synchronizer has yet to write. -/
structure Moment where
  service : Service
  pending : List Write

inductive MomentEvent where
  | service (event : ServiceEvent)
  | wrote

/-- The events that give a process its memory. -/
def ServiceEvent.setsMemory : ServiceEvent → Bool
  | .loaded _ | .polled _ => true
  | _ => false

/-- The service of an event of a moment. -/
def MomentEvent.events : MomentEvent → List ServiceEvent
  | .service event => [event]
  | .wrote => []

/-- The inputs of a process. -/
def MomentEvent.isInput : MomentEvent → Bool
  | .service event => event.isInput
  | .wrote => true

namespace Moment

/-- The service when everything is written. -/
def complete (moment : Moment) : Service :=
  moment.service.mapShared fun shared => moment.pending.foldl Shared.write shared

/-- A load or a turn that leads to this service shows the first of its writes. -/
def opening (service : Service) (before : Shared) (writes : List Write) : Moment where
  service := service.mapShared fun _ => (writes.take 1).foldl Shared.write before
  pending := writes.drop 1

variable (foreign : Foreign) (path : PathBuf)

def load (moment : Moment) (faults : Faults) : Moment :=
  match moment.service.process with
  | none => moment
  | some process =>
      opening (moment.service.load foreign path faults) (Memory.initial process.pid).shared
        (loadWrites foreign (savedFile path faults moment.service.dir))

def poll (moment : Moment) (round : Round) : Moment :=
  match moment.service.process.bind Process.memory with
  | none => moment
  | some memory =>
      opening (moment.service.poll foreign path round) memory.shared (turnWrites foreign memory
        round (System.round foreign path ⟨memory, moment.service.dir⟩ round).1)

/-- The next lock section. -/
def write (moment : Moment) : Moment :=
  match moment.pending with
  | [] => moment
  | write :: rest => ⟨moment.service.mapShared fun shared => shared.write write, rest⟩

/-- The last lock sections of a turn are lost when the process ends. -/
def step (moment : Moment) : MomentEvent → Moment
  | .service (.loaded faults) => moment.load foreign path faults
  | .service (.polled round) => moment.poll foreign path round
  | .service (.started config pid) => ⟨moment.service.step foreign path (.started config pid), []⟩
  | .service .killed => ⟨moment.service.step foreign path .killed, []⟩
  | .service event => ⟨moment.service.step foreign path event, moment.pending⟩
  | .wrote => moment.write

/-- The synchronizer makes its turns one after the other. -/
def Allows (envFilter : String → Outcome PUnit) (moment : Moment) : MomentEvent → Prop
  | .service event => moment.service.Allows foreign path envFilter event ∧
      match event with
      | .loaded _ | .polled _ | .killedInside _ _ => moment.pending = []
      | _ => True
  | .wrote => moment.pending ≠ []

/-- The machine on a directory where nothing has run. -/
def machine (envFilter : String → Outcome PUnit) (original : StateDir) :
    Machine Moment MomentEvent where
  initial := ⟨⟨none, original, [], []⟩, []⟩
  allows := Allows foreign path envFilter
  step := step foreign path

end Moment

section Follows

variable {foreign : Foreign} {path : PathBuf} {envFilter : String → Outcome PUnit}
  {original : StateDir} {service : Service} {process : Process} {moment : Moment}

/-! ## Moments follow the service -/

theorem Process.mapShared_mapShared (process : Process) (first second : Shared → Shared) :
    (process.mapShared first).mapShared second = process.mapShared (second ∘ first) := by
  rw [mapShared, mapShared, mapShared, Option.map_map]
  rfl

theorem Service.mapShared_mapShared (service : Service) (first second : Shared → Shared) :
    (service.mapShared first).mapShared second = service.mapShared (second ∘ first) := by
  rw [mapShared, mapShared, mapShared, Option.map_map]
  congr 2
  funext process
  exact process.mapShared_mapShared first second

theorem Process.mapShared_id (process : Process) : process.mapShared id = process := by
  rw [mapShared, show (fun memory : Memory => { memory with shared := id memory.shared }) = id from
    rfl, Option.map_id_apply]

theorem Service.mapShared_id (service : Service) : service.mapShared id = service := by
  rw [mapShared, show Process.mapShared id = id from funext Process.mapShared_id,
    Option.map_id_apply]

/-- What is shared is set to what it is. -/
theorem Service.mapShared_same {shared : Shared} (same : ∀ process memory,
    service.process = some process → process.memory = some memory → memory.shared = shared) :
    service.mapShared (fun _ => shared) = service := by
  obtain ⟨process, dir, attempts, sent⟩ := service
  cases process with
  | none => rfl
  | some process =>
      obtain ⟨config, pid, memory, traffic, listening⟩ := process
      cases memory with
      | none => rfl
      | some memory =>
          rw [← same _ memory rfl rfl]
          rfl

theorem Moment.complete_of_rest (service : Service) : Moment.complete ⟨service, []⟩ = service :=
  service.mapShared_id

/-- A load or a turn leads to the service that its writes make. -/
theorem Moment.complete_opening {before : Shared} {writes : List Write}
    (written : ∀ process memory, service.process = some process → process.memory = some memory →
      memory.shared = writes.foldl Shared.write before) :
    (Moment.opening service before writes).complete = service := by
  have whole : (writes.drop 1).foldl Shared.write ((writes.take 1).foldl Shared.write before) =
      writes.foldl Shared.write before := by
    rw [← List.foldl_append, List.take_append_drop]
  rw [complete, opening, Service.mapShared_mapShared, show
    (fun shared => (writes.drop 1).foldl Shared.write shared) ∘
      (fun _ => (writes.take 1).foldl Shared.write before) =
        fun _ => writes.foldl Shared.write before from funext fun _ => whole]
  exact Service.mapShared_same written

theorem Moment.complete_load (faults : Faults) (running : moment.service.process = some process) :
    (moment.load foreign path faults).complete = moment.service.load foreign path faults := by
  rw [Moment.load, running]
  refine Moment.complete_opening fun after memory isAfter loaded => ?_
  rcases Service.load_cases faults running rfl with ⟨-, ended⟩ | ⟨-, goes⟩
  · rw [ended] at isAfter
    cases isAfter
  · rw [goes] at isAfter
    obtain rfl := Option.some.inj isAfter
    rw [← Option.some.inj loaded, memory_boot, shared_load]

theorem Moment.complete_poll (round : Round) {memory : Memory}
    (running : moment.service.process = some process) (loaded : process.memory = some memory) :
    (moment.poll foreign path round).complete = moment.service.poll foreign path round := by
  rw [Moment.poll, running, Option.bind_some, loaded]
  refine Moment.complete_opening fun after next isAfter isNext => ?_
  rcases Service.poll_cases round running loaded rfl with ⟨-, ended⟩ | ⟨-, goes⟩
  · rw [ended] at isAfter
    cases isAfter
  · rw [goes] at isAfter
    obtain rfl := Option.some.inj isAfter
    rw [← Option.some.inj isNext, shared_round]

/-- Writing what is pending does not change what it comes to. -/
theorem Moment.complete_write (moment : Moment) : moment.write.complete = moment.complete := by
  obtain ⟨service, pending⟩ := moment
  cases pending with
  | nil => rfl
  | cons write rest => exact service.mapShared_mapShared _ _

theorem Process.snapshot_mapShared {change : Shared → Shared}
    (keeps : ∀ shared, (change shared).snapshot = shared.snapshot) (process : Process) :
    (process.mapShared change).snapshot = process.snapshot := by
  rw [snapshot, snapshot, mapShared]
  cases process.memory with
  | none => rfl
  | some memory => exact keeps memory.shared

/-- A change that leaves the table leaves what `serve` does. -/
theorem Service.receive_mapShared {change : Shared → Shared}
    (keeps : ∀ shared, (change shared).snapshot = shared.snapshot) (service : Service)
    (arrival : Arrival) :
    (service.mapShared change).receive arrival = (service.receive arrival).mapShared change := by
  cases running : service.process with
  | none =>
      rw [receive, receive, mapShared, running]
      simp only [Option.map_none]
      rw [mapShared, running]
      rfl
  | some process =>
      have mapped : (service.mapShared change).process = some (process.mapShared change) := by
        rw [mapShared, running]
        rfl
      have isServed : serveDatagram (process.mapShared change).config
          (process.mapShared change).snapshot (arrival.datagram (process.mapShared change).config)
          (process.mapShared change).traffic = serveDatagram process.config process.snapshot
            (arrival.datagram process.config) process.traffic := by
        rw [Process.snapshot_mapShared keeps]
        rfl
      rcases Service.receive_cases arrival running rfl with ⟨stop, failed, ended⟩ |
        ⟨answer, given, goes⟩
      · rcases Service.receive_cases arrival mapped isServed with ⟨-, -, alike⟩ | ⟨_, other, -⟩
        · rw [alike, ended]
          rfl
        · rw [failed] at other
          cases other
      · rcases Service.receive_cases arrival mapped isServed with ⟨_, other, -⟩ | ⟨_, same, alike⟩
        · rw [given] at other
          cases other
        · obtain rfl := Except.ok.inj (given.symm.trans same)
          rw [alike, goes]
          rfl

/-- No table is still to be set. -/
def Moment.TableSet (moment : Moment) : Prop :=
  ∀ clients, Write.snapshot clients ∉ moment.pending

/-- A write that is not a table leaves it. -/
theorem Shared.snapshot_write {write : Write} (other : ∀ clients, write ≠ .snapshot clients)
    (shared : Shared) : (shared.write write).snapshot = shared.snapshot := by
  cases write with
  | snapshot clients => exact absurd rfl (other clients)
  | fromState | fromRemote | stateReadErrors | stateWriteErrors | syncSuccess | syncErrors
  | finished | lastError => rfl

/-- What is pending leaves the table. -/
theorem Moment.TableSet.keeps (set : moment.TableSet) (shared : Shared) :
    (moment.pending.foldl Shared.write shared).snapshot = shared.snapshot := by
  obtain ⟨service, pending⟩ := moment
  change (pending.foldl Shared.write shared).snapshot = shared.snapshot
  change ∀ clients, Write.snapshot clients ∉ pending at set
  induction pending generalizing shared with
  | nil => rfl
  | cons write rest ih =>
      rw [List.foldl_cons, ih _ (fun clients member => set clients (.tail _ member))]
      exact Shared.snapshot_write (fun clients same => set clients (same ▸ .head _)) shared

/-- The process when everything is written: the one that is seen, but for what it shares. -/
theorem Moment.process_complete (moment : Moment) : moment.complete.process =
    moment.service.process.map (Process.mapShared fun shared =>
      moment.pending.foldl Shared.write shared) := rfl

/-- An event that can happen at a moment can happen when everything is written. -/
theorem Moment.allows_complete {event : ServiceEvent}
    (allowed : moment.Allows foreign path envFilter (.service event)) :
    moment.complete.Allows foreign path envFilter event := by
  obtain ⟨possible, rest⟩ := allowed
  obtain ⟨service, pending⟩ := moment
  cases event with
  | started config pid =>
      obtain ⟨stopped, named⟩ := possible
      exact ⟨by rw [process_complete, stopped]; rfl, named⟩
  | loaded | polled | killedInside =>
      obtain rfl : pending = [] := rest
      rw [complete_of_rest]
      exact possible
  | bound | scraped | killed =>
      obtain ⟨process, running⟩ := possible
      exact ⟨_, by rw [process_complete, running]; rfl⟩
  | received arrival =>
      obtain ⟨process, running, listening⟩ := possible
      exact ⟨process.mapShared _, by rw [process_complete, running]; rfl, listening⟩
  | lostPower left =>
      obtain ⟨stopped, crash⟩ := possible
      exact ⟨by rw [process_complete, stopped]; rfl, crash⟩

/-- **An event of a moment** is that of the service when everything is written. -/
theorem Moment.complete_step (set : moment.TableSet) {event : ServiceEvent}
    (allowed : moment.Allows foreign path envFilter (.service event)) :
    (moment.step foreign path (.service event)).complete =
      moment.complete.step foreign path event := by
  obtain ⟨possible, rest⟩ := allowed
  cases event with
  | started config pid =>
      rw [Moment.step, complete_of_rest]
      rfl
  | loaded faults =>
      obtain ⟨process, running, -⟩ := possible
      obtain ⟨service, pending⟩ := moment
      obtain rfl : pending = [] := rest
      rw [complete_of_rest]
      exact complete_load faults running
  | polled round =>
      obtain ⟨process, memory, running, loaded⟩ := possible
      obtain ⟨service, pending⟩ := moment
      obtain rfl : pending = [] := rest
      rw [complete_of_rest]
      exact complete_poll round running loaded
  | received arrival => exact (Service.receive_mapShared set.keeps moment.service arrival).symm
  | bound =>
      obtain ⟨process, running⟩ := possible
      change Service.mapShared _ (moment.service.step foreign path .bound) = _
      rw [Service.step, Service.step, process_complete, Service.mapShared, running]
      rfl
  | scraped now =>
      obtain ⟨process, running⟩ := possible
      change Service.mapShared _ (moment.service.step foreign path (.scraped now)) = _
      rw [Service.step, Service.step, process_complete, Service.mapShared, running]
      rfl
  | killed =>
      rw [Moment.step, complete_of_rest]
      rfl
  | killedInside round left =>
      obtain ⟨service, pending⟩ := moment
      obtain rfl : pending = [] := rest
      rw [complete_of_rest]
      exact complete_of_rest _
  | lostPower left => rfl

/-! ## What the status says between turns -/

/-- The status of a process that has read its state file is one of `status_truthful`. -/
def Service.Told (foreign : Foreign) (service : Service) : Prop :=
  ∀ process memory, service.process = some process → process.memory = some memory →
    ∃ saved polls, Truthful foreign saved polls memory

theorem Service.Told.of_stopped {dir : StateDir} {attempts : List Attempt} {log : List Sent} :
    Service.Told foreign ⟨none, dir, attempts, log⟩ :=
  fun _ _ running => absurd running.symm (Option.some_ne_none _)

/-- It depends on the memory. -/
theorem Service.Told.congr {before after : Service} (told : before.Told foreign)
    (same : ∀ memory, after.process.bind Process.memory = some memory →
      before.process.bind Process.memory = some memory) : after.Told foreign := by
  intro process memory running loaded
  have held : after.process.bind Process.memory = some memory := by
    rw [running, Option.bind_some, loaded]
  obtain ⟨earlier, isEarlier, hadLoaded⟩ := Option.bind_eq_some_iff.mp (same memory held)
  exact told earlier memory isEarlier hadLoaded

theorem Service.Told.load (faults : Faults) (running : service.process = some process) :
    (service.load foreign path faults).Told foreign := by
  rcases Service.load_cases faults running rfl with ⟨-, ended⟩ | ⟨returned, goes⟩
  · rw [ended]
    exact .of_stopped
  · rw [goes]
    intro after memory isAfter loaded
    rw [← Option.some.inj isAfter, Option.some.injEq] at loaded
    rw [← loaded, memory_boot]
    refine ⟨_, _, truthful_load foreign process.pid fun bytes saved panicked => ?_⟩
    rw [saved, loadPanics, panicked] at returned
    cases returned

theorem Service.Told.poll (told : service.Told foreign) (round : Round) {memory : Memory}
    (running : service.process = some process) (loaded : process.memory = some memory) :
    (service.poll foreign path round).Told foreign := by
  obtain ⟨result, polled, dir, turn, ends⟩ := round_polled foreign path ⟨memory, service.dir⟩ round
  rcases Service.poll_cases round running loaded turn with ⟨-, ended⟩ | ⟨returned, goes⟩
  · rw [ended]
    exact .of_stopped
  · rw [goes]
    intro after next isAfter isNext
    rw [← Option.some.inj isAfter, Option.some.injEq] at isNext
    obtain ⟨saved, polls, truthful⟩ := told process memory running loaded
    rw [← isNext]
    refine ⟨saved, _, truthful.of_polled ends ?_⟩
    rintro rfl
    cases returned

/-- An event that is no load and no turn gives the process no memory. -/
theorem Service.memory_of_step {event : ServiceEvent} (other : event.setsMemory = false)
    (allowed : service.Allows foreign path envFilter event) {memory : Memory}
    (held : (service.step foreign path event).process.bind Process.memory = some memory) :
    service.process.bind Process.memory = some memory := by
  cases event with
  | started config pid => cases held
  | loaded | polled => cases other
  | bound =>
      obtain ⟨process, running⟩ := allowed
      rw [Service.step, running] at held
      rw [running]
      exact held
  | received arrival =>
      obtain ⟨process, running, -⟩ := allowed
      rw [Service.step] at held
      rcases Service.receive_cases arrival running rfl with ⟨stop, -, ended⟩ | ⟨answer, -, goes⟩
      · rw [ended] at held
        cases held
      · rw [goes] at held
        rw [running]
        exact held
  | scraped now =>
      obtain ⟨process, running⟩ := allowed
      rw [Service.step, running] at held
      rw [running]
      exact held
  | killed => cases held
  | killedInside round left =>
      obtain ⟨process, earlier, running, loaded, -⟩ := allowed
      rw [Service.step, Service.interrupt, running, Option.bind_some, loaded] at held
      cases held
  | lostPower left => exact held

/-- **Every event** keeps it so. -/
theorem Service.Told.step (told : service.Told foreign) {event : ServiceEvent}
    (allowed : service.Allows foreign path envFilter event) :
    (service.step foreign path event).Told foreign := by
  cases event with
  | loaded faults =>
      obtain ⟨process, running, -⟩ := allowed
      exact .load faults running
  | polled round =>
      obtain ⟨process, memory, running, loaded⟩ := allowed
      exact told.poll round running loaded
  | started | bound | received | scraped | killed | killedInside | lostPower =>
      exact told.congr fun memory held => Service.memory_of_step rfl allowed held

theorem told_of_reachable
    (reachable : (Service.machine foreign path envFilter original).Reachable service) :
    service.Told foreign :=
  reachable.holds .of_stopped fun _ _ allowed told => told.step allowed

/-! ## What the status says at every moment -/

/-- The age of the data is known for a remote table, and there is a time of success for a remote
table only. -/
structure Shared.Dated (shared : Shared) : Prop where
  since : shared.status.source = some .remote ↔ shared.status.dataSince.isSome
  success : shared.status.lastSuccess.isSome → shared.status.source = some .remote

/-- The write that follows that of a table. -/
def Write.givesSource : Write → Bool
  | .fromState | .fromRemote _ => true
  | _ => false

/-- A write that concerns neither the table nor its source. A time of success is written for a
remote table. -/
def Write.Plain (shared : Shared) : Write → Prop
  | .snapshot _ | .fromState | .fromRemote _ => False
  | .finished _ => shared.status.source = some .remote
  | _ => True

/-- What is shared, and what is pending. A source is known exactly of a table, except that it
is the next thing to be written after one. -/
inductive Shown : Shared → List Write → Prop where
  | rest {shared : Shared} {pending : List Write} :
      (shared.status.source.isSome ↔ shared.snapshot.isSome) → shared.Dated →
        (∀ write ∈ pending, write.Plain shared) → Shown shared pending
  | opened {shared : Shared} {write : Write} {pending : List Write} : shared.snapshot.isSome →
      shared.Dated → write.givesSource = true → Shown (shared.write write) pending →
        Shown shared (write :: pending)

namespace Shown

variable {shared : Shared} {write : Write} {pending : List Write}

theorem dated (shown : Shown shared pending) : shared.Dated := by
  cases shown with
  | rest _ dated _ => exact dated
  | opened _ dated _ _ => exact dated

theorem active (shown : Shown shared pending) (source : shared.status.source.isSome) :
    shared.snapshot.isSome := by
  cases shown with
  | rest same _ _ => exact same.mp source
  | opened active _ _ _ => exact active

/-- A table has its source, or gets it with the next write. -/
theorem source (shown : Shown shared pending) (active : shared.snapshot.isSome) :
    shared.status.source.isSome ∨
      ∃ write rest, pending = write :: rest ∧ write.givesSource = true := by
  cases shown with
  | rest same _ _ => exact .inl (same.mpr active)
  | opened _ _ gives _ => exact .inr ⟨_, _, rfl, gives⟩

/-- No table is pending. -/
theorem snapshot_notMem (shown : Shown shared pending) (clients : Clients) :
    Write.snapshot clients ∉ pending := by
  induction shown with
  | rest _ _ plain => exact fun member => plain _ member
  | opened _ _ gives _ ih =>
      intro member
      rcases List.mem_cons.mp member with rfl | later
      · cases gives
      · exact ih later

/-- A plain write keeps what is said of the table. -/
theorem write_rest (same : shared.status.source.isSome ↔ shared.snapshot.isSome)
    (dated : shared.Dated) (plain : ∀ other ∈ write :: pending, other.Plain shared) :
    Shown (shared.write write) pending := by
  have isPlain := plain write (.head _)
  have later : ∀ other ∈ pending, other.Plain shared :=
    fun other member => plain other (.tail _ member)
  cases write with
  | snapshot clients => exact isPlain.elim
  | fromState => exact isPlain.elim
  | fromRemote clock => exact isPlain.elim
  | finished clock => exact .rest same ⟨dated.since, fun _ => isPlain⟩ later
  | lastError text => exact .rest same ⟨dated.since, dated.success⟩ later
  | stateReadErrors => exact .rest same ⟨dated.since, dated.success⟩ later
  | stateWriteErrors => exact .rest same ⟨dated.since, dated.success⟩ later
  | syncSuccess => exact .rest same ⟨dated.since, dated.success⟩ later
  | syncErrors => exact .rest same ⟨dated.since, dated.success⟩ later

/-- **Every write** keeps it. -/
theorem next (shown : Shown shared (write :: pending)) : Shown (shared.write write) pending := by
  cases shown with
  | rest same dated plain => exact write_rest same dated plain
  | opened _ _ _ later => exact later

/-- Without a table and without a turn. -/
theorem initial (pid : ℕ) : Shown (Memory.initial pid).shared [] :=
  .rest Iff.rfl ⟨iff_of_false nofun nofun, nofun⟩ nofun

/-- The first write of a list is shown. -/
theorem opening {writes : List Write} (shown : Shown shared writes) :
    Shown ((writes.take 1).foldl Shared.write shared) (writes.drop 1) := by
  cases writes with
  | nil => exact shown
  | cons write rest => exact shown.next

end Shown

/-- **Loading** shows a table, and then its source. -/
theorem shown_load (foreign : Foreign) (pid : ℕ) (saved : Except IoError Bytes) :
    Shown (((loadWrites foreign saved).take 1).foldl Shared.write (Memory.initial pid).shared)
      ((loadWrites foreign saved).drop 1) := by
  have dated : (Memory.initial pid).shared.Dated := (Shown.initial pid).dated
  have failed : ∀ text, Shown (Memory.initial pid).shared [.stateReadErrors, .lastError text] := by
    intro text
    refine .rest Iff.rfl dated ?_
    simp [Write.Plain]
  rw [loadWrites.eq_def]
  cases saved with
  | ok bytes =>
      simp only
      match loadSaved foreign bytes with
      | .ok clients =>
          have notRemote : some Source.state ≠ some .remote := by decide
          refine .opened rfl ⟨dated.since, dated.success⟩ rfl (.rest (iff_of_true rfl rfl) ?_ nofun)
          exact ⟨iff_of_false notRemote nofun, nofun⟩
      | .error (.error chain) => exact (failed _).opening
      | .error .panic => exact .initial pid
  | error error =>
      cases error with
      | notFound => exact .initial pid
      | alreadyExists | isADirectory | badHandle | os => exact (failed _).opening

/-- The result of a poll is plain, when a success means a remote table. -/
theorem plain_recordWrites {shared : Shared} {result : Outcome Unit}
    (remote : result = .ok () → shared.status.source = some .remote) (clock : ℕ) :
    ∀ write ∈ recordWrites clock result, write.Plain shared := by
  match result with
  | .ok () => exact List.forall_mem_cons.mpr ⟨trivial, List.forall_mem_singleton.mpr (remote rfl)⟩
  | .error (.error chain) =>
      exact List.forall_mem_cons.mpr ⟨trivial, List.forall_mem_singleton.mpr trivial⟩
  | .error .panic => exact nofun

/-- **A turn** shows a table, and then its source. -/
theorem shown_turn {round : Round} {memory polled : Memory} {before after : StateDir}
    {result : Outcome Unit} {saved : Except IoError Bytes} {polls : List FinishedPoll}
    (truthful : Truthful foreign saved polls memory)
    (ends : Polled foreign path round memory before result polled after) :
    Shown (((turnWrites foreign memory round result).take 1).foldl Shared.write memory.shared)
      ((turnWrites foreign memory round result).drop 1) := by
  have dated : memory.shared.Dated := ⟨truthful.since, truthful.success⟩
  have downloaded : memory.cache.body.isSome → memory.shared.status.source = some .remote :=
    truthful.cached.mpr
  have quiet : ∀ other : Outcome Unit,
      (other = .ok () → memory.shared.status.source = some .remote) →
        Shown memory.shared (recordWrites round.finished other) :=
    fun other remote => .rest truthful.source dated (plain_recordWrites remote round.finished)
  cases ends with
  | rejected rejects =>
      rw [turnWrites, pollWrites_of_rejects rejects, List.nil_append]
      exact (quiet (.error _) nofun).opening
  | unchanged fetched =>
      obtain ⟨-, body, cached⟩ := unchanged_of_fetch fetched
      rw [turnWrites, pollWrites_of_unchanged fetched, List.nil_append]
      exact (quiet _ fun _ => downloaded (Option.isSome_iff_exists.mpr ⟨body, cached⟩)).opening
  | same fetched cached =>
      rw [turnWrites, pollWrites_of_same fetched cached, List.nil_append]
      exact (quiet _ fun _ => downloaded (Option.isSome_iff_exists.mpr ⟨_, cached⟩)).opening
  | @unsaved download clients stop sequence after brings =>
      obtain ⟨other, failed⟩ := Outcome.context_error "save client snapshot" stop
      rw [failed, turnWrites, (pollWrites_of_brings brings).2]
      have never : (.error other : Outcome Unit) = .ok () →
          memory.shared.status.source = some .remote := nofun
      refine Shown.opening (.rest truthful.source dated (List.forall_mem_cons.mpr ⟨trivial, ?_⟩))
      exact plain_recordWrites never round.finished
  | saved sequence brings =>
      rw [turnWrites, (pollWrites_of_brings brings).1]
      refine .opened rfl ⟨dated.since, dated.success⟩ rfl (.rest (iff_of_true rfl rfl)
        ⟨iff_of_true rfl rfl, fun _ => rfl⟩ ?_)
      exact plain_recordWrites (fun _ => rfl) round.finished

/-! ## Every moment -/

/-- What the process shares is shown. -/
def Moment.Shows (moment : Moment) : Prop :=
  ∃ shared, Shown shared moment.pending ∧ ∀ process memory,
    moment.service.process = some process → process.memory = some memory → memory.shared = shared

/-- Nothing is pending when no process runs. -/
theorem Moment.shows_of_stopped (stopped : service.process.bind Process.memory = none) :
    Moment.Shows ⟨service, []⟩ := by
  refine ⟨_, .initial 0, fun process memory running loaded => ?_⟩
  rw [show service.process = some process from running, Option.bind_some, loaded] at stopped
  cases stopped

/-- It depends on the memory. -/
theorem Moment.Shows.congr (shows : moment.Shows)
    (same : ∀ memory, service.process.bind Process.memory = some memory →
      moment.service.process.bind Process.memory = some memory) :
    Moment.Shows ⟨service, moment.pending⟩ := by
  obtain ⟨shared, shown, isShared⟩ := shows
  refine ⟨shared, shown, fun process memory running loaded => ?_⟩
  have held : service.process.bind Process.memory = some memory := by
    rw [show service.process = some process from running, Option.bind_some, loaded]
  obtain ⟨earlier, isEarlier, hadLoaded⟩ := Option.bind_eq_some_iff.mp (same memory held)
  exact isShared earlier memory isEarlier hadLoaded

/-- A load or a turn that opens shows what its first write shows. -/
theorem Moment.shows_opening {before : Shared} {writes : List Write}
    (shown : Shown ((writes.take 1).foldl Shared.write before) (writes.drop 1)) :
    (Moment.opening service before writes).Shows := by
  refine ⟨_, shown, fun process memory running loaded => ?_⟩
  obtain ⟨earlier, -, rfl⟩ := Option.map_eq_some_iff.mp running
  obtain ⟨held, -, rfl⟩ := Option.map_eq_some_iff.mp loaded
  rfl

theorem Moment.Shows.write (shows : moment.Shows) : moment.write.Shows := by
  obtain ⟨service, pending⟩ := moment
  cases pending with
  | nil => exact shows
  | cons write rest =>
      obtain ⟨shared, shown, isShared⟩ := shows
      refine ⟨_, shown.next, fun process memory running loaded => ?_⟩
      obtain ⟨earlier, isEarlier, rfl⟩ := Option.map_eq_some_iff.mp running
      obtain ⟨held, hadLoaded, rfl⟩ := Option.map_eq_some_iff.mp loaded
      rw [← isShared earlier held isEarlier hadLoaded]

/-- What is shown has its table set. -/
theorem Moment.Shows.tableSet (shows : moment.Shows) : moment.TableSet := by
  obtain ⟨shared, shown, -⟩ := shows
  exact shown.snapshot_notMem

/-- **Every event** keeps what is shown. -/
theorem Moment.Shows.step (shows : moment.Shows) (told : moment.complete.Told foreign)
    {event : MomentEvent} (allowed : moment.Allows foreign path envFilter event) :
    (moment.step foreign path event).Shows := by
  cases event with
  | wrote => exact shows.write
  | service event =>
      obtain ⟨possible, rest⟩ := allowed
      cases event with
      | started | killed => exact shows_of_stopped rfl
      | loaded faults =>
          obtain ⟨process, running, -⟩ := possible
          rw [Moment.step, Moment.load, running]
          exact shows_opening (shown_load foreign process.pid _)
      | polled round =>
          obtain ⟨process, memory, running, loaded⟩ := possible
          obtain ⟨service, pending⟩ := moment
          obtain rfl : pending = [] := rest
          rw [complete_of_rest] at told
          obtain ⟨saved, polls, truthful⟩ := told process memory running loaded
          obtain ⟨result, polled, dir, turn, ends⟩ :=
            round_polled foreign path ⟨memory, service.dir⟩ round
          rw [Moment.step, Moment.poll, running, Option.bind_some, loaded]
          refine shows_opening ?_
          rw [turn]
          exact shown_turn truthful ends
      | bound | received | scraped | killedInside | lostPower =>
          exact shows.congr fun memory held => Service.memory_of_step rfl possible held

/-- **Moments follow the service.** Every run of moments is a run of the service, where a load
and a turn are one event when their first write is seen. -/
theorem follows_service :
    (Moment.machine foreign path envFilter original).Follows
      (Service.machine foreign path envFilter original) MomentEvent.events
      fun moment service => service = moment.complete ∧
        (Service.machine foreign path envFilter original).Reachable service ∧ moment.Shows := by
  rintro moment event _ allowed ⟨rfl, reachable, shows⟩
  have next := shows.step (told_of_reachable reachable) allowed
  cases event with
  | wrote => exact ⟨_, .nil _, moment.complete_write.symm, reachable, next⟩
  | service event =>
      have possible := Moment.allows_complete allowed
      exact ⟨_, .cons possible (.nil _), (Moment.complete_step shows.tableSet allowed).symm,
        reachable.step possible, next⟩

/-- **What holds at every moment**: the service when everything is written can be reached, and
what is shown is as the writes make it. -/
theorem complete_of_reachable
    (reachable : (Moment.machine foreign path envFilter original).Reachable moment) :
    (Service.machine foreign path envFilter original).Reachable moment.complete ∧
      moment.Shows := by
  obtain ⟨events, run⟩ := reachable
  obtain ⟨_, -, rfl, reached, shows⟩ :=
    follows_service.run run ⟨rfl, .initial, Moment.shows_of_stopped rfl⟩
  exact ⟨reached, shows⟩

/-- **A turn comes to its end**: the pending writes can all be made. -/
theorem Moment.run_pending (moment : Moment) :
    (Moment.machine foreign path envFilter original).Run moment
      (moment.pending.map fun _ => .wrote) ⟨moment.complete, []⟩ := by
  obtain ⟨service, pending⟩ := moment
  induction pending generalizing service with
  | nil =>
      rw [complete_of_rest]
      exact .nil _
  | cons write rest ih =>
      have later := ih (service.mapShared fun shared => shared.write write)
      rw [complete, Service.mapShared_mapShared] at later
      exact .cons (List.cons_ne_nil _ _) later

/-- What is pending leaves the table that is served. -/
theorem Moment.Shows.snapshot_complete (shows : moment.Shows) :
    moment.complete.snapshot = moment.service.snapshot := by
  rw [Service.snapshot, Service.snapshot, process_complete]
  cases moment.service.process with
  | none => rfl
  | some process => exact process.snapshot_mapShared shows.tableSet.keeps

/-- **Every moment is sane.** -/
theorem Moment.sane_of_reachable
    (reachable : (Moment.machine foreign path envFilter original).Reachable moment) :
    moment.service.Sane foreign envFilter := by
  obtain ⟨reached, shows⟩ := complete_of_reachable reachable
  refine (Macdack.sane_of_reachable reached).congr ?_ shows.snapshot_complete.symm
  rw [process_complete, Option.map_map]
  rfl

/-- **Through a run of inputs** a process goes on, as the other tasks see it. -/
theorem Moment.goesOn_run (calm : foreign.Calm)
    (reachable : (Moment.machine foreign path envFilter original).Reachable moment)
    (running : moment.service.process = some process) {events : List MomentEvent} {last : Moment}
    (run : (Moment.machine foreign path envFilter original).Run moment events last)
    (inputs : ∀ event ∈ events, event.isInput = true) : last.service.GoesOn process := by
  obtain ⟨reached, shows⟩ := complete_of_reachable reachable
  obtain ⟨_, completed, rfl, -, lastShows⟩ := follows_service.run run ⟨rfl, reached, shows⟩
  have started : moment.complete.process = some (process.mapShared fun shared =>
      moment.pending.foldl Shared.write shared) := by
    rw [process_complete, running]
    rfl
  have served : ∀ event ∈ events.flatMap MomentEvent.events, event.isInput = true := by
    intro event member
    obtain ⟨origin, isOrigin, view⟩ := List.mem_flatMap.mp member
    cases origin with
    | service other =>
        obtain rfl := List.mem_singleton.mp view
        exact inputs _ isOrigin
    | wrote => cases view
  obtain ⟨ended, isEnded, continues⟩ :=
    no_input_ends_the_service calm reached started completed served
  rw [process_complete] at isEnded
  obtain ⟨after, isAfter, rfl⟩ := Option.map_eq_some_iff.mp isEnded
  refine ⟨after, isAfter, continues.config, continues.pid, fun loaded => ?_, fun active => ?_,
    continues.listening⟩
  · have whole := continues.loaded (by rw [Process.mapShared, Option.isSome_map]; exact loaded)
    rwa [Process.mapShared, Option.isSome_map] at whole
  · have whole := continues.snapshot (by
      rw [Process.snapshot_mapShared shows.tableSet.keeps]
      exact active)
    rwa [Process.snapshot_mapShared lastShows.tableSet.keeps] at whole

end Follows

end Macdack
