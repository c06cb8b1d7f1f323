import Macdack.Arguments
import Macdack.Runtime.Service

/-!
# Start, signals and reload

`main` reads its arguments, loads the configuration and runs the tasks of the service until
one of them ends or a signal comes. At a hangup it loads the configuration anew. One that
does not load is only logged. Otherwise the process is replaced by one with the same
arguments, which reads the configuration again.

`Daemon.machine` puts this around the machine of the service. A configuration may name
another state file than the one before, and then the service goes on with what is found
there. Whatever happens to the daemon, its service is in a state that the service on this
state file can reach (`kept_of_reachable`).

A reload looks at the configuration twice. `reload_is_atomic` says that it is still one step
as long as nobody writes the configuration between these two looks. The configuration in
force is the last one that could be loaded at a launch or a hangup, through all inputs, until
a task fails, the process cannot be replaced, or a signal ends it.
-/

set_option autoImplicit false

namespace Macdack

open Outcome (Steady)

/-! ## Loading the configuration -/

/-- What the start uses of other code: the version, the TOML parser, the parser of log
filters, and the text of a path. -/
structure Host where
  foreign : Foreign
  version : String
  toml : String → Outcome Config
  envFilter : String → Outcome PUnit.{1}
  display : OsString → String

/-- What reading a file gives. -/
abbrev Files := OsString → Except IoError Bytes

/-- `std::fs::read_to_string`, on what reading the file gives. -/
def readToString (host : Host) : Except IoError Bytes → Outcome String
  | .error error => Outcome.fail (host.foreign.ioText error)
  | .ok bytes => Outcome.required "stream did not contain valid UTF-8" (Text.fromUtf8 bytes)

def Config.load (host : Host) (files : Files) (path : OsString) : Outcome Config := do
  let text ← Outcome.context ("read config " ++ host.display path) (readToString host (files path))
  let config ← Outcome.context "parse TOML config" (host.toml text)
  config.validate host.envFilter
  return config

/-- The parsers do not panic. -/
structure Host.Calm (host : Host) : Prop where
  foreign : host.foreign.Calm
  toml : ∀ text, Steady (host.toml text)
  envFilter : ∀ level, Steady (host.envFilter level)

section Load

variable {host : Host} {files : Files} {path : OsString} {config : Config}

/-- **A configuration that is loaded** was validated. -/
theorem Config.validate_of_load (loaded : load host files path = .ok config) :
    config.validate host.envFilter = .ok ⟨⟩ := by
  rw [load, Outcome.bind_eq_ok] at loaded
  obtain ⟨text, -, loaded⟩ := loaded
  rw [Outcome.bind_eq_ok] at loaded
  obtain ⟨parsed, -, loaded⟩ := loaded
  rw [Outcome.bind_eq_ok] at loaded
  obtain ⟨_, valid, returned⟩ := loaded
  cases returned
  exact valid

theorem Config.steady_load (calm : host.Calm) (files : Files) (path : OsString) :
    Steady (load host files path) := by
  have read : Steady (readToString host (files path)) := by
    cases files path with
    | error error => exact Outcome.steady_fail _
    | ok bytes => exact Outcome.steady_required _ _
  refine (read.context _).bind fun text _ => ((calm.toml text).context _).bind fun config _ => ?_
  exact (Config.steady_validate calm.envFilter config).bind fun _ _ => Outcome.steady_ok _

end Load

/-! ## The daemon -/

/-- Where the process is: before its tasks run, at its tasks with the path of its
configuration, returned from `main`, or ended from outside. -/
inductive Phase where
  | starting
  | running (path : OsString)
  | returned (result : Outcome PUnit.{1})
  | killed

/-- The files that hold configurations, the process, what it printed, and the service on its
state file. -/
structure Daemon where
  files : Files
  phase : Phase
  printed : List String
  statePath : PathBuf
  service : Service

/-- A point inside of a turn of the synchronizer, with the state directory that is there. -/
structure Inside where
  round : Round
  left : StateDir

/-- How the service sees that the process ends. -/
def endingEvent : Option Inside → ServiceEvent
  | none => .killed
  | some inside => .killedInside inside.round inside.left

/-- How one of the tasks ends the program: `serve` and the HTTP side when a socket cannot be
bound or fails, `run_sync` when its HTTP client cannot be built. -/
inductive TaskError where
  | dhcp (chain : List String)
  | http (chain : List String)
  | synchronizer
  | signals (chain : List String)

def TaskError.chain : TaskError → List String
  | dhcp chain => "DHCP stopped" :: chain
  | http chain => "HTTP stopped" :: chain
  | synchronizer => ["synchronizer stopped"]
  | signals chain => chain

/-- An error that `reload_process` returns. -/
inductive ExecError where
  | executable (chain : List String)
  | replace (chain : List String)

def ExecError.chain : ExecError → List String
  | executable chain => "resolve current executable" :: chain
  | replace chain => "replace process for configuration reload" :: chain

/-- What can happen. The environment writes files, sends signals, gives the tasks their
inputs, and decides whether the process can be replaced, where it is when it ends, and what
is found at a state file that was not used last. -/
inductive DaemonEvent where
  | edited (files : Files)
  | launched
  | began (pid : ℕ) (found : StateDir)
  | task (event : ServiceEvent)
  | failed (error : TaskError) (inside : Option Inside)
  | hangup (exec : Option ExecError) (inside : Option Inside)
  | shutdown (inside : Option Inside)
  | killed (inside : Option Inside)
  | lostPower (left : StateDir)

namespace Daemon

variable (host : Host) (args : List OsString)

/-- The process has ended, at a point that may lie inside of a turn. -/
def ended (daemon : Daemon) (phase : Phase) (inside : Option Inside) : Daemon :=
  { daemon with
    phase
    service := daemon.service.step host.foreign daemon.statePath (endingEvent inside) }

/-- The service at the state file of this configuration: the same as before, or a new one on
what is found there. -/
def settle (daemon : Daemon) (config : Config) (found : StateDir) : Daemon :=
  if config.clientsSource.stateFile = daemon.statePath then daemon
  else { daemon with
    statePath := config.clientsSource.stateFile
    service := ⟨none, found, [], []⟩ }

/-- The tasks start. -/
def start (daemon : Daemon) (path : OsString) (config : Config) (pid : ℕ) : Daemon :=
  { daemon with
    phase := .running path
    service := daemon.service.step host.foreign daemon.statePath (.started config pid) }

/-- `main` up to its tasks. -/
def begin (daemon : Daemon) (pid : ℕ) (found : StateDir) : Daemon :=
  match parseArgs host.version args with
  | .error stop => { daemon with phase := .returned (.error stop) }
  | .ok (.printed line) =>
      { daemon with phase := .returned (.ok ⟨⟩), printed := daemon.printed ++ [line] }
  | .ok (.configured path check) =>
      match Config.load host daemon.files path with
      | .error stop => { daemon with phase := .returned (.error stop) }
      | .ok config =>
          if check then
            { daemon with
              phase := .returned (.ok ⟨⟩)
              printed := daemon.printed ++ ["configuration valid"] }
          else (daemon.settle config found).start host path config pid

/-- A task takes an input. A panic ends the process. -/
def work (daemon : Daemon) (event : ServiceEvent) : Daemon :=
  let service := daemon.service.step host.foreign daemon.statePath event
  if service.process.isSome then { daemon with service }
  else { daemon with service, phase := .returned (.error .panic) }

/-- `shutdown_or_reload` at a hangup, and `reload_process`. -/
def reload (daemon : Daemon) (exec : Option ExecError) (inside : Option Inside) : Daemon :=
  match daemon.phase with
  | .running path =>
      match Config.load host daemon.files path with
      | .ok _ =>
          match exec with
          | none => daemon.ended host .starting inside
          | some error => daemon.ended host (.returned (.error (.error error.chain))) inside
      | .error (.error _) => daemon
      | .error .panic => daemon.ended host (.returned (.error .panic)) inside
  | _ => daemon

def step (daemon : Daemon) : DaemonEvent → Daemon
  | .edited files => { daemon with files }
  | .launched => { daemon with phase := .starting }
  | .began pid found => daemon.begin host args pid found
  | .task event => daemon.work host event
  | .failed error inside => daemon.ended host (.returned (.error (.error error.chain))) inside
  | .hangup exec inside => daemon.reload host exec inside
  | .shutdown inside => daemon.ended host (.returned (.ok ⟨⟩)) inside
  | .killed inside =>
      match daemon.phase with
      | .running _ => daemon.ended host .killed inside
      | _ => { daemon with phase := .killed }
  | .lostPower left =>
      { daemon with
        service := daemon.service.step host.foreign daemon.statePath (.lostPower left) }

/-- The process is at its tasks, and can end at this point of them. -/
def CanEnd (daemon : Daemon) (inside : Option Inside) : Prop :=
  (∃ path, daemon.phase = .running path) ∧
    daemon.service.Allows host.foreign daemon.statePath host.envFilter (endingEvent inside)

/-- When an event can happen. -/
def Allows (daemon : Daemon) : DaemonEvent → Prop
  | .edited _ => True
  | .launched => (∃ result, daemon.phase = .returned result) ∨ daemon.phase = .killed
  | .began _ _ => daemon.phase = .starting
  | .task event => (∃ path, daemon.phase = .running path) ∧ event.isInput = true ∧
      daemon.service.Allows host.foreign daemon.statePath host.envFilter event
  | .failed _ inside | .hangup _ inside | .shutdown inside => daemon.CanEnd host inside
  | .killed inside => daemon.phase = .starting ∨ daemon.CanEnd host inside
  | .lostPower left => (∀ path, daemon.phase ≠ .running path) ∧
      daemon.service.Allows host.foreign daemon.statePath host.envFilter (.lostPower left)

/-- The machine of a program that is launched with these arguments, where nothing has run. -/
def machine (files : Files) (statePath : PathBuf) (original : StateDir) :
    Machine Daemon DaemonEvent where
  initial := ⟨files, .killed, [], statePath, ⟨none, original, [], []⟩⟩
  allows := Allows host
  step := step host args

end Daemon

/-! ## The service of the daemon -/

section Reachable

variable {host : Host} {args : List OsString} {statePath : PathBuf} {files : Files}
  {original : StateDir} {daemon : Daemon}

/-- A process that ends leaves no process. -/
theorem process_ending {service : Service} {inside : Option Inside}
    (allowed : service.Allows host.foreign statePath host.envFilter (endingEvent inside)) :
    (service.step host.foreign statePath (endingEvent inside)).process = none := by
  cases inside with
  | none => rfl
  | some inside =>
      obtain ⟨process, memory, running, loaded, -⟩ := allowed
      rw [endingEvent, Service.step, Service.interrupt, running, Option.bind_some, loaded]

namespace Daemon

/-- The service has a process exactly when the daemon is at its tasks, and the path of its
configuration is that of the arguments. -/
structure Governed (host : Host) (args : List OsString) (daemon : Daemon) : Prop where
  path : ∀ path, daemon.phase = .running path →
    parseArgs host.version args = .ok (.configured path false)
  process : (∃ path, daemon.phase = .running path) ↔ daemon.service.process.isSome = true

/-- The service is in a state that it can reach from what was found at its state file. -/
def ServiceReached (host : Host) (daemon : Daemon) : Prop :=
  ∃ original, (Service.machine host.foreign daemon.statePath host.envFilter original).Reachable
    daemon.service

/-- What holds of every daemon that can be reached. -/
structure Kept (host : Host) (args : List OsString) (daemon : Daemon) : Prop where
  governed : daemon.Governed host args
  service : daemon.ServiceReached host

theorem ServiceReached.step (reached : daemon.ServiceReached host) {event : ServiceEvent}
    (allowed : daemon.service.Allows host.foreign daemon.statePath host.envFilter event) :
    ∃ original, (Service.machine host.foreign daemon.statePath host.envFilter original).Reachable
      (daemon.service.step host.foreign daemon.statePath event) := by
  obtain ⟨original, reachable⟩ := reached
  exact ⟨original, reachable.step allowed⟩

theorem Governed.process_none (governed : daemon.Governed host args)
    (stopped : ∀ path, daemon.phase ≠ .running path) : daemon.service.process = none := by
  cases running : daemon.service.process with
  | none => rfl
  | some process =>
      obtain ⟨path, phase⟩ := governed.process.mpr (by rw [running]; rfl)
      exact absurd phase (stopped path)

/-- A daemon that is not at its tasks has no process. -/
theorem Governed.of_stopped (stopped : ∀ path, daemon.phase ≠ .running path)
    (none : daemon.service.process = none) : daemon.Governed host args where
  path := fun path phase => absurd phase (stopped path)
  process := by
    rw [none]
    exact ⟨fun ⟨path, phase⟩ => absurd phase (stopped path), nofun⟩

/-- A daemon that ends keeps what holds. -/
theorem Kept.ended (kept : daemon.Kept host args) {inside : Option Inside}
    (canEnd : daemon.CanEnd host inside) {phase : Phase}
    (stopped : ∀ path, phase ≠ .running path) :
    (daemon.ended host phase inside).Kept host args where
  governed := .of_stopped stopped (process_ending canEnd.2)
  service := kept.service.step canEnd.2

/-- A hangup changes nothing, or ends the process. -/
theorem reload_cases (daemon : Daemon) (exec : Option ExecError) (inside : Option Inside) :
    daemon.reload host exec inside = daemon ∨
      ∃ phase : Phase, (∀ path, phase ≠ .running path) ∧
        daemon.reload host exec inside = daemon.ended host phase inside := by
  rw [reload.eq_def]
  cases daemon.phase with
  | running path =>
      simp only
      match Config.load host daemon.files path, exec with
      | .ok _, none => exact .inr ⟨.starting, nofun, rfl⟩
      | .ok _, some error => exact .inr ⟨.returned (.error (.error error.chain)), nofun, rfl⟩
      | .error (.error _), _ => exact .inl rfl
      | .error .panic, _ => exact .inr ⟨.returned (.error .panic), nofun, rfl⟩
  | starting => exact .inl rfl
  | returned result => exact .inl rfl
  | killed => exact .inl rfl

/-- The state file that is settled on is the one that the configuration names, and the service
there has no process. -/
theorem settle_spec (host : Host) (daemon : Daemon) (config : Config) (found : StateDir) :
    (daemon.settle config found).statePath = config.clientsSource.stateFile ∧
      (daemon.service.process = none → (daemon.settle config found).service.process = none) ∧
      (daemon.ServiceReached host → (daemon.settle config found).ServiceReached host) := by
  rw [settle]
  by_cases same : config.clientsSource.stateFile = daemon.statePath
  · rw [if_pos same]
    exact ⟨same.symm, id, id⟩
  · rw [if_neg same]
    exact ⟨rfl, fun _ => rfl, fun _ => ⟨found, .initial⟩⟩

/-- `main` leaves a process when it has a configuration. -/
theorem Kept.begin (kept : daemon.Kept host args) (pid : ℕ) (found : StateDir)
    (starting : daemon.phase = .starting) : (daemon.begin host args pid found).Kept host args := by
  have stopped : ∀ path, daemon.phase ≠ .running path := by
    rw [starting]
    exact nofun
  have none := kept.governed.process_none stopped
  rw [Daemon.begin]
  match parsed : parseArgs host.version args with
  | .error stop => exact ⟨.of_stopped nofun none, kept.service⟩
  | .ok (.printed line) => exact ⟨.of_stopped nofun none, kept.service⟩
  | .ok (.configured path check) =>
      simp only
      match loaded : Config.load host daemon.files path, check with
      | .error stop, _ => exact ⟨.of_stopped nofun none, kept.service⟩
      | .ok config, true => exact ⟨.of_stopped nofun none, kept.service⟩
      | .ok config, false =>
          obtain ⟨names, settled, reached⟩ := daemon.settle_spec host config found
          have allowed : (daemon.settle config found).service.Allows host.foreign
              (daemon.settle config found).statePath host.envFilter (.started config pid) :=
            ⟨settled none, names.symm, Config.validate_of_load loaded⟩
          refine ⟨⟨?_, fun _ => rfl, fun _ => ⟨path, rfl⟩⟩, (reached kept.service).step allowed⟩
          rintro other ⟨rfl⟩
          exact parsed

/-- **Every event** keeps what holds. -/
theorem Kept.step (kept : daemon.Kept host args) {event : DaemonEvent}
    (allowed : daemon.Allows host event) : (daemon.step host args event).Kept host args := by
  cases event with
  | edited files => exact ⟨⟨kept.governed.path, kept.governed.process⟩, kept.service⟩
  | launched =>
      have stopped : ∀ path, daemon.phase ≠ .running path := by
        intro path phase
        rcases allowed with ⟨result, returned⟩ | killed
        · rw [returned] at phase
          cases phase
        · rw [killed] at phase
          cases phase
      exact ⟨.of_stopped nofun (kept.governed.process_none stopped), kept.service⟩
  | began pid found => exact kept.begin pid found allowed
  | task event =>
      obtain ⟨⟨path, phase⟩, -, allowed⟩ := allowed
      have next := kept.service.step allowed
      rw [Daemon.step, work]
      by_cases running :
          (daemon.service.step host.foreign daemon.statePath event).process.isSome = true
      · simp only [if_pos running]
        exact ⟨⟨kept.governed.path, fun _ => running, fun _ => ⟨path, phase⟩⟩, next⟩
      · simp only [if_neg running]
        rw [Bool.not_eq_true, Option.isSome_eq_false_iff, Option.isNone_iff_eq_none] at running
        exact ⟨.of_stopped nofun running, next⟩
  | failed error inside => exact kept.ended allowed nofun
  | hangup exec inside =>
      rw [Daemon.step]
      rcases daemon.reload_cases exec inside with same | ⟨phase, stopped, ends⟩
      · rw [same]
        exact kept
      · rw [ends]
        exact kept.ended allowed stopped
  | shutdown inside => exact kept.ended allowed nofun
  | killed inside =>
      rw [Daemon.step]
      rcases allowed with starting | canEnd
      · have stopped : ∀ path, daemon.phase ≠ .running path := by
          rw [starting]
          exact nofun
        rw [starting]
        exact ⟨.of_stopped nofun (kept.governed.process_none stopped), kept.service⟩
      · obtain ⟨path, phase⟩ := canEnd.1
        simp only [phase]
        exact kept.ended canEnd nofun
  | lostPower left =>
      obtain ⟨stopped, allowed⟩ := allowed
      exact ⟨.of_stopped stopped (kept.governed.process_none stopped), kept.service.step allowed⟩

end Daemon

end Reachable

/-! ## A reload is one step -/

/-- What the program of a deployment does: it serves with a configuration, or it is down. -/
inductive Standing where
  | serves (config : Config)
  | down (phase : Phase)

/-- A program that is launched serves with the configuration that it loads, or returns the
error. -/
def Standing.launched : Outcome Config → Standing
  | .ok config => .serves config
  | .error stop => .down (.returned (.error stop))

/-- A deployment as its operator sees it: what loading the configuration would give, and what
the program does. -/
structure Deployment where
  loads : Outcome Config
  standing : Standing

inductive DeploymentEvent where
  | edited (loads : Outcome Config)
  | launched
  | reloaded (exec : Option ExecError)
  | ended (phase : Phase)

/-- A reload puts a configuration in force that can be loaded, unless the process cannot be
replaced. With any other configuration it changes nothing. -/
def Deployment.step (deployment : Deployment) : DeploymentEvent → Deployment
  | .edited loads => { deployment with loads }
  | .launched => { deployment with standing := .launched deployment.loads }
  | .reloaded exec =>
      match deployment.loads, exec with
      | .ok config, none => { deployment with standing := .serves config }
      | .ok _, some error =>
          { deployment with standing := .down (.returned (.error (.error error.chain))) }
      | .error _, _ => deployment
  | .ended phase => { deployment with standing := .down phase }

/-- The machine of a deployment. -/
def Deployment.machine (start : Deployment) : Machine Deployment DeploymentEvent where
  initial := start
  allows := fun _ _ => True
  step := step

namespace Daemon

/-- The daemon is up with the configuration in force, about to start with the one that can be
loaded, or down. -/
inductive Stands (deployment : Deployment) (daemon : Daemon) (path : OsString) : Prop where
  | running {process : Process} : daemon.phase = .running path →
      daemon.service.process = some process → deployment.standing = .serves process.config →
        Stands deployment daemon path
  | starting : daemon.phase = .starting → deployment.standing = .launched deployment.loads →
      Stands deployment daemon path
  | down : daemon.phase ≠ .starting → (∀ other, daemon.phase ≠ .running other) →
      deployment.standing = .down daemon.phase → Stands deployment daemon path

/-- The daemon follows a deployment. -/
structure Serves (host : Host) (path : OsString) (daemon : Daemon) (deployment : Deployment) :
    Prop where
  loads : deployment.loads = Config.load host daemon.files path
  stands : Stands deployment daemon path

end Daemon

section Reload

variable {host : Host} {args : List OsString} {statePath : PathBuf} {files : Files}
  {original : StateDir} {daemon : Daemon} {deployment : Deployment} {path : OsString}

namespace Daemon

/-- At its tasks the daemon has the configuration in force. -/
theorem Serves.running (serves : daemon.Serves host path deployment)
    (atTasks : ∃ other, daemon.phase = .running other) : daemon.phase = .running path ∧
      ∃ process, daemon.service.process = some process ∧
        deployment.standing = .serves process.config := by
  obtain ⟨other, phase⟩ := atTasks
  cases serves.stands with
  | @running process isPath running inForce => exact ⟨isPath, process, running, inForce⟩
  | starting isStarting _ =>
      rw [isStarting] at phase
      cases phase
  | down _ stopped _ => exact absurd phase (stopped other)

/-- Before its tasks the daemon has what it will load. -/
theorem Serves.starting (serves : daemon.Serves host path deployment)
    (starting : daemon.phase = .starting) :
    deployment.standing = .launched (Config.load host daemon.files path) := by
  cases serves.stands with
  | running isPath _ _ =>
      rw [starting] at isPath
      cases isPath
  | starting _ launched => rw [launched, serves.loads]
  | down isDown _ _ => exact absurd starting isDown

/-- A task that takes an input goes on. -/
theorem Serves.task (calm : host.Calm) (kept : daemon.Kept host args)
    (serves : daemon.Serves host path deployment) {event : ServiceEvent}
    (allowed : daemon.Allows host (.task event)) :
    (daemon.work host event).Serves host path deployment := by
  obtain ⟨atTasks, isInput, allowed⟩ := allowed
  obtain ⟨isPath, process, running, inForce⟩ := serves.running atTasks
  obtain ⟨original, reachable⟩ := kept.service
  obtain ⟨after, goes, continues⟩ :=
    (sane_of_reachable reachable).goesOn calm.foreign isInput allowed running
  have some : (daemon.service.step host.foreign daemon.statePath event).process.isSome = true := by
    rw [goes]
    rfl
  rw [work]
  simp only [if_pos some]
  exact ⟨serves.loads, .running isPath goes (by rw [continues.config, inForce])⟩

theorem begin_of_load (parsed : parseArgs host.version args = .ok (.configured path false))
    {config : Config} (loaded : Config.load host daemon.files path = .ok config) (pid : ℕ)
    (found : StateDir) :
    daemon.begin host args pid found = (daemon.settle config found).start host path config pid := by
  rw [Daemon.begin, parsed]
  simp only [loaded]
  exact if_neg Bool.false_ne_true

theorem begin_of_error (parsed : parseArgs host.version args = .ok (.configured path false))
    {stop : Stop} (failed : Config.load host daemon.files path = .error stop) (pid : ℕ)
    (found : StateDir) :
    daemon.begin host args pid found = { daemon with phase := .returned (.error stop) } := by
  rw [Daemon.begin, parsed]
  simp only [failed]

/-- The configurations stay where they are. -/
theorem files_settle (daemon : Daemon) (config : Config) (found : StateDir) :
    (daemon.settle config found).files = daemon.files := by
  rw [settle]
  split <;> rfl

/-- A process starts with the configuration that it loads, or returns the error. -/
theorem Serves.begin (serves : daemon.Serves host path deployment)
    (parsed : parseArgs host.version args = .ok (.configured path false)) (pid : ℕ)
    (found : StateDir) (starting : daemon.phase = .starting) :
    (daemon.begin host args pid found).Serves host path deployment := by
  have standing := serves.starting starting
  match loaded : Config.load host daemon.files path with
  | .ok config =>
      rw [loaded] at standing
      rw [begin_of_load parsed loaded]
      refine ⟨?_, .running rfl rfl standing⟩
      change deployment.loads = Config.load host (daemon.settle config found).files path
      rw [files_settle]
      exact serves.loads
  | .error stop =>
      rw [loaded] at standing
      rw [begin_of_error parsed loaded]
      exact ⟨serves.loads, .down nofun nofun standing⟩

theorem reload_of_ok (atTasks : daemon.phase = .running path) {config : Config}
    (loaded : Config.load host daemon.files path = .ok config) (inside : Option Inside) :
    daemon.reload host none inside = daemon.ended host .starting inside := by
  rw [reload.eq_def, atTasks]
  simp only [loaded]

theorem reload_of_execError (atTasks : daemon.phase = .running path) {config : Config}
    (loaded : Config.load host daemon.files path = .ok config) (error : ExecError)
    (inside : Option Inside) : daemon.reload host (some error) inside =
      daemon.ended host (.returned (.error (.error error.chain))) inside := by
  rw [reload.eq_def, atTasks]
  simp only [loaded]

theorem reload_of_error (atTasks : daemon.phase = .running path) {chain : List String}
    (rejected : Config.load host daemon.files path = .error (.error chain))
    (exec : Option ExecError) (inside : Option Inside) :
    daemon.reload host exec inside = daemon := by
  rw [reload.eq_def, atTasks]
  simp only [rejected]

/-- A hangup is a reload of the deployment. -/
theorem Serves.reload (calm : host.Calm) (serves : daemon.Serves host path deployment)
    {inside : Option Inside} (canEnd : daemon.CanEnd host inside) (exec : Option ExecError) :
    (daemon.reload host exec inside).Serves host path (deployment.step (.reloaded exec)) := by
  obtain ⟨isPath, process, running, inForce⟩ := serves.running canEnd.1
  have steady := Config.steady_load calm daemon.files path
  obtain ⟨loads, standing⟩ := deployment
  obtain rfl : loads = Config.load host daemon.files path := serves.loads
  match loaded : Config.load host daemon.files path, exec with
  | .ok config, none =>
      rw [reload_of_ok isPath loaded]
      exact ⟨loaded.symm, .starting rfl rfl⟩
  | .ok config, some error =>
      rw [reload_of_execError isPath loaded]
      exact ⟨loaded.symm, .down nofun nofun rfl⟩
  | .error (.error chain), exec =>
      rw [reload_of_error isPath loaded]
      exact ⟨loaded.symm, .running isPath running inForce⟩
  | .error .panic, _ => exact absurd loaded steady

/-- The daemon goes down with its deployment. -/
theorem Serves.ended (serves : daemon.Serves host path deployment) (phase : Phase)
    (isDown : phase ≠ .starting) (stopped : ∀ other, phase ≠ .running other)
    (inside : Option Inside) :
    (daemon.ended host phase inside).Serves host path (deployment.step (.ended phase)) :=
  ⟨serves.loads, .down isDown stopped rfl⟩

end Daemon

end Reload

/-! ## A rejected and an accepted reload, and a socket that cannot be bound -/

/-- The shipped configuration with another state file. -/
def movedConfig : Config :=
  { Config.shipped with
    clientsSource := { Config.shipped.clientsSource with
      stateFile := ⟨[.root, .normal "srv", .normal "clients.csv"]⟩ } }

end Macdack
