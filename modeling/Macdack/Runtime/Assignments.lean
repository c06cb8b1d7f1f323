import Macdack.Dhcp.Decision
import Macdack.Dhcp.Exchange
import Macdack.Runtime.Service

/-!
# Assignments over the life of the service

The replies of all processes that ran on one state directory, put together. When the tables
that were downloaded are consistent, no two stations are given one address
(`addresses_exclusive`). An offer is honoured by every later process whose table still has
the row, and never once the row has another address (`offers_outlive_processes`). When the
last table was persisted, a restart serves the same replies (`restarts_serve_alike`).
-/

set_option autoImplicit false

namespace Macdack

section Assignments

variable {foreign : Foreign} {path : PathBuf} {envFilter : String → Outcome PUnit}
  {original : StateDir} {service : Service}

/-! ## Addresses over all processes -/

/-- The reply answers the station that asked. An address that it gives is that of the row of
this station in a known table. -/
structure Sent.FromRow (foreign : Foreign) (path : PathBuf) (original : StateDir)
    (attempts : List Attempt) (sent : Sent) : Prop where
  station : sent.reply.chaddr = Buffer.slice sent.bytes 28 34
  row : sent.reply.yiaddr ≠ [0, 0, 0, 0] → ∃ (clients : Clients) (client : Client),
    Known foreign path original attempts clients ∧ clients.records[client.mac]? = some client ∧
      client.mac.toList = sent.reply.chaddr ∧ client.ip.bytes = sent.reply.yiaddr

/-- No two known tables give one address to different stations. -/
def TablesAgree (foreign : Foreign) (path : PathBuf) (original : StateDir)
    (attempts : List Attempt) : Prop :=
  ∀ first second : Clients, Known foreign path original attempts first →
    Known foreign path original attempts second → ∀ client other : Client,
      first.records[client.mac]? = some client → second.records[other.mac]? = some other →
        client.ip = other.ip → client.mac = other.mac

theorem Sent.FromTable.row {dir : StateDir} {process : Option Memory} {attempts : List Attempt}
    (life : Life foreign path original process dir attempts) {sent : Sent}
    (table : sent.FromTable foreign path original attempts) :
    sent.FromRow foreign path original attempts := by
  obtain ⟨clients, known, served⟩ := table
  obtain ⟨packet, client, parsed, found, replied⟩ := serveReply_eq_some served
  have wellFormed := Packet.wellFormed_of_parse parsed
  have station := chaddr_of_reply wellFormed replied
  obtain ⟨text, isTable⟩ := parse_of_known life known
  obtain ⟨listed, -, holds⟩ := Clients.holds_of_parse isTable
  have mac := ((holds.records packet.mac client).mp found).2
  constructor
  · obtain ⟨-, header, -⟩ := Packet.parse_eq_ok_iff.mp parsed
    rw [station, header.mac]
  · intro assigns
    exact ⟨clients, client, known, by rw [mac, found], by rw [mac, station],
      (yiaddr_of_reply wellFormed replied assigns).symm⟩

/-- **Addresses stay exclusive over all processes.** Whatever order processes, datagrams,
downloads, failing calls, kills and losses of power come in, and whatever validated
configurations the processes have: every reply that was sent answers the station that asked,
and an address that it gives is that of the row of this station in the original table or in
one that was downloaded. When these tables never give one address to different stations,
neither do the replies. -/
theorem addresses_exclusive (durable : Durable foreign path original)
    (reachable : (Service.machine foreign path envFilter original).Reachable service) :
    (∀ sent ∈ service.sent, sent.FromRow foreign path original service.attempts) ∧
      (TablesAgree foreign path original service.attempts →
        ∀ first ∈ service.sent, ∀ second ∈ service.sent,
          first.reply.yiaddr ≠ [0, 0, 0, 0] → first.reply.yiaddr = second.reply.yiaddr →
            first.reply.chaddr = second.reply.chaddr) := by
  have sound := sound_of_reachable durable reachable
  have rows : ∀ sent ∈ service.sent, sent.FromRow foreign path original service.attempts :=
    fun sent member => (sound.sent sent member).2.row sound.life
  refine ⟨rows, ?_⟩
  intro consistent first inFirst second inSecond assigns same
  obtain ⟨clients, client, known, found, mac, ip⟩ := (rows first inFirst).row assigns
  obtain ⟨others, other, otherKnown, otherFound, otherMac, otherIp⟩ :=
    (rows second inSecond).row (by rwa [← same])
  have sameIp : client.ip = other.ip := Ipv4Addr.bytes_injective (by rw [ip, otherIp, same])
  rw [← mac, ← otherMac, consistent clients others known otherKnown client other found otherFound
    sameIp]

/-! ## Offers -/

/-- The reply to a listed client is the one of `serve`. -/
theorem serveReply_of_reply {clients : Clients} {config : Config} {server : Ipv4Addr}
    {bytes : Bytes} {packet : Packet} {client : Client} {reply : Reply}
    (parsed : Packet.parse bytes = .ok packet)
    (found : clients.records[packet.mac]? = some client)
    (replied : Macdack.reply packet client config server = .ok (some reply)) :
    serveReply (some clients) config server bytes = .ok (some reply) := by
  obtain ⟨message, isDue, -⟩ := reply_header (Packet.wellFormed_of_parse parsed) replied
  have bootMode := (due_eq_some_iff.mp isDue).2.1
  rw [serveReply, parsed, Outcome.bind_ok, Option.bind_some, found]
  simp only [Packet.bootModeMismatch_eq, bootMode, Outcome.bind_ok]
  exact replied

/-- A round of `serve` that replies hands the reply to the socket. -/
theorem receive_of_serveReply (arrival : Arrival) {process : Process}
    (running : service.process = some process) {reply : Reply}
    (served : serveReply process.snapshot process.config
      (arrival.datagram process.config).server arrival.bytes = .ok (some reply)) :
    service.receive arrival =
      ⟨some { process with
          traffic := (serveDatagram process.config process.snapshot
            (arrival.datagram process.config) process.traffic).2 },
        service.dir, service.attempts,
        ⟨process.config, (arrival.datagram process.config).server, arrival.bytes, reply⟩ ::
          service.sent⟩ := by
  have answered : (serveDatagram process.config process.snapshot
      (arrival.datagram process.config) process.traffic).1 = .ok (some reply) := by
    rw [serveDatagram_reply]
    exact congrArg logged served
  rcases Service.receive_cases arrival running rfl with ⟨stop, failed, -⟩ | ⟨answer, given, goes⟩
  · rw [answered] at failed
    cases failed
  · obtain rfl : answer = some reply := Except.ok.inj (given.symm.trans answered)
    exact goes

/-- Changing the message type of a reply keeps its address. -/
theorem slice_set_messageType (bytes : Bytes) (message : UInt8) :
    Buffer.slice (bytes.set 242 message) 16 20 = Buffer.slice bytes 16 20 := by
  apply List.ext_getElem?
  intro position
  rw [Buffer.getElem?_slice, Buffer.getElem?_slice]
  split
  · rw [List.getElem?_set_ne (by omega)]
  · rfl

/-- In every known table the station has this row. -/
def SameRow (foreign : Foreign) (path : PathBuf) (original : StateDir) (attempts : List Attempt)
    (client : Client) : Prop :=
  ∀ clients : Clients, Known foreign path original attempts clients →
    clients.records[client.mac]? = some client

/-- A request that takes up an offer: the selecting REQUEST or a renewal, from the same
station. -/
def TakesUp (request discover : Packet) (offer : Reply) : Prop :=
  Selects request discover offer ∨ Renews request discover offer ∧ request.mac = discover.mac

/-- Selecting an offer and renewing its lease come from the station it was made to. -/
theorem TakesUp.mac {request discover : Packet} {offer : Reply}
    (takes : TakesUp request discover offer) (formed : request.WellFormed)
    (discoverFormed : discover.WellFormed) : request.mac = discover.mac := by
  rcases takes with selects | ⟨-, same⟩
  · apply Vector.toList_inj.mp
    rw [formed.mac, discoverFormed.mac, selects.header]
  · exact same

theorem TakesUp.message {request discover : Packet} {offer : Reply}
    (takes : TakesUp request discover offer) (formed : request.WellFormed) :
    request.message = 3 := by
  rcases takes with selects | ⟨renews, -⟩
  · exact message_of_options formed selects.message
  · exact message_of_options formed renews.message

/-- It names the address of the offer. -/
theorem TakesUp.names {request discover : Packet} {offer : Reply}
    (takes : TakesUp request discover offer) {client : Client} {config : Config}
    {server : Ipv4Addr} (exchange : Offered client config server discover offer) :
    request.Names client.ip := by
  rcases takes with selects | ⟨renews, -⟩
  · left
    rw [Packet.ipOption, selects.requested, exchange.yiaddr_offer]
    exact client.ip.ofBytes?_bytes
  · right
    have same : request.ciaddr = client.ip :=
      Ipv4Addr.bytes_injective (renews.ciaddr.trans exchange.yiaddr_offer)
    refine ⟨same, fun unspecified => ?_⟩
    have unicast := isUnspecified_of_isUnicast exchange.clientValid.ip
    rw [Ipv4Addr.isUnspecified_iff.mpr unspecified] at unicast
    cases unicast

/-- It is acknowledged with the address of the offer, by a server that has the row. -/
theorem TakesUp.acknowledged {request discover : Packet} {offer : Reply}
    (takes : TakesUp request discover offer) (formed : request.WellFormed) {client : Client}
    {config : Config} {server : Ipv4Addr}
    (exchange : Offered client config server discover offer) :
    ∃ ack, reply request client config server = .ok (some ack) ∧ ack.message = 5 ∧
      ack.yiaddr = offer.yiaddr := by
  rcases takes with selects | ⟨renews, -⟩
  · obtain ⟨ack, replied, isAck, -, -, -, -, bytes⟩ := exchange.ack_selecting formed selects
    refine ⟨ack, replied, isAck, ?_⟩
    rw [Reply.yiaddr, bytes, slice_set_messageType]
    rfl
  · obtain ⟨ack, replied, isAck, -, -, address, -⟩ := exchange.ack_renewal formed renews
    exact ⟨ack, replied, isAck, address⟩

/-- An offer of some process with this configuration, and the DISCOVER that it answers. -/
structure Outstanding (service : Service) (config : Config) (offer : Sent) (discover : Packet) :
    Prop where
  logged : offer ∈ service.sent
  config : offer.config = config
  parsed : Packet.parse offer.bytes = .ok discover
  discovers : Discovers discover

/-- An offer was made to the client of a known table. -/
theorem Outstanding.exists_offered (sound : service.Sound foreign path envFilter original)
    {config : Config} {offer : Sent} {discover : Packet}
    (outstanding : Outstanding service config offer discover) :
    ∃ clients client, Known foreign path original service.attempts clients ∧
      clients.records[discover.mac]? = some client ∧
        Offered client config offer.server discover offer.reply := by
  obtain ⟨valid, clients, known, served⟩ := sound.sent offer outstanding.logged
  obtain ⟨packet, client, parsed, found, replied⟩ := serveReply_eq_some served
  obtain rfl : packet = discover := Except.ok.inj (parsed.symm.trans outstanding.parsed)
  rw [outstanding.config] at valid replied
  obtain ⟨text, isTable⟩ := parse_of_known sound.life known
  exact ⟨clients, client, known, found, Clients.valid_of_parse isTable found,
    Config.valid_of_validate valid, Packet.wellFormed_of_parse parsed, outstanding.discovers,
    replied⟩

/-- **Offers outlive processes.** An offer was made by a process that may have ended since. A
process with the same configuration and a table receives the selecting REQUEST for it, or a
renewal of its lease, at the same server address.

* If the row of the station is the same in every table, the answer is an ACK with the
  offered address.
* If the row of the active table has another address, there is no answer or it is a NAK. -/
theorem offers_outlive_processes (durable : Durable foreign path original)
    (reachable : (Service.machine foreign path envFilter original).Reachable service)
    {process : Process} (running : service.process = some process) {clients : Clients}
    (active : process.snapshot = some clients) {offer : Sent} {discover : Packet}
    (outstanding : Outstanding service process.config offer discover) {arrival : Arrival}
    (server : (arrival.datagram process.config).server = offer.server) {request : Packet}
    (parsed : Packet.parse arrival.bytes = .ok request)
    (takes : TakesUp request discover offer.reply) :
    (∀ client : Client, client.mac = discover.mac →
      SameRow foreign path original service.attempts client →
        ∃ ack traffic, service.receive arrival =
          ⟨some { process with traffic }, service.dir, service.attempts,
            ⟨process.config, offer.server, arrival.bytes, ack⟩ :: service.sent⟩ ∧
          ack.message = 5 ∧ ack.yiaddr = offer.reply.yiaddr) ∧
    (∀ row : Client, clients.records[discover.mac]? = some row →
      row.ip.bytes ≠ offer.reply.yiaddr →
        (service.receive arrival).sent = service.sent ∨
          ∃ nak, (service.receive arrival).sent = nak :: service.sent ∧
            nak.reply.message = 6) := by
  have sound := sound_of_reachable durable reachable
  obtain ⟨offered, listed, known, found, exchange⟩ := outstanding.exists_offered sound
  have formed := Packet.wellFormed_of_parse parsed
  have station := takes.mac formed exchange.formed
  have isActive : service.snapshot = some clients := by
    rw [Service.snapshot, running, Option.bind_some, active]
  constructor
  · intro client mac same
    have isListed : listed = client := by
      have row := same offered known
      rw [mac, found] at row
      exact Option.some.inj row
    subst isListed
    obtain ⟨ack, replied, isAck, address⟩ := takes.acknowledged formed exchange
    have row := same clients (sound.active clients isActive)
    rw [mac, ← station] at row
    have served := serveReply_of_reply parsed row replied
    rw [← active, ← server] at served
    have goes := receive_of_serveReply arrival running served
    rw [server] at goes
    exact ⟨ack, _, goes, isAck, address⟩
  · intro row isRow moved
    rcases Service.receive_cases arrival running rfl with ⟨stop, -, ended⟩ | ⟨answer, given, goes⟩
    · exact .inl (by rw [ended])
    rw [goes]
    cases answer with
    | none => exact .inl rfl
    | some reply =>
        have served := serveReply_of_serveDatagram given
        rw [active] at served
        obtain ⟨packet, client, isPacket, isClient, replied⟩ := serveReply_eq_some served
        obtain rfl : packet = request := Except.ok.inj (isPacket.symm.trans parsed)
        rw [station, isRow] at isClient
        obtain rfl := Option.some.inj isClient
        rcases names_of_reply formed (takes.message formed) replied with ⟨-, names⟩ | ⟨nak, -⟩
        · have same := (names listed.ip).mp (takes.names exchange)
          rw [exchange.yiaddr_offer, same] at moved
          exact absurd rfl moved
        · exact .inr ⟨_, rfl, nak⟩

/-! ## Restarts -/

/-- When the latest table was persisted, it is the one that is served. -/
def Service.Settled (service : Service) : Prop :=
  ∀ attempt, service.attempts.getLast? = some attempt → attempt.done = true →
    ∀ clients, service.snapshot = some clients → clients = attempt.clients

/-- The state file has the latest table, when it was persisted. -/
theorem content_of_persisted (durable : Durable foreign path original)
    {process : Option Memory} {dir : StateDir} {attempts : List Attempt}
    (life : Life foreign path original process dir attempts) {name : String}
    (isFile : path.fileName = some name) {attempt : Attempt}
    (latest : attempts.getLast? = some attempt) (persisted : attempt.done = true) :
    dir.content name = some attempt.body := by
  obtain ⟨earlier, rfl⟩ := List.getLast?_eq_some_iff.mp latest
  have found : Found (original.content name) (earlier ++ [attempt]) (dir.content name) :=
    (kept_of_life isFile (durable name isFile) life).found
  rcases found with ⟨-, failed⟩ | ⟨before, other, later, same, isBody, failed⟩
  · have wrong := failed attempt (List.mem_append_right _ (.head _))
    rw [persisted] at wrong
    cases wrong
  · rcases List.eq_nil_or_concat later with rfl | ⟨front, last, rfl⟩
    · have equal := List.append_inj' same rfl
      rw [isBody, (List.cons.inj equal.2).1]
    · have ends : earlier ++ [attempt] = (before ++ other :: front) ++ [last] := by
        rw [same, List.append_assoc, List.cons_append, List.concat_eq_append]
      have isLast := (List.cons.inj (List.append_inj' ends rfl).2).1
      have wrong := failed last (by rw [List.concat_eq_append]; simp)
      rw [← isLast, persisted] at wrong
      cases wrong

theorem Service.Settled.of_stopped {dir : StateDir} {attempts : List Attempt} {log : List Sent} :
    Service.Settled ⟨none, dir, attempts, log⟩ :=
  fun _ _ _ _ active => absurd active.symm (Option.some_ne_none _)

/-- It depends on the attempts and on what is served. -/
theorem Service.Settled.congr {before after : Service} (settled : before.Settled)
    (attempts : after.attempts = before.attempts)
    (snapshot : after.snapshot = before.snapshot) : after.Settled := by
  intro attempt latest persisted clients active
  rw [attempts] at latest
  rw [snapshot] at active
  exact settled attempt latest persisted clients active

/-- The table that a process loads is the latest one, when that was persisted. -/
theorem Service.Settled.load (durable : Durable foreign path original)
    (sound : service.Sound foreign path envFilter original) (faults : Faults) {process : Process}
    (running : service.process = some process) :
    (service.load foreign path faults).Settled := by
  rcases Service.load_cases faults running rfl with ⟨-, ended⟩ | ⟨-, goes⟩
  · rw [ended]
    exact .of_stopped
  · rw [goes]
    intro attempt latest persisted clients active
    obtain ⟨name, bytes, isFile, content, loaded⟩ := content_of_boot active
    rw [content_of_persisted durable sound.life isFile latest persisted,
      Option.some.injEq] at content
    have decoded := (attempt_of_life sound.life attempt (List.mem_of_getLast? latest)).2
    rw [content, (decode_of_loadSaved loaded).2] at decoded
    exact Except.ok.inj decoded

/-- A turn that hands a table to persisting serves it when this returns. -/
theorem Service.Settled.poll (settled : service.Settled) (round : Round) {process : Process}
    {memory : Memory} (running : service.process = some process)
    (loaded : process.memory = some memory) : (service.poll foreign path round).Settled := by
  obtain ⟨result, polled, dir, turn, ends⟩ := round_polled foreign path ⟨memory, service.dir⟩ round
  rcases Service.poll_cases round running loaded turn with ⟨-, ended⟩ | ⟨-, goes⟩
  · rw [ended]
    exact .of_stopped
  · rw [goes]
    intro attempt latest persisted clients active
    change (polled.record round.finished result).shared.snapshot = some clients at active
    rw [record_snapshot] at active
    by_cases new : ∃ download table, Brings foreign memory round.answer download table
    · obtain ⟨download, table, brings⟩ := new
      change (service.attempts ++ _).getLast? = some attempt at latest
      rw [attempted_of_brings brings, List.getLast?_concat, Option.some.injEq] at latest
      subst latest
      rcases ends.of_brings brings with ⟨stop, rfl, -, -⟩ | ⟨rfl, -, served, -⟩
      · exact absurd (of_decide_eq_true persisted) (Outcome.context_error_ne_ok _ _ _)
      · rw [served] at active
        exact (Option.some.inj active).symm
    · change (service.attempts ++ _).getLast? = some attempt at latest
      rw [attempted_of_not_brings new, List.append_nil] at latest
      have before : service.snapshot = memory.shared.snapshot := by
        rw [Service.snapshot, running, Option.bind_some, Process.snapshot, loaded, Option.bind_some]
      refine settled attempt latest persisted clients ?_
      rw [before]
      cases ends with
      | rejected => exact active
      | unchanged => exact active
      | same => exact active
      | unsaved _ brings => exact absurd ⟨_, _, brings⟩ new
      | saved _ brings => exact absurd ⟨_, _, brings⟩ new

/-- **Every event** keeps it so. -/
theorem Service.Settled.step (durable : Durable foreign path original)
    (sound : service.Sound foreign path envFilter original) (settled : service.Settled)
    {event : ServiceEvent} (allowed : service.Allows foreign path envFilter event) :
    (service.step foreign path event).Settled := by
  cases event with
  | started config pid =>
      exact fun _ _ _ _ active => absurd active.symm (Option.some_ne_none _)
  | loaded faults =>
      obtain ⟨process, running, -⟩ := allowed
      exact .load durable sound faults running
  | bound =>
      obtain ⟨process, running⟩ := allowed
      refine settled.congr rfl ?_
      rw [Service.step, Service.snapshot, Service.snapshot, running]
      rfl
  | polled round =>
      obtain ⟨process, memory, running, loaded⟩ := allowed
      exact settled.poll round running loaded
  | received arrival =>
      obtain ⟨process, running, -⟩ := allowed
      rw [Service.step]
      rcases Service.receive_cases arrival running rfl with ⟨stop, -, ended⟩ | ⟨answer, -, goes⟩
      · rw [ended]
        exact .of_stopped
      · rw [goes]
        refine settled.congr rfl ?_
        rw [Service.snapshot, Service.snapshot, running]
        rfl
  | scraped now =>
      obtain ⟨process, running⟩ := allowed
      refine settled.congr rfl ?_
      rw [Service.step, Service.snapshot, Service.snapshot, running]
      rfl
  | killed => exact .of_stopped
  | killedInside round left =>
      obtain ⟨process, memory, running, loaded, -⟩ := allowed
      rw [Service.step, Service.interrupt, running, Option.bind_some, loaded]
      exact .of_stopped
  | lostPower left => exact settled.congr rfl rfl

theorem settled_of_reachable (durable : Durable foreign path original)
    (reachable : (Service.machine foreign path envFilter original).Reachable service) :
    service.Settled := by
  have start : Service.Settled ⟨none, original, [], []⟩ := .of_stopped
  exact reachable.holds_within start fun state event reached allowed settled =>
    settled.step durable (sound_of_reachable durable reached) allowed

/-- **Restarts serve alike.** Two states have the same attempts, and the latest was persisted;
between them there may have been kills, losses of power and starts of other processes, without
any answer of the remote source. Whatever is active in both is the table of this attempt: every
datagram gets the same reply, with one configuration and at one server address. And a process
that reads the state file without a fault has this table. -/
theorem restarts_serve_alike (durable : Durable foreign path original)
    (reachable : (Service.machine foreign path envFilter original).Reachable service)
    {attempt : Attempt} (latest : service.attempts.getLast? = some attempt)
    (persisted : attempt.done = true) :
    (∀ later, (Service.machine foreign path envFilter original).Reachable later →
      later.attempts = service.attempts → service.snapshot.isSome → later.snapshot.isSome →
        ∀ config server bytes, serveReply later.snapshot config server bytes =
          serveReply service.snapshot config server bytes) ∧
    ∀ process faults name, service.process = some process → process.memory = none →
      path.fileName = some name → faults (.read name) = none →
        (service.load foreign path faults).snapshot = some attempt.clients := by
  constructor
  · intro later reached same active laterActive config server bytes
    obtain ⟨clients, isActive⟩ := Option.isSome_iff_exists.mp active
    obtain ⟨others, isLater⟩ := Option.isSome_iff_exists.mp laterActive
    have first := settled_of_reachable durable reachable attempt latest persisted clients isActive
    have second := settled_of_reachable durable reached attempt (by rw [same, latest]) persisted
      others isLater
    rw [isActive, isLater, first, second]
  · intro process faults name running unloaded isFile free
    have sound := sound_of_reachable durable reachable
    have content := content_of_persisted durable sound.life isFile latest persisted
    obtain ⟨short, decoded⟩ := attempt_of_life sound.life attempt (List.mem_of_getLast? latest)
    have loads := loadSaved_of_decode short decoded
    have read : savedFile path faults service.dir = .ok attempt.body := by
      rw [savedFile, readState, isFile]
      change (FileCall.device faults (.read name) service.dir).1 = _
      rw [(FileCall.read_cases faults service.dir name).2 free, content]
    have returned : loadPanics foreign (savedFile path faults service.dir) = false := by
      rw [read, loadPanics, loads]
      rfl
    rw [Service.load, running, Service.snapshot]
    simp only [returned]
    change (boot foreign path process.pid faults service.dir).memory.shared.snapshot = _
    rw [(boot_loads foreign path process.pid faults service.dir).2.2 name isFile free, content,
      savedTable, Option.bind_some, loads]
    rfl

end Assignments

/-! ## The plain run -/

/-- A restart keeps the log, and so does a poll. -/
theorem sent_resumed : resumedService.attempts = servedService.attempts ∧
    resumedService.sent = servedService.sent ∧ movedService.sent = servedService.sent := by
  have kept : ∀ service : Service,
      (restartEvents.foldl shippedMachine.step service).attempts = service.attempts ∧
        (restartEvents.foldl shippedMachine.step service).sent = service.sent :=
    fun _ => ⟨rfl, rfl⟩
  have polled : ∀ (service : Service) (round : Round),
      (shippedMachine.step service (.polled round)).sent = service.sent := by
    intro service round
    change (service.poll plainForeign shippedPath round).sent = _
    rw [Service.poll]
    split
    · rfl
    · split <;> rfl
  obtain ⟨attempts, sent⟩ := kept servedService
  exact ⟨attempts, sent, (polled _ _).trans sent⟩

/-- The attempt of the plain run. -/
theorem exists_attempt_plain : ∃ attempt, servedService.attempts = [attempt] ∧
    attempt.done = true ∧
    attempt.clients.records[Clients.shippedClient.mac]? = some Clients.shippedClient := by
  obtain ⟨attempt, only, isAttempt⟩ := List.map_eq_singleton_iff.mp plain_run.1
  obtain ⟨persisted, listed⟩ := Prod.mk.inj isAttempt
  exact ⟨attempt, only, persisted, listed⟩

/-- The only table of the plain run is the one it downloaded. -/
theorem known_plain {attempts : List Attempt} {attempt : Attempt}
    (only : attempts = [attempt]) {clients : Clients}
    (known : Known plainForeign shippedPath emptyDir attempts clients) :
    attempt.clients = clients := by
  cases known with
  | original isFile content _ =>
      obtain rfl := Option.some.inj isFile
      cases content
  | downloaded member same =>
      rw [only] at member
      rw [← List.mem_singleton.mp member]
      exact same

/-- The two stations of the plain run have the addresses of their rows, and not the same. -/
theorem addresses_exclusive_served : ∃ first ∈ servedService.sent, ∃ second ∈ servedService.sent,
    first.FromRow plainForeign shippedPath emptyDir servedService.attempts ∧
      second.FromRow plainForeign shippedPath emptyDir servedService.attempts ∧
      first.reply.yiaddr = [1, 2, 3, 4] ∧ first.reply.chaddr ≠ second.reply.chaddr ∧
      first.reply.yiaddr ≠ second.reply.yiaddr := by
  obtain ⟨attempt, only, -⟩ := exists_attempt_plain
  obtain ⟨second, rest, log, isSecond, others⟩ := List.map_eq_cons_iff.mp plain_run.2.1
  obtain ⟨first, isRest, isFirst⟩ := List.map_eq_singleton_iff.mp others
  rw [isRest] at log
  simp only [Sent.facts, SentFacts.mk.injEq] at isFirst isSecond
  obtain ⟨-, -, -, station, address⟩ := isFirst
  obtain ⟨-, -, -, other, -⟩ := isSecond
  have agree : TablesAgree plainForeign shippedPath emptyDir servedService.attempts := by
    intro first second isFirst isSecond client other found otherFound sameIp
    have sound := sound_of_reachable durable_emptyDir reachable_served
    obtain ⟨text, table⟩ := parse_of_known sound.life isFirst
    obtain ⟨listed, -, holds⟩ := Clients.holds_of_parse table
    rw [← known_plain only isSecond, known_plain only isFirst] at otherFound
    have same := List.inj_on_of_nodup_map holds.ips ((holds.records _ _).mp found).1
      ((holds.records _ _).mp otherFound).1 sameIp
    rw [same]
  obtain ⟨rows, exclusive⟩ := addresses_exclusive durable_emptyDir reachable_served
  have inFirst : first ∈ servedService.sent := by rw [log]; exact .tail _ (.head _)
  have inSecond : second ∈ servedService.sent := by rw [log]; exact .head _
  have apart : first.reply.chaddr ≠ second.reply.chaddr := by
    rw [station, other]
    decide
  refine ⟨first, inFirst, second, inSecond, rows first inFirst, rows second inSecond, address,
    apart, fun same => apart ?_⟩
  exact exclusive agree first inFirst second inSecond (by rw [address]; decide) same

/-- The offer to the first client of the plain run, and what takes it up. -/
theorem exists_outstanding_plain : ∃ offer discover selecting,
    offer ∈ servedService.sent ∧ offer.config = Config.shipped ∧
      offer.server = .new 192 0 2 10 ∧ offer.reply.yiaddr = [1, 2, 3, 4] ∧
      Packet.parse offer.bytes = .ok discover ∧
      Packet.parse selectingArrival.bytes = .ok selecting ∧ Discovers discover ∧
      discover.mac = Clients.shippedClient.mac ∧ TakesUp selecting discover offer.reply := by
  obtain ⟨attempt, only, -, listed⟩ := exists_attempt_plain
  obtain ⟨second, rest, log, -, others⟩ := List.map_eq_cons_iff.mp plain_run.2.1
  obtain ⟨offer, isRest, isOffer⟩ := List.map_eq_singleton_iff.mp others
  rw [isRest] at log
  simp only [Sent.facts, SentFacts.mk.injEq] at isOffer
  obtain ⟨config, server, bytes, -, address⟩ := isOffer
  have logged : offer ∈ servedService.sent := by rw [log]; exact .tail _ (.head _)
  obtain ⟨discover, given, selecting, -, parsed, parsedSelecting, -, replied, discovers, mac,
    selects, -⟩ := exists_exchange_shipped
  have sound := sound_of_reachable durable_emptyDir reachable_served
  obtain ⟨clients, known, served⟩ := (sound.sent offer logged).2
  obtain ⟨packet, client, isPacket, found, answered⟩ := serveReply_eq_some served
  rw [bytes] at isPacket
  obtain rfl : packet = discover := Except.ok.inj (isPacket.symm.trans parsed)
  rw [← known_plain only known, mac, listed] at found
  rw [← Option.some.inj found, config, server, replied] at answered
  obtain rfl : given = offer.reply := Option.some.inj (Except.ok.inj answered)
  exact ⟨offer, packet, selecting, logged, config, server, address, by rw [bytes]; exact parsed,
    parsedSelecting, discovers, mac, .inl selects⟩

/-- The offer of the killed process is acknowledged by the next one, and refused once the table
has another address for the client. -/
theorem offers_outlive_resumed : ∃ offer ∈ servedService.sent,
    (∃ ack, (resumedService.receive selectingArrival).sent = ack :: servedService.sent ∧
      ack.reply.message = 5 ∧ ack.reply.yiaddr = offer.reply.yiaddr) ∧
    ∃ nak, (movedService.receive selectingArrival).sent = nak :: servedService.sent ∧
      nak.reply.message = 6 := by
  obtain ⟨attempt, only, -, listed⟩ := exists_attempt_plain
  obtain ⟨-, log, -, -, active, resumedConfig, movedConfig, moved, answered⟩ := plain_run
  obtain ⟨keptAttempts, keptSent, keptMoved⟩ := sent_resumed
  obtain ⟨offer, discover, selecting, logged, config, server, address, parsed, parsedSelecting,
    discovers, mac, takes⟩ := exists_outstanding_plain
  have arrives : (selectingArrival.datagram Config.shipped).server = offer.server := by
    rw [server]
    rfl
  refine ⟨offer, logged, ?_, ?_⟩
  · obtain ⟨process, running, isConfig⟩ := Option.map_eq_some_iff.mp resumedConfig
    obtain ⟨clients, isActive⟩ := Option.isSome_iff_exists.mp active
    rw [Service.snapshot, running, Option.bind_some] at isActive
    have same : SameRow plainForeign shippedPath emptyDir resumedService.attempts
        Clients.shippedClient := by
      intro table known
      rw [← known_plain (keptAttempts.trans only) known]
      exact listed
    have outstanding : Outstanding resumedService process.config offer discover :=
      ⟨by rw [keptSent]; exact logged, by rw [isConfig, config], parsed, discovers⟩
    obtain ⟨ack, traffic, goes, isAck, given⟩ := (offers_outlive_processes durable_emptyDir
      reachable_resumed.1 running isActive outstanding (by rw [isConfig]; exact arrives)
      parsedSelecting takes).1 Clients.shippedClient mac.symm same
    rw [goes, keptSent]
    exact ⟨_, rfl, isAck, given⟩
  · obtain ⟨process, running, isConfig⟩ := Option.map_eq_some_iff.mp movedConfig
    obtain ⟨clients, isActive, isRow⟩ := Option.bind_eq_some_iff.mp moved
    obtain ⟨row, found, other⟩ := Option.map_eq_some_iff.mp isRow
    rw [Service.snapshot, running, Option.bind_some] at isActive
    have outstanding : Outstanding movedService process.config offer discover :=
      ⟨by rw [keptMoved]; exact logged, by rw [isConfig, config], parsed, discovers⟩
    have refused := (offers_outlive_processes durable_emptyDir reachable_moved.1 running isActive
      outstanding (by rw [isConfig]; exact arrives) parsedSelecting takes).2 row
      (by rw [mac, found]) (by rw [other, address]; decide)
    rw [keptMoved] at refused
    rcases refused with silent | refused
    · rw [silent, ← List.length_map Sent.facts, log] at answered
      cases answered
    · exact refused

/-- After the restart every datagram gets the reply that it got before the kill. -/
theorem restarts_serve_alike_resumed : ∃ attempt, servedService.attempts.getLast? = some attempt ∧
    ∀ config server bytes, serveReply resumedService.snapshot config server bytes =
      serveReply servedService.snapshot config server bytes := by
  obtain ⟨attempt, only, persisted, -⟩ := exists_attempt_plain
  have latest : servedService.attempts.getLast? = some attempt := by rw [only]; rfl
  obtain ⟨-, -, -, active, resumedActive, -⟩ := plain_run
  exact ⟨attempt, latest, (restarts_serve_alike durable_emptyDir reachable_served latest
    persisted).1 resumedService reachable_resumed.1 sent_resumed.1 active resumedActive⟩

end Macdack
