import Macdack.Runtime.Metrics
import Macdack.Dhcp.Dump
import Macdack.Dhcp.Serve

/-!
# Traffic and its metrics

`serve` records every datagram before it replies: one that does not parse under fixed
labels, and another under the location and the hostname of its client row, its stage, its
route mode and its message. What a stranger sends can only choose among the last three.

`serverRun` is `serve` on any datagrams, with replacements of the snapshot and with
scrapes in between. `traffic_bounded` says where the labels of every series come from and
how many series there can be.
-/

set_option autoImplicit false

namespace Macdack

/-! ## One datagram -/

def RouteMode.name : RouteMode → String
  | classless => "classless"
  | default => "default"

/-- A datagram as `serve` receives it: the address that it was sent to, the time, and
whether a reply to it can be sent. -/
structure Datagram where
  bytes : Bytes
  server : Ipv4Addr
  now : Instant
  sendable : Bool

/-- The row of the sender. -/
def clientOf (snapshot : Option Clients) (packet : Packet) : Option Client :=
  snapshot.bind fun clients => clients.records[packet.mac]?

/-- The part of a round of `serve` behind `record_request`. -/
def answerRequest (config : Config) (datagram : Datagram) (packet : Packet)
    (client : Option Client) (traffic : Traffic) : Outcome (Option Reply) × Traffic :=
  match client with
  | none => (.ok none, { traffic with unknown := traffic.unknown + 1 })
  | some client =>
      match packet.bootModeMismatch client with
      | .error stop => (.error stop, traffic)
      | .ok true =>
          (.ok none, { traffic with bootModeMismatches := traffic.bootModeMismatches + 1 })
      | .ok false =>
          match reply packet client config datagram.server with
          | .error .panic => (.error .panic, traffic)
          | .error (.error _) => (.ok none, { traffic with errors := traffic.errors + 1 })
          | .ok none => (.ok none, traffic)
          | .ok (some response) =>
              let traffic :=
                if response.relayOptionOmitted then { traffic with errors := traffic.errors + 1 }
                else traffic
              if datagram.sendable then
                (.ok (some response), traffic.recordResponse (messageName response.message))
              else (.ok (some response), { traffic with errors := traffic.errors + 1 })

/-- A round of `serve`: the reply, and the metrics that are left. -/
def serveDatagram (config : Config) (snapshot : Option Clients) (datagram : Datagram)
    (traffic : Traffic) : Outcome (Option Reply) × Traffic :=
  match Packet.parse datagram.bytes with
  | .error .panic => (.error .panic, traffic)
  | .error (.error _) =>
      let traffic := traffic.recordRequest "unknown" "unknown" "unknown" "unknown" "invalid"
        datagram.now
      (.ok none, { traffic with errors := traffic.errors + 1 })
  | .ok packet =>
      let client := clientOf snapshot packet
      let location := (client.map Client.location).getD "unknown"
      let hostname := (client.map Client.hostname).getD "unknown"
      match packet.stage, packet.routeMode with
      | .error stop, _ => (.error stop, traffic)
      | _, .error stop => (.error stop, traffic)
      | .ok (stage, _), .ok route =>
          answerRequest config datagram packet client
            (traffic.recordRequest location hostname stage.name route.name
              (messageName packet.message) datagram.now)

/-- What is left of a result when an error is only logged. -/
def logged : Outcome (Option Reply) → Outcome (Option Reply)
  | .error (.error _) => .ok none
  | result => result

theorem answerRequest_reply (config : Config) (datagram : Datagram) (packet : Packet)
    (client : Client) (traffic : Traffic) :
    (answerRequest config datagram packet (some client) traffic).1 =
      logged (packet.bootModeMismatch client >>= fun mismatch =>
        if mismatch then .ok none else reply packet client config datagram.server) := by
  rw [answerRequest, Packet.bootModeMismatch_eq]
  cases packet.bootStage.1.isFirmware && packet.bootStage.1.name != client.bootType with
  | true => rfl
  | false =>
      obtain ⟨bytes, server, now, sendable⟩ := datagram
      cases reply packet client config server with
      | error stop => cases stop <;> rfl
      | ok sent =>
          cases sent with
          | none => rfl
          | some response => cases sendable <;> rfl

/-- **A round of `serve`** sends what `serveReply` returns, whatever the metrics are. -/
theorem serveDatagram_reply (config : Config) (snapshot : Option Clients) (datagram : Datagram)
    (traffic : Traffic) : (serveDatagram config snapshot datagram traffic).1 =
      logged (serveReply snapshot config datagram.server datagram.bytes) := by
  rw [serveDatagram, serveReply]
  cases Packet.parse datagram.bytes with
  | error stop => cases stop <;> rfl
  | ok packet =>
      simp only [Packet.stage_eq, Packet.routeMode_eq, Outcome.bind_ok]
      rw [← clientOf]
      cases clientOf snapshot packet with
      | none => rfl
      | some client => exact answerRequest_reply config datagram packet client _

/-! ## Runs -/

/-- The server between two events. A panic ends `serve`. -/
structure Server where
  snapshot : Option Clients
  traffic : Traffic
  alive : Bool

inductive ServerEvent where
  | received (datagram : Datagram)
  | replaced (snapshot : Option Clients)
  | scraped (now : Instant)

namespace Server

def initial : Server := ⟨none, .initial, true⟩

def step (config : Config) (server : Server) : ServerEvent → Server
  | .received datagram =>
      if server.alive then
        let served := serveDatagram config server.snapshot datagram server.traffic
        { server with traffic := served.2, alive := served.1.isOk }
      else server
  | .replaced snapshot => { server with snapshot }
  | .scraped now => { server with traffic := (server.traffic.scrape now).2 }

/-- The server after a history, the newest event first. -/
def run (config : Config) : List ServerEvent → Server
  | [] => initial
  | event :: older => (run config older).step config event

/-- The keys of the request series. -/
def keys (server : Server) : List RequestLabels := server.traffic.requestLabels.series.keys

end Server

/-! ## The labels of a datagram -/

/-- The labels of a datagram that does not parse. -/
def invalidLabels : RequestLabels := ⟨"unknown", "unknown", "unknown", "unknown", "invalid"⟩

/-- The labels under which `serve` records a datagram. -/
def recordedLabels (snapshot : Option Clients) (bytes : Bytes) : RequestLabels :=
  match Packet.parse bytes with
  | .error _ => invalidLabels
  | .ok packet =>
      { location := ((clientOf snapshot packet).map Client.location).getD "unknown"
        hostname := ((clientOf snapshot packet).map Client.hostname).getD "unknown"
        stage := packet.bootStage.1.name
        route := (if packet.wantsClassless then RouteMode.classless else .default).name
        message := messageName packet.message }

/-- Behind `record_request` a round does not touch the request series. -/
theorem requestLabels_answerRequest (config : Config) (datagram : Datagram) (packet : Packet)
    (client : Option Client) (traffic : Traffic) :
    (answerRequest config datagram packet client traffic).2.requestLabels =
      traffic.requestLabels := by
  cases client with
  | none => rfl
  | some client =>
      rw [answerRequest, Packet.bootModeMismatch_eq]
      cases packet.bootStage.1.isFirmware && packet.bootStage.1.name != client.bootType with
      | true => rfl
      | false =>
          cases reply packet client config datagram.server with
          | error stop => cases stop <;> rfl
          | ok sent =>
              cases sent with
              | none => rfl
              | some response =>
                  obtain ⟨bytes, destination, message, bootFile, omitted⟩ := response
                  obtain ⟨bytes, server, now, sendable⟩ := datagram
                  cases omitted <;> cases sendable <;> rfl

/-- **A round of `serve`** counts the datagram under its labels, or leaves the series as
they are. -/
theorem requestLabels_serveDatagram (config : Config) (snapshot : Option Clients)
    (datagram : Datagram) (traffic : Traffic) :
    (serveDatagram config snapshot datagram traffic).2.requestLabels =
        (traffic.requestLabels.prune datagram.now).count
          (recordedLabels snapshot datagram.bytes) datagram.now ∨
      (serveDatagram config snapshot datagram traffic).2.requestLabels =
        traffic.requestLabels := by
  rw [serveDatagram, recordedLabels]
  cases Packet.parse datagram.bytes with
  | error stop =>
      cases stop with
      | panic => exact .inr rfl
      | error chain => exact .inl rfl
  | ok packet =>
      left
      simp only [Packet.stage_eq, Packet.routeMode_eq]
      exact requestLabels_answerRequest config datagram packet _ _

/-! ## Which labels there are -/

def stageLabels : List String := ["bios", "uefi", "ipxe", "os", "unknown"]

def routeLabels : List String := ["classless", "default"]

def messageLabels : List String := ["discover", "request", "decline", "release", "inform"]

/-- A firmware always gets the default route. -/
def routesOf (stage : String) : List String :=
  if stage = "bios" ∨ stage = "uefi" then ["default"] else routeLabels

/-- Every choice of a stage, a route and a message. -/
def siteLabels (site : String × String) : List RequestLabels :=
  stageLabels.flatMap fun stage => (routesOf stage).flatMap fun route =>
    messageLabels.map fun message => ⟨site.1, site.2, stage, route, message⟩

/-- A stage, a route and a message that a packet can have. -/
structure Allowed (labels : RequestLabels) : Prop where
  stage : labels.stage ∈ stageLabels
  route : labels.route ∈ routeLabels
  firmware : labels.stage = "bios" ∨ labels.stage = "uefi" → labels.route = "default"
  message : labels.message ∈ messageLabels

theorem length_siteLabels (site : String × String) : (siteLabels site).length = 40 := rfl

theorem mem_siteLabels {labels : RequestLabels} (allowed : Allowed labels) :
    labels ∈ siteLabels (labels.location, labels.hostname) := by
  rw [siteLabels, List.mem_flatMap]
  refine ⟨labels.stage, allowed.stage, List.mem_flatMap.mpr ⟨labels.route, ?_,
    List.mem_map.mpr ⟨labels.message, allowed.message, rfl⟩⟩⟩
  rw [routesOf]
  by_cases firmware : labels.stage = "bios" ∨ labels.stage = "uefi"
  · rw [if_pos firmware, allowed.firmware firmware]
    exact .head []
  · rw [if_neg firmware]
    exact allowed.route

/-- **A packet that parses** has allowed labels. -/
theorem allowed_of_parse {snapshot : Option Clients} {bytes : Bytes} {packet : Packet}
    (parsed : Packet.parse bytes = .ok packet) : Allowed (recordedLabels snapshot bytes) := by
  have messages : ∀ message ∈ clientMessages, messageName message ∈ messageLabels := by
    intro message listed
    simp only [clientMessages, List.mem_cons, List.not_mem_nil, or_false] at listed
    rcases listed with rfl | rfl | rfl | rfl | rfl <;> decide
  have stages : ∀ stage : Stage, stage.name ∈ stageLabels := by
    intro stage
    cases stage <;> decide
  have routes : ∀ route : RouteMode, route.name ∈ routeLabels := by
    intro route
    cases route <;> decide
  have firmware : ∀ stage : Stage, stage.name = "bios" ∨ stage.name = "uefi" →
      stage.isFirmware = true := by
    intro stage
    cases stage <;> decide
  rw [recordedLabels, parsed]
  refine ⟨stages _, routes _, fun named => ?_, messages _ ?_⟩
  · have default : packet.wantsClassless = false := by
      rw [Packet.wantsClassless, firmware _ named]
      rfl
    simp [default, RouteMode.name]
  · exact (Packet.wellFormed_of_parse parsed).rules.supported

/-! ## The series of a run -/

section Runs

variable {config : Config} {history : List ServerEvent} {labels : RequestLabels}

/-- A datagram that `serve` received, and the snapshot that was active then. -/
def Handled (config : Config) (history : List ServerEvent) (snapshot : Option Clients)
    (datagram : Datagram) : Prop :=
  ∃ older, .received datagram :: older <:+ history ∧ (Server.run config older).alive = true ∧
    (Server.run config older).snapshot = snapshot

/-- A datagram leaves the snapshot. -/
theorem Server.snapshot_received (config : Config) (server : Server) (datagram : Datagram) :
    (server.step config (.received datagram)).snapshot = server.snapshot := by
  rw [Server.step]
  split <;> rfl

/-- The table of an active snapshot was put in place before. -/
theorem replaced_of_snapshot {clients : Clients}
    (active : (Server.run config history).snapshot = some clients) :
    .replaced (some clients) ∈ history := by
  induction history with
  | nil => cases active
  | cons event older ih =>
      cases event with
      | received datagram =>
          rw [Server.run, Server.snapshot_received] at active
          exact .tail _ (ih active)
      | replaced snapshot =>
          cases (show snapshot = some clients from active)
          exact .head _
      | scraped now => exact .tail _ (ih active)

/-- **One event** adds at most the series of the datagram that it brings. -/
theorem mem_series_step {event : ServerEvent}
    (member : labels ∈ (Server.run config (event :: history)).traffic.requestLabels.series) :
    labels ∈ (Server.run config history).traffic.requestLabels.series ∨
      ∃ datagram, event = .received datagram ∧ (Server.run config history).alive = true ∧
        labels = recordedLabels (Server.run config history).snapshot datagram.bytes := by
  rw [Server.run] at member
  generalize Server.run config history = server at member ⊢
  cases event with
  | received datagram =>
      rw [Server.step] at member
      by_cases alive : server.alive = true
      · rw [if_pos alive] at member
        change labels ∈
          (serveDatagram config server.snapshot datagram server.traffic).2.requestLabels.series
            at member
        rcases requestLabels_serveDatagram config server.snapshot datagram server.traffic with
          counted | unchanged
        · rw [counted] at member
          rcases RequestMetrics.mem_count member with same | kept
          · exact .inr ⟨datagram, rfl, alive, same⟩
          · exact .inl (RequestMetrics.mem_of_mem_prune kept)
        · rw [unchanged] at member
          exact .inl member
      · rw [if_neg alive] at member
        exact .inl member
  | replaced snapshot => exact .inl member
  | scraped now => exact .inl (RequestMetrics.mem_of_mem_prune member)

/-- **Every series of a run** is that of a datagram that was handled. -/
theorem exists_handled
    (member : labels ∈ (Server.run config history).traffic.requestLabels.series) :
    ∃ snapshot datagram, Handled config history snapshot datagram ∧
      labels = recordedLabels snapshot datagram.bytes := by
  induction history with
  | nil => exact absurd member Std.ExtTreeMap.not_mem_empty
  | cons event older ih =>
      rcases mem_series_step member with old | ⟨datagram, rfl, alive, recorded⟩
      · obtain ⟨snapshot, datagram, ⟨before, suffix, handled⟩, recorded⟩ := ih old
        exact ⟨snapshot, datagram,
          ⟨before, suffix.trans (List.suffix_cons event older), handled⟩, recorded⟩
      · exact ⟨_, datagram, ⟨older, List.suffix_refl _, alive, rfl⟩, recorded⟩

/-- The sender has no row, or the datagram does not parse. -/
def Stranger (snapshot : Option Clients) (bytes : Bytes) : Prop :=
  ∀ packet, Packet.parse bytes = .ok packet → clientOf snapshot packet = none

/-- The labels of strangers. -/
def strangerLabels : List RequestLabels := invalidLabels :: siteLabels ("unknown", "unknown")

theorem recordedLabels_of_error {snapshot : Option Clients} {bytes : Bytes} {stop : Stop}
    (refused : Packet.parse bytes = .error stop) :
    recordedLabels snapshot bytes = invalidLabels := by
  rw [recordedLabels, refused]

/-- Without a row the location and the hostname are unknown. -/
theorem site_of_no_client {snapshot : Option Clients} {bytes : Bytes} {packet : Packet}
    (parsed : Packet.parse bytes = .ok packet) (missing : clientOf snapshot packet = none) :
    (recordedLabels snapshot bytes).location = "unknown" ∧
      (recordedLabels snapshot bytes).hostname = "unknown" := by
  simp [recordedLabels, parsed, missing]

/-- With a row they are those of the row. -/
theorem site_of_client {snapshot : Option Clients} {bytes : Bytes} {packet : Packet}
    {client : Client} (parsed : Packet.parse bytes = .ok packet)
    (found : clientOf snapshot packet = some client) :
    (recordedLabels snapshot bytes).location = client.location ∧
      (recordedLabels snapshot bytes).hostname = client.hostname := by
  simp [recordedLabels, parsed, found]

/-- A row of the sender is a row of an active table. -/
theorem exists_record {snapshot : Option Clients} {packet : Packet} {client : Client}
    (found : clientOf snapshot packet = some client) :
    ∃ clients, snapshot = some clients ∧ clients.records[packet.mac]? = some client :=
  Option.bind_eq_some_iff.mp found

/-- **A stranger** is recorded under one of the labels of strangers. -/
theorem recordedLabels_of_stranger {snapshot : Option Clients} {bytes : Bytes}
    (stranger : Stranger snapshot bytes) : recordedLabels snapshot bytes ∈ strangerLabels := by
  cases parsed : Packet.parse bytes with
  | error stop =>
      rw [recordedLabels_of_error parsed]
      exact .head _
  | ok packet =>
      obtain ⟨location, hostname⟩ := site_of_no_client parsed (stranger packet parsed)
      have allowed : Allowed (recordedLabels snapshot bytes) := allowed_of_parse parsed
      have listed := mem_siteLabels allowed
      rw [location, hostname] at listed
      exact .tail _ listed

/-- A key is made of a row of a then-active table, or of the row that is not there. -/
theorem source_of_series
    (member : labels ∈ (Server.run config history).traffic.requestLabels.series) :
    labels = invalidLabels ∨ Allowed labels ∧
      ((labels.location = "unknown" ∧ labels.hostname = "unknown") ∨
        ∃ clients datagram packet client, Handled config history (some clients) datagram ∧
          Packet.parse datagram.bytes = .ok packet ∧
            clients.records[packet.mac]? = some client ∧
              labels.location = client.location ∧ labels.hostname = client.hostname) := by
  obtain ⟨snapshot, datagram, handled, rfl⟩ := exists_handled member
  cases parsed : Packet.parse datagram.bytes with
  | error stop => exact .inl (recordedLabels_of_error parsed)
  | ok packet =>
      refine .inr ⟨allowed_of_parse parsed, ?_⟩
      cases found : clientOf snapshot packet with
      | none => exact .inl (site_of_no_client parsed found)
      | some client =>
          obtain ⟨clients, rfl, row⟩ := exists_record found
          exact .inr ⟨clients, datagram, packet, client, handled, parsed, row,
            site_of_client parsed found⟩

/-- The labels of several sites, and those of a datagram that does not parse. -/
def labelsOfSites (sites : List (String × String)) : List RequestLabels :=
  invalidLabels :: sites.flatMap siteLabels

theorem length_labelsOfSites (sites : List (String × String)) :
    (labelsOfSites sites).length = 1 + 40 * sites.length := by
  rw [labelsOfSites, List.length_cons, Nat.add_comm]
  congr 1
  induction sites with
  | nil => rfl
  | cons site sites ih =>
      rw [List.flatMap_cons, List.length_append, length_siteLabels, ih, List.length_cons]
      omega

/-- The rows of the tables bound the number of series. -/
theorem size_series_le {sites : List (String × String)}
    (listed : ∀ clients, .replaced (some clients) ∈ history →
      ∀ (mac : Mac) client, clients.records[mac]? = some client →
        (client.location, client.hostname) ∈ sites) :
    (Server.run config history).traffic.requestLabels.series.size ≤
      1 + 40 * (1 + sites.length) := by
  have inside : (Server.run config history).traffic.requestLabels.series.keys ⊆
      labelsOfSites (("unknown", "unknown") :: sites) := by
    intro labels member
    rw [labelsOfSites, List.mem_cons, List.mem_flatMap]
    rcases source_of_series (Std.ExtTreeMap.mem_keys.mp member) with invalid | ⟨allowed, source⟩
    · exact .inl invalid
    · refine .inr ⟨(labels.location, labels.hostname), ?_, mem_siteLabels allowed⟩
      rcases source with ⟨location, hostname⟩ |
        ⟨clients, datagram, packet, client, handled, -, row, location, hostname⟩
      · rw [location, hostname]
        exact .head _
      · obtain ⟨older, suffix, -, active⟩ := handled
        rw [location, hostname]
        have replaced := suffix.subset (.tail _ (replaced_of_snapshot active))
        exact .tail _ (listed clients replaced packet.mac client row)
  have bound := Std.ExtTreeMap.nodup_keys.length_le_of_subset inside
  rw [Std.ExtTreeMap.length_keys, length_labelsOfSites, List.length_cons,
    Nat.add_comm sites.length] at bound
  exact bound

/-- Strangers have at most 41 labels among them. -/
theorem length_strangers_le {keys : List RequestLabels} (nodup : keys.Nodup)
    (strangers : ∀ labels ∈ keys, ∃ snapshot datagram, Handled config history snapshot datagram ∧
      Stranger snapshot datagram.bytes ∧ labels = recordedLabels snapshot datagram.bytes) :
    keys.length ≤ 1 + 40 := by
  have inside : keys ⊆ strangerLabels := by
    intro labels member
    obtain ⟨snapshot, datagram, -, stranger, rfl⟩ := strangers labels member
    exact recordedLabels_of_stranger stranger
  exact nodup.length_le_of_subset inside

/-- **Traffic cannot grow the metrics.** In every run of `serve`, with any datagrams and any
replacements of the snapshot, every series has fixed labels or takes its location and its
hostname from one row of a table that was active when its datagram was handled, or both are
unknown. So the rows bound the number of series, and the strangers have at most 41 labels
among them. -/
theorem traffic_bounded (config : Config) (history : List ServerEvent) :
    (∀ labels ∈ (Server.run config history).traffic.requestLabels.series,
      labels = invalidLabels ∨ Allowed labels ∧
        ((labels.location = "unknown" ∧ labels.hostname = "unknown") ∨
          ∃ clients datagram packet client, Handled config history (some clients) datagram ∧
            Packet.parse datagram.bytes = .ok packet ∧
              clients.records[packet.mac]? = some client ∧
                labels.location = client.location ∧ labels.hostname = client.hostname)) ∧
    (∀ sites : List (String × String), (∀ clients, .replaced (some clients) ∈ history →
        ∀ (mac : Mac) client, clients.records[mac]? = some client →
          (client.location, client.hostname) ∈ sites) →
      (Server.run config history).traffic.requestLabels.series.size ≤
        1 + 40 * (1 + sites.length)) ∧
    (∀ keys : List RequestLabels, keys.Nodup → (∀ labels ∈ keys, ∃ snapshot datagram,
        Handled config history snapshot datagram ∧ Stranger snapshot datagram.bytes ∧
          labels = recordedLabels snapshot datagram.bytes) →
      keys.length ≤ 1 + 40) :=
  ⟨fun _ => source_of_series, fun _ => size_series_le, fun _ => length_strangers_le⟩

end Runs

/-- The table of one row. -/
def oneRow : Clients := Clients.empty.insert Clients.shippedClient

/-- A DISCOVER of the client of the row. -/
def rowDatagram : Datagram := ⟨Packet.wire 1 [], .new 192 0 2 10, 1, true⟩

/-- The same from a station without a row. -/
def strangerDatagram : Datagram := ⟨(Packet.wire 1 []).set 28 2, .new 192 0 2 10, 2, true⟩

/-- A malformed datagram before the table is active, and then both of these. -/
def oneRowHistory : List ServerEvent :=
  [.received strangerDatagram, .received rowDatagram, .replaced (some oneRow),
    .received ⟨[], .unspecified, 0, true⟩]

/-- The client of the row is counted under its site, the other station and the malformed
datagram as strangers. -/
theorem traffic_bounded_row :
    (∃ clients datagram packet client,
      Handled Config.shipped oneRowHistory (some clients) datagram ∧
        Packet.parse datagram.bytes = .ok packet ∧
          clients.records[packet.mac]? = some client ∧ "dc1" = client.location ∧
            "host.name1" = client.hostname) ∧
    (Server.run Config.shipped oneRowHistory).traffic.requestLabels.series.size ≤
      1 + 40 * (1 + 1) ∧
    [recordedLabels (some oneRow) strangerDatagram.bytes, recordedLabels none []].length ≤
      1 + 40 := by
  obtain ⟨sources, rows, strangers⟩ := traffic_bounded Config.shipped oneRowHistory
  have counted : (recordedLabels (some oneRow) rowDatagram.bytes).location = "dc1" ∧
      (recordedLabels (some oneRow) rowDatagram.bytes).hostname = "host.name1" ∧
      recordedLabels (some oneRow) rowDatagram.bytes ∈
        (Server.run Config.shipped oneRowHistory).traffic.requestLabels.series ∧
      (Server.run Config.shipped (oneRowHistory.drop 1)).alive = true ∧
      (Packet.parse strangerDatagram.bytes).toOption.all (fun packet =>
        decide (clientOf (some oneRow) packet = none)) = true ∧
      [recordedLabels (some oneRow) strangerDatagram.bytes, recordedLabels none []].Nodup := by
    decide +kernel
  obtain ⟨location, hostname, member, alive, noRow, nodup⟩ := counted
  refine ⟨?_, rows [("dc1", "host.name1")] ?_, strangers _ nodup ?_⟩
  · rcases sources _ member with invalid | ⟨-, ⟨unknown, -⟩ | source⟩
    · rw [invalid] at location
      exact absurd location (by decide)
    · rw [location] at unknown
      exact absurd unknown (by decide)
    · rwa [location, hostname] at source
  · intro clients replaced mac client row
    simp only [oneRowHistory, List.mem_cons, reduceCtorEq, ServerEvent.replaced.injEq,
      Option.some.injEq, List.not_mem_nil, or_false, false_or] at replaced
    rw [replaced, oneRow, Clients.insert, Std.ExtTreeMap.getElem?_insert] at row
    split at row
    · cases row
      exact .head _
    · rw [Clients.empty, Std.ExtTreeMap.getElem?_empty] at row
      cases row
  · refine List.forall_mem_cons.mpr ⟨?_, List.forall_mem_singleton.mpr ?_⟩
    · refine ⟨some oneRow, strangerDatagram, ⟨_, List.suffix_refl _, alive, ?_⟩, ?_, rfl⟩
      · rw [Server.run, Server.snapshot_received]
        rfl
      · intro packet parsed
        rw [parsed] at noRow
        exact of_decide_eq_true noRow
    · refine ⟨none, ⟨[], .unspecified, 0, true⟩, ⟨[], ?_, rfl, rfl⟩, ?_, rfl⟩
      · exact ⟨oneRowHistory.take 3, rfl⟩
      · exact fun _ _ => rfl

end Macdack
