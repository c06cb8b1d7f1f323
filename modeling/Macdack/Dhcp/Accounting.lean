import Macdack.Library.Tally
import Macdack.Dhcp.Traffic
import Macdack.Runtime.Steady

/-!
# What the counters count

Every datagram that `serve` handles has one fate. The counters of the metrics are those of
the fates of all datagrams that were handled (`counters_accounted`), and between them every
request is accounted for: one that no counter shows but `requests` was silently dropped, as
the protocol wants it. The series of requests, which expire, never add up to more than the
requests.
-/

set_option autoImplicit false

namespace Macdack

/-! ## Fates -/

/-- What becomes of a datagram: it does not parse, it is from a station without a row, its
firmware is not that of the row, it is not answered, its reply cannot be made, or its reply
is handed to the socket. A reply can lack the relay option that it should return. -/
inductive Fate where
  | malformed
  | stranger
  | otherFirmware
  | silent
  | refused
  | replied (message : UInt8) (omitted sent : Bool)
  | panicked
  deriving DecidableEq, Repr

namespace Fate

/-- The name of the message that was sent. -/
def response : Fate → Option String
  | replied message _ true => some (messageName message)
  | _ => none

def isOmitted : Fate → Bool
  | replied _ omitted _ => omitted
  | _ => false

def isUnsent : Fate → Bool
  | replied _ _ sent => !sent
  | _ => false

end Fate

/-- The fate of a datagram from a station with this row. -/
def fateOfClient (config : Config) (datagram : Datagram) (packet : Packet) (client : Client) :
    Fate :=
  if packet.bootStage.1.isFirmware && packet.bootStage.1.name != client.bootType then
    .otherFirmware
  else
    match reply packet client config datagram.server with
    | .error .panic => .panicked
    | .error (.error _) => .refused
    | .ok none => .silent
    | .ok (some response) =>
        .replied response.message response.relayOptionOmitted datagram.sendable

def fate (config : Config) (snapshot : Option Clients) (datagram : Datagram) : Fate :=
  match Packet.parse datagram.bytes with
  | .error _ => .malformed
  | .ok packet => ((clientOf snapshot packet).map
      (fateOfClient config datagram packet)).getD .stranger

/-- What `serve` counts of a datagram behind `record_request`. -/
def Fate.count : Fate → Traffic → Traffic
  | malformed, traffic | refused, traffic => { traffic with errors := traffic.errors + 1 }
  | stranger, traffic => { traffic with unknown := traffic.unknown + 1 }
  | otherFirmware, traffic =>
      { traffic with bootModeMismatches := traffic.bootModeMismatches + 1 }
  | silent, traffic | panicked, traffic => traffic
  | replied message omitted sent, traffic =>
      let traffic := if omitted then { traffic with errors := traffic.errors + 1 } else traffic
      if sent then traffic.recordResponse (messageName message)
      else { traffic with errors := traffic.errors + 1 }

/-! Which counters a fate changes. -/

namespace Fate

variable (fate : Fate) (traffic : Traffic)

theorem requests_count : (fate.count traffic).requests = traffic.requests := by
  rcases fate with _ | _ | _ | _ | _ | ⟨message, _ | _, _ | _⟩ | _ <;> rfl

theorem requestLabels_count : (fate.count traffic).requestLabels = traffic.requestLabels := by
  rcases fate with _ | _ | _ | _ | _ | ⟨message, _ | _, _ | _⟩ | _ <;> rfl

theorem unknown_count : (fate.count traffic).unknown =
    traffic.unknown + if fate == .stranger then 1 else 0 := by
  rcases fate with _ | _ | _ | _ | _ | ⟨message, _ | _, _ | _⟩ | _ <;> rfl

theorem mismatches_count : (fate.count traffic).bootModeMismatches =
    traffic.bootModeMismatches + if fate == .otherFirmware then 1 else 0 := by
  rcases fate with _ | _ | _ | _ | _ | ⟨message, _ | _, _ | _⟩ | _ <;> rfl

theorem errors_count : (fate.count traffic).errors =
    traffic.errors + ((if fate == .malformed then 1 else 0) +
      (if fate == .refused then 1 else 0) + (if fate.isOmitted then 1 else 0) +
        if fate.isUnsent then 1 else 0) := by
  rcases fate with _ | _ | _ | _ | _ | ⟨message, _ | _, _ | _⟩ | _ <;> rfl

theorem responses_count : (fate.count traffic).responses =
    traffic.responses + fate.response.toList.length := by
  rcases fate with _ | _ | _ | _ | _ | ⟨message, _ | _, _ | _⟩ | _ <;> rfl

theorem names_count : (fate.count traffic).responseLabels =
    (fate.response.map (Tally.bump traffic.responseLabels)).getD traffic.responseLabels := by
  rcases fate with _ | _ | _ | _ | _ | ⟨message, _ | _, _ | _⟩ | _ <;> rfl

end Fate

/-- A request under these labels. -/
def Traffic.request (traffic : Traffic) (labels : RequestLabels) (now : Instant) : Traffic :=
  traffic.recordRequest labels.location labels.hostname labels.stage labels.route labels.message
    now

theorem answerRequest_fate (config : Config) (datagram : Datagram) (packet : Packet)
    (client : Option Client) (traffic : Traffic) :
    (answerRequest config datagram packet client traffic).2 =
      ((client.map (fateOfClient config datagram packet)).getD .stranger).count traffic := by
  cases client with
  | none => rfl
  | some client =>
      rw [answerRequest, Packet.bootModeMismatch_eq, Option.map_some, Option.getD_some,
        fateOfClient]
      cases packet.bootStage.1.isFirmware && packet.bootStage.1.name != client.bootType with
      | true => rfl
      | false =>
          obtain ⟨bytes, server, now, sendable⟩ := datagram
          cases reply packet client config server with
          | error stop => cases stop <;> rfl
          | ok sent =>
              cases sent with
              | none => rfl
              | some response => cases sendable <;> rfl

/-- **A round of `serve`** records the datagram under its labels and counts its fate. -/
theorem serveDatagram_fate (config : Config) (snapshot : Option Clients) (datagram : Datagram)
    (traffic : Traffic) : (serveDatagram config snapshot datagram traffic).2 =
      (fate config snapshot datagram).count
        (traffic.request (recordedLabels snapshot datagram.bytes) datagram.now) := by
  have steady := Packet.steady_parse datagram.bytes
  rw [serveDatagram, fate, recordedLabels]
  cases parsed : Packet.parse datagram.bytes with
  | error stop =>
      cases stop with
      | panic => exact absurd parsed steady
      | error chain => rfl
  | ok packet =>
      simp only [Packet.stage_eq, Packet.routeMode_eq]
      exact answerRequest_fate config datagram packet _ _

/-! ## The accounts -/

/-- The metrics are those of requests with these fates and labels. The series may have lost
some. -/
structure Traffic.Accounts (traffic : Traffic) (fates : List Fate)
    (recorded : List RequestLabels) : Prop where
  requests : traffic.requests = fates.length
  unknown : traffic.unknown = fates.count .stranger
  mismatches : traffic.bootModeMismatches = fates.count .otherFirmware
  errors : traffic.errors = fates.count .malformed + fates.count .refused +
    fates.countP Fate.isOmitted + fates.countP Fate.isUnsent
  responses : traffic.responses = (fates.filterMap Fate.response).length
  names : Tally.Counts traffic.responseLabels (fates.filterMap Fate.response)
  length : recorded.length = fates.length
  series : ∀ labels entry, traffic.requestLabels.series[labels]? = some entry →
    entry.1 ≤ recorded.count labels

theorem RequestMetrics.getElem?_of_prune {metrics : RequestMetrics} {now : Instant}
    {labels : RequestLabels} {entry : ℕ × Instant}
    (kept : (metrics.prune now).series[labels]? = some entry) :
    metrics.series[labels]? = some entry := by
  rw [prune] at kept
  split at kept
  · rw [Std.ExtTreeMap.getElem?_filter', Option.filter_eq_some_iff] at kept
    exact kept.1
  · exact kept

/-- A request counts for the series of its key and no other. -/
theorem RequestMetrics.getElem?_of_count {metrics : RequestMetrics} {now : Instant}
    {key labels : RequestLabels} {entry : ℕ × Instant}
    (found : (metrics.count key now).series[labels]? = some entry) :
    (key = labels ∧ entry.1 = (metrics.series[labels]?.getD (0, now)).1 + 1) ∨
      (key ≠ labels ∧ metrics.series[labels]? = some entry) := by
  rw [count, Std.ExtTreeMap.getElem?_alter] at found
  split at found
  · rename_i same
    obtain rfl := Std.LawfulEqOrd.eq_of_compare same
    exact .inl ⟨rfl, congrArg Prod.fst (Option.some.inj found).symm⟩
  · rename_i other
    exact .inr ⟨fun same => other (same ▸ Std.ReflCmp.compare_self), found⟩

namespace Traffic.Accounts

theorem initial : Traffic.initial.Accounts [] [] where
  requests := rfl
  unknown := rfl
  mismatches := rfl
  errors := rfl
  responses := rfl
  names := Tally.counts_empty
  length := rfl
  series := by
    intro labels entry found
    rw [Traffic.initial, RequestMetrics.initial, Std.ExtTreeMap.getElem?_empty] at found
    cases found

variable {traffic : Traffic} {fates : List Fate} {recorded : List RequestLabels}

/-- A cleanup loses series and changes no counter. -/
theorem scrape (accounts : traffic.Accounts fates recorded) (now : Instant) :
    (traffic.scrape now).2.Accounts fates recorded :=
  { accounts with
    series := fun labels entry found =>
      accounts.series labels entry (RequestMetrics.getElem?_of_prune found) }

theorem series_request (accounts : traffic.Accounts fates recorded) (key : RequestLabels)
    (now : Instant) {labels : RequestLabels} {entry : ℕ × Instant}
    (found : (traffic.request key now).requestLabels.series[labels]? = some entry) :
    entry.1 ≤ (key :: recorded).count labels := by
  rcases RequestMetrics.getElem?_of_count found with ⟨rfl, counted⟩ | ⟨other, kept⟩
  · rw [counted, List.count_cons_self, Nat.add_le_add_iff_right]
    cases before : (traffic.requestLabels.prune now).series[key]? with
    | none => exact Nat.zero_le _
    | some old => exact accounts.series key old (RequestMetrics.getElem?_of_prune before)
  · rw [List.count_cons_of_ne other]
    exact accounts.series labels entry (RequestMetrics.getElem?_of_prune kept)

/-- **One datagram more.** -/
theorem received (accounts : traffic.Accounts fates recorded) (fate : Fate)
    (key : RequestLabels) (now : Instant) :
    (fate.count (traffic.request key now)).Accounts (fate :: fates) (key :: recorded) where
  requests := by
    rw [fate.requests_count, List.length_cons, ← accounts.requests]
    rfl
  unknown := by
    rw [fate.unknown_count, List.count_cons, ← accounts.unknown]
    rfl
  mismatches := by
    rw [fate.mismatches_count, List.count_cons, ← accounts.mismatches]
    rfl
  errors := by
    have before : (traffic.request key now).errors = traffic.errors := rfl
    rw [fate.errors_count, before, accounts.errors]
    simp only [List.count_cons, List.countP_cons]
    omega
  responses := by
    have before : (traffic.request key now).responses = traffic.responses := rfl
    rw [fate.responses_count, before, accounts.responses, List.filterMap_cons]
    cases fate.response <;> rfl
  names := by
    rw [fate.names_count, List.filterMap_cons]
    cases fate.response with
    | none => exact accounts.names
    | some name => exact accounts.names.bump name
  length := congrArg (· + 1) accounts.length
  series := by
    intro labels entry found
    rw [fate.requestLabels_count] at found
    exact accounts.series_request key now found

end Traffic.Accounts

/-! ## Runs -/

/-- The datagrams that were handled, the newest first, each with the snapshot that was active
then. -/
def handled (config : Config) : List ServerEvent → List (Option Clients × Datagram)
  | [] => []
  | .received datagram :: older =>
      if (Server.run config older).alive then
        ((Server.run config older).snapshot, datagram) :: handled config older
      else handled config older
  | .replaced _ :: older | .scraped _ :: older => handled config older

def fates (config : Config) (history : List ServerEvent) : List Fate :=
  (handled config history).map fun one => fate config one.1 one.2

def recordings (config : Config) (history : List ServerEvent) : List RequestLabels :=
  (handled config history).map fun one => recordedLabels one.1 one.2.bytes

section Runs

variable {config : Config} {history : List ServerEvent}

theorem accounts_run (config : Config) (history : List ServerEvent) :
    (Server.run config history).traffic.Accounts (fates config history)
      (recordings config history) := by
  induction history with
  | nil => exact .initial
  | cons event older ih =>
      cases event with
      | received datagram =>
          rw [fates, recordings, handled, Server.run, Server.step]
          by_cases alive : (Server.run config older).alive = true
          · rw [if_pos alive, if_pos alive, List.map_cons, List.map_cons]
            change (serveDatagram _ _ _ _).2.Accounts _ _
            rw [serveDatagram_fate]
            exact ih.received _ _ _
          · rw [if_neg alive, if_neg alive]
            exact ih
      | replaced snapshot => exact ih
      | scraped now => exact ih.scrape now

/-- Every fate counts once. -/
theorem length_fates (fates : List Fate) : fates.length + fates.countP Fate.isOmitted =
    fates.count .stranger + fates.count .otherFirmware +
      (fates.filterMap Fate.response).length +
      (fates.count .malformed + fates.count .refused + fates.countP Fate.isOmitted +
        fates.countP Fate.isUnsent) + fates.count .silent + fates.count .panicked := by
  induction fates with
  | nil => rfl
  | cons fate fates ih =>
      have response : ((fate :: fates).filterMap Fate.response).length =
          (fates.filterMap Fate.response).length + fate.response.toList.length := by
        rw [List.filterMap_cons]
        cases fate.response <;> rfl
      rw [response]
      simp only [List.length_cons, List.count_cons, List.countP_cons]
      rcases fate with _ | _ | _ | _ | _ | ⟨message, _ | _, _ | _⟩ | _ <;>
        simp only [Fate.isOmitted, Fate.isUnsent, Fate.response] <;> simp <;> omega

/-- `serve` ends with a datagram whose fate is a panic, and with no other. -/
theorem isOk_serveDatagram (config : Config) (snapshot : Option Clients) (datagram : Datagram)
    (traffic : Traffic) : (serveDatagram config snapshot datagram traffic).1.isOk =
      (fate config snapshot datagram != .panicked) := by
  rw [serveDatagram_reply, fate, serveReply]
  have steady := Packet.steady_parse datagram.bytes
  cases parsed : Packet.parse datagram.bytes with
  | error stop =>
      cases stop with
      | panic => exact absurd parsed steady
      | error chain => rfl
  | ok packet =>
      rw [Outcome.bind_ok]
      change _ = (((clientOf snapshot packet).map _).getD Fate.stranger != _)
      rw [← clientOf]
      cases clientOf snapshot packet with
      | none => rfl
      | some client =>
          simp only [Packet.bootModeMismatch_eq, Option.map_some, Option.getD_some, fateOfClient,
            Outcome.bind_ok]
          cases packet.bootStage.1.isFirmware && packet.bootStage.1.name != client.bootType with
          | true => rfl
          | false =>
              cases reply packet client config datagram.server with
              | error stop => cases stop <;> rfl
              | ok sent => cases sent <;> rfl

/-- While `serve` runs on, no datagram made it panic. -/
theorem panicked_not_mem (alive : (Server.run config history).alive = true) :
    Fate.panicked ∉ fates config history := by
  induction history with
  | nil => exact List.not_mem_nil
  | cons event older ih =>
      cases event with
      | received datagram =>
          rw [Server.run, Server.step] at alive
          by_cases before : (Server.run config older).alive = true
          · rw [if_pos before] at alive
            rw [fates, handled, if_pos before, List.map_cons, List.mem_cons, not_or]
            change (serveDatagram _ _ _ _).1.isOk = true at alive
            rw [isOk_serveDatagram, bne_iff_ne] at alive
            exact ⟨alive.symm, ih before⟩
          · rw [if_neg before] at alive
            exact absurd alive before
      | replaced snapshot => exact ih alive
      | scraped now => exact ih alive

/-- **The counters are accounted for.** In every history of datagrams, replacements of the
snapshot and scrapes, the counters are those of the fates of the datagrams that were handled.
The counters of the messages add up to the responses, and those of the series, of which some
may have expired, to at most the requests. While `serve` runs on, a request that no other
counter shows was silently dropped; a reply without its relay option counts as an error too. -/
theorem counters_accounted (config : Config) (history : List ServerEvent) :
    (Server.run config history).traffic.Accounts (fates config history)
        (recordings config history) ∧
      Tally.total (Server.run config history).traffic.responseLabels id =
        (Server.run config history).traffic.responses ∧
      Tally.total (Server.run config history).traffic.requestLabels.series Prod.fst ≤
        (Server.run config history).traffic.requests ∧
      ((Server.run config history).alive = true →
        (Server.run config history).traffic.requests +
            (fates config history).countP Fate.isOmitted =
          (Server.run config history).traffic.unknown +
            (Server.run config history).traffic.bootModeMismatches +
            (Server.run config history).traffic.responses +
            (Server.run config history).traffic.errors + (fates config history).count .silent) := by
  have accounts := accounts_run config history
  refine ⟨accounts, ?_, ?_, fun alive => ?_⟩
  · rw [accounts.names.total_eq, accounts.responses]
  · rw [accounts.requests, ← accounts.length]
    exact Tally.total_le accounts.series
  · have never := List.count_eq_zero_of_not_mem (panicked_not_mem alive)
    have every := length_fates (fates config history)
    rw [accounts.requests, accounts.unknown, accounts.mismatches, accounts.responses,
      accounts.errors, every, never, Nat.add_zero]

end Runs

/-- Of three requests one is malformed, one is answered, and one has no row. -/
theorem counters_accounted_answered :
    fates Config.shipped oneRowHistory = [.stranger, .replied 2 false true, .malformed] ∧
      (Server.run Config.shipped oneRowHistory).traffic.requests = 3 ∧
      (Server.run Config.shipped oneRowHistory).traffic.unknown +
        (Server.run Config.shipped oneRowHistory).traffic.bootModeMismatches +
        (Server.run Config.shipped oneRowHistory).traffic.responses +
        (Server.run Config.shipped oneRowHistory).traffic.errors = 3 := by
  have evaluated : fates Config.shipped oneRowHistory =
      [.stranger, .replied 2 false true, .malformed] ∧
        (Server.run Config.shipped oneRowHistory).alive = true := by
    decide +kernel
  obtain ⟨isFates, alive⟩ := evaluated
  obtain ⟨accounts, -, -, balance⟩ := counters_accounted Config.shipped oneRowHistory
  have requests := accounts.requests
  have balanced := balance alive
  rw [isFates] at requests balanced
  have omitted : [Fate.stranger, .replied 2 false true, .malformed].countP Fate.isOmitted = 0 := rfl
  have silent : [Fate.stranger, .replied 2 false true, .malformed].count .silent = 0 := rfl
  have length : [Fate.stranger, .replied 2 false true, .malformed].length = 3 := rfl
  rw [length] at requests
  rw [requests, omitted, silent, Nat.add_zero, Nat.add_zero] at balanced
  exact ⟨isFates, requests, balanced.symm⟩

end Macdack
