import Mathlib.Data.List.Perm.Basic
import Macdack.MacText
import Macdack.Runtime.Sync

/-!
# The accepted tables

A table is accepted when every data row is accepted on its own and no two rows share
a MAC or an address (`Clients.exists_parse_iff`), although the loop stops at the
first row that offends. What an accepted table holds depends on the set of its
clients only (`Clients.Holds.unique`), so neither the order of the rows nor the
letter case of the MAC digits matters (`Clients.parse_of_rearranged`). A refused table
is never served (`round_of_refused`, `boot_of_refused`). `table_accepted` puts these
together.
-/

set_option autoImplicit false

namespace Macdack

namespace Clients

/-! ## Data rows -/

/-- The rows behind a header in front. -/
def dataRows : List CsvRow → List CsvRow
  | [] => []
  | row :: rest => if row.fields = header then rest else row :: rest

/-- The clients of the rows, one for each. -/
def Lists (rows : List CsvRow) (listed : List Client) : Prop :=
  List.Forall₂ (fun row client => parseClient row.fields = .ok client) rows listed

/-- Behind the first row every row is a data row. -/
theorem gives_succ_iff {index : ℕ} {rows : List CsvRow} {listed : List Client} :
    Gives (index + 1) (rows.map .ok) listed ↔ Lists rows listed := by
  induction rows generalizing index listed with
  | nil =>
      constructor
      · intro gives
        cases gives
        exact .nil
      · intro lists
        cases lists
        exact .nil _
  | cons row rest ih =>
      constructor
      · intro gives
        cases gives with
        | client parsed gives => exact .cons parsed (ih.mp gives)
      · intro lists
        cases lists with
        | cons parsed lists => exact .client parsed (ih.mpr lists)

/-- The rows give the clients of the data rows. -/
theorem gives_iff {rows : List CsvRow} {listed : List Client} :
    Gives 0 (rows.map .ok) listed ↔ Lists (dataRows rows) listed := by
  cases rows with
  | nil =>
      constructor
      · intro gives
        cases gives
        exact .nil
      · intro lists
        cases lists
        exact .nil 0
  | cons row rest =>
      rw [dataRows]
      by_cases isHeader : row.fields = header
      · rw [if_pos isHeader]
        refine Iff.trans ?_ (gives_succ_iff : Gives (0 + 1) (rest.map .ok) listed ↔ _)
        constructor
        · intro gives
          cases gives with
          | header _ gives => exact gives
          | client parsed _ =>
              rw [isHeader] at parsed
              exact absurd parsed (parseClient_header _)
        · intro gives
          exact .header isHeader gives
      · rw [if_neg isHeader]
        constructor
        · intro gives
          cases gives with
          | header first _ => exact absurd first isHeader
          | client parsed gives => exact .cons parsed (gives_succ_iff.mp gives)
        · intro lists
          cases lists with
          | cons parsed lists => exact .client parsed (gives_succ_iff.mpr lists)

/-! ## Acceptance -/

/-- **The loop goes through** when the clients of the rows differ from each other and
from those that are held. -/
theorem exists_insertRows {index : ℕ} {rows : List (Outcome CsvRow)} {more : List Client}
    (gives : Gives index rows more) {clients : Clients} {listed : List Client}
    (holds : clients.Holds listed) (macs : ((listed ++ more).map Client.mac).Nodup)
    (ips : ((listed ++ more).map Client.ip).Nodup) :
    ∃ result, insertRows index clients rows = .ok result := by
  induction gives generalizing clients listed with
  | nil => exact ⟨clients, rfl⟩
  | header isHeader _ ih =>
      obtain ⟨result, inserted⟩ := ih holds macs ips
      refine ⟨result, ?_⟩
      rw [insertRows, Outcome.context_ok, Outcome.bind_ok]
      simp only [isHeader, and_self, if_true]
      exact inserted
  | @client index row rest client more parsed _ ih =>
      have noHeader : row.fields ≠ header := by
        intro isHeader
        rw [isHeader] at parsed
        exact parseClient_header client parsed
      have freshMac : clients.records.contains client.mac = false := by
        apply holds.fresh_mac_iff.mpr
        intro held
        rw [List.map_append, List.nodup_append] at macs
        exact macs.2.2 _ held _ List.mem_cons_self rfl
      have freshIp : clients.byIp.contains client.ip = false := by
        apply holds.fresh_ip_iff.mpr
        intro held
        rw [List.map_append, List.nodup_append] at ips
        exact ips.2.2 _ held _ List.mem_cons_self rfl
      obtain ⟨result, inserted⟩ := ih (holds.insert freshMac freshIp)
        (by rwa [List.append_assoc, List.singleton_append])
        (by rwa [List.append_assoc, List.singleton_append])
      refine ⟨result, ?_⟩
      rw [insertRows, Outcome.context_ok, Outcome.bind_ok]
      simp only [noHeader, and_false, if_false, parsed, Outcome.context_ok, Outcome.bind_ok,
        freshMac, freshIp, Bool.not_false, Outcome.ensure_true]
      exact inserted

/-- **The accepted tables.** Every data row is accepted on its own, and no two of
their clients share a MAC or an address. -/
theorem exists_parse_iff {csv : CsvReader} {text : String} {rows : List CsvRow}
    (reads : csv text = rows.map .ok) :
    (∃ clients, parse csv text = .ok clients) ↔
      ∃ listed, Lists (dataRows rows) listed ∧ (listed.map Client.mac).Nodup ∧
        (listed.map Client.ip).Nodup := by
  constructor
  · rintro ⟨clients, parsed⟩
    obtain ⟨listed, gives, holds⟩ := holds_of_parse parsed
    rw [reads] at gives
    exact ⟨listed, gives_iff.mp gives, holds.macs, holds.ips⟩
  · rintro ⟨listed, lists, macs, ips⟩
    rw [parse, reads]
    exact exists_insertRows (gives_iff.mpr lists) holds_empty macs ips

/-! ## What is in an accepted table -/

/-- **A table is determined by its clients.** -/
theorem Holds.unique {clients others : Clients} {listed otherListed : List Client}
    (holds : clients.Holds listed) (otherHolds : others.Holds otherListed)
    (same : ∀ client, client ∈ listed ↔ client ∈ otherListed) : clients = others := by
  obtain ⟨records, byIp⟩ := clients
  obtain ⟨otherRecords, otherByIp⟩ := others
  congr 1
  · apply Std.ExtTreeMap.ext_getElem?
    intro mac
    apply Option.ext
    intro client
    rw [holds.records, otherHolds.records, same]
  · apply Std.ExtTreeMap.ext_getElem?
    intro ip
    apply Option.ext
    intro mac
    rw [holds.byIp, otherHolds.byIp]
    simp only [same]

/-- The size of a map whose keys are listed. -/
theorem size_eq_length {α β : Type} {cmp : α → α → Ordering} [Std.TransCmp cmp]
    [Std.LawfulEqCmp cmp] {map : Std.ExtTreeMap α β cmp} {keys : List α} (nodup : keys.Nodup)
    (mem : ∀ key, key ∈ map ↔ key ∈ keys) : map.size = keys.length := by
  have perm : map.keys.Perm keys := by
    rw [List.perm_ext_iff_of_nodup Std.ExtTreeMap.nodup_keys nodup]
    intro key
    rw [Std.ExtTreeMap.mem_keys, mem]
  rw [← Std.ExtTreeMap.length_keys, perm.length_eq]

/-- As many records as clients. -/
theorem Holds.size_records {clients : Clients} {listed : List Client}
    (holds : clients.Holds listed) : clients.records.size = listed.length := by
  rw [size_eq_length holds.macs fun _ => holds.mem_records_iff, List.length_map]

/-- As many addresses as clients. -/
theorem Holds.size_byIp {clients : Clients} {listed : List Client}
    (holds : clients.Holds listed) : clients.byIp.size = listed.length := by
  rw [size_eq_length holds.ips fun _ => holds.mem_byIp_iff, List.length_map]

/-- **The two maps are inverse.** -/
theorem Holds.byIp_iff {clients : Clients} {listed : List Client} (holds : clients.Holds listed)
    {ip : Ipv4Addr} {mac : Mac} :
    clients.byIp[ip]? = some mac ↔ ∃ client, clients.records[mac]? = some client ∧
      client.ip = ip := by
  simp only [holds.byIp, holds.records]
  constructor
  · rintro ⟨client, inList, sameIp, sameMac⟩
    exact ⟨client, ⟨inList, sameMac⟩, sameIp⟩
  · rintro ⟨client, ⟨inList, sameMac⟩, sameIp⟩
    exact ⟨client, inList, sameIp, sameMac⟩

/-- The listed clients are those of the rows. -/
theorem Lists.mem_iff {rows : List CsvRow} {listed : List Client} (lists : Lists rows listed)
    {client : Client} :
    client ∈ listed ↔ ∃ row ∈ rows, parseClient row.fields = .ok client := by
  induction lists with
  | nil => simp
  | @cons row first rows listed parsed _ ih =>
      simp only [List.mem_cons, ih, exists_eq_or_imp, parsed, Except.ok.injEq]
      exact or_congr_left eq_comm

/-! ## Rearranged rows -/

/-- The same row, in another letter case of its MAC digits. -/
def SameRow (row other : CsvRow) : Prop :=
  ∃ text otherText, row.fields[5]? = some text ∧ SameLetters otherText text ∧
    other.fields = row.fields.set 5 otherText

/-- The same rows in another order, and in another letter case of their MAC digits. -/
def Rearranged (rows others : List CsvRow) : Prop :=
  ∃ middle, rows.Perm middle ∧ List.Forall₂ SameRow middle others

end Clients

/-- The MAC field is none of the other fields. -/
theorem Client.OtherFields.set {client : Client} {row : List String}
    (fields : client.OtherFields row) (text : String) : client.OtherFields (row.set 5 text) where
  length := by rw [List.length_set, fields.length]
  location := by simpa using fields.location
  hostname := by simpa using fields.hostname
  domain := by simpa using fields.domain
  bootType := by simpa using fields.bootType
  mtu := by simpa using fields.mtu
  ip := by simpa using fields.ip
  prefixLength := by simpa using fields.prefixLength
  gateway := by simpa using fields.gateway
  location_nonempty := fields.location_nonempty
  location_short := fields.location_short
  hostname_valid := fields.hostname_valid
  domain_valid := fields.domain_valid
  bootType_known := fields.bootType_known
  mtu_bound := fields.mtu_bound
  prefixLength_bounds := fields.prefixLength_bounds
  subnet := fields.subnet

namespace Clients

theorem SameRow.parseClient {row other : CsvRow} (sameRow : SameRow row other) {client : Client}
    (parsed : parseClient row.fields = .ok client) :
    Macdack.parseClient other.fields = .ok client := by
  obtain ⟨text, otherText, isMac, sameLetters, isOther⟩ := sameRow
  obtain ⟨fields, assignable, _, isText, read⟩ := parseClient_eq_ok_iff.mp parsed
  rw [isMac, Option.some.injEq] at isText
  subst isText
  rw [isOther, parseClient_eq_ok_iff]
  refine ⟨fields.set otherText, assignable, otherText, ?_, (parseMac_congr sameLetters _).mpr read⟩
  rw [List.getElem?_set_self (by rw [fields.length]; decide)]

theorem Lists.of_sameRows {rows others : List CsvRow} {listed : List Client}
    (lists : Lists rows listed) (sameRows : List.Forall₂ SameRow rows others) :
    Lists others listed := by
  induction sameRows generalizing listed with
  | nil => exact lists
  | cons sameRow _ ih =>
      cases lists with
      | cons parsed lists => exact .cons (sameRow.parseClient parsed) (ih lists)

theorem Lists.of_rearranged {rows others : List CsvRow} {listed : List Client}
    (lists : Lists rows listed) (rearranged : Rearranged rows others) :
    ∃ otherListed, Lists others otherListed ∧ otherListed.Perm listed := by
  obtain ⟨middle, perm, sameRows⟩ := rearranged
  obtain ⟨otherListed, middleLists, otherPerm⟩ := List.perm_comp_forall₂ perm.symm lists
  exact ⟨otherListed, Lists.of_sameRows middleLists sameRows, otherPerm⟩

/-- **Neither the order of the rows nor the letter case of the MAC digits matters.** -/
theorem parse_of_rearranged {csv : CsvReader} {text otherText : String} {rows others : List CsvRow}
    (reads : csv text = rows.map .ok) (readsOther : csv otherText = others.map .ok)
    (rearranged : Rearranged (dataRows rows) (dataRows others)) {clients : Clients}
    (parsed : parse csv text = .ok clients) : parse csv otherText = .ok clients := by
  obtain ⟨listed, gives, holds⟩ := holds_of_parse parsed
  rw [reads] at gives
  obtain ⟨otherListed, lists, perm⟩ := (gives_iff.mp gives).of_rearranged rearranged
  obtain ⟨otherClients, otherParsed⟩ := (exists_parse_iff readsOther).mpr
    ⟨otherListed, lists, (perm.map Client.mac).nodup_iff.mpr holds.macs,
      (perm.map Client.ip).nodup_iff.mpr holds.ips⟩
  obtain ⟨held, otherGives, otherHolds⟩ := holds_of_parse otherParsed
  rw [readsOther] at otherGives
  have same : ∀ client, client ∈ listed ↔ client ∈ held := by
    intro client
    rw [← perm.mem_iff, lists.mem_iff, (gives_iff.mp otherGives).mem_iff]
  rw [otherParsed, holds.unique otherHolds same]

end Clients

/-! ## Refused tables -/

section Refused

open Calls

variable {foreign : Foreign} {body : Bytes} {text : String} {stop : Stop}

/-- A turn of the loop that downloads a refused table serves what it served, and
leaves the directory. -/
theorem round_of_refused (utf8 : Text.fromUtf8 body = some text)
    (refused : Clients.parse foreign.csv text = .error stop) {path : PathBuf} {system : System}
    {round : Round} {download : Download} (isBody : download.body = body)
    (fetched : fetch foreign system.memory.cache round.answer = .ok (some download)) :
    (system.round foreign path round).2.memory.shared.snapshot = system.memory.shared.snapshot ∧
      (system.round foreign path round).2.dir = system.dir := by
  have undecoded : ∀ clients, decode foreign download.body ≠ .ok clients := by
    intro clients decoded
    rw [isBody, decode, fromUtf8, utf8, Outcome.required_some, Outcome.context_ok, Outcome.bind_ok,
      refused] at decoded
    cases decoded
  obtain ⟨result, memory, dir, turn, polled⟩ := round_polled foreign path system round
  rw [turn, record_snapshot]
  cases polled with
  | rejected => exact ⟨rfl, rfl⟩
  | unchanged => exact ⟨rfl, rfl⟩
  | same => exact ⟨rfl, rfl⟩
  | unsaved _ brings =>
      obtain rfl := brings.download_eq fetched
      exact absurd brings.decoded (undecoded _)
  | saved _ brings =>
      obtain rfl := brings.download_eq fetched
      exact absurd brings.decoded (undecoded _)

/-- A state file that cannot be read gives no table. -/
theorem snapshot_load_error (error : IoError) (pid : ℕ) :
    (load foreign (Memory.initial pid) (.error error)).shared.snapshot = none := by
  rw [load.eq_def]
  cases error <;> rfl

/-- A process that starts with a refused table in its state file serves none. -/
theorem boot_of_refused (utf8 : Text.fromUtf8 body = some text)
    (refused : Clients.parse foreign.csv text = .error stop) {path : PathBuf} {pid : ℕ}
    {faults : Faults} {dir : StateDir} {name : String} (isFile : path.fileName = some name)
    (saved : dir.content name = some body) :
    (boot foreign path pid faults dir).memory.shared.snapshot = none := by
  cases met : faults (.read name) with
  | some fault =>
      rw [boot, startup, readState, isFile, Program.run_bind, Program.run_ask, Program.run_pure,
        FileCall.device_of_fault met]
      exact snapshot_load_error fault.error pid
  | none =>
      rw [(boot_loads foreign path pid faults dir).2.2 name isFile met, savedTable, saved]
      cases loaded : loadSaved foreign body with
      | error stop => rw [Option.bind_some, loaded]; rfl
      | ok clients =>
          have decoded := (decode_of_loadSaved loaded).2
          rw [decode, fromUtf8, utf8, Outcome.required_some, Outcome.context_ok, Outcome.bind_ok,
            refused] at decoded
          cases decoded

end Refused

/-! ## The table of a text -/

/-- The data rows are accepted one by one, and no two clients of them share a MAC or
an address. -/
def Clients.Consistent (rows : List CsvRow) : Prop :=
  ∃ listed, Clients.Lists (Clients.dataRows rows) listed ∧ (listed.map Client.mac).Nodup ∧
    (listed.map Client.ip).Nodup

/-- The two maps hold the clients of the rows and nothing else: the records by MAC, and
the inverse map by address. -/
structure Clients.TableOf (clients : Clients) (rows : List CsvRow) : Prop where
  records : ∀ mac client, clients.records[mac]? = some client ↔
    (∃ row ∈ Clients.dataRows rows, parseClient row.fields = .ok client) ∧ client.mac = mac
  byIp : ∀ ip mac, clients.byIp[ip]? = some mac ↔
    ∃ client : Client, clients.records[mac]? = some client ∧ client.ip = ip
  size_records : clients.records.size = (Clients.dataRows rows).length
  size_byIp : clients.byIp.size = (Clients.dataRows rows).length

/-- A text whose clients nobody gets to see: a turn of the loop that downloads it
serves what it served before and leaves the directory, and a process that starts with
it in its state file serves no table. -/
structure Invisible (foreign : Foreign) (body : Bytes) : Prop where
  round : ∀ (path : PathBuf) (system : System) (round : Round) (download : Download),
    fetch foreign system.memory.cache round.answer = .ok (some download) → download.body = body →
      (system.round foreign path round).2.memory.shared.snapshot =
          system.memory.shared.snapshot ∧
        (system.round foreign path round).2.dir = system.dir
  boot : ∀ (path : PathBuf) (pid : ℕ) (faults : Faults) (dir : StateDir) (name : String),
    path.fileName = some name → dir.content name = some body →
      (boot foreign path pid faults dir).memory.shared.snapshot = none

/-- **A table is accepted exactly when it is consistent.** For every list of rows
that the reader gives:

* it is accepted exactly when every data row is accepted on its own and the clients
  have distinct MACs and distinct addresses;
* then the records are the clients of the rows by MAC, the addresses are the inverse
  map, and both are the same for the rows in any order and in any letter case of the
  MAC digits;
* otherwise it ends in an error, and no process serves a client of it. -/
theorem table_accepted {foreign : Foreign} {text : String} {rows : List CsvRow}
    (reads : foreign.csv text = rows.map .ok) :
    ((∃ clients, Clients.parse foreign.csv text = .ok clients) ↔ Clients.Consistent rows) ∧
    (∀ clients, Clients.parse foreign.csv text = .ok clients → clients.TableOf rows ∧
      ∀ otherText others, foreign.csv otherText = others.map .ok →
        Clients.Rearranged (Clients.dataRows rows) (Clients.dataRows others) →
          Clients.parse foreign.csv otherText = .ok clients) ∧
    (¬Clients.Consistent rows → (∃ stop, Clients.parse foreign.csv text = .error stop) ∧
      ∀ body, Text.fromUtf8 body = some text → Invisible foreign body) := by
  have accepted_iff := Clients.exists_parse_iff reads
  refine ⟨accepted_iff, ?_, ?_⟩
  · intro clients parsed
    obtain ⟨listed, gives, holds⟩ := Clients.holds_of_parse parsed
    rw [reads] at gives
    have lists := Clients.gives_iff.mp gives
    have length : listed.length = (Clients.dataRows rows).length := lists.length_eq.symm
    refine ⟨⟨?_, fun ip mac => holds.byIp_iff, ?_, ?_⟩, ?_⟩
    · intro mac client
      rw [holds.records, lists.mem_iff]
    · rw [holds.size_records, length]
    · rw [holds.size_byIp, length]
    · intro otherText others readsOther rearranged
      exact Clients.parse_of_rearranged reads readsOther rearranged parsed
  · intro inconsistent
    cases parsed : Clients.parse foreign.csv text with
    | ok clients => exact absurd (accepted_iff.mp ⟨clients, parsed⟩) inconsistent
    | error stop =>
        refine ⟨⟨stop, rfl⟩, fun body utf8 => ⟨?_, ?_⟩⟩
        · intro path system round download fetched isBody
          exact round_of_refused utf8 parsed isBody fetched
        · intro path pid faults dir name isFile saved
          exact boot_of_refused utf8 parsed isFile saved

/-- The table of the shipped file. -/
theorem table_accepted_shipped : ∃ rows clients, plainForeign.csv Clients.shipped = rows.map .ok ∧
    Clients.parse plainForeign.csv Clients.shipped = .ok clients ∧ clients.TableOf rows := by
  have reads : plainForeign.csv Clients.shipped =
      [⟨some 1, macRow "AA:BB:CC:DD:EE:FF"⟩,
        ⟨some 2, ["dc1", "host.name2", "example.internal", "bios", "1500", "AA:BB:CC:DD:EE:AA",
          "1.2.3.5", "24", "1.2.3.1"]⟩].map .ok := by
    decide +kernel
  obtain ⟨clients, parsed, -⟩ := Clients.exists_parse_shipped
  exact ⟨_, clients, reads, parsed, ((table_accepted reads).2.1 clients parsed).1⟩

end Macdack
