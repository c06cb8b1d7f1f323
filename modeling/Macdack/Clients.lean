import Mathlib.Data.List.Nodup
import Macdack.Config

/-!
# The client table

`parseClient` turns one row of nine fields into a client, and `Clients.parse`
builds the table of a whole file: the records by MAC and the MACs by address.

The rows come from a CSV reader outside the repository, which is a parameter
(`CsvReader`): it gives for a text the rows it reads, each with its line when it
has one, or an error in place of a row. Nothing is assumed of it.

A row is accepted when its MAC field is read as an address of one station and the
other eight fields pass their checks (`parseClient_eq_ok_iff`).

What a parsed table holds is said in terms of the list of clients its rows give
(`Clients.Holds`): the records are exactly these clients, no two of them share
a MAC or an address (`Clients.holds_of_parse`).
-/

set_option autoImplicit false

namespace Macdack

/-! ## Rows and clients -/

/-- A row of the CSV reader: its line, when the reader knows it, and its
trimmed fields. -/
structure CsvRow where
  line : Option ℕ
  fields : List String
  deriving DecidableEq, Repr

/-- The CSV reader: the rows of a text in order, with an error in place of a row
that cannot be read. -/
abbrev CsvReader := String → List (Outcome CsvRow)

structure Client where
  location : String
  mac : Mac
  bootType : String
  hostname : String
  domain : String
  mtu : UInt16
  ip : Ipv4Addr
  prefixLength : UInt8
  gateway : Ipv4Addr
  deriving DecidableEq, Repr

/-- One octet of a MAC: two bytes of text that are read in base sixteen. -/
def parseMacOctet (part : List Char) : Outcome UInt8 :=
  Outcome.context "invalid MAC octet" (Text.u8FromStrRadix 16 part)

/-- The MAC field: six pieces of two bytes between colons. -/
def parseMac (text : String) : Outcome Mac :=
  match text.toList.splitOn ':' with
  | [a, b, c, d, e, f] =>
      if [a, b, c, d, e, f].all fun part => Text.lengthOf part = 2 then do
        let a ← parseMacOctet a
        let b ← parseMacOctet b
        let c ← parseMacOctet c
        let d ← parseMacOctet d
        let e ← parseMacOctet e
        let f ← parseMacOctet f
        return #v[a, b, c, d, e, f]
      else Outcome.fail "MAC must contain six colon-separated hex octets"
  | _ => Outcome.fail "MAC must contain six colon-separated hex octets"

/-- The checks of the two addresses of a row against its prefix. -/
def checkSubnet (ip gateway : Ipv4Addr) (prefixLength : UInt8) : Outcome PUnit := do
  Outcome.ensure (isUnicast ip && isUnicast gateway)
    "client and gateway must be unicast IPv4 addresses"
  let mask ← prefixMask prefixLength
  let network := ip.toU32 &&& mask
  let broadcast := network ||| ~~~mask
  Outcome.ensure (gateway.toU32 &&& mask == network) "gateway must belong to client subnet"
  if prefixLength < 31 then do
    Outcome.ensure (ip.toU32 != network && ip.toU32 != broadcast)
      "client IP cannot be network or broadcast"
    Outcome.ensure (gateway.toU32 != network && gateway.toU32 != broadcast)
      "gateway cannot be network or broadcast"
  Outcome.ensure (ip != gateway) "gateway cannot equal client IP"

def parseClient (row : List String) : Outcome Client :=
  match row with
  | [location, hostname, domain, bootType, mtu, mac, ip, prefixLength, gateway] => do
      Outcome.ensure (location != "" && Text.byteLength location ≤ 64) "invalid location"
      Outcome.ensure (validHostname hostname) "invalid hostname"
      Outcome.ensure (validHostname domain) "invalid domain"
      Outcome.ensure (bootType == "bios" || bootType == "uefi") "boot_type must be bios or uefi"
      let mtu ← Outcome.context "invalid MTU" (Text.u16FromStr mtu.toList)
      Outcome.ensure (decide (68 ≤ mtu)) "MTU must be 68..65535"
      let mac ← parseMac mac
      Outcome.ensure (mac != #v[0, 0, 0, 0, 0, 0] && mac[0] &&& 1 == 0)
        "MAC must be a nonzero unicast address"
      let ip ← Outcome.context "invalid client IPv4" (Ipv4Addr.parse ip.toList)
      let prefixLength ← Outcome.context "invalid prefix length"
        (Text.u8FromStr prefixLength.toList)
      -- A /31 is a point-to-point subnet: both of its addresses are usable.
      Outcome.ensure (decide (1 ≤ prefixLength ∧ prefixLength ≤ 31))
        "prefix must be 1..31; /32 is unsupported for Ethernet assignments"
      let gateway ← Outcome.context "invalid gateway IPv4" (Ipv4Addr.parse gateway.toList)
      checkSubnet ip gateway prefixLength
      return { location, mac, hostname, domain, bootType, mtu, ip, prefixLength, gateway }
  | _ => Outcome.fail "expected exactly nine fields"

/-- An address a client may have: not zero, and of one station. -/
def Mac.Assignable (mac : Mac) : Prop := mac ≠ #v[0, 0, 0, 0, 0, 0] ∧ mac[0] &&& 1 = 0

/-- The fields of a row beside the MAC: the values they are read as, and their
ranges. -/
structure Client.InRange (client : Client) (row : List String) : Prop where
  length : row.length = 9
  location : row[0]? = some client.location
  hostname : row[1]? = some client.hostname
  domain : row[2]? = some client.domain
  bootType : row[3]? = some client.bootType
  mtu : ∃ text, row[4]? = some text ∧ Text.u16FromStr text.toList = .ok client.mtu
  ip : ∃ text, row[6]? = some text ∧ Ipv4Addr.parse text.toList = .ok client.ip
  prefixLength : ∃ text, row[7]? = some text ∧
    Text.u8FromStr text.toList = .ok client.prefixLength
  gateway : ∃ text, row[8]? = some text ∧ Ipv4Addr.parse text.toList = .ok client.gateway
  location_nonempty : client.location ≠ ""
  location_short : Text.byteLength client.location ≤ 64
  hostname_valid : validHostname client.hostname = true
  domain_valid : validHostname client.domain = true
  bootType_known : client.bootType = "bios" ∨ client.bootType = "uefi"
  mtu_bound : 68 ≤ client.mtu
  prefixLength_bounds : 1 ≤ client.prefixLength ∧ client.prefixLength ≤ 31

/-- The fields of a row beside the MAC pass all of their checks. -/
structure Client.OtherFields (client : Client) (row : List String) : Prop
    extends client.InRange row where
  subnet : checkSubnet client.ip client.gateway client.prefixLength = .ok ⟨⟩

/-- **When a row is accepted.** -/
theorem parseClient_eq_ok_iff {row : List String} {client : Client} :
    parseClient row = .ok client ↔
      client.OtherFields row ∧ client.mac.Assignable ∧
        ∃ text, row[5]? = some text ∧ parseMac text = .ok client.mac := by
  constructor
  · intro parsed
    rw [parseClient.eq_def] at parsed
    split at parsed
    · rename_i location hostname domain bootType mtuText macText ipText prefixText gatewayText
      simp only [Outcome.bind_eq_ok, Outcome.ensure_eq_ok, Outcome.context_eq_ok,
        Outcome.pure_eq_ok, Except.ok.injEq, decide_eq_true_eq, Bool.or_eq_true, Bool.and_eq_true,
        beq_iff_eq, bne_iff_ne] at parsed
      obtain ⟨_, locationCheck, _, hostnameCheck, _, domainCheck, _, bootTypeCheck, mtu, readMtu,
        _, mtuBound, mac, readMac, _, assignable, ip, readIp, prefixLength, readPrefix, _,
        prefixBounds, gateway, readGateway, _, subnet, rfl⟩ := parsed
      exact ⟨{
        length := rfl
        location := rfl
        hostname := rfl
        domain := rfl
        bootType := rfl
        mtu := ⟨mtuText, rfl, readMtu⟩
        ip := ⟨ipText, rfl, readIp⟩
        prefixLength := ⟨prefixText, rfl, readPrefix⟩
        gateway := ⟨gatewayText, rfl, readGateway⟩
        location_nonempty := locationCheck.1
        location_short := locationCheck.2
        hostname_valid := hostnameCheck
        domain_valid := domainCheck
        bootType_known := bootTypeCheck
        mtu_bound := mtuBound
        prefixLength_bounds := prefixBounds
        subnet := subnet }, assignable, macText, rfl, readMac⟩
    · cases parsed
  · rintro ⟨fields, assignable, macText, isMac, readMac⟩
    obtain ⟨location, mac, bootType, hostname, domain, mtu, ip, prefixLength, gateway⟩ := client
    obtain ⟨⟨length, isLocation, isHostname, isDomain, isBootType, ⟨mtuText, isMtu, readMtu⟩,
      ⟨ipText, isIp, readIp⟩, ⟨prefixText, isPrefix, readPrefix⟩,
      ⟨gatewayText, isGateway, readGateway⟩, locationNonempty, locationShort, hostnameValid,
      domainValid, bootTypeKnown, mtuBound, prefixBounds⟩, subnet⟩ := fields
    have fields : row = [location, hostname, domain, bootType, mtuText, macText, ipText,
        prefixText, gatewayText] := by
      apply List.ext_getElem?
      intro position
      rcases position with _ | _ | _ | _ | _ | _ | _ | _ | _ | position
      all_goals first | assumption | skip
      rw [List.getElem?_eq_none (by omega)]
      rfl
    subst fields
    simp only [parseClient, Outcome.bind_eq_ok, Outcome.ensure_eq_ok, Outcome.context_eq_ok,
      Outcome.pure_eq_ok, Except.ok.injEq, decide_eq_true_eq, Bool.or_eq_true, Bool.and_eq_true,
      beq_iff_eq, bne_iff_ne]
    exact ⟨⟨⟩, ⟨locationNonempty, locationShort⟩, ⟨⟩, hostnameValid, ⟨⟩, domainValid, ⟨⟩,
      bootTypeKnown, mtu, readMtu, ⟨⟩, mtuBound, mac, readMac, ⟨⟩, assignable, ip, readIp,
      prefixLength, readPrefix, ⟨⟩, prefixBounds, gateway, readGateway, ⟨⟩, subnet, rfl⟩

/-- What a parsed client satisfies, as far as replies depend on it. -/
structure Client.Valid (client : Client) : Prop where
  hostname : validHostname client.hostname = true
  domain : validHostname client.domain = true
  bootType : client.bootType = "bios" ∨ client.bootType = "uefi"
  mtu : 68 ≤ client.mtu
  prefixLength_pos : 1 ≤ client.prefixLength
  prefixLength_le : client.prefixLength ≤ 31
  ip : isUnicast client.ip = true
  gateway : isUnicast client.gateway = true

theorem unicast_of_checkSubnet {ip gateway : Ipv4Addr} {prefixLength : UInt8} {result : PUnit}
    (checked : checkSubnet ip gateway prefixLength = .ok result) :
    isUnicast ip = true ∧ isUnicast gateway = true := by
  rw [checkSubnet, Outcome.bind_eq_ok] at checked
  obtain ⟨_, unicast, -⟩ := checked
  rw [Outcome.ensure_eq_ok, Bool.and_eq_true] at unicast
  exact unicast

/-- **A row that parses gives a valid client.** -/
theorem valid_of_parseClient {row : List String} {client : Client}
    (parsed : parseClient row = .ok client) : client.Valid := by
  obtain ⟨fields, -, -⟩ := parseClient_eq_ok_iff.mp parsed
  have unicast := unicast_of_checkSubnet fields.subnet
  exact ⟨fields.hostname_valid, fields.domain_valid, fields.bootType_known, fields.mtu_bound,
    fields.prefixLength_bounds.1, fields.prefixLength_bounds.2, unicast.1, unicast.2⟩

/-! ## The table -/

structure Clients where
  records : Std.ExtTreeMap Mac Client
  byIp : Std.ExtTreeMap Ipv4Addr Mac

namespace Clients

/-- `Clients::default`. -/
def empty : Clients := ⟨∅, ∅⟩

/-- The two insertions of one client. -/
def insert (clients : Clients) (client : Client) : Clients where
  byIp := clients.byIp.insert client.ip client.mac
  records := clients.records.insert client.mac client

/-- The documented header row. -/
def header : List String :=
  ["location", "hostname", "domain", "boot_type", "mtu", "mac", "ip", "prefix_length", "gateway"]

/-- The loop over the rows from the given index on. -/
def insertRows : ℕ → Clients → List (Outcome CsvRow) → Outcome Clients
  | _, clients, [] => .ok clients
  | index, clients, row :: rest => do
      let row ← Outcome.context ("CSV record " ++ toString (index + 1)) row
      let line := "CSV line " ++ toString (row.line.getD (index + 1))
      if index = 0 ∧ row.fields = header then insertRows (index + 1) clients rest
      else do
        let client ← Outcome.context line (parseClient row.fields)
        Outcome.ensure (!clients.records.contains client.mac) (line ++ ": duplicate MAC")
        Outcome.ensure (!clients.byIp.contains client.ip)
          (line ++ ": duplicate IP " ++ client.ip.toText)
        insertRows (index + 1) (clients.insert client) rest

def parse (csv : CsvReader) (text : String) : Outcome Clients := insertRows 0 empty (csv text)

/-! ## What a table holds -/

/-- A table holds exactly the listed clients, no two with one MAC or one
address. -/
structure Holds (clients : Clients) (listed : List Client) : Prop where
  records : ∀ mac client, clients.records[mac]? = some client ↔
    client ∈ listed ∧ client.mac = mac
  byIp : ∀ ip mac, clients.byIp[ip]? = some mac ↔
    ∃ client ∈ listed, client.ip = ip ∧ client.mac = mac
  macs : (listed.map Client.mac).Nodup
  ips : (listed.map Client.ip).Nodup

theorem holds_empty : empty.Holds [] where
  records := by simp [empty]
  byIp := by simp [empty]
  macs := List.nodup_nil
  ips := List.nodup_nil

/-- The MACs of the listed clients are the keys of the records. -/
theorem Holds.mem_records_iff {clients : Clients} {listed : List Client}
    (holds : clients.Holds listed) {mac : Mac} :
    mac ∈ clients.records ↔ mac ∈ listed.map Client.mac := by
  rw [Std.ExtTreeMap.mem_iff_isSome_getElem?, Option.isSome_iff_exists, List.mem_map]
  simp only [holds.records]

/-- Their addresses are the keys of the other map. -/
theorem Holds.mem_byIp_iff {clients : Clients} {listed : List Client}
    (holds : clients.Holds listed) {ip : Ipv4Addr} :
    ip ∈ clients.byIp ↔ ip ∈ listed.map Client.ip := by
  rw [Std.ExtTreeMap.mem_iff_isSome_getElem?, Option.isSome_iff_exists, List.mem_map]
  simp only [holds.byIp]
  constructor
  · rintro ⟨mac, client, inList, sameIp, -⟩
    exact ⟨client, inList, sameIp⟩
  · rintro ⟨client, inList, sameIp⟩
    exact ⟨client.mac, client, inList, sameIp, rfl⟩

/-- The checks of the loop look for another client with the MAC or the address. -/
theorem Holds.fresh_mac_iff {clients : Clients} {listed : List Client}
    (holds : clients.Holds listed) {mac : Mac} :
    clients.records.contains mac = false ↔ mac ∉ listed.map Client.mac := by
  rw [← holds.mem_records_iff, ← Std.ExtTreeMap.contains_iff_mem, Bool.not_eq_true]

theorem Holds.fresh_ip_iff {clients : Clients} {listed : List Client}
    (holds : clients.Holds listed) {ip : Ipv4Addr} :
    clients.byIp.contains ip = false ↔ ip ∉ listed.map Client.ip := by
  rw [← holds.mem_byIp_iff, ← Std.ExtTreeMap.contains_iff_mem, Bool.not_eq_true]

/-- **One step of the loop.** Inserting a client with a fresh MAC and a fresh
address adds it to what the table holds. -/
theorem Holds.insert {clients : Clients} {listed : List Client} (holds : clients.Holds listed)
    {client : Client} (freshMac : clients.records.contains client.mac = false)
    (freshIp : clients.byIp.contains client.ip = false) :
    (clients.insert client).Holds (listed ++ [client]) where
  records := by
    intro mac other
    simp only [Clients.insert, Std.ExtTreeMap.getElem?_insert, Std.compare_eq_iff_eq,
      List.mem_append, List.mem_singleton]
    by_cases same : client.mac = mac
    · subst same
      rw [if_pos rfl, Option.some.injEq]
      constructor
      · rintro rfl
        exact ⟨.inr rfl, rfl⟩
      · rintro ⟨old | new, sameMac⟩
        · exact absurd (List.mem_map.mpr ⟨other, old, sameMac⟩) (holds.fresh_mac_iff.mp freshMac)
        · exact new.symm
    · rw [if_neg same, holds.records]
      constructor
      · rintro ⟨old, sameMac⟩
        exact ⟨.inl old, sameMac⟩
      · rintro ⟨old | rfl, sameMac⟩
        · exact ⟨old, sameMac⟩
        · exact absurd sameMac same
  byIp := by
    intro ip mac
    simp only [Clients.insert, Std.ExtTreeMap.getElem?_insert, Std.compare_eq_iff_eq,
      List.mem_append, List.mem_singleton]
    by_cases same : client.ip = ip
    · subst same
      rw [if_pos rfl, Option.some.injEq]
      constructor
      · rintro rfl
        exact ⟨client, .inr rfl, rfl, rfl⟩
      · rintro ⟨other, old | rfl, sameIp, sameMac⟩
        · exact absurd (List.mem_map.mpr ⟨other, old, sameIp⟩) (holds.fresh_ip_iff.mp freshIp)
        · exact sameMac
    · rw [if_neg same, holds.byIp]
      constructor
      · rintro ⟨other, old, sameIp, sameMac⟩
        exact ⟨other, .inl old, sameIp, sameMac⟩
      · rintro ⟨other, old | rfl, sameIp, sameMac⟩
        · exact ⟨other, old, sameIp, sameMac⟩
        · exact absurd sameIp same
  macs := by
    rw [List.map_append, List.map_singleton, ← List.concat_eq_append]
    exact holds.macs.concat (holds.fresh_mac_iff.mp freshMac)
  ips := by
    rw [List.map_append, List.map_singleton, ← List.concat_eq_append]
    exact holds.ips.concat (holds.fresh_ip_iff.mp freshIp)

/-- The rows from an index on give the listed clients in order. A header in the
first row gives none. -/
inductive Gives : ℕ → List (Outcome CsvRow) → List Client → Prop where
  | nil (index : ℕ) : Gives index [] []
  | header {row : CsvRow} {rest : List (Outcome CsvRow)} {listed : List Client} :
      row.fields = Clients.header → Gives 1 rest listed → Gives 0 (.ok row :: rest) listed
  | client {index : ℕ} {row : CsvRow} {rest : List (Outcome CsvRow)} {client : Client}
      {listed : List Client} :
      parseClient row.fields = .ok client → Gives (index + 1) rest listed →
        Gives index (.ok row :: rest) (client :: listed)

/-- **The whole loop.** The rows that go through give clients, and the table
holds them behind what it held. -/
theorem Holds.insertRows {rows : List (Outcome CsvRow)} :
    ∀ {index : ℕ} {clients result : Clients} {listed : List Client}, clients.Holds listed →
      Clients.insertRows index clients rows = .ok result →
        ∃ more, Gives index rows more ∧ result.Holds (listed ++ more) := by
  induction rows with
  | nil =>
      intro index clients result listed holds inserted
      rw [Clients.insertRows, Except.ok.injEq] at inserted
      subst inserted
      exact ⟨[], .nil index, by rwa [List.append_nil]⟩
  | cons row rest ih =>
      intro index clients result listed holds inserted
      rw [Clients.insertRows, Outcome.bind_eq_ok] at inserted
      obtain ⟨read, accepted, inserted⟩ := inserted
      rw [Outcome.context_eq_ok] at accepted
      subst accepted
      simp only at inserted
      split at inserted
      · rename_i first
        obtain ⟨rfl, isHeader⟩ := first
        obtain ⟨more, gives, held⟩ := ih holds inserted
        exact ⟨more, .header isHeader gives, held⟩
      · simp only [Outcome.bind_eq_ok, Outcome.context_eq_ok, Outcome.ensure_eq_ok,
          Bool.not_eq_true'] at inserted
        obtain ⟨client, parsed, _, freshMac, _, freshIp, inserted⟩ := inserted
        obtain ⟨more, gives, held⟩ := ih (holds.insert freshMac freshIp) inserted
        refine ⟨client :: more, .client parsed gives, ?_⟩
        rwa [List.append_assoc, List.singleton_append] at held

/-- **What a parsed table holds**: the clients of its rows. -/
theorem holds_of_parse {csv : CsvReader} {text : String} {clients : Clients}
    (parsed : parse csv text = .ok clients) :
    ∃ listed, Gives 0 (csv text) listed ∧ clients.Holds listed := by
  obtain ⟨listed, gives, holds⟩ := holds_empty.insertRows parsed
  exact ⟨listed, gives, by rwa [List.nil_append] at holds⟩

/-- A listed client comes from a row. -/
theorem Gives.exists_row {index : ℕ} {rows : List (Outcome CsvRow)} {listed : List Client}
    (gives : Gives index rows listed) {client : Client} (member : client ∈ listed) :
    ∃ row : CsvRow, .ok row ∈ rows ∧ parseClient row.fields = .ok client := by
  induction gives with
  | nil => cases member
  | header _ _ ih =>
      obtain ⟨row, inRest, parsed⟩ := ih member
      exact ⟨row, List.mem_cons_of_mem _ inRest, parsed⟩
  | client parsed _ ih =>
      rcases List.mem_cons.mp member with rfl | later
      · exact ⟨_, List.mem_cons_self, parsed⟩
      · obtain ⟨row, inRest, parsedRow⟩ := ih later
        exact ⟨row, List.mem_cons_of_mem _ inRest, parsedRow⟩

/-- The header row is not a client. -/
theorem parseClient_header (client : Client) : parseClient header ≠ .ok client := by
  intro parsed
  have bootType := (valid_of_parseClient parsed).bootType
  simp only [header, parseClient, Outcome.bind_eq_ok, Outcome.ensure_eq_ok] at parsed
  obtain ⟨_, -, _, -, _, -, _, wrong, -⟩ := parsed
  exact absurd wrong (by decide)

/-- A row that parses is listed. -/
theorem Gives.mem_of_row {index : ℕ} {rows : List (Outcome CsvRow)} {listed : List Client}
    (gives : Gives index rows listed) {row : CsvRow} {client : Client} (member : .ok row ∈ rows)
    (parsed : parseClient row.fields = .ok client) : client ∈ listed := by
  induction gives with
  | nil => cases member
  | header isHeader _ ih =>
      rcases List.mem_cons.mp member with same | later
      · cases same
        rw [isHeader] at parsed
        exact absurd parsed (parseClient_header client)
      · exact ih later
  | client parsedHead _ ih =>
      rcases List.mem_cons.mp member with same | later
      · cases same
        rw [parsed, Except.ok.injEq] at parsedHead
        exact List.mem_cons.mpr (.inl parsedHead)
      · exact List.mem_cons_of_mem _ (ih later)

/-- A record of a parsed table is a valid client. -/
theorem valid_of_parse {csv : CsvReader} {text : String} {clients : Clients}
    (parsed : parse csv text = .ok clients) {mac : Mac} {client : Client}
    (found : clients.records[mac]? = some client) : client.Valid := by
  obtain ⟨listed, gives, holds⟩ := holds_of_parse parsed
  obtain ⟨row, -, parsedRow⟩ := gives.exists_row ((holds.records mac client).mp found).1
  exact valid_of_parseClient parsedRow

/-- A reader of texts without quotes and comments, for examples. -/
def plainReader : CsvReader := fun text =>
  ((text.toList.splitOn '\n').filter (· ≠ [])).mapIdx fun index line =>
    .ok ⟨some (index + 1), (line.splitOn ',').map String.ofList⟩

/-- The rows of the shipped client file. -/
def shipped : String :=
  "dc1,host.name1,example.internal,uefi,1500,AA:BB:CC:DD:EE:FF,1.2.3.4,24,1.2.3.1\n" ++
    "dc1,host.name2,example.internal,bios,1500,AA:BB:CC:DD:EE:AA,1.2.3.5,24,1.2.3.1\n"

/-- The client of the first row. -/
def shippedClient : Client where
  location := "dc1"
  mac := #v[0xaa, 0xbb, 0xcc, 0xdd, 0xee, 0xff]
  bootType := "uefi"
  hostname := "host.name1"
  domain := "example.internal"
  mtu := 1500
  ip := .new 1 2 3 4
  prefixLength := 24
  gateway := .new 1 2 3 1

theorem exists_parse_shipped : ∃ clients, parse plainReader shipped = .ok clients ∧
    clients.records[shippedClient.mac]? = some shippedClient := by
  have found : (parse plainReader shipped).toOption.any (fun clients =>
      decide (clients.records[shippedClient.mac]? = some shippedClient)) = true := by
    decide +kernel
  obtain ⟨clients, parsed, listed⟩ := Outcome.exists_of_any found
  exact ⟨clients, parsed, of_decide_eq_true listed⟩

end Clients

end Macdack
