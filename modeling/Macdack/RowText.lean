import Macdack.ClientTable
import Macdack.FieldText
import Macdack.Hostname

/-!
# The texts of client rows

`client_row_exact` says which rows `parse_client` accepts, as what: the values that a client
can have, and the texts of these values. Addresses and names have one text, numbers and
MACs several.

`Client.row` writes every value in the form in which it is printed elsewhere. A table that
was accepted, written so in any order, is accepted again and is the same table
(`table_round_trip`).
-/

set_option autoImplicit false

namespace Macdack

open Decimal (Spells)

/-! ## Rows -/

/-- The values that a client can have. -/
structure Client.Acceptable (client : Client) : Prop where
  location_nonempty : client.location ≠ ""
  location_short : Text.byteLength client.location ≤ 64
  hostname : NamesHost client.hostname
  domain : NamesHost client.domain
  bootType : client.bootType = "bios" ∨ client.bootType = "uefi"
  mtu : 68 ≤ client.mtu
  mac : client.mac.Assignable
  prefixLength : 1 ≤ client.prefixLength ∧ client.prefixLength ≤ 31
  neighbours : Neighbours client.ip client.gateway client.prefixLength

/-- Two digits for each octet between colons, in any letter case, or a plus sign and one
digit. -/
def SpellsMac (text : String) (mac : Mac) : Prop :=
  List.Forall₂ (fun part octet => part = formatOctet octet ∨
      octet.toNat < 16 ∧ part = ['+', octet.toNat.digitChar])
    ((Text.toAsciiLowercase text.toList).splitOn ':') mac.toList

/-- The row has the values of the client, in some text of each. -/
def Client.SpelledBy (client : Client) (row : List String) : Prop :=
  ∃ mtu mac prefixLength : String,
    row = [client.location, client.hostname, client.domain, client.bootType, mtu, mac,
      client.ip.toText, prefixLength, client.gateway.toText] ∧
    Spells mtu.toList client.mtu.toNat ∧ SpellsMac mac client.mac ∧
      Spells prefixLength.toList client.prefixLength.toNat

/-- A field that is read as an address is its text. -/
theorem eq_toText_of_parse {text : String} {ip : Ipv4Addr}
    (read : Ipv4Addr.parse text.toList = .ok ip) : text = ip.toText :=
  String.toList_inj.mp (Ipv4Addr.parse_eq_ok_iff.mp read)

/-- A row of nine fields is the list of its fields. -/
theorem eq_of_fields {row : List String} {a b c d e f g h i : String} (length : row.length = 9)
    (isA : row[0]? = some a) (isB : row[1]? = some b) (isC : row[2]? = some c)
    (isD : row[3]? = some d) (isE : row[4]? = some e) (isF : row[5]? = some f)
    (isG : row[6]? = some g) (isH : row[7]? = some h) (isI : row[8]? = some i) :
    row = [a, b, c, d, e, f, g, h, i] := by
  apply List.ext_getElem?
  intro position
  rcases position with _ | _ | _ | _ | _ | _ | _ | _ | _ | position
  all_goals first | assumption | skip
  rw [List.getElem?_eq_none (by omega)]
  rfl

/-- The client of a row that is accepted is acceptable, and the row spells it. -/
theorem spelled_of_parseClient {row : List String} {client : Client}
    (parsed : parseClient row = .ok client) : client.Acceptable ∧ client.SpelledBy row := by
  obtain ⟨fields, assignable, mac, isMac, readMac⟩ := parseClient_eq_ok_iff.mp parsed
  obtain ⟨mtu, isMtu, readMtu⟩ := fields.mtu
  obtain ⟨ip, isIp, readIp⟩ := fields.ip
  obtain ⟨prefixLength, isPrefix, readPrefix⟩ := fields.prefixLength
  obtain ⟨gateway, isGateway, readGateway⟩ := fields.gateway
  have isRow := eq_of_fields fields.length fields.location fields.hostname fields.domain
    fields.bootType isMtu isMac isIp isPrefix isGateway
  rw [eq_toText_of_parse readIp, eq_toText_of_parse readGateway] at isRow
  have bounds := fields.prefixLength_bounds
  exact ⟨{
    location_nonempty := fields.location_nonempty
    location_short := fields.location_short
    hostname := validHostname_iff.mp fields.hostname_valid
    domain := validHostname_iff.mp fields.domain_valid
    bootType := fields.bootType_known
    mtu := fields.mtu_bound
    mac := assignable
    prefixLength := bounds
    neighbours := (checkSubnet_eq_ok_iff bounds.2).mp fields.subnet },
    mtu, mac, prefixLength, isRow, Text.u16FromStr_eq_ok_iff.mp readMtu,
    parseMac_eq_ok_iff_lower.mp readMac, Text.u8FromStr_eq_ok_iff.mp readPrefix⟩

/-- A row that spells an acceptable client is accepted. -/
theorem parseClient_of_spelled {row : List String} {client : Client}
    (acceptable : client.Acceptable) (spelled : client.SpelledBy row) :
    parseClient row = .ok client := by
  obtain ⟨mtu, mac, prefixLength, rfl, isMtu, isMac, isPrefix⟩ := spelled
  have bounds := acceptable.prefixLength
  refine parseClient_eq_ok_iff.mpr ⟨{
    length := rfl
    location := rfl
    hostname := rfl
    domain := rfl
    bootType := rfl
    mtu := ⟨mtu, rfl, Text.u16FromStr_eq_ok_iff.mpr isMtu⟩
    ip := ⟨_, rfl, Ipv4Addr.parse_eq_ok_iff.mpr rfl⟩
    prefixLength := ⟨prefixLength, rfl, Text.u8FromStr_eq_ok_iff.mpr isPrefix⟩
    gateway := ⟨_, rfl, Ipv4Addr.parse_eq_ok_iff.mpr rfl⟩
    location_nonempty := acceptable.location_nonempty
    location_short := acceptable.location_short
    hostname_valid := validHostname_iff.mpr acceptable.hostname
    domain_valid := validHostname_iff.mpr acceptable.domain
    bootType_known := acceptable.bootType
    mtu_bound := acceptable.mtu
    prefixLength_bounds := bounds
    subnet := (checkSubnet_eq_ok_iff bounds.2).mpr acceptable.neighbours },
    acceptable.mac, mac, rfl, parseMac_eq_ok_iff_lower.mpr isMac⟩

/-- **What a row is.** `parse_client` accepts exactly the rows that spell a client with
acceptable values, and reads this client. -/
theorem client_row_exact {row : List String} {client : Client} :
    parseClient row = .ok client ↔ client.Acceptable ∧ client.SpelledBy row :=
  ⟨spelled_of_parseClient, fun accepted => parseClient_of_spelled accepted.1 accepted.2⟩

/-! ## Written tables -/

/-- A client as a row, every value in its printed form. -/
def Client.row (client : Client) : List String :=
  [client.location, client.hostname, client.domain, client.bootType, toString client.mtu,
    formatMac client.mac, client.ip.toText, toString client.prefixLength, client.gateway.toText]

theorem spellsMac_formatMac (mac : Mac) : SpellsMac (formatMac mac) mac := by
  rw [SpellsMac, toAsciiLowercase_formatMac, splitOn_formatMac, List.forall₂_map_left_iff]
  exact List.forall₂_same.mpr fun octet _ => .inl rfl

/-- A written row spells its client. -/
theorem Client.spelledBy_row (client : Client) : client.SpelledBy client.row := by
  refine ⟨_, _, _, rfl, ?_, spellsMac_formatMac client.mac, ?_⟩
  · rw [show (toString client.mtu).toList = Nat.toDigits 10 client.mtu.toNat from Nat.toList_repr]
    exact Decimal.spells_toDigits _
  · rw [show (toString client.prefixLength).toList = Nat.toDigits 10 client.prefixLength.toNat
      from Nat.toList_repr]
    exact Decimal.spells_toDigits _

/-- **A client that was accepted** is accepted as it is written. -/
theorem parseClient_row {row : List String} {client : Client}
    (parsed : parseClient row = .ok client) : parseClient client.row = .ok client :=
  parseClient_of_spelled (spelled_of_parseClient parsed).1 client.spelledBy_row

namespace Clients

/-- The clients of a table, in the order of their MACs. -/
def listing (clients : Clients) : List Client := clients.records.toList.map Prod.snd

section Listing

variable {clients : Clients} {listed : List Client}

theorem Holds.mem_listing_iff (holds : clients.Holds listed) {client : Client} :
    client ∈ clients.listing ↔ client ∈ listed := by
  rw [listing, List.mem_map]
  constructor
  · rintro ⟨⟨mac, other⟩, member, rfl⟩
    have found := Std.ExtTreeMap.mem_toList_iff_getElem?_eq_some.mp member
    exact ((holds.records mac other).mp found).1
  · intro member
    have found := (holds.records client.mac client).mpr ⟨member, rfl⟩
    exact ⟨(client.mac, client), Std.ExtTreeMap.mem_toList_iff_getElem?_eq_some.mpr found, rfl⟩

/-- The listing has the listed clients, each once. -/
theorem Holds.perm_listing (holds : clients.Holds listed) : clients.listing.Perm listed := by
  have macs : clients.listing.map Client.mac = clients.records.keys := by
    rw [listing, List.map_map, ← Std.ExtTreeMap.map_fst_toList_eq_keys]
    refine List.map_congr_left fun entry member => ?_
    obtain ⟨mac, client⟩ := entry
    have found := Std.ExtTreeMap.mem_toList_iff_getElem?_eq_some.mp member
    exact ((holds.records mac client).mp found).2
  have nodup : clients.listing.Nodup := by
    refine List.Nodup.of_map Client.mac ?_
    rw [macs]
    exact Std.ExtTreeMap.nodup_keys
  rw [List.perm_ext_iff_of_nodup nodup (List.Nodup.of_map Client.mac holds.macs)]
  exact fun client => holds.mem_listing_iff

/-- Written rows give the clients that were written. -/
theorem lists_of_written {rows : List CsvRow} {written : List Client}
    (fields : rows.map CsvRow.fields = written.map Client.row)
    (accepted : ∀ client ∈ written, parseClient client.row = .ok client) : Lists rows written := by
  induction written generalizing rows with
  | nil =>
      obtain rfl := List.map_eq_nil_iff.mp fields
      exact .nil
  | cons client written ih =>
      obtain ⟨row, rest, rfl, isRow, later⟩ := List.map_eq_cons_iff.mp fields
      rw [List.forall_mem_cons] at accepted
      refine .cons ?_ (ih later accepted.2)
      rw [isRow]
      exact accepted.1

end Listing

/-- **Tables survive being written.** Whenever a table was accepted, every text whose rows
are the header and the written rows of its clients, in any order, is accepted, and gives the
same table. -/
theorem table_round_trip {csv otherCsv : CsvReader} {text otherText : String} {clients : Clients}
    (parsed : parse csv text = .ok clients) {order : List Client}
    (ordered : order.Perm clients.listing) {rows : List CsvRow}
    (reads : otherCsv otherText = rows.map .ok)
    (written : rows.map CsvRow.fields = header :: order.map Client.row) :
    parse otherCsv otherText = .ok clients := by
  obtain ⟨listed, gives, holds⟩ := holds_of_parse parsed
  obtain ⟨first, rest, rfl, isHeader, fields⟩ := List.map_eq_cons_iff.mp written
  have data : dataRows (first :: rest) = rest := if_pos isHeader
  have perm : order.Perm listed := ordered.trans holds.perm_listing
  have lists : Lists rest order := by
    refine lists_of_written fields fun client member => ?_
    obtain ⟨row, -, isClient⟩ := gives.exists_row (perm.mem_iff.mp member)
    exact parseClient_row isClient
  rw [← data] at lists
  obtain ⟨others, otherParsed⟩ := (exists_parse_iff reads).mpr ⟨order, lists,
    (perm.map Client.mac).nodup_iff.mpr holds.macs, (perm.map Client.ip).nodup_iff.mpr holds.ips⟩
  obtain ⟨held, otherGives, otherHolds⟩ := holds_of_parse otherParsed
  rw [reads] at otherGives
  have same : ∀ client, client ∈ listed ↔ client ∈ held := by
    intro client
    rw [← perm.mem_iff, lists.mem_iff, (gives_iff.mp otherGives).mem_iff]
  rw [otherParsed, holds.unique otherHolds same]

/-- The header and the rows of some clients, written. -/
def written (order : List Client) : String :=
  String.join ((header :: order.map Client.row).map fun fields => ",".intercalate fields ++ "\n")

/-- The fields that the plain reader finds. -/
def plainFields (text : String) : List (List String) :=
  ((text.toList.splitOn '\n').filter (· ≠ [])).map fun line =>
    (line.splitOn ',').map String.ofList

theorem plainReader_eq (text : String) : ∃ rows : List CsvRow,
    plainReader text = rows.map .ok ∧ rows.map CsvRow.fields = plainFields text := by
  refine ⟨((text.toList.splitOn '\n').filter (· ≠ [])).mapIdx fun index line =>
    ⟨some (index + 1), (line.splitOn ',').map String.ofList⟩, ?_, ?_⟩
  · refine List.ext_getElem? fun index => ?_
    simp only [plainReader, List.getElem?_map, List.getElem?_mapIdx, Option.map_map]
    rfl
  · refine List.ext_getElem? fun index => ?_
    simp only [plainFields, List.getElem?_map, List.getElem?_mapIdx, Option.map_map]
    rfl

/-- The shipped table is read from its clients, whether they are written in the order of the
MACs or against it. -/
theorem table_round_trip_shipped : ∃ clients, parse plainReader shipped = .ok clients ∧
    parse plainReader (written clients.listing) = .ok clients ∧
      parse plainReader (written clients.listing.reverse) = .ok clients := by
  have read : (parse plainReader shipped).toOption.any (fun clients =>
      decide (plainFields (written clients.listing) = header :: clients.listing.map Client.row ∧
        plainFields (written clients.listing.reverse) =
          header :: clients.listing.reverse.map Client.row)) = true := by
    decide +kernel
  obtain ⟨clients, parsed, isRead⟩ := Outcome.exists_of_any read
  obtain ⟨upwards, downwards⟩ := of_decide_eq_true isRead
  obtain ⟨rows, reads, fields⟩ := plainReader_eq (written clients.listing)
  obtain ⟨others, otherReads, otherFields⟩ := plainReader_eq (written clients.listing.reverse)
  exact ⟨clients, parsed, table_round_trip parsed (.refl _) reads (fields.trans upwards),
    table_round_trip parsed (List.reverse_perm _) otherReads (otherFields.trans downwards)⟩

end Clients

end Macdack
