import Macdack.Dhcp.Header

/-!
# Serving a snapshot

`serveReply` is what `serve` does with one datagram: it parses it, looks the MAC
up in the active snapshot and replies to the client of that row. Logging, metrics
and the socket are left out here.

The assignment is static. A reply that carries an address carries the address of
the row with the MAC it answers, so no field of a request but the MAC decides
which address is given, and no two MACs are given one address
(`static_assignment`).
-/

set_option autoImplicit false

namespace Macdack

/-- What `serve` sends for one datagram. -/
def serveReply (snapshot : Option Clients) (config : Config) (server : Ipv4Addr) (bytes : Bytes) :
    Outcome (Option Reply) := do
  let packet ← Packet.parse bytes
  match snapshot.bind fun clients => clients.records[packet.mac]? with
  | some client => do
      let mismatch ← packet.bootModeMismatch client
      if mismatch then return none else reply packet client config server
  | none => return none

namespace Reply

/-- The address that the reply gives. -/
def yiaddr (sent : Reply) : Bytes := Buffer.slice sent.bytes 16 20

/-- The first six bytes of the client hardware address of the reply. -/
def chaddr (sent : Reply) : Bytes := Buffer.slice sent.bytes 28 34

end Reply

/-- A reply of `serve` is the reply to a client of the snapshot. -/
theorem serveReply_eq_some {clients : Clients} {config : Config} {server : Ipv4Addr}
    {bytes : Bytes} {sent : Reply}
    (served : serveReply (some clients) config server bytes = .ok (some sent)) :
    ∃ packet client, Packet.parse bytes = .ok packet ∧
      clients.records[packet.mac]? = some client ∧
        reply packet client config server = .ok (some sent) := by
  rw [serveReply, Outcome.bind_eq_ok] at served
  obtain ⟨packet, parsed, served⟩ := served
  rw [Option.bind_some] at served
  cases found : clients.records[packet.mac]? with
  | none =>
      rw [found] at served
      cases served
  | some client =>
      simp only [found, Packet.bootModeMismatch_eq, Outcome.bind_ok] at served
      split at served
      · cases served
      · exact ⟨packet, client, parsed, found, served⟩

/-- The hardware address of a reply is that of the request. -/
theorem chaddr_of_reply {packet : Packet} (wellFormed : packet.WellFormed) {client : Client}
    {config : Config} {server : Ipv4Addr} {sent : Reply}
    (replied : reply packet client config server = .ok (some sent)) :
    sent.chaddr = packet.mac.toList := by
  obtain ⟨message, -, ⟨rest, extended⟩, -⟩ := reply_header wellFormed replied
  have length := length_fixedPart wellFormed.length_header client config message
  have echo := echo_fixedPart wellFormed.length_header client config message
  rw [Reply.chaddr, extended, slice_of_header length (by decide), wellFormed.mac]
  exact Buffer.slice_congr echo.relay (by decide) (by decide)

/-- The address of a reply is that of the client row, or zero. -/
theorem yiaddr_of_reply {packet : Packet} (wellFormed : packet.WellFormed) {client : Client}
    {config : Config} {server : Ipv4Addr} {sent : Reply}
    (replied : reply packet client config server = .ok (some sent))
    (assigns : sent.yiaddr ≠ [0, 0, 0, 0]) : sent.yiaddr = client.ip.bytes := by
  obtain ⟨message, -, ⟨rest, extended⟩, -⟩ := reply_header wellFormed replied
  have length := length_fixedPart wellFormed.length_header client config message
  have given := yiaddr_fixedPart wellFormed.length_header client config message
  rw [Reply.yiaddr, extended, slice_of_header length (by decide), given] at assigns ⊢
  by_cases granted : grants packet message = true
  · rw [if_pos granted]
  · rw [if_neg granted] at assigns
    exact absurd rfl assigns

/-- **A reply names a row.** A reply with an address comes from the listed client
whose MAC it answers, and carries the address of that client. -/
theorem exists_listed_of_serveReply {clients : Clients} {listed : List Client}
    (holds : clients.Holds listed) {config : Config} {server : Ipv4Addr} {bytes : Bytes}
    {sent : Reply} (served : serveReply (some clients) config server bytes = .ok (some sent))
    (assigns : sent.yiaddr ≠ [0, 0, 0, 0]) :
    ∃ client ∈ listed, client.mac.toList = sent.chaddr ∧ client.ip.bytes = sent.yiaddr := by
  obtain ⟨packet, client, parsed, found, replied⟩ := serveReply_eq_some served
  have wellFormed := Packet.wellFormed_of_parse parsed
  obtain ⟨member, mac⟩ := (holds.records packet.mac client).mp found
  refine ⟨client, member, ?_, ?_⟩
  · rw [mac, chaddr_of_reply wellFormed replied]
  · rw [yiaddr_of_reply wellFormed replied assigns]

/-- **Static assignment is exact and exclusive.** Over one parsed table, whatever
the configuration, the server address and the datagrams are: a reply with an
address carries the MAC of its datagram and the address of the row with this MAC,
two replies with one address carry one MAC, and a MAC without a row gets no
reply. -/
theorem static_assignment {csv : CsvReader} {text : String} {clients : Clients}
    (table : Clients.parse csv text = .ok clients) :
    (∀ (config : Config) (server : Ipv4Addr) (bytes : Bytes) (sent : Reply),
      serveReply (some clients) config server bytes = .ok (some sent) →
        sent.chaddr = Buffer.slice bytes 28 34 ∧
          (sent.yiaddr ≠ [0, 0, 0, 0] →
            (∃ row client, .ok row ∈ csv text ∧ parseClient row.fields = .ok client ∧
              client.mac.toList = sent.chaddr ∧ client.ip.bytes = sent.yiaddr) ∧
            (∀ row client, .ok row ∈ csv text → parseClient row.fields = .ok client →
              client.mac.toList = sent.chaddr → client.ip.bytes = sent.yiaddr))) ∧
    (∀ (config config' : Config) (server server' : Ipv4Addr) (bytes bytes' : Bytes)
        (sent sent' : Reply),
      serveReply (some clients) config server bytes = .ok (some sent) →
        serveReply (some clients) config' server' bytes' = .ok (some sent') →
          sent.yiaddr ≠ [0, 0, 0, 0] → sent.yiaddr = sent'.yiaddr → sent.chaddr = sent'.chaddr) ∧
    (∀ (config : Config) (server : Ipv4Addr) (bytes : Bytes) (packet : Packet),
      Packet.parse bytes = .ok packet →
        (∀ row client, .ok row ∈ csv text → parseClient row.fields = .ok client →
          client.mac ≠ packet.mac) →
            serveReply (some clients) config server bytes = .ok none) := by
  obtain ⟨listed, gives, holds⟩ := Clients.holds_of_parse table
  refine ⟨?_, ?_, ?_⟩
  · intro config server bytes sent served
    constructor
    · obtain ⟨packet, client, parsed, -, replied⟩ := serveReply_eq_some served
      obtain ⟨-, header, -⟩ := Packet.parse_eq_ok_iff.mp parsed
      rw [chaddr_of_reply (Packet.wellFormed_of_parse parsed) replied, header.mac]
    · intro assigns
      obtain ⟨client, member, mac, ip⟩ := exists_listed_of_serveReply holds served assigns
      constructor
      · obtain ⟨row, inText, parsedRow⟩ := gives.exists_row member
        exact ⟨row, client, inText, parsedRow, mac, ip⟩
      · intro row other inText parsedRow sameMac
        have otherMember := gives.mem_of_row inText parsedRow
        have same : other = client := List.inj_on_of_nodup_map holds.macs otherMember member
          (Vector.toList_inj.mp (sameMac.trans mac.symm))
        rw [same, ip]
  · intro config config' server server' bytes bytes' sent sent' served served' assigns sameIp
    obtain ⟨client, member, mac, ip⟩ := exists_listed_of_serveReply holds served assigns
    obtain ⟨client', member', mac', ip'⟩ :=
      exists_listed_of_serveReply holds served' (by rwa [← sameIp])
    have same : client = client' := List.inj_on_of_nodup_map holds.ips member member'
      (Ipv4Addr.bytes_injective (by rw [ip, ip', sameIp]))
    rw [← mac, ← mac', same]
  · intro config server bytes packet parsed noRow
    have missing : clients.records[packet.mac]? = none := by
      rw [Option.eq_none_iff_forall_ne_some]
      intro client found
      obtain ⟨member, mac⟩ := (holds.records packet.mac client).mp found
      obtain ⟨row, inText, parsedRow⟩ := gives.exists_row member
      exact noRow row client inText parsedRow mac
    rw [serveReply, parsed, Outcome.bind_ok, Option.bind_some, missing]
    rfl

/-- A DISCOVER of the first client of the shipped file is offered the address of
its row. -/
theorem static_assignment_shipped : ∃ clients sent,
    Clients.parse Clients.plainReader Clients.shipped = .ok clients ∧
      serveReply (some clients) Config.shipped (.new 192 0 2 10) (Packet.wire 1 []) =
        .ok (some sent) ∧
      ∃ row client, .ok row ∈ Clients.plainReader Clients.shipped ∧
        parseClient row.fields = .ok client ∧ client.ip.bytes = sent.yiaddr := by
  have offered : (Clients.parse Clients.plainReader Clients.shipped).toOption.any (fun clients =>
      (serveReply (some clients) Config.shipped (.new 192 0 2 10) (Packet.wire 1 [])).toOption.any
        fun sent => sent.any fun sent => sent.yiaddr != [0, 0, 0, 0]) = true := by
    decide +kernel
  obtain ⟨clients, table, offered⟩ := Outcome.exists_of_any offered
  obtain ⟨reply, served, assigns⟩ := Outcome.exists_of_any offered
  obtain ⟨sent, rfl, assigns⟩ := (Option.any_eq_true _ _).mp assigns
  obtain ⟨row, client, inText, parsedRow, -, ip⟩ :=
    (((static_assignment table).1 _ _ _ sent served).2 (bne_iff_ne.mp assigns)).1
  exact ⟨clients, sent, table, served, row, client, inText, parsedRow, ip⟩

end Macdack
