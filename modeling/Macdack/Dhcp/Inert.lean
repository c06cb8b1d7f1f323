import Macdack.Dhcp.Layouts
import Macdack.Dhcp.Relay

/-!
# Unknown options are inert

The program reads the options of eleven codes (`readCodes`). Two requests that
agree on these, and on their headers, are the same to it: `Packet.SameRequest`
gives them one stage, one route mode, one decision about the boot mode and one
result of `reply`, for every client row, configuration and server address.

Pads and fields of other codes can be put at any boundary between the fields of
the options field, in front of its end. The datagram stays accepted and the
request stays the same (`unknown_options_inert`).
-/

set_option autoImplicit false

namespace Macdack

open OptionStream (Item)

/-- The codes of the options that the program reads. -/
def readCodes : List UInt8 := [50, 52, 53, 54, 55, 57, 60, 61, 77, 82, 93]

/-! ## Requests that are the same to the program -/

/-- Two requests with one header that agree on the options that are read. -/
structure Packet.SameRequest (first second : Packet) : Prop where
  header : first.header = second.header
  mac : first.mac = second.mac
  message : first.message = second.message
  ciaddr : first.ciaddr = second.ciaddr
  giaddr : first.giaddr = second.giaddr
  options : ∀ code ∈ readCodes, first.options[code]? = second.options[code]?

namespace Packet.SameRequest

variable {first second : Packet} (same : first.SameRequest second)

include same

/-- One value of an option that is read. -/
theorem option_eq {code : UInt8} (isRead : readCodes.contains code = true) :
    first.options[code]? = second.options[code]? :=
  same.options code (List.contains_iff_mem.mp isRead)

theorem asksAlike : first.AsksAlike second where
  inform := by rw [same.message]
  options := by
    intro code member
    refine same.options code ?_
    simp only [List.mem_cons, List.not_mem_nil, or_false] at member
    rcases member with rfl | rfl | rfl | rfl | rfl | rfl <;> decide

theorem xid_eq : first.xid = second.xid := by
  rw [xid, xid, same.header]

theorem stage_eq : first.stage = second.stage := by
  rw [Packet.stage_eq, Packet.stage_eq, same.asksAlike.bootStage_eq]

theorem routeMode_eq : first.routeMode = second.routeMode := by
  rw [routeMode, routeMode, same.stage_eq, same.asksAlike.requests_eq]

theorem bootModeMismatch_eq (client : Client) :
    first.bootModeMismatch client = second.bootModeMismatch client := by
  rw [bootModeMismatch, bootModeMismatch, same.stage_eq]

theorem dueMessage_eq (client : Client) (server : Ipv4Addr) :
    dueMessage first client server = dueMessage second client server := by
  rw [Macdack.dueMessage_eq, Macdack.dueMessage_eq,
    same.asksAlike.due_eq same.message same.ciaddr (same.option_eq (by decide))
      (same.option_eq (by decide))]

/-! The steps of `answer` and of `finish`, one by one. -/

theorem replyHeader_eq : replyHeader first = replyHeader second := by
  rw [replyHeader, replyHeader, same.header]

theorem identityOptions_eq (server : Ipv4Addr) (message : UInt8) (bytes : Bytes) :
    identityOptions first server message bytes = identityOptions second server message bytes := by
  rw [identityOptions, identityOptions, same.option_eq (by decide)]

theorem refuse_eq (bytes : Bytes) : refuse first bytes = refuse second bytes := by
  rw [refuse, refuse, same.giaddr]

theorem grantOptions_eq (client : Client) (config : Config) (bytes : Bytes) :
    grantOptions first client config bytes = grantOptions second client config bytes := by
  rw [grantOptions, grantOptions, same.message]

theorem settingOptions_eq (client : Client) (config : Config) (bytes : Bytes) :
    settingOptions first client config bytes = settingOptions second client config bytes := by
  rw [settingOptions, settingOptions, same.asksAlike.requests_eq]

theorem routeOptions_eq (client : Client) (config : Config) (bytes : Bytes) :
    routeOptions first client config bytes = routeOptions second client config bytes := by
  rw [routeOptions, routeOptions, same.routeMode_eq]

theorem bootOptions_eq (client : Client) (config : Config) (bytes : Bytes) :
    bootOptions first client config bytes = bootOptions second client config bytes := by
  rw [bootOptions, bootOptions, same.stage_eq]

theorem answer_eq (client : Client) (config : Config) (server : Ipv4Addr) (message : UInt8) :
    answer first client config server message = answer second client config server message := by
  simp only [answer, same.replyHeader_eq, same.identityOptions_eq, same.refuse_eq,
    same.grantOptions_eq, same.settingOptions_eq, same.routeOptions_eq, same.bootOptions_eq]

theorem maximumSize_eq : maximumSize first = maximumSize second := by
  rw [maximumSize, maximumSize, same.option_eq (by decide)]

theorem relayOption_eq (maximum : ℕ) (bytes : Bytes) :
    relayOption first maximum bytes = relayOption second maximum bytes := by
  rw [relayOption, relayOption, same.giaddr, same.option_eq (by decide)]

theorem destination_eq (message : UInt8) :
    destination first message = destination second message := by
  rw [destination, destination, same.giaddr, same.ciaddr]

theorem finish_eq (message : UInt8) (bytes : Bytes) (bootFile : Option String) :
    finish first message bytes bootFile = finish second message bytes bootFile := by
  simp only [finish, same.maximumSize_eq, same.relayOption_eq, same.destination_eq]

/-- **One request, one reply**, whatever the client row, the configuration and the
server address are. -/
theorem reply_eq (client : Client) (config : Config) (server : Ipv4Addr) :
    reply first client config server = reply second client config server := by
  simp only [reply, same.dueMessage_eq, same.answer_eq, same.finish_eq]

end Packet.SameRequest

/-! ## Inserting items -/

/-- The bytes end between two items of the options field, in front of its end:
behind the cookie they are complete items. -/
def AtBoundary (front : Bytes) : Prop :=
  240 ≤ front.length ∧ ∃ items : List Item, front.drop 240 = items.flatMap Item.render

/-- No inserted field has a code that is read. -/
def Unread (inserted : List Item) : Prop :=
  ∀ field, Item.field field ∈ inserted → field.code ∉ readCodes

/-- The fragments of unread items are of other codes. -/
theorem Unread.fragments {inserted : List Item} (unread : Unread inserted) {code : UInt8}
    (isRead : code ∈ readCodes) :
    ∀ fragment ∈ inserted.flatMap Item.fragments, fragment.1 ≠ code := by
  intro fragment member
  obtain ⟨item, inInserted, inItem⟩ := List.mem_flatMap.mp member
  cases item with
  | pad => exact absurd inItem List.not_mem_nil
  | field content =>
      rw [Item.fragments, List.mem_singleton] at inItem
      rw [inItem]
      rintro rfl
      exact unread content inInserted isRead

/-- The inserted items are read, and the values of the codes that are read do not
change. -/
theorem readOptions_insert {front rest : Bytes} (boundary : AtBoundary front)
    {inserted : List Item} (unread : Unread inserted) {field : Options}
    (read : readOptions ((front ++ rest).drop 240) ∅ = .ok field) :
    ∃ other, readOptions ((front ++ (inserted.flatMap Item.render ++ rest)).drop 240) ∅ =
        .ok other ∧
      ∀ code ∈ readCodes, other[code]? = field[code]? := by
  obtain ⟨inside, items, isItems⟩ := boundary
  rw [List.drop_append_of_le_length inside, isItems, readOptions_eq,
    OptionStream.scan_items] at read
  rw [List.drop_append_of_le_length inside, isItems, readOptions_eq, OptionStream.scan_items,
    OptionStream.scan_items]
  cases scanned : OptionStream.scan rest with
  | error malformed =>
      rw [scanned] at read
      cases read
  | ok later =>
      rw [scanned] at read
      refine ⟨_, rfl, ?_⟩
      intro code isRead
      rw [← Except.ok.inj read, Fragments.getElem?_absorb_empty, Fragments.getElem?_absorb_empty,
        Fragments.gather_insert (unread.fragments isRead)]

/-- The header fields that hold options are in front of the insertion, and are
read alike. -/
theorem readOverload_insert {front first : Bytes} (second : Bytes) (inside : 240 ≤ front.length)
    {field other options : Options}
    (same : ∀ code ∈ readCodes, other[code]? = field[code]?)
    (read : readOverload (front ++ first) field = .ok options) :
    ∃ result, readOverload (front ++ second) other = .ok result ∧
      ∀ code ∈ readCodes, result[code]? = options[code]? := by
  have length : ∀ tail : Bytes, 236 ≤ (front ++ tail).length := by
    intro tail
    rw [List.length_append]
    omega
  have kept : ∀ {low high : ℕ}, high ≤ 240 →
      Buffer.slice (front ++ second) low high = Buffer.slice (front ++ first) low high := by
    intro low high bound
    rw [Buffer.slice_append_left (by omega), Buffer.slice_append_left (by omega)]
  obtain ⟨header, announced, placed, rfl⟩ := exists_header_of_readOverload (length first) read
  refine ⟨Fragments.absorb other header.fragments,
    readOverload_of_placed (length second) ?_ ⟨?_, ?_⟩, ?_⟩
  · exact (same 52 (by decide)).trans announced
  · intro area isFile
    rw [kept (by decide), placed.file area isFile]
  · intro area isSname
    rw [kept (by decide), placed.sname area isSname]
  · intro code isRead
    rw [Fragments.getElem?_absorb, Fragments.getElem?_absorb, same code isRead]

/-- **The datagram with the insertion is accepted**, as the same request. -/
theorem exists_parse_insert {front rest : Bytes} (boundary : AtBoundary front)
    {inserted : List Item} (unread : Unread inserted) {packet : Packet}
    (parsed : Packet.parse (front ++ rest) = .ok packet) :
    ∃ other, Packet.parse (front ++ (inserted.flatMap Item.render ++ rest)) = .ok other ∧
      other.SameRequest packet := by
  have inside := boundary.1
  have kept : ∀ {low high : ℕ} (tail : Bytes), high ≤ 240 →
      Buffer.slice (front ++ tail) low high = Buffer.slice front low high := fun tail bound =>
    Buffer.slice_append_left (Nat.le_trans bound inside)
  obtain ⟨⟨-, hardware, magic⟩, ⟨header, mac, ciaddr, giaddr⟩, rules, field, read, overload⟩ :=
    Packet.parse_eq_ok_iff.mp parsed
  obtain ⟨other, otherRead, same⟩ := readOptions_insert boundary unread read
  obtain ⟨options, otherOverload, agree⟩ := readOverload_insert
    (inserted.flatMap Item.render ++ rest) inside same overload
  rw [kept _ (by decide)] at hardware magic header mac ciaddr giaddr
  refine ⟨{ packet with options }, Packet.parse_eq_ok_iff.mpr
    ⟨⟨?_, ?_, ?_⟩, ⟨?_, ?_, ?_, ?_⟩, rules.of_same ?_, other, otherRead, otherOverload⟩,
    ⟨rfl, rfl, rfl, rfl, rfl, agree⟩⟩
  · rw [List.length_append]
    omega
  · rw [kept _ (by decide), hardware]
  · rw [kept _ (by decide), magic]
  · rw [kept _ (by decide)]
    exact header
  · rw [kept _ (by decide)]
    exact mac
  · rw [kept _ (by decide)]
    exact ciaddr
  · rw [kept _ (by decide)]
    exact giaddr
  · intro code member
    refine agree code ?_
    simp only [List.mem_cons, List.not_mem_nil, or_false] at member
    rcases member with rfl | rfl | rfl | rfl | rfl <;> decide

/-- **Unknown options and pads are inert.** Pads and fields whose codes are not
read, put at a boundary in front of the end of the options field, leave an
accepted datagram accepted, and everything that the program computes from it the
same. -/
theorem unknown_options_inert {front rest : Bytes} (boundary : AtBoundary front)
    {inserted : List Item} (unread : Unread inserted) {packet : Packet}
    (parsed : Packet.parse (front ++ rest) = .ok packet) :
    ∃ other, Packet.parse (front ++ (inserted.flatMap Item.render ++ rest)) = .ok other ∧
      other.mac = packet.mac ∧ other.message = packet.message ∧
      other.ciaddr = packet.ciaddr ∧ other.giaddr = packet.giaddr ∧ other.xid = packet.xid ∧
      other.stage = packet.stage ∧ other.routeMode = packet.routeMode ∧
      (∀ client, other.bootModeMismatch client = packet.bootModeMismatch client) ∧
      ∀ (client : Client) (config : Config) (server : Ipv4Addr),
        reply other client config server = reply packet client config server := by
  obtain ⟨other, accepted, same⟩ := exists_parse_insert boundary unread parsed
  exact ⟨other, accepted, same.mac, same.message, same.ciaddr, same.giaddr, same.xid_eq,
    same.stage_eq, same.routeMode_eq, same.bootModeMismatch_eq, same.reply_eq⟩

/-- A DISCOVER with a pad and two host names behind its message type. -/
theorem unknown_options_inert_discover : ∃ packet other,
    Packet.parse (Packet.wire 1 []) = .ok packet ∧
      Packet.parse ((Packet.wire 1 []).take 243 ++
        ([0, 12, 2, 112, 99, 12, 1, 49] ++ (Packet.wire 1 []).drop 243)) = .ok other ∧
      other.stage = packet.stage := by
  obtain ⟨packet, parsed⟩ := Packet.exists_parse_discover
  have front : AtBoundary ((Packet.wire 1 []).take 243) :=
    ⟨by decide +kernel, [.field ⟨53, [1], by decide, by decide, by decide⟩], by decide +kernel⟩
  have names : Unread [.pad, .field ⟨12, [112, 99], by decide, by decide, by decide⟩,
      .field ⟨12, [49], by decide, by decide, by decide⟩] := by
    intro field member
    simp only [List.mem_cons, reduceCtorEq, Item.field.injEq, List.not_mem_nil, or_false,
      false_or] at member
    rcases member with rfl | rfl
    · decide
    · decide
  have split : Packet.parse ((Packet.wire 1 []).take 243 ++ (Packet.wire 1 []).drop 243) =
      .ok packet := by
    rw [List.take_append_drop]
    exact parsed
  obtain ⟨other, accepted, -, -, -, -, -, stage, -⟩ := unknown_options_inert front names split
  exact ⟨packet, other, parsed, accepted, stage⟩

end Macdack
