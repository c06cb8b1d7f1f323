import Mathlib.Data.List.DropRight
import Macdack.Dhcp.Header

/-!
# Relay transparency

A request that came through a relay differs from the direct one by the relay's
address in the header and by the relay option. The reply differs from the direct
reply by the same two things: `Packet.withoutRelay` is the direct request, and
`relay_transparent` compares the two replies.

The relay option is echoed in front of the end mark when the message still fits
the limit with it, and left out otherwise. The decision accounts for the
fragments of the option and for the end mark exactly (`relay_decision`).
-/

set_option autoImplicit false

namespace Macdack

open OptionStream (Table)

/-! ## The direct request -/

/-- The request as the client sent it: no relay address, no relay option. -/
def Packet.withoutRelay (packet : Packet) : Packet :=
  { packet with
    header := Buffer.overwrite packet.header 24 [0, 0, 0, 0]
    options := packet.options.erase 82
    giaddr := Ipv4Addr.unspecified }

namespace Packet

theorem getElem?_erase_relay (packet : Packet) {code : UInt8} (other : code ≠ 82) :
    (packet.options.erase 82)[code]? = packet.options[code]? := by
  rw [Std.ExtTreeMap.getElem?_erase, if_neg]
  rw [Std.compare_eq_iff_eq]
  exact other.symm

theorem alike_withoutRelay (packet : Packet) : packet.AsksAlike packet.withoutRelay where
  inform := Iff.rfl
  options := by
    intro code member
    refine (packet.getElem?_erase_relay ?_).symm
    rintro rfl
    revert member
    decide

theorem due_withoutRelay (packet : Packet) (client : Client) (server : Ipv4Addr) :
    due packet.withoutRelay client server = due packet client server :=
  (packet.alike_withoutRelay.due_eq rfl rfl (packet.getElem?_erase_relay (by decide)).symm
    (packet.getElem?_erase_relay (by decide)).symm client server).symm

/-- The direct request of a well formed packet is well formed. -/
theorem WellFormed.withoutRelay {packet : Packet} (wellFormed : packet.WellFormed) :
    packet.withoutRelay.WellFormed := by
  have fits : 24 + [(0 : UInt8), 0, 0, 0].length ≤ packet.header.length := by
    rw [wellFormed.length_header]
    decide
  refine ⟨?_, ?_, ?_, ?_, wellFormed.rules.of_same ?_⟩
  · exact Buffer.length_overwrite_of wellFormed.length_header (by decide)
  · exact wellFormed.mac.trans (Buffer.slice_overwrite_after fits (by decide)).symm
  · exact wellFormed.ciaddr.trans (Buffer.slice_overwrite_before fits (by decide)).symm
  · exact (Buffer.slice_overwrite_self fits rfl).symm
  · intro code member
    refine packet.getElem?_erase_relay ?_
    rintro rfl
    revert member
    decide

end Packet

/-! ## The header -/

/-- The marks of a relayed reply in the header: the address of the relay, and in a
NAK the broadcast flag. -/
def markRelayed (relay : Ipv4Addr) (message : UInt8) (bytes : Bytes) : Bytes :=
  let bytes := Buffer.overwrite bytes 24 relay.bytes
  if message = 6 then Buffer.overwrite bytes 10 [bytes[10]?.getD 0 ||| 0x80] else bytes

/-- What the echo writes in front of the relay field. -/
def echoWritesBefore (packet : Packet) : List (ℕ × Bytes) :=
  [(0, [2, 1, 6]), (4, Buffer.slice packet.header 4 8), (10, Buffer.slice packet.header 10 16)]

/-- The relay field of the echo starts with the address of the relay. -/
theorem echoWrites_eq {packet : Packet} (wellFormed : packet.WellFormed) :
    echoWrites packet = echoWritesBefore packet ++
      (24, packet.giaddr.bytes ++ Buffer.slice packet.header 28 44) :: [(236, cookie)] := by
  rw [wellFormed.giaddr, ← Buffer.slice_append_slice packet.header (by decide) (by decide)]
  rfl

/-- The echo of the direct request has a zero relay address and is the same
elsewhere. -/
theorem echoWrites_withoutRelay {packet : Packet} (wellFormed : packet.WellFormed) :
    echoWrites packet.withoutRelay = echoWritesBefore packet ++
      (24, [0, 0, 0, 0] ++ Buffer.slice packet.header 28 44) :: [(236, cookie)] := by
  have fits : 24 + [(0 : UInt8), 0, 0, 0].length ≤ packet.header.length := by
    rw [wellFormed.length_header]
    decide
  have before : echoWritesBefore packet.withoutRelay = echoWritesBefore packet := by
    rw [echoWritesBefore, Packet.withoutRelay, Buffer.slice_overwrite_before fits (by decide),
      Buffer.slice_overwrite_before fits (by decide)]
    rfl
  have after : Buffer.slice packet.withoutRelay.header 28 44 = Buffer.slice packet.header 28 44 :=
    Buffer.slice_overwrite_after fits (by decide)
  rw [echoWrites_eq wellFormed.withoutRelay, before, after]
  rfl

/-- Writing the address of the relay into the header of the direct reply, when
what is written behind the echo is the same. -/
theorem overwrite_relay {packet : Packet} (wellFormed : packet.WellFormed)
    {later : List (ℕ × Bytes)} (fits : Buffer.Fits 240 later) (apart : Buffer.Apart 24 28 later) :
    Buffer.overwrite
        (Buffer.overwriteAll (List.replicate 240 0) (echoWrites packet.withoutRelay ++ later)) 24
        packet.giaddr.bytes =
      Buffer.overwriteAll (List.replicate 240 0) (echoWrites packet ++ later) := by
  have whole : Buffer.Fits 240 (echoWrites packet.withoutRelay ++ later) :=
    List.forall_mem_append.mpr ⟨fits_echoWrites wellFormed.withoutRelay.length_header, fits⟩
  have apartLater : Buffer.Apart 24 (24 + packet.giaddr.bytes.length) ((236, cookie) :: later) := by
    rw [Ipv4Addr.length_bytes]
    exact List.forall_mem_cons.mpr ⟨.inl (by decide), apart⟩
  rw [echoWrites_withoutRelay wellFormed, List.append_assoc] at whole ⊢
  rw [echoWrites_eq wellFormed, List.append_assoc]
  exact Buffer.overwrite_overwriteAll_front (echoWritesBefore packet)
    (by rw [List.length_replicate]; exact whole) (Ipv4Addr.length_bytes _) apartLater

/-- **The header of a relayed reply** is that of the direct reply with the marks
of the relay. -/
theorem fixedPart_withoutRelay {packet : Packet} (wellFormed : packet.WellFormed)
    (relayed : packet.giaddr.isUnspecified = false) (client : Client) (config : Config)
    (message : UInt8) :
    fixedPart packet client config message =
      markRelayed packet.giaddr message (fixedPart packet.withoutRelay client config message) := by
  have untouched : Untouched 24 28 := ⟨by decide, by decide, by decide⟩
  have fits : Buffer.Fits 240 (laterWrites packet.withoutRelay client config message) :=
    fun write member => fits_headerWrites wellFormed.withoutRelay.length_header client config
      message write (List.mem_append_right _ member)
  have addressed := overwrite_relay wellFormed fits
    (apart_laterWrites packet.withoutRelay client config message untouched)
  rw [markRelayed, fixedPart, fixedPart, headerWrites, headerWrites, addressed]
  by_cases refused : message = 6
  · subst refused
    have later : laterWrites packet client config 6 =
        laterWrites packet.withoutRelay client config 6 ++
          [(10, [packet.header[10]?.getD 0 ||| 0x80])] := by
      rw [laterWrites, laterWrites, if_pos rfl, if_pos rfl, refusalWrites, refusalWrites, relayed]
      rfl
    have cleared : laterWrites packet.withoutRelay client config 6 = [(12, [0, 0, 0, 0])] := rfl
    have flags : (Buffer.overwriteAll (List.replicate 240 0)
        (echoWrites packet ++ laterWrites packet.withoutRelay client config 6))[10]? =
          packet.header[10]? := by
      have length := length_echoedHeader wellFormed.length_header
      rw [Buffer.overwriteAll_append, ← echoedHeader, cleared]
      change (Buffer.overwrite (echoedHeader packet) 12 [0, 0, 0, 0])[10]? = _
      rw [Buffer.getElem?_overwrite (by rw [length]; decide), if_neg (by decide),
        getElem?_echoedHeader wellFormed.length_header]
    rw [if_pos rfl, flags, later, ← List.append_assoc, Buffer.overwriteAll_append]
    rfl
  · rw [if_neg refused, laterWrites, laterWrites, if_neg refused, if_neg refused,
      packet.alike_withoutRelay.grants_eq, packet.alike_withoutRelay.namedBootFile_eq]

theorem length_markRelayed (relay : Ipv4Addr) (message : UInt8) {bytes : Bytes}
    (room : 240 ≤ bytes.length) : (markRelayed relay message bytes).length = bytes.length := by
  have addressed : (Buffer.overwrite bytes 24 relay.bytes).length = bytes.length :=
    Buffer.length_overwrite (by rw [Ipv4Addr.length_bytes]; omega)
  rw [markRelayed]
  split
  · rw [Buffer.length_overwrite (by rw [addressed, List.length_singleton]; omega), addressed]
  · exact addressed

/-- The marks are inside the header. -/
theorem markRelayed_append (relay : Ipv4Addr) (message : UInt8) {fixed : Bytes}
    (room : fixed.length = 240) (tail : Bytes) :
    markRelayed relay message (fixed ++ tail) = markRelayed relay message fixed ++ tail := by
  have addressed : (Buffer.overwrite fixed 24 relay.bytes).length = 240 :=
    Buffer.length_overwrite_of room (by rw [Ipv4Addr.length_bytes]; decide)
  rw [markRelayed, markRelayed,
    Buffer.overwrite_append_left (by rw [room, Ipv4Addr.length_bytes]; decide)]
  split
  · rw [List.getElem?_append_left (by omega),
      Buffer.overwrite_append_left (by rw [addressed, List.length_singleton]; decide)]
  · rfl

/-! ## The relay option -/

/-- The message without its padding. -/
def unpadded (bytes : Bytes) : Bytes := bytes.rdropWhile (· == 0)

/-- The padding of a message ends at its end mark. -/
theorem unpadded_pad (bytes : Bytes) : unpadded (pad (bytes ++ [255])) = bytes ++ [255] := by
  have zeros : ∀ count : ℕ,
      unpadded (bytes ++ [255] ++ List.replicate count 0) = bytes ++ [255] := by
    intro count
    induction count with
    | zero =>
        rw [List.replicate_zero, List.append_nil, unpadded]
        exact List.rdropWhile_concat_neg _ _ _ (by decide)
    | succ count ih =>
        rw [List.replicate_succ', ← List.append_assoc, unpadded,
          List.rdropWhile_concat_pos _ _ _ (by decide)]
        exact ih
  exact zeros _

/-- What is known of a relayed reply, compared with the direct one. -/
structure Relayed (packet : Packet) (direct sent : Reply) : Prop where
  message : sent.message = direct.message
  bootFile : sent.bootFile = direct.bootFile
  destination : sent.destination = ⟨packet.giaddr, 67⟩
  bytes : ∃ body relay : Bytes,
    unpadded direct.bytes = body ++ [255] ∧
    unpadded sent.bytes = markRelayed packet.giaddr direct.message body ++ relay ++ [255] ∧
    (relay = [] ∨ ∃ pieces : List Bytes, some pieces.flatten = packet.options[(82 : UInt8)]? ∧
      (∀ piece ∈ pieces, piece.length ≤ 255) ∧
      relay = pieces.flatMap fun piece => 82 :: UInt8.ofNat piece.length :: piece) ∧
    (∀ received, packet.options[(82 : UInt8)]? = some received → received ≠ [] →
      (relay = [] ↔ sizeLimit packet <
        (markRelayed packet.giaddr direct.message body ++ OptionStream.encode 82 received ++
          [255]).length)) ∧
    (sent.relayOptionOmitted = true ↔
      ∃ received, packet.options[(82 : UInt8)]? = some received ∧ received ≠ [] ∧
        sizeLimit packet <
          (markRelayed packet.giaddr direct.message body ++ OptionStream.encode 82 received ++
            [255]).length)

/-- An option that is received and not empty takes room. -/
theorem encode_eq_nil_iff {code : UInt8} {value : Bytes} :
    OptionStream.encode code value = [] ↔ value = [] := by
  constructor
  · intro empty
    have size := OptionStream.length_encode code value
    rw [empty, List.length_nil] at size
    exact List.length_eq_zero_iff.mp (by omega)
  · rintro rfl
    exact OptionStream.encode_nil code

/-- The pieces of an encoded option. -/
theorem exists_pieces (code : UInt8) (value : Bytes) :
    ∃ pieces : List Bytes, pieces.flatten = value ∧ (∀ piece ∈ pieces, piece.length ≤ 255) ∧
      OptionStream.encode code value =
        pieces.flatMap fun piece => code :: UInt8.ofNat piece.length :: piece :=
  ⟨OptionStream.chunks 255 (by decide) value, OptionStream.flatten_chunks 255 (by decide) value,
    fun _ member => OptionStream.length_le_of_mem_chunks (by decide) member, rfl⟩

/-- **The decision about the relay option** behind a message of a size that fits
the limit itself. A non-empty option is left out exactly when the message would
exceed the limit with it. -/
theorem relay_decision {packet : Packet} (relayed : packet.giaddr.isUnspecified = false)
    {size : ℕ} (bounded : size + 1 ≤ sizeLimit packet) :
    (∀ received, packet.options[(82 : UInt8)]? = some received → received ≠ [] →
      (Table.encode [(82, carriedRelay packet size)] = [] ↔
        sizeLimit packet < size + (OptionStream.encode 82 received).length + 1)) ∧
    (omitsRelay packet size = true ↔
      ∃ received, packet.options[(82 : UInt8)]? = some received ∧ received ≠ [] ∧
        sizeLimit packet < size + (OptionStream.encode 82 received).length + 1) := by
  have data : relayData packet = packet.options[(82 : UInt8)]? := if_neg (by rw [relayed]; decide)
  rw [carriedRelay, omitsRelay, data]
  cases packet.options[(82 : UInt8)]? with
  | none => exact ⟨by simp, by simp⟩
  | some received =>
      rw [Option.filter_some]
      by_cases fits : size + (OptionStream.encode 82 received).length < sizeLimit packet
      · have carried : relayFits packet size received = true := decide_eq_true fits
        rw [if_pos carried]
        constructor
        · rintro _ ⟨rfl⟩ nonempty
          rw [Table.encode_cons_some, Table.encode_nil, List.append_nil, encode_eq_nil_iff]
          exact ⟨fun empty => absurd empty nonempty, fun above => by omega⟩
        · simp only [Option.any_some, carried, Bool.not_true, Bool.false_eq_true, false_iff]
          rintro ⟨_, ⟨rfl⟩, -, above⟩
          omega
      · have omitted : relayFits packet size received = false := decide_eq_false fits
        have nonempty : received ≠ [] := by
          rintro rfl
          rw [OptionStream.encode_nil, List.length_nil] at fits
          omega
        rw [if_neg (by rw [omitted]; decide)]
        constructor
        · rintro _ ⟨rfl⟩ -
          exact ⟨fun _ => by omega, fun _ => by rw [Table.encode_cons_none, Table.encode_nil]⟩
        · simp only [Option.any_some, omitted, Bool.not_false, true_iff]
          exact ⟨received, rfl, nonempty, by omega⟩

/-- What is carried is the received value, cut into pieces. -/
theorem exists_pieces_of_carriedRelay {packet : Packet}
    (relayed : packet.giaddr.isUnspecified = false) (size : ℕ) :
    Table.encode [(82, carriedRelay packet size)] = [] ∨
      ∃ pieces : List Bytes, some pieces.flatten = packet.options[(82 : UInt8)]? ∧
        (∀ piece ∈ pieces, piece.length ≤ 255) ∧
        Table.encode [(82, carriedRelay packet size)] =
          pieces.flatMap fun piece => 82 :: UInt8.ofNat piece.length :: piece := by
  have data : relayData packet = packet.options[(82 : UInt8)]? := if_neg (by rw [relayed]; decide)
  cases carried : carriedRelay packet size with
  | none =>
      left
      rw [Table.encode_cons_none, Table.encode_nil]
  | some received =>
      right
      rw [carriedRelay, data, Option.filter_eq_some_iff] at carried
      obtain ⟨pieces, whole, short, encoded⟩ := exists_pieces 82 received
      refine ⟨pieces, by rw [whole, carried.1], short, ?_⟩
      rw [Table.encode_cons_some, Table.encode_nil, List.append_nil, encoded]

/-- **The two replies**, when the message fits the limit without the relay
option. -/
theorem relayed_assembled {packet : Packet} (wellFormed : packet.WellFormed)
    (relayed : packet.giaddr.isUnspecified = false) (client : Client) (config : Config)
    (server : Ipv4Addr) {message : UInt8}
    (bounded : bareSize packet client config server message ≤ sizeLimit packet) :
    Relayed packet (assembled packet.withoutRelay client config server message)
      (assembled packet client config server message) := by
  have alike := packet.alike_withoutRelay
  have room := length_fixedPart wellFormed.withoutRelay.length_header client config message
  have contentsEq := alike.contents_eq client config server message
  have directRelay : replyRelay packet.withoutRelay client config server message = none := rfl
  have bodyLength : (markRelayed packet.giaddr message
      (fixedPart packet.withoutRelay client config message ++
        (contents packet client config server message).encode)).length =
      240 + (contents packet client config server message).encode.length := by
    rw [length_markRelayed _ _ (by rw [List.length_append]; omega), List.length_append, room]
  have decision := relay_decision relayed bounded
  refine ⟨rfl, alike.namedBootFile_eq client config message, ?_, ?_⟩
  · change destination packet message = _
    rw [destination, relayed]
    rfl
  · refine ⟨fixedPart packet.withoutRelay client config message ++
      (contents packet client config server message).encode,
      Table.encode [(82, replyRelay packet client config server message)], ?_, ?_,
      exists_pieces_of_carriedRelay relayed _, ?_, ?_⟩
    · change unpadded (pad _) = _
      rw [unpadded_pad, replyOptions, ← contentsEq, directRelay, Table.encode_append]
      simp
    · change unpadded (pad _) = _
      rw [unpadded_pad, replyOptions, fixedPart_withoutRelay wellFormed relayed,
        Table.encode_append, ← List.append_assoc]
      change _ = markRelayed packet.giaddr message _ ++ _ ++ _
      rw [markRelayed_append _ _ room]
    · intro received found nonempty
      rw [List.length_append, List.length_append]
      change _ ↔ sizeLimit packet < (markRelayed packet.giaddr message _).length + _ + _
      rw [bodyLength]
      exact decision.1 received found nonempty
    · simp only [List.length_append]
      change _ ↔ ∃ received, _ ∧ _ ∧
        sizeLimit packet < (markRelayed packet.giaddr message _).length + _ + _
      rw [bodyLength]
      exact decision.2

/-! ## The two runs -/

/-- The reply to a direct request does not depend on the relay option. -/
theorem assembled_withoutRelay {packet : Packet} (wellFormed : packet.WellFormed)
    (direct : packet.giaddr.isUnspecified = true) (client : Client) (config : Config)
    (server : Ipv4Addr) (message : UInt8) :
    assembled packet.withoutRelay client config server message =
      assembled packet client config server message := by
  have address : packet.giaddr = Ipv4Addr.unspecified := of_decide_eq_true direct
  have zero : Buffer.slice packet.header 24 28 = [0, 0, 0, 0] := by
    rw [← wellFormed.giaddr, address, Ipv4Addr.bytes_unspecified]
  have header : Buffer.overwrite packet.header 24 [0, 0, 0, 0] = packet.header :=
    Buffer.overwrite_of_slice_eq zero
  have alike := packet.alike_withoutRelay
  have fixed : fixedPart packet.withoutRelay client config message =
      fixedPart packet client config message := by
    rw [fixedPart, fixedPart, headerWrites, headerWrites, laterWrites, laterWrites,
      ← alike.grants_eq, ← alike.namedBootFile_eq, refusalWrites, refusalWrites, echoWrites,
      echoWrites, Packet.withoutRelay, header, address]
  have undirected : ∀ size : ℕ,
      carriedRelay packet size = none ∧ omitsRelay packet size = false := by
    intro size
    rw [carriedRelay, omitsRelay, relayData, if_pos direct]
    exact ⟨rfl, rfl⟩
  rw [assembled, assembled, replyOptions, replyOptions, fixed, ← alike.contents_eq,
    ← alike.namedBootFile_eq, replyRelay, replyRelay, (undirected _).1, (undirected _).2,
    destination, destination, address]
  rfl

/-- How two runs of `reply` can agree: both find nothing due, both stop in the same
way, or both give the assembled reply to one message. -/
theorem reply_cases {server : Ipv4Addr} (usable : usableServer server) {config : Config}
    (valid : config.Valid) {first second : Packet} (firstFormed : first.WellFormed)
    (secondFormed : second.WellFormed) (alike : first.AsksAlike second) (client : Client)
    (sameDue : due first client server = due second client server) :
    (reply first client config server = .ok none ∧ reply second client config server = .ok none) ∨
    (∃ stop, reply first client config server = .error stop ∧
      reply second client config server = .error stop) ∨
    (∃ message, bareSize first client config server message ≤ sizeLimit first ∧
      reply first client config server =
        .ok (some (assembled first client config server message)) ∧
      reply second client config server =
        .ok (some (assembled second client config server message))) := by
  cases isDue : due first client server with
  | none =>
      left
      exact ⟨reply_of_not_due usable config isDue,
        reply_of_not_due usable config (sameDue.symm.trans isDue)⟩
  | some message =>
      right
      have isDueSecond := sameDue.symm.trans isDue
      by_cases maskable : message = 6 ∨ client.Maskable
      · rw [reply_of_due usable firstFormed valid isDue maskable,
          reply_of_due usable secondFormed valid isDueSecond maskable, alike.sizeLimit_eq,
          alike.bareSize_eq, alike.oversizeText_eq]
        by_cases oversize : sizeLimit second < bareSize second client config server message
        · left
          rw [if_pos oversize, if_pos oversize]
          exact ⟨.error [oversizeText second], rfl, rfl⟩
        · right
          refine ⟨message, ?_, ?_, ?_⟩
          · rw [alike.bareSize_eq]
            exact Nat.not_lt.mp oversize
          · rw [if_neg oversize]
          · rw [if_neg oversize]
      · left
        obtain ⟨answers, unmaskable⟩ := not_or.mp maskable
        exact ⟨.panic, reply_of_not_maskable usable firstFormed config isDue answers unmaskable,
          reply_of_not_maskable usable secondFormed config isDueSecond answers unmaskable⟩

/-- **Relay transparency.** For every parsed request, client row, validated
configuration and usable server address: a relayed request is refused, ignored or
answered exactly when the direct one is, and the two replies are related by
`Relayed`. To a direct request the relay option makes no difference. -/
theorem relay_transparent {envFilter : String → Outcome PUnit} {config : Config}
    (validated : config.validate envFilter = .ok ⟨⟩) {server : Ipv4Addr}
    (usable : usableServer server) {bytes : Bytes} {packet : Packet}
    (parsed : Packet.parse bytes = .ok packet) (client : Client) :
    (packet.giaddr.isUnspecified = false →
      (∀ stop, reply packet client config server = .error stop ↔
        reply packet.withoutRelay client config server = .error stop) ∧
      (reply packet client config server = .ok none ↔
        reply packet.withoutRelay client config server = .ok none) ∧
      (∀ sent, reply packet client config server = .ok (some sent) →
        ∃ direct, reply packet.withoutRelay client config server = .ok (some direct) ∧
          Relayed packet direct sent) ∧
      (∀ direct, reply packet.withoutRelay client config server = .ok (some direct) →
        ∃ sent, reply packet client config server = .ok (some sent) ∧
          Relayed packet direct sent)) ∧
    (packet.giaddr.isUnspecified = true →
      reply packet.withoutRelay client config server = reply packet client config server) := by
  have wellFormed := Packet.wellFormed_of_parse parsed
  have valid := Config.valid_of_validate validated
  have cases := reply_cases usable valid wellFormed wellFormed.withoutRelay
    packet.alike_withoutRelay client (packet.due_withoutRelay client server).symm
  constructor
  · intro relayed
    rcases cases with ⟨first, second⟩ | ⟨stop, first, second⟩ | ⟨message, bounded, first, second⟩
    · rw [first, second]
      exact ⟨by simp, by simp, nofun, nofun⟩
    · rw [first, second]
      exact ⟨by simp, by simp, nofun, nofun⟩
    · rw [first, second]
      have related := relayed_assembled wellFormed relayed client config server bounded
      refine ⟨by simp, by simp, ?_, ?_⟩
      · rintro _ ⟨rfl⟩
        exact ⟨_, rfl, related⟩
      · rintro _ ⟨rfl⟩
        exact ⟨_, rfl, related⟩
  · intro direct
    rcases cases with ⟨first, second⟩ | ⟨stop, first, second⟩ | ⟨message, -, first, second⟩
    · rw [first, second]
    · rw [first, second]
    · rw [first, second, assembled_withoutRelay wellFormed direct]

/-- A DISCOVER of the first client of the shipped file, through a relay with five
bytes of relay data. -/
def relayedDiscover : Bytes :=
  Buffer.overwrite (Packet.wire 1 [(82, [1, 3, 108, 97, 110])]) 24 [10, 0, 0, 1]

theorem relay_transparent_discover : ∃ packet sent direct,
    Packet.parse relayedDiscover = .ok packet ∧
      reply packet Clients.shippedClient Config.shipped (.new 192 0 2 10) = .ok (some sent) ∧
      Relayed packet direct sent := by
  obtain ⟨packet, sent, parsed, replied, relayed⟩ := exists_shipped_reply relayedDiscover
    (fun packet _ => !packet.giaddr.isUnspecified) (by decide +kernel)
  obtain ⟨direct, -, related⟩ :=
    ((relay_transparent Config.validate_shipped ⟨by decide, by decide, by decide⟩ parsed
      Clients.shippedClient).1 (Bool.not_eq_true' _ ▸ relayed)).2.2.1 sent replied
  exact ⟨packet, sent, direct, parsed, replied, related⟩

end Macdack
