import Macdack.Dhcp.Serve
import Macdack.Dhcp.Decoded

/-!
# An offer is honoured

The SELECTING REQUEST that accepts an offer, and the REQUEST that renews the
lease later, are both acknowledged with what was offered (`offer_honoured`).

The three messages ask for the same settings, so they are given the same options
but for the message type and the relay option, and the same header but for what
the requests differ in. The size without the relay option is the same too, so an
offer that was sent is never followed by a refusal.
-/

set_option autoImplicit false

namespace Macdack

open OptionStream (Table)

/-! ## Acknowledging like an offer -/

/-- The answers to two requests that ask for the same settings have the same
options behind the message type. -/
theorem exists_contents {first second : Packet} (alike : first.AsksAlike second) (client : Client)
    (config : Config) (server : Ipv4Addr) {message other : UInt8} (answers : message ≠ 6)
    (answersOther : other ≠ 6) :
    ∃ rest : Table, contents first client config server message = (53, some [message]) :: rest ∧
      contents second client config server other = (53, some [other]) :: rest := by
  have given : (message != 6) = true := bne_iff_ne.mpr answers
  have givenOther : (other != 6) = true := bne_iff_ne.mpr answersOther
  have tails : (contents second client config server message).tail =
      (contents second client config server other).tail := by
    rw [contents, contents, grants, grants, given, givenOther, namedBootFile, namedBootFile,
      if_neg answers, if_neg answersOther]
    rfl
  refine ⟨(contents second client config server message).tail, ?_, ?_⟩
  · rw [alike.contents_eq]
    rfl
  · rw [tails]
    rfl

/-- They have the same boot file. -/
theorem namedBootFile_of_answers {first second : Packet} (alike : first.AsksAlike second)
    (client : Client) (config : Config) {message other : UInt8} (answers : message ≠ 6)
    (answersOther : other ≠ 6) :
    namedBootFile first client config message = namedBootFile second client config other := by
  rw [namedBootFile, namedBootFile, if_neg answers, if_neg answersOther, alike.bootStage_eq]

theorem encode_messageType (message : UInt8) :
    OptionStream.encode 53 [message] = [53, 1, message] :=
  OptionStream.encode_of_short (List.cons_ne_nil _ _) (show 1 ≤ 255 by decide)

/-- They have the same size. -/
theorem bareSize_of_answers {first second : Packet} (alike : first.AsksAlike second)
    (client : Client) (config : Config) (server : Ipv4Addr) {message other : UInt8}
    (answers : message ≠ 6) (answersOther : other ≠ 6) :
    bareSize first client config server message = bareSize second client config server other := by
  obtain ⟨rest, firstEq, secondEq⟩ :=
    exists_contents alike client config server answers answersOther
  rw [bareSize, bareSize, firstEq, secondEq, Table.encode_cons_some, Table.encode_cons_some,
    encode_messageType, encode_messageType]
  rfl

/-- With the same header they have the same fixed part. -/
theorem fixedPart_of_answers {first second : Packet} (alike : first.AsksAlike second)
    (header : first.header = second.header) (client : Client) (config : Config)
    {message other : UInt8} (answers : message ≠ 6) (answersOther : other ≠ 6) :
    fixedPart first client config message = fixedPart second client config other := by
  have granted : grants first message = grants second other := by
    rw [alike.grants_eq, grants, grants, bne_iff_ne.mpr answers, bne_iff_ne.mpr answersOther]
  rw [fixedPart, fixedPart, headerWrites, headerWrites, echoWrites, echoWrites, header,
    laterWrites, laterWrites, if_neg answers, if_neg answersOther, granted,
    namedBootFile_of_answers alike client config answers answersOther]

/-- Changing the message type changes one byte. -/
theorem set_messageType {fixed rest : Bytes} (room : fixed.length = 240) (message other : UInt8) :
    (pad (fixed ++ (53 :: 1 :: message :: rest))).set 242 other =
      pad (fixed ++ (53 :: 1 :: other :: rest)) := by
  have sizes : (fixed ++ (53 :: 1 :: message :: rest)).length =
      (fixed ++ (53 :: 1 :: other :: rest)).length := by
    rw [List.length_append, List.length_append]
    rfl
  rw [pad, pad, sizes, List.append_assoc, List.append_assoc, List.set_append,
    if_neg (by rw [room]; decide), room]
  rfl

/-! ## The messages of an exchange -/

/-- The DISCOVER that an offer answers comes from a client without an address. -/
structure Discovers (discover : Packet) : Prop where
  message : discover.message = 1
  ciaddr : discover.ciaddr.isUnspecified = true

/-- The SELECTING REQUEST for an offer: the DISCOVER with the message changed, the
offered address requested and the server of the offer selected. -/
structure Selects (selecting discover : Packet) (offer : Reply) : Prop where
  header : selecting.header = discover.header
  message : selecting.options[(53 : UInt8)]? = some [3]
  requested : selecting.options[(50 : UInt8)]? = some offer.yiaddr
  server : ∃ decoded, readOptions (offer.bytes.drop 240) ∅ = .ok decoded ∧
    selecting.options[(54 : UInt8)]? = decoded[(54 : UInt8)]?
  others : ∀ code ∉ [(50 : UInt8), 53, 54], selecting.options[code]? = discover.options[code]?

/-- The direct REQUEST that renews the lease of an offer. -/
structure Renews (renewal discover : Packet) (offer : Reply) : Prop where
  message : renewal.options[(53 : UInt8)]? = some [3]
  bare : ∀ code ∈ [(50 : UInt8), 54, 82], renewal.options[code]? = none
  others : ∀ code ∉ [(50 : UInt8), 53, 54, 82], renewal.options[code]? = discover.options[code]?
  ciaddr : renewal.ciaddr.bytes = offer.yiaddr
  giaddr : renewal.giaddr.isUnspecified = true

/-- A well formed packet has the message that its option 53 says. -/
theorem message_of_options {packet : Packet} (wellFormed : packet.WellFormed) {message : UInt8}
    (option : packet.options[(53 : UInt8)]? = some [message]) : packet.message = message := by
  have held := wellFormed.rules.messageType.symm.trans option
  rw [Option.some.injEq, List.cons.injEq] at held
  exact held.1

/-- A REQUEST asks for the same settings as the DISCOVER when the options that
decide them are the same. -/
theorem alike_of_request {request discover : Packet} (isRequest : request.message = 3)
    (isDiscover : discover.message = 1)
    (options : ∀ code ∈ [(55 : UInt8), 57, 60, 61, 77, 93],
      request.options[code]? = discover.options[code]?) : request.AsksAlike discover where
  inform := by
    rw [isRequest, isDiscover]
    decide
  options := options

/-- The relay option of two requests that came through one relay. -/
theorem relay_of_alike {first second : Packet} (alike : first.AsksAlike second)
    (giaddr : first.giaddr = second.giaddr)
    (option : first.options[(82 : UInt8)]? = second.options[(82 : UInt8)]?) (size : ℕ) :
    carriedRelay first size = carriedRelay second size ∧
      omitsRelay first size = omitsRelay second size := by
  have data : relayData first = relayData second := by
    rw [relayData, relayData, giaddr, option]
  have fits : relayFits first size = relayFits second size := by
    funext relay
    rw [relayFits, relayFits, alike.sizeLimit_eq]
  rw [carriedRelay, carriedRelay, omitsRelay, omitsRelay, data, fits]
  exact ⟨rfl, rfl⟩

/-- The address of an assembled reply that grants one. -/
theorem yiaddr_assembled {packet : Packet} (length : packet.header.length = 236)
    {client : Client} {config : Config} {server : Ipv4Addr} {message : UInt8}
    (granted : grants packet message = true) :
    (assembled packet client config server message).yiaddr = client.ip.bytes := by
  change Buffer.slice (pad _) 16 20 = _
  rw [pad, List.append_assoc, List.append_assoc,
    slice_of_header (length_fixedPart length client config message) (by decide),
    yiaddr_fixedPart length, if_pos granted]

/-- An OFFER and an ACK to requests with one header, one relay option and the same
settings differ in the message type only. -/
theorem assembled_of_answers {request discover : Packet} (alike : request.AsksAlike discover)
    (header : request.header = discover.header) (ciaddr : request.ciaddr = discover.ciaddr)
    (giaddr : request.giaddr = discover.giaddr)
    (option : request.options[(82 : UInt8)]? = discover.options[(82 : UInt8)]?) (client : Client)
    (config : Config) (server : Ipv4Addr) (length : discover.header.length = 236) :
    let offer := assembled discover client config server 2
    let ack := assembled request client config server 5
    ack.destination = offer.destination ∧ ack.bootFile = offer.bootFile ∧
      ack.relayOptionOmitted = offer.relayOptionOmitted ∧
      Buffer.slice offer.bytes 240 243 = [53, 1, 2] ∧ ack.bytes = offer.bytes.set 242 5 := by
  intro offer ack
  have answers : (5 : UInt8) ≠ 6 ∧ (2 : UInt8) ≠ 6 := by decide
  have size := bareSize_of_answers alike client config server answers.1 answers.2
  have fixed := fixedPart_of_answers alike header client config answers.1 answers.2
  obtain ⟨rest, ackContents, offerContents⟩ :=
    exists_contents alike client config server answers.1 answers.2
  have room := length_fixedPart length client config 2
  have sameSize : (contents request client config server 5).encode.length =
      (contents discover client config server 2).encode.length := by
    rw [bareSize, bareSize] at size
    omega
  have relay := relay_of_alike alike giaddr option
    (240 + (contents discover client config server 2).encode.length)
  have offerBytes : offer.bytes = pad (fixedPart discover client config 2 ++ (53 :: 1 :: 2 ::
      (rest.encode ++ Table.encode [(82, replyRelay discover client config server 2)] ++
        [255]))) := by
    change pad _ = _
    rw [replyOptions, Table.encode_append, offerContents, Table.encode_cons_some,
      encode_messageType, List.append_assoc]
    rfl
  have ackBytes : ack.bytes = pad (fixedPart discover client config 2 ++ (53 :: 1 :: 5 ::
      (rest.encode ++ Table.encode [(82, replyRelay discover client config server 2)] ++
        [255]))) := by
    change pad _ = _
    rw [fixed, replyOptions, replyRelay, sameSize, relay.1, Table.encode_append, ackContents,
      Table.encode_cons_some, encode_messageType, List.append_assoc]
    rfl
  refine ⟨?_, namedBootFile_of_answers alike client config answers.1 answers.2, ?_, ?_, ?_⟩
  · change destination request 5 = destination discover 2
    rw [destination, destination, ciaddr, giaddr, if_neg answers.1, if_neg answers.2]
  · change omitsRelay request _ = omitsRelay discover _
    rw [sameSize, relay.2]
  · rw [offerBytes, pad, List.append_assoc, Buffer.slice, List.drop_take, List.drop_left' room]
    rfl
  · rw [offerBytes, ackBytes, set_messageType room]

/-- Such replies hold the same options but for the message type and the relay
option, whatever their headers are. -/
theorem value_of_answers {request discover : Packet} (alike : request.AsksAlike discover)
    (client : Client) (config : Config) (server : Ipv4Addr) {code : UInt8}
    (notMessage : code ≠ 53) (notRelay : code ≠ 82) :
    (replyOptions request client config server 5).value code =
      (replyOptions discover client config server 2).value code := by
  obtain ⟨rest, ackContents, offerContents⟩ := exists_contents alike client config server
    (show (5 : UInt8) ≠ 6 by decide) (show (2 : UInt8) ≠ 6 by decide)
  rw [replyOptions, replyOptions, ackContents, offerContents, Table.value_append_of_ne notRelay,
    Table.value_append_of_ne notRelay, Table.value_cons_of_ne notMessage,
    Table.value_cons_of_ne notMessage]

/-- A unicast address is not the unspecified one. -/
theorem isUnspecified_of_isUnicast {ip : Ipv4Addr} (unicast : isUnicast ip = true) :
    ip.isUnspecified = false := by
  rw [isUnicast, Bool.and_eq_true, Bool.and_eq_true, Bool.and_eq_true, Bool.not_eq_true'] at unicast
  exact unicast.1.1.1

/-! ## The offer -/

/-- An exchange that has come to its offer. -/
structure Offered (client : Client) (config : Config) (server : Ipv4Addr) (discover : Packet)
    (offer : Reply) : Prop where
  clientValid : client.Valid
  configValid : config.Valid
  formed : discover.WellFormed
  discovers : Discovers discover
  offered : reply discover client config server = .ok (some offer)

section Exchange

variable {client : Client} {config : Config} {server : Ipv4Addr} {discover : Packet}
  {offer : Reply}

namespace Offered

variable (exchange : Offered client config server discover offer)

include exchange

/-- The offer is the assembled reply to the DISCOVER. -/
theorem offer_eq : due discover client server = some 2 ∧
    bareSize discover client config server 2 ≤ sizeLimit discover ∧
    offer = assembled discover client config server 2 := by
  obtain ⟨message, isDue, bounded, rfl⟩ := (reply_eq_some_iff (usable_of_reply exchange.offered)
    exchange.formed exchange.clientValid.maskable exchange.configValid).mp exchange.offered
  rcases due_cases isDue with ⟨-, rfl⟩ | ⟨wrong, -⟩ | ⟨wrong, -⟩
  · exact ⟨isDue, bounded, rfl⟩
  · rw [exchange.discovers.message] at wrong
    exact absurd wrong (by decide)
  · rw [exchange.discovers.message] at wrong
    exact absurd wrong (by decide)

/-- The offer grants the address of the client row. -/
theorem yiaddr_offer : offer.yiaddr = client.ip.bytes := by
  obtain ⟨-, -, rfl⟩ := exchange.offer_eq
  have granted : grants discover 2 = true := by
    rw [grants, exchange.discovers.message]
    rfl
  exact yiaddr_assembled exchange.formed.length_header granted

/-- The offer names its server. -/
theorem server_offer {decoded : Options}
    (read : readOptions (offer.bytes.drop 240) ∅ = .ok decoded) :
    decoded[(54 : UInt8)]? = some server.bytes := by
  obtain ⟨-, -, rfl⟩ := exchange.offer_eq
  obtain ⟨other, readOther, values⟩ :=
    decode_assembled client config server 2 exchange.formed.length_header
  obtain rfl : other = decoded := Except.ok.inj (readOther.symm.trans read)
  exact (values 54).trans (present_of_ne_nil server.bytes_ne_nil)

/-- A REQUEST that asks for the same settings is acknowledged, when no option 54
names another server and the address it asks for is that of the client row. -/
theorem reply_request {request : Packet} (formed : request.WellFormed)
    (alike : request.AsksAlike discover) (isRequest : request.message = 3)
    (selected : (request.ipOption 54).any (fun ip => ip != server) = false)
    (acknowledged : requestMessage request client = some 5) :
    reply request client config server =
      .ok (some (assembled request client config server 5)) := by
  obtain ⟨isDue, bounded, -⟩ := exchange.offer_eq
  have dueRequest : due request client server = some 5 := by
    refine due_eq_some_iff.mpr ⟨selected, ?_, ?_⟩
    · rw [alike.bootStage_eq]
      exact (due_eq_some_iff.mp isDue).2.1
    · rw [replyMessage, isRequest, if_neg (by decide), if_pos rfl, acknowledged]
  have size := bareSize_of_answers alike client config server (show (5 : UInt8) ≠ 6 by decide)
    (show (2 : UInt8) ≠ 6 by decide)
  refine (reply_eq_some_iff (usable_of_reply exchange.offered) formed exchange.clientValid.maskable
    exchange.configValid).mpr ⟨5, dueRequest, ?_, rfl⟩
  rw [size, alike.sizeLimit_eq]
  exact bounded

/-- **The selecting request** is acknowledged with the offer, the message type
changed. -/
theorem ack_selecting {selecting : Packet} (formed : selecting.WellFormed)
    (selects : Selects selecting discover offer) :
    ∃ ack, reply selecting client config server = .ok (some ack) ∧ ack.message = 5 ∧
      ack.destination = offer.destination ∧ ack.bootFile = offer.bootFile ∧
      ack.relayOptionOmitted = offer.relayOptionOmitted ∧
      Buffer.slice offer.bytes 240 243 = [53, 1, 2] ∧ ack.bytes = offer.bytes.set 242 5 := by
  have isRequest := message_of_options formed selects.message
  have alike : selecting.AsksAlike discover :=
    alike_of_request isRequest exchange.discovers.message fun code member =>
      selects.others code (by revert code; simp)
  have ciaddr : selecting.ciaddr = discover.ciaddr := Ipv4Addr.bytes_injective
    (by rw [formed.ciaddr, selects.header, exchange.formed.ciaddr])
  have giaddr : selecting.giaddr = discover.giaddr := Ipv4Addr.bytes_injective
    (by rw [formed.giaddr, selects.header, exchange.formed.giaddr])
  obtain ⟨decoded, read, selected⟩ := selects.server
  have requested := selects.requested
  rw [exchange.server_offer read] at selected
  rw [exchange.yiaddr_offer] at requested
  have requestedIp : selecting.ipOption 50 = some client.ip := by
    rw [Packet.ipOption, requested]
    exact client.ip.ofBytes?_bytes
  have selectedIp : selecting.ipOption 54 = some server := by
    rw [Packet.ipOption, selected]
    exact server.ofBytes?_bytes
  have acknowledged : requestMessage selecting client = some 5 := by
    rw [requestMessage, Std.ExtTreeMap.contains_eq_isSome_getElem?,
      Std.ExtTreeMap.contains_eq_isSome_getElem?, requested, selected, requestedIp, ciaddr,
      exchange.discovers.ciaddr]
    simp
  obtain ⟨-, -, rfl⟩ := exchange.offer_eq
  refine ⟨_, exchange.reply_request formed alike isRequest (by rw [selectedIp]; simp) acknowledged,
    rfl, ?_⟩
  exact assembled_of_answers alike selects.header ciaddr giaddr
    (selects.others 82 (by decide)) client config server exchange.formed.length_header

/-- **The renewal** is acknowledged to the address of the offer, with its options. -/
theorem ack_renewal {renewal : Packet} (formed : renewal.WellFormed)
    (renews : Renews renewal discover offer) :
    ∃ ack, reply renewal client config server = .ok (some ack) ∧ ack.message = 5 ∧
      ack.destination.ip.bytes = offer.yiaddr ∧ ack.destination.port = 68 ∧
      ack.yiaddr = offer.yiaddr ∧
      ∃ offered acknowledged, readOptions (offer.bytes.drop 240) ∅ = .ok offered ∧
        readOptions (ack.bytes.drop 240) ∅ = .ok acknowledged ∧
        ∀ code : UInt8, code ≠ 53 → code ≠ 82 → acknowledged[code]? = offered[code]? := by
  have isRequest := message_of_options formed renews.message
  have alike : renewal.AsksAlike discover :=
    alike_of_request isRequest exchange.discovers.message fun code member =>
      renews.others code (by revert code; simp)
  have bare : renewal.options[(50 : UInt8)]? = none ∧ renewal.options[(54 : UInt8)]? = none :=
    ⟨renews.bare 50 (by decide), renews.bare 54 (by decide)⟩
  have ciaddr : renewal.ciaddr = client.ip :=
    Ipv4Addr.bytes_injective (renews.ciaddr.trans exchange.yiaddr_offer)
  have bound := isUnspecified_of_isUnicast exchange.clientValid.ip
  have acknowledged : requestMessage renewal client = some 5 := by
    rw [requestMessage, Std.ExtTreeMap.contains_eq_isSome_getElem?,
      Std.ExtTreeMap.contains_eq_isSome_getElem?, Packet.ipOption, bare.1, bare.2, ciaddr, bound]
    simp
  have selected : (renewal.ipOption 54).any (fun ip => ip != server) = false := by
    rw [Packet.ipOption, bare.2]
    rfl
  have replied := exchange.reply_request formed alike isRequest selected acknowledged
  have granted : grants renewal 5 = true := by
    rw [grants, isRequest]
    rfl
  have direct : destination renewal 5 = ⟨client.ip, 68⟩ := by
    rw [destination, renews.giaddr, ciaddr, bound]
    rfl
  obtain ⟨ackDecoded, ackRead, ackValues⟩ :=
    decode_assembled client config server 5 formed.length_header
  obtain ⟨offerDecoded, offerRead, offerValues⟩ :=
    decode_assembled client config server 2 exchange.formed.length_header
  have yiaddr := exchange.yiaddr_offer
  obtain ⟨-, -, rfl⟩ := exchange.offer_eq
  refine ⟨_, replied, rfl, ?_, ?_, ?_, _, _, offerRead, ackRead, ?_⟩
  · change (destination renewal 5).ip.bytes = _
    rw [direct, yiaddr]
  · change (destination renewal 5).port = _
    rw [direct]
  · rw [yiaddr_assembled formed.length_header granted, yiaddr]
  · intro code notMessage notRelay
    rw [ackValues, offerValues]
    exact value_of_answers alike client config server notMessage notRelay

end Offered

end Exchange

/-! ## Every exchange -/

/-- **An offer is always honoured.** For a client of a parsed table, a validated
configuration and a parsed DISCOVER without a client address that is answered with
an offer: the SELECTING REQUEST for the offer is answered with an ACK whose
destination, boot file and relay decision are those of the offer and whose bytes
differ from it in the value of option 53 only; the direct renewal is answered with
an ACK to the offered address, with this address and the options of the offer but
for 53 and 82. -/
theorem offer_honoured {csv : CsvReader} {text : String} {clients : Clients}
    (table : Clients.parse csv text = .ok clients) {mac : Mac} {client : Client}
    (found : clients.records[mac]? = some client) {envFilter : String → Outcome PUnit}
    {config : Config} (validated : config.validate envFilter = .ok ⟨⟩) {server : Ipv4Addr}
    {bytes : Bytes} {discover : Packet} (parsed : Packet.parse bytes = .ok discover)
    (discovers : Discovers discover) {offer : Reply}
    (offered : reply discover client config server = .ok (some offer)) :
    (∀ (datagram : Bytes) (selecting : Packet), Packet.parse datagram = .ok selecting →
      Selects selecting discover offer →
        ∃ ack, reply selecting client config server = .ok (some ack) ∧ ack.message = 5 ∧
          ack.destination = offer.destination ∧ ack.bootFile = offer.bootFile ∧
          ack.relayOptionOmitted = offer.relayOptionOmitted ∧
          Buffer.slice offer.bytes 240 243 = [53, 1, 2] ∧
          ack.bytes = offer.bytes.set 242 5) ∧
    (∀ (datagram : Bytes) (renewal : Packet), Packet.parse datagram = .ok renewal →
      Renews renewal discover offer →
        ∃ ack, reply renewal client config server = .ok (some ack) ∧ ack.message = 5 ∧
          ack.destination.ip.bytes = offer.yiaddr ∧ ack.destination.port = 68 ∧
          ack.yiaddr = offer.yiaddr ∧
          ∃ offered acknowledged, readOptions (offer.bytes.drop 240) ∅ = .ok offered ∧
            readOptions (ack.bytes.drop 240) ∅ = .ok acknowledged ∧
            ∀ code : UInt8, code ≠ 53 → code ≠ 82 → acknowledged[code]? = offered[code]?) := by
  have exchange : Offered client config server discover offer :=
    ⟨Clients.valid_of_parse table found, Config.valid_of_validate validated,
      Packet.wellFormed_of_parse parsed, discovers, offered⟩
  constructor
  · intro datagram selecting parsedSelecting selects
    exact exchange.ack_selecting (Packet.wellFormed_of_parse parsedSelecting) selects
  · intro datagram renewal parsedRenewal renews
    exact exchange.ack_renewal (Packet.wellFormed_of_parse parsedRenewal) renews

/-- A property of every code, by trying them. -/
theorem forall_code_of_all (check : UInt8 → Bool)
    (all : (List.range 256).all (fun value => check (UInt8.ofNat value)) = true) (code : UInt8) :
    check code = true := by
  have tried := List.all_eq_true.mp all code.toNat (List.mem_range.mpr code.toNat_lt)
  rwa [UInt8.ofNat_toNat] at tried

/-- The options outside the listed codes are the same. -/
def sameOutside (listed : List UInt8) (first second : Options) : Bool :=
  (List.range 256).all fun value =>
    listed.contains (UInt8.ofNat value) ||
      first[UInt8.ofNat value]? == second[UInt8.ofNat value]?

theorem eq_of_sameOutside {listed : List UInt8} {first second : Options}
    (same : sameOutside listed first second = true) {code : UInt8} (outside : code ∉ listed) :
    first[code]? = second[code]? := by
  have tried := forall_code_of_all
    (fun code => listed.contains code || first[code]? == second[code]?) same code
  rw [Bool.or_eq_true, List.contains_iff_mem, beq_iff_eq] at tried
  exact tried.resolve_left outside

/-- The exchange of the first client of the shipped file: its DISCOVER, its
selecting REQUEST and its renewal. -/
def exchangeDatagrams : Bytes × Bytes × Bytes :=
  (Packet.wire 1 [], Packet.wire 3 [(50, [1, 2, 3, 4]), (54, [192, 0, 2, 10])],
    Buffer.overwrite (Packet.wire 3 []) 12 [1, 2, 3, 4])

/-- The DISCOVER is answered with an offer, which the other two take up. -/
theorem exists_exchange_shipped : ∃ discover offer selecting renewal,
    Packet.parse exchangeDatagrams.1 = .ok discover ∧
      Packet.parse exchangeDatagrams.2.1 = .ok selecting ∧
      Packet.parse exchangeDatagrams.2.2 = .ok renewal ∧
      reply discover Clients.shippedClient Config.shipped (.new 192 0 2 10) = .ok (some offer) ∧
      Discovers discover ∧ discover.mac = Clients.shippedClient.mac ∧
      Selects selecting discover offer ∧ Renews renewal discover offer := by
  have exchanged : (Packet.parse exchangeDatagrams.1).toOption.any (fun discover =>
      (Packet.parse exchangeDatagrams.2.1).toOption.any fun selecting =>
        (Packet.parse exchangeDatagrams.2.2).toOption.any fun renewal =>
          (reply discover Clients.shippedClient Config.shipped
              (.new 192 0 2 10)).toOption.any fun offer =>
            offer.any fun offer =>
              (readOptions (offer.bytes.drop 240) ∅).toOption.any fun decoded =>
                decide (discover.message = 1 ∧ discover.ciaddr.isUnspecified = true ∧
                  discover.mac = Clients.shippedClient.mac ∧
                  selecting.header = discover.header ∧
                  selecting.options[(53 : UInt8)]? = some [3] ∧
                  selecting.options[(50 : UInt8)]? = some offer.yiaddr ∧
                  selecting.options[(54 : UInt8)]? = decoded[(54 : UInt8)]? ∧
                  sameOutside [50, 53, 54] selecting.options discover.options = true ∧
                  renewal.options[(53 : UInt8)]? = some [3] ∧
                  (∀ code ∈ [(50 : UInt8), 54, 82], renewal.options[code]? = none) ∧
                  sameOutside [50, 53, 54, 82] renewal.options discover.options = true ∧
                  renewal.ciaddr.bytes = offer.yiaddr ∧
                  renewal.giaddr.isUnspecified = true)) = true := by
    decide +kernel
  obtain ⟨discover, parsed, exchanged⟩ := Outcome.exists_of_any exchanged
  obtain ⟨selecting, parsedSelecting, exchanged⟩ := Outcome.exists_of_any exchanged
  obtain ⟨renewal, parsedRenewal, exchanged⟩ := Outcome.exists_of_any exchanged
  obtain ⟨outcome, replied, exchanged⟩ := Outcome.exists_of_any exchanged
  obtain ⟨offer, rfl, exchanged⟩ := (Option.any_eq_true _ _).mp exchanged
  obtain ⟨decoded, read, exchanged⟩ := Outcome.exists_of_any exchanged
  obtain ⟨isDiscover, unbound, mac, header, selected, requested, server, selectOthers, renewed,
    bare, renewOthers, bound, direct⟩ := of_decide_eq_true exchanged
  have selects : Selects selecting discover offer := ⟨header, selected, requested,
    ⟨decoded, read, server⟩, fun _ outside => eq_of_sameOutside selectOthers outside⟩
  have renews : Renews renewal discover offer :=
    ⟨renewed, bare, fun _ outside => eq_of_sameOutside renewOthers outside, bound, direct⟩
  exact ⟨discover, offer, selecting, renewal, parsed, parsedSelecting, parsedRenewal, replied,
    ⟨isDiscover, unbound⟩, mac, selects, renews⟩

theorem offer_honoured_shipped : ∃ discover offer selecting renewal first second,
    Packet.parse exchangeDatagrams.1 = .ok discover ∧
      Packet.parse exchangeDatagrams.2.1 = .ok selecting ∧
      Packet.parse exchangeDatagrams.2.2 = .ok renewal ∧
      reply discover Clients.shippedClient Config.shipped (.new 192 0 2 10) = .ok (some offer) ∧
      reply selecting Clients.shippedClient Config.shipped (.new 192 0 2 10) = .ok (some first) ∧
      first.bytes = offer.bytes.set 242 5 ∧
      reply renewal Clients.shippedClient Config.shipped (.new 192 0 2 10) = .ok (some second) ∧
      second.yiaddr = offer.yiaddr := by
  obtain ⟨discover, offer, selecting, renewal, parsed, parsedSelecting, parsedRenewal, replied,
    discovers, -, selects, renews⟩ := exists_exchange_shipped
  obtain ⟨clients, table, found⟩ := Clients.exists_parse_shipped
  obtain ⟨selectingAck, renewalAck⟩ := offer_honoured table found Config.validate_shipped parsed
    discovers replied
  obtain ⟨first, firstReplied, -, -, -, -, -, firstBytes⟩ :=
    selectingAck _ selecting parsedSelecting selects
  obtain ⟨second, secondReplied, -, -, -, secondAddress, -⟩ :=
    renewalAck _ renewal parsedRenewal renews
  exact ⟨discover, offer, selecting, renewal, first, second, parsed, parsedSelecting, parsedRenewal,
    replied, firstReplied, firstBytes, secondReplied, secondAddress⟩

end Macdack
