import Macdack.Settings
import Macdack.Dhcp.DumpOptions
import Macdack.Dhcp.Routes

/-!
# The dump of a sent reply

When packets are logged, a reply is logged as it was sent: `dhcp_packet_dump` is handed its
bytes, and nothing else of it. `sent_dump_exact` says what the log then shows. Behind the
text of the header (`headerText`) there is one block for each option of the reply, in the
order in which they were written, and none that reports an error; and the settings are shown
as they stand in the configuration and in the client row (`ShownAs`), unless they are too
long for one option.
-/

set_option autoImplicit false

namespace Macdack

open LogText
open OptionStream (Table fragmentsOf)

/-! ## Blocks -/

/-- The line of an option. -/
def optionLine (code : UInt8) (value : Bytes) (text : String) : String :=
  "\n    " ++ optionName code ++ " Option " ++ toString code ++ ", length " ++
    toString value.length ++ ": " ++ text

/-- The lines of an option that is no relay option. -/
theorem adds_optionLine {code : UInt8} {value : Bytes} {text : String} (plain : code ≠ 82)
    (shown : optionValue code value = .ok text) :
    Adds (writeEvent · (.option code value)) (optionLine code value text) := by
  intro out
  change writeEvent out (.option code value) = _
  rw [writeEvent, shown, Outcome.bind_ok, if_neg plain, optionLine]
  simp only [String.append_assoc]
  rfl

/-- **Every option** has a block. -/
theorem exists_block (field : UInt8 × Bytes) :
    ∃ block, Adds (writeEvent · (.option field.1 field.2)) block := by
  obtain ⟨code, value⟩ := field
  obtain ⟨text, shown, -⟩ := writes_optionValue code value
  by_cases relay : code = 82
  · refine ⟨optionLine code value text ++ String.join ((relayLines
      (OptionStream.walk false value)).map ("\n" ++ ·)), fun out => ?_⟩
    change writeEvent out (.option code value) = _
    rw [writeEvent, shown, Outcome.bind_ok, if_pos relay, relayInformation_eq, Outcome.bind_ok,
      foldl_lines, optionLine]
    simp only [String.append_assoc]
    rfl
  · exact ⟨_, adds_optionLine relay shown⟩

/-- What the dump writes at an option. -/
def optionBlock (field : UInt8 × Bytes) : String :=
  match writeEvent "" (.option field.1 field.2) with
  | .ok block => block
  | .error _ => ""

theorem optionBlock_eq {field : UInt8 × Bytes} {block : String}
    (adds : Adds (writeEvent · (.option field.1 field.2)) block) : optionBlock field = block := by
  have written : writeEvent "" (.option field.1 field.2) = .ok ("" ++ block) := adds ""
  rw [optionBlock, written, String.empty_append]

/-- The loop over the fields of a walk adds their blocks. -/
theorem adds_fields (fields : List (UInt8 × Bytes)) :
    Adds ((fields.map fun field => DumpEvent.option field.1 field.2).foldlM writeEvent)
      (String.join (fields.map optionBlock)) := by
  refine Adds.foldlM ?_
  rw [List.forall₂_map_left_iff, List.forall₂_map_right_iff]
  refine List.forall₂_same.mpr fun field _ => ?_
  obtain ⟨block, adds⟩ := exists_block field
  rw [optionBlock_eq adds]
  exact adds

/-- The line of an address of the header, unless it is zero. -/
def addressLine (bytes : Bytes) (field : String × ℕ) : String :=
  match Ipv4Addr.ofBytes? (Buffer.slice bytes field.2 (field.2 + 4)) with
  | some ip => if ip.isUnspecified then "" else "\n  " ++ field.1 ++ " " ++ ip.toText
  | none => ""

theorem adds_addressLine {bytes : Bytes} {field : String × ℕ}
    (inside : field.2 + 4 ≤ bytes.length) :
    Adds (writeAddress bytes · field) (addressLine bytes field) := by
  intro out
  obtain ⟨ip, read⟩ := exists_readIp inside
  change writeAddress bytes out field = _
  rw [writeAddress, read, Outcome.bind_ok, addressLine, ← (readIp_eq_ok_iff inside).mp read,
    Ipv4Addr.ofBytes?_bytes]
  by_cases zero : ip.isUnspecified = true
  · simp only [if_pos zero, String.append_empty]
    rfl
  · simp only [if_neg zero, String.append_assoc]
    rfl

/-- The line of a text of the header, unless it is empty. -/
def textLine (bytes : Bytes) (low high : ℕ) (name : String) : String :=
  let text := (Buffer.slice bytes low high).takeWhile (· ≠ 0)
  if text.isEmpty then "" else "\n  " ++ name ++ " \"" ++ printable text ++ "\""

theorem adds_textLine {bytes : Bytes} {low high : ℕ} (name : String) (order : low ≤ high)
    (inside : high ≤ bytes.length) :
    Adds (writeField bytes low high name) (textLine bytes low high name) := by
  intro out
  rw [writeField, Buffer.sliceChecked_eq order inside, Outcome.bind_ok, textLine]
  dsimp only
  by_cases empty : ((Buffer.slice bytes low high).takeWhile (· ≠ 0)).isEmpty = true
  · rw [if_pos empty, if_pos empty, String.append_empty]
    rfl
  · rw [if_neg empty, if_neg empty]
    simp only [String.append_assoc]
    rfl

/-! ## The header -/

/-- A byte of the header. -/
def headerByte (bytes : Bytes) (position : ℕ) : UInt8 := bytes.getD position 0

theorem headerByte_eq {bytes : Bytes} {position : ℕ} (inside : position < bytes.length) :
    headerByte bytes position = bytes[position] := by
  rw [headerByte, List.getD_eq_getElem?_getD, List.getElem?_eq_getElem inside, Option.getD_some]

theorem index_headerByte {bytes : Bytes} {position : ℕ} (inside : position < bytes.length) :
    Buffer.index bytes position = .ok (headerByte bytes position) := by
  rw [Buffer.index_eq inside, headerByte_eq inside]

/-- One more byte of the header. -/
theorem slice_headerByte {bytes : Bytes} {low high : ℕ} (order : low < high)
    (inside : high ≤ bytes.length) : Buffer.slice bytes low high =
      headerByte bytes low :: Buffer.slice bytes (low + 1) high := by
  have within : low < (bytes.take high).length := by
    rw [List.length_take]
    omega
  rw [Buffer.slice, List.drop_eq_getElem_cons within, List.getElem_take,
    headerByte_eq (by omega)]
  rfl

theorem slice_empty (bytes : Bytes) (position : ℕ) : Buffer.slice bytes position position = [] :=
  List.drop_eq_nil_of_le (by rw [List.length_take]; omega)

/-- A number of two bytes of the header. -/
def headerU16 (bytes : Bytes) (position : ℕ) : UInt16 :=
  ofBe16 (headerByte bytes position) (headerByte bytes (position + 1))

theorem u16_header {bytes : Bytes} {position : ℕ} (inside : position + 2 ≤ bytes.length) :
    u16FromBeBytes (Buffer.slice bytes position (position + 2)) =
      .ok (headerU16 bytes position) := by
  rw [slice_headerByte (by omega) inside, slice_headerByte (by omega) inside, slice_empty]
  rfl

/-- The transaction id. -/
def headerXid (bytes : Bytes) : UInt32 :=
  ofBe32 (headerByte bytes 4) (headerByte bytes 5) (headerByte bytes 6) (headerByte bytes 7)

theorem u32_header {bytes : Bytes} (inside : 8 ≤ bytes.length) :
    u32FromBeBytes (Buffer.slice bytes 4 8) = .ok (headerXid bytes) := by
  rw [slice_headerByte (by decide) inside, slice_headerByte (by decide) inside,
    slice_headerByte (by decide) inside, slice_headerByte (by decide) inside, slice_empty]
  rfl

/-- The first line: the kind of the message, its length, and the fields of the header. -/
def firstLine (bytes : Bytes) : String :=
  let op := headerByte bytes 0
  "BOOTP/DHCP, " ++ (if op = 1 then "Request" else if op = 2 then "Reply" else "Unknown") ++
    ", length " ++ toString bytes.length ++ ", hops " ++ toString (headerByte bytes 3) ++
      ", xid " ++ formatXid (headerXid bytes) ++ ", secs " ++ toString (headerU16 bytes 8) ++
        ", Flags [" ++ (if headerU16 bytes 10 &&& 0x8000 ≠ 0 then "Broadcast" else "none") ++ "]"

theorem dumpFirstLine_eq {bytes : Bytes} (complete : 236 ≤ bytes.length) :
    dumpFirstLine bytes = .ok (firstLine bytes) := by
  rw [dumpFirstLine, index_headerByte (by omega), Outcome.bind_ok,
    Buffer.sliceChecked_eq (by decide) (by omega), Outcome.bind_ok, u32_header (by omega),
    Outcome.bind_ok, Buffer.sliceChecked_eq (by decide) (by omega), Outcome.bind_ok,
    u16_header (by omega), Outcome.bind_ok, Buffer.sliceChecked_eq (by decide) (by omega),
    Outcome.bind_ok, u16_header (by omega), Outcome.bind_ok, index_headerByte (by omega),
    Outcome.bind_ok]
  rfl

/-- The hardware address, of as many bytes as its length says, and of sixteen at most. -/
def hardwareText (bytes : Bytes) : String :=
  hexText ":" (Buffer.slice bytes 28 (28 + min (headerByte bytes 2).toNat 16))

theorem dumpHardware_eq {bytes : Bytes} (complete : 236 ≤ bytes.length) :
    dumpHardware bytes = .ok (hardwareText bytes) := by
  rw [dumpHardware, index_headerByte (by omega), Outcome.bind_ok,
    Buffer.sliceChecked_eq (Nat.le_add_right _ _) (by omega), Outcome.bind_ok]
  rfl

/-- The part of a dump with a cookie that stands in front of its options. -/
def headerText (bytes : Bytes) : String :=
  firstLine bytes ++ String.join (dumpAddresses.map (addressLine bytes)) ++
    "\n  Client-Ethernet-Address " ++ hardwareText bytes ++
      textLine bytes 44 108 "Server-Name" ++ textLine bytes 108 236 "Bootfile-Name" ++
        "\n  Vendor-rfc1048 Extensions\n    Magic Cookie 0x63825363"

/-- **A dump behind a cookie** is the text of the header and a block for each option, if no
option is malformed. -/
theorem dump_eq {bytes : Bytes} (complete : 236 ≤ bytes.length)
    (marked : Buffer.slice bytes 236 240 = cookie)
    (sound : (OptionStream.walk true (bytes.drop 240)).2.malformed = none) :
    dhcpPacketDump bytes = .ok (headerText bytes ++
      String.join ((appendedFragments (bytes.drop 240)).map optionBlock)) := by
  have inside : ∀ field ∈ dumpAddresses, field.2 + 4 ≤ bytes.length := fun field member =>
    Nat.le_trans ((by decide : ∀ field ∈ dumpAddresses, field.2 + 4 ≤ 236) field member) complete
  have addressed : Adds (dumpAddresses.foldlM (writeAddress bytes))
      (String.join (dumpAddresses.map (addressLine bytes))) := by
    refine Adds.foldlM ?_
    rw [List.forall₂_map_right_iff]
    exact List.forall₂_same.mpr fun field member => adds_addressLine (inside field member)
  have events : dumpEvents (OptionStream.walk true (bytes.drop 240)) =
      (appendedFragments (bytes.drop 240)).map fun field => .option field.1 field.2 := by
    have stops : stopEvents (OptionStream.walk true (bytes.drop 240)).2 = [] := by
      cases stopped : (OptionStream.walk true (bytes.drop 240)).2 with
      | endMark => rfl
      | exhausted => rfl
      | missingLength code =>
          rw [stopped] at sound
          cases sound
      | truncated code length =>
          rw [stopped] at sound
          cases sound
    rw [dumpEvents, stops, List.append_nil, appendedFragments_eq]
  have written : dumpAddresses.foldlM (writeAddress bytes) (firstLine bytes) =
      .ok (firstLine bytes ++ String.join (dumpAddresses.map (addressLine bytes))) :=
    addressed (firstLine bytes)
  have named : Adds (writeField bytes 44 108 "Server-Name") (textLine bytes 44 108 "Server-Name") :=
    adds_textLine _ (by decide) (Nat.le_trans (by decide) complete)
  have filed : Adds (writeField bytes 108 236 "Bootfile-Name")
      (textLine bytes 108 236 "Bootfile-Name") := adds_textLine _ (by decide) complete
  rw [dhcpPacketDump, if_neg (Nat.not_lt.mpr complete), dumpHardware_eq complete, Outcome.bind_ok,
    dumpFirstLine_eq complete, Outcome.bind_ok, written, Outcome.bind_ok]
  dsimp only
  rw [named, Outcome.bind_ok, filed, Outcome.bind_ok, hasCookie_eq, Outcome.bind_ok,
    decide_eq_true marked, if_pos rfl, dumpLoop_eq, events]
  exact adds_fields _ (headerText bytes)

/-! ## Texts of values -/

theorem printableByte_of_char {c : Char} (visible : IsPrintable c) :
    printableByte c.toUInt8 = String.singleton c := by
  have value : c.toUInt8.toNat = c.toNat := by
    change c.val.toUInt8.toNat = c.val.toNat
    rw [UInt32.toNat_toUInt8]
    exact Nat.mod_eq_of_lt (Nat.lt_of_le_of_lt visible.2 (by decide))
  have positive : c.toUInt8 ≠ 0 := by
    intro zero
    rw [zero] at value
    exact absurd (value ▸ visible.1) (by decide)
  have same : Char.ofUInt8 c.toUInt8 = c := by
    apply Char.toNat_inj.mp
    change c.toUInt8.toUInt32.toNat = c.toNat
    rw [UInt8.toNat_toUInt32, value]
  rw [printableByte, if_neg positive, if_pos, same]
  simp only [UInt8.le_iff_toNat_le, value]
  exact visible

/-- A text of visible characters is shown as it is. -/
theorem printable_asBytes {text : String} (visible : ∀ c ∈ text.toList, IsPrintable c) :
    printable (Text.asBytes text) = text := by
  have ascii : ∀ c ∈ text.toList, c.toNat < 128 := fun c member =>
    Nat.lt_of_le_of_lt (visible c member).2 (by decide)
  have shown : ∀ c ∈ text.toList, (printableByte ∘ Char.toUInt8) c = String.singleton c :=
    fun c member => printableByte_of_char (visible c member)
  rw [printable, Text.asBytes_eq, Text.utf8Encode_of_ascii ascii, List.map_map,
    List.map_congr_left shown]
  apply String.toList_inj.mp
  rw [String.toList_join, List.flatMap_map]
  simp

theorem addresses_addressBytes (ips : List Ipv4Addr) : addresses (addressBytes ips) = ips := by
  induction ips with
  | nil => rfl
  | cons ip ips ih =>
      have split : addressBytes (ip :: ips) = ip.octets[0] :: ip.octets[1] :: ip.octets[2] ::
          ip.octets[3] :: addressBytes ips := by
        rw [addressBytes, List.flatMap_cons, Ipv4Addr.bytes_eq]
        rfl
      rw [split, addresses, ih]
      exact congrArg (· :: ips) (Ipv4Addr.bytes_injective (Ipv4Addr.bytes_eq ip).symm)

/-- **Addresses** are shown as they are printed. -/
theorem ipv4Values_addressBytes {ips : List Ipv4Addr} (nonempty : ips ≠ []) :
    ipv4Values (addressBytes ips) = some (", ".intercalate (ips.map Ipv4Addr.toText)) := by
  have length : (addressBytes ips).length = ips.length * 4 := by
    rw [addressBytes, List.length_flatMap]
    simp only [Ipv4Addr.length_bytes, List.map_const', List.sum_replicate_nat]
  have filled : ¬((addressBytes ips).isEmpty ∨ (addressBytes ips).length % 4 ≠ 0) := by
    rw [List.isEmpty_iff_length_eq_zero, length]
    have := List.length_pos_iff.mpr nonempty
    omega
  rw [ipv4Values, if_neg filled, addresses_addressBytes]

theorem optionValue_addresses {code : UInt8}
    (known : code ∈ ([1, 3, 6, 28, 42, 50, 54] : List UInt8)) {ips : List Ipv4Addr}
    (nonempty : ips ≠ []) : optionValue code (addressBytes ips) =
      .ok (", ".intercalate (ips.map Ipv4Addr.toText)) := by
  rw [optionValue, if_pos known, ipv4Values_addressBytes nonempty]
  rfl

theorem optionValue_address {code : UInt8}
    (known : code ∈ ([1, 3, 6, 28, 42, 50, 54] : List UInt8)) (ip : Ipv4Addr) :
    optionValue code ip.bytes = .ok ip.toText := by
  have single : addressBytes [ip] = ip.bytes := List.append_nil _
  rw [← single, optionValue_addresses known (List.cons_ne_nil ip [])]
  rfl

theorem optionValue_quoted {code : UInt8} (known : code ∈ ([12, 15, 66, 101] : List UInt8))
    {text : String} (visible : ∀ c ∈ text.toList, IsPrintable c) :
    optionValue code (Text.asBytes text) = .ok ("\"" ++ text ++ "\"") := by
  have quoted : code ∉ ([1, 3, 6, 28, 42, 50, 54] : List UInt8) ∧
      code ∈ ([12, 15, 60, 66, 67, 77, 101, 252] : List UInt8) := by
    simp only [List.mem_cons, List.not_mem_nil, or_false] at known
    rcases known with rfl | rfl | rfl | rfl <;> decide
  rw [optionValue, if_neg quoted.1, if_pos quoted.2, printable_asBytes visible]
  rfl

theorem optionValue_seconds {code : UInt8} (known : code ∈ ([51, 58, 59] : List UInt8))
    (seconds : UInt32) : optionValue code (be32 seconds) = .ok (toString seconds) := by
  have read : u32FromBeBytes (be32 seconds) = .ok seconds :=
    congrArg Except.ok (ofBe32_be32 seconds)
  simp only [List.mem_cons, List.not_mem_nil, or_false] at known
  rcases known with rfl | rfl | rfl
  all_goals
    rw [optionValue, if_neg (by decide), if_neg (by decide), if_neg (by simp),
      if_neg (by simp), if_pos ⟨by decide, rfl⟩, read]
    rfl

theorem optionValue_mtu (mtu : UInt16) : optionValue 26 (be16 mtu) = .ok (toString mtu) := by
  have read : u16FromBeBytes (be16 mtu) = .ok mtu := congrArg Except.ok (ofBe16_be16 mtu)
  rw [optionValue, if_neg (by decide), if_neg (by decide), if_neg (by simp),
    if_pos ⟨by decide, rfl⟩, read]
  rfl

theorem optionValue_message (message : UInt8) :
    optionValue 53 [message] = .ok (toAsciiUppercase (messageName message)) := by
  rw [optionValue, if_neg (by decide), if_neg (by decide), if_neg (by simp),
    if_neg (by simp), if_neg (by simp), if_pos ⟨rfl, rfl⟩]
  rfl

/-- The texts of the routes of a configuration, through the gateway. -/
def routeTexts (gateway : Ipv4Addr) (pairs : List (Ipv4Addr × UInt8)) : String :=
  ", ".intercalate (pairs.map fun pair =>
    pair.1.toText ++ "/" ++ toString pair.2 ++ ":" ++ gateway.toText)

theorem optionValue_routes (gateway : Ipv4Addr) {routes : List String}
    {pairs : List (Ipv4Addr × UInt8)}
    (parsed : List.Forall₂ (fun route pair => parseRoute route = .ok pair) routes pairs) :
    optionValue 121 (routesValue gateway routes) = .ok (routeTexts gateway pairs) := by
  rw [optionValue, if_neg (by decide), if_neg (by decide), if_neg (by simp), if_neg (by simp),
    if_neg (by simp), if_neg (by simp), if_neg (by decide), if_neg (by decide),
    if_neg (by simp), if_pos (.inl rfl), classlessRoutes, decode_routes gateway parsed]
  simp only [Outcome.bind_ok, Outcome.pure_eq_ok, Option.map_some, Option.getD_some, List.map_map]
  rfl

/-! ## Settings -/

/-- How the settings of a reply are to be shown, by the codes of their options. -/
inductive ShownAs (client : Client) (config : Config) (server : Ipv4Addr) (sent : Reply) :
    UInt8 → String → Prop where
  | message : ShownAs client config server sent 53 (toAsciiUppercase (messageName sent.message))
  | server : ShownAs client config server sent 54 server.toText
  | lease : ShownAs client config server sent 51 (toString config.dhcp.leaseSeconds)
  | renewal : ShownAs client config server sent 58
      (toString (renewalTime config.dhcp.leaseSeconds))
  | rebinding : ShownAs client config server sent 59
      (toString (rebindingTime config.dhcp.leaseSeconds))
  | mask {mask : Ipv4Addr} (isMask : mask.bytes = be32 (subnetMask client)) :
      ShownAs client config server sent 1 mask.toText
  | hostname : ShownAs client config server sent 12 ("\"" ++ client.hostname ++ "\"")
  | domain : ShownAs client config server sent 15 ("\"" ++ client.domain ++ "\"")
  | mtu : ShownAs client config server sent 26 (toString client.mtu)
  | timezone : ShownAs client config server sent 101
      ("\"" ++ config.clientOptions.timezone ++ "\"")
  | dns : ShownAs client config server sent 6
      (", ".intercalate (config.clientOptions.dns.map Ipv4Addr.toText))
  | ntp : ShownAs client config server sent 42
      (", ".intercalate (config.clientOptions.ntp.map Ipv4Addr.toText))
  | routes {pairs : List (Ipv4Addr × UInt8)}
      (parsed : List.Forall₂ (fun route pair => parseRoute route = .ok pair)
        config.clientOptions.classlessRoutes pairs) :
      ShownAs client config server sent 121 (routeTexts client.gateway pairs)
  | gateway : ShownAs client config server sent 3 client.gateway.toText
  | tftpServer : ShownAs client config server sent 66
      ("\"" ++ config.boot.tftpServer.toText ++ "\"")

theorem eq_of_onlyIf {condition : Bool} {value held : Bytes}
    (given : onlyIf condition value = some held) : value = held := by
  cases condition with
  | true => exact Option.some.inj given
  | false => cases given

theorem isPrintable_toText (ip : Ipv4Addr) : ∀ c ∈ ip.toText.toList, IsPrintable c := by
  intro c member
  obtain ⟨printed, none⟩ := breaks_toText ip
  refine (printed c member).resolve_left ?_
  rintro rfl
  exact List.count_eq_zero.mp none member

/-- **The settings** are shown so by `option_value`. -/
theorem shown_of_value {packet : Packet} {client : Client} {config : Config} {server : Ipv4Addr}
    {message : UInt8} (clientValid : client.Valid) (valid : config.Valid) {code : UInt8}
    {text : String}
    (shown : ShownAs client config server (assembled packet client config server message) code text)
    {value : Bytes}
    (found : (replyOptions packet client config server message).value code = some value) :
    code ≠ 82 ∧ optionValue code value = .ok text := by
  have held := Table.lookup_of_value found
  have names : ∀ name, validHostname name = true → ∀ c ∈ name.toList, IsPrintable c := by
    intro name isName c member
    obtain ⟨low, high⟩ := bounds_of_validHostname isName c member
    exact ⟨Nat.le_trans (by decide) low, Nat.le_trans high (by decide)⟩
  have filled : ∀ ips, value = addressBytes ips → ips ≠ [] := by
    rintro _ isValue rfl
    exact Table.ne_nil_of_value found isValue
  cases shown with
  | message =>
      obtain rfl : [message] = value := Option.some.inj (Option.some.inj held)
      exact ⟨by decide, optionValue_message message⟩
  | server =>
      obtain rfl : server.bytes = value := Option.some.inj (Option.some.inj held)
      exact ⟨by decide, optionValue_address (by decide) server⟩
  | lease =>
      obtain rfl := eq_of_onlyIf (Option.some.inj held)
      exact ⟨by decide, optionValue_seconds (by decide) _⟩
  | renewal =>
      obtain rfl := eq_of_onlyIf (Option.some.inj held)
      exact ⟨by decide, optionValue_seconds (by decide) _⟩
  | rebinding =>
      obtain rfl := eq_of_onlyIf (Option.some.inj held)
      exact ⟨by decide, optionValue_seconds (by decide) _⟩
  | @mask mask isMask =>
      obtain rfl := eq_of_onlyIf (Option.some.inj held)
      rw [← isMask]
      exact ⟨by decide, optionValue_address (by decide) mask⟩
  | hostname =>
      obtain rfl := eq_of_onlyIf (Option.some.inj held)
      exact ⟨by decide, optionValue_quoted (by decide) (names _ clientValid.hostname)⟩
  | domain =>
      obtain rfl := eq_of_onlyIf (Option.some.inj held)
      exact ⟨by decide, optionValue_quoted (by decide) (names _ clientValid.domain)⟩
  | mtu =>
      obtain rfl := eq_of_onlyIf (Option.some.inj held)
      exact ⟨by decide, optionValue_mtu client.mtu⟩
  | timezone =>
      obtain rfl := eq_of_onlyIf (Option.some.inj held)
      obtain ⟨parts, zone⟩ := validTimezone_iff.mp valid.timezone
      refine ⟨by decide, optionValue_quoted (by decide) fun c member => ?_⟩
      obtain ⟨low, high⟩ := zone.bounds c member
      exact ⟨Nat.le_trans (by decide) low, Nat.le_trans high (by decide)⟩
  | dns =>
      obtain rfl := eq_of_onlyIf (Option.some.inj held)
      exact ⟨by decide, optionValue_addresses (by decide) (filled _ rfl)⟩
  | ntp =>
      obtain rfl := eq_of_onlyIf (Option.some.inj held)
      exact ⟨by decide, optionValue_addresses (by decide) (filled _ rfl)⟩
  | routes parsed =>
      obtain rfl := eq_of_onlyIf (Option.some.inj held)
      exact ⟨by decide, optionValue_routes client.gateway parsed⟩
  | gateway =>
      obtain rfl := eq_of_onlyIf (Option.some.inj held)
      exact ⟨by decide, optionValue_address (by decide) client.gateway⟩
  | tftpServer =>
      obtain ⟨file, -, rfl⟩ := Option.map_eq_some_iff.mp (Option.some.inj held)
      exact ⟨by decide, optionValue_quoted (by decide) (isPrintable_toText _)⟩

/-! ## Sent replies -/

/-- The address that a reply grants is shown in its header. -/
theorem addressLine_granted {packet : Packet} (wellFormed : packet.WellFormed) {client : Client}
    (clientValid : client.Valid) {config : Config} {server : Ipv4Addr} {message : UInt8}
    (granted : grants packet message = true) :
    addressLine (assembled packet client config server message).bytes ("Your-IP", 16) =
      "\n  Your-IP " ++ client.ip.toText := by
  have length := length_fixedPart wellFormed.length_header client config message
  have given : Buffer.slice (assembled packet client config server message).bytes 16 20 =
      client.ip.bytes := by
    change Buffer.slice (pad _) 16 20 = _
    rw [pad, List.append_assoc, List.append_assoc, slice_of_header length (by decide),
      yiaddr_fixedPart wellFormed.length_header, if_pos granted]
  have concrete : client.ip.isUnspecified = false :=
    Bool.eq_false_iff.mpr (Ipv4Addr.isUnspecified_iff.not.mpr (isUnicast_iff.mp clientValid.ip).1)
  rw [addressLine, given, Ipv4Addr.ofBytes?_bytes]
  dsimp only
  rw [concrete, if_neg Bool.false_ne_true]
  rfl

/-- **What the log shows of a reply.** For a parsed datagram, a client of a parsed table, a
validated configuration and any reply that is sent: its dump is the text of its header, which
shows its fixed fields and those addresses and texts that are not zero or empty (`headerText`),
and a block for each option that a reader of the reply finds, in their order, and reports no
malformed option. The address that it grants is shown, and so is each setting whose value is
within one option. -/
theorem sent_dump_exact {csv : CsvReader} {text : String} {clients : Clients}
    (table : Clients.parse csv text = .ok clients) {mac : Mac} {client : Client}
    (found : clients.records[mac]? = some client) {envFilter : String → Outcome PUnit}
    {config : Config} (validated : config.validate envFilter = .ok ⟨⟩) {server : Ipv4Addr}
    {bytes : Bytes} {packet : Packet} (parsed : Packet.parse bytes = .ok packet) {sent : Reply}
    (replied : reply packet client config server = .ok (some sent)) :
    ∃ decoded, readOptions (sent.bytes.drop 240) ∅ = .ok decoded ∧
      dhcpPacketDump sent.bytes = .ok (headerText sent.bytes ++
        String.join ((appendedFragments (sent.bytes.drop 240)).map optionBlock)) ∧
      (sent.message ≠ 6 → packet.message ≠ 8 →
        addressLine sent.bytes ("Your-IP", 16) = "\n  Your-IP " ++ client.ip.toText) ∧
      ∀ code text value, ShownAs client config server sent code text →
        decoded[code]? = some value → value.length ≤ 255 →
          optionLine code value text ∈
            (appendedFragments (sent.bytes.drop 240)).map optionBlock := by
  have wellFormed := Packet.wellFormed_of_parse parsed
  have clientValid := Clients.valid_of_parse table found
  have valid := Config.valid_of_validate validated
  have length := wellFormed.length_header
  obtain ⟨message, isDue, bounded, rfl⟩ := (reply_eq_some_iff (usable_of_reply replied) wellFormed
    clientValid.maskable valid).mp replied
  obtain ⟨minimum, -⟩ := length_assembled length client config server bounded
  obtain ⟨area, rendered, -, read⟩ := exists_area_assembled client config server message length
  obtain ⟨decoded, decodes, values⟩ := decode_assembled client config server message length
  obtain ⟨passed, sound⟩ := OptionStream.walk_render area
  rw [rendered] at passed sound
  have marked : Buffer.slice (assembled packet client config server message).bytes 236 240 =
      cookie := by
    change Buffer.slice (pad _) 236 240 = _
    rw [pad, List.append_assoc, List.append_assoc,
      slice_of_header (length_fixedPart length client config message) (by decide),
      (echo_fixedPart length client config message).magic]
  have dumped := dump_eq (Nat.le_trans (by decide) minimum) marked sound
  refine ⟨decoded, decodes, dumped, fun answers asks => ?_, ?_⟩
  · refine addressLine_granted wellFormed clientValid ?_
    rw [grants, Bool.and_eq_true, bne_iff_ne, bne_iff_ne]
    exact ⟨answers, asks⟩
  · intro code text value shown isValue short
    rw [values code] at isValue
    obtain ⟨plain, isText⟩ := shown_of_value clientValid valid shown isValue
    have adds := adds_optionLine plain isText
    rw [appendedFragments_eq, passed, read]
    exact List.mem_map.mpr ⟨(code, value), Table.mem_fragments isValue short, optionBlock_eq adds⟩

/-- The log of the offer to the first client of the shipped file shows its address and that
it is an offer. -/
theorem sent_dump_exact_shipped : ∃ packet sent,
    reply packet Clients.shippedClient Config.shipped (.new 192 0 2 10) = .ok (some sent) ∧
      dhcpPacketDump sent.bytes = .ok (headerText sent.bytes ++
        String.join ((appendedFragments (sent.bytes.drop 240)).map optionBlock)) ∧
      addressLine sent.bytes ("Your-IP", 16) = "\n  Your-IP " ++ Clients.shippedClient.ip.toText ∧
      optionLine 53 [2] (toAsciiUppercase "offer") ∈
        (appendedFragments (sent.bytes.drop 240)).map optionBlock := by
  obtain ⟨packet, sent, parsed, replied, offered⟩ := exists_shipped_reply (Packet.wire 1 [])
    (fun packet sent => packet.message == 1 && sent.message == 2) (by decide +kernel)
  obtain ⟨isDiscover, isOffer⟩ := Bool.and_eq_true_iff.mp offered
  rw [beq_iff_eq] at isDiscover isOffer
  obtain ⟨clients, table, found⟩ := Clients.exists_parse_shipped
  obtain ⟨decoded, decodes, dump, address, settings⟩ :=
    sent_dump_exact table found Config.validate_shipped parsed replied
  obtain ⟨other, read, -, byType⟩ := options_of_reply (Packet.wellFormed_of_parse parsed)
    (Clients.valid_of_parse table found) (Config.valid_of_validate Config.validate_shipped) replied
  obtain rfl := Except.ok.inj (decodes.symm.trans read)
  have line := settings 53 _ _ .message byType.identity.1 (Nat.le_of_ble_eq_true rfl)
  rw [isOffer] at line
  refine ⟨packet, sent, replied, dump, address ?_ ?_, line⟩
  · rw [isOffer]
    decide
  · rw [isDiscover]
    decide

end Macdack
