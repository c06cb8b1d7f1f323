import Macdack.Dhcp.Sizes
import Macdack.Dhcp.Header

/-!
# Decoding a reply

A reply decodes to exactly the table of options that was meant, however long the
values are: no option is lost, truncated or merged with another, and an option
with an empty value is absent (`decode_assembled`).

`reply_decodes` says this of every reply of `reply`, with the bounds on its size,
the end of its options, and for each type of message the options that it has
(`OptionsByType`).
-/

set_option autoImplicit false

namespace Macdack

open OptionStream (Area Table)

/-! ## Decoding the assembled message -/

section Decode

variable (packet : Packet) (client : Client) (config : Config) (server : Ipv4Addr)
  (message : UInt8)

/-- No code is written twice, and none is the pad or the end mark. -/
theorem map_fst_replyOptions :
    (replyOptions packet client config server message).map Prod.fst =
      [53, 54, 61, 51, 58, 59, 1, 12, 15, 26, 101, 6, 42, 121, 3, 66, 67, 82] := rfl

theorem nodup_replyOptions :
    ((replyOptions packet client config server message).map Prod.fst).Nodup := by
  rw [map_fst_replyOptions]
  decide

theorem codes_replyOptions :
    ∀ entry ∈ Table.entries (replyOptions packet client config server message),
      entry.1 ≠ 0 ∧ entry.1 ≠ 255 := by
  intro entry member
  obtain ⟨row, inTable, rfl⟩ := List.mem_map.mp member
  have listed : row.1 ∈ (replyOptions packet client config server message).map Prod.fst :=
    List.mem_map_of_mem inTable
  rw [map_fst_replyOptions] at listed
  have codes : ∀ code ∈ [(53 : UInt8), 54, 61, 51, 58, 59, 1, 12, 15, 26, 101, 6, 42, 121, 3, 66,
      67, 82], code ≠ 0 ∧ code ≠ 255 := by
    simp
  exact codes row.1 listed

variable {packet}

/-- The options of the assembled message are an area that ends with the end mark
and the padding. -/
theorem exists_area_assembled (length : packet.header.length = 236) :
    ∃ area : Area, area.render = (assembled packet client config server message).bytes.drop 240 ∧
      (∃ count, area.ending = .endMark (List.replicate count 0)) ∧
      area.fragments = (Table.entries (replyOptions packet client config server message)).flatMap
        fun entry => OptionStream.fragmentsOf entry.1 entry.2 := by
  obtain ⟨items, rendered, read⟩ := OptionStream.exists_items_encodeAll
    (codes_replyOptions packet client config server message)
  have room := length_fixedPart length client config message
  obtain ⟨count, padded⟩ : ∃ count, (assembled packet client config server message).bytes =
      fixedPart packet client config message ++
        ((replyOptions packet client config server message).encode ++
          255 :: List.replicate count 0) := by
    change ∃ count, pad (fixedPart packet client config message ++
      (replyOptions packet client config server message).encode ++ [255]) = _
    rw [pad, List.append_assoc, List.append_assoc]
    exact ⟨_, rfl⟩
  refine ⟨⟨items, .endMark (List.replicate count 0)⟩, ?_, ⟨count, rfl⟩, read⟩
  rw [padded, List.drop_left' room, Area.render, rendered]
  rfl

/-- **The assembled message decodes to its table of options.** -/
theorem decode_assembled (length : packet.header.length = 236) :
    ∃ decoded, readOptions ((assembled packet client config server message).bytes.drop 240) ∅ =
        .ok decoded ∧
      ∀ code, decoded[code]? = (replyOptions packet client config server message).value code := by
  obtain ⟨area, rendered, -, read⟩ := exists_area_assembled client config server message length
  refine ⟨_, by rw [← rendered, readOptions_render], ?_⟩
  intro code
  rw [Fragments.getElem?_absorb_empty, read,
    OptionStream.gather_table (nodup_replyOptions packet client config server message)]

end Decode

/-! ## Sizes -/

/-- The assembled message has at least 300 bytes and is within the limit. -/
theorem length_assembled {packet : Packet} (length : packet.header.length = 236) (client : Client)
    (config : Config) (server : Ipv4Addr) {message : UInt8}
    (bounded : bareSize packet client config server message ≤ sizeLimit packet) :
    300 ≤ (assembled packet client config server message).bytes.length ∧
      (assembled packet client config server message).bytes.length ≤ sizeLimit packet := by
  have room := length_fixedPart length client config message
  have limit := le_sizeLimit packet
  have relay : 240 + (replyOptions packet client config server message).encode.length + 1 ≤
      sizeLimit packet := by
    rw [replyOptions, Table.encode_append, List.length_append, replyRelay]
    rw [bareSize] at bounded
    cases carried : carriedRelay packet
      (240 + (contents packet client config server message).encode.length) with
    | none =>
        rw [Table.encode_cons_none, Table.encode_nil, List.length_nil]
        exact bounded
    | some data =>
        rw [carriedRelay, Option.filter_eq_some_iff, relayFits, decide_eq_true_eq] at carried
        rw [Table.encode_cons_some, Table.encode_nil, List.append_nil]
        omega
  have padded : (assembled packet client config server message).bytes.length =
      max 300 (240 + (replyOptions packet client config server message).encode.length + 1) := by
    change (pad _).length = _
    rw [pad, List.length_append, List.length_replicate, List.length_append, List.length_append,
      room, List.length_singleton]
    omega
  rw [padded]
  omega

/-! ## The times of a lease -/

theorem toNat_renewalTime (lease : UInt32) : (renewalTime lease).toNat = lease.toNat / 2 := by
  rw [renewalTime, UInt32.toNat_div]
  rfl

theorem toNat_rebindingTime (lease : UInt32) :
    (rebindingTime lease).toNat = lease.toNat * 7 / 8 := by
  have bound := lease.toNat_lt
  rw [rebindingTime, UInt64.toNat_toUInt32, UInt64.toNat_div, UInt64.toNat_mul,
    UInt32.toNat_toUInt64]
  change lease.toNat * 7 % 2 ^ 64 / 8 % 2 ^ 32 = _
  rw [Nat.mod_eq_of_lt (show lease.toNat * 7 < 2 ^ 64 by omega), Nat.mod_eq_of_lt (by omega)]

/-- A lease of at least eight seconds is renewed before it is rebound, and both
before it ends. -/
theorem times_of_lease {lease : UInt32} (long : 8 ≤ lease) :
    0 < renewalTime lease ∧ renewalTime lease < rebindingTime lease ∧
      rebindingTime lease < lease := by
  have eight : 8 ≤ lease.toNat := UInt32.le_iff_toNat_le.mp long
  simp only [UInt32.lt_iff_toNat_lt, toNat_renewalTime, toNat_rebindingTime]
  refine ⟨?_, by omega, by omega⟩
  change 0 < lease.toNat / 2
  omega

/-! ## The values of the table -/

/-- A value that counts as present. -/
def present (value : Bytes) : Option Bytes := (some value).filter fun value => !value.isEmpty

theorem present_of_ne_nil {value : Bytes} (nonempty : value ≠ []) : present value = some value := by
  rw [present, Option.filter_some, if_pos]
  simpa using nonempty

theorem filter_onlyIf (condition : Bool) (value : Bytes) :
    (onlyIf condition value).filter (fun value => !value.isEmpty) =
      if condition then present value else none := by
  cases condition with
  | true => rfl
  | false => rfl

/-- The options of a reply, by the type of its message. -/
structure OptionsByType (packet : Packet) (client : Client) (config : Config) (server : Ipv4Addr)
    (sent : Reply) (decoded : Options) : Prop where
  identity : decoded[(53 : UInt8)]? = some [sent.message] ∧
    decoded[(54 : UInt8)]? = some server.bytes ∧
    decoded[(61 : UInt8)]? = packet.options[(61 : UInt8)]?.bind present
  nak : sent.message = 6 → ∀ code value, decoded[code]? = some value →
    code ∈ [(53 : UInt8), 54, 61, 82]
  inform : sent.message = 5 → packet.message = 8 →
    decoded[(51 : UInt8)]? = none ∧ decoded[(58 : UInt8)]? = none ∧ decoded[(59 : UInt8)]? = none
  lease : (sent.message = 2 ∨ sent.message = 5 ∧ packet.message = 3) →
    decoded[(51 : UInt8)]? = some (be32 config.dhcp.leaseSeconds) ∧
    ((decoded[(58 : UInt8)]?).isSome = true ↔ 8 ≤ config.dhcp.leaseSeconds) ∧
    ((decoded[(59 : UInt8)]?).isSome = true ↔ 8 ≤ config.dhcp.leaseSeconds) ∧
    (8 ≤ config.dhcp.leaseSeconds → ∃ renewal rebinding : UInt32,
      decoded[(58 : UInt8)]? = some (be32 renewal) ∧
      decoded[(59 : UInt8)]? = some (be32 rebinding) ∧
      0 < renewal ∧ renewal < rebinding ∧ rebinding < config.dhcp.leaseSeconds)
  settings : sent.message ≠ 6 →
    decoded[(1 : UInt8)]? = some (be32 (subnetMask client)) ∧
    decoded[(12 : UInt8)]? = some (Text.asBytes client.hostname) ∧
    decoded[(15 : UInt8)]? = some (Text.asBytes client.domain) ∧
    decoded[(26 : UInt8)]? = some (be16 client.mtu)
  servers : sent.message ≠ 6 →
    decoded[(6 : UInt8)]? = present (addressBytes config.clientOptions.dns) ∧
    decoded[(42 : UInt8)]? = present (addressBytes config.clientOptions.ntp)
  timezone : sent.message ≠ 6 →
    decoded[(101 : UInt8)]? = if packet.requests 101 then
      some (Text.asBytes config.clientOptions.timezone) else none
  routes : sent.message ≠ 6 →
    decoded[(121 : UInt8)]? = (if packet.wantsClassless then
      some (routesValue client.gateway config.clientOptions.classlessRoutes) else none) ∧
    decoded[(3 : UInt8)]? = if packet.wantsClassless then none else some client.gateway.bytes
  boot : decoded[(66 : UInt8)]? =
      sent.bootFile.map (fun _ => Text.asBytes config.boot.tftpServer.toText) ∧
    decoded[(67 : UInt8)]? = sent.bootFile.map Text.asBytes
  relay : ∀ value, decoded[(82 : UInt8)]? = some value →
    packet.giaddr.isUnspecified = false ∧ packet.options[(82 : UInt8)]? = some value

/-- A value of the table that is never empty. -/
theorem filter_onlyIf_of_ne_nil (condition : Bool) {value : Bytes} (nonempty : value ≠ []) :
    (onlyIf condition value).filter (fun value => !value.isEmpty) =
      if condition then some value else none := by
  rw [filter_onlyIf, present_of_ne_nil nonempty]

theorem be32_ne_nil (value : UInt32) : be32 value ≠ [] := List.cons_ne_nil _ _

/-- The routes of a validated configuration take room. -/
theorem routesValue_ne_nil (gateway : Ipv4Addr) {config : Config} (valid : config.Valid) :
    routesValue gateway config.clientOptions.classlessRoutes ≠ [] := by
  obtain ⟨route, rest, routes⟩ := List.exists_cons_of_ne_nil valid.routes_ne_nil
  obtain ⟨⟨net, prefixLength⟩, parsed⟩ :=
    valid.routes route (by rw [routes]; exact List.mem_cons_self)
  rw [routes, routesValue, List.flatMap_cons, parsed]
  exact List.cons_ne_nil _ _

/-- A named boot file is one of a configured profile. -/
theorem validBootFile_of_named {packet : Packet} {client : Client} {config : Config}
    (valid : config.Valid) {message : UInt8} {file : String}
    (named : namedBootFile packet client config message = some file) : ValidBootFile file := by
  rw [namedBootFile] at named
  split at named
  · cases named
  rw [selectBootFile] at named
  split at named
  · rw [Option.bind_eq_some_iff] at named
    obtain ⟨files, found, chosen⟩ := named
    refine valid.bootFile _ files found file ?_
    split at chosen
    · exact .inr (.inr chosen)
    split at chosen
    · exact .inl chosen
    · exact .inr (.inl chosen)
  · cases named

section ByType

variable {packet : Packet} {client : Client} {config : Config} {server : Ipv4Addr}
  {message : UInt8} {decoded : Options}

/-- The table of a NAK. -/
theorem replyOptions_nak (packet : Packet) (client : Client) (config : Config)
    (server : Ipv4Addr) :
    replyOptions packet client config server 6 =
      [(53, some [6]), (54, some server.bytes), (61, packet.options[(61 : UInt8)]?), (51, none),
        (58, none), (59, none), (1, none), (12, none), (15, none), (26, none), (101, none),
        (6, none), (42, none), (121, none), (3, none), (66, none), (67, none),
        (82, replyRelay packet client config server 6)] := rfl

theorem mem_codes_of_nak {code : UInt8} {value : Bytes}
    (found : (replyOptions packet client config server 6).value code = some value) :
    code ∈ [(53 : UInt8), 54, 61, 82] := by
  have listed := Table.mem_of_value found
  rw [replyOptions_nak] at listed
  simp only [List.mem_cons, Prod.mk.injEq, reduceCtorEq, and_false, false_or, List.not_mem_nil,
    or_false] at listed
  rcases listed with ⟨rfl, -⟩ | ⟨rfl, -⟩ | ⟨rfl, -⟩ | ⟨rfl, -⟩
  · decide
  · decide
  · decide
  · decide

/-- What every answer but a NAK carries. -/
theorem filter_onlyIf_answers (answers : message ≠ 6) (value : Bytes) :
    (onlyIf (message != 6) value).filter (fun value => !value.isEmpty) = present value := by
  rw [filter_onlyIf, if_pos (bne_iff_ne.mpr answers)]

/-- What it carries under a condition. -/
theorem filter_onlyIf_answers_and (answers : message ≠ 6) (condition : Bool) {value : Bytes}
    (nonempty : value ≠ []) :
    (onlyIf (message != 6 && condition) value).filter (fun value => !value.isEmpty) =
      if condition then some value else none := by
  rw [filter_onlyIf_of_ne_nil _ nonempty, bne_iff_ne.mpr answers, Bool.true_and]

/-- The time of a lease that is long enough to have it. -/
theorem filter_onlyIf_timed (granted : grants packet message = true) (lease time : UInt32) :
    (onlyIf (grants packet message && decide (8 ≤ lease)) (be32 time)).filter
        (fun value => !value.isEmpty) =
      if 8 ≤ lease then some (be32 time) else none := by
  rw [filter_onlyIf_of_ne_nil _ (be32_ne_nil time), granted, Bool.true_and]
  by_cases long : 8 ≤ lease
  · rw [if_pos long, if_pos (decide_eq_true long)]
  · rw [if_neg long, if_neg (by rw [decide_eq_false long]; decide)]

section Values

variable (values : ∀ code,
  decoded[code]? = (replyOptions packet client config server message).value code)

include values

theorem identity_of_values : decoded[(53 : UInt8)]? = some [message] ∧
    decoded[(54 : UInt8)]? = some server.bytes ∧
    decoded[(61 : UInt8)]? = packet.options[(61 : UInt8)]?.bind present := by
  refine ⟨values 53, (values 54).trans (present_of_ne_nil server.bytes_ne_nil), ?_⟩
  rw [values 61]
  change packet.options[(61 : UInt8)]?.filter _ = _
  cases packet.options[(61 : UInt8)]? with
  | none => rfl
  | some id => rfl

/-- Without a lease there are no times. -/
theorem times_of_not_grants (left : grants packet message = false) :
    decoded[(51 : UInt8)]? = none ∧ decoded[(58 : UInt8)]? = none ∧
      decoded[(59 : UInt8)]? = none := by
  rw [values 51, values 58, values 59]
  change (onlyIf (grants packet message) _).filter _ = none ∧
    (onlyIf (grants packet message && _) _).filter _ = none ∧
    (onlyIf (grants packet message && _) _).filter _ = none
  rw [left]
  exact ⟨rfl, rfl, rfl⟩

/-- With a lease there are its length and, when it is long enough, both times. -/
theorem times_of_grants (granted : grants packet message = true) :
    decoded[(51 : UInt8)]? = some (be32 config.dhcp.leaseSeconds) ∧
    decoded[(58 : UInt8)]? = (if 8 ≤ config.dhcp.leaseSeconds then
      some (be32 (renewalTime config.dhcp.leaseSeconds)) else none) ∧
    decoded[(59 : UInt8)]? = if 8 ≤ config.dhcp.leaseSeconds then
      some (be32 (rebindingTime config.dhcp.leaseSeconds)) else none := by
  refine ⟨?_, (values 58).trans (filter_onlyIf_timed granted _ _),
    (values 59).trans (filter_onlyIf_timed granted _ _)⟩
  have total : decoded[(51 : UInt8)]? =
      (onlyIf (grants packet message) (be32 config.dhcp.leaseSeconds)).filter
        (fun value => !value.isEmpty) := values 51
  rw [total, filter_onlyIf_of_ne_nil _ (be32_ne_nil _), granted, if_pos rfl]

/-- The names of the boot server and the boot file are there together. -/
theorem boot_of_values (valid : config.Valid) :
    decoded[(66 : UInt8)]? = (namedBootFile packet client config message).map
        (fun _ => Text.asBytes config.boot.tftpServer.toText) ∧
      decoded[(67 : UInt8)]? =
        (namedBootFile packet client config message).map Text.asBytes := by
  have server := values 66
  have file := values 67
  change decoded[(66 : UInt8)]? =
    (Option.map _ (namedBootFile packet client config message)).filter _ at server
  change decoded[(67 : UInt8)]? =
    (Option.map _ (namedBootFile packet client config message)).filter _ at file
  cases named : namedBootFile packet client config message with
  | none =>
      rw [named] at server file
      exact ⟨server, file⟩
  | some name =>
      rw [named] at server file
      have nonempty := (validBootFile_of_named valid named).nonempty
      exact ⟨server.trans (present_of_ne_nil
          (Text.asBytes_ne_nil config.boot.tftpServer.toText_ne_empty)),
        file.trans (present_of_ne_nil (Text.asBytes_ne_nil nonempty))⟩

/-- The relay option is the one of a relayed request. -/
theorem relay_of_values {value : Bytes} (found : decoded[(82 : UInt8)]? = some value) :
    packet.giaddr.isUnspecified = false ∧ packet.options[(82 : UInt8)]? = some value := by
  have held := (values 82).symm.trans found
  change (replyRelay packet client config server message).filter _ = some value at held
  rw [Option.filter_eq_some_iff, replyRelay, carriedRelay, Option.filter_eq_some_iff,
    relayData] at held
  obtain ⟨⟨data, -⟩, -⟩ := held
  split at data
  · cases data
  · rename_i relayed
    exact ⟨Bool.eq_false_iff.mpr relayed, data⟩

end Values

/-- **The options by type**, read off the table. -/
theorem optionsByType_assembled (clientValid : client.Valid) (valid : config.Valid)
    (isDue : due packet client server = some message)
    (values : ∀ code,
      decoded[code]? = (replyOptions packet client config server message).value code) :
    OptionsByType packet client config server (assembled packet client config server message)
      decoded where
  identity := identity_of_values values
  nak := by
    intro refused code value found
    change message = 6 at refused
    subst refused
    exact mem_codes_of_nak ((values code).symm.trans found)
  inform := by
    intro _ inform
    exact times_of_not_grants values (by rw [grants, inform]; simp)
  lease := by
    intro leased
    obtain ⟨total, renewal, rebinding⟩ := times_of_grants values (grants_of_leased isDue leased)
    rw [renewal, rebinding]
    refine ⟨total, ?_, ?_, ?_⟩
    · by_cases long : 8 ≤ config.dhcp.leaseSeconds <;> simp [long]
    · by_cases long : 8 ≤ config.dhcp.leaseSeconds <;> simp [long]
    · intro long
      rw [if_pos long, if_pos long]
      exact ⟨_, _, rfl, rfl, times_of_lease long⟩
  settings := by
    intro answers
    have given : ∀ {value : Bytes}, value ≠ [] →
        (onlyIf (message != 6) value).filter (fun value => !value.isEmpty) = some value :=
      fun nonempty => (filter_onlyIf_answers answers _).trans (present_of_ne_nil nonempty)
    refine ⟨(values 1).trans (given (be32_ne_nil _)), (values 12).trans (given ?_),
      (values 15).trans (given ?_), (values 26).trans (given (List.cons_ne_nil _ _))⟩
    · exact Text.asBytes_ne_nil (ne_empty_of_validHostname clientValid.hostname)
    · exact Text.asBytes_ne_nil (ne_empty_of_validHostname clientValid.domain)
  servers := fun answers =>
    ⟨(values 6).trans (filter_onlyIf_answers answers _),
      (values 42).trans (filter_onlyIf_answers answers _)⟩
  timezone := fun answers =>
    (values 101).trans (filter_onlyIf_answers_and answers _
      (Text.asBytes_ne_nil (ne_empty_of_validTimezone valid.timezone)))
  routes := by
    intro answers
    have classless := (values 121).trans
      (filter_onlyIf_answers_and answers _ (routesValue_ne_nil client.gateway valid))
    have default := (values 3).trans
      (filter_onlyIf_answers_and answers _ client.gateway.bytes_ne_nil)
    refine ⟨classless, default.trans ?_⟩
    cases packet.wantsClassless with
    | true => rfl
    | false => rfl
  boot := boot_of_values values valid
  relay := fun _ found => relay_of_values values found

end ByType

/-! ## Every reply -/

/-- **The options of a reply** to a valid client decode to its table. -/
theorem options_of_reply {packet : Packet} {client : Client} {config : Config} {server : Ipv4Addr}
    {sent : Reply} (wellFormed : packet.WellFormed) (clientValid : client.Valid)
    (valid : config.Valid) (replied : reply packet client config server = .ok (some sent)) :
    ∃ decoded, readOptions (sent.bytes.drop 240) ∅ = .ok decoded ∧
      (∀ code, decoded[code]? =
        (replyOptions packet client config server sent.message).value code) ∧
      OptionsByType packet client config server sent decoded := by
  obtain ⟨message, isDue, -, rfl⟩ := (reply_eq_some_iff (usable_of_reply replied) wellFormed
    clientValid.maskable valid).mp replied
  obtain ⟨decoded, read, values⟩ :=
    decode_assembled client config server message wellFormed.length_header
  exact ⟨decoded, read, values, optionsByType_assembled clientValid valid isDue values⟩

/-- **Every reply is a well-formed message that decodes to what was meant.** For a
parsed datagram, a client of a parsed table, a validated configuration and any
reply: its size is at least 300 and within the limit, its header is that of a
reply, its options are an area whose end mark is followed by zeros only, and the
decoded map is the table of its options, which `OptionsByType` describes for each
type of message. -/
theorem reply_decodes {csv : CsvReader} {text : String} {clients : Clients}
    (table : Clients.parse csv text = .ok clients) {mac : Mac} {client : Client}
    (found : clients.records[mac]? = some client) {envFilter : String → Outcome PUnit}
    {config : Config} (validated : config.validate envFilter = .ok ⟨⟩) {server : Ipv4Addr}
    {bytes : Bytes} {packet : Packet} (parsed : Packet.parse bytes = .ok packet) {sent : Reply}
    (replied : reply packet client config server = .ok (some sent)) :
    300 ≤ sent.bytes.length ∧ sent.bytes.length ≤ sizeLimit packet ∧
      Buffer.slice sent.bytes 0 3 = [2, 1, 6] ∧ Buffer.slice sent.bytes 236 240 = cookie ∧
      (∃ area : Area, area.render = sent.bytes.drop 240 ∧
        ∃ count, area.ending = .endMark (List.replicate count 0)) ∧
      ∃ decoded, readOptions (sent.bytes.drop 240) ∅ = .ok decoded ∧
        (∀ code, decoded[code]? =
          (replyOptions packet client config server sent.message).value code) ∧
        OptionsByType packet client config server sent decoded := by
  have wellFormed := Packet.wellFormed_of_parse parsed
  have clientValid := Clients.valid_of_parse table found
  have valid := Config.valid_of_validate validated
  have length := wellFormed.length_header
  obtain ⟨message, isDue, bounded, rfl⟩ := (reply_eq_some_iff (usable_of_reply replied) wellFormed
    clientValid.maskable valid).mp replied
  obtain ⟨minimum, maximum⟩ := length_assembled length client config server bounded
  obtain ⟨area, rendered, ending, -⟩ := exists_area_assembled client config server message length
  obtain ⟨decoded, read, values⟩ := decode_assembled client config server message length
  have room := length_fixedPart length client config message
  have echo := echo_fixedPart length client config message
  have header : ∀ low high : ℕ, high ≤ 240 →
      Buffer.slice (assembled packet client config server message).bytes low high =
        Buffer.slice (fixedPart packet client config message) low high := by
    intro low high inside
    change Buffer.slice (pad _) low high = _
    rw [pad, List.append_assoc, List.append_assoc, slice_of_header room inside]
  refine ⟨minimum, maximum, ?_, ?_, ⟨area, rendered, ending⟩,
    options_of_reply wellFormed clientValid valid replied⟩
  · rw [header _ _ (by decide), echo.op]
  · rw [header _ _ (by decide), echo.magic]

/-- The offer to the first client of the shipped file. -/
theorem reply_decodes_discover : ∃ packet sent decoded,
    reply packet Clients.shippedClient Config.shipped (.new 192 0 2 10) = .ok (some sent) ∧
      readOptions (sent.bytes.drop 240) ∅ = .ok decoded ∧
      OptionsByType packet Clients.shippedClient Config.shipped (.new 192 0 2 10) sent decoded := by
  obtain ⟨packet, sent, parsed, replied, -⟩ := exists_shipped_reply (Packet.wire 1 [])
    (fun _ _ => true) (by decide +kernel)
  obtain ⟨clients, table, found⟩ := Clients.exists_parse_shipped
  obtain ⟨-, -, -, -, -, decoded, read, -, byType⟩ :=
    reply_decodes table found Config.validate_shipped parsed replied
  exact ⟨packet, sent, decoded, replied, read, byType⟩

end Macdack
