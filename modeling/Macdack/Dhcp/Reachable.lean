import Macdack.Dhcp.Routes

/-!
# Reaching the gateway

A row is accepted only when its client and its gateway are neighbours in the subnet of
its prefix. The mask of a reply is computed apart from the one at validation, and is
the same (`checkedShl_eq`). So a client that takes its address and its mask from an
OFFER or an ACK reaches every gateway that the reply names
(`gateway_reachable`).
-/

set_option autoImplicit false

namespace Macdack

/-! ## The mask of a reply -/

/-- **The mask of a reply.** Its shift is inside of the width, and gives the mask of the
prefix. -/
theorem checkedShl_eq {client : Client} (valid : client.Valid) :
    checkedShl 0xffffffff (32 - client.prefixLength.toUInt32) =
      some (maskOf client.prefixLength) := by
  have positive : 1 ≤ client.prefixLength.toNat :=
    UInt8.le_iff_toNat_le.mp valid.prefixLength_pos
  have bound : client.prefixLength.toNat ≤ 31 := UInt8.le_iff_toNat_le.mp valid.prefixLength_le
  have wide : client.prefixLength.toUInt32 ≤ 32 := by
    rw [UInt32.le_iff_toNat_le, UInt8.toNat_toUInt32]
    exact Nat.le_trans bound (by decide)
  have difference : (32 - client.prefixLength.toUInt32).toNat = 32 - client.prefixLength.toNat := by
    rw [UInt32.toNat_sub_of_le _ _ wide, UInt8.toNat_toUInt32]
    rfl
  have inside : 32 - client.prefixLength.toUInt32 < 32 := by
    rw [UInt32.lt_iff_toNat_lt, difference]
    change 32 - client.prefixLength.toNat < 32
    omega
  rw [checkedShl, if_pos inside, shiftLeft_ones_eq positive difference]

theorem subnetMask_eq {client : Client} (valid : client.Valid) :
    subnetMask client = maskOf client.prefixLength := by
  rw [subnetMask, checkedShl_eq valid, Option.getD_some]

/-! ## The gateways of a reply -/

/-- A gateway that the options name: the default gateway, or that of a classless
route. -/
inductive Advertises (decoded : Options) (gateway : Ipv4Addr) : Prop where
  | default {value : Bytes} : decoded[(3 : UInt8)]? = some value →
      Ipv4Addr.ofBytes? value = some gateway → Advertises decoded gateway
  | classless {value : Bytes} {routes : List ClasslessRoute} {route : ClasslessRoute} :
      decoded[(121 : UInt8)]? = some value → classlessRoutesLoop value = .ok (some routes) →
        route ∈ routes → route.gateway = gateway → Advertises decoded gateway

/-- **The gateway of the row is the only one.** -/
theorem advertises_iff {packet : Packet} {client : Client} {config : Config} {server : Ipv4Addr}
    {sent : Reply} {decoded : Options} (valid : config.Valid)
    (byType : OptionsByType packet client config server sent decoded) (answers : sent.message ≠ 6)
    {gateway : Ipv4Addr} : Advertises decoded gateway ↔ gateway = client.gateway := by
  obtain ⟨classless, default⟩ := byType.routes answers
  obtain ⟨pairs, isPairs⟩ := exists_pairs valid.routes
  have decodes := decode_routes client.gateway isPairs
  constructor
  · intro advertises
    cases advertises with
    | default isValue isGateway =>
        rw [default] at isValue
        split at isValue
        · cases isValue
        · rw [← Option.some.inj isValue, Ipv4Addr.ofBytes?_bytes] at isGateway
          exact (Option.some.inj isGateway).symm
    | classless isValue read member through =>
        rw [classless] at isValue
        split at isValue
        · rw [← Option.some.inj isValue, decodes, Except.ok.injEq, Option.some.injEq] at read
          rw [← read] at member
          obtain ⟨pair, -, rfl⟩ := List.mem_map.mp member
          exact through.symm
        · cases isValue
  · rintro rfl
    by_cases wanted : packet.wantsClassless = true
    · rw [if_pos wanted] at classless
      obtain ⟨route, rest, routes⟩ := List.exists_cons_of_ne_nil valid.routes_ne_nil
      rw [routes] at isPairs
      cases isPairs with
      | @cons _ pair _ pairs _ _ =>
          exact .classless classless decodes (List.mem_map_of_mem List.mem_cons_self) rfl
    · rw [if_neg wanted] at default
      exact .default default (Ipv4Addr.ofBytes?_bytes client.gateway)

/-! ## The subnet of a row -/

/-- **A row whose fields are in range** is rejected on its addresses only when they are
no neighbours. -/
theorem parseClient_iff_neighbours {row : List String} {client : Client}
    (inRange : client.InRange row) (assignable : client.mac.Assignable)
    (isMac : ∃ text, row[5]? = some text ∧ parseMac text = .ok client.mac) :
    parseClient row = .ok client ↔ Neighbours client.ip client.gateway client.prefixLength := by
  rw [parseClient_eq_ok_iff, ← checkSubnet_eq_ok_iff inRange.prefixLength_bounds.2]
  constructor
  · rintro ⟨fields, -⟩
    exact fields.subnet
  · intro subnet
    exact ⟨{ inRange with subnet := subnet }, assignable, isMac⟩

/-- **Every assigned client reaches its gateway.** For every accepted row and every
OFFER and ACK that is built for its client:

* the option of the mask decodes to the mask at validation, whose ones are its leading
  bits, as many as the prefix says, and which takes every address to its subnet;
* some gateway is named, and the client and every gateway that is named are neighbours;
* conversely, a row whose fields are in range is accepted when its addresses are
  neighbours;
* neither of the two computations of the mask overflows. -/
theorem gateway_reachable {row : List String} {client : Client}
    (accepted : parseClient row = .ok client) {envFilter : String → Outcome PUnit}
    {config : Config} (validated : config.validate envFilter = .ok ⟨⟩) {server : Ipv4Addr}
    {bytes : Bytes} {packet : Packet} (parsed : Packet.parse bytes = .ok packet) {sent : Reply}
    (replied : reply packet client config server = .ok (some sent))
    (answers : sent.message = 2 ∨ sent.message = 5) :
    (∃ decoded mask, readOptions (sent.bytes.drop 240) ∅ = .ok decoded ∧
      (∃ a b c d, decoded[(1 : UInt8)]? = some [a, b, c, d] ∧ ofBe32 a b c d = mask) ∧
      prefixMask client.prefixLength = .ok mask ∧
      (∀ position, mask.toNat.testBit position =
        decide (32 - client.prefixLength.toNat ≤ position ∧ position < 32)) ∧
      (∀ ip : Ipv4Addr, (ip.toU32 &&& mask).toNat =
        ip.subnet client.prefixLength * subnetSize client.prefixLength) ∧
      (∃ gateway, Advertises decoded gateway) ∧
      ∀ gateway, Advertises decoded gateway →
        Neighbours client.ip gateway client.prefixLength) ∧
    (∀ {otherRow : List String} {other : Client}, other.InRange otherRow →
      other.mac.Assignable →
        (∃ text, otherRow[5]? = some text ∧ parseMac text = .ok other.mac) →
          Neighbours other.ip other.gateway other.prefixLength →
            parseClient otherRow = .ok other) ∧
    (∃ count, subU8 32 client.prefixLength = .ok count ∧
      ∃ mask, shlU32 0xffffffff count = .ok mask) ∧
    ∃ count, subU32 32 client.prefixLength.toUInt32 = .ok count ∧
      ∃ mask, checkedShl 0xffffffff count = some mask := by
  have valid := Config.valid_of_validate validated
  have clientValid := valid_of_parseClient accepted
  obtain ⟨fields, assignable, isMac⟩ := parseClient_eq_ok_iff.mp accepted
  have inside : client.prefixLength ≤ 32 := clientValid.maskable
  have notNak := ne_nak_of_grant answers
  obtain ⟨decoded, read, -, byType⟩ :=
    options_of_reply (Packet.wellFormed_of_parse parsed) clientValid valid replied
  refine ⟨⟨decoded, maskOf client.prefixLength, read, ?_, prefixMask_eq inside,
    testBit_maskOf client.prefixLength, fun ip => ip.toNat_network _, ?_, ?_⟩, ?_, ?_, ?_⟩
  · have option := (byType.settings notNak).1
    rw [subnetMask_eq clientValid] at option
    exact ⟨_, _, _, _, option, ofBe32_be32 _⟩
  · exact ⟨client.gateway, (advertises_iff valid byType notNak).mpr rfl⟩
  · intro gateway advertised
    rw [(advertises_iff valid byType notNak).mp advertised]
    exact (checkSubnet_eq_ok_iff clientValid.prefixLength_le).mp fields.subnet
  · intro otherRow other inRange otherAssignable otherMac neighbours
    exact (parseClient_iff_neighbours inRange otherAssignable otherMac).mpr neighbours
  · have nonzero : client.prefixLength ≠ 0 := by
      intro zero
      have positive := clientValid.prefixLength_pos
      rw [zero] at positive
      exact absurd positive (by decide)
    have masked := prefixMask_eq inside
    rw [prefixMask, if_neg nonzero, Outcome.bind_eq_ok] at masked
    obtain ⟨count, difference, shifted⟩ := masked
    exact ⟨count, difference, _, shifted⟩
  · exact ⟨_, subU32_prefixLength clientValid.maskable, _, checkedShl_eq clientValid⟩

/-- The first client of the shipped file is offered its mask and its gateway. -/
theorem gateway_reachable_shipped : ∃ packet sent decoded gateway,
    reply packet Clients.shippedClient Config.shipped (.new 192 0 2 10) = .ok (some sent) ∧
      readOptions (sent.bytes.drop 240) ∅ = .ok decoded ∧ Advertises decoded gateway ∧
      Neighbours Clients.shippedClient.ip gateway Clients.shippedClient.prefixLength := by
  have accepted : parseClient ["dc1", "host.name1", "example.internal", "uefi", "1500",
      "AA:BB:CC:DD:EE:FF", "1.2.3.4", "24", "1.2.3.1"] = .ok Clients.shippedClient := by
    decide +kernel
  obtain ⟨packet, sent, parsed, replied, isOffer⟩ := exists_shipped_reply (Packet.wire 1 [])
    (fun _ sent => sent.message == 2) (by decide +kernel)
  obtain ⟨⟨decoded, mask, read, -, -, -, -, ⟨gateway, advertised⟩, neighbours⟩, -⟩ :=
    gateway_reachable accepted Config.validate_shipped parsed replied (.inl (beq_iff_eq.mp isOffer))
  exact ⟨packet, sent, decoded, gateway, replied, read, advertised, neighbours gateway advertised⟩

end Macdack
