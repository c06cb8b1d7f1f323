import Macdack.Subnet
import Macdack.Dhcp.Decoded

/-!
# Routes

A reply carries either one default gateway or the classless routes of the
configuration. `classlessRoutes` is the program's own decoder of such routes, which
it uses to print packets. On the option of a reply it gives back the configured
networks and prefixes in order, each through the gateway of the client row
(`decode_routes`), however many there are and wherever the option is cut into
fragments.

`route_delivery` says for every reply which of the two options it has and what
the routes decode to.
-/

set_option autoImplicit false

namespace Macdack

/-! ## The decoder -/

/-- A route that the decoder reads. -/
structure ClasslessRoute where
  network : Ipv4Addr
  prefixLength : UInt8
  gateway : Ipv4Addr
  deriving DecidableEq, Repr

/-- The text of a route. -/
def ClasslessRoute.toText (route : ClasslessRoute) : String :=
  route.network.toText ++ "/" ++ toString route.prefixLength ++ ":" ++ route.gateway.toText

/-- The loop of `classless_routes`: a prefix, its significant octets and a gateway
for each route. A prefix above 32 or a route cut short gives none. -/
def classlessRoutesLoop : Bytes → Outcome (Option (List ClasslessRoute))
  | [] => .ok (some [])
  | prefixLength :: tail =>
      if 32 < prefixLength then .ok none
      else if tail.length < (prefixLength.toNat + 7) / 8 + 4 then .ok none
      else do
        let networkLen := (prefixLength.toNat + 7) / 8
        let significant ← Buffer.sliceChecked tail 0 networkLen
        let octets ← Buffer.copyFromSlice [0, 0, 0, 0] 0 networkLen significant
        let network ← readIp octets 0
        let octets ← Buffer.sliceChecked tail networkLen (networkLen + 4)
        let gateway ← readIp octets 0
        let ⟨rest, _⟩ ← Buffer.suffixChecked tail (networkLen + 4)
        let routes ← classlessRoutesLoop rest
        return routes.map ({ network, prefixLength, gateway } :: ·)
termination_by value => value.length
decreasing_by
  simp only [List.length_cons]
  omega

def classlessRoutes (value : Bytes) : Outcome (Option String) := do
  let routes ← classlessRoutesLoop value
  return routes.map fun routes => ", ".intercalate (routes.map ClasslessRoute.toText)

/-! ## Decoding what a reply carries -/

/-- Four bytes are read as the address they are. -/
theorem readIp_bytes (ip : Ipv4Addr) : readIp ip.bytes 0 = .ok ip := by
  rw [readIp_eq_ok_iff (by rw [Ipv4Addr.length_bytes])]
  rw [Buffer.slice, List.drop_zero, List.take_of_length_le (by rw [Ipv4Addr.length_bytes])]

/-- **One step of the decoder** on a route without host bits. -/
theorem classlessRoutesLoop_routeValue (gateway : Ipv4Addr) {net : Ipv4Addr} {prefixLength : UInt8}
    (bound : prefixLength ≤ 32) (zero : net.host prefixLength = 0) (rest : Bytes) :
    classlessRoutesLoop (routeValue gateway net prefixLength ++ rest) =
      classlessRoutesLoop rest >>= fun routes =>
        .ok (routes.map ({ network := net, prefixLength, gateway } :: ·)) := by
  have small : prefixLength.toNat ≤ 32 := UInt8.le_iff_toNat_le.mp bound
  have four := Ipv4Addr.length_bytes gateway
  have count : (prefixLength.toNat + 7) / 8 ≤ 4 := by omega
  have length : (Buffer.slice net.bytes 0 ((prefixLength.toNat + 7) / 8)).length =
      (prefixLength.toNat + 7) / 8 := by
    rw [Buffer.length_slice, Ipv4Addr.length_bytes]
    omega
  have network := overwrite_significant zero (show prefixLength.toNat ≤
    8 * ((prefixLength.toNat + 7) / 8) by omega) count
  rw [routeValue]
  generalize Buffer.slice net.bytes 0 ((prefixLength.toNat + 7) / 8) = significant at *
  rw [List.cons_append, List.cons_append, List.append_assoc, classlessRoutesLoop]
  generalize (prefixLength.toNat + 7) / 8 = networkLen at *
  have room : networkLen + 4 ≤ (significant ++ (gateway.bytes ++ rest)).length := by
    rw [List.length_append, List.length_append, length, four]
    omega
  have front : Buffer.slice (significant ++ (gateway.bytes ++ rest)) 0 networkLen =
      significant := by
    rw [Buffer.slice, List.drop_zero, List.take_left' length]
  have middle : Buffer.slice (significant ++ (gateway.bytes ++ rest)) networkLen
      (networkLen + 4) = gateway.bytes := by
    rw [Buffer.slice, List.take_append, List.drop_append, List.take_of_length_le (by omega),
      List.drop_eq_nil_of_le (by omega), length, Nat.add_sub_cancel_left, Nat.sub_self,
      List.drop_zero, List.take_left' four, List.nil_append]
  have back : (significant ++ (gateway.bytes ++ rest)).drop (networkLen + 4) = rest := by
    rw [← List.append_assoc]
    exact List.drop_left' (by rw [List.length_append, length, four])
  have written : Buffer.copyFromSlice [0, 0, 0, 0] 0 networkLen significant = .ok net.bytes := by
    rw [Buffer.copyFromSlice_eq (Nat.zero_le _) count (by rw [length, Nat.sub_zero]), network]
  rw [if_neg (UInt8.not_lt.mpr bound), if_neg (Nat.not_lt.mpr room)]
  simp only [Buffer.sliceChecked_eq (Nat.zero_le networkLen)
      (Nat.le_trans (Nat.le_add_right networkLen 4) room), front, written,
    Buffer.sliceChecked_eq (Nat.le_add_right networkLen 4) room, middle,
    Buffer.suffixChecked_eq room, back, Outcome.bind_ok, readIp_bytes]
  rfl

/-- **The routes of a configuration** decode to their networks and prefixes in
order, each through the gateway. -/
theorem decode_routes (gateway : Ipv4Addr) {routes : List String}
    {pairs : List (Ipv4Addr × UInt8)}
    (parsed : List.Forall₂ (fun route pair => parseRoute route = .ok pair) routes pairs) :
    classlessRoutesLoop (routesValue gateway routes) = .ok (some (pairs.map fun pair =>
      { network := pair.1, prefixLength := pair.2, gateway })) := by
  induction parsed with
  | nil =>
      rw [routesValue, List.flatMap_nil, classlessRoutesLoop]
      rfl
  | @cons route pair routes pairs isPair _ ih =>
      obtain ⟨net, prefixLength⟩ := pair
      obtain ⟨-, bound, zero⟩ := host_of_parseRoute isPair
      have split : routesValue gateway (route :: routes) =
          routeValue gateway net prefixLength ++ routesValue gateway routes := by
        rw [routesValue, List.flatMap_cons, isPair]
        rfl
      rw [split, classlessRoutesLoop_routeValue gateway bound zero, ih]
      rfl

/-- The pairs of the routes of a validated configuration. -/
theorem exists_pairs {routes : List String}
    (valid : ∀ route ∈ routes, ∃ parsed, parseRoute route = .ok parsed) :
    ∃ pairs, List.Forall₂ (fun route pair => parseRoute route = .ok pair) routes pairs := by
  induction routes with
  | nil => exact ⟨[], .nil⟩
  | cons route routes ih =>
      obtain ⟨pair, parsed⟩ := valid route List.mem_cons_self
      obtain ⟨pairs, rest⟩ := ih fun other member => valid other (List.mem_cons_of_mem _ member)
      exact ⟨pair :: pairs, .cons parsed rest⟩

/-- None of them is a default route. -/
theorem prefix_ne_zero_of_pairs {routes : List String} {pairs : List (Ipv4Addr × UInt8)}
    (parsed : List.Forall₂ (fun route pair => parseRoute route = .ok pair) routes pairs) :
    ∀ pair ∈ pairs, pair.2 ≠ 0 := by
  induction parsed with
  | nil => exact fun _ member => absurd member List.not_mem_nil
  | @cons route pair routes pairs isPair _ ih =>
      rw [List.forall_mem_cons]
      refine ⟨?_, ih⟩
      intro zero
      obtain ⟨positive, -⟩ := host_of_parseRoute isPair
      rw [zero] at positive
      exact absurd positive (by decide)

/-! ## Which option a reply has -/

/-- The request is not from a firmware, and its parameter list contains the
classless routes. -/
def Packet.AsksClassless (packet : Packet) : Prop :=
  (∃ stage architecture, packet.stage = .ok (stage, architecture) ∧ stage ≠ .bios ∧
    stage ≠ .uefi) ∧
  ∃ codes, packet.options[(55 : UInt8)]? = some codes ∧ 121 ∈ codes

theorem wantsClassless_iff {packet : Packet} :
    packet.wantsClassless = true ↔ packet.AsksClassless := by
  rw [Packet.wantsClassless, Bool.and_eq_true, Packet.requests, Option.any_eq_true,
    Packet.AsksClassless, Packet.stage_eq, Bool.not_eq_true', Stage.isFirmware,
    Bool.or_eq_false_iff, decide_eq_false_iff_not, decide_eq_false_iff_not]
  constructor
  · rintro ⟨⟨notBios, notUefi⟩, codes, found, contained⟩
    exact ⟨⟨_, _, rfl, notBios, notUefi⟩, codes, found, List.contains_iff_mem.mp contained⟩
  · rintro ⟨⟨stage, architecture, same, notBios, notUefi⟩, codes, found, member⟩
    rw [Except.ok.inj same]
    exact ⟨⟨notBios, notUefi⟩, codes, found, List.contains_iff_mem.mpr member⟩

/-- **Routes are delivered exactly once.** Every OFFER and every ACK has the
classless routes and no default gateway when the request asks for them after it
has booted, and otherwise the default gateway of the client row and no classless
routes. The program's decoder reads the classless routes completely and gives the
configured networks and prefixes in order, through that gateway, none of them a
default route. -/
theorem route_delivery {csv : CsvReader} {text : String} {clients : Clients}
    (table : Clients.parse csv text = .ok clients) {mac : Mac} {client : Client}
    (found : clients.records[mac]? = some client) {envFilter : String → Outcome PUnit}
    {config : Config} (validated : config.validate envFilter = .ok ⟨⟩) {server : Ipv4Addr}
    {bytes : Bytes} {packet : Packet} (parsed : Packet.parse bytes = .ok packet) {sent : Reply}
    (replied : reply packet client config server = .ok (some sent))
    (answers : sent.message = 2 ∨ sent.message = 5) :
    ∃ decoded, readOptions (sent.bytes.drop 240) ∅ = .ok decoded ∧
      ((∃ value, decoded[(121 : UInt8)]? = some value) ∧ decoded[(3 : UInt8)]? = none ↔
        packet.AsksClassless) ∧
      (¬packet.AsksClassless → decoded[(3 : UInt8)]? = some client.gateway.bytes ∧
        decoded[(121 : UInt8)]? = none) ∧
      ∀ value, decoded[(121 : UInt8)]? = some value →
        ∃ pairs, List.Forall₂ (fun route pair => parseRoute route = .ok pair)
            config.clientOptions.classlessRoutes pairs ∧
          classlessRoutesLoop value = .ok (some (pairs.map fun pair =>
            { network := pair.1, prefixLength := pair.2, gateway := client.gateway })) ∧
          (∃ printed, classlessRoutes value = .ok (some printed)) ∧
          ∀ pair ∈ pairs, pair.2 ≠ 0 := by
  have valid := Config.valid_of_validate validated
  have notNak := ne_nak_of_grant answers
  obtain ⟨decoded, read, -, byType⟩ := options_of_reply (Packet.wellFormed_of_parse parsed)
    (Clients.valid_of_parse table found) valid replied
  obtain ⟨classless, default⟩ := byType.routes notNak
  refine ⟨decoded, read, ?_, ?_, ?_⟩
  · rw [classless, default, ← wantsClassless_iff]
    cases packet.wantsClassless with
    | true => simp
    | false => simp
  · intro asksNot
    have left : packet.wantsClassless = false :=
      Bool.eq_false_iff.mpr (wantsClassless_iff.not.mpr asksNot)
    rw [classless, default, left]
    exact ⟨rfl, rfl⟩
  · intro value isValue
    rw [classless] at isValue
    split at isValue
    · obtain ⟨pairs, isPairs⟩ := exists_pairs valid.routes
      have decodes := decode_routes client.gateway isPairs
      rw [Option.some.inj isValue] at decodes
      refine ⟨pairs, isPairs, decodes, ?_, ?_⟩
      · rw [classlessRoutes, decodes]
        exact ⟨_, rfl⟩
      · exact prefix_ne_zero_of_pairs isPairs
    · cases isValue

/-- A DISCOVER of the first client of the shipped file that asks for classless
routes is offered the two routes of the shipped configuration. -/
theorem route_delivery_shipped : ∃ packet sent decoded value,
    reply packet Clients.shippedClient Config.shipped (.new 192 0 2 10) = .ok (some sent) ∧
      readOptions (sent.bytes.drop 240) ∅ = .ok decoded ∧
      decoded[(121 : UInt8)]? = some value ∧
      ∃ routes, classlessRoutesLoop value = .ok (some routes) := by
  obtain ⟨packet, sent, parsed, replied, offered⟩ :=
    exists_shipped_reply (Packet.wire 1 [(55, [1, 121])])
      (fun packet sent => packet.wantsClassless && sent.message == 2) (by decide +kernel)
  obtain ⟨asks, isOffer⟩ := Bool.and_eq_true_iff.mp offered
  obtain ⟨clients, table, found⟩ := Clients.exists_parse_shipped
  obtain ⟨decoded, read, exclusive, -, decodes⟩ := route_delivery table found
    Config.validate_shipped parsed replied (.inl (beq_iff_eq.mp isOffer))
  obtain ⟨⟨value, isValue⟩, -⟩ := exclusive.mpr (wantsClassless_iff.mp asks)
  obtain ⟨pairs, -, routes, -⟩ := decodes value isValue
  exact ⟨packet, sent, decoded, value, replied, read, isValue, _, routes⟩

end Macdack
