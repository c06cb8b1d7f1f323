import Macdack.Dhcp.Reply

/-!
# What a reply contains

The message that `answer` builds step by step is a fixed header of 240 bytes and
a table of options. This module says what they are: `fixedPart` is the header and
`contents` the table, both plain functions of the request, the client row and the
configuration. `answer_eq` says that `answer` returns exactly these, for a well
formed packet and a validated configuration.

The only step of `answer` that a valid configuration leaves unsafe is the subnet
mask, whose prefix length must not exceed 32 (`Client.Maskable`). A client of a
parsed table has such a prefix.
-/

set_option autoImplicit false

namespace Macdack

open OptionStream (Table)

/-! ## The table of options -/

/-- A value under a condition. -/
def onlyIf (condition : Bool) (value : Bytes) : Option Bytes :=
  if condition then some value else none

/-- The mask of the client's subnet. -/
def subnetMask (client : Client) : UInt32 :=
  (checkedShl 0xffffffff (32 - client.prefixLength.toUInt32)).getD 0

/-- A route on the wire: its prefix, the significant octets of its network and
the gateway. -/
def routeValue (gateway net : Ipv4Addr) (prefixLength : UInt8) : Bytes :=
  prefixLength :: Buffer.slice net.bytes 0 ((prefixLength.toNat + 7) / 8) ++ gateway.bytes

/-- The routes of a validated configuration on the wire. -/
def routesValue (gateway : Ipv4Addr) (routes : List String) : Bytes :=
  routes.flatMap fun route =>
    match parseRoute route with
    | .ok (net, prefixLength) => routeValue gateway net prefixLength
    | .error _ => []

/-- The reply grants or confirms an address. -/
def grants (packet : Packet) (message : UInt8) : Bool := message != 6 && packet.message != 8

/-- The boot file that the reply names. -/
def namedBootFile (packet : Packet) (client : Client) (config : Config) (message : UInt8) :
    Option String :=
  if message = 6 then none
  else selectBootFile client config packet.bootStage.1 packet.bootStage.2

/-- An offer or an acknowledgement is no refusal. -/
theorem ne_nak_of_grant {message : UInt8} (grant : message = 2 ∨ message = 5) : message ≠ 6 := by
  rcases grant with rfl | rfl <;> decide

/-- A refusal names no boot file. -/
theorem ne_nak_of_named {packet : Packet} {client : Client} {config : Config} {message : UInt8}
    {file : String} (named : namedBootFile packet client config message = some file) :
    message ≠ 6 := by
  rintro rfl
  cases named

def identityContents (packet : Packet) (server : Ipv4Addr) (message : UInt8) : Table :=
  [(53, some [message]), (54, some server.bytes), (61, packet.options[(61 : UInt8)]?)]

def leaseContents (config : Config) (granted : Bool) : Table :=
  let lease := config.dhcp.leaseSeconds
  [(51, onlyIf granted (be32 lease)),
    (58, onlyIf (granted && decide (8 ≤ lease)) (be32 (renewalTime lease))),
    (59, onlyIf (granted && decide (8 ≤ lease)) (be32 (rebindingTime lease)))]

def settingContents (packet : Packet) (client : Client) (config : Config) (answers : Bool) :
    Table :=
  [(1, onlyIf answers (be32 (subnetMask client))),
    (12, onlyIf answers (Text.asBytes client.hostname)),
    (15, onlyIf answers (Text.asBytes client.domain)),
    (26, onlyIf answers (be16 client.mtu)),
    (101, onlyIf (answers && packet.requests 101) (Text.asBytes config.clientOptions.timezone)),
    (6, onlyIf answers (addressBytes config.clientOptions.dns)),
    (42, onlyIf answers (addressBytes config.clientOptions.ntp))]

def routeContents (packet : Packet) (client : Client) (config : Config) (answers : Bool) :
    Table :=
  [(121, onlyIf (answers && packet.wantsClassless)
      (routesValue client.gateway config.clientOptions.classlessRoutes)),
    (3, onlyIf (answers && !packet.wantsClassless) client.gateway.bytes)]

def bootContents (config : Config) (bootFile : Option String) : Table :=
  [(66, bootFile.map fun _ => Text.asBytes config.boot.tftpServer.toText),
    (67, bootFile.map Text.asBytes)]

/-- **The options of a reply**, without the relay option. -/
def contents (packet : Packet) (client : Client) (config : Config) (server : Ipv4Addr)
    (message : UInt8) : Table :=
  identityContents packet server message ++
    (leaseContents config (grants packet message) ++
      (settingContents packet client config (message != 6) ++
        (routeContents packet client config (message != 6) ++
          bootContents config (namedBootFile packet client config message))))

/-! ## The fixed header -/

/-- What the header has from the request, and the cookie. -/
def echoWrites (packet : Packet) : List (ℕ × Bytes) :=
  [(0, [2, 1, 6]), (4, Buffer.slice packet.header 4 8), (10, Buffer.slice packet.header 10 16),
    (24, Buffer.slice packet.header 24 44), (236, cookie)]

/-- The changes of a NAK. -/
def refusalWrites (packet : Packet) : List (ℕ × Bytes) :=
  (12, [0, 0, 0, 0]) ::
    if packet.giaddr.isUnspecified then [] else [(10, [packet.header[10]?.getD 0 ||| 0x80])]

/-- The address of the client, in a reply that grants it. -/
def grantWrites (client : Client) (granted : Bool) : List (ℕ × Bytes) :=
  if granted then [(16, client.ip.bytes)] else []

/-- The server of the boot file, and its name when the field holds it. -/
def bootWrites (config : Config) (bootFile : Option String) : List (ℕ × Bytes) :=
  match bootFile with
  | none => []
  | some file =>
      (20, config.boot.tftpServer.bytes) ::
        if Text.byteLength file < 128 then [(108, Text.asBytes file)] else []

/-- The writes behind the echo. -/
def laterWrites (packet : Packet) (client : Client) (config : Config) (message : UInt8) :
    List (ℕ × Bytes) :=
  if message = 6 then refusalWrites packet
  else
    grantWrites client (grants packet message) ++
      bootWrites config (namedBootFile packet client config message)

/-- What is written into the header, in order. -/
def headerWrites (packet : Packet) (client : Client) (config : Config) (message : UInt8) :
    List (ℕ × Bytes) :=
  echoWrites packet ++ laterWrites packet client config message

/-- **The header of a reply.** -/
def fixedPart (packet : Packet) (client : Client) (config : Config) (message : UInt8) : Bytes :=
  Buffer.overwriteAll (List.replicate 240 0) (headerWrites packet client config message)

/-! ## Every write stays inside the header -/

theorem fits_echoWrites {packet : Packet} (length : packet.header.length = 236) :
    Buffer.Fits 240 (echoWrites packet) := by
  simp [Buffer.Fits, echoWrites, length, cookie]

theorem fits_refusalWrites (packet : Packet) : Buffer.Fits 240 (refusalWrites packet) := by
  rw [refusalWrites]
  split <;> simp [Buffer.Fits]

theorem fits_grantWrites (client : Client) (granted : Bool) :
    Buffer.Fits 240 (grantWrites client granted) := by
  rw [grantWrites]
  split <;> simp [Buffer.Fits]

theorem fits_bootWrites (config : Config) (bootFile : Option String) :
    Buffer.Fits 240 (bootWrites config bootFile) := by
  cases bootFile with
  | none => simp [Buffer.Fits, bootWrites]
  | some file =>
      rw [bootWrites]
      split
      · rename_i short
        rw [Text.byteLength] at short
        simp only [Buffer.Fits, List.forall_mem_cons, Ipv4Addr.length_bytes]
        exact ⟨by decide, by omega, nofun⟩
      · simp [Buffer.Fits]

theorem fits_headerWrites {packet : Packet} (length : packet.header.length = 236)
    (client : Client) (config : Config) (message : UInt8) :
    Buffer.Fits 240 (headerWrites packet client config message) := by
  rw [headerWrites, Buffer.Fits, List.forall_mem_append, laterWrites]
  refine ⟨fits_echoWrites length, ?_⟩
  split
  · exact fits_refusalWrites packet
  · rw [List.forall_mem_append]
    exact ⟨fits_grantWrites client _, fits_bootWrites config _⟩

theorem length_fixedPart {packet : Packet} (length : packet.header.length = 236)
    (client : Client) (config : Config) (message : UInt8) :
    (fixedPart packet client config message).length = 240 :=
  Buffer.length_overwriteAll List.length_replicate (fits_headerWrites length client config message)

/-! ## The steps of the header -/

/-- The header after the echo. -/
def echoedHeader (packet : Packet) : Bytes :=
  Buffer.overwriteAll (List.replicate 240 0) (echoWrites packet)

theorem length_echoedHeader {packet : Packet} (length : packet.header.length = 236) :
    (echoedHeader packet).length = 240 :=
  Buffer.length_overwriteAll List.length_replicate (fits_echoWrites length)

/-- A write inside the header returns and keeps its length. -/
theorem write_header {fixed source : Bytes} (room : fixed.length = 240) {low high : ℕ}
    (ordered : low ≤ high) (inside : high ≤ 240) (same : source.length = high - low) :
    Buffer.copyFromSlice fixed low high source = .ok (Buffer.overwrite fixed low source) ∧
      (Buffer.overwrite fixed low source).length = 240 :=
  ⟨Buffer.copyFromSlice_eq ordered (by omega) same, Buffer.length_overwrite_of room (by omega)⟩

/-- The same with options behind the header. -/
theorem write_message {fixed source : Bytes} (room : fixed.length = 240) (tail : Bytes)
    {low high : ℕ} (ordered : low ≤ high) (inside : high ≤ 240)
    (same : source.length = high - low) :
    Buffer.copyFromSlice (fixed ++ tail) low high source =
        .ok (Buffer.overwrite fixed low source ++ tail) ∧
      (Buffer.overwrite fixed low source).length = 240 :=
  ⟨Buffer.copyFromSlice_append_left ordered (by omega) same,
    Buffer.length_overwrite_of room (by omega)⟩

theorem replyHeader_eq {packet : Packet} (length : packet.header.length = 236) :
    replyHeader packet = .ok (echoedHeader packet) := by
  have source : ∀ low high : ℕ, high ≤ 236 →
      (Buffer.slice packet.header low high).length = high - low := fun _ _ inside =>
    Buffer.length_slice_of_le (by rw [length]; exact inside)
  have zeros : (List.replicate 240 (0 : UInt8)).length = 240 := List.length_replicate
  obtain ⟨opEq, op⟩ := write_header zeros (Nat.zero_le 3) (by decide)
    (show [2, 1, 6].length = 3 by rfl)
  obtain ⟨xidEq, xid⟩ := write_header op (show 4 ≤ 8 by decide) (by decide)
    (source 4 8 (by decide))
  obtain ⟨flagsEq, flags⟩ := write_header xid (show 10 ≤ 16 by decide) (by decide)
    (source 10 16 (by decide))
  obtain ⟨relayEq, relay⟩ := write_header flags (show 24 ≤ 44 by decide) (by decide)
    (source 24 44 (by decide))
  obtain ⟨cookieEq, -⟩ := write_header relay (show 236 ≤ 240 by decide) (by decide)
    (show cookie.length = 4 by rfl)
  rw [replyHeader, opEq, Outcome.bind_ok, Buffer.sliceChecked_eq (by decide) (by omega),
    Outcome.bind_ok, xidEq, Outcome.bind_ok, Buffer.sliceChecked_eq (by decide) (by omega),
    Outcome.bind_ok, flagsEq, Outcome.bind_ok, Buffer.sliceChecked_eq (by decide) (by omega),
    Outcome.bind_ok, relayEq, Outcome.bind_ok, cookieEq]
  rfl

/-- The flags of the request are echoed. -/
theorem getElem?_echoedHeader {packet : Packet} (length : packet.header.length = 236) :
    (echoedHeader packet)[10]? = packet.header[10]? := by
  have echoed : Buffer.slice (echoedHeader packet) 10 11 =
      Buffer.slice (Buffer.slice packet.header 10 16) 0 1 :=
    Buffer.slice_overwriteAll_of_mem [(0, [2, 1, 6]), (4, Buffer.slice packet.header 4 8)]
      (by rw [List.length_replicate]; exact fits_echoWrites length)
      (by simp [Buffer.Apart]) (Nat.le_refl _) (by simp [length])
  have first := congrArg (·[0]?) echoed
  simpa [Buffer.getElem?_slice] using first

/-- **The NAK branch** makes the changes of a NAK. -/
theorem refuse_eq {packet : Packet} {fixed : Bytes} (room : fixed.length = 240)
    (flags : fixed[10]? = packet.header[10]?) (tail : Bytes) :
    refuse packet (fixed ++ tail) =
      .ok (Buffer.overwriteAll fixed (refusalWrites packet) ++ tail) := by
  obtain ⟨clearedEq, cleared⟩ := write_message room tail (show 12 ≤ 16 by decide) (by decide)
    (show [(0 : UInt8), 0, 0, 0].length = 4 by rfl)
  rw [refuse, clearedEq, Outcome.bind_ok, refusalWrites]
  by_cases direct : packet.giaddr.isUnspecified = true
  · rw [if_pos direct, if_pos direct]
    rfl
  · have inside : 10 < (Buffer.overwrite fixed 12 [0, 0, 0, 0]).length := by omega
    have kept : (Buffer.overwrite fixed 12 [0, 0, 0, 0])[10]? = packet.header[10]? := by
      rw [Buffer.getElem?_overwrite (by rw [room]; decide), if_neg (by decide), flags]
    have read : Buffer.index (Buffer.overwrite fixed 12 [0, 0, 0, 0] ++ tail) 10 =
        .ok (packet.header[10]?.getD 0) := by
      rw [Buffer.index, List.getElem?_append_left inside, ← kept, List.getElem?_eq_getElem inside]
      rfl
    rw [if_neg direct, if_neg direct, read, Outcome.bind_ok]
    exact (write_message cleared tail (show 10 ≤ 11 by decide) (by decide) rfl).1

/-! ## The steps of the options -/

theorem identityOptions_eq (packet : Packet) (server : Ipv4Addr) (message : UInt8) (bytes : Bytes) :
    identityOptions packet server message bytes =
      bytes ++ (identityContents packet server message).encode := by
  rw [identityOptions, identityContents]
  cases packet.options[(61 : UInt8)]? with
  | none => simp [option]
  | some id => simp [option]

theorem leaseOptions_eq (client : Client) (config : Config) {fixed : Bytes}
    (room : fixed.length = 240) (tail : Bytes) :
    leaseOptions client config (fixed ++ tail) =
      .ok (Buffer.overwriteAll fixed (grantWrites client true) ++
        (tail ++ (leaseContents config true).encode)) := by
  rw [leaseOptions, (write_message room tail (show 16 ≤ 20 by decide) (by decide)
    (Ipv4Addr.length_bytes client.ip)).1]
  by_cases long : 8 ≤ config.dhcp.leaseSeconds
  · simp [leaseContents, onlyIf, grantWrites, Buffer.overwriteAll, option, long]
  · simp [leaseContents, onlyIf, grantWrites, Buffer.overwriteAll, option, long]

@[simp] theorem encode_leaseContents_false (config : Config) :
    (leaseContents config false).encode = [] := by
  simp [leaseContents, onlyIf]

theorem grantOptions_eq (packet : Packet) (client : Client) (config : Config) {message : UInt8}
    (answers : message ≠ 6) {fixed : Bytes} (room : fixed.length = 240) (tail : Bytes) :
    grantOptions packet client config (fixed ++ tail) =
      .ok (Buffer.overwriteAll fixed (grantWrites client (grants packet message)) ++
        (tail ++ (leaseContents config (grants packet message)).encode)) := by
  rw [grantOptions, grants, bne_iff_ne.mpr answers, Bool.true_and]
  by_cases inform : packet.message = 8
  · rw [if_neg (not_not.mpr inform), inform]
    simp [grantWrites, Buffer.overwriteAll]
  · rw [if_pos inform, leaseOptions_eq client config room, bne_iff_ne.mpr inform]

/-- The prefix length does not make the mask panic. -/
def Client.Maskable (client : Client) : Prop := client.prefixLength ≤ 32

theorem subU32_prefixLength {client : Client} (maskable : client.Maskable) :
    subU32 32 client.prefixLength.toUInt32 = .ok (32 - client.prefixLength.toUInt32) := by
  refine if_pos ?_
  rw [UInt32.le_iff_toNat_le, UInt8.toNat_toUInt32]
  exact UInt8.le_iff_toNat_le.mp maskable

theorem settingOptions_eq (packet : Packet) {client : Client} (config : Config)
    (maskable : client.Maskable) (bytes : Bytes) :
    settingOptions packet client config bytes =
      .ok (bytes ++ (settingContents packet client config true).encode) := by
  rw [settingOptions, subU32_prefixLength maskable]
  by_cases requested : packet.requests 101 = true
  · simp [settingContents, onlyIf, option, requested, subnetMask]
  · simp [settingContents, onlyIf, option, requested, subnetMask]

/-! ## Routes -/

/-- **Both parsers of a route agree**: what validation accepts is accepted inside
`reply`, with the same network and prefix. -/
theorem replyRoute_of_parseRoute {route : String} {net : Ipv4Addr} {prefixLength : UInt8}
    (parsed : parseRoute route = .ok (net, prefixLength)) :
    replyRoute route = .ok (net, prefixLength) ∧ 1 ≤ prefixLength ∧ prefixLength ≤ 32 := by
  simp only [parseRoute, Outcome.bind_eq_ok, Outcome.required_eq_ok, Outcome.context_eq_ok,
    Outcome.ensure_eq_ok, Outcome.pure_eq_ok, Except.ok.injEq, Prod.mk.injEq] at parsed
  obtain ⟨parts, split, network, networkEq, length, lengthEq, _, bounds, _, -, _, -, rfl, rfl⟩ :=
    parsed
  refine ⟨?_, of_decide_eq_true bounds⟩
  rw [replyRoute, split, Outcome.required_some, Outcome.bind_ok]
  change (Text.u8FromStr parts.2 >>= fun _ => _) = _
  rw [lengthEq, Outcome.bind_ok, bounds, Outcome.ensure_true, Outcome.bind_ok]
  change (Ipv4Addr.parse parts.1 >>= fun _ => _) = _
  rw [networkEq]
  rfl

/-- The significant octets of a network are octets of it. -/
theorem sliceChecked_network (net : Ipv4Addr) {prefixLength : UInt8} (bound : prefixLength ≤ 32) :
    Buffer.sliceChecked net.bytes 0 ((prefixLength.toNat + 7) / 8) =
      .ok (Buffer.slice net.bytes 0 ((prefixLength.toNat + 7) / 8)) := by
  have small : prefixLength.toNat ≤ 32 := UInt8.le_iff_toNat_le.mp bound
  exact Buffer.sliceChecked_eq (Nat.zero_le _) (by rw [Ipv4Addr.length_bytes]; omega)

/-- **The loop over validated routes.** -/
theorem replyRoutes_eq (gateway : Ipv4Addr) {routes : List String}
    (valid : ∀ route ∈ routes, ∃ parsed, parseRoute route = .ok parsed) (written : Bytes) :
    replyRoutes gateway written routes = .ok (written ++ routesValue gateway routes) := by
  induction routes generalizing written with
  | nil =>
      rw [replyRoutes, routesValue, List.flatMap_nil, List.append_nil]
  | cons route rest ih =>
      obtain ⟨⟨net, prefixLength⟩, parsed⟩ := valid route List.mem_cons_self
      obtain ⟨agreed, -, bound⟩ := replyRoute_of_parseRoute parsed
      rw [replyRoutes, agreed, Outcome.bind_ok]
      simp only [sliceChecked_network net bound, Outcome.bind_ok]
      rw [ih fun other member => valid other (List.mem_cons_of_mem _ member)]
      simp [routesValue, routeValue, parsed]

theorem routeOptions_eq (packet : Packet) (client : Client) {config : Config}
    (valid : config.Valid) (bytes : Bytes) :
    routeOptions packet client config bytes =
      .ok (bytes ++ (routeContents packet client config true).encode) := by
  rw [routeOptions, Packet.routeMode_eq, Outcome.bind_ok]
  by_cases classless : packet.wantsClassless = true
  · rw [if_pos classless, if_pos rfl, replyRoutes_eq _ valid.routes]
    simp [routeContents, onlyIf, option, classless]
  · rw [if_neg classless, if_neg (by decide)]
    simp [routeContents, onlyIf, option, classless]

/-! ## The boot file -/

theorem bootOptions_eq (packet : Packet) (client : Client) (config : Config) {fixed : Bytes}
    (room : fixed.length = 240) (tail : Bytes) :
    bootOptions packet client config (fixed ++ tail) =
      .ok (Buffer.overwriteAll fixed (bootWrites config
            (selectBootFile client config packet.bootStage.1 packet.bootStage.2)) ++
          (tail ++ (bootContents config
            (selectBootFile client config packet.bootStage.1 packet.bootStage.2)).encode),
        selectBootFile client config packet.bootStage.1 packet.bootStage.2) := by
  rw [bootOptions, Packet.stage_eq, Outcome.bind_ok]
  simp only
  cases selectBootFile client config packet.bootStage.1 packet.bootStage.2 with
  | none => simp [bootWrites, Buffer.overwriteAll, bootContents]
  | some file =>
      obtain ⟨serverEq, server⟩ := write_message room tail (show 20 ≤ 24 by decide) (by decide)
        (Ipv4Addr.length_bytes config.boot.tftpServer)
      simp only [serverEq, Outcome.bind_ok]
      by_cases short : Text.byteLength file < 128
      · have nameEq := (write_message server tail (Nat.le_add_right 108 (Text.byteLength file))
          (by omega) (Nat.add_sub_cancel_left _ _).symm).1
        rw [if_pos short, nameEq]
        simp [bootWrites, Buffer.overwriteAll, bootContents, option, short]
      · rw [if_neg short]
        simp [bootWrites, Buffer.overwriteAll, bootContents, option, short]

/-! ## The whole message -/

/-! The tables that a NAK leaves out. -/

@[simp] theorem encode_settingContents_false (packet : Packet) (client : Client)
    (config : Config) : (settingContents packet client config false).encode = [] := by
  simp [settingContents, onlyIf]

@[simp] theorem encode_routeContents_false (packet : Packet) (client : Client)
    (config : Config) : (routeContents packet client config false).encode = [] := by
  simp [routeContents, onlyIf]

@[simp] theorem encode_bootContents_none (config : Config) :
    (bootContents config none).encode = [] := by
  simp [bootContents]

/-- **What `answer` returns**: the fixed header and the encoded table. -/
theorem answer_eq {packet : Packet} (length : packet.header.length = 236) {client : Client}
    {config : Config} (valid : config.Valid) (server : Ipv4Addr) {message : UInt8}
    (maskable : message = 6 ∨ client.Maskable) :
    answer packet client config server message =
      .ok (fixedPart packet client config message ++
          (contents packet client config server message).encode,
        namedBootFile packet client config message) := by
  have echoed := length_echoedHeader length
  rw [answer, replyHeader_eq length, Outcome.bind_ok, identityOptions_eq]
  by_cases refused : message = 6
  · subst refused
    rw [if_pos rfl, refuse_eq echoed (getElem?_echoedHeader length), fixedPart, headerWrites,
      laterWrites, if_pos rfl, Buffer.overwriteAll_append, ← echoedHeader]
    simp [contents, grants, namedBootFile, Table.encode_append]
  · have answers : (message != 6) = true := bne_iff_ne.mpr refused
    have mask := maskable.resolve_left refused
    have granted := Buffer.length_overwriteAll echoed
      (fits_grantWrites client (grants packet message))
    rw [if_neg refused, grantOptions_eq packet client config refused echoed, Outcome.bind_ok,
      settingOptions_eq packet config mask, Outcome.bind_ok, routeOptions_eq packet client valid,
      Outcome.bind_ok, List.append_assoc, List.append_assoc,
      bootOptions_eq packet client config granted, fixedPart, headerWrites, laterWrites,
      if_neg refused, Buffer.overwriteAll_append, Buffer.overwriteAll_append, ← echoedHeader]
    simp [contents, namedBootFile, Table.encode_append, answers, refused]

/-- A prefix above 32 panics in the subtraction before the mask, whatever the
rest of the reply is. -/
theorem answer_of_not_maskable {packet : Packet} (length : packet.header.length = 236)
    {client : Client} (config : Config) (server : Ipv4Addr) {message : UInt8}
    (answers : message ≠ 6) (unmaskable : ¬client.Maskable) :
    answer packet client config server message = Outcome.panicked := by
  have overflow : subU32 32 client.prefixLength.toUInt32 = Outcome.panicked := by
    refine if_neg ?_
    rw [UInt32.le_iff_toNat_le, UInt8.toNat_toUInt32]
    exact fun below => unmaskable (UInt8.le_iff_toNat_le.mpr below)
  rw [answer, replyHeader_eq length, Outcome.bind_ok, identityOptions_eq, if_neg answers,
    grantOptions_eq packet client config answers (length_echoedHeader length), Outcome.bind_ok,
    settingOptions, overflow]
  rfl

/-! ## The message that is due -/

/-- The message that `dueMessage` returns. -/
def due (packet : Packet) (client : Client) (server : Ipv4Addr) : Option UInt8 :=
  if (packet.ipOption 54).any (fun ip => ip != server) ||
      (packet.bootStage.1.isFirmware && packet.bootStage.1.name != client.bootType) then none
  else replyMessage packet client

theorem dueMessage_eq (packet : Packet) (client : Client) (server : Ipv4Addr) :
    dueMessage packet client server = .ok (due packet client server) := by
  rw [dueMessage, Packet.bootModeMismatch_eq, due]
  cases (packet.ipOption 54).any fun ip => ip != server with
  | true => rfl
  | false => rfl

/-- A message is due when the request is for this server, from a stage that is
served, and has an answer. -/
theorem due_eq_some_iff {packet : Packet} {client : Client} {server : Ipv4Addr} {message : UInt8} :
    due packet client server = some message ↔
      (packet.ipOption 54).any (fun ip => ip != server) = false ∧
        (packet.bootStage.1.isFirmware && packet.bootStage.1.name != client.bootType) = false ∧
          replyMessage packet client = some message := by
  rw [due]
  cases (packet.ipOption 54).any fun ip => ip != server with
  | true => simp
  | false =>
      cases packet.bootStage.1.isFirmware && packet.bootStage.1.name != client.bootType with
      | true => simp
      | false => simp

/-- Which message answers which. -/
theorem due_cases {packet : Packet} {client : Client} {server : Ipv4Addr} {message : UInt8}
    (isDue : due packet client server = some message) :
    (packet.message = 1 ∧ message = 2) ∨
      (packet.message = 3 ∧ (message = 5 ∨ message = 6)) ∨
      (packet.message = 8 ∧ message = 5) := by
  rw [due] at isDue
  split at isDue
  · cases isDue
  rw [replyMessage] at isDue
  split at isDue
  · rename_i discover
    exact .inl ⟨discover, (Option.some.inj isDue).symm⟩
  split at isDue
  · rename_i request
    rw [requestMessage] at isDue
    split at isDue
    · cases isDue
    split at isDue
    · cases isDue
    · rw [Option.some.injEq] at isDue
      subst isDue
      right
      left
      split
      · exact ⟨request, .inl rfl⟩
      · exact ⟨request, .inr rfl⟩
  split at isDue
  · rename_i inform
    exact .inr (.inr ⟨inform.1, (Option.some.inj isDue).symm⟩)
  · cases isDue

/-- An OFFER grants a lease, and so does an ACK to a REQUEST. -/
theorem grants_of_leased {packet : Packet} {client : Client} {server : Ipv4Addr}
    {message : UInt8} (isDue : due packet client server = some message)
    (leased : message = 2 ∨ message = 5 ∧ packet.message = 3) :
    grants packet message = true := by
  rcases due_cases isDue with ⟨discover, rfl⟩ | ⟨request, rfl | rfl⟩ | ⟨inform, rfl⟩
  · rw [grants, discover]
    rfl
  · rw [grants, request]
    rfl
  · rcases leased with wrong | ⟨wrong, -⟩ <;> exact absurd wrong (by decide)
  · rcases leased with wrong | ⟨-, wrong⟩
    · exact absurd wrong (by decide)
    · rw [inform] at wrong
      exact absurd wrong (by decide)

/-! ## Closing the message -/

/-- The limit on the size of the reply. -/
def sizeLimit (packet : Packet) : ℕ :=
  match packet.options[(57 : UInt8)]? with
  | some [high, low] => max (ofBe16 high low).toNat 576
  | _ => 576

theorem maximumSize_eq {packet : Packet} (rules : Packet.Rules packet.options packet.message) :
    maximumSize packet = .ok (sizeLimit packet) := by
  rw [maximumSize, sizeLimit]
  cases found : packet.options[(57 : UInt8)]? with
  | none => rfl
  | some value =>
      obtain ⟨high, low, rfl⟩ := List.length_eq_two.mp (rules.maximum value found)
      rfl

theorem le_sizeLimit (packet : Packet) : 576 ≤ sizeLimit packet := by
  rw [sizeLimit]
  split
  · exact Nat.le_max_right _ _
  · exact Nat.le_refl _

/-- The relay data of a request that came through a relay. -/
def relayData (packet : Packet) : Option Bytes :=
  if packet.giaddr.isUnspecified then none else packet.options[(82 : UInt8)]?

/-- The relay option fits behind a message of the given size. -/
def relayFits (packet : Packet) (size : ℕ) (relay : Bytes) : Bool :=
  decide (size + (OptionStream.encode 82 relay).length < sizeLimit packet)

/-- The relay data that the reply carries. -/
def carriedRelay (packet : Packet) (size : ℕ) : Option Bytes :=
  (relayData packet).filter fun relay => relayFits packet size relay

/-- The relay option is left out. -/
def omitsRelay (packet : Packet) (size : ℕ) : Bool :=
  (relayData packet).any fun relay => !relayFits packet size relay

theorem relayOption_eq (packet : Packet) (bytes : Bytes) :
    relayOption packet (sizeLimit packet) bytes =
      (bytes ++ Table.encode [(82, carriedRelay packet bytes.length)],
        omitsRelay packet bytes.length) := by
  rw [relayOption, carriedRelay, omitsRelay, relayData]
  by_cases direct : packet.giaddr.isUnspecified = true
  · rw [if_pos direct, if_pos direct]
    simp
  · rw [if_neg direct, if_neg direct]
    cases packet.options[(82 : UInt8)]? with
    | none => simp
    | some relay =>
        have size := OptionStream.length_encode 82 relay
        by_cases fits : bytes.length + (OptionStream.encode 82 relay).length < sizeLimit packet
        · simp [relayFits, option, ← size, fits, Option.filter_some]
        · simp [relayFits, ← size, fits, Option.filter_some]

/-- The size of a message without the relay option: header, options and end
mark. -/
def bareSize (packet : Packet) (client : Client) (config : Config) (server : Ipv4Addr)
    (message : UInt8) : ℕ :=
  240 + (contents packet client config server message).encode.length + 1

/-- The relay data that the reply carries behind its other options. -/
def replyRelay (packet : Packet) (client : Client) (config : Config) (server : Ipv4Addr)
    (message : UInt8) : Option Bytes :=
  carriedRelay packet (240 + (contents packet client config server message).encode.length)

/-- **The options of a reply**, in the order in which they are written. -/
def replyOptions (packet : Packet) (client : Client) (config : Config) (server : Ipv4Addr)
    (message : UInt8) : Table :=
  contents packet client config server message ++
    [(82, replyRelay packet client config server message)]

/-- **The reply that is sent.** -/
def assembled (packet : Packet) (client : Client) (config : Config) (server : Ipv4Addr)
    (message : UInt8) : Reply where
  bytes := pad (fixedPart packet client config message ++
    (replyOptions packet client config server message).encode ++ [255])
  destination := destination packet message
  message := message
  bootFile := namedBootFile packet client config message
  relayOptionOmitted :=
    omitsRelay packet (240 + (contents packet client config server message).encode.length)

/-- What the error of an oversized reply says. -/
def oversizeText (packet : Packet) : String :=
  "response exceeds client maximum DHCP size (" ++ toString (sizeLimit packet) ++ ")"

/-- **Closing a message.** It fails exactly when the message is too large without
the relay option. -/
theorem finish_eq {packet : Packet} (rules : Packet.Rules packet.options packet.message)
    (message : UInt8) (bytes : Bytes) (bootFile : Option String) :
    finish packet message bytes bootFile =
      if sizeLimit packet < bytes.length + 1 then Outcome.fail (oversizeText packet)
      else
        .ok {
          bytes := pad (bytes ++ Table.encode [(82, carriedRelay packet bytes.length)] ++ [255])
          destination := destination packet message
          message := message
          bootFile := bootFile
          relayOptionOmitted := omitsRelay packet bytes.length } := by
  have total : (bytes ++ Table.encode [(82, carriedRelay packet bytes.length)] ++ [255]).length ≤
      sizeLimit packet ↔ ¬ sizeLimit packet < bytes.length + 1 := by
    simp only [List.length_append, List.length_singleton, Nat.not_lt]
    cases carried : carriedRelay packet bytes.length with
    | none => simp
    | some relay =>
        have fits : relayFits packet bytes.length relay = true := by
          rw [carriedRelay, Option.filter_eq_some_iff] at carried
          exact carried.2
        rw [relayFits, decide_eq_true_eq] at fits
        simp only [Table.encode_cons_some, Table.encode_nil, List.append_nil]
        omega
  rw [finish, maximumSize_eq rules, Outcome.bind_ok, relayOption_eq]
  simp only
  by_cases oversize : sizeLimit packet < bytes.length + 1
  · rw [if_pos oversize, decide_eq_false (total.not.mpr (not_not.mpr oversize))]
    rfl
  · rw [if_neg oversize, decide_eq_true (total.mpr oversize)]
    rfl

/-! ## The reply -/

/-- An address that can identify a server. -/
def usableServer (server : Ipv4Addr) : Prop :=
  server.isUnspecified = false ∧ server.isBroadcast = false ∧ server.isMulticast = false

theorem reply_eq_bind {server : Ipv4Addr} (usable : usableServer server) (packet : Packet)
    (client : Client) (config : Config) :
    reply packet client config server =
      match due packet client server with
      | none => .ok none
      | some message => do
          let (bytes, bootFile) ← answer packet client config server message
          let reply ← finish packet message bytes bootFile
          return some reply := by
  obtain ⟨unspecified, broadcast, multicast⟩ := usable
  rw [reply, unspecified, broadcast, multicast, dueMessage_eq]
  rfl

/-- A reply is only given with a usable server address. -/
theorem usable_of_reply {packet : Packet} {client : Client} {config : Config} {server : Ipv4Addr}
    {sent : Option Reply} (replied : reply packet client config server = .ok sent) :
    usableServer server := by
  rw [reply, Outcome.bind_eq_ok] at replied
  obtain ⟨_, checked, -⟩ := replied
  rw [Outcome.ensure_eq_ok] at checked
  simpa [usableServer, and_assoc] using checked

theorem reply_of_not_due {server : Ipv4Addr} (usable : usableServer server) {packet : Packet}
    {client : Client} (config : Config) (notDue : due packet client server = none) :
    reply packet client config server = .ok none := by
  rw [reply_eq_bind usable, notDue]

/-- **The reply that is due**: the assembled one, or an error when it is too
large without the relay option. -/
theorem reply_of_due {server : Ipv4Addr} (usable : usableServer server) {packet : Packet}
    (wellFormed : packet.WellFormed) {client : Client} {config : Config} (valid : config.Valid)
    {message : UInt8} (isDue : due packet client server = some message)
    (maskable : message = 6 ∨ client.Maskable) :
    reply packet client config server =
      if sizeLimit packet < bareSize packet client config server message then
        Outcome.fail (oversizeText packet)
      else .ok (some (assembled packet client config server message)) := by
  have size : (fixedPart packet client config message ++
      (contents packet client config server message).encode).length =
      240 + (contents packet client config server message).encode.length := by
    rw [List.length_append, length_fixedPart wellFormed.length_header]
  have bare : 240 + (contents packet client config server message).encode.length + 1 =
      bareSize packet client config server message := rfl
  rw [reply_eq_bind usable, isDue]
  simp only [answer_eq wellFormed.length_header valid server maskable, Outcome.bind_ok,
    finish_eq wellFormed.rules, size, bare]
  by_cases oversize : sizeLimit packet < bareSize packet client config server message
  · rw [if_pos oversize, if_pos oversize]
    rfl
  · rw [if_neg oversize, if_neg oversize, assembled, replyOptions, Table.encode_append, replyRelay,
      List.append_assoc (fixedPart packet client config message)]
    rfl

theorem reply_of_not_maskable {server : Ipv4Addr} (usable : usableServer server) {packet : Packet}
    (wellFormed : packet.WellFormed) {client : Client} (config : Config)
    {message : UInt8} (isDue : due packet client server = some message) (answers : message ≠ 6)
    (unmaskable : ¬client.Maskable) :
    reply packet client config server = Outcome.panicked := by
  rw [reply_eq_bind usable, isDue]
  simp only [answer_of_not_maskable wellFormed.length_header config server answers unmaskable]
  rfl

/-- **What a reply is**, whenever there is one. -/
theorem reply_eq_some_iff {server : Ipv4Addr} (usable : usableServer server) {packet : Packet}
    (wellFormed : packet.WellFormed) {client : Client} (maskable : client.Maskable)
    {config : Config} (valid : config.Valid) {sent : Reply} :
    reply packet client config server = .ok (some sent) ↔
      ∃ message, due packet client server = some message ∧
        bareSize packet client config server message ≤ sizeLimit packet ∧
        sent = assembled packet client config server message := by
  cases isDue : due packet client server with
  | none => simp [reply_of_not_due usable config isDue]
  | some message =>
      rw [reply_of_due usable wellFormed valid isDue (.inr maskable)]
      by_cases oversize : sizeLimit packet < bareSize packet client config server message
      · simp [if_pos oversize, Outcome.fail, Nat.not_le.mpr oversize]
      · simp [if_neg oversize, Nat.not_lt.mp oversize, eq_comm]

/-! ## What a reply depends on -/

/-- Two requests that ask for the same settings: they agree on the parameter
list, the maximum size, the classes, the client identifier and the architecture,
and on being an INFORM. -/
structure Packet.AsksAlike (first second : Packet) : Prop where
  inform : first.message = 8 ↔ second.message = 8
  options : ∀ code ∈ [55, 57, 60, 61, 77, 93],
    first.options[(code : UInt8)]? = second.options[(code : UInt8)]?

namespace Packet.AsksAlike

variable {first second : Packet} (alike : first.AsksAlike second)

include alike

theorem bootStage_eq : first.bootStage = second.bootStage :=
  bootStage_congr (alike.options 77 (by decide)) (alike.options 93 (by decide))
    (alike.options 60 (by decide))

theorem requests_eq (code : UInt8) : first.requests code = second.requests code := by
  rw [requests, requests, alike.options 55 (by decide)]

theorem grants_eq (message : UInt8) : grants first message = grants second message := by
  rw [grants, grants]
  congr 1
  exact Bool.eq_iff_iff.mpr (by simp only [bne_iff_ne, ne_eq, alike.inform])

theorem namedBootFile_eq (client : Client) (config : Config) (message : UInt8) :
    namedBootFile first client config message = namedBootFile second client config message := by
  rw [namedBootFile, namedBootFile, alike.bootStage_eq]

theorem sizeLimit_eq : sizeLimit first = sizeLimit second := by
  rw [sizeLimit, sizeLimit, alike.options 57 (by decide)]

theorem oversizeText_eq : oversizeText first = oversizeText second := by
  unfold oversizeText
  rw [alike.sizeLimit_eq]

/-- Requests that ask for the same settings are given the same settings. -/
theorem contents_eq (client : Client) (config : Config) (server : Ipv4Addr) (message : UInt8) :
    contents first client config server message = contents second client config server message := by
  rw [contents, contents, identityContents, identityContents, alike.options 61 (by decide),
    alike.grants_eq, settingContents, settingContents, alike.requests_eq, routeContents,
    routeContents, wantsClassless, wantsClassless, alike.bootStage_eq, alike.requests_eq,
    alike.namedBootFile_eq]

theorem bareSize_eq (client : Client) (config : Config) (server : Ipv4Addr) (message : UInt8) :
    bareSize first client config server message = bareSize second client config server message := by
  rw [bareSize, bareSize, alike.contents_eq]

/-- The message that is due depends besides on the message, the client address
and the options 50 and 54. -/
theorem due_eq (message : first.message = second.message) (ciaddr : first.ciaddr = second.ciaddr)
    (requested : first.options[(50 : UInt8)]? = second.options[(50 : UInt8)]?)
    (selected : first.options[(54 : UInt8)]? = second.options[(54 : UInt8)]?) (client : Client)
    (server : Ipv4Addr) : due first client server = due second client server := by
  rw [due, due, ipOption, ipOption, selected, alike.bootStage_eq, replyMessage, replyMessage,
    message, ciaddr, requestMessage, requestMessage, ciaddr, ipOption, ipOption, requested,
    Std.ExtTreeMap.contains_eq_isSome_getElem?, Std.ExtTreeMap.contains_eq_isSome_getElem?,
    Std.ExtTreeMap.contains_eq_isSome_getElem?, Std.ExtTreeMap.contains_eq_isSome_getElem?,
    requested, selected]

end Packet.AsksAlike

end Macdack
