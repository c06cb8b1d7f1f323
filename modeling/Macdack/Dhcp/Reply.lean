import Mathlib.Data.List.Basic
import Macdack.Dhcp.Stage

/-!
# The reply to a request

`reply` decides whether a reply is due and which message it is, fills the 240
bytes of the fixed header, appends the options, and closes the message: the relay
option when it fits, the end mark, the size check and the padding.

The functions of this module follow the source in the order of their steps. Every
slice, copy, index and subtraction is the checked one, which panics where the
source would. What the functions compute is the subject of `Macdack.Dhcp.Contents`.
-/

set_option autoImplicit false

namespace Macdack

structure SocketAddrV4 where
  ip : Ipv4Addr
  port : UInt16
  deriving DecidableEq, Repr

structure Reply where
  bytes : Bytes
  destination : SocketAddrV4
  message : UInt8
  bootFile : Option String
  relayOptionOmitted : Bool
  deriving DecidableEq, Repr

/-- Append an option, in as many fragments as its value needs. -/
def option (out : Bytes) (code : UInt8) (value : Bytes) : Bytes :=
  out ++ OptionStream.encode code value

/-! ## The message that is due -/

/-- The answer to a REQUEST. It is NAK when the client asks for an address that
is not its own. -/
def requestMessage (packet : Packet) (client : Client) : Option UInt8 :=
  let renewing := !packet.ciaddr.isUnspecified
  let requested := packet.options.contains 50
  let selected := packet.options.contains 54
  if (renewing && (requested || selected)) || (selected && !requested) then none
  else
    match (packet.ipOption 50).or (if renewing then some packet.ciaddr else none) with
    | none => none
    | some ip => some (if ip = client.ip then 5 else 6)

/-- The message of the reply, by the message of the request. -/
def replyMessage (packet : Packet) (client : Client) : Option UInt8 :=
  if packet.message = 1 then some 2
  else if packet.message = 3 then requestMessage packet client
  else if packet.message = 8 ∧ !packet.ciaddr.isUnspecified then some 5
  else none

/-- The message that is due: none to a request for another server, none to a
firmware of the other boot mode. -/
def dueMessage (packet : Packet) (client : Client) (server : Ipv4Addr) :
    Outcome (Option UInt8) :=
  if (packet.ipOption 54).any (fun ip => ip != server) then .ok none
  else do
    let mismatch ← packet.bootModeMismatch client
    return if mismatch then none else replyMessage packet client

/-! ## The fixed header and the options of every reply -/

def replyHeader (packet : Packet) : Outcome Bytes := do
  let bytes ← Buffer.copyFromSlice (List.replicate 240 0) 0 3 [2, 1, 6]
  let xid ← Buffer.sliceChecked packet.header 4 8
  let bytes ← Buffer.copyFromSlice bytes 4 8 xid
  let flags ← Buffer.sliceChecked packet.header 10 16
  let bytes ← Buffer.copyFromSlice bytes 10 16 flags
  let relay ← Buffer.sliceChecked packet.header 24 44
  let bytes ← Buffer.copyFromSlice bytes 24 44 relay
  Buffer.copyFromSlice bytes 236 240 cookie

def identityOptions (packet : Packet) (server : Ipv4Addr) (message : UInt8) (bytes : Bytes) :
    Bytes :=
  let bytes := option bytes 53 [message]
  let bytes := option bytes 54 server.bytes
  match packet.options[(61 : UInt8)]? with
  | some id => option bytes 61 id
  | none => bytes

/-! ## The options of a reply that is not a NAK -/

/-- Half of the lease. -/
def renewalTime (lease : UInt32) : UInt32 := lease / 2

/-- Seven eighths of the lease, computed in 64 bits. -/
def rebindingTime (lease : UInt32) : UInt32 := (lease.toUInt64 * 7 / 8).toUInt32

/-- The address and the times of a lease. -/
def leaseOptions (client : Client) (config : Config) (bytes : Bytes) : Outcome Bytes := do
  let bytes ← Buffer.copyFromSlice bytes 16 20 client.ip.bytes
  let bytes := option bytes 51 (be32 config.dhcp.leaseSeconds)
  return if 8 ≤ config.dhcp.leaseSeconds then
      let bytes := option bytes 58 (be32 (renewalTime config.dhcp.leaseSeconds))
      option bytes 59 (be32 (rebindingTime config.dhcp.leaseSeconds))
    else bytes

/-- An answer to INFORM has no lease. -/
def grantOptions (packet : Packet) (client : Client) (config : Config) (bytes : Bytes) :
    Outcome Bytes :=
  if packet.message ≠ 8 then leaseOptions client config bytes else .ok bytes

/-- The octets of several addresses. -/
def addressBytes (ips : List Ipv4Addr) : Bytes := ips.flatMap Ipv4Addr.bytes

/-- The settings of the client row and the configuration. -/
def settingOptions (packet : Packet) (client : Client) (config : Config) (bytes : Bytes) :
    Outcome Bytes := do
  let count ← subU32 32 client.prefixLength.toUInt32
  let mask := (checkedShl 0xffffffff count).getD 0
  let bytes := option bytes 1 (be32 mask)
  let bytes := option bytes 12 (Text.asBytes client.hostname)
  let bytes := option bytes 15 (Text.asBytes client.domain)
  let bytes := option bytes 26 (be16 client.mtu)
  let bytes := if packet.requests 101 then
      option bytes 101 (Text.asBytes config.clientOptions.timezone)
    else bytes
  let bytes := option bytes 6 (addressBytes config.clientOptions.dns)
  return option bytes 42 (addressBytes config.clientOptions.ntp)

/-- The parsing of a route inside `reply`, which repeats the one of
`parseRoute` with fewer checks and in another order. -/
def replyRoute (route : String) : Outcome (Ipv4Addr × UInt8) := do
  let (net, prefixText) ←
    Outcome.required "route requires prefix" (Text.splitOnce ['/'] route.toList)
  let prefixLength ← Text.u8FromStr prefixText
  Outcome.ensure (decide (1 ≤ prefixLength ∧ prefixLength ≤ 32)) "invalid route prefix"
  let net ← Ipv4Addr.parse net
  return (net, prefixLength)

/-- The loop over the routes: a prefix, its significant octets and the gateway
for each. -/
def replyRoutes (gateway : Ipv4Addr) : Bytes → List String → Outcome Bytes
  | routes, [] => .ok routes
  | routes, route :: rest => do
      let (net, prefixLength) ← replyRoute route
      let significant ← Buffer.sliceChecked net.bytes 0 ((prefixLength.toNat + 7) / 8)
      replyRoutes gateway (routes ++ prefixLength :: significant ++ gateway.bytes) rest

def routeOptions (packet : Packet) (client : Client) (config : Config) (bytes : Bytes) :
    Outcome Bytes := do
  let mode ← packet.routeMode
  if mode = .classless then do
    let routes ← replyRoutes client.gateway [] config.clientOptions.classlessRoutes
    return option bytes 121 routes
  else
    return option bytes 3 client.gateway.bytes

/-- The boot file for a stage and an architecture. -/
def selectBootFile (client : Client) (config : Config) (stage : Stage)
    (architecture : Architecture) : Option String :=
  if stage.isBoot then
    config.boot.architectures[architecture.name]?.bind fun files =>
      if stage = .ipxe then files.ipxeFile
      else if client.bootType = "bios" then files.biosFile
      else files.uefiFile
  else none

/-- The boot file and the server that has it. A name shorter than the file field
of the header is also copied there. -/
def bootOptions (packet : Packet) (client : Client) (config : Config) (bytes : Bytes) :
    Outcome (Bytes × Option String) := do
  let (stage, architecture) ← packet.stage
  match selectBootFile client config stage architecture with
  | none => return (bytes, none)
  | some file => do
      let bytes ← Buffer.copyFromSlice bytes 20 24 config.boot.tftpServer.bytes
      let bytes ←
        if Text.byteLength file < 128 then
          Buffer.copyFromSlice bytes 108 (108 + Text.byteLength file) (Text.asBytes file)
        else .ok bytes
      let bytes := option bytes 66 (Text.asBytes config.boot.tftpServer.toText)
      let bytes := option bytes 67 (Text.asBytes file)
      return (bytes, some file)

/-- The header changes of a NAK: no client address, and a relay has to
broadcast it. -/
def refuse (packet : Packet) (bytes : Bytes) : Outcome Bytes := do
  let bytes ← Buffer.copyFromSlice bytes 12 16 [0, 0, 0, 0]
  if packet.giaddr.isUnspecified then .ok bytes
  else do
    let flags ← Buffer.index bytes 10
    Buffer.copyFromSlice bytes 10 11 [flags ||| 0x80]

/-- The message up to the relay option, and the boot file it names. -/
def answer (packet : Packet) (client : Client) (config : Config) (server : Ipv4Addr)
    (message : UInt8) : Outcome (Bytes × Option String) := do
  let bytes ← replyHeader packet
  let bytes := identityOptions packet server message bytes
  if message = 6 then do
    let bytes ← refuse packet bytes
    return (bytes, none)
  else do
    let bytes ← grantOptions packet client config bytes
    let bytes ← settingOptions packet client config bytes
    let bytes ← routeOptions packet client config bytes
    bootOptions packet client config bytes

/-! ## Closing the message -/

/-- The size the client accepts, and at least 576. -/
def maximumSize (packet : Packet) : Outcome ℕ :=
  match packet.options[(57 : UInt8)]? with
  | some value => do
      let high ← Buffer.index value 0
      let low ← Buffer.index value 1
      return max (ofBe16 high low).toNat 576
  | none => .ok 576

/-- Append the relay option if the request came through a relay, has one and
leaves room for it. The flag says that it was left out. -/
def relayOption (packet : Packet) (maximum : ℕ) (bytes : Bytes) : Bytes × Bool :=
  if packet.giaddr.isUnspecified then (bytes, false)
  else
    match packet.options[(82 : UInt8)]? with
    | none => (bytes, false)
    | some relay =>
        let encodedSize := relay.length + (relay.length + 254) / 255 * 2
        if bytes.length + encodedSize < maximum then (option bytes 82 relay, false)
        else (bytes, true)

/-- Where the reply is sent. -/
def destination (packet : Packet) (message : UInt8) : SocketAddrV4 :=
  if !packet.giaddr.isUnspecified then ⟨packet.giaddr, 67⟩
  else if message = 6 then ⟨Ipv4Addr.broadcast, 68⟩
  else if !packet.ciaddr.isUnspecified then ⟨packet.ciaddr, 68⟩
  else ⟨Ipv4Addr.broadcast, 68⟩

/-- Pad a message with zeros to 300 bytes. -/
def pad (bytes : Bytes) : Bytes := bytes ++ List.replicate (300 - bytes.length) 0

def finish (packet : Packet) (message : UInt8) (bytes : Bytes) (bootFile : Option String) :
    Outcome Reply := do
  let maximum ← maximumSize packet
  let (bytes, relayOptionOmitted) := relayOption packet maximum bytes
  let bytes := bytes ++ [255]
  Outcome.ensure (decide (bytes.length ≤ maximum))
    ("response exceeds client maximum DHCP size (" ++ toString maximum ++ ")")
  return {
    bytes := pad bytes
    destination := destination packet message
    message, bootFile, relayOptionOmitted }

def reply (packet : Packet) (client : Client) (config : Config) (server : Ipv4Addr) :
    Outcome (Option Reply) := do
  Outcome.ensure (!server.isUnspecified && !server.isBroadcast && !server.isMulticast)
    "invalid server identifier"
  let due ← dueMessage packet client server
  match due with
  | none => return none
  | some message => do
      let (bytes, bootFile) ← answer packet client config server message
      let reply ← finish packet message bytes bootFile
      return some reply

/-- A computed check of the reply to a datagram of the first client of the shipped file
gives the packet and the reply. -/
theorem exists_shipped_reply (bytes : Bytes) (check : Packet → Reply → Bool)
    (passed : (Packet.parse bytes).toOption.any (fun packet =>
      (reply packet Clients.shippedClient Config.shipped (.new 192 0 2 10)).toOption.any
        fun outcome => outcome.any (check packet)) = true) :
    ∃ packet sent, Packet.parse bytes = .ok packet ∧
      reply packet Clients.shippedClient Config.shipped (.new 192 0 2 10) = .ok (some sent) ∧
      check packet sent = true := by
  obtain ⟨packet, parsed, passed⟩ := Outcome.exists_of_any passed
  obtain ⟨outcome, replied, passed⟩ := Outcome.exists_of_any passed
  obtain ⟨sent, rfl, passed⟩ := (Option.any_eq_true _ _).mp passed
  exact ⟨packet, sent, parsed, replied, passed⟩

end Macdack
