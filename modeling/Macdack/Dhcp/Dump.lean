import Macdack.MacText
import Macdack.Library.OptionWalk
import Macdack.Dhcp.Routes

/-!
# Packet dumps

`dhcp_packet_dump` writes a datagram as text for the debug log. It is called for every
datagram, also for one that does not parse, so it goes through the bytes by positions of
its own and checks every length itself. The values of the options are written by
`option_value`, and the suboptions of a relay by `relay_information`.

The option loop hands each field that it comes to, and the reason why it stops, to a
function that writes it, so that what the loop visits can be recorded as well. The two
loops go through the fields of a walk (`dumpLoop_eq`, `relayLoop_eq`).
-/

set_option autoImplicit false

namespace Macdack

/-! ## Names -/

/-- The names of `option_name`. -/
def optionNames : List (UInt8 × String) :=
  [(1, "Subnet-Mask"), (2, "Time-Zone"), (3, "Default-Gateway"), (6, "Domain-Name-Server"),
    (12, "Hostname"), (15, "Domain-Name"), (26, "MTU"), (28, "Broadcast-Address"), (42, "NTP"),
    (50, "Requested-IP"), (51, "Lease-Time"), (52, "Option-Overload"), (53, "DHCP-Message"),
    (54, "Server-ID"), (55, "Parameter-Request"), (57, "MSZ"), (58, "Renewal-Time"),
    (59, "Rebinding-Time"), (60, "Vendor-Class"), (61, "Client-ID"), (66, "TFTP-Server-Name"),
    (67, "Bootfile-Name"), (77, "User-Class"), (82, "Agent-Information"),
    (93, "Client-System-Architecture"), (101, "TZDB-Timezone"), (119, "Domain-Search"),
    (121, "Classless-Static-Route"), (249, "Classless-Static-Route-Microsoft"),
    (252, "Proxy-Autodiscovery")]

def optionName (code : UInt8) : String := (optionNames.lookup code).getD "Option"

def messageName (message : UInt8) : String :=
  match message with
  | 1 => "discover"
  | 2 => "offer"
  | 3 => "request"
  | 4 => "decline"
  | 5 => "ack"
  | 6 => "nak"
  | 7 => "release"
  | 8 => "inform"
  | _ => "unknown"

/-! ## Texts of bytes and numbers -/

/-- Two digits for each byte, with a separator between them. -/
def hexText (separator : String) (bytes : Bytes) : String :=
  separator.intercalate (bytes.map fun byte => String.ofList (formatOctet byte))

def formatXid (xid : UInt32) : String := "0x" ++ hexText "" (be32 xid)

/-- One byte of `printable`. -/
def printableByte (byte : UInt8) : String :=
  if byte = 0 then "^@"
  else if 0x20 ≤ byte ∧ byte ≤ 0x7e then String.singleton (Char.ofUInt8 byte)
  else "\\x" ++ String.ofList (formatOctet byte)

def printable (bytes : Bytes) : String := String.join (bytes.map printableByte)

/-- `as_chunks::<4>().0`, each chunk as an address. -/
def addresses : Bytes → List Ipv4Addr
  | a :: b :: c :: d :: rest => Ipv4Addr.new a b c d :: addresses rest
  | _ => []

def ipv4Values (value : Bytes) : Option String :=
  if value.isEmpty ∨ value.length % 4 ≠ 0 then none
  else some (", ".intercalate ((addresses value).map Ipv4Addr.toText))

/-- `u16::from_be_bytes` of a slice that has to have two bytes. -/
def u16FromBeBytes : Bytes → Outcome UInt16
  | [high, low] => .ok (ofBe16 high low)
  | _ => Outcome.panicked

/-- `u32::from_be_bytes` of a slice that has to have four bytes. -/
def u32FromBeBytes : Bytes → Outcome UInt32
  | [a, b, c, d] => .ok (ofBe32 a b c d)
  | _ => Outcome.panicked

/-- `str::to_ascii_uppercase`. -/
def toAsciiUppercase (text : String) : String := String.ofList (text.toList.map Char.toUpper)

/-! ## Values of options -/

/-- An entry of a parameter request list. -/
def parameterName (code : UInt8) : String :=
  if optionName code = "Option" then "Option " ++ toString code else optionName code

/-- A client identifier that is an Ethernet address. -/
def isEther (value : Bytes) : Outcome Bool :=
  if value.length = 7 then do
    let kind ← Buffer.index value 0
    return kind == 1
  else return false

def optionValue (code : UInt8) (value : Bytes) : Outcome String :=
  if code ∈ ([1, 3, 6, 28, 42, 50, 54] : List UInt8) then
    return (ipv4Values value).getD (printable value)
  else if code ∈ ([12, 15, 60, 66, 67, 77, 101, 252] : List UInt8) then
    return "\"" ++ printable value ++ "\""
  else if code = 2 ∧ value.length = 4 then do
    let offset ← u32FromBeBytes value
    return toString offset.toInt32
  else if code ∈ ([26, 57] : List UInt8) ∧ value.length = 2 then do
    let size ← u16FromBeBytes value
    return toString size
  else if code ∈ ([51, 58, 59] : List UInt8) ∧ value.length = 4 then do
    let seconds ← u32FromBeBytes value
    return toString seconds
  else if code = 53 ∧ value.length = 1 then do
    let message ← Buffer.index value 0
    return toAsciiUppercase (messageName message)
  else if code = 55 then
    return ", ".intercalate (value.map parameterName)
  else if code = 61 then do
    let ether ← isEther value
    if ether then do
      let ⟨address, _⟩ ← Buffer.suffixChecked value 1
      return "ether " ++ hexText ":" address
    else return printable value
  else if code = 93 ∧ value.length % 2 = 0 then
    return ", ".intercalate ((pairs value).map fun pair => toString (ofBe16 pair.1 pair.2))
  else if code = 121 ∨ code = 249 then do
    let routes ← classlessRoutes value
    return routes.getD (printable value)
  else return printable value

/-! ## Relay information -/

def suboptionName (code : UInt8) : String :=
  if code = 1 then "Circuit-ID" else if code = 2 then "Remote-ID" else "SubOption"

/-- The line of a suboption. -/
def suboptionLine (code : UInt8) (value : Bytes) : String :=
  "      " ++ suboptionName code ++ " SubOption " ++ toString code ++ ", length " ++
    toString value.length ++ ": " ++ printable value

/-- The loop of `relay_information`, with the lines it has pushed. -/
def relayLoop (value : Bytes) (position : ℕ) (lines : List String) : Outcome (List String) :=
  if position < value.length then
    if value.length < position + 2 then return lines ++ ["Malformed relay suboption header"]
    else do
      let code ← Buffer.index value position
      let length ← Buffer.index value (position + 1)
      if value.length < position + 2 + length.toNat then
        return lines ++ ["Malformed relay suboption " ++ toString code ++ ", length " ++
          toString length]
      else do
        let content ← Buffer.sliceChecked value (position + 2) (position + 2 + length.toNat)
        relayLoop value (position + 2 + length.toNat) (lines ++ [suboptionLine code content])
  else return lines
termination_by value.length - position

def relayInformation (value : Bytes) : Outcome (List String) := relayLoop value 0 []

/-! ## The option loop -/

/-- What the option loop comes to. -/
inductive DumpEvent where
  | option (code : UInt8) (value : Bytes)
  | missingLength (code : UInt8)
  | truncated (code : UInt8) (length : ℕ)
  deriving DecidableEq, Repr

/-- The option loop from a position on. Each event is handed to `visit`. -/
def dumpLoop {σ : Type} (visit : σ → DumpEvent → Outcome σ) (bytes : Bytes) (position : ℕ)
    (out : σ) : Outcome σ :=
  if position < bytes.length then do
    let code ← Buffer.index bytes position
    if code = 255 then return out
    else if code = 0 then dumpLoop visit bytes (position + 1) out
    else if bytes.length ≤ position + 1 then visit out (.missingLength code)
    else do
      let length ← Buffer.index bytes (position + 1)
      if bytes.length < position + 2 + length.toNat then visit out (.truncated code length.toNat)
      else do
        let value ← Buffer.sliceChecked bytes (position + 2) (position + 2 + length.toNat)
        let out ← visit out (.option code value)
        dumpLoop visit bytes (position + 2 + length.toNat) out
  else return out
termination_by bytes.length - position

/-- What the dump writes at an event. -/
def writeEvent (out : String) : DumpEvent → Outcome String
  | .missingLength code =>
      return out ++ "\n    Malformed Option " ++ toString code ++ ": missing length"
  | .truncated code length =>
      return out ++ "\n    Malformed Option " ++ toString code ++ ", length " ++ toString length
  | .option code value => do
      let text ← optionValue code value
      let out := out ++ "\n    " ++ optionName code ++ " Option " ++ toString code ++
        ", length " ++ toString value.length ++ ": " ++ text
      if code = 82 then do
        let lines ← relayInformation value
        return lines.foldl (fun out line => out ++ "\n" ++ line) out
      else return out

/-! ## The dump -/

/-- The four addresses of the fixed part. -/
def dumpAddresses : List (String × ℕ) :=
  [("Client-IP", 12), ("Your-IP", 16), ("Server-IP", 20), ("Gateway-IP", 24)]

def writeAddress (bytes : Bytes) (out : String) (field : String × ℕ) : Outcome String := do
  let ip ← readIp bytes field.2
  return if ip.isUnspecified then out else out ++ "\n  " ++ field.1 ++ " " ++ ip.toText

/-- The first line, with the header fields. -/
def dumpFirstLine (bytes : Bytes) : Outcome String := do
  let op ← Buffer.index bytes 0
  let field ← Buffer.sliceChecked bytes 4 8
  let xid ← u32FromBeBytes field
  let field ← Buffer.sliceChecked bytes 8 10
  let seconds ← u16FromBeBytes field
  let field ← Buffer.sliceChecked bytes 10 12
  let flags ← u16FromBeBytes field
  let hops ← Buffer.index bytes 3
  return "BOOTP/DHCP, " ++ (if op = 1 then "Request" else if op = 2 then "Reply" else "Unknown") ++
    ", length " ++ toString bytes.length ++ ", hops " ++ toString hops ++ ", xid " ++
      formatXid xid ++ ", secs " ++ toString seconds ++ ", Flags [" ++
        (if flags &&& 0x8000 ≠ 0 then "Broadcast" else "none") ++ "]"

/-- The hardware address. -/
def dumpHardware (bytes : Bytes) : Outcome String := do
  let length ← Buffer.index bytes 2
  let address ← Buffer.sliceChecked bytes 28 (28 + min length.toNat 16)
  return hexText ":" address

/-- The line of a header field that holds a text up to its first zero. -/
def writeField (bytes : Bytes) (low high : ℕ) (name out : String) : Outcome String := do
  let field ← Buffer.sliceChecked bytes low high
  let text := field.takeWhile (· ≠ 0)
  return if text.isEmpty then out else out ++ "\n  " ++ name ++ " \"" ++ printable text ++ "\""

/-- The magic cookie is there. -/
def hasCookie (bytes : Bytes) : Outcome Bool :=
  if bytes.length < 240 then return false
  else do
    let magic ← Buffer.sliceChecked bytes 236 240
    return magic == cookie

def dhcpPacketDump (bytes : Bytes) : Outcome String :=
  if bytes.length < 236 then
    return "Malformed BOOTP/DHCP payload, length " ++ toString bytes.length
  else do
    let mac ← dumpHardware bytes
    let out ← dumpFirstLine bytes
    let out ← dumpAddresses.foldlM (writeAddress bytes) out
    let out := out ++ "\n  Client-Ethernet-Address " ++ mac
    let out ← writeField bytes 44 108 "Server-Name" out
    let out ← writeField bytes 108 236 "Bootfile-Name" out
    let marked ← hasCookie bytes
    if marked then
      dumpLoop writeEvent bytes 240
        (out ++ "\n  Vendor-rfc1048 Extensions\n    Magic Cookie 0x63825363")
    else return out ++ "\n  No RFC1048 magic cookie"

/-! ## The loops go through the fields of a walk -/

/-- What the option loop comes to at the end of a walk. -/
def stopEvents : OptionStream.Stopped → List DumpEvent
  | .endMark => []
  | .exhausted => []
  | .missingLength code => [.missingLength code]
  | .truncated code length => [.truncated code length]

/-- What the option loop comes to in a walk. -/
def dumpEvents (walk : OptionStream.Walk) : List DumpEvent :=
  walk.1.map (fun field => .option field.1 field.2) ++ stopEvents walk.2

/-- A slice of a known length behind a position. -/
theorem slice_add (bytes : Bytes) (position length : ℕ) :
    Buffer.slice bytes position (position + length) = (bytes.drop position).take length := by
  rw [Buffer.slice, List.drop_take, Nat.add_sub_cancel_left]

/-- **The option loop** visits the fields of the walk through the bytes that are left,
and its stop. -/
theorem dumpLoop_eq {σ : Type} (visit : σ → DumpEvent → Outcome σ) (bytes : Bytes)
    (position : ℕ) (out : σ) : dumpLoop visit bytes position out =
      (dumpEvents (OptionStream.walk true (bytes.drop position))).foldlM visit out := by
  induction left : bytes.length - position using Nat.strong_induction_on
    generalizing position out with
  | h left ih =>
      rw [dumpLoop]
      by_cases inside : position < bytes.length
      · rw [if_pos inside, Buffer.index_eq inside, Outcome.bind_ok]
        by_cases mark : bytes[position] = 255
        · rw [if_pos mark, OptionStream.walk_drop_end inside mark]
          rfl
        rw [if_neg mark]
        by_cases pad : bytes[position] = 0
        · rw [if_pos pad, OptionStream.walk_drop_pad inside pad]
          exact ih _ (by omega) _ _ rfl
        rw [if_neg pad]
        have field : OptionStream.IsField true bytes[position] := fun _ => ⟨mark, pad⟩
        by_cases short : bytes.length ≤ position + 1
        · rw [if_pos short, OptionStream.walk_drop_missing inside field short]
          exact (bind_pure _).symm
        rw [if_neg short]
        have within : position + 1 < bytes.length := Nat.lt_of_not_le short
        rw [Buffer.index_eq within, Outcome.bind_ok]
        by_cases cut : bytes.length < position + 2 + bytes[position + 1].toNat
        · rw [if_pos cut, OptionStream.walk_drop_truncated within field cut]
          exact (bind_pure _).symm
        · rw [if_neg cut, Buffer.sliceChecked_eq (Nat.le_add_right _ _) (Nat.le_of_not_lt cut),
            Outcome.bind_ok, slice_add,
            OptionStream.walk_drop_field within field (Nat.le_of_not_lt cut)]
          change (visit out _ >>= _) = (visit out _ >>= _)
          congr 1
          funext out
          exact ih _ (by omega) _ _ rfl
      · rw [if_neg inside, OptionStream.walk_drop_exhausted true (Nat.le_of_not_lt inside)]
        rfl

/-- The lines of a walk through the suboptions of a relay. -/
def relayLines (walk : OptionStream.Walk) : List String :=
  walk.1.map (fun field => suboptionLine field.1 field.2) ++
    match walk.2 with
    | .endMark => []
    | .exhausted => []
    | .missingLength _ => ["Malformed relay suboption header"]
    | .truncated code length =>
        ["Malformed relay suboption " ++ toString code ++ ", length " ++ toString length]

/-- **The suboption loop** pushes the lines of the walk through the bytes that are left. -/
theorem relayLoop_eq (value : Bytes) (position : ℕ) (lines : List String) :
    relayLoop value position lines =
      .ok (lines ++ relayLines (OptionStream.walk false (value.drop position))) := by
  induction left : value.length - position using Nat.strong_induction_on
    generalizing position lines with
  | h left ih =>
      rw [relayLoop]
      by_cases inside : position < value.length
      · rw [if_pos inside]
        have field : OptionStream.IsField false value[position] := nofun
        by_cases short : value.length < position + 2
        · rw [if_pos short,
            OptionStream.walk_drop_missing inside field (Nat.le_of_lt_succ short)]
          rfl
        rw [if_neg short]
        have within : position + 1 < value.length := by omega
        rw [Buffer.index_eq inside, Outcome.bind_ok, Buffer.index_eq within, Outcome.bind_ok]
        by_cases cut : value.length < position + 2 + value[position + 1].toNat
        · rw [if_pos cut, OptionStream.walk_drop_truncated within field cut]
          rfl
        · rw [if_neg cut, Buffer.sliceChecked_eq (Nat.le_add_right _ _) (Nat.le_of_not_lt cut),
            Outcome.bind_ok, slice_add,
            OptionStream.walk_drop_field within field (Nat.le_of_not_lt cut),
            ih _ (by omega) _ _ rfl, List.append_assoc]
          rfl
      · rw [if_neg inside, OptionStream.walk_drop_exhausted false (Nat.le_of_not_lt inside)]
        exact congrArg Except.ok (List.append_nil lines).symm

theorem relayInformation_eq (value : Bytes) :
    relayInformation value = .ok (relayLines (OptionStream.walk false value)) :=
  relayLoop_eq value 0 []

end Macdack
