import Mathlib.Data.List.Basic
import Macdack.Address
import Macdack.Library.Buffer
import Macdack.Library.Fragments
import Macdack.Library.OptionStream

/-!
# Parsing a request

`readOptions` reads one option area into a map, appending to the value of a code
that occurs again. `Packet.parse` checks the fixed header, reads the options
field and the two header fields that an overload option announces, in the order
options, file, sname, and checks the options whose length is fixed.

`readOptions` scans the area and collects its fragments (`readOptions_eq`), so
the general facts about option streams and fragments apply to it. What a parsed
packet satisfies is `Packet.WellFormed` (`Packet.wellFormed_of_parse`), and
`Packet.parse_eq_ok_iff` says exactly which datagrams are accepted.
-/

set_option autoImplicit false

namespace Macdack

/-- The decoded options: for each code its value, put together. -/
abbrev Options := Std.ExtTreeMap UInt8 Bytes

/-! ## Option areas -/

def readOptions : Bytes → Options → Outcome Options
  | [], options => .ok options
  | code :: rest, options =>
      if code = 255 then .ok options
      else if code = 0 then readOptions rest options
      else
        match rest with
        | [] => Outcome.fail "missing option length"
        | len :: tail =>
            if tail.length < len.toNat then
              Outcome.fail ("truncated option " ++ toString code)
            else
              readOptions (tail.drop len.toNat)
                (Fragments.append options code (tail.take len.toNat))
termination_by bytes => bytes.length
decreasing_by
  · simp
  · simp only [List.length_drop, List.length_cons]
    omega

/-- The error for a byte string that is not an area. -/
def malformedText : OptionStream.Malformed → String
  | .missingLength => "missing option length"
  | .truncated code => "truncated option " ++ toString code

/-- Collect what was scanned, or fail with the text of the reason. -/
def absorbScanned (options : Options) :
    Except OptionStream.Malformed (List (UInt8 × Bytes)) → Outcome Options
  | .ok fragments => .ok (Fragments.absorb options fragments)
  | .error malformed => Outcome.fail (malformedText malformed)

theorem absorbScanned_addFragment (options : Options) (code : UInt8) (value : Bytes)
    (scanned : Except OptionStream.Malformed (List (UInt8 × Bytes))) :
    absorbScanned options (OptionStream.addFragment (code, value) scanned) =
      absorbScanned (Fragments.append options code value) scanned := by
  cases scanned with
  | ok fragments => rfl
  | error malformed => rfl

/-- **Reading an area is scanning it and collecting its fragments.** -/
theorem readOptions_eq (bytes : Bytes) (options : Options) :
    readOptions bytes options = absorbScanned options (OptionStream.scan bytes) := by
  induction bytes, options using readOptions.induct with
  | case1 options =>
      rw [OptionStream.scan_nil, readOptions]
      rfl
  | case2 rest options =>
      rw [OptionStream.scan_end, readOptions.eq_def]
      rfl
  | case3 rest options _ ih =>
      rw [OptionStream.scan_pad, ← ih, readOptions.eq_def]
      rfl
  | case4 code options nonEnd nonPad =>
      rw [OptionStream.scan_missing nonPad nonEnd, readOptions.eq_def]
      exact (if_neg nonEnd).trans (if_neg nonPad)
  | case5 code options nonEnd nonPad len tail short =>
      rw [OptionStream.scan_code nonPad nonEnd, if_pos short, readOptions.eq_def]
      exact (if_neg nonEnd).trans ((if_neg nonPad).trans (if_pos short))
  | case6 code options nonEnd nonPad len tail long ih =>
      rw [OptionStream.scan_code nonPad nonEnd, if_neg long, absorbScanned_addFragment, ← ih,
        readOptions.eq_def]
      exact (if_neg nonEnd).trans ((if_neg nonPad).trans (if_neg long))

/-- Reading a well-formed area collects its fragments. -/
theorem readOptions_render (area : OptionStream.Area) (options : Options) :
    readOptions area.render options = .ok (Fragments.absorb options area.fragments) := by
  rw [readOptions_eq, OptionStream.scan_render]
  rfl

/-- What is read without an error is a well-formed area. -/
theorem readOptions_eq_ok_iff {bytes : Bytes} {options result : Options} :
    readOptions bytes options = .ok result ↔
      ∃ area : OptionStream.Area, area.render = bytes ∧
        result = Fragments.absorb options area.fragments := by
  constructor
  · intro accepted
    rw [readOptions_eq] at accepted
    cases scanned : OptionStream.scan bytes with
    | error malformed =>
        rw [scanned] at accepted
        cases accepted
    | ok fragments =>
        rw [scanned] at accepted
        obtain ⟨area, rendered, read⟩ := OptionStream.exists_area_of_scan bytes scanned
        refine ⟨area, rendered, ?_⟩
        rw [read]
        exact (Except.ok.inj accepted).symm
  · rintro ⟨area, rfl, rfl⟩
    exact readOptions_render area options

/-! ## The packet -/

structure Packet where
  header : Bytes
  options : Options
  mac : Mac
  message : UInt8
  ciaddr : Ipv4Addr
  giaddr : Ipv4Addr

/-- `TryFrom<&[u8]> for [u8; N]`. -/
def arrayOf (n : ℕ) (bytes : Bytes) : Outcome (Vector UInt8 n) :=
  if length : bytes.length = n then .ok ⟨bytes.toArray, by simpa using length⟩
  else Outcome.fail "could not convert slice to array"

/-- The address at four consecutive bytes. -/
def readIp (bytes : Bytes) (offset : ℕ) : Outcome Ipv4Addr := do
  let a ← Buffer.index bytes offset
  let b ← Buffer.index bytes (offset + 1)
  let c ← Buffer.index bytes (offset + 2)
  let d ← Buffer.index bytes (offset + 3)
  return Ipv4Addr.new a b c d

/-- The magic cookie. -/
def cookie : Bytes := [99, 130, 83, 99]

/-- Read the header fields that an overload option announces: the file field for
its low bit, then the sname field for its second bit. -/
def readOverload (bytes : Bytes) (options : Options) : Outcome Options :=
  match options[(52 : UInt8)]? with
  | none => .ok options
  | some [overload] => do
      Outcome.ensure (decide (1 ≤ overload ∧ overload ≤ 3)) "invalid option overload"
      let file ← Buffer.sliceChecked bytes 108 236
      let options ← if overload &&& 1 ≠ 0 then readOptions file options else .ok options
      let sname ← Buffer.sliceChecked bytes 44 108
      if overload &&& 2 ≠ 0 then readOptions sname options else .ok options
  | some _ => Outcome.fail "invalid option overload"

/-- The options that have one length only, with it. -/
def fixedLengths : List (UInt8 × ℕ) := [(53, 1), (50, 4), (54, 4), (57, 2)]

/-- The length check of one option. -/
def checkLength (options : Options) (rule : UInt8 × ℕ) : Outcome PUnit :=
  match options[rule.1]? with
  | some value =>
      Outcome.ensure (value.length == rule.2) ("invalid option " ++ toString rule.1 ++ " length")
  | none => .ok ⟨⟩

/-- The check of the architecture list. -/
def checkArchitectures (options : Options) : Outcome PUnit :=
  match options[(93 : UInt8)]? with
  | some arch => Outcome.ensure (!arch.isEmpty && arch.length % 2 == 0) "invalid architecture list"
  | none => .ok ⟨⟩

/-- The messages a client sends to a server. -/
def clientMessages : List UInt8 := [1, 3, 4, 7, 8]

namespace Packet

def parse (bytes : Bytes) : Outcome Packet := do
  Outcome.ensure (decide (240 ≤ bytes.length)) "short DHCP packet"
  let hardware ← Buffer.sliceChecked bytes 0 3
  Outcome.ensure (hardware == [1, 1, 6]) "expected Ethernet BOOTREQUEST"
  let magic ← Buffer.sliceChecked bytes 236 240
  Outcome.ensure (magic == cookie) "invalid DHCP cookie"
  let field ← Buffer.suffixChecked bytes 240
  let options ← readOptions field ∅
  let options ← readOverload bytes options
  Outcome.each (checkLength options) fixedLengths
  checkArchitectures options
  let message ← Outcome.required "missing message type"
    (options[(53 : UInt8)]?.bind List.head?)
  Outcome.ensure (clientMessages.contains message) "unsupported client message type"
  let header ← Buffer.sliceChecked bytes 0 236
  let chaddr ← Buffer.sliceChecked bytes 28 34
  let mac ← arrayOf 6 chaddr
  let ciaddr ← readIp bytes 12
  let giaddr ← readIp bytes 24
  return { header, options, mac, message, ciaddr, giaddr }

def ipOption (packet : Packet) (code : UInt8) : Option Ipv4Addr :=
  packet.options[code]?.bind Ipv4Addr.ofBytes?

/-- `Packet::xid`: the transaction identifier of the request. -/
def xid (packet : Packet) : Outcome UInt32 := do
  let field ← Buffer.sliceChecked packet.header 4 8
  match field with
  | [a, b, c, d] => return ofBe32 a b c d
  | _ => Outcome.panicked

/-! ## What a parsed packet satisfies -/

/-- The rules that the values of a parsed packet's options obey. -/
structure Rules (options : Options) (message : UInt8) : Prop where
  messageType : options[(53 : UInt8)]? = some [message]
  supported : message ∈ clientMessages
  requested : ∀ value, options[(50 : UInt8)]? = some value → value.length = 4
  server : ∀ value, options[(54 : UInt8)]? = some value → value.length = 4
  maximum : ∀ value, options[(57 : UInt8)]? = some value → value.length = 2
  architectures : ∀ value, options[(93 : UInt8)]? = some value →
    value ≠ [] ∧ value.length % 2 = 0

/-- The fields of a packet agree with its header, and its options obey the
rules. -/
structure WellFormed (packet : Packet) : Prop where
  length_header : packet.header.length = 236
  mac : packet.mac.toList = Buffer.slice packet.header 28 34
  ciaddr : packet.ciaddr.bytes = Buffer.slice packet.header 12 16
  giaddr : packet.giaddr.bytes = Buffer.slice packet.header 24 28
  rules : Rules packet.options packet.message

end Packet

theorem arrayOf_eq_ok_iff {n : ℕ} {bytes : Bytes} {array : Vector UInt8 n} :
    arrayOf n bytes = .ok array ↔ array.toList = bytes := by
  rw [arrayOf]
  constructor
  · intro accepted
    split at accepted
    · cases accepted
      simp
    · cases accepted
  · rintro rfl
    rw [dif_pos (by simp)]
    congr 1

/-- Four bytes inside the buffer are read as the address they are. -/
theorem readIp_eq_ok_iff {bytes : Bytes} {offset : ℕ} (inside : offset + 4 ≤ bytes.length)
    {ip : Ipv4Addr} :
    readIp bytes offset = .ok ip ↔ ip.bytes = Buffer.slice bytes offset (offset + 4) := by
  have read : readIp bytes offset = .ok (Ipv4Addr.new bytes[offset] bytes[offset + 1]
      bytes[offset + 2] bytes[offset + 3]) := by
    simp only [readIp, Buffer.index_eq (show offset < bytes.length by omega),
      Buffer.index_eq (show offset + 1 < bytes.length by omega),
      Buffer.index_eq (show offset + 2 < bytes.length by omega),
      Buffer.index_eq (show offset + 3 < bytes.length by omega), Outcome.bind_ok,
      Outcome.pure_eq_ok]
  have octets : (Ipv4Addr.new bytes[offset] bytes[offset + 1] bytes[offset + 2]
      bytes[offset + 3]).bytes = Buffer.slice bytes offset (offset + 4) := by
    apply List.ext_getElem?
    intro position
    rw [Buffer.getElem?_slice]
    match position with
    | 0 | 1 | 2 | 3 => simp [Ipv4Addr.new, Ipv4Addr.bytes]
    | position + 4 =>
        rw [if_neg (by omega)]
        rfl
  rw [read, Except.ok.injEq, ← octets]
  exact ⟨fun same => by rw [same], fun same => Ipv4Addr.bytes_injective same.symm⟩

theorem checkLength_eq_ok {options : Options} {code : UInt8} {length : ℕ} {result : PUnit} :
    checkLength options (code, length) = .ok result ↔
      ∀ value, options[code]? = some value → value.length = length := by
  rw [checkLength]
  cases options[code]? with
  | none => simp
  | some value => simp [Outcome.ensure_eq_ok]

theorem checkArchitectures_eq_ok {options : Options} {result : PUnit} :
    checkArchitectures options = .ok result ↔
      ∀ value, options[(93 : UInt8)]? = some value → value ≠ [] ∧ value.length % 2 = 0 := by
  rw [checkArchitectures]
  cases options[(93 : UInt8)]? with
  | none => simp
  | some value => simp [Outcome.ensure_eq_ok]

namespace Packet

/-- The checks of the option values are the rules. -/
theorem rules_iff {options : Options} {message : UInt8} :
    Rules options message ↔
      (∀ rule ∈ fixedLengths, checkLength options rule = .ok ⟨⟩) ∧
        checkArchitectures options = .ok ⟨⟩ ∧
        options[(53 : UInt8)]?.bind List.head? = some message ∧
        clientMessages.contains message = true := by
  simp only [fixedLengths, List.forall_mem_cons, checkLength_eq_ok, checkArchitectures_eq_ok,
    List.contains_eq_mem, decide_eq_true_eq]
  constructor
  · intro rules
    refine ⟨⟨?_, rules.requested, rules.server, rules.maximum, by simp⟩, rules.architectures, ?_,
      rules.supported⟩
    · intro value found
      rw [rules.messageType, Option.some.injEq] at found
      rw [← found]
      rfl
    · rw [rules.messageType]
      rfl
  · rintro ⟨⟨one, requested, server, maximum, -⟩, architectures, first, supported⟩
    refine ⟨?_, supported, requested, server, maximum, architectures⟩
    cases found : options[(53 : UInt8)]? with
    | none =>
        rw [found] at first
        cases first
    | some value =>
        obtain ⟨byte, rfl⟩ := List.length_eq_one_iff.mp (one value found)
        rw [found] at first
        simpa using first

/-- The rules only look at five options. -/
theorem Rules.of_same {first second : Options} {message : UInt8}
    (same : ∀ code ∈ [(50 : UInt8), 53, 54, 57, 93], second[code]? = first[code]?)
    (rules : Rules first message) : Rules second message where
  messageType := (same 53 (by decide)).trans rules.messageType
  supported := rules.supported
  requested := fun value found =>
    rules.requested value ((same 50 (by decide)).symm.trans found)
  server := fun value found => rules.server value ((same 54 (by decide)).symm.trans found)
  maximum := fun value found => rules.maximum value ((same 57 (by decide)).symm.trans found)
  architectures := fun value found =>
    rules.architectures value ((same 93 (by decide)).symm.trans found)

/-- A datagram with the fixed header of an Ethernet request and the cookie. -/
structure Framed (bytes : Bytes) : Prop where
  length : 240 ≤ bytes.length
  hardware : Buffer.slice bytes 0 3 = [1, 1, 6]
  magic : Buffer.slice bytes 236 240 = cookie

/-- The header and the addresses of a packet are those of the datagram. -/
structure HeaderFrom (packet : Packet) (bytes : Bytes) : Prop where
  header : packet.header = Buffer.slice bytes 0 236
  mac : packet.mac.toList = Buffer.slice bytes 28 34
  ciaddr : packet.ciaddr.bytes = Buffer.slice bytes 12 16
  giaddr : packet.giaddr.bytes = Buffer.slice bytes 24 28

/-- Every datagram long enough has a packet with its header. -/
theorem exists_headerFrom {bytes : Bytes} (length : 240 ≤ bytes.length) (options : Options)
    (message : UInt8) : ∃ packet : Packet,
      packet.HeaderFrom bytes ∧ packet.options = options ∧ packet.message = message := by
  obtain ⟨mac, macBytes⟩ : ∃ mac : Mac, mac.toList = Buffer.slice bytes 28 34 :=
    ⟨⟨(Buffer.slice bytes 28 34).toArray, by simp; omega⟩, by simp⟩
  have address : ∀ low : ℕ, low + 4 ≤ 240 →
      ∃ ip : Ipv4Addr, ip.bytes = Buffer.slice bytes low (low + 4) := by
    intro low bound
    have four : (Buffer.slice bytes low (low + 4)).length = 4 := by
      rw [Buffer.length_slice]
      omega
    obtain ⟨ip, read⟩ := Option.isSome_iff_exists.mp (Ipv4Addr.ofBytes?_isSome four)
    exact ⟨ip, Ipv4Addr.bytes_of_ofBytes? read⟩
  obtain ⟨ciaddr, ciaddrBytes⟩ := address 12 (by decide)
  obtain ⟨giaddr, giaddrBytes⟩ := address 24 (by decide)
  exact ⟨⟨Buffer.slice bytes 0 236, options, mac, message, ciaddr, giaddr⟩,
    ⟨rfl, macBytes, ciaddrBytes, giaddrBytes⟩, rfl, rfl⟩

/-- **Which datagrams are accepted**, with the packet they give. -/
theorem parse_eq_ok_iff {bytes : Bytes} {packet : Packet} :
    parse bytes = .ok packet ↔
      Framed bytes ∧ packet.HeaderFrom bytes ∧ Rules packet.options packet.message ∧
        ∃ field, readOptions (bytes.drop 240) ∅ = .ok field ∧
          readOverload bytes field = .ok packet.options := by
  by_cases length : 240 ≤ bytes.length
  · rw [parse]
    simp only [decide_eq_true length, Outcome.ensure_true, Outcome.bind_ok,
      Buffer.sliceChecked_eq (Nat.zero_le 3) (show 3 ≤ bytes.length by omega),
      Buffer.sliceChecked_eq (show 236 ≤ 240 by decide) length,
      Buffer.suffixChecked_eq length,
      Buffer.sliceChecked_eq (Nat.zero_le 236) (show 236 ≤ bytes.length by omega),
      Buffer.sliceChecked_eq (show 28 ≤ 34 by decide) (show 34 ≤ bytes.length by omega),
      Outcome.bind_eq_ok, Outcome.ensure_eq_ok, Outcome.each_eq_ok, Outcome.required_eq_ok,
      Outcome.pure_eq_ok, arrayOf_eq_ok_iff, readIp_eq_ok_iff (show 12 + 4 ≤ bytes.length by omega),
      readIp_eq_ok_iff (show 24 + 4 ≤ bytes.length by omega), beq_iff_eq, Except.ok.injEq]
    constructor
    · rintro ⟨_, hardware, _, magic, field, read, options, overload, _, lengths, _, architectures,
        message, first, _, supported, mac, macBytes, ciaddr, ciaddrBytes, giaddr, giaddrBytes, rfl⟩
      exact ⟨⟨length, hardware, magic⟩, ⟨rfl, macBytes, ciaddrBytes, giaddrBytes⟩,
        rules_iff.mpr ⟨lengths, architectures, first, supported⟩, field, read, overload⟩
    · rintro ⟨⟨-, hardware, magic⟩, ⟨header, macBytes, ciaddrBytes, giaddrBytes⟩, rules, field,
        read, overload⟩
      obtain ⟨lengths, architectures, first, supported⟩ := rules_iff.mp rules
      obtain ⟨front, options, mac, message, ciaddr, giaddr⟩ := packet
      change front = Buffer.slice bytes 0 236 at header
      subst header
      exact ⟨⟨⟩, hardware, ⟨⟩, magic, field, read, options, overload, ⟨⟩, lengths, ⟨⟩,
        architectures, message, first, ⟨⟩, supported, mac, macBytes, ciaddr, ciaddrBytes, giaddr,
        giaddrBytes, rfl⟩
  · constructor
    · intro accepted
      rw [parse, decide_eq_false length] at accepted
      cases accepted
    · rintro ⟨framed, -⟩
      exact absurd framed.length length

/-- **A parsed packet is well formed.** -/
theorem wellFormed_of_parse {bytes : Bytes} {packet : Packet} (parsed : parse bytes = .ok packet) :
    packet.WellFormed := by
  obtain ⟨framed, ⟨header, mac, ciaddr, giaddr⟩, rules, -⟩ := parse_eq_ok_iff.mp parsed
  have length := framed.length
  have inside : ∀ low high : ℕ, high ≤ 236 →
      Buffer.slice bytes low high = Buffer.slice packet.header low high := by
    intro low high bound
    rw [header]
    simp only [Buffer.slice, List.drop_zero, List.take_take, Nat.min_eq_left bound]
  refine ⟨?_, ?_, ?_, ?_, rules⟩
  · rw [header, Buffer.length_slice]
    omega
  · rw [mac, inside _ _ (by decide)]
  · rw [ciaddr, inside _ _ (by decide)]
  · rw [giaddr, inside _ _ (by decide)]

/-- A datagram with the given message and options, as the tests build it. -/
def wire (message : UInt8) (options : List (UInt8 × Bytes)) : Bytes :=
  [1, 1, 6, 0, 0x12, 0x34, 0x56, 0x78] ++ List.replicate 20 0 ++
    [0xaa, 0xbb, 0xcc, 0xdd, 0xee, 0xff] ++ List.replicate 202 0 ++ cookie ++
      OptionStream.encodeAll ((53, [message]) :: options) ++ [255]

/-- A DISCOVER is accepted. -/
theorem exists_parse_discover : ∃ packet, parse (wire 1 []) = .ok packet := by
  have accepted : (parse (wire 1 [])).toOption.any (fun _ => true) = true := by decide +kernel
  obtain ⟨packet, parsed, -⟩ := Outcome.exists_of_any accepted
  exact ⟨packet, parsed⟩

end Packet

end Macdack
