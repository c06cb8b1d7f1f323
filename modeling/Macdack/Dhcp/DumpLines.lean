import Macdack.Library.LogText
import Macdack.Dhcp.Dump

/-!
# The lines of a packet dump

Each function of the dump returns a text, whatever bytes it is given: no index and no
slice is out of range. The text has printable characters and the line breaks that the dump
itself writes, and no others (`writes_dump`).

How many lines there are is decided by the shape of the datagram: which addresses and
texts of the fixed part are there, and the codes and lengths of the options
(`DumpShape`). `dump_forges_no_lines` is that nothing else in a datagram adds a line, takes
one away or writes a control character.
-/

set_option autoImplicit false

namespace Macdack

open LogText

/-! ## Texts of bytes and numbers -/

theorem breaks_comma : Breaks ", " 0 := by decide

theorem breaks_colon : Breaks ": " 0 := by decide

theorem breaks_lengthTitle : Breaks ", length " 0 := by decide

theorem isPrintable_digitChar : ∀ digit < 16, IsPrintable (Nat.digitChar digit) := by decide

theorem breaks_octet (byte : UInt8) : Breaks (String.ofList (formatOctet byte)) 0 := by
  apply breaks_ofList
  have small : byte.toNat < 256 := byte.toNat_lt
  simp only [formatOctet, List.forall_mem_cons, List.not_mem_nil, false_imp_iff, implies_true,
    and_true]
  exact ⟨isPrintable_digitChar _ (by omega), isPrintable_digitChar _ (by omega)⟩

theorem breaks_hexText {separator : String} (between : Breaks separator 0) (bytes : Bytes) :
    Breaks (hexText separator bytes) 0 :=
  breaks_list between breaks_octet bytes

theorem breaks_formatXid (xid : UInt32) : Breaks (formatXid xid) 0 := by
  have sign : Breaks "0x" 0 := by decide
  exact sign.add (breaks_hexText breaks_empty (be32 xid))

theorem breaks_printableByte (byte : UInt8) : Breaks (printableByte byte) 0 := by
  rw [printableByte]
  by_cases zero : byte = 0
  · rw [if_pos zero]
    decide
  rw [if_neg zero]
  by_cases visible : 0x20 ≤ byte ∧ byte ≤ 0x7e
  · rw [if_pos visible]
    apply breaks_of_printable
    intro c member
    rw [String.toList_singleton, List.mem_singleton] at member
    subst member
    exact visible
  · rw [if_neg visible]
    have sign : Breaks "\\x" 0 := by decide
    exact sign.add (breaks_octet byte)

/-- **A quoted value** is printable, whatever its bytes are. -/
theorem breaks_printable (bytes : Bytes) : Breaks (printable bytes) 0 := by
  apply breaks_join
  intro text listed
  obtain ⟨byte, -, rfl⟩ := List.mem_map.mp listed
  exact breaks_printableByte byte

theorem breaks_toText (ip : Ipv4Addr) : Breaks ip.toText 0 := by
  have dot : Breaks "." 0 := by decide
  have octet : ∀ value : UInt8, Breaks (toString value) 0 := fun value => breaks_nat value.toNat
  exact ((((((octet _).add dot).add (octet _)).add dot).add (octet _)).add dot).add (octet _)

/-! ## Functions that return -/

theorem exists_u16 {bytes : Bytes} (length : bytes.length = 2) :
    ∃ number, u16FromBeBytes bytes = .ok number := by
  obtain ⟨high, low, rfl⟩ := List.length_eq_two.mp length
  exact ⟨_, rfl⟩

theorem exists_u32 {bytes : Bytes} (length : bytes.length = 4) :
    ∃ number, u32FromBeBytes bytes = .ok number := by
  obtain ⟨a, rest, rfl⟩ := List.exists_cons_of_length_eq_add_one length
  obtain ⟨b, c, d, rfl⟩ := List.length_eq_three.mp (Nat.succ.inj length)
  exact ⟨_, rfl⟩

theorem exists_readIp {bytes : Bytes} {offset : ℕ} (inside : offset + 4 ≤ bytes.length) :
    ∃ ip, readIp bytes offset = .ok ip := by
  rw [readIp, Buffer.index_eq (by omega), Outcome.bind_ok, Buffer.index_eq (by omega),
    Outcome.bind_ok, Buffer.index_eq (by omega), Outcome.bind_ok, Buffer.index_eq (by omega)]
  exact ⟨_, rfl⟩

/-! ## Values of options -/

/-- The significant octets of a network make an address. -/
theorem exists_network {tail : Bytes} {networkLen : ℕ} (count : networkLen ≤ 4)
    (room : networkLen ≤ tail.length) :
    ∃ octets network,
      Buffer.copyFromSlice [0, 0, 0, 0] 0 networkLen (Buffer.slice tail 0 networkLen) =
        .ok octets ∧ readIp octets 0 = .ok network := by
  have length : (Buffer.slice tail 0 networkLen).length = networkLen - 0 :=
    Buffer.length_slice_of_le room
  have written : (Buffer.overwrite [0, 0, 0, 0] 0 (Buffer.slice tail 0 networkLen)).length =
      4 := by
    refine Buffer.length_overwrite_of (show ([0, 0, 0, 0] : Bytes).length = 4 from rfl) ?_
    rw [length, Nat.zero_add]
    exact count
  obtain ⟨network, read⟩ := exists_readIp (Nat.le_of_eq written.symm)
  exact ⟨_, network, Buffer.copyFromSlice_eq (Nat.zero_le _) count length, read⟩

/-- **The decoder of routes** returns on every value. -/
theorem exists_classlessRoutesLoop (value : Bytes) :
    ∃ routes, classlessRoutesLoop value = .ok routes := by
  induction size : value.length using Nat.strong_induction_on generalizing value with
  | h bound ih =>
      cases value with
      | nil =>
          rw [classlessRoutesLoop]
          exact ⟨_, rfl⟩
      | cons prefixLength tail =>
          rw [classlessRoutesLoop]
          by_cases wide : 32 < prefixLength
          · rw [if_pos wide]
            exact ⟨_, rfl⟩
          rw [if_neg wide]
          by_cases short : tail.length < (prefixLength.toNat + 7) / 8 + 4
          · rw [if_pos short]
            exact ⟨_, rfl⟩
          rw [if_neg short]
          have small : prefixLength.toNat ≤ 32 := UInt8.le_iff_toNat_le.mp (UInt8.not_lt.mp wide)
          have count : (prefixLength.toNat + 7) / 8 ≤ 4 := by omega
          have room : (prefixLength.toNat + 7) / 8 + 4 ≤ tail.length := Nat.le_of_not_lt short
          generalize (prefixLength.toNat + 7) / 8 = networkLen at *
          have front : networkLen ≤ tail.length := Nat.le_trans (Nat.le_add_right _ 4) room
          obtain ⟨octets, network, written, read⟩ := exists_network count front
          have middle : (Buffer.slice tail networkLen (networkLen + 4)).length = 4 := by
            rw [Buffer.length_slice_of_le room, Nat.add_sub_cancel_left]
          obtain ⟨gateway, routed⟩ := exists_readIp (Nat.le_of_eq middle.symm)
          have shorter : (tail.drop (networkLen + 4)).length < bound := by
            rw [← size, List.length_drop, List.length_cons]
            omega
          obtain ⟨routes, later⟩ := ih _ shorter _ rfl
          simp only [Buffer.sliceChecked_eq (Nat.zero_le networkLen) front, written, read,
            Buffer.sliceChecked_eq (Nat.le_add_right networkLen 4) room, routed,
            Buffer.suffixChecked_eq room, later, Outcome.bind_ok]
          exact ⟨_, rfl⟩

theorem breaks_route (route : ClasslessRoute) : Breaks route.toText 0 := by
  have slash : Breaks "/" 0 := by decide
  have colon : Breaks ":" 0 := by decide
  exact ((((breaks_toText _).add slash).add (breaks_nat route.prefixLength.toNat)).add
    colon).add (breaks_toText _)

/-- A decoded value is printable, if there is one. -/
theorem exists_classlessRoutes (value : Bytes) : ∃ routes, classlessRoutes value = .ok routes ∧
    ∀ text ∈ routes, Breaks text 0 := by
  obtain ⟨routes, decoded⟩ := exists_classlessRoutesLoop value
  refine ⟨_, by rw [classlessRoutes, decoded]; rfl, ?_⟩
  intro text member
  obtain ⟨listed, -, rfl⟩ := Option.map_eq_some_iff.mp member
  exact breaks_list breaks_comma breaks_route listed

theorem breaks_ipv4Values {value : Bytes} {text : String} (decoded : ipv4Values value = some text) :
    Breaks text 0 := by
  rw [ipv4Values] at decoded
  split at decoded
  · cases decoded
  · cases decoded
    exact breaks_list breaks_comma breaks_toText (addresses value)

/-- A decoded value, or the bytes as they are. -/
theorem breaks_getD {decoded : Option String} (each : ∀ text ∈ decoded, Breaks text 0)
    (value : Bytes) : Breaks (decoded.getD (printable value)) 0 := by
  cases decoded with
  | none => exact breaks_printable value
  | some text => exact each text rfl

theorem breaks_optionName (code : UInt8) : Breaks (optionName code) 0 := by
  have table : ∀ entry ∈ optionNames, Breaks entry.2 0 := by decide
  have other : Breaks "Option" 0 := by decide
  rw [optionName]
  cases found : optionNames.lookup code with
  | none => exact other
  | some name =>
      obtain ⟨before, after, listed, -⟩ := List.lookup_eq_some_iff.mp found
      exact table (code, name) (listed ▸ List.mem_append_right before (.head after))

theorem breaks_messageName (message : UInt8) :
    Breaks (toAsciiUppercase (messageName message)) 0 := by
  rw [messageName.eq_def]
  split <;> decide

theorem breaks_parameterName (code : UInt8) : Breaks (parameterName code) 0 := by
  have option : Breaks "Option " 0 := by decide
  rw [parameterName]
  split
  · exact option.add (breaks_nat code.toNat)
  · exact breaks_optionName code

/-- The check of an Ethernet identifier returns, and one that passes it has a kind. -/
theorem exists_isEther (value : Bytes) :
    ∃ ether, isEther value = .ok ether ∧ (ether = true → 1 ≤ value.length) := by
  rw [isEther]
  by_cases seven : value.length = 7
  · have first : 0 < value.length := by omega
    rw [if_pos seven, Buffer.index_eq first]
    exact ⟨_, rfl, fun _ => first⟩
  · rw [if_neg seven]
    exact ⟨false, rfl, fun ether => absurd ether Bool.false_ne_true⟩

/-- **The text of an option** is printable, whatever its value is. -/
theorem writes_optionValue (code : UInt8) (value : Bytes) : Writes (optionValue code value) 0 := by
  have quote : Breaks "\"" 0 := by decide
  have colon : Breaks ":" 0 := by decide
  have ethernet : Breaks "ether " 0 := by decide
  have plain : Writes (pure (printable value)) 0 := (breaks_printable value).writes
  rw [optionValue]
  by_cases address : code ∈ ([1, 3, 6, 28, 42, 50, 54] : List UInt8)
  · rw [if_pos address]
    exact (breaks_getD (fun _ => breaks_ipv4Values) value).writes
  rw [if_neg address]
  by_cases quoted : code ∈ ([12, 15, 60, 66, 67, 77, 101, 252] : List UInt8)
  · rw [if_pos quoted]
    exact ((quote.add (breaks_printable value)).add quote).writes
  rw [if_neg quoted]
  by_cases offset : code = 2 ∧ value.length = 4
  · obtain ⟨number, read⟩ := exists_u32 offset.2
    rw [if_pos offset, read]
    exact (breaks_int number.toInt32.toInt).writes
  rw [if_neg offset]
  by_cases size : code ∈ ([26, 57] : List UInt8) ∧ value.length = 2
  · obtain ⟨number, read⟩ := exists_u16 size.2
    rw [if_pos size, read]
    exact (breaks_nat number.toNat).writes
  rw [if_neg size]
  by_cases time : code ∈ ([51, 58, 59] : List UInt8) ∧ value.length = 4
  · obtain ⟨number, read⟩ := exists_u32 time.2
    rw [if_pos time, read]
    exact (breaks_nat number.toNat).writes
  rw [if_neg time]
  by_cases message : code = 53 ∧ value.length = 1
  · have first : 0 < value.length := by rw [message.2]; exact Nat.one_pos
    rw [if_pos message, Buffer.index_eq first]
    exact (breaks_messageName value[0]).writes
  rw [if_neg message]
  by_cases parameters : code = 55
  · rw [if_pos parameters]
    exact (breaks_list breaks_comma breaks_parameterName value).writes
  rw [if_neg parameters]
  by_cases identifier : code = 61
  · obtain ⟨ether, checked, long⟩ := exists_isEther value
    rw [if_pos identifier, checked, Outcome.bind_ok]
    cases ether with
    | true =>
        rw [if_pos rfl, Buffer.suffixChecked_eq (long rfl)]
        exact (ethernet.add (breaks_hexText colon _)).writes
    | false => exact plain
  rw [if_neg identifier]
  by_cases architectures : code = 93 ∧ value.length % 2 = 0
  · rw [if_pos architectures]
    exact (breaks_list breaks_comma (fun _ => breaks_nat _) (pairs value)).writes
  rw [if_neg architectures]
  by_cases routes : code = 121 ∨ code = 249
  · obtain ⟨decoded, returned, each⟩ := exists_classlessRoutes value
    rw [if_pos routes, returned]
    exact (breaks_getD each value).writes
  · rw [if_neg routes]
    exact plain

/-! ## Lines -/

/-- The line that the dump writes when a walk stops so. -/
def stopLines : OptionStream.StopKind → ℕ
  | .endMark => 0
  | .exhausted => 0
  | .missingLength => 1
  | .truncated => 1

/-- The lines that the dump writes for a walk with the outline. -/
def outlineLines (outline : OptionStream.Outline) : ℕ := outline.1.length + stopLines outline.2

theorem breaks_suboptionLine (code : UInt8) (value : Bytes) :
    Breaks (suboptionLine code value) 0 := by
  have indent : Breaks "      " 0 := by decide
  have suboption : Breaks " SubOption " 0 := by decide
  have name : Breaks (suboptionName code) 0 := by
    rw [suboptionName]
    split
    · decide
    split <;> decide
  exact (((((((indent.add name).add suboption).add (breaks_nat code.toNat)).add
    breaks_lengthTitle).add (breaks_nat value.length)).add breaks_colon).add
      (breaks_printable value))

/-- **The lines of a relay option** are one for each suboption, and one for a stop that is
an error. -/
theorem relayLines_outline (walk : OptionStream.Walk) :
    (∀ line ∈ relayLines walk, Breaks line 0) ∧
      (relayLines walk).length = outlineLines walk.outline := by
  obtain ⟨fields, stopped⟩ := walk
  have header : Breaks "Malformed relay suboption header" 0 := by decide
  have malformed : Breaks "Malformed relay suboption " 0 := by decide
  have listed : ∀ line ∈ fields.map (fun field => suboptionLine field.1 field.2),
      Breaks line 0 := by
    intro line listed
    obtain ⟨field, -, rfl⟩ := List.mem_map.mp listed
    exact breaks_suboptionLine field.1 field.2
  simp only [relayLines, outlineLines, OptionStream.Walk.outline, List.forall_mem_append,
    List.length_append, List.length_map]
  cases stopped with
  | endMark => exact ⟨⟨listed, nofun⟩, rfl⟩
  | exhausted => exact ⟨⟨listed, nofun⟩, rfl⟩
  | missingLength code => exact ⟨⟨listed, List.forall_mem_singleton.mpr header⟩, rfl⟩
  | truncated code declared =>
      refine ⟨⟨listed, List.forall_mem_singleton.mpr ?_⟩, rfl⟩
      exact ((malformed.add (breaks_nat code.toNat)).add breaks_lengthTitle).add
        (breaks_nat declared)

/-! ## Events -/

/-- The lines that the dump writes at an event. -/
def eventLines : DumpEvent → ℕ
  | .missingLength _ => 1
  | .truncated _ _ => 1
  | .option code value =>
      1 + if code = 82 then outlineLines (OptionStream.walk false value).outline else 0

/-- **An event** adds its lines and no others. -/
theorem writes_event (event : DumpEvent) {out : String} {before : ℕ} (breaks : Breaks out before) :
    Writes (writeEvent out event) (before + eventLines event) := by
  have malformed : Breaks "\n    Malformed Option " 1 := by decide
  have missing : Breaks ": missing length" 0 := by decide
  have indent : Breaks "\n    " 1 := by decide
  have option : Breaks " Option " 0 := by decide
  cases event with
  | missingLength code =>
      exact (((breaks.append malformed).add (breaks_nat code.toNat)).add missing).writes
  | truncated code declared =>
      exact ((((breaks.append malformed).add (breaks_nat code.toNat)).add breaks_lengthTitle).add
        (breaks_nat declared)).writes
  | option code value =>
      obtain ⟨text, returned, printed⟩ := writes_optionValue code value
      have line := ((((((((breaks.append indent).add (breaks_optionName code)).add option).add
        (breaks_nat code.toNat)).add breaks_lengthTitle).add (breaks_nat value.length)).add
          breaks_colon).add printed)
      rw [writeEvent, returned, Outcome.bind_ok, eventLines]
      by_cases relay : code = 82
      · obtain ⟨each, count⟩ := relayLines_outline (OptionStream.walk false value)
        rw [if_pos relay, if_pos relay, relayInformation_eq, ← count, ← Nat.add_assoc]
        exact (line.addLines each).writes
      · rw [if_neg relay, if_neg relay]
        exact line.writes

/-- The outline of an option area, with the outlines of the relay options in it. -/
structure OptionOutline where
  options : OptionStream.Outline
  relays : List OptionStream.Outline
  deriving DecidableEq, Repr

/-- The outline of a walk and of the walks through its relay options. -/
def walkOutline (walk : OptionStream.Walk) : OptionOutline where
  options := walk.outline
  relays := (walk.1.filter fun field => field.1 == 82).map fun field =>
    (OptionStream.walk false field.2).outline

def optionOutline (bytes : Bytes) : OptionOutline := walkOutline (OptionStream.walk true bytes)

def OptionOutline.lines (outline : OptionOutline) : ℕ :=
  outlineLines outline.options + (outline.relays.map outlineLines).sum

/-- The lines of a walk depend on its outline only. -/
theorem sum_eventLines (walk : OptionStream.Walk) :
    ((dumpEvents walk).map eventLines).sum = (walkOutline walk).lines := by
  obtain ⟨fields, stopped⟩ := walk
  induction fields with
  | nil => cases stopped <;> rfl
  | cons field fields ih =>
      have later : ((dumpEvents (field :: fields, stopped)).map eventLines).sum =
          eventLines (.option field.1 field.2) +
            ((dumpEvents (fields, stopped)).map eventLines).sum := rfl
      rw [later, ih]
      simp only [eventLines, walkOutline, OptionOutline.lines, outlineLines,
        OptionStream.Walk.outline, List.map_cons, List.length_cons, List.filter_cons, beq_iff_eq]
      split
      · rw [List.map_cons, List.map_cons, List.sum_cons, outlineLines]
        dsimp only
        omega
      · omega

/-- **The option loop** adds the lines of the outline of the options. -/
theorem writes_dumpLoop (bytes : Bytes) (position : ℕ) {out : String} {before : ℕ}
    (breaks : Breaks out before) : Writes (dumpLoop writeEvent bytes position out)
      (before + (optionOutline (bytes.drop position)).lines) := by
  rw [dumpLoop_eq, optionOutline, ← sum_eventLines]
  exact breaks.foldlM fun event _ {_ _} => writes_event event

/-! ## The fixed part -/

section Fixed

variable {bytes : Bytes} {out : String} {before : ℕ}

/-- The text of the header fields. -/
theorem writes_firstLine (complete : 236 ≤ bytes.length) : Writes (dumpFirstLine bytes) 0 := by
  have protocol : Breaks "BOOTP/DHCP, " 0 := by decide
  have hops : Breaks ", hops " 0 := by decide
  have xid : Breaks ", xid " 0 := by decide
  have secs : Breaks ", secs " 0 := by decide
  have flags : Breaks ", Flags [" 0 := by decide
  have close : Breaks "]" 0 := by decide
  have four : (Buffer.slice bytes 4 8).length = 4 := Buffer.length_slice_of_le (by omega)
  have two : (Buffer.slice bytes 8 10).length = 2 := Buffer.length_slice_of_le (by omega)
  have twoMore : (Buffer.slice bytes 10 12).length = 2 := Buffer.length_slice_of_le (by omega)
  obtain ⟨number, read⟩ := exists_u32 four
  obtain ⟨seconds, counted⟩ := exists_u16 two
  obtain ⟨bits, flagged⟩ := exists_u16 twoMore
  have kind : ∀ op : UInt8, Breaks
      (if op = 1 then "Request" else if op = 2 then "Reply" else "Unknown") 0 := by
    intro op
    split
    · decide
    split <;> decide
  have cast : ∀ bits : UInt16, Breaks (if bits &&& 0x8000 ≠ 0 then "Broadcast" else "none") 0 := by
    intro bits
    split <;> decide
  have line := fun op hop => (((((((((((protocol.add (kind op)).add breaks_lengthTitle).add
    (breaks_nat bytes.length)).add hops).add (breaks_nat (UInt8.toNat hop))).add xid).add
      (breaks_formatXid number)).add secs).add (breaks_nat seconds.toNat)).add flags).add
        (cast bits)).add close
  rw [dumpFirstLine, Buffer.index_eq (by omega), Outcome.bind_ok,
    Buffer.sliceChecked_eq (by decide) (by omega), Outcome.bind_ok, read, Outcome.bind_ok,
    Buffer.sliceChecked_eq (by decide) (by omega), Outcome.bind_ok, counted, Outcome.bind_ok,
    Buffer.sliceChecked_eq (by decide) (by omega), Outcome.bind_ok, flagged, Outcome.bind_ok,
    Buffer.index_eq (by omega), Outcome.bind_ok]
  exact (line _ _).writes

theorem writes_hardware (complete : 236 ≤ bytes.length) : Writes (dumpHardware bytes) 0 := by
  have colon : Breaks ":" 0 := by decide
  rw [dumpHardware, Buffer.index_eq (by omega), Outcome.bind_ok,
    Buffer.sliceChecked_eq (Nat.le_add_right _ _) (by omega), Outcome.bind_ok]
  exact (breaks_hexText colon _).writes

/-- An address is there. -/
def addressPresent (bytes : Bytes) (offset : ℕ) : Bool :=
  Buffer.slice bytes offset (offset + 4) != [0, 0, 0, 0]

/-- A field has a text. -/
def textPresent (bytes : Bytes) (low high : ℕ) : Bool :=
  !((Buffer.slice bytes low high).takeWhile (· ≠ 0)).isEmpty

theorem writes_address {field : String × ℕ} (name : Breaks field.1 0)
    (inside : field.2 + 4 ≤ bytes.length) (breaks : Breaks out before) :
    Writes (writeAddress bytes out field)
      (before + (addressPresent bytes field.2).toNat) := by
  have indent : Breaks "\n  " 1 := by decide
  have blank : Breaks " " 0 := by decide
  obtain ⟨ip, read⟩ := exists_readIp inside
  have octets := (readIp_eq_ok_iff inside).mp read
  rw [writeAddress, read, Outcome.bind_ok, addressPresent, ← octets]
  by_cases absent : ip.isUnspecified = true
  · rw [if_pos absent, Ipv4Addr.isUnspecified_iff.mp absent]
    exact breaks.writes
  · have zero : (ip.bytes != [0, 0, 0, 0]) = true := by
      rw [bne_iff_ne]
      intro zero
      exact absent (Ipv4Addr.isUnspecified_iff.mpr (Ipv4Addr.bytes_injective zero))
    rw [if_neg absent, zero]
    exact ((((breaks.append indent).add name).add blank).add (breaks_toText ip)).writes

theorem writes_field {low high : ℕ} {name : String} (title : Breaks name 0) (order : low ≤ high)
    (inside : high ≤ bytes.length) (breaks : Breaks out before) :
    Writes (writeField bytes low high name out)
      (before + (textPresent bytes low high).toNat) := by
  have indent : Breaks "\n  " 1 := by decide
  have opening : Breaks " \"" 0 := by decide
  have quote : Breaks "\"" 0 := by decide
  rw [writeField, Buffer.sliceChecked_eq order inside, Outcome.bind_ok, textPresent]
  generalize (Buffer.slice bytes low high).takeWhile (· ≠ 0) = text
  cases text with
  | nil => exact breaks.writes
  | cons first text =>
      exact (((((breaks.append indent).add title).add opening).add
        (breaks_printable (first :: text))).add quote).writes

end Fixed

/-! ## The whole dump -/

/-- What of a datagram decides how many lines its dump has: which addresses and texts of
the fixed part are there, and the outlines of the options behind the cookie. -/
structure DumpShape where
  addresses : List Bool
  serverName : Bool
  bootFile : Bool
  options : Option OptionOutline
  deriving DecidableEq, Repr

/-- The shape of a datagram that has a fixed part. -/
def dumpShape (bytes : Bytes) : Option DumpShape :=
  if bytes.length < 236 then none
  else some {
    addresses := dumpAddresses.map fun field => addressPresent bytes field.2
    serverName := textPresent bytes 44 108
    bootFile := textPresent bytes 108 236
    options :=
      if Buffer.slice bytes 236 240 = cookie then some (optionOutline (bytes.drop 240)) else none }

def DumpShape.lines (shape : DumpShape) : ℕ :=
  (shape.addresses.map Bool.toNat).sum + 1 + shape.serverName.toNat + shape.bootFile.toNat +
    match shape.options with
    | none => 1
    | some outline => 2 + outline.lines

/-- The line breaks of the dump of a datagram. -/
def dumpBreaks (bytes : Bytes) : ℕ := ((dumpShape bytes).map DumpShape.lines).getD 0

theorem hasCookie_eq (bytes : Bytes) :
    hasCookie bytes = .ok (decide (Buffer.slice bytes 236 240 = cookie)) := by
  rw [hasCookie]
  by_cases short : bytes.length < 240
  · have other : Buffer.slice bytes 236 240 ≠ cookie := by
      intro same
      have length := congrArg List.length same
      rw [Buffer.length_slice, Nat.min_eq_right (Nat.le_of_lt short)] at length
      have four : cookie.length = 4 := rfl
      omega
    rw [if_pos short, decide_eq_false other]
    rfl
  · rw [if_neg short, Buffer.sliceChecked_eq (by decide) (Nat.le_of_not_lt short),
      Outcome.bind_ok, beq_eq_decide]
    rfl

/-- The text in front of the options returns, and then the options are written if the
cookie is there. -/
theorem exists_front {bytes : Bytes} (complete : 236 ≤ bytes.length) :
    ∃ front, Breaks front ((dumpAddresses.map fun field =>
        (addressPresent bytes field.2).toNat).sum + 1 + (textPresent bytes 44 108).toNat +
          (textPresent bytes 108 236).toNat) ∧
      dhcpPacketDump bytes =
        if Buffer.slice bytes 236 240 = cookie then
          dumpLoop writeEvent bytes 240
            (front ++ "\n  Vendor-rfc1048 Extensions\n    Magic Cookie 0x63825363")
        else .ok (front ++ "\n  No RFC1048 magic cookie") := by
  have title : Breaks "\n  Client-Ethernet-Address " 1 := by decide
  have names : ∀ field ∈ dumpAddresses, Breaks field.1 0 ∧ field.2 + 4 ≤ 236 := by decide
  obtain ⟨mac, hardware, plain⟩ := writes_hardware complete
  obtain ⟨first, header, line⟩ := writes_firstLine complete
  have each : ∀ field ∈ dumpAddresses, ∀ {out : String} {before : ℕ}, Breaks out before →
      Writes (writeAddress bytes out field)
        (before + (addressPresent bytes field.2).toNat) := by
    intro field member out before breaks
    obtain ⟨name, inside⟩ := names field member
    exact writes_address name (Nat.le_trans inside complete) breaks
  obtain ⟨out, addressed, listed⟩ := line.foldlM each
  obtain ⟨named, server, withServer⟩ := writes_field (show Breaks "Server-Name" 0 by decide)
    (show 44 ≤ 108 by decide) (Nat.le_trans (by decide) complete) ((listed.append title).add plain)
  obtain ⟨filed, boot, withBoot⟩ := writes_field (show Breaks "Bootfile-Name" 0 by decide)
    (show 108 ≤ 236 by decide) complete withServer
  rw [Nat.zero_add] at withBoot
  refine ⟨filed, withBoot, ?_⟩
  rw [dhcpPacketDump, if_neg (Nat.not_lt.mpr complete), hardware, Outcome.bind_ok, header,
    Outcome.bind_ok, addressed, Outcome.bind_ok]
  dsimp only
  rw [server, Outcome.bind_ok, boot, Outcome.bind_ok, hasCookie_eq, Outcome.bind_ok]
  simp only [decide_eq_true_eq]
  rfl

/-- **The dump** returns a text on every byte string, with the line breaks of its shape. -/
theorem writes_dump (bytes : Bytes) : Writes (dhcpPacketDump bytes) (dumpBreaks bytes) := by
  have malformed : Breaks "Malformed BOOTP/DHCP payload, length " 0 := by decide
  have extensions :
      Breaks "\n  Vendor-rfc1048 Extensions\n    Magic Cookie 0x63825363" 2 := by decide
  have missing : Breaks "\n  No RFC1048 magic cookie" 1 := by decide
  by_cases short : bytes.length < 236
  · rw [dhcpPacketDump, dumpBreaks, dumpShape, if_pos short, if_pos short]
    exact (malformed.add (breaks_nat bytes.length)).writes
  obtain ⟨front, breaks, dumped⟩ := exists_front (Nat.le_of_not_lt short)
  rw [dumped, dumpBreaks, dumpShape, if_neg short, Option.map_some, Option.getD_some,
    DumpShape.lines, List.map_map]
  by_cases marked : Buffer.slice bytes 236 240 = cookie
  · simp only [if_pos marked]
    rw [← Nat.add_assoc]
    exact writes_dumpLoop bytes 240 (breaks.append extensions)
  · simp only [if_neg marked]
    exact (breaks.append missing).writes

/-! ## Contents do not matter -/

/-- Ranges in a common front are the same. -/
theorem slice_of_take {bytes other : Bytes} {count low high : ℕ}
    (same : bytes.take count = other.take count) (inside : high ≤ count) :
    Buffer.slice bytes low high = Buffer.slice other low high := by
  have front : ∀ whole : Bytes, whole.take high = (whole.take count).take high := by
    intro whole
    rw [List.take_take, Nat.min_eq_left inside]
  rw [Buffer.slice, Buffer.slice, front bytes, front other, same]

/-- **A common front and a common outline** make one shape. -/
theorem dumpShape_of_outline {bytes other : Bytes} (same : bytes.take 240 = other.take 240)
    (outline : optionOutline (bytes.drop 240) = optionOutline (other.drop 240)) :
    dumpShape bytes = dumpShape other := by
  have lengths := congrArg List.length same
  rw [List.length_take, List.length_take] at lengths
  have short : bytes.length < 236 ↔ other.length < 236 := by omega
  have addresses : (dumpAddresses.map fun field => addressPresent bytes field.2) =
      dumpAddresses.map fun field => addressPresent other field.2 := by
    have inside : ∀ field ∈ dumpAddresses, field.2 + 4 ≤ 240 := by decide
    apply List.map_congr_left
    intro field member
    rw [addressPresent, addressPresent, slice_of_take same (inside field member)]
  have texts : ∀ low high, high ≤ 240 →
      textPresent bytes low high = textPresent other low high := by
    intro low high inside
    rw [textPresent, textPresent, slice_of_take same inside]
  simp only [dumpShape, short, addresses, texts 44 108 (by decide), texts 108 236 (by decide),
    slice_of_take same (Nat.le_refl 240), outline]

/-- The lines of a dump are those of its shape. -/
theorem lineCount_dump {bytes : Bytes} {text : String} (dumped : dhcpPacketDump bytes = .ok text) :
    lineCount text = dumpBreaks bytes + 1 := by
  obtain ⟨written, returned, breaks⟩ := writes_dump bytes
  cases dumped.symm.trans returned
  rw [lineCount, breaks.count]

/-- **Packet dumps cannot forge lines.** A dump has line breaks and printable characters
only. Two datagrams with one front and the same outlines of their options, or just with
one shape, have as many lines as each other, whatever else they hold. -/
theorem dump_forges_no_lines :
    (∀ bytes, ∃ text, dhcpPacketDump bytes = .ok text ∧
      ∀ c ∈ text.toList, c = '\n' ∨ IsPrintable c) ∧
    (∀ bytes other text otherText, dhcpPacketDump bytes = .ok text →
      dhcpPacketDump other = .ok otherText → bytes.take 240 = other.take 240 →
        optionOutline (bytes.drop 240) = optionOutline (other.drop 240) →
          lineCount text = lineCount otherText) ∧
    (∀ bytes other text otherText, dhcpPacketDump bytes = .ok text →
      dhcpPacketDump other = .ok otherText → dumpShape bytes = dumpShape other →
        lineCount text = lineCount otherText) := by
  have shaped : ∀ bytes other text otherText, dhcpPacketDump bytes = .ok text →
      dhcpPacketDump other = .ok otherText → dumpShape bytes = dumpShape other →
        lineCount text = lineCount otherText := by
    intro bytes other text otherText dumped dumpedOther shape
    rw [lineCount_dump dumped, lineCount_dump dumpedOther, dumpBreaks, dumpBreaks, shape]
  refine ⟨fun bytes => ?_, ?_, shaped⟩
  · obtain ⟨text, returned, breaks⟩ := writes_dump bytes
    exact ⟨text, returned, breaks.printed⟩
  · intro bytes other text otherText dumped dumpedOther same outline
    exact shaped bytes other text otherText dumped dumpedOther (dumpShape_of_outline same outline)

/-- A request of zeros with a hostname of one byte. -/
def hostnameRequest (byte : UInt8) : Bytes :=
  List.replicate 236 0 ++ cookie ++ [12, 1, byte, 255]

theorem dump_forges_no_lines_hostname : ∃ text otherText,
    dhcpPacketDump (hostnameRequest 65) = .ok text ∧
      dhcpPacketDump (hostnameRequest 10) = .ok otherText ∧
        lineCount text = lineCount otherText := by
  obtain ⟨text, dumped, -⟩ := dump_forges_no_lines.1 (hostnameRequest 65)
  obtain ⟨otherText, dumpedOther, -⟩ := dump_forges_no_lines.1 (hostnameRequest 10)
  exact ⟨text, otherText, dumped, dumpedOther,
    dump_forges_no_lines.2.1 _ _ _ _ dumped dumpedOther (by decide +kernel) (by decide +kernel)⟩

end Macdack
