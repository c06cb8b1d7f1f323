import Macdack.Dhcp.Header

/-!
# The header fields by message type

What each field of the header of a reply holds, by the type of its message
(`HeaderByType`). Every reply has these fields (`headerByType_of_reply`), for any
client row and configuration: the request is echoed, the address of the row is
granted where an address is granted, and the server and the file of a boot file
are there only when one was selected.

One field is not as the message type asks: an OFFER repeats the client address of
the DISCOVER, where a NAK clears it. It is zero in an OFFER exactly when it was
zero in the DISCOVER (`header_by_type`, `header_by_type_fails`).
-/

set_option autoImplicit false

namespace Macdack

/-! ## Flags and client address -/

theorem fixedPart_nak (packet : Packet) (client : Client) (config : Config) :
    fixedPart packet client config 6 =
      Buffer.overwriteAll (echoedHeader packet) (refusalWrites packet) := by
  rw [fixedPart, headerWrites, Buffer.overwriteAll_append, ← echoedHeader, laterWrites, if_pos rfl]

theorem fixedPart_answer (packet : Packet) (client : Client) (config : Config) {message : UInt8}
    (answers : message ≠ 6) :
    fixedPart packet client config message =
      Buffer.overwriteAll
        (Buffer.overwriteAll (echoedHeader packet) (grantWrites client (grants packet message)))
        (bootWrites config (namedBootFile packet client config message)) := by
  rw [fixedPart, headerWrites, Buffer.overwriteAll_append, ← echoedHeader, laterWrites,
    if_neg answers, Buffer.overwriteAll_append]

section Fixed

variable {packet : Packet} (length : packet.header.length = 236)

include length

/-- The flags and the client address are echoed. -/
theorem slice_echoedHeader_flags {low high : ℕ} (after : 10 ≤ low) (before : high ≤ 16) :
    Buffer.slice (echoedHeader packet) low high = Buffer.slice packet.header low high := by
  have whole := slice_echoedHeader_of_write length
    [(0, [2, 1, 6]), (4, Buffer.slice packet.header 4 8)] rfl
    (by simp [Buffer.Apart, length])
  rw [Buffer.length_slice_of_le (by omega)] at whole
  exact Buffer.slice_congr whole after before

/-- A range that neither the grant nor the boot file touches is that of the echo. -/
theorem slice_fixedPart_answer (client : Client) (config : Config) {message : UInt8}
    (answers : message ≠ 6) {low high : ℕ} (granted : high ≤ 16 ∨ 20 ≤ low)
    (boot : high ≤ 20 ∨ (24 ≤ low ∧ high ≤ 108) ∨ 236 ≤ low) :
    Buffer.slice (fixedPart packet client config message) low high =
      Buffer.slice (echoedHeader packet) low high := by
  have echoed := length_echoedHeader length
  have filled := Buffer.length_overwriteAll echoed
    (fits_grantWrites client (grants packet message))
  rw [fixedPart_answer packet client config answers,
    Buffer.slice_overwriteAll_of_apart (by rw [filled]; exact fits_bootWrites config _)
      (apart_bootWrites config _ boot),
    Buffer.slice_overwriteAll_of_apart (by rw [echoed]; exact fits_grantWrites client _)
      (apart_grantWrites client _ granted)]

/-- A range that the refusal does not touch is that of the echo. -/
theorem slice_fixedPart_nak (client : Client) (config : Config) {low high : ℕ}
    (apart : Buffer.Apart low high (refusalWrites packet)) :
    Buffer.slice (fixedPart packet client config 6) low high =
      Buffer.slice (echoedHeader packet) low high := by
  rw [fixedPart_nak, Buffer.slice_overwriteAll_of_apart
    (by rw [length_echoedHeader length]; exact fits_refusalWrites packet) apart]

/-- A NAK has no client address. -/
theorem ciaddr_fixedPart_nak (client : Client) (config : Config) :
    Buffer.slice (fixedPart packet client config 6) 12 16 = [0, 0, 0, 0] := by
  have fits := fits_refusalWrites packet
  rw [fixedPart_nak]
  rw [refusalWrites] at fits ⊢
  refine Buffer.slice_overwriteAll_of_mem [] ?_ ?_ (Nat.le_refl _) (Nat.le_refl _)
  · rw [length_echoedHeader length]
    exact fits
  · split
    · exact fun _ member => absurd member List.not_mem_nil
    · simp [Buffer.Apart]

/-- The first byte of the flags of a NAK: a relay has to broadcast it. -/
theorem flags_fixedPart_nak (client : Client) (config : Config) :
    Buffer.slice (fixedPart packet client config 6) 10 11 =
      if packet.giaddr.isUnspecified then Buffer.slice packet.header 10 11
      else [packet.header[10]?.getD 0 ||| 0x80] := by
  by_cases direct : packet.giaddr.isUnspecified = true
  · rw [if_pos direct, slice_fixedPart_nak length client config]
    · exact slice_echoedHeader_flags length (Nat.le_refl _) (by decide)
    · rw [refusalWrites, if_pos direct]
      simp [Buffer.Apart]
  · have fits := fits_refusalWrites packet
    rw [if_neg direct, fixedPart_nak]
    rw [refusalWrites, if_neg direct] at fits ⊢
    refine Buffer.slice_overwriteAll_of_mem [(12, [0, 0, 0, 0])] ?_
      (fun _ member => absurd member List.not_mem_nil) (Nat.le_refl _) (Nat.le_refl _)
    rw [length_echoedHeader length]
    exact fits

/-! ## The boot server and the boot file -/

/-- Without a boot file the fields of the server and the file are zero. -/
theorem boot_fixedPart_none (client : Client) (config : Config) {message : UInt8}
    (unnamed : namedBootFile packet client config message = none) :
    Buffer.slice (fixedPart packet client config message) 20 24 = [0, 0, 0, 0] ∧
      Buffer.slice (fixedPart packet client config message) 108 236 = List.replicate 128 0 := by
  have same : ∀ {low high : ℕ}, 20 ≤ low →
      Buffer.slice (fixedPart packet client config message) low high =
        Buffer.slice (echoedHeader packet) low high := by
    intro low high after
    by_cases refused : message = 6
    · subst refused
      exact slice_fixedPart_nak length client config (apart_refusalWrites packet (.inr (by omega)))
    · have echoed := length_echoedHeader length
      rw [fixedPart_answer packet client config refused, unnamed]
      exact Buffer.slice_overwriteAll_of_apart (by rw [echoed]; exact fits_grantWrites client _)
        (apart_grantWrites client _ (.inr after))
  rw [same (by decide), same (by decide)]
  exact ⟨slice_echoedHeader_of_apart length (by decide)
      (by simp [Buffer.Apart, echoWrites, length]),
    slice_echoedHeader_of_apart length (by decide) (by simp [Buffer.Apart, echoWrites, length])⟩

/-- The writes of a boot file come last. -/
theorem slice_bootWrites (client : Client) (config : Config) {message : UInt8} {file : String}
    (named : namedBootFile packet client config message = some file)
    (earlier : List (ℕ × Bytes)) {later : List (ℕ × Bytes)} {position : ℕ} {source : Bytes}
    (split : bootWrites config (some file) = earlier ++ (position, source) :: later)
    (apart : Buffer.Apart position (position + source.length) later) :
    Buffer.slice (fixedPart packet client config message) position (position + source.length) =
      source := by
  have answers := ne_nak_of_named named
  have filled := Buffer.length_overwriteAll (length_echoedHeader length)
    (fits_grantWrites client (grants packet message))
  have fits := fits_bootWrites config (some file)
  rw [fixedPart_answer packet client config answers, named, split]
  rw [split] at fits
  exact Buffer.slice_overwriteAll_self earlier (by rw [filled]; exact fits) apart

/-- A range behind the address and apart from the writes of the boot file is
zero. -/
theorem slice_zero_of_apart_bootWrites (client : Client) (config : Config) {message : UInt8}
    {file : String} (named : namedBootFile packet client config message = some file)
    {low high : ℕ} (behind : 44 ≤ low) (inside : high ≤ 236)
    (apart : Buffer.Apart low high (bootWrites config (some file))) :
    Buffer.slice (fixedPart packet client config message) low high =
      List.replicate (high - low) 0 := by
  have answers := ne_nak_of_named named
  have echoed := length_echoedHeader length
  have filled := Buffer.length_overwriteAll echoed
    (fits_grantWrites client (grants packet message))
  rw [fixedPart_answer packet client config answers, named,
    Buffer.slice_overwriteAll_of_apart (by rw [filled]; exact fits_bootWrites config _) apart,
    Buffer.slice_overwriteAll_of_apart (by rw [echoed]; exact fits_grantWrites client _)
      (apart_grantWrites client _ (.inr (by omega)))]
  refine slice_echoedHeader_of_apart length (by omega) ?_
  simp [Buffer.Apart, echoWrites, length]
  omega

/-- **With a boot file** the field of the server has its address, and the field of
the file has its name and at least one zero behind it, or only zeros when the name
does not fit in front of a zero. -/
theorem boot_fixedPart_some (client : Client) (config : Config) {message : UInt8} {file : String}
    (named : namedBootFile packet client config message = some file) :
    Buffer.slice (fixedPart packet client config message) 20 24 = config.boot.tftpServer.bytes ∧
      Buffer.slice (fixedPart packet client config message) 108 236 =
        if Text.byteLength file < 128 then
          Text.asBytes file ++ List.replicate (128 - Text.byteLength file) 0
        else List.replicate 128 0 := by
  have four := Ipv4Addr.length_bytes config.boot.tftpServer
  constructor
  · have read := slice_bootWrites length client config named [] rfl
      (by split <;> simp [Buffer.Apart])
    rwa [four] at read
  · by_cases short : Text.byteLength file < 128
    · have split : bootWrites config (some file) =
          [(20, config.boot.tftpServer.bytes), (108, Text.asBytes file)] := by
        rw [bootWrites, if_pos short]
      have name := slice_bootWrites length client config named [_] split
        (fun _ member => absurd member List.not_mem_nil)
      have zeros := slice_zero_of_apart_bootWrites length client config named
        (show 44 ≤ 108 + Text.byteLength file by omega) (Nat.le_refl 236)
        (by rw [split]; simp [Buffer.Apart, Text.byteLength]; omega)
      change Buffer.slice _ 108 (108 + Text.byteLength file) = _ at name
      rw [if_pos short, Buffer.slice_append_slice _ (Nat.le_add_right 108 (Text.byteLength file))
        (show 108 + Text.byteLength file ≤ 236 by omega), name, zeros, Nat.sub_add_eq]
    · rw [if_neg short]
      refine slice_zero_of_apart_bootWrites length client config named (by decide)
        (Nat.le_refl _) ?_
      rw [bootWrites, if_neg short]
      simp [Buffer.Apart]

end Fixed

/-! ## The fields -/

namespace Reply

/-- A range of the header of a reply. -/
def field (sent : Reply) (low high : ℕ) : Bytes := Buffer.slice sent.bytes low high

/-- It is that range of the fixed part. -/
theorem field_of_header (sent : Reply) {fixed rest : Bytes} (room : fixed.length = 240)
    (extended : sent.bytes = fixed ++ rest) ⦃low high : ℕ⦄ (inside : high ≤ 240) :
    sent.field low high = Buffer.slice fixed low high := by
  rw [field, extended, slice_of_header room inside]

/-- The header fields of a reply to the request, by the type of its message, with
the client address that an OFFER carries. -/
structure HeaderByType (packet : Packet) (client : Client) (offered : Bytes) (sent : Reply) :
    Prop where
  op : sent.field 0 3 = [2, 1, 6]
  hops : sent.field 3 4 = [0]
  xid : sent.field 4 8 = Buffer.slice packet.header 4 8
  secs : sent.field 8 10 = [0, 0]
  flags : ∃ high low : UInt8, Buffer.slice packet.header 10 12 = [high, low] ∧
    sent.field 10 12 =
      [if sent.message = 6 ∧ packet.giaddr ≠ .unspecified then high ||| 0x80 else high, low]
  ciaddrOffer : sent.message = 2 → sent.field 12 16 = offered
  ciaddrAck : sent.message = 5 → sent.field 12 16 = Buffer.slice packet.header 12 16
  ciaddrNak : sent.message = 6 → sent.field 12 16 = [0, 0, 0, 0]
  granted : sent.message = 2 ∨ sent.message = 5 ∧ packet.message = 3 →
    sent.field 16 20 = client.ip.bytes
  notGranted : sent.message = 6 ∨ sent.message = 5 ∧ packet.message = 8 →
    sent.field 16 20 = [0, 0, 0, 0]
  boot : sent.bootFile = none →
    sent.field 20 24 = [0, 0, 0, 0] ∧ sent.field 108 236 = List.replicate 128 0
  giaddr : sent.field 24 28 = Buffer.slice packet.header 24 28
  chaddr : sent.field 28 44 = Buffer.slice packet.header 28 44
  sname : sent.field 44 108 = List.replicate 64 0

end Reply

/-- The two bytes of the flags. -/
theorem exists_flags {packet : Packet} (length : packet.header.length = 236) :
    ∃ high low : UInt8, Buffer.slice packet.header 10 12 = [high, low] ∧
      Buffer.slice packet.header 10 11 = [high] ∧ Buffer.slice packet.header 11 12 = [low] ∧
      packet.header[10]? = some high := by
  have single : ∀ {position : ℕ}, position < 236 → ∃ byte : UInt8,
      Buffer.slice packet.header position (position + 1) = [byte] ∧
        packet.header[position]? = some byte := by
    intro position inside
    have one : (Buffer.slice packet.header position (position + 1)).length = 1 := by
      rw [Buffer.length_slice_of_le (by omega), Nat.add_sub_cancel_left]
    obtain ⟨byte, isByte⟩ := List.length_eq_one_iff.mp one
    have first := congrArg (·[0]?) isByte
    rw [Buffer.getElem?_slice, if_pos (by omega), Nat.add_zero] at first
    exact ⟨byte, isByte, first⟩
  obtain ⟨high, isHigh, read⟩ := single (show 10 < 236 by decide)
  obtain ⟨low, isLow, -⟩ := single (show 11 < 236 by decide)
  refine ⟨high, low, ?_, isHigh, isLow, read⟩
  rw [Buffer.slice_append_slice packet.header (show 10 ≤ 11 by decide) (by decide), isHigh, isLow]
  rfl

/-- The flags of a reply. -/
theorem flags_fixedPart {packet : Packet} (length : packet.header.length = 236) (client : Client)
    (config : Config) (message : UInt8) :
    ∃ high low : UInt8, Buffer.slice packet.header 10 12 = [high, low] ∧
      Buffer.slice (fixedPart packet client config message) 10 12 =
        [if message = 6 ∧ packet.giaddr ≠ .unspecified then high ||| 0x80 else high, low] := by
  obtain ⟨high, low, both, isHigh, isLow, read⟩ := exists_flags length
  refine ⟨high, low, both, ?_⟩
  by_cases refused : message = 6
  · subst refused
    have second : Buffer.slice (fixedPart packet client config 6) 11 12 = [low] := by
      rw [slice_fixedPart_nak length client config, slice_echoedHeader_flags length (by decide)
        (by decide), isLow]
      rw [refusalWrites]
      split <;> simp [Buffer.Apart]
    rw [Buffer.slice_append_slice _ (show 10 ≤ 11 by decide) (show 11 ≤ 12 by decide),
      flags_fixedPart_nak length, second, read, isHigh]
    by_cases direct : packet.giaddr = .unspecified
    · rw [if_pos (Ipv4Addr.isUnspecified_iff.mpr direct), if_neg fun relayed => relayed.2 direct]
      rfl
    · rw [if_neg (Ipv4Addr.isUnspecified_iff.not.mpr direct), if_pos ⟨rfl, direct⟩]
      rfl
  · rw [slice_fixedPart_answer length client config refused (.inl (by decide)) (.inl (by decide)),
      slice_echoedHeader_flags length (Nat.le_refl _) (by decide), both,
      if_neg fun refusal => refused refusal.1]

/-- **The header fields of every reply**, whatever the client row and the
configuration are. An OFFER carries the client address of its request. -/
theorem headerByType_of_reply {packet : Packet} (wellFormed : packet.WellFormed) {client : Client}
    {config : Config} {server : Ipv4Addr} {sent : Reply}
    (replied : reply packet client config server = .ok (some sent)) :
    sent.HeaderByType packet client (Buffer.slice packet.header 12 16) := by
  obtain ⟨message, isDue, ⟨rest, extended⟩, -, isMessage, bootFile⟩ :=
    reply_header wellFormed replied
  have length := wellFormed.length_header
  have field := sent.field_of_header (length_fixedPart length client config message) extended
  obtain ⟨op, hops, xid, secs, relay, sname, -⟩ := echo_fixedPart length client config message
  have yiaddr := yiaddr_fixedPart length client config message
  have ciaddr : message ≠ 6 → sent.field 12 16 = Buffer.slice packet.header 12 16 := by
    intro answers
    rw [field (by decide), slice_fixedPart_answer length client config answers (.inl (by decide))
      (.inl (by decide)), slice_echoedHeader_flags length (by decide) (by decide)]
  constructor
  · rw [field (by decide), op]
  · rw [field (by decide), hops]
  · rw [field (by decide), xid]
  · rw [field (by decide), secs]
  · rw [field (by decide), isMessage]
    exact flags_fixedPart length client config message
  · intro offer
    exact ciaddr (by rw [← isMessage, offer]; decide)
  · intro ack
    exact ciaddr (by rw [← isMessage, ack]; decide)
  · intro nak
    rw [isMessage] at nak
    subst nak
    rw [field (by decide), ciaddr_fixedPart_nak length]
  · intro leased
    rw [isMessage] at leased
    rw [field (by decide), yiaddr, if_pos (grants_of_leased isDue leased)]
  · intro refused
    rw [isMessage] at refused
    have left : grants packet message = false := by
      rcases refused with rfl | ⟨-, inform⟩
      · rfl
      · rw [grants, inform, bne_self_eq_false, Bool.and_false]
    rw [field (by decide), yiaddr, left]
    rfl
  · intro unnamed
    rw [field (by decide), field (by decide)]
    exact boot_fixedPart_none length client config (bootFile.symm.trans unnamed)
  · rw [field (by decide), Buffer.slice_congr relay (by decide) (by decide)]
  · rw [field (by decide), Buffer.slice_congr relay (by decide) (by decide)]
  · rw [field (by decide), sname]

/-- **The header fields follow the message type exactly when** the request is not a
DISCOVER with a client address. Such a DISCOVER gets an OFFER that repeats its
address; every other field of every reply is as it should be. -/
theorem header_by_type {bytes : Bytes} {packet : Packet} (parsed : Packet.parse bytes = .ok packet)
    {client : Client} {config : Config} {server : Ipv4Addr} {sent : Reply}
    (replied : reply packet client config server = .ok (some sent)) :
    sent.HeaderByType packet client [0, 0, 0, 0] ↔
      ¬(packet.message = 1 ∧ packet.ciaddr ≠ Ipv4Addr.unspecified) := by
  have wellFormed := Packet.wellFormed_of_parse parsed
  have actual := headerByType_of_reply wellFormed replied
  obtain ⟨message, isDue, -, -, isMessage, -⟩ := reply_header wellFormed replied
  constructor
  · rintro follows ⟨discover, holds⟩
    have offer : sent.message = 2 := by
      rcases due_cases isDue with ⟨-, rfl⟩ | ⟨request, -⟩ | ⟨inform, -⟩
      · exact isMessage
      · rw [discover] at request
        exact absurd request (by decide)
      · rw [discover] at inform
        exact absurd inform (by decide)
    have repeated := actual.ciaddrOffer offer
    rw [← wellFormed.ciaddr, follows.ciaddrOffer offer, ← Ipv4Addr.bytes_unspecified] at repeated
    exact holds (Ipv4Addr.bytes_injective repeated).symm
  · intro benign
    refine { actual with ciaddrOffer := ?_ }
    intro offer
    have discover : packet.message = 1 := by
      rw [isMessage] at offer
      subst offer
      rcases due_cases isDue with ⟨discover, -⟩ | ⟨-, wrong | wrong⟩ | ⟨-, wrong⟩
      · exact discover
      · exact absurd wrong (by decide)
      · exact absurd wrong (by decide)
      · exact absurd wrong (by decide)
    have idle : packet.ciaddr = Ipv4Addr.unspecified := by
      by_contra holds
      exact benign ⟨discover, holds⟩
    rw [actual.ciaddrOffer offer, ← wellFormed.ciaddr, idle, Ipv4Addr.bytes_unspecified]

/-- A DISCOVER of the first client of the shipped file has no client address. -/
theorem header_by_type_discover : ∃ packet sent,
    reply packet Clients.shippedClient Config.shipped (.new 192 0 2 10) = .ok (some sent) ∧
      sent.HeaderByType packet Clients.shippedClient [0, 0, 0, 0] := by
  obtain ⟨packet, sent, parsed, replied, idle⟩ := exists_shipped_reply (Packet.wire 1 [])
    (fun packet _ => packet.ciaddr == Ipv4Addr.unspecified) (by decide +kernel)
  exact ⟨packet, sent, replied, (header_by_type parsed replied).mpr fun holding =>
    holding.2 (beq_iff_eq.mp idle)⟩

/-- A DISCOVER that claims to have the address 1.2.3.4. -/
def claimingDiscover : Bytes := Buffer.overwrite (Packet.wire 1 []) 12 [1, 2, 3, 4]

theorem header_by_type_fails : ∃ packet sent,
    Packet.parse claimingDiscover = .ok packet ∧
      reply packet Clients.shippedClient Config.shipped (.new 192 0 2 10) = .ok (some sent) ∧
      ¬sent.HeaderByType packet Clients.shippedClient [0, 0, 0, 0] := by
  obtain ⟨packet, sent, parsed, replied, repeated⟩ := exists_shipped_reply claimingDiscover
    (fun _ sent => sent.message == 2 && sent.field 12 16 == [1, 2, 3, 4]) (by decide +kernel)
  obtain ⟨offer, address⟩ := Bool.and_eq_true_iff.mp repeated
  refine ⟨packet, sent, parsed, replied, fun follows => ?_⟩
  have zero := follows.ciaddrOffer (beq_iff_eq.mp offer)
  rw [beq_iff_eq.mp address] at zero
  exact absurd zero (by decide)

end Macdack
