import Macdack.Dhcp.Contents

/-!
# The header of a reply

The fields of the header that a reply copies from the request, and the address
it grants. They depend neither on the routes nor on the settings, so what is said
here holds for every client row and every configuration, validated or not
(`reply_header`).
-/

set_option autoImplicit false

namespace Macdack

/-! ## Fields of the fixed part -/

/-- No write behind the echo touches the range. -/
structure Untouched (low high : ℕ) : Prop where
  refused : high ≤ 10 ∨ 16 ≤ low
  granted : high ≤ 16 ∨ 20 ≤ low
  boot : high ≤ 20 ∨ (24 ≤ low ∧ high ≤ 108) ∨ 236 ≤ low

theorem apart_refusalWrites (packet : Packet) {low high : ℕ} (apart : high ≤ 10 ∨ 16 ≤ low) :
    Buffer.Apart low high (refusalWrites packet) := by
  rw [refusalWrites]
  split
  · simp [Buffer.Apart]
    omega
  · simp [Buffer.Apart]
    omega

theorem apart_grantWrites (client : Client) (granted : Bool) {low high : ℕ}
    (apart : high ≤ 16 ∨ 20 ≤ low) : Buffer.Apart low high (grantWrites client granted) := by
  rw [grantWrites]
  split
  · simp [Buffer.Apart]
    omega
  · exact fun _ member => absurd member List.not_mem_nil

theorem apart_bootWrites (config : Config) (bootFile : Option String) {low high : ℕ}
    (apart : high ≤ 20 ∨ (24 ≤ low ∧ high ≤ 108) ∨ 236 ≤ low) :
    Buffer.Apart low high (bootWrites config bootFile) := by
  cases bootFile with
  | none => exact fun _ member => absurd member List.not_mem_nil
  | some file =>
      rw [bootWrites]
      split
      · rename_i short
        rw [Text.byteLength] at short
        simp [Buffer.Apart]
        omega
      · simp [Buffer.Apart]
        omega

theorem apart_laterWrites (packet : Packet) (client : Client) (config : Config) (message : UInt8)
    {low high : ℕ} (untouched : Untouched low high) :
    Buffer.Apart low high (laterWrites packet client config message) := by
  obtain ⟨refused, granted, boot⟩ := untouched
  rw [laterWrites]
  split
  · exact apart_refusalWrites packet refused
  · rw [Buffer.Apart, List.forall_mem_append]
    exact ⟨apart_grantWrites client _ granted, apart_bootWrites config _ boot⟩

theorem slice_fixedPart {packet : Packet} (length : packet.header.length = 236) (client : Client)
    (config : Config) (message : UInt8) {low high : ℕ} (untouched : Untouched low high) :
    Buffer.slice (fixedPart packet client config message) low high =
      Buffer.slice (echoedHeader packet) low high := by
  have later : Buffer.Fits 240 (laterWrites packet client config message) := fun write member =>
    fits_headerWrites length client config message write (List.mem_append_right _ member)
  rw [fixedPart, headerWrites, Buffer.overwriteAll_append]
  exact Buffer.slice_overwriteAll_of_apart
    (by rw [← echoedHeader, length_echoedHeader length]; exact later)
    (apart_laterWrites packet client config message untouched)

/-- What a reply has from the request and what it leaves zero, in the fields
that no later write touches. -/
structure Echo (packet : Packet) (bytes : Bytes) : Prop where
  op : Buffer.slice bytes 0 3 = [2, 1, 6]
  hops : Buffer.slice bytes 3 4 = [0]
  xid : Buffer.slice bytes 4 8 = Buffer.slice packet.header 4 8
  secs : Buffer.slice bytes 8 10 = [0, 0]
  relay : Buffer.slice bytes 24 44 = Buffer.slice packet.header 24 44
  sname : Buffer.slice bytes 44 108 = List.replicate 64 0
  magic : Buffer.slice bytes 236 240 = cookie

/-- A range that the echo does not write is zero. -/
theorem slice_echoedHeader_of_apart {packet : Packet} (length : packet.header.length = 236)
    {low high : ℕ} (inside : high ≤ 240) (apart : Buffer.Apart low high (echoWrites packet)) :
    Buffer.slice (echoedHeader packet) low high = List.replicate (high - low) 0 := by
  have fits : Buffer.Fits (List.replicate 240 (0 : UInt8)).length (echoWrites packet) := by
    rw [List.length_replicate]
    exact fits_echoWrites length
  rw [echoedHeader, Buffer.slice_overwriteAll_of_apart fits apart, Buffer.slice,
    List.take_replicate, List.drop_replicate, Nat.min_eq_left inside]

/-- What the echo writes is read back. -/
theorem slice_echoedHeader_of_write {packet : Packet} (length : packet.header.length = 236)
    (earlier : List (ℕ × Bytes)) {later : List (ℕ × Bytes)} {position : ℕ} {source : Bytes}
    (split : echoWrites packet = earlier ++ (position, source) :: later)
    (apart : Buffer.Apart position (position + source.length) later) :
    Buffer.slice (echoedHeader packet) position (position + source.length) = source := by
  have fits : Buffer.Fits (List.replicate 240 (0 : UInt8)).length
      (earlier ++ (position, source) :: later) := by
    rw [List.length_replicate, ← split]
    exact fits_echoWrites length
  rw [echoedHeader, split]
  exact Buffer.slice_overwriteAll_self earlier fits apart

theorem echo_echoedHeader {packet : Packet} (length : packet.header.length = 236) :
    Echo packet (echoedHeader packet) where
  op := slice_echoedHeader_of_write length [] rfl (by simp [Buffer.Apart])
  hops := slice_echoedHeader_of_apart length (by decide) (by simp [Buffer.Apart, echoWrites])
  xid := by
    have read := slice_echoedHeader_of_write length [(0, [2, 1, 6])] rfl
      (by simp [Buffer.Apart, length])
    rwa [Buffer.length_slice_of_le (by omega)] at read
  secs := slice_echoedHeader_of_apart length (by decide)
    (by simp [Buffer.Apart, echoWrites, length])
  relay := by
    have read := slice_echoedHeader_of_write length
      [(0, [2, 1, 6]), (4, Buffer.slice packet.header 4 8),
        (10, Buffer.slice packet.header 10 16)] rfl (by simp [Buffer.Apart, length])
    rwa [Buffer.length_slice_of_le (by omega)] at read
  sname := slice_echoedHeader_of_apart length (by decide)
    (by simp [Buffer.Apart, echoWrites, length])
  magic := slice_echoedHeader_of_write length
    [(0, [2, 1, 6]), (4, Buffer.slice packet.header 4 8), (10, Buffer.slice packet.header 10 16),
      (24, Buffer.slice packet.header 24 44)] rfl nofun

/-- **The echo** in the header of a reply. -/
theorem echo_fixedPart {packet : Packet} (length : packet.header.length = 236) (client : Client)
    (config : Config) (message : UInt8) : Echo packet (fixedPart packet client config message) := by
  obtain ⟨op, hops, xid, secs, relay, sname, magic⟩ := echo_echoedHeader length
  have same : ∀ {low high : ℕ}, Untouched low high →
      Buffer.slice (fixedPart packet client config message) low high =
        Buffer.slice (echoedHeader packet) low high := fun untouched =>
    slice_fixedPart length client config message untouched
  constructor
  · rw [same ⟨by decide, by decide, by decide⟩]
    exact op
  · rw [same ⟨by decide, by decide, by decide⟩]
    exact hops
  · rw [same ⟨by decide, by decide, by decide⟩]
    exact xid
  · rw [same ⟨by decide, by decide, by decide⟩]
    exact secs
  · rw [same ⟨by decide, by decide, by decide⟩]
    exact relay
  · rw [same ⟨by decide, by decide, by decide⟩]
    exact sname
  · rw [same ⟨by decide, by decide, by decide⟩]
    exact magic

/-- The address field of a reply: the address of the client row in a reply that
grants it, and zero in any other. -/
theorem yiaddr_fixedPart {packet : Packet} (length : packet.header.length = 236) (client : Client)
    (config : Config) (message : UInt8) :
    Buffer.slice (fixedPart packet client config message) 16 20 =
      if grants packet message then client.ip.bytes else [0, 0, 0, 0] := by
  have echoed := length_echoedHeader length
  have zero : Buffer.slice (echoedHeader packet) 16 20 = [0, 0, 0, 0] :=
    slice_echoedHeader_of_apart length (by decide)
      (by simp [Buffer.Apart, echoWrites, length, cookie])
  rw [fixedPart, headerWrites, Buffer.overwriteAll_append, ← echoedHeader, laterWrites]
  by_cases refused : message = 6
  · subst refused
    rw [if_pos rfl, Buffer.slice_overwriteAll_of_apart
      (by rw [echoed]; exact fits_refusalWrites packet)
      (apart_refusalWrites packet (.inr (by decide))), zero]
    rfl
  · have granted := Buffer.length_overwriteAll echoed
      (fits_grantWrites client (grants packet message))
    rw [if_neg refused, Buffer.overwriteAll_append, Buffer.slice_overwriteAll_of_apart
      (by rw [granted]; exact fits_bootWrites config _)
      (apart_bootWrites config _ (.inl (by decide)))]
    cases grants packet message with
    | false => exact zero
    | true => exact Buffer.slice_overwrite_self (by omega) (by rw [Ipv4Addr.length_bytes])

/-! ## The header of any reply -/

theorem settingOptions_extends {packet : Packet} {client : Client} {config : Config}
    {bytes result : Bytes} (returned : settingOptions packet client config bytes = .ok result) :
    ∃ rest, result = bytes ++ rest := by
  rw [settingOptions, Outcome.bind_eq_ok] at returned
  obtain ⟨count, -, returned⟩ := returned
  rw [Outcome.pure_eq_ok, Except.ok.injEq] at returned
  subst returned
  split <;> simp [option]

theorem routeOptions_extends {packet : Packet} {client : Client} {config : Config}
    {bytes result : Bytes} (returned : routeOptions packet client config bytes = .ok result) :
    ∃ rest, result = bytes ++ rest := by
  rw [routeOptions, Packet.routeMode_eq, Outcome.bind_ok] at returned
  cases classless : packet.wantsClassless with
  | false =>
      rw [classless] at returned
      exact ⟨_, (Except.ok.inj returned).symm⟩
  | true =>
      rw [classless, if_pos rfl, if_pos rfl, Outcome.bind_eq_ok] at returned
      obtain ⟨routes, -, returned⟩ := returned
      exact ⟨_, (Except.ok.inj returned).symm⟩

/-- Whatever follows it, a message starts with the fixed part. -/
theorem answer_header {packet : Packet} (length : packet.header.length = 236) {client : Client}
    {config : Config} {server : Ipv4Addr} {message : UInt8} {bytes : Bytes}
    {bootFile : Option String}
    (answered : answer packet client config server message = .ok (bytes, bootFile)) :
    (∃ rest, bytes = fixedPart packet client config message ++ rest) ∧
      bootFile = namedBootFile packet client config message := by
  have echoed := length_echoedHeader length
  rw [answer, replyHeader_eq length, Outcome.bind_ok, identityOptions_eq] at answered
  rw [fixedPart, headerWrites, laterWrites, Buffer.overwriteAll_append, ← echoedHeader,
    namedBootFile]
  by_cases refused : message = 6
  · rw [if_pos refused, refuse_eq echoed (getElem?_echoedHeader length), Outcome.bind_ok,
      Outcome.pure_eq_ok, Except.ok.injEq, Prod.mk.injEq] at answered
    rw [if_pos refused, if_pos refused]
    exact ⟨⟨_, answered.1.symm⟩, answered.2.symm⟩
  · have granted := Buffer.length_overwriteAll echoed
      (fits_grantWrites client (grants packet message))
    rw [if_neg refused, grantOptions_eq packet client config refused echoed, Outcome.bind_ok,
      Outcome.bind_eq_ok] at answered
    obtain ⟨settings, settingsEq, answered⟩ := answered
    rw [Outcome.bind_eq_ok] at answered
    obtain ⟨routes, routesEq, answered⟩ := answered
    obtain ⟨settingsRest, rfl⟩ := settingOptions_extends settingsEq
    obtain ⟨routesRest, rfl⟩ := routeOptions_extends routesEq
    rw [List.append_assoc, List.append_assoc, bootOptions_eq packet client config granted,
      Except.ok.injEq, Prod.mk.injEq] at answered
    rw [if_neg refused, if_neg refused, Buffer.overwriteAll_append]
    exact ⟨⟨_, answered.1.symm⟩, answered.2.symm⟩

/-- Closing a message appends to it. -/
theorem finish_extends {packet : Packet} {message : UInt8} {bytes : Bytes}
    {bootFile : Option String} {sent : Reply}
    (finished : finish packet message bytes bootFile = .ok sent) :
    (∃ rest, sent.bytes = bytes ++ rest) ∧ sent.destination = destination packet message ∧
      sent.message = message ∧ sent.bootFile = bootFile := by
  rw [finish, Outcome.bind_eq_ok] at finished
  obtain ⟨maximum, -, finished⟩ := finished
  have extended : ∃ rest, (relayOption packet maximum bytes).1 = bytes ++ rest := by
    rw [relayOption]
    split
    · exact ⟨[], (List.append_nil _).symm⟩
    · split
      · exact ⟨[], (List.append_nil _).symm⟩
      · dsimp only
        split
        · exact ⟨_, rfl⟩
        · exact ⟨[], (List.append_nil _).symm⟩
  obtain ⟨rest, extended⟩ := extended
  simp only [extended, Outcome.bind_eq_ok, Outcome.pure_eq_ok, Except.ok.injEq] at finished
  obtain ⟨_, -, rfl⟩ := finished
  refine ⟨?_, rfl, rfl, rfl⟩
  change ∃ more, pad (bytes ++ rest ++ [255]) = bytes ++ more
  rw [pad, List.append_assoc, List.append_assoc]
  exact ⟨_, rfl⟩

/-- **The header of any reply.** A reply answers a message that is due, and it
starts with the fixed part. -/
theorem reply_header {packet : Packet} (wellFormed : packet.WellFormed) {client : Client}
    {config : Config} {server : Ipv4Addr} {sent : Reply}
    (replied : reply packet client config server = .ok (some sent)) :
    ∃ message, due packet client server = some message ∧
      (∃ rest, sent.bytes = fixedPart packet client config message ++ rest) ∧
      sent.destination = destination packet message ∧ sent.message = message ∧
      sent.bootFile = namedBootFile packet client config message := by
  rw [reply, Outcome.bind_eq_ok] at replied
  obtain ⟨_, -, replied⟩ := replied
  rw [dueMessage_eq, Outcome.bind_ok] at replied
  cases isDue : due packet client server with
  | none =>
      rw [isDue] at replied
      cases replied
  | some message =>
      rw [isDue] at replied
      simp only [Outcome.bind_eq_ok, Outcome.pure_eq_ok, Except.ok.injEq, Option.some.injEq]
        at replied
      obtain ⟨⟨bytes, bootFile⟩, answered, built, finished, rfl⟩ := replied
      obtain ⟨⟨front, rfl⟩, rfl⟩ := answer_header wellFormed.length_header answered
      obtain ⟨⟨rest, extended⟩, destinationEq, messageEq, bootFileEq⟩ := finish_extends finished
      refine ⟨message, rfl, ⟨front ++ rest, ?_⟩, destinationEq, messageEq, bootFileEq⟩
      rw [extended, List.append_assoc]

/-- A field of the header of a reply. -/
theorem slice_of_header {fixed rest : Bytes} (room : fixed.length = 240) {low high : ℕ}
    (inside : high ≤ 240) : Buffer.slice (fixed ++ rest) low high = Buffer.slice fixed low high :=
  Buffer.slice_append_left (by rw [room]; exact inside)

end Macdack
