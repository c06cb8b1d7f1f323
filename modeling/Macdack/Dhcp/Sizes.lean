import Macdack.Dhcp.Contents

/-!
# Replies fail for their size only

Between the checks of `Packet.parse`, of the client table and of
`Config.validate`, nothing in `reply` can go wrong but the size of the message:
no slice, copy, index or subtraction panics, every validated route is parsed
again, and every validated boot file name fits where it is copied
(`reply_fails_only_for_size`).
-/

set_option autoImplicit false

namespace Macdack

/-- A client of a parsed table has a mask. -/
theorem Client.Valid.maskable {client : Client} (valid : client.Valid) : client.Maskable :=
  UInt8.le_trans valid.prefixLength_le (by decide)

/-- A boot file name shorter than the file field is copied inside of it. -/
theorem copy_bootFile {bytes : Bytes} (length : 240 ≤ bytes.length) {file : String}
    (short : Text.byteLength file < 128) :
    108 + Text.byteLength file ≤ 236 ∧
      ∃ written, Buffer.copyFromSlice bytes 108 (108 + Text.byteLength file) (Text.asBytes file) =
        .ok written := by
  have inside : 108 + Text.byteLength file ≤ bytes.length := by omega
  exact ⟨by omega, _, Buffer.copyFromSlice_eq (Nat.le_add_right _ _) inside
    (Nat.add_sub_cancel_left _ _).symm⟩

/-- A validated boot file name is one fragment of its option. -/
theorem length_chunks_bootFile {file : String} (valid : ValidBootFile file) :
    (OptionStream.chunks 255 (by decide) (Text.asBytes file)).length = 1 := by
  have length_le : (Text.asBytes file).length ≤ 255 := valid.length_le
  have length_pos : (Text.asBytes file).length ≠ 0 := fun empty =>
    valid.nonempty (Text.byteLength_eq_zero_iff.mp empty)
  rw [OptionStream.length_chunks]
  omega

/-- The error of an oversized reply is not a panic. -/
theorem reply_eq_error_iff {server : Ipv4Addr} (usable : usableServer server) {packet : Packet}
    (wellFormed : packet.WellFormed) {client : Client} (maskable : client.Maskable)
    {config : Config} (valid : config.Valid) (stop : Stop) :
    reply packet client config server = .error stop ↔
      stop = .error [oversizeText packet] ∧
        ∃ message, due packet client server = some message ∧
          sizeLimit packet < bareSize packet client config server message := by
  cases isDue : due packet client server with
  | none => simp [reply_of_not_due usable config isDue]
  | some message =>
      rw [reply_of_due usable wellFormed valid isDue (.inr maskable)]
      by_cases oversize : sizeLimit packet < bareSize packet client config server message
      · simp [Outcome.fail, oversize, eq_comm]
      · simp [oversize]

/-- **`reply` fails only for size.** For a parsed datagram, a client of a parsed
table, a validated configuration and a usable server address, `reply` never
panics, and it fails exactly when a reply is due whose bytes without the relay
option, with the end mark and before the padding, exceed the limit. Every route
that validation accepts is accepted again with the same network and prefix, and
every validated boot file name fits the file field when it is copied there and
one option otherwise. -/
theorem reply_fails_only_for_size {csv : CsvReader} {text : String} {clients : Clients}
    (table : Clients.parse csv text = .ok clients) {mac : Mac} {client : Client}
    (found : clients.records[mac]? = some client) {envFilter : String → Outcome PUnit}
    {config : Config} (validated : config.validate envFilter = .ok ⟨⟩) {server : Ipv4Addr}
    (usable : usableServer server) {bytes : Bytes} {packet : Packet}
    (parsed : Packet.parse bytes = .ok packet) :
    reply packet client config server ≠ .error .panic ∧
      ((∃ chain, reply packet client config server = .error (.error chain)) ↔
        ∃ message body bootFile, dueMessage packet client server = .ok (some message) ∧
          answer packet client config server message = .ok (body, bootFile) ∧
            sizeLimit packet < (body ++ [255]).length) ∧
      (∀ (route : String) (net : Ipv4Addr) (prefixLength : UInt8),
        parseRoute route = .ok (net, prefixLength) → replyRoute route = .ok (net, prefixLength)) ∧
      (∀ (architecture : String) (files : BootFiles) (file : String),
        config.boot.architectures[architecture]? = some files → files.Has file →
          (OptionStream.chunks 255 (by decide) (Text.asBytes file)).length = 1 ∧
            (Text.byteLength file < 128 → ∀ bytes : Bytes, 240 ≤ bytes.length →
              108 + Text.byteLength file ≤ 236 ∧
                ∃ written, Buffer.copyFromSlice bytes 108 (108 + Text.byteLength file)
                  (Text.asBytes file) = .ok written)) := by
  have wellFormed := Packet.wellFormed_of_parse parsed
  have maskable := (Clients.valid_of_parse table found).maskable
  have valid := Config.valid_of_validate validated
  refine ⟨?_, ?_, ?_, ?_⟩
  · intro panics
    obtain ⟨impossible, -⟩ := (reply_eq_error_iff usable wellFormed maskable valid _).mp panics
    cases impossible
  · have size : ∀ message, (fixedPart packet client config message ++
        (contents packet client config server message).encode ++ [255]).length =
        bareSize packet client config server message := by
      intro message
      rw [List.length_append, List.length_append, length_fixedPart wellFormed.length_header]
      rfl
    constructor
    · rintro ⟨chain, failed⟩
      obtain ⟨-, message, isDue, oversize⟩ :=
        (reply_eq_error_iff usable wellFormed maskable valid _).mp failed
      refine ⟨message, _, _, ?_, answer_eq wellFormed.length_header valid server (.inr maskable),
        ?_⟩
      · rw [dueMessage_eq, isDue]
      · rw [size]
        exact oversize
    · rintro ⟨message, body, bootFile, isDue, answered, oversize⟩
      rw [dueMessage_eq, Except.ok.injEq] at isDue
      rw [answer_eq wellFormed.length_header valid server (.inr maskable), Except.ok.injEq,
        Prod.mk.injEq] at answered
      rw [← answered.1, size] at oversize
      exact ⟨_, (reply_eq_error_iff usable wellFormed maskable valid _).mpr
        ⟨rfl, message, isDue, oversize⟩⟩
  · intro route net prefixLength accepted
    exact (replyRoute_of_parseRoute accepted).1
  · intro architecture files file profile has
    exact ⟨length_chunks_bootFile (valid.bootFile architecture files profile file has),
      fun short bytes length => copy_bootFile length short⟩

/-- The shipped configuration with a hundred name servers. -/
def crowdedConfig : Config :=
  { Config.shipped with
    clientOptions := { Config.shipped.clientOptions with
      dns := List.replicate 100 (.new 10 10 0 53) } }

/-- A DISCOVER of the first client of the shipped file gets an OFFER, which is within the limit.
With a hundred name servers no reply is built, since it would be above the limit. -/
theorem reply_shipped_discover : ∃ packet sent,
    Packet.parse (Packet.wire 1 []) = .ok packet ∧
      reply packet Clients.shippedClient Config.shipped (.new 192 0 2 10) = .ok (some sent) ∧
      sent.message = 2 ∧
      (∀ message body bootFile,
        dueMessage packet Clients.shippedClient (.new 192 0 2 10) = .ok (some message) →
          answer packet Clients.shippedClient Config.shipped (.new 192 0 2 10) message =
            .ok (body, bootFile) → (body ++ [255]).length ≤ sizeLimit packet) ∧
      reply packet Clients.shippedClient crowdedConfig (.new 192 0 2 10) ≠ .error .panic ∧
      ∃ message body bootFile,
        dueMessage packet Clients.shippedClient (.new 192 0 2 10) = .ok (some message) ∧
          answer packet Clients.shippedClient crowdedConfig (.new 192 0 2 10) message =
            .ok (body, bootFile) ∧ sizeLimit packet < (body ++ [255]).length := by
  obtain ⟨clients, table, found⟩ := Clients.exists_parse_shipped
  have usable : usableServer (.new 192 0 2 10) := ⟨by decide, by decide, by decide⟩
  obtain ⟨packet, sent, parsed, replied, offered⟩ := exists_shipped_reply (Packet.wire 1 [])
    (fun packet sent => sent.message == 2 &&
      !(reply packet Clients.shippedClient crowdedConfig (.new 192 0 2 10)).isOk)
    (by decide +kernel)
  obtain ⟨isOffer, refused⟩ := Bool.and_eq_true_iff.mp offered
  obtain ⟨-, fits, -⟩ :=
    reply_fails_only_for_size table found Config.validate_shipped usable parsed
  have validated : crowdedConfig.validate (fun _ => .ok ⟨⟩) = .ok ⟨⟩ := by decide +kernel
  obtain ⟨calm, oversize, -⟩ := reply_fails_only_for_size table found validated usable parsed
  refine ⟨packet, sent, parsed, replied, beq_iff_eq.mp isOffer, ?_, calm, oversize.mp ?_⟩
  · intro message body bootFile isDue answered
    by_contra above
    obtain ⟨chain, failed⟩ :=
      fits.mpr ⟨message, body, bootFile, isDue, answered, Nat.lt_of_not_le above⟩
    rw [replied] at failed
    cases failed
  · match result : reply packet Clients.shippedClient crowdedConfig (.new 192 0 2 10) with
    | .ok outcome =>
        rw [result] at refused
        cases refused
    | .error (.error chain) => exact ⟨chain, rfl⟩
    | .error .panic => exact absurd result calm

end Macdack
