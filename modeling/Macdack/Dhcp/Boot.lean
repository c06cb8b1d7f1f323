import Macdack.Dhcp.Decoded
import Macdack.Dhcp.Fields

/-!
# Boot parameters

The boot file of a reply is the one that the profile of the detected architecture
has for the detected stage (`fileOfStage`). The program chooses between the files
of a firmware by the boot type of the client row and not by the stage; a reply is
only due when the two agree, so this is the same (`selectBootFile_of_agrees`).

`boot_parameters` says for every OFFER and ACK which file it names, and where the
name and the server stand in the header and in the options.
-/

set_option autoImplicit false

namespace Macdack

/-- The file that the configuration has for a stage on an architecture. -/
def fileOfStage (config : Config) (architecture : Architecture) : Stage → Option String
  | .bios => config.boot.architectures[architecture.name]?.bind BootFiles.biosFile
  | .uefi => config.boot.architectures[architecture.name]?.bind BootFiles.uefiFile
  | .ipxe => config.boot.architectures[architecture.name]?.bind BootFiles.ipxeFile
  | .os | .unknown => none

/-- **The selected file is that of the stage**, for a client row whose boot type is
the stage of a firmware. -/
theorem selectBootFile_of_agrees {client : Client} {stage : Stage}
    (agrees : stage = .bios ∨ stage = .uefi → stage.name = client.bootType) (config : Config)
    (architecture : Architecture) :
    selectBootFile client config stage architecture = fileOfStage config architecture stage := by
  cases stage with
  | bios =>
      have bootType : client.bootType = "bios" := (agrees (.inl rfl)).symm
      rw [selectBootFile, bootType]
      rfl
  | uefi =>
      have bootType : client.bootType = "uefi" := (agrees (.inr rfl)).symm
      rw [selectBootFile, bootType]
      rfl
  | ipxe => rfl
  | os => rfl
  | unknown => rfl

/-- A reply is due to a firmware of the boot type of the client row only. -/
theorem agrees_of_due {packet : Packet} {client : Client} {server : Ipv4Addr} {message : UInt8}
    (isDue : due packet client server = some message) :
    packet.bootStage.1 = .bios ∨ packet.bootStage.1 = .uefi →
      packet.bootStage.1.name = client.bootType := by
  intro isFirmware
  obtain ⟨-, matching, -⟩ := due_eq_some_iff.mp isDue
  have firmware : packet.bootStage.1.isFirmware = true := by
    rw [Stage.isFirmware, Bool.or_eq_true, decide_eq_true_eq, decide_eq_true_eq]
    exact isFirmware
  rw [firmware, Bool.true_and, bne_eq_false_iff_eq] at matching
  exact matching

/-- The header fields and the options of the boot file. -/
structure BootParameters (config : Config) (sent : Reply) (decoded : Options) : Prop where
  without : sent.bootFile = none →
    sent.field 20 24 = [0, 0, 0, 0] ∧ sent.field 108 236 = List.replicate 128 0 ∧
      decoded[(66 : UInt8)]? = none ∧ decoded[(67 : UInt8)]? = none
  server : ∀ file, sent.bootFile = some file →
    sent.field 20 24 = config.boot.tftpServer.bytes ∧
      decoded[(66 : UInt8)]? = some (Text.asBytes config.boot.tftpServer.toText)
  name : ∀ file, sent.bootFile = some file → decoded[(67 : UInt8)]? = some (Text.asBytes file)
  short : ∀ file, sent.bootFile = some file → Text.byteLength file < 128 →
    ∃ zeros, 0 < zeros ∧ sent.field 108 236 = Text.asBytes file ++ List.replicate zeros 0
  long : ∀ file, sent.bootFile = some file → 128 ≤ Text.byteLength file →
    sent.field 108 236 = List.replicate 128 0

/-- **Boot parameters neither loop nor leak.** Every OFFER and every ACK names the
file of the detected stage and architecture: to iPXE its own file whatever the boot
type of the row is, to a firmware the file of this firmware, which is then the boot
type of the row, and none to a system that has booted. The header fields and the
options of a boot file are there with it and only with it. -/
theorem boot_parameters {csv : CsvReader} {text : String} {clients : Clients}
    (table : Clients.parse csv text = .ok clients) {mac : Mac} {client : Client}
    (found : clients.records[mac]? = some client) {envFilter : String → Outcome PUnit}
    {config : Config} (validated : config.validate envFilter = .ok ⟨⟩) {server : Ipv4Addr}
    {bytes : Bytes} {packet : Packet} (parsed : Packet.parse bytes = .ok packet) {sent : Reply}
    (replied : reply packet client config server = .ok (some sent))
    (answers : sent.message = 2 ∨ sent.message = 5) :
    (∃ stage architecture, packet.stage = .ok (stage, architecture) ∧
      sent.bootFile = fileOfStage config architecture stage ∧
      (stage = .bios ∨ stage = .uefi → stage.name = client.bootType)) ∧
    ∃ decoded, readOptions (sent.bytes.drop 240) ∅ = .ok decoded ∧
      BootParameters config sent decoded := by
  have wellFormed := Packet.wellFormed_of_parse parsed
  have length := wellFormed.length_header
  obtain ⟨decoded, read, -, byType⟩ := options_of_reply wellFormed
    (Clients.valid_of_parse table found) (Config.valid_of_validate validated) replied
  obtain ⟨message, isDue, ⟨rest, extended⟩, -, isMessage, bootFile⟩ :=
    reply_header wellFormed replied
  have field := sent.field_of_header (length_fixedPart length client config message) extended
  rw [isMessage] at answers
  have notNak := ne_nak_of_grant answers
  have agrees := agrees_of_due isDue
  obtain ⟨serverName, fileName⟩ := byType.boot
  constructor
  · refine ⟨packet.bootStage.1, packet.bootStage.2, Packet.stage_eq packet, ?_, agrees⟩
    rw [bootFile, namedBootFile, if_neg notNak, selectBootFile_of_agrees agrees]
  · refine ⟨decoded, read, ?_, ?_, ?_, ?_, ?_⟩
    · intro unnamed
      have zeros := boot_fixedPart_none length client config (bootFile.symm.trans unnamed)
      rw [serverName, fileName, unnamed, field (by decide), field (by decide)]
      exact ⟨zeros.1, zeros.2, rfl, rfl⟩
    · intro file named
      have filled := boot_fixedPart_some length client config (bootFile.symm.trans named)
      rw [serverName, named, field (by decide)]
      exact ⟨filled.1, rfl⟩
    · intro file named
      rw [fileName, named]
      rfl
    · intro file named short
      have filled := boot_fixedPart_some length client config (bootFile.symm.trans named)
      rw [field (by decide), filled.2, if_pos short]
      exact ⟨_, Nat.sub_pos_of_lt short, rfl⟩
    · intro file named long
      have filled := boot_fixedPart_some length client config (bootFile.symm.trans named)
      rw [field (by decide), filled.2, if_neg (Nat.not_lt.mpr long)]

/-- The first client of the shipped file boots from UEFI and is offered the UEFI
file of its architecture. -/
theorem boot_parameters_shipped : ∃ packet sent decoded,
    packet.stage = .ok (.uefi, .x86_64) ∧
      reply packet Clients.shippedClient Config.shipped (.new 192 0 2 10) = .ok (some sent) ∧
      sent.bootFile = some "ipxe-x86_64.efi" ∧
      readOptions (sent.bytes.drop 240) ∅ = .ok decoded ∧
      decoded[(67 : UInt8)]? = some (Text.asBytes "ipxe-x86_64.efi") := by
  obtain ⟨packet, sent, parsed, replied, offered⟩ :=
    exists_shipped_reply (Packet.wire 1 [(93, [0, 7])])
      (fun packet sent => decide (packet.bootStage = (.uefi, .x86_64)) && sent.message == 2)
      (by decide +kernel)
  obtain ⟨isUefi, isOffer⟩ := Bool.and_eq_true_iff.mp offered
  obtain ⟨clients, table, found⟩ := Clients.exists_parse_shipped
  have isStage : packet.stage = .ok (.uefi, .x86_64) := by
    rw [Packet.stage_eq, of_decide_eq_true isUefi]
  obtain ⟨⟨stage, architecture, same, bootFile, -⟩, decoded, read, parameters⟩ :=
    boot_parameters table found Config.validate_shipped parsed replied
      (.inl (beq_iff_eq.mp isOffer))
  rw [isStage] at same
  cases same
  have named : sent.bootFile = some "ipxe-x86_64.efi" := bootFile.trans (by decide +kernel)
  exact ⟨packet, sent, decoded, isStage, replied, named, read, parameters.name _ named⟩

end Macdack
