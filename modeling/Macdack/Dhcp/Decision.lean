import Macdack.Dhcp.Header
import Macdack.Dhcp.Sizes

/-!
# Which message answers which request

A client sends a REQUEST in one of three states, which differ in where the
address it names stands: SELECTING and INIT-REBOOT name it in option 50, the first
with a server identifier and the second without one, and a renewing or rebinding
client names its own address in the header (`RequestState`, `Packet.InState`).

The program decides by excluding combinations. `requestMessage_of_inState` and
`requestMessage_of_no_state` show that what is left are these states: a REQUEST in
one of them is answered by whether the named address is that of the client row,
and any other is not answered. `replies_by_state` is the whole decision, for every
message type.
-/

set_option autoImplicit false

namespace Macdack

/-- The states in which a client sends a REQUEST. -/
inductive RequestState where
  | selecting
  | initReboot
  | renewing
  deriving DecidableEq, Repr

namespace Packet

/-- The option is present. -/
def Has (packet : Packet) (code : UInt8) : Prop := (packet.options[code]?).isSome = true

/-- What a REQUEST of each state carries. -/
def InState (packet : Packet) : RequestState → Prop
  | .selecting => packet.Has 54 ∧ packet.Has 50 ∧ packet.ciaddr = Ipv4Addr.unspecified
  | .initReboot => packet.Has 50 ∧ ¬packet.Has 54 ∧ packet.ciaddr = Ipv4Addr.unspecified
  | .renewing => ¬packet.Has 50 ∧ ¬packet.Has 54 ∧ packet.ciaddr ≠ Ipv4Addr.unspecified

/-- The address that a REQUEST of each state names. -/
def namedIn (packet : Packet) : RequestState → Option Ipv4Addr
  | .selecting | .initReboot => packet.ipOption 50
  | .renewing => some packet.ciaddr

/-- The request names the address, in option 50 or in its header. -/
def Names (packet : Packet) (ip : Ipv4Addr) : Prop :=
  packet.ipOption 50 = some ip ∨ packet.ciaddr = ip ∧ ip ≠ Ipv4Addr.unspecified

/-- No message answers the request: it is for another server, from a firmware of
the other boot mode, or of a kind without an answer. -/
inductive Ignored (packet : Packet) (client : Client) (server : Ipv4Addr) : Prop where
  | otherServer (value : Bytes) (present : packet.options[(54 : UInt8)]? = some value)
      (differs : value ≠ server.bytes)
  | otherFirmware (stage : Stage) (architecture : Architecture)
      (detected : packet.stage = .ok (stage, architecture))
      (isFirmware : stage = .bios ∨ stage = .uefi) (differs : stage.name ≠ client.bootType)
  | release (message : packet.message = 7)
  | decline (message : packet.message = 4)
  | inform (message : packet.message = 8) (idle : packet.ciaddr = Ipv4Addr.unspecified)

end Packet

theorem contains_iff_has {packet : Packet} {code : UInt8} :
    packet.options.contains code = true ↔ packet.Has code := by
  rw [Std.ExtTreeMap.contains_eq_isSome_getElem?, Packet.Has]

/-! ## The states of a REQUEST -/

/-- A request is in one state at most. -/
theorem inState_unique {packet : Packet} {first second : RequestState}
    (inFirst : packet.InState first) (inSecond : packet.InState second) : first = second := by
  cases first with
  | selecting =>
      cases second with
      | selecting => rfl
      | initReboot => exact absurd inFirst.1 inSecond.2.1
      | renewing => exact absurd inFirst.1 inSecond.2.1
  | initReboot =>
      cases second with
      | selecting => exact absurd inSecond.1 inFirst.2.1
      | initReboot => rfl
      | renewing => exact absurd inFirst.1 inSecond.1
  | renewing =>
      cases second with
      | selecting => exact absurd inSecond.1 inFirst.2.1
      | initReboot => exact absurd inSecond.1 inFirst.1
      | renewing => rfl

/-- An option of four bytes is an address. -/
theorem exists_ipOption {packet : Packet} {code : UInt8} (present : packet.Has code)
    (four : ∀ value, packet.options[code]? = some value → value.length = 4) :
    ∃ ip, packet.ipOption code = some ip := by
  obtain ⟨value, found⟩ := Option.isSome_iff_exists.mp present
  obtain ⟨ip, read⟩ := Option.isSome_iff_exists.mp (Ipv4Addr.ofBytes?_isSome (four value found))
  exact ⟨ip, by rw [Packet.ipOption, found, Option.bind_some, read]⟩

/-- An option that is absent is no address. -/
theorem ipOption_eq_none {packet : Packet} {code : UInt8} (absent : ¬packet.Has code) :
    packet.ipOption code = none := by
  rw [Packet.Has, Bool.not_eq_true, Option.isSome_eq_false_iff, Option.isNone_iff_eq_none] at absent
  rw [Packet.ipOption, absent, Option.bind_none]

/-- A request in a state names an address. -/
theorem exists_namedIn {packet : Packet} (rules : Packet.Rules packet.options packet.message)
    {state : RequestState} (inState : packet.InState state) :
    ∃ ip, packet.namedIn state = some ip := by
  cases state with
  | selecting => exact exists_ipOption inState.2.1 rules.requested
  | initReboot => exact exists_ipOption inState.1 rules.requested
  | renewing => exact ⟨packet.ciaddr, rfl⟩

/-- In each state it names that address and no other. -/
theorem names_iff_of_inState {packet : Packet} {state : RequestState}
    (inState : packet.InState state) {ip : Ipv4Addr} (named : packet.namedIn state = some ip)
    (other : Ipv4Addr) : packet.Names other ↔ other = ip := by
  have unnamed : packet.ciaddr = Ipv4Addr.unspecified → packet.ipOption 50 = some ip →
      (packet.Names other ↔ other = ip) := by
    intro idle requested
    rw [Packet.Names, requested, idle, Option.some.injEq]
    constructor
    · rintro (same | ⟨same, specified⟩)
      · exact same.symm
      · exact absurd same.symm specified
    · rintro rfl
      exact .inl rfl
  cases state with
  | selecting => exact unnamed inState.2.2 named
  | initReboot => exact unnamed inState.2.2 named
  | renewing =>
      obtain ⟨unrequested, -, renewing⟩ := inState
      cases named
      rw [Packet.Names, ipOption_eq_none unrequested]
      constructor
      · rintro (wrong | ⟨same, -⟩)
        · cases wrong
        · exact same.symm
      · rintro rfl
        exact .inr ⟨rfl, renewing⟩

/-- **A REQUEST in a state** is answered by whether the address it names is that of
the client row. -/
theorem requestMessage_of_inState {packet : Packet} {client : Client} {state : RequestState}
    (inState : packet.InState state) {ip : Ipv4Addr} (named : packet.namedIn state = some ip) :
    requestMessage packet client = some (if ip = client.ip then 5 else 6) := by
  cases state with
  | selecting =>
      obtain ⟨selected, requested, idle⟩ := inState
      change packet.ipOption 50 = some ip at named
      rw [requestMessage, contains_iff_has.mpr selected, contains_iff_has.mpr requested,
        Ipv4Addr.isUnspecified_iff.mpr idle, named]
      rfl
  | initReboot =>
      obtain ⟨requested, unselected, idle⟩ := inState
      change packet.ipOption 50 = some ip at named
      rw [requestMessage, Bool.eq_false_iff.mpr (contains_iff_has.not.mpr unselected),
        contains_iff_has.mpr requested, Ipv4Addr.isUnspecified_iff.mpr idle, named]
      rfl
  | renewing =>
      obtain ⟨unrequested, unselected, renewing⟩ := inState
      rw [requestMessage, Bool.eq_false_iff.mpr (contains_iff_has.not.mpr unselected),
        Bool.eq_false_iff.mpr (contains_iff_has.not.mpr unrequested),
        Bool.eq_false_iff.mpr (Ipv4Addr.isUnspecified_iff.not.mpr renewing),
        ipOption_eq_none unrequested, ← Option.some.inj named]
      rfl

/-- **A REQUEST in no state** is not answered. The cases are the eight ways in
which the three sources of an address can be there or not. -/
theorem requestMessage_of_no_state {packet : Packet} {client : Client}
    (stateless : ∀ state, ¬packet.InState state) : requestMessage packet client = none := by
  have notSelecting := stateless .selecting
  have notReboot := stateless .initReboot
  have notRenewing := stateless .renewing
  simp only [Packet.InState] at notSelecting notReboot notRenewing
  by_cases selected : packet.Has 54
  · by_cases requested : packet.Has 50
    · have renewing : packet.ciaddr ≠ Ipv4Addr.unspecified := fun idle =>
        notSelecting ⟨selected, requested, idle⟩
      rw [requestMessage, contains_iff_has.mpr requested,
        Bool.eq_false_iff.mpr (Ipv4Addr.isUnspecified_iff.not.mpr renewing)]
      rfl
    · rw [requestMessage, contains_iff_has.mpr selected,
        Bool.eq_false_iff.mpr (contains_iff_has.not.mpr requested)]
      exact if_pos (by simp)
  · by_cases requested : packet.Has 50
    · have renewing : packet.ciaddr ≠ Ipv4Addr.unspecified := fun idle =>
        notReboot ⟨requested, selected, idle⟩
      rw [requestMessage, contains_iff_has.mpr requested,
        Bool.eq_false_iff.mpr (Ipv4Addr.isUnspecified_iff.not.mpr renewing)]
      rfl
    · have idle : packet.ciaddr = Ipv4Addr.unspecified :=
        not_not.mp fun renewing => notRenewing ⟨requested, selected, renewing⟩
      rw [requestMessage, Bool.eq_false_iff.mpr (contains_iff_has.not.mpr selected),
        Bool.eq_false_iff.mpr (contains_iff_has.not.mpr requested),
        Ipv4Addr.isUnspecified_iff.mpr idle,
        ipOption_eq_none requested]
      rfl

/-! ## The filters -/

/-- The server filter: option 54 is present with another address. -/
theorem otherServer_iff {packet : Packet} (rules : Packet.Rules packet.options packet.message)
    {server : Ipv4Addr} :
    (packet.ipOption 54).any (fun ip => ip != server) = true ↔
      ∃ value, packet.options[(54 : UInt8)]? = some value ∧ value ≠ server.bytes := by
  rw [Packet.ipOption]
  cases found : packet.options[(54 : UInt8)]? with
  | none => simp
  | some value =>
      obtain ⟨ip, read⟩ :=
        Option.isSome_iff_exists.mp (Ipv4Addr.ofBytes?_isSome (rules.server value found))
      have bytes := Ipv4Addr.bytes_of_ofBytes? read
      rw [Option.bind_some, read, Option.any_some, bne_iff_ne]
      constructor
      · intro other
        refine ⟨value, rfl, fun same => other ?_⟩
        exact Ipv4Addr.bytes_injective (bytes.trans same)
      · rintro ⟨_, ⟨rfl⟩, other⟩ rfl
        exact other bytes.symm

/-- The boot mode filter: a firmware stage that is not that of the client row. -/
theorem otherFirmware_iff {packet : Packet} {client : Client} :
    (packet.bootStage.1.isFirmware && packet.bootStage.1.name != client.bootType) = true ↔
      ∃ stage architecture, packet.stage = .ok (stage, architecture) ∧
        (stage = .bios ∨ stage = .uefi) ∧ stage.name ≠ client.bootType := by
  rw [Packet.stage_eq, Bool.and_eq_true, bne_iff_ne, Stage.isFirmware, Bool.or_eq_true,
    decide_eq_true_eq, decide_eq_true_eq]
  constructor
  · rintro ⟨isFirmware, other⟩
    exact ⟨_, _, rfl, isFirmware, other⟩
  · rintro ⟨stage, architecture, same, isFirmware, other⟩
    rw [Except.ok.inj same]
    exact ⟨isFirmware, other⟩

/-- An ignored request has no answer. -/
theorem due_of_ignored {packet : Packet} (rules : Packet.Rules packet.options packet.message)
    {client : Client} {server : Ipv4Addr} (ignored : packet.Ignored client server) :
    due packet client server = none := by
  rw [due]
  cases ignored with
  | otherServer value present differs =>
      rw [(otherServer_iff rules).mpr ⟨value, present, differs⟩]
      rfl
  | otherFirmware stage architecture detected isFirmware differs =>
      rw [otherFirmware_iff.mpr ⟨stage, architecture, detected, isFirmware, differs⟩, Bool.or_true]
      rfl
  | release message =>
      rw [replyMessage, message]
      exact ite_self _
  | decline message =>
      rw [replyMessage, message]
      exact ite_self _
  | inform message idle =>
      rw [replyMessage, message, Ipv4Addr.isUnspecified_iff.mpr idle]
      exact ite_self _

/-- A request that is not ignored gets past the filters. -/
theorem due_of_not_ignored {packet : Packet} (rules : Packet.Rules packet.options packet.message)
    {client : Client} {server : Ipv4Addr} (heeded : ¬packet.Ignored client server) :
    due packet client server = replyMessage packet client := by
  rw [due, if_neg]
  rw [Bool.or_eq_true, otherServer_iff rules, otherFirmware_iff]
  rintro (⟨value, present, differs⟩ | ⟨stage, architecture, detected, isFirmware, differs⟩)
  · exact heeded (.otherServer value present differs)
  · exact heeded (.otherFirmware stage architecture detected isFirmware differs)

/-! ## The decision -/

/-- The request is answered with the message, or its answer is too large for the
client. -/
def AnsweredWith (packet : Packet) (client : Client) (config : Config) (server : Ipv4Addr)
    (message : UInt8) : Prop :=
  (∃ sent, reply packet client config server = .ok (some sent) ∧ sent.message = message) ∨
    sizeLimit packet < bareSize packet client config server message ∧
      reply packet client config server = Outcome.fail (oversizeText packet)

section Decided

variable {packet : Packet} {client : Client} {config : Config} {server : Ipv4Addr}

/-- What is due is the answer. -/
theorem answeredWith_of_due (usable : usableServer server) (wellFormed : packet.WellFormed)
    (maskable : client.Maskable) (valid : config.Valid) {message : UInt8}
    (isDue : due packet client server = some message) :
    AnsweredWith packet client config server message := by
  have replied := reply_of_due usable wellFormed valid isDue (.inr maskable)
  by_cases oversize : sizeLimit packet < bareSize packet client config server message
  · rw [if_pos oversize] at replied
    exact .inr ⟨oversize, replied⟩
  · rw [if_neg oversize] at replied
    exact .inl ⟨_, replied, rfl⟩

/-- A request without a due message is not answered. -/
theorem not_answeredWith (nothing : reply packet client config server = .ok none)
    (message : UInt8) : ¬AnsweredWith packet client config server message := by
  rintro (⟨sent, replied, -⟩ | ⟨-, failed⟩)
  · rw [nothing] at replied
    cases replied
  · rw [nothing] at failed
    cases failed

/-- A REQUEST that is answered is in a state. -/
theorem exists_inState_of_due (request : packet.message = 3) {message : UInt8}
    (isDue : due packet client server = some message) :
    (∃ state, packet.InState state) ∧ requestMessage packet client = some message := by
  obtain ⟨-, -, answer⟩ := due_eq_some_iff.mp isDue
  rw [replyMessage, request, if_neg (by decide), if_pos rfl] at answer
  refine ⟨?_, answer⟩
  by_contra stateless
  rw [requestMessage_of_no_state (not_exists.mp stateless)] at answer
  cases answer

/-- **The message of a reply to a REQUEST** tells whether the request named the
address of the client row. -/
theorem names_of_reply (wellFormed : packet.WellFormed) (request : packet.message = 3)
    {sent : Reply} (replied : reply packet client config server = .ok (some sent)) :
    (sent.message = 5 ∧ ∀ ip, packet.Names ip ↔ ip = client.ip) ∨
      (sent.message = 6 ∧ ¬packet.Names client.ip) := by
  obtain ⟨message, isDue, -, -, isMessage, -⟩ := reply_header wellFormed replied
  obtain ⟨⟨state, inState⟩, answer⟩ := exists_inState_of_due request isDue
  obtain ⟨ip, named⟩ := exists_namedIn wellFormed.rules inState
  rw [requestMessage_of_inState inState named, Option.some.injEq] at answer
  rw [isMessage, ← answer]
  by_cases own : ip = client.ip
  · left
    rw [if_pos own, ← own]
    exact ⟨rfl, names_iff_of_inState inState named⟩
  · right
    rw [if_neg own, names_iff_of_inState inState named]
    exact ⟨rfl, fun same => own same.symm⟩

/-- A REQUEST that is not ignored is answered exactly when it is in exactly one
state, by the address that it names there. -/
theorem request_by_state (usable : usableServer server) (wellFormed : packet.WellFormed)
    (maskable : client.Maskable) (valid : config.Valid)
    (heeded : ¬packet.Ignored client server) (request : packet.message = 3) :
    ((∃ message, AnsweredWith packet client config server message) ↔
        ∃! state, packet.InState state) ∧
      ((¬∃! state, packet.InState state) → reply packet client config server = .ok none) ∧
      ∀ state, packet.InState state → ∃ ip, packet.namedIn state = some ip ∧
        AnsweredWith packet client config server (if ip = client.ip then 5 else 6) := by
  have isDue : due packet client server = requestMessage packet client := by
    rw [due_of_not_ignored wellFormed.rules heeded, replyMessage, request, if_neg (by decide),
      if_pos rfl]
  have silent : (¬∃! state, packet.InState state) →
      reply packet client config server = .ok none := by
    intro notOne
    refine reply_of_not_due usable config (isDue.trans (requestMessage_of_no_state ?_))
    intro state inState
    exact notOne ⟨state, inState, fun other inOther => inState_unique inOther inState⟩
  have answered : ∀ state, packet.InState state → ∃ ip, packet.namedIn state = some ip ∧
      AnsweredWith packet client config server (if ip = client.ip then 5 else 6) := by
    intro state inState
    obtain ⟨ip, named⟩ := exists_namedIn wellFormed.rules inState
    exact ⟨ip, named, answeredWith_of_due usable wellFormed maskable valid
      (isDue.trans (requestMessage_of_inState inState named))⟩
  refine ⟨⟨?_, ?_⟩, silent, answered⟩
  · rintro ⟨message, answer⟩
    by_contra notOne
    exact not_answeredWith (silent notOne) message answer
  · rintro ⟨state, inState, -⟩
    obtain ⟨ip, -, answer⟩ := answered state inState
    exact ⟨_, answer⟩

end Decided

/-- **Which message answers which request.** For a parsed datagram, a client of a
parsed table, a validated configuration and a usable server address: an ignored
request is not answered. Of the others a DISCOVER gets an OFFER and an INFORM an
ACK, and a REQUEST is answered exactly when it is in exactly one state, with ACK
when the address it names there is that of the client row and NAK when it is not.
So an ACK to a REQUEST goes to one that names the address of the row and no other,
and a NAK to one that does not name it. -/
theorem replies_by_state {csv : CsvReader} {text : String} {clients : Clients}
    (table : Clients.parse csv text = .ok clients) {mac : Mac} {client : Client}
    (found : clients.records[mac]? = some client) {envFilter : String → Outcome PUnit}
    {config : Config} (validated : config.validate envFilter = .ok ⟨⟩) {server : Ipv4Addr}
    (usable : usableServer server) {bytes : Bytes} {packet : Packet}
    (parsed : Packet.parse bytes = .ok packet) :
    (packet.Ignored client server → reply packet client config server = .ok none) ∧
    (¬packet.Ignored client server →
      (packet.message = 1 → AnsweredWith packet client config server 2) ∧
      (packet.message = 8 → AnsweredWith packet client config server 5) ∧
      (packet.message = 3 →
        ((∃ message, AnsweredWith packet client config server message) ↔
          ∃! state, packet.InState state) ∧
        ((¬∃! state, packet.InState state) → reply packet client config server = .ok none) ∧
        ∀ state, packet.InState state → ∃ ip, packet.namedIn state = some ip ∧
          AnsweredWith packet client config server (if ip = client.ip then 5 else 6))) ∧
    (packet.message = 3 → ∀ sent, reply packet client config server = .ok (some sent) →
      (sent.message = 5 ∧ ∀ ip, packet.Names ip ↔ ip = client.ip) ∨
        (sent.message = 6 ∧ ¬packet.Names client.ip)) := by
  have wellFormed := Packet.wellFormed_of_parse parsed
  have maskable := (Clients.valid_of_parse table found).maskable
  have valid := Config.valid_of_validate validated
  have answered : ∀ {message : UInt8}, due packet client server = some message →
      AnsweredWith packet client config server message := fun isDue =>
    answeredWith_of_due usable wellFormed maskable valid isDue
  refine ⟨?_, ?_, fun request sent replied => names_of_reply wellFormed request replied⟩
  · intro ignored
    exact reply_of_not_due usable config (due_of_ignored wellFormed.rules ignored)
  · intro heeded
    have isDue := due_of_not_ignored wellFormed.rules heeded
    refine ⟨?_, ?_, request_by_state usable wellFormed maskable valid heeded⟩
    · intro discover
      refine answered (isDue.trans ?_)
      rw [replyMessage, discover, if_pos rfl]
    · intro inform
      have asks : packet.ciaddr ≠ Ipv4Addr.unspecified := fun idle =>
        heeded (.inform inform idle)
      refine answered (isDue.trans ?_)
      rw [replyMessage, inform, Bool.eq_false_iff.mpr (Ipv4Addr.isUnspecified_iff.not.mpr asks)]
      rfl

/-- A REQUEST after a reboot of the first client of the shipped file names its
address and is acknowledged. -/
theorem replies_by_state_shipped : ∃ packet sent,
    reply packet Clients.shippedClient Config.shipped (.new 192 0 2 10) = .ok (some sent) ∧
      packet.message = 3 ∧ sent.message = 5 ∧
      ∀ ip, packet.Names ip ↔ ip = Clients.shippedClient.ip := by
  obtain ⟨packet, sent, parsed, replied, acknowledged⟩ :=
    exists_shipped_reply (Packet.wire 3 [(50, [1, 2, 3, 4])])
      (fun packet sent => packet.message == 3 && sent.message == 5) (by decide +kernel)
  obtain ⟨request, isAck⟩ := Bool.and_eq_true_iff.mp acknowledged
  obtain ⟨clients, table, found⟩ := Clients.exists_parse_shipped
  have decided := (replies_by_state table found Config.validate_shipped
    ⟨by decide, by decide, by decide⟩ parsed).2.2 (beq_iff_eq.mp request) sent replied
  rcases decided with ⟨ack, names⟩ | ⟨nak, -⟩
  · exact ⟨packet, sent, replied, beq_iff_eq.mp request, ack, names⟩
  · rw [nak] at isAck
    exact absurd isAck (by decide)

end Macdack
