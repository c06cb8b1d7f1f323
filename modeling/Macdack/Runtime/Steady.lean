import Macdack.Subnet
import Macdack.Dhcp.Serve
import Macdack.Dhcp.Sizes
import Macdack.Runtime.Sync

/-!
# No input panics

Datagrams, downloads and state files come from outside. None of them makes the code that
reads it panic: `Packet.parse` on any bytes (`Packet.steady_parse`), the reply of `serve` to
any datagram (`steady_serveReply`), the load of the state file (`steady_loadSaved`) and a
turn of the synchronizer on any answer (`steady_round`) return or fail, and so does the
check of a configuration (`Config.steady_validate`).

The CSV reader is outside of the repository. That it does not panic itself is a hypothesis
(`Foreign.Calm`).
-/

set_option autoImplicit false

namespace Macdack

open Outcome (Steady)

/-! ## Numbers and addresses -/

theorem steady_accumulateDigits (radix bound : ℕ) (text : List Char) (value : ℕ) :
    Steady (Text.accumulateDigits radix bound value text) := by
  induction text generalizing value with
  | nil => exact Outcome.steady_ok value
  | cons c rest ih =>
      rw [Text.accumulateDigits]
      cases Text.toDigit radix c with
      | none => exact Outcome.steady_fail _
      | some digit =>
          by_cases small : value * radix + digit < bound
          · simp only [if_pos small]
            exact ih _
          · simp only [if_neg small]
            exact Outcome.steady_fail _

theorem steady_fromStrRadix (radix bound : ℕ) (text : List Char) :
    Steady (Text.fromStrRadix radix bound text) := by
  rw [Text.fromStrRadix.eq_def]
  split
  · exact Outcome.steady_fail _
  · exact Outcome.steady_fail _
  · exact steady_accumulateDigits _ _ _ _
  · exact steady_accumulateDigits _ _ _ _

theorem steady_map {α β : Type} {x : Outcome α} (steady : Steady x) (change : α → β) :
    Steady (change <$> x) :=
  steady.bind fun _ _ => Outcome.steady_ok _

theorem steady_u8FromStrRadix (radix : ℕ) (text : List Char) :
    Steady (Text.u8FromStrRadix radix text) :=
  steady_map (steady_fromStrRadix radix 256 text) _

theorem steady_u16FromStr (text : List Char) : Steady (Text.u16FromStr text) :=
  steady_map (steady_fromStrRadix 10 65536 text) _

theorem Ipv4Addr.steady_parse (text : List Char) : Steady (Ipv4Addr.parse text) := by
  rw [Ipv4Addr.parse]
  split
  · exact Outcome.steady_ok _
  · exact Outcome.steady_fail _

/-! ## Rows and tables -/

theorem steady_parseMac (text : String) : Steady (parseMac text) := by
  have octet : ∀ part, Steady (parseMacOctet part) := fun part =>
    (steady_u8FromStrRadix 16 part).context _
  rw [parseMac]
  split
  · split
    · refine (octet _).bind fun _ _ => (octet _).bind fun _ _ => (octet _).bind fun _ _ => ?_
      exact (octet _).bind fun _ _ => (octet _).bind fun _ _ => (octet _).bind fun _ _ =>
        Outcome.steady_ok _
    · exact Outcome.steady_fail _
  · exact Outcome.steady_fail _

/-- The mask of a prefix in range does not overflow. -/
theorem steady_checkSubnet (ip gateway : Ipv4Addr) {prefixLength : UInt8}
    (bound : prefixLength ≤ 32) : Steady (checkSubnet ip gateway prefixLength) := by
  rw [checkSubnet, prefixMask_eq bound, Outcome.bind_ok]
  refine (Outcome.steady_ensure _ _).bind fun _ _ => (Outcome.steady_ensure _ _).bind fun _ _ => ?_
  split
  · refine (Outcome.steady_ensure _ _).bind fun _ _ => ?_
    exact (Outcome.steady_ensure _ _).bind fun _ _ => Outcome.steady_ensure _ _
  · exact Outcome.steady_ensure _ _

theorem steady_parseClient (row : List String) : Steady (parseClient row) := by
  rw [parseClient.eq_def]
  split
  · refine (Outcome.steady_ensure _ _).bind fun _ _ => ?_
    refine (Outcome.steady_ensure _ _).bind fun _ _ => ?_
    refine (Outcome.steady_ensure _ _).bind fun _ _ => ?_
    refine (Outcome.steady_ensure _ _).bind fun _ _ => ?_
    refine ((steady_u16FromStr _).context _).bind fun _ _ => ?_
    refine (Outcome.steady_ensure _ _).bind fun _ _ => ?_
    refine (steady_parseMac _).bind fun _ _ => ?_
    refine (Outcome.steady_ensure _ _).bind fun _ _ => ?_
    refine ((Ipv4Addr.steady_parse _).context _).bind fun _ _ => ?_
    refine ((steady_u8FromStrRadix 10 _).context _).bind fun prefixLength _ => ?_
    refine (Outcome.steady_ensure _ _).bind fun _ inRange => ?_
    refine ((Ipv4Addr.steady_parse _).context _).bind fun _ _ => ?_
    rw [Outcome.ensure_eq_ok, decide_eq_true_eq] at inRange
    have bound : prefixLength ≤ 32 := UInt8.le_trans inRange.2 (by decide)
    exact (steady_checkSubnet _ _ bound).bind fun _ _ => Outcome.steady_ok _
  · exact Outcome.steady_fail _

namespace Clients

theorem steady_insertRows {rows : List (Outcome CsvRow)} (calm : ∀ row ∈ rows, Steady row)
    (index : ℕ) (clients : Clients) : Steady (insertRows index clients rows) := by
  induction rows generalizing index clients with
  | nil => exact Outcome.steady_ok clients
  | cons row rest ih =>
      rw [List.forall_mem_cons] at calm
      rw [insertRows]
      refine (calm.1.context _).bind fun row _ => ?_
      split
      · exact ih calm.2 _ _
      · refine ((steady_parseClient _).context _).bind fun client _ => ?_
        refine (Outcome.steady_ensure _ _).bind fun _ _ => ?_
        exact (Outcome.steady_ensure _ _).bind fun _ _ => ih calm.2 _ _

end Clients

/-- The CSV reader gives an error for what it cannot read. -/
def Foreign.Calm (foreign : Foreign) : Prop :=
  ∀ text, ∀ row ∈ foreign.csv text, Steady row

section Tables

variable {foreign : Foreign} (calm : foreign.Calm)

include calm

theorem steady_decode (bytes : Bytes) : Steady (decode foreign bytes) :=
  ((Outcome.steady_required _ _).context _).bind fun text _ =>
    Clients.steady_insertRows (calm text) 0 Clients.empty

/-- **Loading the state file** does not panic, whatever is in it. -/
theorem steady_loadSaved (bytes : Bytes) : Steady (loadSaved foreign bytes) :=
  (Outcome.steady_ensure _ _).bind fun _ _ =>
    (Outcome.steady_required _ _).bind fun text _ =>
      Clients.steady_insertRows (calm text) 0 Clients.empty

end Tables

/-! ## Datagrams -/

/-- An area that is malformed is an error. -/
theorem steady_readOptions (bytes : Bytes) (options : Options) :
    Steady (readOptions bytes options) := by
  rw [readOptions_eq]
  cases OptionStream.scan bytes with
  | ok fragments => exact Outcome.steady_ok _
  | error malformed => exact Outcome.steady_fail _

theorem steady_readOverload {bytes : Bytes} (length : 240 ≤ bytes.length) (options : Options) :
    Steady (readOverload bytes options) := by
  have field : ∀ (flag : UInt8) (area : Bytes) (options : Options),
      Steady (if flag ≠ 0 then readOptions area options else .ok options) := by
    intro flag area options
    split
    · exact steady_readOptions _ _
    · exact Outcome.steady_ok _
  rw [readOverload.eq_def, Buffer.sliceChecked_eq (by decide) (show 236 ≤ bytes.length by omega),
    Buffer.sliceChecked_eq (by decide) (show 108 ≤ bytes.length by omega)]
  match options[(52 : UInt8)]? with
  | none => exact Outcome.steady_ok _
  | some [] => exact Outcome.steady_fail _
  | some [overload] =>
      refine (Outcome.steady_ensure _ _).bind fun _ _ => (Outcome.steady_ok _).bind fun _ _ => ?_
      by_cases file : overload &&& 1 ≠ 0
      · simp only [if_pos file, Outcome.bind_ok]
        exact (steady_readOptions _ _).bind fun options _ => field _ _ options
      · simp only [if_neg file, Outcome.bind_ok]
        exact field _ _ _
  | some (_ :: _ :: _) => exact Outcome.steady_fail _

theorem steady_readIp {bytes : Bytes} {offset : ℕ} (inside : offset + 4 ≤ bytes.length) :
    Steady (readIp bytes offset) := by
  simp only [readIp, Buffer.index_eq (show offset < bytes.length by omega),
    Buffer.index_eq (show offset + 1 < bytes.length by omega),
    Buffer.index_eq (show offset + 2 < bytes.length by omega),
    Buffer.index_eq (show offset + 3 < bytes.length by omega), Outcome.bind_ok]
  exact Outcome.steady_ok _

theorem steady_checkLength (options : Options) (rule : UInt8 × ℕ) :
    Steady (checkLength options rule) := by
  rw [checkLength]
  cases options[rule.1]? with
  | none => exact Outcome.steady_ok _
  | some value => exact Outcome.steady_ensure _ _

theorem steady_checkArchitectures (options : Options) : Steady (checkArchitectures options) := by
  rw [checkArchitectures]
  cases options[(93 : UInt8)]? with
  | none => exact Outcome.steady_ok _
  | some value => exact Outcome.steady_ensure _ _

theorem steady_arrayOf (n : ℕ) (bytes : Bytes) : Steady (arrayOf n bytes) := by
  rw [arrayOf]
  split
  · exact Outcome.steady_ok _
  · exact Outcome.steady_fail _

/-- **Parsing a datagram** does not panic, whatever its bytes are. -/
theorem Packet.steady_parse (bytes : Bytes) : Steady (Packet.parse bytes) := by
  by_cases length : 240 ≤ bytes.length
  · rw [Packet.parse]
    simp only [Buffer.sliceChecked_eq (Nat.zero_le 3) (show 3 ≤ bytes.length by omega),
      Buffer.sliceChecked_eq (show 236 ≤ 240 by decide) length, Buffer.suffixChecked_eq length,
      Buffer.sliceChecked_eq (Nat.zero_le 236) (show 236 ≤ bytes.length by omega),
      Buffer.sliceChecked_eq (show 28 ≤ 34 by decide) (show 34 ≤ bytes.length by omega),
      Outcome.bind_ok]
    refine (Outcome.steady_ensure _ _).bind fun _ _ => ?_
    refine (Outcome.steady_ensure _ _).bind fun _ _ => ?_
    refine (Outcome.steady_ensure _ _).bind fun _ _ => ?_
    refine (steady_readOptions _ _).bind fun _ _ => ?_
    refine (steady_readOverload length _).bind fun options _ => ?_
    refine (Outcome.steady_each fun rule _ => steady_checkLength options rule).bind fun _ _ => ?_
    refine (steady_checkArchitectures _).bind fun _ _ => ?_
    refine (Outcome.steady_required _ _).bind fun _ _ => ?_
    refine (Outcome.steady_ensure _ _).bind fun _ _ => ?_
    refine (steady_arrayOf _ _).bind fun _ _ => ?_
    refine (steady_readIp (by omega)).bind fun _ _ => ?_
    exact (steady_readIp (by omega)).bind fun _ _ => Outcome.steady_ok _
  · rw [Packet.parse, decide_eq_false length]
    exact Outcome.steady_fail _

/-! ## Replies -/

/-- A reply does not panic either, also when the server address cannot be used. -/
theorem steady_reply {packet : Packet} (wellFormed : packet.WellFormed) {client : Client}
    (maskable : client.Maskable) {config : Config} (valid : config.Valid) (server : Ipv4Addr) :
    Steady (reply packet client config server) := by
  by_cases usable : usableServer server
  · intro panics
    obtain ⟨impossible, -⟩ := (reply_eq_error_iff usable wellFormed maskable valid _).mp panics
    cases impossible
  · have refused : (!server.isUnspecified && !server.isBroadcast && !server.isMulticast) =
        false := by
      rw [← Bool.not_eq_true]
      simpa [usableServer, and_assoc] using usable
    rw [reply, refused]
    exact Outcome.steady_fail _

/-- **The reply of `serve`** to any datagram does not panic, when the clients of the
snapshot have masks. -/
theorem steady_serveReply {snapshot : Option Clients}
    (maskable : ∀ clients, snapshot = some clients → ∀ (mac : Mac) (client : Client),
      clients.records[mac]? = some client → client.Maskable)
    {config : Config} (valid : config.Valid) (server : Ipv4Addr) (bytes : Bytes) :
    Steady (serveReply snapshot config server bytes) := by
  refine (Packet.steady_parse bytes).bind fun packet parsed => ?_
  split
  · rename_i client found
    obtain ⟨clients, active, listed⟩ := Option.bind_eq_some_iff.mp found
    rw [Packet.bootModeMismatch_eq, Outcome.bind_ok]
    split
    · exact Outcome.steady_ok _
    · exact steady_reply (Packet.wellFormed_of_parse parsed)
        (maskable clients active _ client listed) valid server
  · exact Outcome.steady_ok _

/-! ## Turns of the synchronizer -/

theorem steady_receive (bytes : Bytes) (chunks : List Bytes) (failure : Option (List String)) :
    Steady (receive bytes chunks failure) := by
  induction chunks generalizing bytes with
  | nil =>
      cases failure with
      | none => exact Outcome.steady_ok _
      | some chain => nofun
  | cons chunk rest ih =>
      rw [receive]
      split
      · exact Outcome.steady_fail _
      · exact ih _

theorem steady_fetch (foreign : Foreign) (cache : RemoteCache) (answer : Answer) :
    Steady (fetch foreign cache answer) := by
  cases answer with
  | failed chain => nofun
  | received response =>
      rw [fetch, download]
      split
      · split
        · exact Outcome.steady_fail _
        · exact Outcome.steady_ok _
      · refine (Outcome.steady_ensure _ _).bind fun _ _ => ?_
        refine (Outcome.steady_ensure _ _).bind fun _ _ => ?_
        refine (Outcome.steady_ensure _ _).bind fun _ _ => ?_
        exact (steady_receive _ _ _).bind fun _ _ => Outcome.steady_ok _

/-- Persisting fails with an error. -/
theorem Persisted.steady {faults : Faults} {path : PathBuf} {pid sequence : ℕ} {bytes : Bytes}
    {before after : StateDir} {result : Outcome Unit}
    (persisted : Persisted faults path pid sequence bytes before result after) : Steady result := by
  cases persisted with
  | early => exact Outcome.steady_fail _
  | late => exact Outcome.steady_fail _
  | done => exact Outcome.steady_ok _

/-- **A turn of the synchronizer** does not panic, whatever the remote source answers and
whichever calls fail. -/
theorem steady_round {foreign : Foreign} (calm : foreign.Calm) (path : PathBuf)
    (system : System) (round : Round) : Steady (system.round foreign path round).1 := by
  obtain ⟨result, memory, dir, turn, ends⟩ := round_polled foreign path system round
  rw [turn]
  change Steady result
  cases ends with
  | rejected rejects =>
      cases rejects with
      | fetch refused => exact (steady_fetch foreign _ _).of_error refused
      | decode _ _ refused => exact (steady_decode calm _).of_error refused
  | unchanged => exact Outcome.steady_ok _
  | same => exact Outcome.steady_ok _
  | unsaved _ _ persisted => exact persisted.steady.context _
  | saved => exact Outcome.steady_ok _

/-! ## Configurations -/

theorem steady_parseRoute (route : String) : Steady (parseRoute route) := by
  refine (Outcome.steady_required _ _).bind fun parts _ => ?_
  refine ((Ipv4Addr.steady_parse _).context _).bind fun network _ => ?_
  refine ((steady_u8FromStrRadix 10 _).context _).bind fun prefixLength _ => ?_
  refine (Outcome.steady_ensure _ _).bind fun _ inRange => ?_
  rw [Outcome.ensure_eq_ok, decide_eq_true_eq] at inRange
  rw [prefixMask_eq inRange.2, Outcome.bind_ok]
  exact (Outcome.steady_ensure _ _).bind fun _ _ => Outcome.steady_ok _

theorem steady_validateArchitecture (profile : String × BootFiles) :
    Steady (validateArchitecture profile) :=
  (Outcome.steady_ensure _ _).bind fun _ _ =>
    Outcome.steady_each fun _ _ => Outcome.steady_ensure _ _

theorem steady_validateUrl (source : String) : Steady (validateUrl source) :=
  (Outcome.steady_ensure _ _).bind fun _ _ => Outcome.steady_ensure _ _

theorem Config.steady_validate {envFilter : String → Outcome PUnit}
    (calm : ∀ level, Steady (envFilter level)) (config : Config) :
    Steady (config.validate envFilter) := by
  refine (Outcome.steady_ensure _ _).bind fun _ _ => ?_
  refine (Outcome.steady_each fun _ _ => Outcome.steady_ensure _ _).bind fun _ _ => ?_
  refine (Outcome.steady_ensure _ _).bind fun _ _ => ?_
  refine (Outcome.steady_ensure _ _).bind fun _ _ => ?_
  refine ((calm _).context _).bind fun _ _ => ?_
  refine (Outcome.steady_ensure _ _).bind fun _ _ => ?_
  refine (Outcome.steady_ensure _ _).bind fun _ _ => ?_
  refine (steady_validateUrl _).bind fun _ _ => ?_
  refine (Outcome.steady_ensure _ _).bind fun _ _ => ?_
  refine (Outcome.steady_ensure _ _).bind fun _ _ => ?_
  refine (Outcome.steady_each fun _ _ => Outcome.steady_ensure _ _).bind fun _ _ => ?_
  refine (Outcome.steady_ensure _ _).bind fun _ _ => ?_
  refine (Outcome.steady_each fun route _ =>
    (steady_parseRoute route).bind fun _ _ => Outcome.steady_ok _).bind fun _ _ => ?_
  refine (Outcome.steady_ensure _ _).bind fun _ _ => ?_
  exact Outcome.steady_each fun profile _ => steady_validateArchitecture profile

end Macdack
