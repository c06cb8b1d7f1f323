import Macdack.FieldText
import Macdack.Hostname

/-!
# The settings of the server

`Config::validate` makes its checks one after the other and stops at the first that fails.
`config_validate_exact` says which configurations pass all of them, without the checks:
what an address, a timezone, a URL, a route and a boot file have to be
(`Config.Acceptable`).
-/

set_option autoImplicit false

namespace Macdack

open Decimal (Spells)

/-! ## Addresses -/

/-- The address of one host: below `224.0.0.0`, and not `0.0.0.0`. -/
def Ipv4Addr.IsHost (ip : Ipv4Addr) : Prop := ip ≠ .unspecified ∧ ip.toU32 < 0xe0000000

/-- **Unicast addresses** are those of hosts. -/
theorem isUnicast_iff {ip : Ipv4Addr} : isUnicast ip = true ↔ ip.IsHost := by
  have second := ip.octets[1].toNat_lt
  have third := ip.octets[2].toNat_lt
  have fourth := ip.octets[3].toNat_lt
  have below : ip.toU32 < 0xe0000000 ↔ ip.octets[0].toNat < 224 := by
    rw [UInt32.lt_iff_toNat_lt, Ipv4Addr.toNat_toU32]
    change _ < 0xe0000000 ↔ _
    omega
  rw [Ipv4Addr.IsHost, below]
  simp only [isUnicast, Ipv4Addr.isMulticast, Ipv4Addr.isBroadcast, Bool.and_eq_true,
    Bool.not_eq_true', Bool.and_eq_false_iff, decide_eq_false_iff_not, decide_eq_true_eq,
    UInt8.lt_iff_toNat_lt, UInt8.le_iff_toNat_le]
  rw [← Bool.not_eq_true, Ipv4Addr.isUnspecified_iff]
  constructor
  · rintro ⟨⟨⟨concrete, multicast⟩, -⟩, small⟩
    refine ⟨concrete, ?_⟩
    have first : ip.octets[0].toNat < 224 ∨ 239 < ip.octets[0].toNat :=
      multicast.imp Nat.not_le.mp Nat.not_le.mp
    have reserved : ip.octets[0].toNat < 240 := small
    omega
  · rintro ⟨concrete, small⟩
    refine ⟨⟨⟨concrete, .inl (Nat.not_le.mpr small)⟩, ?_⟩, ?_⟩
    · rintro rfl
      exact absurd small (by decide)
    · change ip.octets[0].toNat < 240
      omega

/-! ## Timezones -/

/-- A letter, a digit or one of the three signs of zone names. -/
def isZoneChar (c : Char) : Bool := isAsciiAlphanumeric c || c == '_' || c == '-' || c == '+'

/-- The text is a timezone: names between slashes, of at most 255 bytes together. -/
structure IsTimezone (value : String) (parts : List (List Char)) : Prop where
  nonempty : parts ≠ []
  each : ∀ part ∈ parts, part ≠ [] ∧ ∀ c ∈ part, isZoneChar c = true
  text : value.toList = ['/'].intercalate parts
  short : Text.byteLength value ≤ 255

/-- The characters of a zone name are visible ASCII characters and no slashes. -/
theorem bounds_of_isZoneChar {c : Char} (isChar : isZoneChar c = true) :
    0x2b ≤ c.toNat ∧ c.toNat ≤ 0x7a ∧ c ≠ '/' := by
  simp only [isZoneChar, Bool.or_eq_true, beq_iff_eq] at isChar
  rcases isChar with ((isChar | rfl) | rfl) | rfl
  · obtain ⟨low, high⟩ := bounds_of_alphanumeric isChar
    refine ⟨Nat.le_trans (by decide) low, high, ?_⟩
    rintro rfl
    exact absurd low (by decide)
  · decide
  · decide
  · decide

theorem isControl_of_bounds {c : Char} (bounds : 0x2b ≤ c.toNat ∧ c.toNat ≤ 0x7a) :
    isControl c = false := by
  rw [isControl, Bool.or_eq_false_iff, Bool.and_eq_false_iff, decide_eq_false_iff_not,
    decide_eq_false_iff_not]
  exact ⟨by omega, .inl (by omega)⟩

/-- The characters of a timezone are visible ASCII characters. -/
theorem IsTimezone.bounds {value : String} {parts : List (List Char)}
    (zone : IsTimezone value parts) : ∀ c ∈ value.toList, 0x2b ≤ c.toNat ∧ c.toNat ≤ 0x7a := by
  intro c member
  by_cases slash : c = '/'
  · rw [slash]
    decide
  · rw [zone.text] at member
    obtain ⟨part, listed, inside⟩ := (mem_intercalate slash).mp member
    obtain ⟨low, high, -⟩ := bounds_of_isZoneChar ((zone.each part listed).2 c inside)
    exact ⟨low, high⟩

theorem IsTimezone.splitOn {value : String} {parts : List (List Char)}
    (zone : IsTimezone value parts) : value.toList.splitOn '/' = parts := by
  rw [zone.text]
  refine List.splitOn_intercalate '/' (fun part listed slash => ?_) zone.nonempty
  exact (bounds_of_isZoneChar ((zone.each part listed).2 '/' slash)).2.2 rfl

/-- **Which texts are timezones.** -/
theorem validTimezone_iff {value : String} :
    validTimezone value = true ↔ ∃ parts, IsTimezone value parts := by
  have zoneChar : ∀ c, (isAsciiAlphanumeric c || c == '_' || c == '-' || c == '+') =
      isZoneChar c := fun _ => rfl
  simp only [validTimezone, Bool.and_eq_true, bne_iff_ne, decide_eq_true_eq, Bool.not_eq_true',
    List.all_eq_true, List.isEmpty_eq_false_iff, zoneChar]
  constructor
  · rintro ⟨⟨⟨-, short⟩, -⟩, each⟩
    exact ⟨_, {
      nonempty := List.splitOn_ne_nil _ _
      each
      text := (List.intercalate_splitOn '/').symm
      short }⟩
  · rintro ⟨parts, zone⟩
    refine ⟨⟨⟨?_, zone.short⟩, ?_⟩, ?_⟩
    · rintro rfl
      have parts := zone.splitOn
      rw [String.toList_empty, List.splitOn_nil] at parts
      exact (zone.each [] (parts ▸ .head _)).1 rfl
    · rw [List.any_eq_false]
      intro c member
      rw [isControl_of_bounds (zone.bounds c member)]
      exact Bool.false_ne_true
    · rw [zone.splitOn]
      exact zone.each

/-! ## URLs -/

/-- The text is a URL of the web: a scheme, a host that does not start with a slash and what
follows it, without a blank. -/
structure IsUrl (source : String) (host : List Char) : Prop where
  text : source.toList = "http".toList ++ "://".toList ++ host ∨
    source.toList = "https".toList ++ "://".toList ++ host
  nonempty : host ≠ []
  front : host.head? ≠ some '/'
  blanks : ∀ c ∈ host, isWhitespace c = false

/-- Behind a text without a colon, the first separator is the next one. -/
theorem splitOnce_scheme {scheme host : List Char} (plain : ':' ∉ scheme) :
    Text.splitOnce "://".toList (scheme ++ "://".toList ++ host) = some (scheme, host) := by
  rw [List.append_assoc]
  refine (Text.splitOnce_eq_some_iff (List.cons_ne_nil _ _)).mpr ⟨rfl, fun earlier later same => ?_⟩
  by_contra shorter
  rw [Nat.not_le] at shorter
  have found : (scheme ++ ("://".toList ++ host))[earlier.length]? = some ':' := by
    rw [same, List.getElem?_append_right (Nat.le_refl _), Nat.sub_self]
    rfl
  rw [List.getElem?_append_left shorter] at found
  exact plain (List.mem_of_getElem? found)

/-- The second check of a URL, behind a scheme of the web. -/
theorem host_iff {source : String} {scheme host : List Char}
    (known : scheme = "http".toList ∨ scheme = "https".toList)
    (text : source.toList = scheme ++ "://".toList ++ host) :
    (!source.toList.any isWhitespace &&
      (match Text.splitOnce "://".toList source.toList with
      | some (_, host) => !host.isEmpty && host.head? != some '/'
      | none => false)) = true ↔
    host ≠ [] ∧ host.head? ≠ some '/' ∧ ∀ c ∈ host, isWhitespace c = false := by
  have plain : ':' ∉ scheme ∧ scheme.any isWhitespace = false := by
    rcases known with rfl | rfl <;> decide
  have separator : "://".toList.any isWhitespace = false := by decide
  rw [text, splitOnce_scheme plain.1, List.any_append, List.any_append, plain.2, separator]
  simp only [Bool.false_or, Bool.and_eq_true, Bool.not_eq_true', List.any_eq_false, bne_iff_ne,
    List.isEmpty_eq_false_iff, Bool.not_eq_true]
  constructor
  · rintro ⟨blanks, nonempty, front⟩
    exact ⟨nonempty, front, blanks⟩
  · rintro ⟨nonempty, front, blanks⟩
    exact ⟨blanks, nonempty, front⟩

/-- **Which texts are URLs of the web.** -/
theorem validateUrl_iff {source : String} {result : PUnit} :
    validateUrl source = .ok result ↔ ∃ host, IsUrl source host := by
  simp only [validateUrl, Outcome.bind_eq_ok, Outcome.ensure_eq_ok, Bool.or_eq_true,
    List.isPrefixOf_iff_prefix]
  constructor
  · rintro ⟨-, ⟨host, text⟩ | ⟨host, text⟩, rest⟩
    · obtain ⟨nonempty, front, blanks⟩ := (host_iff (.inr rfl) text.symm).mp rest
      exact ⟨host, .inr text.symm, nonempty, front, blanks⟩
    · obtain ⟨nonempty, front, blanks⟩ := (host_iff (.inl rfl) text.symm).mp rest
      exact ⟨host, .inl text.symm, nonempty, front, blanks⟩
  · rintro ⟨host, text | text, nonempty, front, blanks⟩
    · exact ⟨⟨⟩, .inr ⟨host, text.symm⟩, (host_iff (.inl rfl) text).mpr ⟨nonempty, front, blanks⟩⟩
    · exact ⟨⟨⟩, .inl ⟨host, text.symm⟩, (host_iff (.inr rfl) text).mpr ⟨nonempty, front, blanks⟩⟩

/-! ## Routes and boot files -/

/-- The text is a route: the printed address of a network, a slash and a text of its prefix,
which leaves the network no host bits. -/
def IsRoute (route : String) : Prop :=
  ∃ (net : Ipv4Addr) (prefixLength : UInt8) (digits : List Char),
    route.toList = net.toText.toList ++ '/' :: digits ∧ Spells digits prefixLength.toNat ∧
      (1 ≤ prefixLength ∧ prefixLength ≤ 32) ∧ net.host prefixLength = 0

theorem isRoute_iff {route : String} :
    (∃ parsed, parseRoute route = .ok parsed) ↔ IsRoute route := by
  constructor
  · rintro ⟨⟨net, prefixLength⟩, parsed⟩
    obtain ⟨digits, whole, spells⟩ := text_of_parseRoute parsed
    obtain ⟨positive, bound, noHost⟩ := host_of_parseRoute parsed
    exact ⟨net, prefixLength, digits, whole, spells, ⟨positive, bound⟩, noHost⟩
  · rintro ⟨net, prefixLength, digits, whole, spells, bounds, noHost⟩
    exact ⟨_, parseRoute_of_text whole spells bounds noHost⟩

theorem validateBootFile_iff {architecture file : String} :
    validateBootFile architecture file = .ok ⟨⟩ ↔ ValidBootFile file := by
  refine ⟨validBootFile_of_check, fun valid => ?_⟩
  rw [validateBootFile, Outcome.ensure_eq_ok, Bool.and_eq_true, Bool.and_eq_true, bne_iff_ne,
    decide_eq_true_eq, Bool.not_eq_true']
  exact ⟨⟨valid.nonempty, valid.length_le⟩, valid.printable⟩

/-- **Which profiles pass.** -/
theorem validateArchitecture_iff {profile : String × BootFiles} :
    validateArchitecture profile = .ok ⟨⟩ ↔
      profile.1 ≠ "" ∧ ∀ file, profile.2.Has file → ValidBootFile file := by
  simp only [validateArchitecture, Outcome.bind_eq_ok, Outcome.ensure_eq_ok, Outcome.each_eq_ok,
    bne_iff_ne, validateBootFile_iff, List.reduceOption_mem_iff, List.mem_cons, List.not_mem_nil,
    or_false, BootFiles.Has, eq_comm (a := some _)]
  constructor
  · rintro ⟨-, checks⟩
    exact checks
  · exact fun checks => ⟨⟨⟩, checks⟩

/-! ## Configurations -/

/-- What every setting has to be. -/
structure Config.Acceptable (envFilter : String → Outcome PUnit) (config : Config) : Prop where
  listenIp : config.dhcp.listenIp = .unspecified ∨ config.dhcp.listenIp.IsHost
  serverIdentifier : ∀ ip, config.dhcp.serverIdentifier = some ip → ip.IsHost
  leaseSeconds : 0 < config.dhcp.leaseSeconds
  port : 0 < config.http.port
  level : envFilter config.logging.level = .ok ⟨⟩
  pollInterval : 0 < config.clientsSource.pollIntervalSeconds
  timeout : 0 < config.clientsSource.timeoutSeconds
  url : ∃ host, IsUrl config.clientsSource.url host
  stateFile : config.clientsSource.stateFile.components ≠ []
  timezone : ∃ parts, IsTimezone config.clientOptions.timezone parts
  servers : ∀ ip ∈ config.clientOptions.dns ++ config.clientOptions.ntp, ip.IsHost
  routes_nonempty : config.clientOptions.classlessRoutes ≠ []
  routes : ∀ route ∈ config.clientOptions.classlessRoutes, IsRoute route
  tftpServer : config.boot.tftpServer.IsHost
  architectures : ∀ (name : String) (files : BootFiles),
    config.boot.architectures[name]? = some files →
      name ≠ "" ∧ ∀ file, files.Has file → ValidBootFile file

/-- **What a configuration is.** `Config::validate` accepts exactly the configurations all of
whose settings are acceptable. -/
theorem config_validate_exact {envFilter : String → Outcome PUnit} {config : Config} :
    config.validate envFilter = .ok ⟨⟩ ↔ config.Acceptable envFilter := by
  have routeChecked : ∀ route : String,
      (parseRoute route >>= fun _ => (.ok ⟨⟩ : Outcome PUnit)) = .ok ⟨⟩ ↔ IsRoute route := by
    intro route
    rw [← isRoute_iff, Outcome.bind_eq_ok]
    constructor
    · rintro ⟨parsed, isParsed, -⟩
      exact ⟨parsed, isParsed⟩
    · rintro ⟨parsed, isParsed⟩
      exact ⟨parsed, isParsed, rfl⟩
  simp only [Config.validate, Outcome.bind_eq_ok, Outcome.ensure_eq_ok, Outcome.each_eq_ok,
    Outcome.context_eq_ok, decide_eq_true_eq, Bool.or_eq_true, Ipv4Addr.isUnspecified_iff,
    isUnicast_iff, validateUrl_iff, validTimezone_iff, validateArchitecture_iff, routeChecked,
    Bool.not_eq_true', List.isEmpty_eq_false_iff, PathBuf.isEmpty, Option.mem_toList]
  constructor
  · rintro ⟨_, listenIp, _, serverIdentifier, _, leaseSeconds, _, port, _, level, _, pollInterval,
      _, timeout, _, url, _, stateFile, _, timezone, _, servers, _, routes_nonempty, _, routes, _,
      tftpServer, profiles⟩
    exact {
      listenIp, serverIdentifier, leaseSeconds, port, level, pollInterval, timeout, url, stateFile,
      timezone, servers, routes_nonempty, routes, tftpServer
      architectures := fun name files found =>
        profiles _ (Std.ExtTreeMap.mem_toList_iff_getElem?_eq_some.mpr found) }
  · intro acceptable
    exact ⟨⟨⟩, acceptable.listenIp, ⟨⟩, acceptable.serverIdentifier, ⟨⟩, acceptable.leaseSeconds,
      ⟨⟩, acceptable.port, ⟨⟩, acceptable.level, ⟨⟩, acceptable.pollInterval, ⟨⟩,
      acceptable.timeout, ⟨⟩, acceptable.url, ⟨⟩, acceptable.stateFile, ⟨⟩, acceptable.timezone,
      ⟨⟩, acceptable.servers, ⟨⟩, acceptable.routes_nonempty, ⟨⟩, acceptable.routes, ⟨⟩,
      acceptable.tftpServer, fun profile listed => acceptable.architectures _ _
        (Std.ExtTreeMap.mem_toList_iff_getElem?_eq_some.mp listed)⟩

end Macdack
