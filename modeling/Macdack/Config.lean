import Mathlib.Data.List.ReduceOption
import Macdack.Address

/-!
# The main configuration

The configuration record, `Config.validate` with the checks in the order of the
source, and what a validated configuration satisfies (`Config.valid_of_validate`).

The logging filter is parsed by a crate outside the repository. Its parser is a
parameter, `envFilter`, and nothing is assumed of it.

Of the source's record the logging format, its switches and the IP of the HTTP
listener are left out: no function modelled here reads them.
-/

set_option autoImplicit false

namespace Macdack

/-! ## Paths -/

/-- One component of a path, as `Path::components` gives them. -/
inductive Component where
  | root
  | curDir
  | parentDir
  | normal (name : String)
  deriving DecidableEq, Repr

/-- A path, by its components. Whether a separator ends it is not among them. -/
structure PathBuf where
  components : List Component
  deriving DecidableEq, Repr

namespace PathBuf

/-- `Path::as_os_str().is_empty()`. -/
def isEmpty (path : PathBuf) : Bool := path.components.isEmpty

/-- `Path::file_name`: the last component, if it is a name. -/
def fileName (path : PathBuf) : Option String :=
  match path.components.getLast? with
  | some (.normal name) => some name
  | _ => none

end PathBuf

/-! ## The record -/

structure DhcpConfig where
  listenIp : Ipv4Addr
  serverIdentifier : Option Ipv4Addr
  leaseSeconds : UInt32

structure HttpConfig where
  port : UInt16

structure LoggingConfig where
  level : String

structure ClientOptions where
  dns : List Ipv4Addr
  ntp : List Ipv4Addr
  timezone : String
  classlessRoutes : List String

structure BootFiles where
  biosFile : Option String
  uefiFile : Option String
  ipxeFile : Option String

structure BootConfig where
  tftpServer : Ipv4Addr
  architectures : Std.ExtTreeMap String BootFiles

structure ClientsSource where
  url : String
  pollIntervalSeconds : UInt64
  timeoutSeconds : UInt64
  stateFile : PathBuf

structure Config where
  dhcp : DhcpConfig
  http : HttpConfig
  logging : LoggingConfig
  clientOptions : ClientOptions
  boot : BootConfig
  clientsSource : ClientsSource

/-! ## Character classes and names -/

/-- `char::is_control`. -/
def isControl (c : Char) : Bool :=
  c.toNat < 0x20 || (0x7f ≤ c.toNat && c.toNat < 0xa0)

/-- `char::is_whitespace`. -/
def isWhitespace (c : Char) : Bool :=
  (0x9 ≤ c.toNat && c.toNat ≤ 0xd) || (0x2000 ≤ c.toNat && c.toNat ≤ 0x200a) ||
    [0x20, 0x85, 0xa0, 0x1680, 0x2028, 0x2029, 0x202f, 0x205f, 0x3000].contains c.toNat

/-- `u8::is_ascii_alphanumeric`, on the characters that are one byte. -/
def isAsciiAlphanumeric (c : Char) : Bool :=
  ('0' ≤ c && c ≤ '9') || ('a' ≤ c && c ≤ 'z') || ('A' ≤ c && c ≤ 'Z')

def validTimezone (value : String) : Bool :=
  value != "" && Text.byteLength value ≤ 255 && !value.toList.any isControl &&
    (value.toList.splitOn '/').all fun part =>
      !part.isEmpty && part.all fun c => isAsciiAlphanumeric c || c == '_' || c == '-' || c == '+'

theorem ne_empty_of_validTimezone {value : String} (valid : validTimezone value = true) :
    value ≠ "" := by
  rintro rfl
  revert valid
  decide

/-- `str::strip_suffix('.').unwrap_or(name)`. -/
def stripDot (name : List Char) : List Char :=
  if name.getLast? = some '.' then name.dropLast else name

def validHostname (name : String) : Bool :=
  let name := stripDot name.toList
  !name.isEmpty && Text.lengthOf name ≤ 253 &&
    (name.splitOn '.').all fun label =>
      !label.isEmpty && Text.lengthOf label ≤ 63 && label.head? != some '-' &&
        label.getLast? != some '-' && label.all fun c => isAsciiAlphanumeric c || c == '-'

theorem ne_empty_of_validHostname {name : String} (valid : validHostname name = true) :
    name ≠ "" := by
  rintro rfl
  revert valid
  decide

/-! ## Addresses and routes -/

def prefixMask (prefixLength : UInt8) : Outcome UInt32 :=
  if prefixLength = 0 then .ok 0
  else do
    let count ← subU8 32 prefixLength
    shlU32 0xffffffff count

def parseRoute (route : String) : Outcome (Ipv4Addr × UInt8) := do
  let (network, prefixText) ←
    Outcome.required "route must use IPv4/prefix syntax" (Text.splitOnce ['/'] route.toList)
  let network ← Outcome.context ("invalid route " ++ route) (Ipv4Addr.parse network)
  let prefixLength ← Outcome.context ("invalid route prefix " ++ route) (Text.u8FromStr prefixText)
  Outcome.ensure (decide (1 ≤ prefixLength ∧ prefixLength ≤ 32))
    ("route " ++ route ++ ": prefix must be 1..32 (default route is forbidden)")
  let mask ← prefixMask prefixLength
  Outcome.ensure (network.toU32 &&& ~~~mask == 0)
    ("route " ++ route ++ ": host bits must be zero")
  return (network, prefixLength)

/-! ## Validation -/

/-- The check of one boot file name of an architecture. -/
def validateBootFile (architecture file : String) : Outcome PUnit :=
  Outcome.ensure
    (file != "" && Text.byteLength file ≤ 255 && !file.toList.any isControl)
    ("invalid boot filename for " ++ architecture ++
      ": expected 1..255 bytes without control characters")

/-- The check of one architecture profile: its name, then the files it has. -/
def validateArchitecture (profile : String × BootFiles) : Outcome PUnit := do
  Outcome.ensure (profile.1 != "") "empty architecture name"
  Outcome.each (validateBootFile profile.1)
    [profile.2.biosFile, profile.2.uefiFile, profile.2.ipxeFile].reduceOption

/-- The check of the URL: its scheme, then its text and its host. -/
def validateUrl (source : String) : Outcome PUnit := do
  Outcome.ensure
    ("https://".toList.isPrefixOf source.toList || "http://".toList.isPrefixOf source.toList)
    "clients_source.url must use HTTP or HTTPS"
  Outcome.ensure
    (!source.toList.any isWhitespace &&
      (match Text.splitOnce "://".toList source.toList with
      | some (_, host) => !host.isEmpty && host.head? != some '/'
      | none => false))
    "invalid clients_source.url"

def Config.validate (envFilter : String → Outcome PUnit) (config : Config) : Outcome PUnit := do
  Outcome.ensure (config.dhcp.listenIp.isUnspecified || isUnicast config.dhcp.listenIp)
    "dhcp.listen_ip must be wildcard or unicast"
  Outcome.each
    (fun ip => Outcome.ensure (isUnicast ip)
      "dhcp.server_identifier must be a concrete unicast IPv4 address")
    config.dhcp.serverIdentifier.toList
  Outcome.ensure (decide (0 < config.dhcp.leaseSeconds)) "lease_seconds must be positive"
  Outcome.ensure (decide (0 < config.http.port)) "HTTP port must be positive"
  Outcome.context "invalid logging.level" (envFilter config.logging.level)
  Outcome.ensure (decide (0 < config.clientsSource.pollIntervalSeconds))
    "poll_interval_seconds must be positive"
  Outcome.ensure (decide (0 < config.clientsSource.timeoutSeconds))
    "timeout_seconds must be positive"
  validateUrl config.clientsSource.url
  Outcome.ensure (!config.clientsSource.stateFile.isEmpty) "state_file must not be empty"
  Outcome.ensure (validTimezone config.clientOptions.timezone) "invalid timezone"
  Outcome.each
    (fun ip => Outcome.ensure (isUnicast ip)
      ("DNS/NTP addresses must be unicast: " ++ ip.toText))
    (config.clientOptions.dns ++ config.clientOptions.ntp)
  Outcome.ensure (!config.clientOptions.classlessRoutes.isEmpty)
    "classless_routes must not be empty"
  Outcome.each (fun route => parseRoute route >>= fun _ => .ok ⟨⟩)
    config.clientOptions.classlessRoutes
  Outcome.ensure (isUnicast config.boot.tftpServer) "tftp_server must be unicast"
  Outcome.each validateArchitecture config.boot.architectures.toList

/-! ## What validation gives -/

/-- A boot file name that passed its check. -/
structure ValidBootFile (file : String) : Prop where
  nonempty : file ≠ ""
  length_le : Text.byteLength file ≤ 255
  printable : file.toList.any isControl = false

/-- The files of a profile that are present. -/
def BootFiles.Has (files : BootFiles) (file : String) : Prop :=
  files.biosFile = some file ∨ files.uefiFile = some file ∨ files.ipxeFile = some file

/-- What a validated configuration satisfies, as far as replies depend on it. -/
structure Config.Valid (config : Config) : Prop where
  lease_pos : 0 < config.dhcp.leaseSeconds
  timezone : validTimezone config.clientOptions.timezone = true
  dns : ∀ ip ∈ config.clientOptions.dns, isUnicast ip = true
  ntp : ∀ ip ∈ config.clientOptions.ntp, isUnicast ip = true
  routes_ne_nil : config.clientOptions.classlessRoutes ≠ []
  routes : ∀ route ∈ config.clientOptions.classlessRoutes, ∃ parsed, parseRoute route = .ok parsed
  tftpServer : isUnicast config.boot.tftpServer = true
  bootFile : ∀ (architecture : String) (files : BootFiles),
    config.boot.architectures[architecture]? = some files →
      ∀ file, files.Has file → ValidBootFile file

theorem validBootFile_of_check {architecture file : String} {result : PUnit}
    (checked : validateBootFile architecture file = .ok result) : ValidBootFile file := by
  rw [validateBootFile, Outcome.ensure_eq_ok] at checked
  simp only [Bool.and_eq_true, bne_iff_ne, ne_eq, decide_eq_true_eq, Bool.not_eq_true'] at checked
  exact ⟨checked.1.1, checked.1.2, checked.2⟩

theorem validBootFile_of_profile {profile : String × BootFiles} {result : PUnit}
    (checked : validateArchitecture profile = .ok result) {file : String}
    (has : profile.2.Has file) : ValidBootFile file := by
  rw [validateArchitecture, Outcome.bind_eq_ok] at checked
  obtain ⟨_, -, files⟩ := checked
  rw [Outcome.each_eq_ok] at files
  refine validBootFile_of_check (files file ?_)
  rw [List.reduceOption_mem_iff]
  rcases has with bios | uefi | ipxe
  · rw [bios]
    exact List.mem_cons_self
  · rw [uefi]
    exact List.mem_cons_of_mem _ List.mem_cons_self
  · rw [ipxe]
    exact List.mem_cons_of_mem _ (List.mem_cons_of_mem _ List.mem_cons_self)

/-- **A configuration that validates is valid.** -/
theorem Config.valid_of_validate {envFilter : String → Outcome PUnit} {config : Config}
    {result : PUnit} (validated : config.validate envFilter = .ok result) : config.Valid := by
  simp only [Config.validate, Outcome.bind_eq_ok, Outcome.ensure_eq_ok, Outcome.each_eq_ok,
    decide_eq_true_eq] at validated
  obtain ⟨_, -, _, -, _, lease, _, -, _, -, _, -, _, -, _, -, _, -, _, timezone, _, servers, _,
    nonempty, _, routes, _, tftp, profiles⟩ := validated
  refine ⟨lease, timezone, ?_, ?_, ?_, ?_, tftp, ?_⟩
  · exact fun ip member => servers ip (List.mem_append_left _ member)
  · exact fun ip member => servers ip (List.mem_append_right _ member)
  · intro empty
    rw [empty] at nonempty
    cases nonempty
  · intro route member
    obtain ⟨parsed, accepted, -⟩ := routes route member
    exact ⟨parsed, accepted⟩
  · intro architecture files found file has
    have listed : (architecture, files) ∈ config.boot.architectures.toList :=
      Std.ExtTreeMap.mem_toList_iff_getElem?_eq_some.mpr found
    exact validBootFile_of_profile (profiles _ listed) has

/-- The configuration that is shipped as an example. -/
def Config.shipped : Config where
  dhcp := {
    listenIp := .unspecified
    serverIdentifier := some (.new 192 0 2 10)
    leaseSeconds := 3600 }
  http := { port := 8080 }
  logging := { level := "info" }
  clientOptions := {
    dns := [.new 10 10 0 53, .new 10 10 0 54]
    ntp := [.new 10 10 0 123]
    timezone := "Etc/UTC"
    classlessRoutes := ["10.0.0.0/8", "172.16.0.0/12"] }
  boot := {
    tftpServer := .new 10 10 0 20
    architectures := (∅ : Std.ExtTreeMap String BootFiles)
      |>.insert "x86_64" ⟨some "undionly.kpxe", some "ipxe-x86_64.efi",
        some "http://10.10.0.20/x86_64/boot.ipxe"⟩
      |>.insert "arm64" ⟨none, some "ipxe-arm64.efi", some "http://10.10.0.20/arm64/boot.ipxe"⟩ }
  clientsSource := {
    url := "https://config.example.internal/clients.csv"
    pollIntervalSeconds := 60
    timeoutSeconds := 10
    stateFile := ⟨[.root, .normal "var", .normal "lib", .normal "macdack", .normal "clients.csv"]⟩ }

theorem Config.validate_shipped : shipped.validate (fun _ => .ok ⟨⟩) = .ok ⟨⟩ := by
  decide +kernel

end Macdack
