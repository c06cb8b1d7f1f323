import Mathlib.Data.List.Basic
import Macdack.Clients
import Macdack.Dhcp.Packet

/-!
# The boot stage of a request

`Packet.stage` reads the user classes, the architecture list and the vendor
class of a request and decides the stage that sent it and the architecture of
the machine. The routes and the boot file of a reply depend on it.

The loop over the user classes slices what is left of them, so in the source it
could panic. It never does, and the flag it gives is whether one of the complete
classes is iPXE (`userClassLoop_eq`). The stage is therefore a function of three
options (`Packet.stage_eq`, `Packet.bootStage_congr`).
-/

set_option autoImplicit false

namespace Macdack

/-- The stages of a boot, and a system that has booted. -/
inductive Stage where
  | bios
  | uefi
  | ipxe
  | os
  | unknown
  deriving DecidableEq, Repr

namespace Stage

def name : Stage → String
  | bios => "bios"
  | uefi => "uefi"
  | ipxe => "ipxe"
  | os => "os"
  | unknown => "unknown"

/-- The stages of a firmware. -/
def isFirmware (stage : Stage) : Bool := stage = bios || stage = uefi

/-- The stages that load a boot file. -/
def isBoot (stage : Stage) : Bool := stage = bios || stage = uefi || stage = ipxe

end Stage

inductive Architecture where
  | x86_64
  | arm64
  | unknown
  deriving DecidableEq, Repr

def Architecture.name : Architecture → String
  | x86_64 => "x86_64"
  | arm64 => "arm64"
  | unknown => "unknown"

inductive RouteMode where
  | classless
  | default
  deriving DecidableEq, Repr

/-- The firmware types that are served. -/
def firmware (value : UInt16) : Option (Stage × Architecture) :=
  if value = 0 then some (.bios, .x86_64)
  else if value = 7 ∨ value = 9 then some (.uefi, .x86_64)
  else if value = 11 then some (.uefi, .arm64)
  else none

/-- The text `iPXE`. -/
def ipxeClass : Bytes := [105, 80, 88, 69]

/-- The text `PXEClient`. -/
def pxeClient : Bytes := [80, 88, 69, 67, 108, 105, 101, 110, 116]

/-- `as_chunks::<2>().0`: the complete pairs. -/
def pairs : Bytes → List (UInt8 × UInt8)
  | high :: low :: rest => (high, low) :: pairs rest
  | _ => []

/-- The loop over the user classes. Each class is a length and that many bytes,
and an incomplete class ends the loop. -/
def userClassLoop : Bool → Bytes → Outcome Bool
  | ipxe, [] => .ok ipxe
  | ipxe, len :: rest =>
      if rest.length < len.toNat then .ok ipxe
      else do
        let userClass ← Buffer.sliceChecked rest 0 len.toNat
        let ⟨classes, _⟩ ← Buffer.suffixChecked rest len.toNat
        userClassLoop (ipxe || userClass == ipxeClass) classes
termination_by _ classes => classes.length
decreasing_by
  simp only [List.length_cons]
  omega

/-- The first served type of the architecture list. -/
def listedFirmware (values : Bytes) : Option (Stage × Architecture) :=
  (pairs values).findSome? fun pair => firmware (ofBe16 pair.1 pair.2)

/-- The type that a vendor class names after `Arch:`. -/
def vendorFirmware (vendor : Bytes) : Option (Stage × Architecture) := do
  let text ← Text.fromUtf8 vendor
  let piece ← (Text.splitText "Arch:".toList [] text.toList)[1]?
  let digits ← Text.getTo 5 piece
  let value ← (Text.u16FromStr digits).toOption
  firmware value

/-- The decision, from the iPXE flag, the listed type and the vendor class. -/
def decideStage (ipxe : Bool) (arch : Option (Stage × Architecture)) (vendor : Bytes) :
    Stage × Architecture :=
  if ipxe || pxeClient.isPrefixOf vendor || arch.isSome then
    let detected := (arch.or (vendorFirmware vendor)).getD (.unknown, .unknown)
    if ipxe then (.ipxe, detected.2) else detected
  else (.os, (arch.map Prod.snd).getD .unknown)

namespace Packet

def stage (packet : Packet) : Outcome (Stage × Architecture) := do
  let user := packet.options[(77 : UInt8)]?.getD []
  let ipxe ← userClassLoop (user == ipxeClass) user
  let arch := packet.options[(93 : UInt8)]?.bind listedFirmware
  let vendor := packet.options[(60 : UInt8)]?.getD []
  return decideStage ipxe arch vendor

/-- The parameter list of the request contains the code. -/
def requests (packet : Packet) (code : UInt8) : Bool :=
  packet.options[(55 : UInt8)]?.any fun codes => codes.contains code

def routeMode (packet : Packet) : Outcome RouteMode := do
  let (stage, _) ← packet.stage
  return if !stage.isFirmware && packet.requests 121 then .classless else .default

def bootModeMismatch (packet : Packet) (client : Client) : Outcome Bool := do
  let (stage, _) ← packet.stage
  return stage.isFirmware && stage.name != client.bootType

end Packet

/-! ## The user classes -/

/-- The complete classes of a user class option. -/
def classesOf : Bytes → List Bytes
  | [] => []
  | len :: rest =>
      if rest.length < len.toNat then []
      else rest.take len.toNat :: classesOf (rest.drop len.toNat)
termination_by classes => classes.length
decreasing_by
  simp only [List.length_drop, List.length_cons]
  omega

/-- **The loop returns**, and raises the flag exactly when a complete class is
iPXE. -/
theorem userClassLoop_eq (ipxe : Bool) (classes : Bytes) :
    userClassLoop ipxe classes = .ok (ipxe || (classesOf classes).contains ipxeClass) := by
  induction classes using classesOf.induct generalizing ipxe with
  | case1 => rw [userClassLoop, classesOf, List.contains_nil, Bool.or_false]
  | case2 len rest short =>
      rw [userClassLoop, if_pos short, classesOf, if_pos short, List.contains_nil, Bool.or_false]
  | case3 len rest long ih =>
      have inside : len.toNat ≤ rest.length := Nat.le_of_not_lt long
      rw [userClassLoop, if_neg long, classesOf, if_neg long,
        Buffer.sliceChecked_eq (Nat.zero_le _) inside, Buffer.suffixChecked_eq inside]
      change userClassLoop (ipxe || rest.take len.toNat == ipxeClass) (rest.drop len.toNat) = _
      rw [ih, List.contains_cons, Bool.or_assoc, Bool.beq_comm]

/-- The request is from iPXE: its user class is, as a whole or in one of its
classes. -/
def namesIpxe (user : Bytes) : Bool :=
  user == ipxeClass || (classesOf user).contains ipxeClass

/-! ## The stage as a function of the options -/

namespace Packet

/-- The stage that `Packet.stage` returns. -/
def bootStage (packet : Packet) : Stage × Architecture :=
  decideStage (namesIpxe (packet.options[(77 : UInt8)]?.getD []))
    (packet.options[(93 : UInt8)]?.bind listedFirmware) (packet.options[(60 : UInt8)]?.getD [])

@[simp] theorem stage_eq (packet : Packet) : packet.stage = .ok packet.bootStage := by
  rw [stage, userClassLoop_eq]
  rfl

/-- The stage depends on the user class, the vendor class and the architecture
list only. -/
theorem bootStage_congr {first second : Packet}
    (user : first.options[(77 : UInt8)]? = second.options[(77 : UInt8)]?)
    (arch : first.options[(93 : UInt8)]? = second.options[(93 : UInt8)]?)
    (vendor : first.options[(60 : UInt8)]? = second.options[(60 : UInt8)]?) :
    first.bootStage = second.bootStage := by
  rw [bootStage, bootStage, user, arch, vendor]

/-- The client has booted and asks for classless routes. -/
def wantsClassless (packet : Packet) : Bool :=
  !packet.bootStage.1.isFirmware && packet.requests 121

theorem routeMode_eq (packet : Packet) :
    packet.routeMode = .ok (if packet.wantsClassless then .classless else .default) := by
  rw [routeMode, stage_eq]
  rfl

theorem bootModeMismatch_eq (packet : Packet) (client : Client) :
    packet.bootModeMismatch client =
      .ok (packet.bootStage.1.isFirmware && packet.bootStage.1.name != client.bootType) := by
  rw [bootModeMismatch, stage_eq]
  rfl

end Packet

end Macdack
