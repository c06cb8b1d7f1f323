import Mathlib.Algebra.Group.Nat.Defs
import Mathlib.Data.List.Basic
import Std.Data.ExtTreeMap.Lemmas
import Macdack.Text

/-!
# Addresses and numbers on the wire

`Ipv4Addr` with the predicates the program asks of an address, its text in both
directions, and the big-endian bytes of the fixed-width numbers that DHCP
options carry. A number is recovered from its bytes (`ofBe16_be16`,
`ofBe32_be32`).
-/

set_option autoImplicit false

namespace Macdack

/-- Six bytes of an Ethernet address. -/
abbrev Mac := Vector UInt8 6

/-- MAC addresses are compared byte by byte. -/
instance : Std.TransOrd Mac := inferInstance

/-- `std::net::Ipv4Addr`. -/
structure Ipv4Addr where
  octets : Vector UInt8 4
  deriving DecidableEq, Repr

namespace Ipv4Addr

/-- Addresses are compared by their octets, the first one first. -/
instance : Ord Ipv4Addr := ⟨fun left right => compare left.octets right.octets⟩

instance : Std.TransOrd Ipv4Addr where
  eq_swap := fun {left right} => Std.OrientedOrd.eq_swap (a := left.octets) (b := right.octets)
  isLE_trans := fun {first second third} => Std.TransOrd.isLE_trans
    (a := first.octets) (b := second.octets) (c := third.octets)

instance : Std.LawfulEqOrd Ipv4Addr where
  eq_of_compare := by
    rintro ⟨left⟩ ⟨right⟩ same
    have equal : left = right := Std.LawfulEqOrd.eq_of_compare same
    exact congrArg Ipv4Addr.mk equal

/-- `Ipv4Addr::new`. -/
def new (a b c d : UInt8) : Ipv4Addr := ⟨#v[a, b, c, d]⟩

/-- `0.0.0.0`. -/
def unspecified : Ipv4Addr := new 0 0 0 0

/-- `255.255.255.255`. -/
def broadcast : Ipv4Addr := new 255 255 255 255

def isUnspecified (ip : Ipv4Addr) : Bool := ip = unspecified

def isBroadcast (ip : Ipv4Addr) : Bool := ip = broadcast

def isMulticast (ip : Ipv4Addr) : Bool :=
  decide ((224 : UInt8) ≤ ip.octets[0]) && decide (ip.octets[0] ≤ (239 : UInt8))

/-- The octets as a byte string. -/
def bytes (ip : Ipv4Addr) : Bytes := ip.octets.toList

/-- `u32::from`. -/
def toU32 (ip : Ipv4Addr) : UInt32 :=
  UInt32.ofNat (ip.octets[0].toNat * 2 ^ 24 + ip.octets[1].toNat * 2 ^ 16 +
    ip.octets[2].toNat * 2 ^ 8 + ip.octets[3].toNat)

/-- `<[u8; 4]>::try_from` and `Ipv4Addr::from`. -/
def ofBytes? (value : Bytes) : Option Ipv4Addr :=
  if length : value.length = 4 then some ⟨⟨value.toArray, by simpa using length⟩⟩ else none

/-- One number of the dotted form: one to three digits, no leading zero before
another digit, and at most 255. -/
def parseOctet (text : List Char) : Option UInt8 :=
  if text.length = 0 ∨ 3 < text.length ∨ (text.head? = some '0' ∧ 1 < text.length) then none
  else
    match Text.accumulateDigits 10 256 0 text with
    | .ok value => some (UInt8.ofNat value)
    | .error _ => none

/-- `Ipv4Addr::from_str`: four numbers with dots between them. -/
def parse (text : List Char) : Outcome Ipv4Addr :=
  match (text.splitOn '.').map parseOctet with
  | [some a, some b, some c, some d] => .ok (new a b c d)
  | _ => Outcome.fail "invalid IPv4 address syntax"

/-- The dotted form of an address. -/
def toText (ip : Ipv4Addr) : String :=
  s!"{ip.octets[0]}.{ip.octets[1]}.{ip.octets[2]}.{ip.octets[3]}"

theorem isUnspecified_iff {ip : Ipv4Addr} : ip.isUnspecified = true ↔ ip = unspecified := by
  rw [isUnspecified, decide_eq_true_eq]

@[simp] theorem length_bytes (ip : Ipv4Addr) : ip.bytes.length = 4 := by simp [bytes]

theorem bytes_injective {left right : Ipv4Addr} (same : left.bytes = right.bytes) :
    left = right := by
  obtain ⟨left⟩ := left
  obtain ⟨right⟩ := right
  congr 1
  exact Vector.toList_inj.mp same

@[simp] theorem ofBytes?_bytes (ip : Ipv4Addr) : ofBytes? ip.bytes = some ip := by
  rw [ofBytes?, dif_pos ip.length_bytes]
  congr 1

/-- A byte string that is read as an address has the bytes of that address. -/
theorem bytes_of_ofBytes? {value : Bytes} {ip : Ipv4Addr} (read : ofBytes? value = some ip) :
    ip.bytes = value := by
  rw [ofBytes?] at read
  split at read
  · cases read
    simp [bytes]
  · cases read

theorem ofBytes?_isSome {value : Bytes} (length : value.length = 4) :
    (ofBytes? value).isSome := by
  simp [ofBytes?, length]

theorem toText_ne_empty (ip : Ipv4Addr) : ip.toText ≠ "" := by
  intro empty
  have length := congrArg String.length empty
  simp only [toText, String.length_append, String.length_empty, Nat.add_eq_zero_iff] at length
  obtain ⟨⟨-, dot⟩, -⟩ := length
  cases dot

theorem bytes_ne_nil (ip : Ipv4Addr) : ip.bytes ≠ [] := by
  intro empty
  have length := ip.length_bytes
  rw [empty] at length
  cases length

@[simp] theorem bytes_unspecified : unspecified.bytes = [0, 0, 0, 0] := rfl

/-- The number of an address, without an overflow. -/
theorem toNat_toU32 (ip : Ipv4Addr) :
    ip.toU32.toNat = ip.octets[0].toNat * 2 ^ 24 + ip.octets[1].toNat * 2 ^ 16 +
      ip.octets[2].toNat * 2 ^ 8 + ip.octets[3].toNat := by
  have first := ip.octets[0].toNat_lt
  have second := ip.octets[1].toNat_lt
  have third := ip.octets[2].toNat_lt
  have fourth := ip.octets[3].toNat_lt
  rw [toU32, UInt32.toNat_ofNat', Nat.mod_eq_of_lt (by omega)]

theorem bytes_eq (ip : Ipv4Addr) :
    ip.bytes = [ip.octets[0], ip.octets[1], ip.octets[2], ip.octets[3]] := by
  rw [bytes]
  apply List.ext_getElem?
  intro position
  rcases position with _ | _ | _ | _ | position
  · simp
  · simp
  · simp
  · simp
  · simp

/-- No two addresses have one number. -/
theorem toU32_injective {left right : Ipv4Addr} (same : left.toU32 = right.toU32) :
    left = right := by
  have numbers := congrArg UInt32.toNat same
  have leftSecond := left.octets[1].toNat_lt
  have leftThird := left.octets[2].toNat_lt
  have leftFourth := left.octets[3].toNat_lt
  have rightSecond := right.octets[1].toNat_lt
  have rightThird := right.octets[2].toNat_lt
  have rightFourth := right.octets[3].toNat_lt
  rw [toNat_toU32, toNat_toU32] at numbers
  have first : left.octets[0] = right.octets[0] := UInt8.toNat_inj.mp (by omega)
  have second : left.octets[1] = right.octets[1] := UInt8.toNat_inj.mp (by omega)
  have third : left.octets[2] = right.octets[2] := UInt8.toNat_inj.mp (by omega)
  have fourth : left.octets[3] = right.octets[3] := UInt8.toNat_inj.mp (by omega)
  exact bytes_injective (by rw [bytes_eq, bytes_eq, first, second, third, fourth])

end Ipv4Addr

/-- The addresses the configuration and the client file may name. -/
def isUnicast (ip : Ipv4Addr) : Bool :=
  !ip.isUnspecified && !ip.isMulticast && !ip.isBroadcast && decide (ip.octets[0] < 240)

/-! ## Checked arithmetic -/

/-- `u8` subtraction, which panics when it overflows. -/
def subU8 (left right : UInt8) : Outcome UInt8 :=
  if right ≤ left then .ok (left - right) else Outcome.panicked

/-- `u32` subtraction, which panics when it overflows. -/
def subU32 (left right : UInt32) : Outcome UInt32 :=
  if right ≤ left then .ok (left - right) else Outcome.panicked

/-- `u32 << u8`, which panics when the shift is not below the width. -/
def shlU32 (value : UInt32) (count : UInt8) : Outcome UInt32 :=
  if count < 32 then .ok (value <<< count.toUInt32) else Outcome.panicked

/-- `u32::checked_shl`. -/
def checkedShl (value count : UInt32) : Option UInt32 :=
  if count < 32 then some (value <<< count) else none

/-! ## Big-endian numbers -/

/-- `u16::to_be_bytes`. -/
def be16 (value : UInt16) : Bytes :=
  [UInt8.ofNat (value.toNat / 2 ^ 8), UInt8.ofNat (value.toNat % 2 ^ 8)]

/-- `u32::to_be_bytes`. -/
def be32 (value : UInt32) : Bytes :=
  [UInt8.ofNat (value.toNat / 2 ^ 24), UInt8.ofNat (value.toNat / 2 ^ 16 % 2 ^ 8),
    UInt8.ofNat (value.toNat / 2 ^ 8 % 2 ^ 8), UInt8.ofNat (value.toNat % 2 ^ 8)]

/-- `u16::from_be_bytes`. -/
def ofBe16 (high low : UInt8) : UInt16 := UInt16.ofNat (high.toNat * 2 ^ 8 + low.toNat)

/-- `u32::from_be_bytes`. -/
def ofBe32 (a b c d : UInt8) : UInt32 :=
  UInt32.ofNat (a.toNat * 2 ^ 24 + b.toNat * 2 ^ 16 + c.toNat * 2 ^ 8 + d.toNat)

/-- The byte of a number below 256 has that value. -/
theorem toNat_ofNat_of_lt {value : ℕ} (small : value < 256) : (UInt8.ofNat value).toNat = value :=
  UInt8.toNat_ofNat_of_lt' small

theorem ofBe16_be16 (value : UInt16) :
    ofBe16 (UInt8.ofNat (value.toNat / 2 ^ 8)) (UInt8.ofNat (value.toNat % 2 ^ 8)) = value := by
  have bound := value.toNat_lt
  rw [ofBe16, toNat_ofNat_of_lt (by omega), toNat_ofNat_of_lt (by omega), Nat.div_add_mod',
    UInt16.ofNat_toNat]

theorem ofBe32_be32 (value : UInt32) :
    ofBe32 (UInt8.ofNat (value.toNat / 2 ^ 24)) (UInt8.ofNat (value.toNat / 2 ^ 16 % 2 ^ 8))
      (UInt8.ofNat (value.toNat / 2 ^ 8 % 2 ^ 8)) (UInt8.ofNat (value.toNat % 2 ^ 8)) = value := by
  have bound := value.toNat_lt
  have sum : value.toNat / 2 ^ 24 * 2 ^ 24 + value.toNat / 2 ^ 16 % 2 ^ 8 * 2 ^ 16 +
      value.toNat / 2 ^ 8 % 2 ^ 8 * 2 ^ 8 + value.toNat % 2 ^ 8 = value.toNat := by
    omega
  rw [ofBe32, toNat_ofNat_of_lt (by omega), toNat_ofNat_of_lt (by omega),
    toNat_ofNat_of_lt (by omega), toNat_ofNat_of_lt (by omega), sum, UInt32.ofNat_toNat]

end Macdack
