import Macdack.Library.Masks
import Macdack.Library.Buffer
import Macdack.Clients

/-!
# Subnets

A prefix length splits the 32 bits of an address: the leading bits are the subnet
and the others the host. `maskOf` is the mask with that many leading ones, and
`prefixMask` returns it for every prefix up to 32, without an overflow in its
subtraction or its shift (`prefixMask_eq`). Masking an address leaves its subnet,
and the complement of the mask its host (`toNat_and_maskOf`,
`toNat_and_not_maskOf`).

The addresses of a row pass their checks exactly when they are `Neighbours`
(`checkSubnet_eq_ok_iff`).
-/

set_option autoImplicit false

namespace Macdack

/-- The mask with the given number of leading ones. -/
def maskOf (prefixLength : UInt8) : UInt32 := UInt32.ofNat (Masks.leading 32 prefixLength.toNat)

/-- The number of addresses of a subnet. -/
def subnetSize (prefixLength : UInt8) : ℕ := 2 ^ (32 - prefixLength.toNat)

namespace Ipv4Addr

/-- The number of the subnet of an address. -/
def subnet (ip : Ipv4Addr) (prefixLength : UInt8) : ℕ := ip.toU32.toNat / subnetSize prefixLength

/-- The number of an address in its subnet. -/
def host (ip : Ipv4Addr) (prefixLength : UInt8) : ℕ := ip.toU32.toNat % subnetSize prefixLength

end Ipv4Addr

theorem subnetSize_pos (prefixLength : UInt8) : 0 < subnetSize prefixLength := Nat.two_pow_pos _

/-! ## The mask of a prefix -/

theorem toNat_maskOf (prefixLength : UInt8) :
    (maskOf prefixLength).toNat = Masks.leading 32 prefixLength.toNat := by
  rw [maskOf, UInt32.toNat_ofNat', Nat.mod_eq_of_lt Masks.leading_lt]

/-- The ones of a mask are its leading bits. -/
theorem testBit_maskOf (prefixLength : UInt8) (position : ℕ) :
    (maskOf prefixLength).toNat.testBit position =
      decide (32 - prefixLength.toNat ≤ position ∧ position < 32) := by
  rw [toNat_maskOf, Masks.testBit_leading]

/-- All ones, moved left by the number of host bits. -/
theorem shiftLeft_ones_eq {prefixLength : UInt8} {count : UInt32}
    (positive : 0 < prefixLength.toNat) (hostBits : count.toNat = 32 - prefixLength.toNat) :
    (0xffffffff : UInt32) <<< count = maskOf prefixLength := by
  have inside : (32 - prefixLength.toNat) % 32 = 32 - prefixLength.toNat :=
    Nat.mod_eq_of_lt (by omega)
  apply UInt32.toNat_inj.mp
  rw [UInt32.toNat_shiftLeft, toNat_maskOf, hostBits, inside,
    ← Masks.shiftLeft_ones 32 prefixLength.toNat]
  rfl

/-- **The mask at validation.** Neither the subtraction nor the shift overflows. -/
theorem prefixMask_eq {prefixLength : UInt8} (bound : prefixLength ≤ 32) :
    prefixMask prefixLength = .ok (maskOf prefixLength) := by
  have small : prefixLength.toNat ≤ 32 := UInt8.le_iff_toNat_le.mp bound
  rw [prefixMask]
  by_cases zero : prefixLength = 0
  · subst zero
    rfl
  · have positive : 0 < prefixLength.toNat := by
      refine Nat.pos_of_ne_zero fun isZero => zero ?_
      exact UInt8.toNat_inj.mp isZero
    have difference : (32 - prefixLength).toNat = 32 - prefixLength.toNat :=
      UInt8.toNat_sub_of_le _ _ bound
    have count : (32 - prefixLength) < 32 := by
      rw [UInt8.lt_iff_toNat_lt, difference]
      change 32 - prefixLength.toNat < 32
      omega
    rw [if_neg zero, subU8, if_pos bound, Outcome.bind_ok, shlU32, if_pos count,
      shiftLeft_ones_eq positive]
    rw [UInt8.toNat_toUInt32, difference]

/-- **Masking an address** leaves its subnet. -/
theorem toNat_and_maskOf (value : UInt32) (prefixLength : UInt8) :
    (value &&& maskOf prefixLength).toNat =
      value.toNat / subnetSize prefixLength * subnetSize prefixLength := by
  rw [UInt32.toNat_and, toNat_maskOf, Masks.and_leading value.toNat_lt, subnetSize]

/-- The complement of the mask leaves the host. -/
theorem toNat_and_not_maskOf (value : UInt32) (prefixLength : UInt8) :
    (value &&& ~~~maskOf prefixLength).toNat = value.toNat % subnetSize prefixLength := by
  rw [UInt32.toNat_and, UInt32.toNat_not, toNat_maskOf]
  exact Masks.and_complement 32 prefixLength.toNat value.toNat

/-! ## Networks -/

/-- An address without host bits is zero behind the octets of its prefix. -/
theorem drop_bytes_of_host_zero {ip : Ipv4Addr} {prefixLength : UInt8}
    (zero : ip.host prefixLength = 0) {count : ℕ} (covers : prefixLength.toNat ≤ 8 * count)
    (inside : count ≤ 4) : ip.bytes.drop count = List.replicate (4 - count) 0 := by
  have divides : 2 ^ (32 - 8 * count) ∣ ip.toU32.toNat := by
    have host : subnetSize prefixLength ∣ ip.toU32.toNat := Nat.dvd_of_mod_eq_zero zero
    exact Nat.dvd_trans (Nat.pow_dvd_pow 2 (by omega)) host
  have octet : ∀ byte : UInt8, byte.toNat = 0 → byte = 0 := fun _ isZero =>
    UInt8.toNat_inj.mp isZero
  have first := ip.octets[0].toNat_lt
  have second := ip.octets[1].toNat_lt
  have third := ip.octets[2].toNat_lt
  have fourth := ip.octets[3].toNat_lt
  rw [Ipv4Addr.toNat_toU32] at divides
  rw [Ipv4Addr.bytes_eq]
  rcases count with _ | _ | _ | _ | _ | count
  · change 2 ^ 32 ∣ _ at divides
    rw [octet ip.octets[0] (by omega), octet ip.octets[1] (by omega),
      octet ip.octets[2] (by omega), octet ip.octets[3] (by omega)]
    rfl
  · change 2 ^ 24 ∣ _ at divides
    rw [octet ip.octets[1] (by omega), octet ip.octets[2] (by omega),
      octet ip.octets[3] (by omega)]
    rfl
  · change 2 ^ 16 ∣ _ at divides
    rw [octet ip.octets[2] (by omega), octet ip.octets[3] (by omega)]
    rfl
  · change 2 ^ 8 ∣ _ at divides
    rw [octet ip.octets[3] (by omega)]
    rfl
  · rfl
  · omega

/-- **A network is recovered from the octets of its prefix.** -/
theorem overwrite_significant {net : Ipv4Addr} {prefixLength : UInt8}
    (zero : net.host prefixLength = 0) {count : ℕ} (covers : prefixLength.toNat ≤ 8 * count)
    (inside : count ≤ 4) :
    Buffer.overwrite [0, 0, 0, 0] 0 (Buffer.slice net.bytes 0 count) = net.bytes := by
  have length : (Buffer.slice net.bytes 0 count).length = count := by
    rw [Buffer.length_slice, Ipv4Addr.length_bytes]
    omega
  have rest : ([0, 0, 0, 0] : Bytes).drop count = net.bytes.drop count := by
    rw [drop_bytes_of_host_zero zero covers inside, ← List.drop_replicate]
    rfl
  rw [Buffer.overwrite, length, Nat.zero_add, rest, Buffer.slice, List.take_zero, List.nil_append,
    List.drop_zero, List.take_append_drop]

/-- **A validated route** has a prefix from 1 to 32 and no host bits. -/
theorem host_of_parseRoute {route : String} {net : Ipv4Addr} {prefixLength : UInt8}
    (parsed : parseRoute route = .ok (net, prefixLength)) :
    1 ≤ prefixLength ∧ prefixLength ≤ 32 ∧ net.host prefixLength = 0 := by
  simp only [parseRoute, Outcome.bind_eq_ok, Outcome.ensure_eq_ok, Outcome.pure_eq_ok,
    Except.ok.injEq, Prod.mk.injEq, decide_eq_true_eq, beq_iff_eq] at parsed
  obtain ⟨_, -, _, -, _, -, _, bounds, mask, isMask, _, hostBits, rfl, rfl⟩ := parsed
  rw [prefixMask_eq bounds.2, Except.ok.injEq] at isMask
  subst isMask
  refine ⟨bounds.1, bounds.2, ?_⟩
  rw [Ipv4Addr.host, ← toNat_and_not_maskOf, hostBits]
  rfl

/-! ## Neighbours -/

namespace Ipv4Addr

/-- An address that is neither the network of its subnet nor the broadcast address. -/
def Usable (ip : Ipv4Addr) (prefixLength : UInt8) : Prop :=
  ip.host prefixLength ≠ 0 ∧ ip.host prefixLength ≠ subnetSize prefixLength - 1

/-- An address is its subnet and its host. -/
theorem toNat_eq (ip : Ipv4Addr) (prefixLength : UInt8) :
    ip.toU32.toNat =
      ip.subnet prefixLength * subnetSize prefixLength + ip.host prefixLength :=
  (Nat.div_add_mod' _ _).symm

theorem toNat_network (ip : Ipv4Addr) (prefixLength : UInt8) :
    (ip.toU32 &&& maskOf prefixLength).toNat =
      ip.subnet prefixLength * subnetSize prefixLength := toNat_and_maskOf _ _

theorem toNat_broadcast (ip : Ipv4Addr) (prefixLength : UInt8) :
    (ip.toU32 &&& maskOf prefixLength ||| ~~~maskOf prefixLength).toNat =
      ip.subnet prefixLength * subnetSize prefixLength + (subnetSize prefixLength - 1) := by
  rw [UInt32.toNat_or, toNat_network, UInt32.toNat_not, toNat_maskOf]
  exact Masks.or_complement 32 prefixLength.toNat _

/-- Only the network has no host bits. -/
theorem eq_network_iff {ip : Ipv4Addr} {prefixLength : UInt8} :
    ip.toU32 = ip.toU32 &&& maskOf prefixLength ↔ ip.host prefixLength = 0 := by
  have number := ip.toNat_eq prefixLength
  rw [← UInt32.toNat_inj, toNat_network]
  omega

/-- Only the broadcast address has all host bits. -/
theorem eq_broadcast_iff {ip : Ipv4Addr} {prefixLength : UInt8} :
    ip.toU32 = ip.toU32 &&& maskOf prefixLength ||| ~~~maskOf prefixLength ↔
      ip.host prefixLength = subnetSize prefixLength - 1 := by
  have number := ip.toNat_eq prefixLength
  rw [← UInt32.toNat_inj, toNat_broadcast]
  omega

/-- Masking gives the same for the addresses of one subnet. -/
theorem network_eq_iff {ip gateway : Ipv4Addr} {prefixLength : UInt8} :
    gateway.toU32 &&& maskOf prefixLength = ip.toU32 &&& maskOf prefixLength ↔
      gateway.subnet prefixLength = ip.subnet prefixLength := by
  rw [← UInt32.toNat_inj, toNat_network, toNat_network,
    Nat.mul_left_inj (subnetSize_pos prefixLength).ne']

end Ipv4Addr

/-- Two addresses of one link: both are unicast, they are different addresses of one
subnet, and neither is its network or its broadcast address, but for the two
addresses of a point-to-point link. -/
structure Neighbours (ip gateway : Ipv4Addr) (prefixLength : UInt8) : Prop where
  unicast : isUnicast ip = true ∧ isUnicast gateway = true
  subnet : gateway.subnet prefixLength = ip.subnet prefixLength
  differ : ip ≠ gateway
  usable : prefixLength ≤ 30 → ip.Usable prefixLength ∧ gateway.Usable prefixLength
  pair : prefixLength = 31 → ip.host prefixLength = 0 ∧ gateway.host prefixLength = 1 ∨
    ip.host prefixLength = 1 ∧ gateway.host prefixLength = 0

/-- The addresses of a point-to-point link are its pair. -/
theorem pair_of_differ {ip gateway : Ipv4Addr} (subnet : gateway.subnet 31 = ip.subnet 31)
    (differ : ip ≠ gateway) :
    ip.host 31 = 0 ∧ gateway.host 31 = 1 ∨ ip.host 31 = 1 ∧ gateway.host 31 = 0 := by
  have ipBound : ip.host 31 < 2 := Nat.mod_lt _ (subnetSize_pos 31)
  have gatewayBound : gateway.host 31 < 2 := Nat.mod_lt _ (subnetSize_pos 31)
  have hosts : ip.host 31 ≠ gateway.host 31 := by
    intro same
    refine differ (Ipv4Addr.toU32_injective (UInt32.toNat_inj.mp ?_))
    rw [ip.toNat_eq 31, gateway.toNat_eq 31, same, subnet]
  omega

/-- **What the addresses of a row must satisfy.** -/
theorem checkSubnet_eq_ok_iff {ip gateway : Ipv4Addr} {prefixLength : UInt8}
    (bound : prefixLength ≤ 31) {result : PUnit} :
    checkSubnet ip gateway prefixLength = .ok result ↔ Neighbours ip gateway prefixLength := by
  have small : prefixLength.toNat ≤ 31 := UInt8.le_iff_toNat_le.mp bound
  have inside : prefixLength ≤ 32 := by
    rw [UInt8.le_iff_toNat_le]
    exact Nat.le_trans small (by decide)
  rw [checkSubnet, prefixMask_eq inside]
  by_cases conventional : prefixLength < 31
  · simp only [Outcome.bind_eq_ok, Outcome.ensure_eq_ok, if_pos conventional, Bool.and_eq_true,
      beq_iff_eq, bne_iff_ne, Except.ok.injEq, exists_eq_left']
    have below : prefixLength.toNat < 31 := UInt8.lt_iff_toNat_lt.mp conventional
    constructor
    · rintro ⟨_, unicast, _, network, _, ⟨notNetwork, notBroadcast⟩, _,
        ⟨gatewayNotNetwork, gatewayNotBroadcast⟩, differ⟩
      rw [← network] at gatewayNotNetwork gatewayNotBroadcast
      refine ⟨unicast, Ipv4Addr.network_eq_iff.mp network, differ, fun _ => ?_, ?_⟩
      · exact ⟨⟨mt Ipv4Addr.eq_network_iff.mpr notNetwork,
            mt Ipv4Addr.eq_broadcast_iff.mpr notBroadcast⟩,
          mt Ipv4Addr.eq_network_iff.mpr gatewayNotNetwork,
          mt Ipv4Addr.eq_broadcast_iff.mpr gatewayNotBroadcast⟩
      · rintro rfl
        exact absurd conventional (by decide)
    · rintro ⟨unicast, subnet, differ, usable, -⟩
      obtain ⟨ipUsable, gatewayUsable⟩ :=
        usable (UInt8.le_iff_toNat_le.mpr (Nat.le_of_lt_succ below))
      have network := Ipv4Addr.network_eq_iff.mpr subnet
      refine ⟨⟨⟩, unicast, ⟨⟩, network, ⟨⟩, ⟨mt Ipv4Addr.eq_network_iff.mp ipUsable.1,
        mt Ipv4Addr.eq_broadcast_iff.mp ipUsable.2⟩, ⟨⟩, ?_, differ⟩
      rw [← network]
      exact ⟨mt Ipv4Addr.eq_network_iff.mp gatewayUsable.1,
        mt Ipv4Addr.eq_broadcast_iff.mp gatewayUsable.2⟩
  · simp only [Outcome.bind_eq_ok, Outcome.ensure_eq_ok, if_neg conventional, Bool.and_eq_true,
      beq_iff_eq, bne_iff_ne, Except.ok.injEq, exists_eq_left']
    have pointToPoint : prefixLength = 31 := UInt8.le_antisymm bound (UInt8.not_lt.mp conventional)
    constructor
    · rintro ⟨_, unicast, _, network, differ⟩
      have subnet := Ipv4Addr.network_eq_iff.mp network
      refine ⟨unicast, subnet, differ, ?_, ?_⟩
      · intro conventional
        rw [pointToPoint] at conventional
        exact absurd conventional (by decide)
      · rintro rfl
        exact pair_of_differ subnet differ
    · rintro ⟨unicast, subnet, differ, -, -⟩
      exact ⟨⟨⟩, unicast, ⟨⟩, Ipv4Addr.network_eq_iff.mpr subnet, differ⟩

end Macdack
