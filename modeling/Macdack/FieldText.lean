import Macdack.Library.Decimal
import Macdack.MacText
import Macdack.Subnet

/-!
# The texts of numbers, addresses and routes

The numbers of the configuration and of the client rows are read by `from_str`, which takes
leading zeros and a plus sign; addresses are read in exactly the form in which they are
printed. `u8FromStr_eq_ok_iff`, `Ipv4Addr.parse_eq_ok_iff` and `parse_route_exact` say
which texts are read, and as what.
-/

set_option autoImplicit false

namespace Macdack

open Decimal (Spells IsNumeral IsCanonical)

/-! ## Numbers -/

namespace Text

theorem toDigit_ten_eq_some_iff {c : Char} {digit : ℕ} :
    toDigit 10 c = some digit ↔ c.isDigit = true ∧ c.toNat - 48 = digit := by
  rw [toDigit_eq, Option.filter_eq_some_iff, decide_eq_true_eq, Decimal.isDigit_iff]
  split_ifs <;> simp only [Option.some.injEq, false_and, false_iff] <;> omega

/-- **The digit loop** reads texts of digits, as their value, when it is small enough. -/
theorem accumulateDigits_eq_ok_iff {bound start value : ℕ} (small : start < bound)
    {text : List Char} : accumulateDigits 10 bound start text = .ok value ↔
      (∀ c ∈ text, c.isDigit = true) ∧ Nat.ofDigitChars 10 text start = value ∧ value < bound := by
  induction text generalizing start with
  | nil =>
      rw [accumulateDigits, Nat.ofDigitChars_nil, Except.ok.injEq]
      constructor
      · rintro rfl
        exact ⟨fun _ member => absurd member List.not_mem_nil, rfl, small⟩
      · exact fun facts => facts.2.1
  | cons c rest ih =>
      rw [accumulateDigits_cons_eq_ok, List.forall_mem_cons, Nat.ofDigitChars_cons]
      constructor
      · rintro ⟨digit, isDigit, next, read⟩
        obtain ⟨isChar, rfl⟩ := toDigit_ten_eq_some_iff.mp isDigit
        obtain ⟨digits, same, bounded⟩ := (ih next).mp read
        rw [Nat.mul_comm start] at same
        exact ⟨⟨isChar, digits⟩, same, bounded⟩
      · rintro ⟨⟨isChar, digits⟩, same, bounded⟩
        refine ⟨_, toDigit_ten_eq_some_iff.mpr ⟨isChar, rfl⟩, ?_⟩
        have next : start * 10 + (c.toNat - 48) < bound := by
          rw [Nat.ofDigitChars_eq_ofDigitChars_zero] at same
          have factor := Nat.one_le_pow rest.length 10 (by decide)
          have grows := Nat.le_mul_of_pos_left (10 * start + (c.toNat - '0'.toNat)) factor
          rw [Nat.mul_comm start]
          change 10 * start + (c.toNat - '0'.toNat) < bound
          omega
        refine ⟨next, (ih next).mpr ⟨digits, ?_, bounded⟩⟩
        rw [Nat.mul_comm start]
        exact same

/-- The digit loop on a text that is not empty reads numerals. -/
theorem accumulateDigits_numeral {bound value : ℕ} (positive : 0 < bound) {digits : List Char}
    (nonempty : digits ≠ []) : accumulateDigits 10 bound 0 digits = .ok value ↔
      (IsNumeral digits ∧ Decimal.value digits = value) ∧ value < bound := by
  rw [accumulateDigits_eq_ok_iff positive]
  constructor
  · rintro ⟨each, same, bounded⟩
    exact ⟨⟨⟨nonempty, each⟩, same⟩, bounded⟩
  · rintro ⟨⟨isNumeral, same⟩, bounded⟩
    exact ⟨isNumeral.digits, same, bounded⟩

/-- **A number is read** from every text that spells it. -/
theorem fromStrRadix_eq_ok_iff {bound value : ℕ} (positive : 0 < bound) {text : List Char} :
    fromStrRadix 10 bound text = .ok value ↔ Spells text value ∧ value < bound := by
  rw [fromStrRadix.eq_def]
  split
  · constructor
    · intro failed
      cases failed
    · exact fun both => absurd both.1 Decimal.not_spells_nil
  · constructor
    · intro failed
      cases failed
    · rw [Decimal.spells_plus_iff]
      exact fun both => absurd rfl both.1.1.nonempty
  · rename_i digits some
    have nonempty : digits ≠ [] := fun empty => some (by rw [empty])
    rw [accumulateDigits_numeral positive nonempty, Decimal.spells_plus_iff]
  · rename_i nonempty _ unsigned
    rw [accumulateDigits_numeral positive nonempty, Decimal.spells_iff_of_unsigned unsigned]

theorem u8FromStr_eq_ok_iff {text : List Char} {value : UInt8} :
    u8FromStr text = .ok value ↔ Spells text value.toNat := by
  rw [u8FromStr, u8FromStrRadix, Outcome.map_eq_ok]
  constructor
  · rintro ⟨number, parsed, rfl⟩
    obtain ⟨spells, small⟩ := (fromStrRadix_eq_ok_iff (by decide)).mp parsed
    rwa [toNat_ofNat_of_lt small]
  · intro spells
    exact ⟨_, (fromStrRadix_eq_ok_iff (by decide)).mpr ⟨spells, value.toNat_lt⟩,
      UInt8.ofNat_toNat⟩

theorem u16FromStr_eq_ok_iff {text : List Char} {value : UInt16} :
    u16FromStr text = .ok value ↔ Spells text value.toNat := by
  rw [u16FromStr, Outcome.map_eq_ok]
  constructor
  · rintro ⟨number, parsed, rfl⟩
    obtain ⟨spells, small⟩ := (fromStrRadix_eq_ok_iff (by decide)).mp parsed
    rwa [UInt16.toNat_ofNat_of_lt' small]
  · intro spells
    exact ⟨_, (fromStrRadix_eq_ok_iff (by decide)).mpr ⟨spells, value.toNat_lt⟩,
      UInt16.ofNat_toNat⟩

end Text

/-! ## Addresses -/

namespace Ipv4Addr

/-- **A number of the dotted form** is read when it is printed so. -/
theorem parseOctet_eq_some_iff {text : List Char} {octet : UInt8} :
    parseOctet text = some octet ↔ text = Nat.toDigits 10 octet.toNat := by
  rw [parseOctet]
  constructor
  · intro read
    split at read
    · cases read
    · rename_i short
      rw [not_or, not_or, not_and_or] at short
      obtain ⟨nonempty, -, front⟩ := short
      cases parsed : Text.accumulateDigits 10 256 0 text with
      | error stop =>
          rw [parsed] at read
          cases read
      | ok value =>
          rw [parsed] at read
          obtain rfl := Option.some.inj read
          obtain ⟨digits, same, small⟩ := (Text.accumulateDigits_eq_ok_iff (by decide)).mp parsed
          have canonical : IsCanonical text := by
            refine ⟨⟨fun empty => nonempty (by rw [empty]; rfl), digits⟩, fun zero => ?_⟩
            have one := front.resolve_left (not_not.mpr zero)
            omega
          rw [toNat_ofNat_of_lt small, ← same, Decimal.toDigits_value canonical]
  · rintro rfl
    have canonical := Decimal.isCanonical_toDigits octet.toNat
    have short : (Nat.toDigits 10 octet.toNat).length ≤ 3 :=
      (Nat.length_toDigits_le_iff (by decide) (by decide)).mpr
        (Nat.lt_trans octet.toNat_lt (by decide))
    have positive : 0 < (Nat.toDigits 10 octet.toNat).length := Nat.length_toDigits_pos
    have parsed : Text.accumulateDigits 10 256 0 (Nat.toDigits 10 octet.toNat) =
        .ok octet.toNat :=
      (Text.accumulateDigits_eq_ok_iff (by decide)).mpr
        ⟨canonical.digits, Nat.ofDigitChars_ten_toDigits, octet.toNat_lt⟩
    have fits : ¬((Nat.toDigits 10 octet.toNat).length = 0 ∨
        3 < (Nat.toDigits 10 octet.toNat).length ∨
          (Nat.toDigits 10 octet.toNat).head? = some '0' ∧
            1 < (Nat.toDigits 10 octet.toNat).length) := by
      rintro (empty | long | ⟨zero, more⟩)
      · omega
      · omega
      · rw [canonical.front zero] at more
        exact absurd more (by decide)
    rw [if_neg fits, parsed]
    exact congrArg some UInt8.ofNat_toNat

/-- The numbers of an address, as they are printed. -/
def numerals (ip : Ipv4Addr) : List (List Char) :=
  ip.bytes.map fun octet => Nat.toDigits 10 octet.toNat

theorem toList_toText (ip : Ipv4Addr) : ip.toText.toList = ['.'].intercalate ip.numerals := by
  have dot : (toString ".").toList = ['.'] := rfl
  have octet : ∀ value : UInt8, (toString value).toList = Nat.toDigits 10 value.toNat :=
    fun _ => Nat.toList_repr
  rw [numerals, bytes_eq, toText]
  simp only [String.toList_append, dot, octet, List.map_cons, List.map_nil, List.intercalate,
    List.intersperse, List.flatten_cons, List.flatten_nil, List.append_assoc, List.append_nil]

/-- A dot is no digit. -/
theorem dot_notMem_toDigits (number : ℕ) : '.' ∉ Nat.toDigits 10 number := by
  intro member
  have digit := Nat.isDigit_of_mem_toDigits (by decide) (by decide) member
  cases digit

/-- The printed text has the four numbers between its dots. -/
theorem splitOn_toText (ip : Ipv4Addr) : ip.toText.toList.splitOn '.' = ip.numerals := by
  rw [toList_toText]
  refine List.splitOn_intercalate '.' (fun piece member => ?_) ?_
  · obtain ⟨octet, -, rfl⟩ := List.mem_map.mp member
    exact dot_notMem_toDigits _
  · rw [numerals, bytes_eq]
    exact List.cons_ne_nil _ _

/-- **An address is read** from the text that it is printed as, and from no other. -/
theorem parse_eq_ok_iff {text : List Char} {ip : Ipv4Addr} :
    parse text = .ok ip ↔ text = ip.toText.toList := by
  constructor
  · intro parsed
    rw [parse] at parsed
    split at parsed
    · rename_i a b c d read
      obtain rfl := Except.ok.inj parsed
      obtain ⟨first, later, split, isFirst, read⟩ := List.map_eq_cons_iff.mp read
      obtain ⟨second, later, rfl, isSecond, read⟩ := List.map_eq_cons_iff.mp read
      obtain ⟨third, later, rfl, isThird, read⟩ := List.map_eq_cons_iff.mp read
      obtain ⟨fourth, later, rfl, isFourth, read⟩ := List.map_eq_cons_iff.mp read
      obtain rfl := List.map_eq_nil_iff.mp read
      obtain rfl := parseOctet_eq_some_iff.mp isFirst
      obtain rfl := parseOctet_eq_some_iff.mp isSecond
      obtain rfl := parseOctet_eq_some_iff.mp isThird
      obtain rfl := parseOctet_eq_some_iff.mp isFourth
      have joined : ['.'].intercalate (text.splitOn '.') = text := List.intercalate_splitOn '.'
      rw [toList_toText, ← joined, split]
      rfl
    · cases parsed
  · rintro rfl
    have read : (ip.toText.toList.splitOn '.').map parseOctet =
        [some ip.octets[0], some ip.octets[1], some ip.octets[2], some ip.octets[3]] := by
      rw [splitOn_toText, numerals, bytes_eq]
      simp only [List.map_cons, List.map_nil, parseOctet_eq_some_iff.mpr rfl]
    rw [parse, read]
    exact congrArg Except.ok (bytes_injective (bytes_eq ip).symm)

end Ipv4Addr

/-! ## Routes -/

/-- A printed address has no slash. -/
theorem slash_notMem_toText (ip : Ipv4Addr) : '/' ∉ ip.toText.toList := by
  rw [Ipv4Addr.toList_toText, mem_intercalate (by decide : '/' ≠ '.')]
  rintro ⟨piece, member, slash⟩
  obtain ⟨octet, -, rfl⟩ := List.mem_map.mp member
  have digit := Nat.isDigit_of_mem_toDigits (by decide) (by decide) slash
  cases digit

/-- Behind a text without a slash, the first slash is the next character. -/
theorem splitOnce_slash {front back : List Char} (none : '/' ∉ front) :
    Text.splitOnce ['/'] (front ++ '/' :: back) = some (front, back) := by
  refine (Text.splitOnce_eq_some_iff (List.cons_ne_nil _ _)).mpr ⟨rfl, fun earlier later same => ?_⟩
  by_contra shorter
  rw [Nat.not_le] at shorter
  have found : (front ++ '/' :: back)[earlier.length]? = some '/' := by
    rw [same, List.getElem?_append_right (Nat.le_refl _), Nat.sub_self]
    rfl
  rw [List.getElem?_append_left shorter] at found
  exact none (List.mem_of_getElem? found)

/-- The text of a route that is accepted. -/
theorem text_of_parseRoute {route : String} {net : Ipv4Addr} {prefixLength : UInt8}
    (parsed : parseRoute route = .ok (net, prefixLength)) :
    ∃ digits, route.toList = net.toText.toList ++ '/' :: digits ∧
      Spells digits prefixLength.toNat := by
  simp only [parseRoute, Outcome.bind_eq_ok, Outcome.required_eq_ok, Outcome.context_eq_ok,
    Outcome.ensure_eq_ok, Outcome.pure_eq_ok, Except.ok.injEq, Prod.mk.injEq] at parsed
  obtain ⟨⟨front, digits⟩, split, other, readNet, number, readPrefix, -, -, -, -, -, -, rfl, rfl⟩ :=
    parsed
  obtain ⟨whole, -⟩ := (Text.splitOnce_eq_some_iff (List.cons_ne_nil _ _)).mp split
  obtain rfl := Ipv4Addr.parse_eq_ok_iff.mp readNet
  exact ⟨digits, whole, Text.u8FromStr_eq_ok_iff.mp readPrefix⟩

/-- A text of a network without host bits and of its prefix is accepted. -/
theorem parseRoute_of_text {route : String} {net : Ipv4Addr} {prefixLength : UInt8}
    {digits : List Char} (whole : route.toList = net.toText.toList ++ '/' :: digits)
    (spells : Spells digits prefixLength.toNat) (bounds : 1 ≤ prefixLength ∧ prefixLength ≤ 32)
    (noHost : net.host prefixLength = 0) : parseRoute route = .ok (net, prefixLength) := by
  have hostBits : (net.toU32 &&& ~~~maskOf prefixLength == 0) = true := by
    rw [beq_iff_eq, ← UInt32.toNat_inj, toNat_and_not_maskOf, UInt32.toNat_zero]
    exact noHost
  have split : Text.splitOnce ['/'] route.toList = some (net.toText.toList, digits) := by
    rw [whole]
    exact splitOnce_slash (slash_notMem_toText net)
  simp only [parseRoute, Outcome.bind_eq_ok, Outcome.required_eq_ok, Outcome.context_eq_ok,
    Outcome.ensure_eq_ok, Outcome.pure_eq_ok]
  exact ⟨_, split, net, Ipv4Addr.parse_eq_ok_iff.mpr rfl, prefixLength,
    Text.u8FromStr_eq_ok_iff.mpr spells, ⟨⟩, decide_eq_true bounds, _, prefixMask_eq bounds.2, ⟨⟩,
    hostBits, rfl⟩

/-- **What a route is.** `parse_route` reads the printed address of a network, a slash and
a text of its prefix, which is from 1 to 32 and leaves the network no host bits; and it
reads nothing else. -/
theorem parse_route_exact {route : String} {net : Ipv4Addr} {prefixLength : UInt8} :
    parseRoute route = .ok (net, prefixLength) ↔
      (∃ digits, route.toList = net.toText.toList ++ '/' :: digits ∧
        Spells digits prefixLength.toNat) ∧
      1 ≤ prefixLength ∧ prefixLength ≤ 32 ∧ net.host prefixLength = 0 := by
  constructor
  · exact fun parsed => ⟨text_of_parseRoute parsed, host_of_parseRoute parsed⟩
  · rintro ⟨⟨digits, whole, spells⟩, positive, bound, noHost⟩
    exact parseRoute_of_text whole spells ⟨positive, bound⟩ noHost

end Macdack
