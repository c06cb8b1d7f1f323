import Macdack.Clients

/-!
# The text of a MAC address

`formatMac` prints an address as the log does, and `parseMac` reads the MAC field
of a row. What the reader takes is said by the lowercased text: it is the printed
address, or the printed address with a sign for a leading zero of an octet, since
the number parser of the standard library skips one `+`
(`parseMac_eq_ok_iff_lower`). Without a sign the two are inverse
(`parseMac_iff_formatMac`, `mac_field_inverse`).
-/

set_option autoImplicit false

namespace Macdack

/-! ## Printing -/

/-- `{v:02x}`. -/
def formatOctet (value : UInt8) : List Char :=
  [(value.toNat / 16).digitChar, (value.toNat % 16).digitChar]

def formatMac (mac : Mac) : String := String.ofList ([':'].intercalate (mac.toList.map formatOctet))

/-! ## Reading one octet -/

/-- One piece of the MAC field and the octet it is read as. -/
def ReadsOctet (part : List Char) (octet : UInt8) : Prop :=
  Text.lengthOf part = 2 ∧ Text.u8FromStrRadix 16 part = .ok octet

/-- A number that is read from at most two digits is its octet. -/
theorem u8FromStrRadix_eq_ok {radix : ℕ} {part : List Char} {octet : UInt8} :
    Text.u8FromStrRadix radix part = .ok octet ↔
      ∃ value, Text.fromStrRadix radix 256 part = .ok value ∧ UInt8.ofNat value = octet := by
  rw [Text.u8FromStrRadix]
  cases Text.fromStrRadix radix 256 part with
  | ok value =>
      change Except.ok (UInt8.ofNat value) = Except.ok octet ↔ _
      simp
  | error stop =>
      change Except.error stop = Except.ok octet ↔ _
      simp

theorem accumulateDigits_single_eq_ok {start value : ℕ} {c : Char} (small : start < 16) :
    Text.accumulateDigits 16 256 start [c] = .ok value ↔
      ∃ digit, Text.toDigit 16 c = some digit ∧ value = start * 16 + digit := by
  rw [Text.accumulateDigits_cons_eq_ok]
  constructor
  · rintro ⟨digit, isDigit, -, done⟩
    exact ⟨digit, isDigit, (Except.ok.inj done).symm⟩
  · rintro ⟨digit, isDigit, rfl⟩
    have bound := (Text.toDigit_eq_some_iff.mp isDigit).1
    exact ⟨digit, isDigit, by omega, rfl⟩

theorem accumulateDigits_pair_eq_ok {a b : Char} {value : ℕ} :
    Text.accumulateDigits 16 256 0 [a, b] = .ok value ↔
      ∃ high low, Text.toDigit 16 a = some high ∧ Text.toDigit 16 b = some low ∧
        value = high * 16 + low := by
  rw [Text.accumulateDigits_cons_eq_ok]
  simp only [Nat.zero_mul, Nat.zero_add]
  constructor
  · rintro ⟨high, isHigh, -, readLow⟩
    have bound := (Text.toDigit_eq_some_iff.mp isHigh).1
    obtain ⟨low, isLow, sum⟩ := (accumulateDigits_single_eq_ok bound).mp readLow
    exact ⟨high, low, isHigh, isLow, sum⟩
  · rintro ⟨high, low, isHigh, isLow, sum⟩
    have bound := (Text.toDigit_eq_some_iff.mp isHigh).1
    exact ⟨high, isHigh, by omega, (accumulateDigits_single_eq_ok bound).mpr ⟨low, isLow, sum⟩⟩

/-- A text that is read as a number has one byte for each character. -/
theorem lengthOf_of_read {part : List Char} {octet : UInt8}
    (read : Text.u8FromStrRadix 16 part = .ok octet) : Text.lengthOf part = part.length := by
  obtain ⟨value, readValue, -⟩ := u8FromStrRadix_eq_ok.mp read
  have single : ∀ c ∈ part, c.utf8Size = 1 := by
    intro c member
    rcases Text.digits_of_fromStrRadix readValue c member with rfl | isDigit
    · rfl
    · exact Text.utf8Size_of_toDigit isDigit
  rw [Text.lengthOf, List.map_congr_left single, List.map_const', List.sum_replicate_nat,
    Nat.mul_one]

/-- Two characters are two digits, or a sign and a digit. -/
theorem fromStrRadix_pair_eq_ok {a b : Char} {value : ℕ} :
    Text.fromStrRadix 16 256 [a, b] = .ok value ↔
      (∃ high low, Text.toDigit 16 a = some high ∧ Text.toDigit 16 b = some low ∧
        value = high * 16 + low) ∨
      a = '+' ∧ Text.toDigit 16 b = some value := by
  by_cases sign : a = '+'
  · subst sign
    change Text.accumulateDigits 16 256 0 [b] = .ok value ↔ _
    rw [accumulateDigits_single_eq_ok (by decide)]
    constructor
    · rintro ⟨digit, isDigit, rfl⟩
      exact .inr ⟨rfl, by rwa [Nat.zero_mul, Nat.zero_add]⟩
    · rintro (⟨high, -, wrong, -⟩ | ⟨-, isDigit⟩)
      · cases wrong
      · exact ⟨value, isDigit, by rw [Nat.zero_mul, Nat.zero_add]⟩
  · have unsigned : Text.fromStrRadix 16 256 [a, b] = Text.accumulateDigits 16 256 0 [a, b] := by
      rw [Text.fromStrRadix.eq_def]
      split
      · rename_i empty
        cases empty
      · rename_i short
        cases short
      · rename_i digits signed
        exact absurd (List.cons.inj signed).1 sign
      · rfl
    rw [unsigned, accumulateDigits_pair_eq_ok]
    constructor
    · exact .inl
    · rintro (pair | ⟨isSign, -⟩)
      · exact pair
      · exact absurd isSign sign

theorem ofNat_eq_iff {value : ℕ} {octet : UInt8} (small : value < 256) :
    UInt8.ofNat value = octet ↔ value = octet.toNat := by
  rw [← UInt8.toNat_inj, UInt8.toNat_ofNat_of_lt' small]

/-- Two characters that are read as an octet are its digits, or a sign and its only
digit. -/
theorem u8FromStrRadix_pair_eq_ok {a b : Char} {octet : UInt8} :
    Text.u8FromStrRadix 16 [a, b] = .ok octet ↔
      Text.toDigit 16 a = some (octet.toNat / 16) ∧ Text.toDigit 16 b = some (octet.toNat % 16) ∨
        a = '+' ∧ Text.toDigit 16 b = some octet.toNat := by
  have bound := octet.toNat_lt
  rw [u8FromStrRadix_eq_ok]
  constructor
  · rintro ⟨value, read, isOctet⟩
    rcases fromStrRadix_pair_eq_ok.mp read with ⟨high, low, isHigh, isLow, sum⟩ | ⟨sign, isLow⟩
    · have highBound := (Text.toDigit_eq_some_iff.mp isHigh).1
      have lowBound := (Text.toDigit_eq_some_iff.mp isLow).1
      have same := (ofNat_eq_iff (by omega)).mp isOctet
      left
      rw [isHigh, isLow, Option.some.injEq, Option.some.injEq]
      omega
    · have lowBound := (Text.toDigit_eq_some_iff.mp isLow).1
      rw [← (ofNat_eq_iff (by omega)).mp isOctet]
      exact .inr ⟨sign, isLow⟩
  · intro read
    refine ⟨octet.toNat, fromStrRadix_pair_eq_ok.mpr ?_, UInt8.ofNat_toNat⟩
    rcases read with ⟨isHigh, isLow⟩ | signed
    · exact .inl ⟨_, _, isHigh, isLow, by omega⟩
    · exact .inr signed

/-- **One octet.** A piece is read as an octet when its lowercased text is the
printed octet, or a sign and the only digit of a small one. -/
theorem readsOctet_iff {part : List Char} {octet : UInt8} :
    ReadsOctet part octet ↔
      Text.toAsciiLowercase part = formatOctet octet ∨
        octet.toNat < 16 ∧ Text.toAsciiLowercase part = ['+', octet.toNat.digitChar] := by
  have bound := octet.toNat_lt
  have lower_iff : ∀ a b : Char, Text.u8FromStrRadix 16 [a, b] = .ok octet ↔
      Text.toAsciiLowercase [a, b] = formatOctet octet ∨
        octet.toNat < 16 ∧ Text.toAsciiLowercase [a, b] = ['+', octet.toNat.digitChar] := by
    intro a b
    have high : octet.toNat / 16 < 16 := by omega
    have low : octet.toNat % 16 < 16 := by omega
    have sign : a.toLower = '+' ↔ a = '+' := Text.toLower_eq_iff (by decide)
    rw [u8FromStrRadix_pair_eq_ok, Text.toDigit_eq_some_iff, Text.toDigit_eq_some_iff,
      Text.toDigit_eq_some_iff]
    simp only [Text.toAsciiLowercase, formatOctet, List.map_cons, List.map_nil, List.cons.injEq,
      and_true, high, low, true_and, sign]
    exact or_congr_right and_left_comm
  constructor
  · rintro ⟨length, read⟩
    rw [lengthOf_of_read read, List.length_eq_two] at length
    obtain ⟨a, b, rfl⟩ := length
    exact (lower_iff a b).mp read
  · intro lower
    obtain ⟨a, b, rfl⟩ : ∃ a b, part = [a, b] := by
      rw [← List.length_eq_two, ← List.length_map Char.toLower]
      rcases lower with pair | ⟨-, signed⟩
      · exact congrArg List.length pair
      · exact congrArg List.length signed
    have read := (lower_iff a b).mpr lower
    exact ⟨lengthOf_of_read read, read⟩

/-! ## Reading the field -/

theorem exists_octets (mac : Mac) : ∃ a b c d e f, mac = #v[a, b, c, d, e, f] := by
  obtain ⟨⟨octets⟩, length⟩ := mac
  change octets.length = 6 at length
  rcases octets with _ | ⟨a, _ | ⟨b, _ | ⟨c, _ | ⟨d, _ | ⟨e, _ | ⟨f, _ | ⟨g, more⟩⟩⟩⟩⟩⟩⟩
  all_goals first | exact ⟨a, b, c, d, e, f, rfl⟩ | simp at length

/-- The field is read piece by piece. -/
theorem parseMac_eq_ok_iff {text : String} {mac : Mac} :
    parseMac text = .ok mac ↔ List.Forall₂ ReadsOctet (text.toList.splitOn ':') mac.toList := by
  rw [parseMac.eq_def]
  constructor
  · intro parsed
    split at parsed
    · rename_i a b c d e f pieces
      rw [pieces]
      split at parsed
      · rename_i lengths
        simp only [parseMacOctet, Outcome.bind_eq_ok, Outcome.context_eq_ok, Outcome.pure_eq_ok,
          Except.ok.injEq] at parsed
        obtain ⟨_, first, _, second, _, third, _, fourth, _, fifth, _, sixth, rfl⟩ := parsed
        simp only [List.all_cons, List.all_nil, Bool.and_true, Bool.and_eq_true,
          decide_eq_true_eq] at lengths
        obtain ⟨lengthA, lengthB, lengthC, lengthD, lengthE, lengthF⟩ := lengths
        exact .cons ⟨lengthA, first⟩ (.cons ⟨lengthB, second⟩ (.cons ⟨lengthC, third⟩
          (.cons ⟨lengthD, fourth⟩ (.cons ⟨lengthE, fifth⟩ (.cons ⟨lengthF, sixth⟩ .nil)))))
      · cases parsed
    · cases parsed
  · intro reads
    obtain ⟨a, b, c, d, e, f, rfl⟩ := exists_octets mac
    change List.Forall₂ ReadsOctet _ [a, b, c, d, e, f] at reads
    simp only [List.forall₂_cons_right_iff, List.forall₂_nil_right_iff] at reads
    obtain ⟨_, _, first, ⟨_, _, second, ⟨_, _, third, ⟨_, _, fourth, ⟨_, _, fifth,
      ⟨_, _, sixth, rfl, rfl⟩, rfl⟩, rfl⟩, rfl⟩, rfl⟩, pieces⟩ := reads
    simp only [pieces, List.all_cons, List.all_nil, first.1, second.1, third.1, fourth.1,
      fifth.1, sixth.1, decide_true, Bool.and_true, if_true, parseMacOctet, first.2, second.2,
      third.2, fourth.2, fifth.2, sixth.2, Outcome.context_ok, Outcome.bind_ok, Outcome.pure_eq_ok]

/-- The field is read through its lowercased text. -/
theorem parseMac_eq_ok_iff_lower {text : String} {mac : Mac} :
    parseMac text = .ok mac ↔
      List.Forall₂ (fun part octet => part = formatOctet octet ∨
          octet.toNat < 16 ∧ part = ['+', octet.toNat.digitChar])
        ((Text.toAsciiLowercase text.toList).splitOn ':') mac.toList := by
  rw [parseMac_eq_ok_iff, Text.splitOn_toAsciiLowercase (by decide), List.forall₂_map_left_iff]
  simp only [← readsOctet_iff]

/-- **The letter case of the field does not matter.** -/
theorem parseMac_congr {text other : String}
    (sameLetters : Text.toAsciiLowercase text.toList = Text.toAsciiLowercase other.toList)
    (mac : Mac) : parseMac text = .ok mac ↔ parseMac other = .ok mac := by
  rw [parseMac_eq_ok_iff_lower, parseMac_eq_ok_iff_lower, sameLetters]

/-! ## The inverse -/

/-- A printed octet has digits only. -/
theorem notMem_formatOctet {sign : Char} (noDigit : sign.toNat < 48 ∨ sign.toNat = 58)
    (octet : UInt8) : sign ∉ formatOctet octet := by
  have away : ∀ digit < 16, sign ≠ digit.digitChar := by
    intro digit small equal
    have value := Text.toNat_digitChar small
    rw [← equal] at value
    split_ifs at value <;> omega
  have bound := octet.toNat_lt
  rw [formatOctet, List.mem_cons, List.mem_singleton]
  rintro (equal | equal)
  · exact away _ (by omega) equal
  · exact away _ (by omega) equal

/-- The pieces of a printed address are its octets. -/
theorem splitOn_formatMac (mac : Mac) :
    (formatMac mac).toList.splitOn ':' = mac.toList.map formatOctet := by
  obtain ⟨a, b, c, d, e, f, rfl⟩ := exists_octets mac
  rw [formatMac, String.toList_ofList]
  apply List.splitOn_intercalate
  · intro part member
    obtain ⟨octet, -, rfl⟩ := List.mem_map.mp member
    exact notMem_formatOctet (by decide) octet
  · nofun

/-- A text in the pieces of a printed address is the printed address. -/
theorem splitOn_eq_iff {text : List Char} {mac : Mac} :
    text.splitOn ':' = mac.toList.map formatOctet ↔ text = (formatMac mac).toList := by
  constructor
  · intro pieces
    rw [formatMac, String.toList_ofList, ← pieces, List.intercalate_splitOn]
  · rintro rfl
    exact splitOn_formatMac mac

/-- What stands in a joined text stands in a piece or is the separator. -/
theorem mem_intercalate {separator c : Char} {pieces : List (List Char)} (single : c ≠ separator) :
    c ∈ [separator].intercalate pieces ↔ ∃ piece ∈ pieces, c ∈ piece := by
  induction pieces with
  | nil => simp
  | cons piece pieces ih =>
      cases pieces with
      | nil => simp
      | cons next rest => simp [ih, single]

theorem mem_iff_of_splitOn {separator c : Char} {text : List Char} (single : c ≠ separator) :
    c ∈ text ↔ ∃ piece ∈ text.splitOn separator, c ∈ piece := by
  rw [← mem_intercalate single, List.intercalate_splitOn]

/-- A printed address has no sign. -/
theorem notMem_formatMac (mac : Mac) : '+' ∉ (formatMac mac).toList := by
  rw [mem_iff_of_splitOn (by decide : '+' ≠ ':'), splitOn_formatMac]
  rintro ⟨piece, member, sign⟩
  obtain ⟨octet, -, rfl⟩ := List.mem_map.mp member
  exact notMem_formatOctet (by decide) octet sign

/-- A printed address is in lower case. -/
theorem toAsciiLowercase_formatMac (mac : Mac) :
    Text.toAsciiLowercase (formatMac mac).toList = (formatMac mac).toList := by
  rw [← splitOn_eq_iff, Text.splitOn_toAsciiLowercase (by decide), splitOn_formatMac, List.map_map]
  refine List.map_congr_left fun octet _ => ?_
  have bound := octet.toNat_lt
  change [(octet.toNat / 16).digitChar.toLower, (octet.toNat % 16).digitChar.toLower] = _
  rw [Text.toLower_digitChar (by omega), Text.toLower_digitChar (by omega), formatOctet]

/-- **Without a sign, the reader takes the printed address in any letter case and
nothing else.** -/
theorem parseMac_iff_formatMac {text : String} {mac : Mac} :
    parseMac text = .ok mac ∧ '+' ∉ text.toList ↔
      Text.toAsciiLowercase text.toList = (formatMac mac).toList := by
  rw [parseMac_eq_ok_iff_lower, ← Text.mem_toAsciiLowercase (by decide)]
  constructor
  · rintro ⟨reads, unsigned⟩
    rw [mem_iff_of_splitOn (by decide : '+' ≠ ':')] at unsigned
    push Not at unsigned
    have pieces := (List.forall₂_and_left _ _).mpr ⟨unsigned, reads⟩
    rw [← splitOn_eq_iff, ← List.forall₂_eq_eq_eq, List.forall₂_map_right_iff]
    refine pieces.imp ?_
    rintro piece octet ⟨noSign, digits | ⟨-, signed⟩⟩
    · exact digits
    · rw [signed] at noSign
      exact absurd List.mem_cons_self noSign
  · intro printed
    rw [printed, splitOn_formatMac, List.forall₂_map_left_iff]
    exact ⟨List.forall₂_same.mpr fun octet _ => .inl rfl, notMem_formatMac mac⟩

/-! ## The field of a row -/

/-- Two texts that are equal up to letter case. -/
def SameLetters (text other : String) : Prop :=
  Text.toAsciiLowercase text.toList = Text.toAsciiLowercase other.toList

/-- Pairs of hexadecimal digits between colons, one for each octet, and the address
they denote. -/
def DenotesMac (text : String) (mac : Mac) : Prop :=
  List.Forall₂ (fun part octet => ∃ a b high low, part = [a, b] ∧ Text.toDigit 16 a = some high ∧
      Text.toDigit 16 b = some low ∧ octet.toNat = high * 16 + low)
    (text.toList.splitOn ':') mac.toList

/-- A pair of digits of an octet is the printed octet in any letter case. -/
theorem digits_iff_formatOctet {part : List Char} {octet : UInt8} :
    (∃ a b high low, part = [a, b] ∧ Text.toDigit 16 a = some high ∧
      Text.toDigit 16 b = some low ∧ octet.toNat = high * 16 + low) ↔
      Text.toAsciiLowercase part = formatOctet octet := by
  have bound := octet.toNat_lt
  constructor
  · rintro ⟨a, b, high, low, rfl, isHigh, isLow, sum⟩
    obtain ⟨highBound, highLower⟩ := Text.toDigit_eq_some_iff.mp isHigh
    obtain ⟨lowBound, lowLower⟩ := Text.toDigit_eq_some_iff.mp isLow
    have highValue : octet.toNat / 16 = high := by omega
    have lowValue : octet.toNat % 16 = low := by omega
    rw [formatOctet, highValue, lowValue, ← highLower, ← lowLower]
    rfl
  · intro printed
    obtain ⟨a, b, rfl⟩ : ∃ a b, part = [a, b] := by
      rw [← List.length_eq_two, ← List.length_map Char.toLower]
      exact congrArg List.length printed
    obtain ⟨high, rest⟩ := List.cons.inj printed
    have low := (List.cons.inj rest).1
    exact ⟨a, b, _, _, rfl, Text.toDigit_eq_some_iff.mpr ⟨by omega, high⟩,
      Text.toDigit_eq_some_iff.mpr ⟨by omega, low⟩, by omega⟩

/-- **What a text denotes is what prints it.** -/
theorem denotesMac_iff {text : String} {mac : Mac} :
    DenotesMac text mac ↔ Text.toAsciiLowercase text.toList = (formatMac mac).toList := by
  have equal := congrFun (congrFun List.forall₂_eq_eq_eq
    ((text.toList.splitOn ':').map Text.toAsciiLowercase)) (mac.toList.map formatOctet)
  simp only [DenotesMac, digits_iff_formatOctet]
  rw [← splitOn_eq_iff, Text.splitOn_toAsciiLowercase (by decide), ← equal,
    List.forall₂_map_left_iff, List.forall₂_map_right_iff]

/-- **Printing and reading the MAC field are inverse, up to signs.** In a row whose
other fields pass their checks:

* an accepted field is what its address prints, in any letter case, exactly when
  it has no sign;
* what an assignable address prints, in any letter case, is accepted as this
  address;
* the accepted fields without a sign are the pairs of digits that denote an
  assignable address;
* another accepted field without a sign gives the same address exactly when it is
  equal up to letter case. -/
theorem mac_field_inverse {row : List String} {client : Client} {text : String}
    (fields : client.OtherFields row) (isMac : row[5]? = some text) :
    (parseClient row = .ok client →
      ((formatMac client.mac).toList = Text.toAsciiLowercase text.toList ↔ '+' ∉ text.toList)) ∧
    (client.mac.Assignable → SameLetters text (formatMac client.mac) →
      parseClient row = .ok client) ∧
    (parseClient row = .ok client ∧ '+' ∉ text.toList ↔
      client.mac.Assignable ∧ DenotesMac text client.mac) ∧
    ∀ {otherRow : List String} {other : Client} {otherText : String},
      parseClient row = .ok client → '+' ∉ text.toList →
      otherRow[5]? = some otherText → parseClient otherRow = .ok other →
        (other.mac = client.mac ∧ '+' ∉ otherText.toList ↔ SameLetters otherText text) := by
  have accepted_iff : parseClient row = .ok client ↔
      client.mac.Assignable ∧ parseMac text = .ok client.mac := by
    rw [parseClient_eq_ok_iff, isMac]
    simp [fields]
  refine ⟨?_, ?_, ?_, ?_⟩
  · intro accepted
    have read := (accepted_iff.mp accepted).2
    rw [eq_comm, ← parseMac_iff_formatMac, and_iff_right read]
  · intro assignable printed
    rw [SameLetters, toAsciiLowercase_formatMac, ← parseMac_iff_formatMac] at printed
    exact accepted_iff.mpr ⟨assignable, printed.1⟩
  · rw [accepted_iff, denotesMac_iff, ← parseMac_iff_formatMac, and_assoc]
  · intro otherRow other otherText accepted unsigned isOther acceptedOther
    obtain ⟨-, -, _, isText, readOther⟩ := parseClient_eq_ok_iff.mp acceptedOther
    rw [isOther, Option.some.injEq] at isText
    subst isText
    have printed := parseMac_iff_formatMac.mp ⟨(accepted_iff.mp accepted).2, unsigned⟩
    constructor
    · rintro ⟨sameMac, otherUnsigned⟩
      rw [SameLetters, printed, ← sameMac]
      exact parseMac_iff_formatMac.mp ⟨readOther, otherUnsigned⟩
    · intro sameLetters
      rw [SameLetters, printed, ← parseMac_iff_formatMac] at sameLetters
      have sameMac := sameLetters.1
      rw [readOther, Except.ok.injEq] at sameMac
      exact ⟨sameMac, sameLetters.2⟩

/-- A row with the given MAC field, for examples. -/
def macRow (text : String) : List String :=
  ["dc1", "host.name1", "example.internal", "uefi", "1500", text, "1.2.3.4", "24", "1.2.3.1"]

/-- A field in mixed case is printed in lower case. -/
theorem mac_field_inverse_mixed_case :
    parseClient (macRow "aA:BB:cc:DD:EE:FF") = .ok Clients.shippedClient ∧
      ((formatMac Clients.shippedClient.mac).toList =
        Text.toAsciiLowercase "aA:BB:cc:DD:EE:FF".toList ↔
          '+' ∉ "aA:BB:cc:DD:EE:FF".toList) := by
  have accepted : parseClient (macRow "aA:BB:cc:DD:EE:FF") = .ok Clients.shippedClient := by
    decide +kernel
  have fields := (parseClient_eq_ok_iff.mp accepted).1
  exact ⟨accepted, (mac_field_inverse fields rfl).1 accepted⟩

/-- **A field with a sign**: the row is accepted although the field is no pairs of
digits, and its address is printed otherwise. -/
theorem mac_field_with_sign : ∃ client : Client,
    parseClient (macRow "+2:11:22:33:44:55") = .ok client ∧
      (formatMac client.mac).toList ≠ Text.toAsciiLowercase "+2:11:22:33:44:55".toList ∧
      ¬ DenotesMac "+2:11:22:33:44:55" client.mac := by
  have printed : (formatMac #v[0x02, 0x11, 0x22, 0x33, 0x44, 0x55]).toList ≠
      Text.toAsciiLowercase "+2:11:22:33:44:55".toList := by
    decide +kernel
  refine ⟨{ Clients.shippedClient with mac := #v[0x02, 0x11, 0x22, 0x33, 0x44, 0x55] },
    by decide +kernel, printed, ?_⟩
  rw [denotesMac_iff]
  exact printed.symm

end Macdack
