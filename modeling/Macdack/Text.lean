import Mathlib.Algebra.GroupWithZero.Nat
import Mathlib.Data.List.Basic
import Macdack.Library.Outcome

/-!
# Text and numbers of the standard library

The functions of Rust's standard library that the program applies to text:
UTF-8 in both directions, `split`, `split_once`, `get(..n)` and the parsing of
unsigned numbers. Text is a `String` where the source stores one and a list of
characters where it is taken apart.

Parsing follows `from_str_radix`: one leading `+` is allowed, a text without
digits is an error, and the first wrong digit or the first overflow decides the
error.
-/

set_option autoImplicit false

namespace Macdack

/-- A byte string. -/
abbrev Bytes := List UInt8

namespace Text

/-- `str::as_bytes`. -/
def asBytes (text : String) : Bytes := text.toByteArray.data.toList

/-- `str::len`, which counts bytes. -/
def byteLength (text : String) : ℕ := (asBytes text).length

/-- `std::str::from_utf8`, without the text of its error. -/
def fromUtf8 (bytes : Bytes) : Option String := String.fromUTF8? ⟨bytes.toArray⟩

/-- The bytes that a list of characters takes. -/
def lengthOf (text : List Char) : ℕ := (text.map Char.utf8Size).sum

/-- `str::get(..n)`: the characters that take exactly the first `n` bytes. -/
def getTo : ℕ → List Char → Option (List Char)
  | 0, _ => some []
  | _ + 1, [] => none
  | n + 1, c :: rest =>
      if c.utf8Size ≤ n + 1 then (getTo (n + 1 - c.utf8Size) rest).map (c :: ·) else none
termination_by _ text => text.length

/-- `str::split_once`: the parts before and after the first occurrence. -/
def splitOnce (separator : List Char) : List Char → Option (List Char × List Char)
  | [] => none
  | c :: rest =>
      if separator.isPrefixOf (c :: rest) then some ([], (c :: rest).drop separator.length)
      else (splitOnce separator rest).map fun parts => (c :: parts.1, parts.2)

/-- `str::split` with a non-empty text: the pieces between its occurrences,
found from left to right. -/
def splitText (separator : List Char) : List Char → List Char → List (List Char)
  | piece, [] => [piece.reverse]
  | piece, c :: rest =>
      if separator.isPrefixOf (c :: rest) ∧ separator ≠ [] then
        piece.reverse :: splitText separator [] ((c :: rest).drop separator.length)
      else splitText separator (c :: piece) rest
termination_by _ text => text.length
decreasing_by
  · rename_i found
    have := List.length_pos_iff.mpr found.2
    simp only [List.length_drop, List.length_cons]
    omega
  · simp

/-! ## Numbers -/

/-- `char::to_digit`. -/
def toDigit (radix : ℕ) (c : Char) : Option ℕ :=
  let digit :=
    if '0' ≤ c ∧ c ≤ '9' then some (c.toNat - '0'.toNat)
    else if 'a' ≤ c ∧ c ≤ 'z' then some (c.toNat - 'a'.toNat + 10)
    else if 'A' ≤ c ∧ c ≤ 'Z' then some (c.toNat - 'A'.toNat + 10)
    else none
  digit.filter (· < radix)

/-- The digit loop of `from_str_radix`, for a type with `bound` values. -/
def accumulateDigits (radix bound : ℕ) : ℕ → List Char → Outcome ℕ
  | value, [] => .ok value
  | value, c :: rest =>
      match toDigit radix c with
      | none => Outcome.fail "invalid digit found in string"
      | some digit =>
          if value * radix + digit < bound then
            accumulateDigits radix bound (value * radix + digit) rest
          else Outcome.fail "number too large to fit in target type"

/-- `from_str_radix` for an unsigned type with `bound` values. -/
def fromStrRadix (radix bound : ℕ) : List Char → Outcome ℕ
  | [] => Outcome.fail "cannot parse integer from empty string"
  | ['+'] => Outcome.fail "invalid digit found in string"
  | '+' :: digits => accumulateDigits radix bound 0 digits
  | digits => accumulateDigits radix bound 0 digits

/-- `u8::from_str_radix`. -/
def u8FromStrRadix (radix : ℕ) (text : List Char) : Outcome UInt8 :=
  UInt8.ofNat <$> fromStrRadix radix 256 text

/-- `u8::from_str`. -/
def u8FromStr (text : List Char) : Outcome UInt8 := u8FromStrRadix 10 text

/-- `u16::from_str`. -/
def u16FromStr (text : List Char) : Outcome UInt16 :=
  UInt16.ofNat <$> fromStrRadix 10 65536 text

/-! ## Splitting -/

/-- **The first occurrence.** The parts of `split_once` put together around the
separator are the text, and no occurrence of the separator is further left. -/
theorem splitOnce_eq_some_iff {separator : List Char} (nonempty : separator ≠ [])
    {text before after : List Char} :
    splitOnce separator text = some (before, after) ↔
      text = before ++ (separator ++ after) ∧
        ∀ earlier later, text = earlier ++ (separator ++ later) →
          before.length ≤ earlier.length := by
  induction text generalizing before with
  | nil =>
      rw [splitOnce]
      constructor
      · intro found
        cases found
      · rintro ⟨whole, -⟩
        exact absurd (List.append_eq_nil_iff.mp (List.append_eq_nil_iff.mp whole.symm).2).1 nonempty
  | cons c rest ih =>
      rw [splitOnce]
      by_cases here : separator.isPrefixOf (c :: rest) = true
      · obtain ⟨later, isLater⟩ := List.isPrefixOf_iff_prefix.mp here
        rw [if_pos here, ← isLater, List.drop_left, Option.some.injEq, Prod.mk.injEq]
        constructor
        · rintro ⟨rfl, rfl⟩
          exact ⟨rfl, fun _ _ _ => Nat.zero_le _⟩
        · rintro ⟨whole, first⟩
          have front : before = [] := List.length_eq_zero_iff.mp
            (Nat.le_zero.mp (first [] later rfl))
          subst front
          exact ⟨rfl, List.append_cancel_left whole⟩
      · have away : ∀ {later : List Char}, c :: rest ≠ separator ++ later := fun isLater =>
          here (List.isPrefixOf_iff_prefix.mpr ⟨_, isLater.symm⟩)
        rw [if_neg here]
        constructor
        · intro found
          obtain ⟨⟨front, back⟩, inRest, parts⟩ := Option.map_eq_some_iff.mp found
          obtain ⟨rfl, rfl⟩ := Prod.mk.inj parts
          obtain ⟨whole, first⟩ := ih.mp inRest
          refine ⟨by rw [whole]; rfl, ?_⟩
          intro earlier later isLater
          cases earlier with
          | nil => exact absurd isLater away
          | cons head earlier =>
              exact Nat.succ_le_succ (first earlier later (List.cons.inj isLater).2)
        · rintro ⟨whole, first⟩
          cases before with
          | nil => exact absurd whole away
          | cons head before =>
              obtain ⟨rfl, isRest⟩ := List.cons.inj whole
              refine Option.map_eq_some_iff.mpr ⟨(before, after), ih.mpr ⟨isRest, ?_⟩, rfl⟩
              intro earlier later isLater
              exact Nat.le_of_succ_le_succ (first (c :: earlier) later (by rw [isLater]; rfl))

/-- `split` takes the text apart at the first occurrence and goes on behind it. -/
theorem splitText_eq {separator : List Char} (nonempty : separator ≠ [])
    (piece text : List Char) :
    splitText separator piece text =
      match splitOnce separator text with
      | none => [piece.reverse ++ text]
      | some (before, after) => (piece.reverse ++ before) :: splitText separator [] after := by
  induction text generalizing piece with
  | nil => rw [splitText, splitOnce, List.append_nil]
  | cons c rest ih =>
      rw [splitText, splitOnce]
      by_cases here : separator.isPrefixOf (c :: rest) = true
      · rw [if_pos here, if_pos ⟨here, nonempty⟩]
        simp
      · rw [if_neg here, if_neg fun found => here found.1, ih]
        cases splitOnce separator rest with
        | none => simp
        | some parts => simp

/-- The second piece of `split`: what stands behind the first separator, up to the
next one or to the end. -/
theorem getElem?_one_splitText {separator : List Char} (nonempty : separator ≠ [])
    (text : List Char) :
    (splitText separator [] text)[1]? = (splitOnce separator text).map fun parts =>
      ((splitOnce separator parts.2).map Prod.fst).getD parts.2 := by
  rw [splitText_eq nonempty]
  cases splitOnce separator text with
  | none => rfl
  | some parts =>
      change (splitText separator [] parts.2)[0]? = _
      rw [splitText_eq nonempty]
      cases next : splitOnce separator parts.2 with
      | none => simp [next]
      | some others => simp [next]

/-- A piece ends at a separator or at the end. -/
theorem piece_cases {separator : List Char} (nonempty : separator ≠ []) {text piece : List Char}
    (isPiece : ((splitOnce separator text).map Prod.fst).getD text = piece) :
    text = piece ∨ ∃ later, text = piece ++ (separator ++ later) := by
  cases found : splitOnce separator text with
  | none =>
      rw [found] at isPiece
      exact .inl isPiece
  | some parts =>
      rw [found] at isPiece
      change parts.1 = piece at isPiece
      subst isPiece
      exact .inr ⟨parts.2, ((splitOnce_eq_some_iff nonempty).mp found).1⟩

theorem lengthOf_cons (c : Char) (text : List Char) :
    lengthOf (c :: text) = c.utf8Size + lengthOf text := by
  rw [lengthOf, List.map_cons, List.sum_cons, lengthOf]

theorem lengthOf_eq_zero_iff {text : List Char} : lengthOf text = 0 ↔ text = [] := by
  cases text with
  | nil => exact ⟨fun _ => rfl, fun _ => rfl⟩
  | cons c text =>
      have size := c.utf8Size_pos
      rw [lengthOf_cons]
      constructor
      · intro none
        omega
      · intro empty
        cases empty

/-- `get(..n)` is the part in front that takes exactly `n` bytes, when there is
one. -/
theorem getTo_eq_some_iff {n : ℕ} {text front : List Char} :
    getTo n text = some front ↔ ∃ rest, text = front ++ rest ∧ lengthOf front = n := by
  induction text generalizing n front with
  | nil =>
      cases n with
      | zero =>
          rw [getTo, Option.some.injEq]
          constructor
          · rintro rfl
            exact ⟨[], rfl, rfl⟩
          · rintro ⟨rest, -, none⟩
            exact (lengthOf_eq_zero_iff.mp none).symm
      | succ n =>
          rw [getTo]
          constructor
          · intro found
            cases found
          · rintro ⟨rest, whole, length⟩
            rw [(List.append_eq_nil_iff.mp whole.symm).1] at length
            cases length
  | cons c rest ih =>
      cases n with
      | zero =>
          rw [getTo, Option.some.injEq]
          constructor
          · rintro rfl
            exact ⟨c :: rest, rfl, rfl⟩
          · rintro ⟨_, -, none⟩
            exact (lengthOf_eq_zero_iff.mp none).symm
      | succ n =>
          have size := c.utf8Size_pos
          rw [getTo]
          constructor
          · intro found
            split at found
            · obtain ⟨later, isLater, rfl⟩ := Option.map_eq_some_iff.mp found
              obtain ⟨back, rfl, length⟩ := ih.mp isLater
              refine ⟨back, rfl, ?_⟩
              rw [lengthOf_cons]
              omega
            · cases found
          · rintro ⟨back, whole, length⟩
            cases front with
            | nil => cases length
            | cons head later =>
                obtain ⟨rfl, isRest⟩ := List.cons.inj whole
                rw [lengthOf_cons] at length
                rw [if_pos (by omega), Option.map_eq_some_iff]
                exact ⟨later, ih.mpr ⟨back, isRest, by omega⟩, rfl⟩

/-- One step of the digit loop. -/
theorem accumulateDigits_cons_eq_ok {radix bound value result : ℕ} {c : Char}
    {rest : List Char} :
    accumulateDigits radix bound value (c :: rest) = .ok result ↔
      ∃ digit, toDigit radix c = some digit ∧ value * radix + digit < bound ∧
        accumulateDigits radix bound (value * radix + digit) rest = .ok result := by
  rw [accumulateDigits]
  cases toDigit radix c with
  | none => simp [Outcome.fail]
  | some digit =>
      by_cases small : value * radix + digit < bound
      · simp [small]
      · simp [small, Outcome.fail]

/-- Every character of a number is a digit, but for a sign in front. -/
theorem digits_of_accumulateDigits {radix bound : ℕ} {text : List Char} {start value : ℕ}
    (read : accumulateDigits radix bound start text = .ok value) :
    ∀ c ∈ text, (toDigit radix c).isSome = true := by
  induction text generalizing start with
  | nil => exact fun _ member => absurd member List.not_mem_nil
  | cons c rest ih =>
      obtain ⟨digit, isDigit, -, readRest⟩ := accumulateDigits_cons_eq_ok.mp read
      rw [List.forall_mem_cons, isDigit]
      exact ⟨rfl, ih readRest⟩

/-- A number that is read has digits only, behind a sign it may have. -/
theorem digits_of_fromStrRadix {radix bound : ℕ} {text : List Char} {value : ℕ}
    (read : fromStrRadix radix bound text = .ok value) :
    ∀ c ∈ text, c = '+' ∨ (toDigit radix c).isSome = true := by
  have signed : ∀ digits : List Char, accumulateDigits radix bound 0 digits = .ok value →
      ∀ c ∈ '+' :: digits, c = '+' ∨ (toDigit radix c).isSome = true := by
    intro digits readDigits
    rw [List.forall_mem_cons]
    exact ⟨.inl rfl, fun c member => .inr (digits_of_accumulateDigits readDigits c member)⟩
  rw [fromStrRadix.eq_def] at read
  split at read
  · cases read
  · cases read
  · exact signed _ read
  · exact fun c member => .inr (digits_of_accumulateDigits read c member)

/-! ## Letter case -/

/-- `str::to_ascii_lowercase`. -/
def toAsciiLowercase (text : List Char) : List Char := text.map Char.toLower

theorem toNat_toLower (c : Char) :
    c.toLower.toNat = if 65 ≤ c.toNat ∧ c.toNat ≤ 90 then c.toNat + 32 else c.toNat := by
  by_cases upper : c.val ≥ 'A'.val ∧ c.val ≤ 'Z'.val
  · have bounds : 65 ≤ c.toNat ∧ c.toNat ≤ 90 := upper
    have small : c.val.toNat ≤ 90 := bounds.2
    have moved : c.toLower.val = c.val + 32 := congrArg Char.val (dif_pos upper)
    rw [if_pos bounds]
    change c.toLower.val.toNat = c.val.toNat + 32
    rw [moved, UInt32.toNat_add]
    change (c.val.toNat + 32) % 2 ^ 32 = _
    omega
  · have bounds : ¬ (65 ≤ c.toNat ∧ c.toNat ≤ 90) := upper
    have kept : c.toLower = c := dif_neg upper
    rw [kept, if_neg bounds]

/-- What is no letter is found at the same places in any letter case. -/
theorem toLower_eq_iff {c sign : Char} (noLetter : sign.toNat < 65) :
    c.toLower = sign ↔ c = sign := by
  rw [← Char.toNat_inj, ← Char.toNat_inj, toNat_toLower]
  split
  · omega
  · rfl

theorem mem_toAsciiLowercase {sign : Char} (noLetter : sign.toNat < 65) (text : List Char) :
    sign ∈ toAsciiLowercase text ↔ sign ∈ text := by
  rw [toAsciiLowercase, List.mem_map]
  constructor
  · rintro ⟨c, member, lower⟩
    rwa [← (toLower_eq_iff noLetter).mp lower]
  · intro member
    exact ⟨sign, member, (toLower_eq_iff noLetter).mpr rfl⟩

/-- The pieces between a sign that is no letter, in any letter case. -/
theorem splitOn_toAsciiLowercase {sign : Char} (noLetter : sign.toNat < 65) (text : List Char) :
    (toAsciiLowercase text).splitOn sign = (text.splitOn sign).map toAsciiLowercase := by
  induction text with
  | nil => rfl
  | cons c rest ih =>
      rw [toAsciiLowercase, List.map_cons, ← toAsciiLowercase,
        List.splitOn_cons_eq_if_modifyHead, List.splitOn_cons_eq_if_modifyHead, ih]
      by_cases same : c = sign
      · have lower : c.toLower = sign := (toLower_eq_iff noLetter).mpr same
        rw [if_pos (beq_iff_eq.mpr lower), if_pos (beq_iff_eq.mpr same)]
        rfl
      · have lower : c.toLower ≠ sign := fun equal => same ((toLower_eq_iff noLetter).mp equal)
        rw [if_neg (mt beq_iff_eq.mp lower), if_neg (mt beq_iff_eq.mp same)]
        cases rest.splitOn sign with
        | nil => rfl
        | cons piece pieces => rfl

theorem toNat_digitChar {digit : ℕ} (small : digit < 16) :
    digit.digitChar.toNat = if digit < 10 then digit + 48 else digit + 87 := by
  decide +revert

theorem toLower_digitChar {digit : ℕ} (small : digit < 16) :
    digit.digitChar.toLower = digit.digitChar := by
  decide +revert

theorem toDigit_eq (radix : ℕ) (c : Char) :
    toDigit radix c =
      (if 48 ≤ c.toNat ∧ c.toNat ≤ 57 then some (c.toNat - 48)
      else if 97 ≤ c.toNat ∧ c.toNat ≤ 122 then some (c.toNat - 97 + 10)
      else if 65 ≤ c.toNat ∧ c.toNat ≤ 90 then some (c.toNat - 65 + 10)
      else none).filter (· < radix) := rfl

/-- A digit in base sixteen, in any letter case. -/
theorem toDigit_eq_some_iff {c : Char} {digit : ℕ} :
    toDigit 16 c = some digit ↔ digit < 16 ∧ c.toLower = digit.digitChar := by
  rw [toDigit_eq, Option.filter_eq_some_iff, decide_eq_true_eq, and_comm]
  refine and_congr_right fun small => ?_
  rw [← Char.toNat_inj, toNat_toLower, toNat_digitChar small]
  split_ifs <;> simp only [Option.some.injEq, false_iff] <;> omega

/-- A digit is one byte. -/
theorem utf8Size_of_toDigit {c : Char} (isDigit : (toDigit 16 c).isSome = true) :
    c.utf8Size = 1 := by
  obtain ⟨digit, read⟩ := Option.isSome_iff_exists.mp isDigit
  obtain ⟨small, lower⟩ := toDigit_eq_some_iff.mp read
  have value := congrArg Char.toNat lower
  rw [toNat_toLower, toNat_digitChar small] at value
  rw [Char.utf8Size_eq_one_iff, UInt32.le_iff_toNat_le]
  change c.toNat ≤ 127
  split_ifs at value <;> omega

/-! ## UTF-8 -/

theorem fromUtf8_asBytes (text : String) : fromUtf8 (asBytes text) = some text := by
  simp only [fromUtf8, asBytes]
  exact dif_pos text.isValidUTF8

theorem asBytes_of_fromUtf8 {bytes : Bytes} {text : String} (read : fromUtf8 bytes = some text) :
    asBytes text = bytes := by
  rw [fromUtf8, String.fromUTF8?] at read
  split at read
  · obtain rfl := Option.some.inj read
    rfl
  · cases read

theorem byteLength_eq_zero_iff {text : String} : byteLength text = 0 ↔ text = "" := by
  constructor
  · intro empty
    have bytes : asBytes text = [] := List.length_eq_zero_iff.mp empty
    have decoded := fromUtf8_asBytes text
    rw [bytes, show ([] : Bytes) = asBytes "" from rfl, fromUtf8_asBytes] at decoded
    exact (Option.some.inj decoded).symm
  · rintro rfl
    rfl

theorem asBytes_ne_nil {text : String} (nonempty : text ≠ "") : asBytes text ≠ [] := by
  intro empty
  exact nonempty (byteLength_eq_zero_iff.mp (List.length_eq_zero_iff.mpr empty))

/-- The bytes of a text, character by character. -/
theorem asBytes_eq (text : String) : asBytes text = text.toList.flatMap String.utf8EncodeChar := by
  rw [asBytes, ← String.utf8Encode_toList, List.utf8Encode, List.data_toByteArray]

theorem utf8Size_of_ascii {c : Char} (ascii : c.toNat < 128) : c.utf8Size = 1 := by
  rw [Char.utf8Size_eq_one_iff, UInt32.le_iff_toNat_le]
  exact Nat.le_of_lt_succ ascii

/-- A text of ASCII characters has as many bytes. -/
theorem lengthOf_of_ascii {text : List Char} (ascii : ∀ c ∈ text, c.toNat < 128) :
    lengthOf text = text.length := by
  induction text with
  | nil => rfl
  | cons c rest ih =>
      rw [List.forall_mem_cons] at ascii
      rw [lengthOf_cons, utf8Size_of_ascii ascii.1, ih ascii.2, List.length_cons, Nat.add_comm]

/-- The bytes of ASCII characters are their codes. -/
theorem utf8Encode_of_ascii {text : List Char} (ascii : ∀ c ∈ text, c.toNat < 128) :
    text.flatMap String.utf8EncodeChar = text.map Char.toUInt8 := by
  induction text with
  | nil => rfl
  | cons c rest ih =>
      rw [List.forall_mem_cons] at ascii
      rw [List.flatMap_cons, String.utf8EncodeChar_eq_singleton (utf8Size_of_ascii ascii.1),
        ih ascii.2]
      rfl

end Text

end Macdack
