import Mathlib.Data.List.Basic

/-!
# Decimal numerals

A numeral is a non-empty text of decimal digits. Many numerals have one value; exactly one
of them has no needless zero in front, and it is the one that is printed
(`toDigits_value`, `isCanonical_toDigits`).
-/

set_option autoImplicit false

namespace Decimal

/-- Decimal digits, and at least one. -/
structure IsNumeral (text : List Char) : Prop where
  nonempty : text ≠ []
  digits : ∀ c ∈ text, c.isDigit = true

/-- The value of a text of digits. -/
abbrev value (text : List Char) : ℕ := Nat.ofDigitChars 10 text 0

/-- A numeral without a needless zero in front. -/
structure IsCanonical (text : List Char) : Prop extends IsNumeral text where
  front : text.head? = some '0' → text.length = 1

/-- A numeral of the number, behind a plus sign it may have. -/
def Spells (text : List Char) (number : ℕ) : Prop :=
  ∃ digits, (text = digits ∨ text = '+' :: digits) ∧ IsNumeral digits ∧ value digits = number

variable {text : List Char} {c : Char}

/-- A plus sign is no digit. -/
theorem not_isNumeral_plus {digits : List Char} : ¬IsNumeral ('+' :: digits) := by
  intro isNumeral
  have sign := isNumeral.digits '+' (.head _)
  revert sign
  decide

theorem not_spells_nil {number : ℕ} : ¬Spells [] number := by
  rintro ⟨digits, rfl | signed, isNumeral, -⟩
  · exact isNumeral.nonempty rfl
  · cases signed

/-- Behind a plus sign there is a numeral. -/
theorem spells_plus_iff {digits : List Char} {number : ℕ} :
    Spells ('+' :: digits) number ↔ IsNumeral digits ∧ value digits = number := by
  constructor
  · rintro ⟨other, unsigned | signed, isNumeral, same⟩
    · rw [← unsigned] at isNumeral
      exact absurd isNumeral not_isNumeral_plus
    · obtain rfl := (List.cons.inj signed).2
      exact ⟨isNumeral, same⟩
  · rintro ⟨isNumeral, same⟩
    exact ⟨digits, .inr rfl, isNumeral, same⟩

/-- Without a plus sign the text is a numeral. -/
theorem spells_iff_of_unsigned {number : ℕ} (unsigned : ∀ digits, text ≠ '+' :: digits) :
    Spells text number ↔ IsNumeral text ∧ value text = number := by
  constructor
  · rintro ⟨other, rfl | signed, isNumeral, same⟩
    · exact ⟨isNumeral, same⟩
    · exact absurd signed (unsigned other)
  · rintro ⟨isNumeral, same⟩
    exact ⟨text, .inl rfl, isNumeral, same⟩

theorem isDigit_iff : c.isDigit = true ↔ 48 ≤ c.toNat ∧ c.toNat ≤ 57 := Char.isDigit_iff_toNat

/-- A digit is that of its value. -/
theorem digitChar_of_isDigit (digit : c.isDigit = true) :
    c.toNat - 48 < 10 ∧ (c.toNat - 48).digitChar = c := by
  obtain ⟨low, high⟩ := isDigit_iff.mp digit
  have small : c.toNat - 48 < 10 := by omega
  refine ⟨small, Char.toNat_inj.mp ?_⟩
  rw [Nat.toNat_digitChar_of_lt_ten small]
  omega

/-! ## The printed numeral -/

/-- More digits behind a printed number that is not zero print the number they make. -/
theorem toDigits_append {start : ℕ} (positive : 0 < start) {text : List Char}
    (digits : ∀ c ∈ text, c.isDigit = true) :
    Nat.toDigits 10 (Nat.ofDigitChars 10 text start) = Nat.toDigits 10 start ++ text := by
  induction text generalizing start with
  | nil => rw [Nat.ofDigitChars_nil, List.append_nil]
  | cons c rest ih =>
      rw [List.forall_mem_cons] at digits
      obtain ⟨small, same⟩ := digitChar_of_isDigit digits.1
      have next : 0 < 10 * start + (c.toNat - '0'.toNat) := by omega
      rw [Nat.ofDigitChars_cons, ih next digits.2]
      have printed := Nat.toDigits_append_toDigits (by decide : 1 < 10) positive small
      rw [Nat.toDigits_of_lt_base small, same] at printed
      rw [show c.toNat - '0'.toNat = c.toNat - 48 from rfl, ← printed, List.append_assoc]
      rfl

/-- **A numeral without a needless zero is printed** from its value. -/
theorem toDigits_value (canonical : IsCanonical text) : Nat.toDigits 10 (value text) = text := by
  cases text with
  | nil => exact absurd rfl canonical.nonempty
  | cons c rest =>
      have digits := List.forall_mem_cons.mp canonical.digits
      obtain ⟨small, same⟩ := digitChar_of_isDigit digits.1
      have first : value (c :: rest) = Nat.ofDigitChars 10 rest (c.toNat - 48) := by
        rw [value, Nat.ofDigitChars_cons, Nat.mul_zero, Nat.zero_add]
        rfl
      rw [first]
      by_cases zero : c = '0'
      · subst zero
        obtain rfl : rest = [] := List.length_eq_zero_iff.mp
          (Nat.succ.inj (canonical.front rfl))
        rfl
      · have positive : 0 < c.toNat - 48 := by
          have low := (isDigit_iff.mp digits.1).1
          have different : c.toNat ≠ 48 := fun equal => zero (Char.toNat_inj.mp equal)
          omega
        rw [toDigits_append positive digits.2, Nat.toDigits_of_lt_base small, same]
        rfl

/-- What is printed has no needless zero. -/
theorem isCanonical_toDigits (number : ℕ) : IsCanonical (Nat.toDigits 10 number) := by
  refine ⟨⟨Nat.toDigits_ne_nil, fun c member =>
    Nat.isDigit_of_mem_toDigits (by decide) (by decide) member⟩, ?_⟩
  induction number using Nat.strongRecOn with
  | ind number ih =>
      by_cases small : number < 10
      · rw [Nat.toDigits_of_lt_base small]
        exact fun _ => rfl
      · rw [Nat.toDigits_of_base_le (by decide) (by omega)]
        intro zero
        have front : (Nat.toDigits 10 (number / 10)).head? = some '0' := by
          rw [List.head?_append_of_ne_nil _ Nat.toDigits_ne_nil] at zero
          exact zero
        have one := ih (number / 10) (by omega) front
        obtain ⟨digit, isDigit⟩ := List.length_eq_one_iff.mp one
        rw [isDigit] at front
        obtain rfl : digit = '0' := Option.some.inj front
        have printed := congrArg value isDigit
        rw [value, Nat.ofDigitChars_ten_toDigits] at printed
        have nothing : value ['0'] = 0 := by decide
        omega

/-- A printed number spells itself. -/
theorem spells_toDigits (number : ℕ) : Spells (Nat.toDigits 10 number) number :=
  ⟨_, .inl rfl, (isCanonical_toDigits number).toIsNumeral, Nat.ofDigitChars_ten_toDigits⟩

end Decimal
