import Mathlib.Data.List.Forall2
import Mathlib.Data.Nat.Digits.Lemmas
import PropertyGraph.Number.Numeral

/-!
# What numerals denote

A character is a digit of a radix if it stands at a place below the radix in the row of the ten
decimal digits and the Latin letters, small or capital. A numeral is a row of one or more digits,
and the number that it denotes has them as its digits, the most significant first. The reader, which
goes from the left and stops where a limit is reached, reads exactly the numerals of the numbers
below the limit.
-/
namespace PropertyGraph.Numeral

/-- The digits in order, with small letters. -/
def smallDigits : List Char := "0123456789abcdefghijklmnopqrstuvwxyz".toList

/-- The digits in order, with capital letters. -/
def capitalDigits : List Char := "0123456789ABCDEFGHIJKLMNOPQRSTUVWXYZ".toList

/-- The character is a digit of the radix and has that value. -/
def Digit (radix : Nat) (char : Char) (value : Nat) : Prop :=
  value < radix ∧ (smallDigits[value]? = some char ∨ capitalDigits[value]? = some char)

/-- The characters are digits of the radix, at least one, and denote the number. -/
def Denotes (radix : Nat) (digits : List Char) (number : Nat) : Prop :=
  digits ≠ [] ∧ ∃ values, List.Forall₂ (Digit radix) digits values ∧
    Nat.ofDigits radix values.reverse = number

section

variable {radix limit value number : Nat} {char : Char} {digits : List Char}

/-! ## Single digits -/

/-- A digit is read as its value. -/
theorem digitValue?_eq_of_digit (digit : Digit radix char value) :
    digitValue? char = some value := by
  obtain ⟨-, written⟩ := digit
  have bounded : value < 36 := by
    rcases written with small | capital
    · exact (List.getElem?_eq_some_iff.1 small).1
    · exact (List.getElem?_eq_some_iff.1 capital).1
  have small : ∀ place : Fin 36, digitValue? smallDigits[place] = some place.val := by decide
  have capital : ∀ place : Fin 36, digitValue? capitalDigits[place] = some place.val := by decide
  rcases written with listed | listed
  · obtain ⟨_, rfl⟩ := List.getElem?_eq_some_iff.1 listed
    exact small ⟨value, bounded⟩
  · obtain ⟨_, rfl⟩ := List.getElem?_eq_some_iff.1 listed
    exact capital ⟨value, bounded⟩

/-- Digits are among the first characters of all. -/
theorem toNat_lt_of_digitValue? (denotes : digitValue? char = some value) : char.toNat < 123 := by
  unfold digitValue? at denotes
  split at denotes
  case isTrue decimal =>
    have : char.toNat ≤ 57 := decimal.2
    omega
  case isFalse =>
    split at denotes
    case isTrue small =>
      have : char.toNat ≤ 122 := small.2
      omega
    case isFalse =>
      split at denotes
      case isTrue capital =>
        have : char.toNat ≤ 90 := capital.2
        omega
      case isFalse => simp at denotes

/-- What is read as a digit is one of the small or of the capital digits. -/
theorem listed_of_digitValue? (denotes : digitValue? char = some value) :
    smallDigits[value]? = some char ∨ capitalDigits[value]? = some char := by
  have ascii : char.toNat < 123 := toNat_lt_of_digitValue? denotes
  have listed : ∀ point : Fin 123, ∀ value ∈ digitValue? (Char.ofNat point),
      smallDigits[value]? = some (Char.ofNat point) ∨
        capitalDigits[value]? = some (Char.ofNat point) := by
    decide
  have known := listed ⟨char.toNat, ascii⟩
  simp only [Char.ofNat_toNat] at known
  exact known value denotes

/-- The reader knows the digits of a radix and no other. -/
theorem digit?_eq_some_iff : digit? radix char = some value ↔ Digit radix char value := by
  rw [digit?, Option.filter_eq_some_iff]
  constructor
  · rintro ⟨denotes, small⟩
    exact ⟨by simpa using small, listed_of_digitValue? denotes⟩
  · intro digit
    exact ⟨digitValue?_eq_of_digit digit, by simpa using digit.1⟩

/-- A digit is one byte long. -/
theorem utf8Size_eq_one_of_digit (digit : Digit radix char value) : char.utf8Size = 1 := by
  have ascii : char.toNat < 123 := toNat_lt_of_digitValue? (digitValue?_eq_of_digit digit)
  have small : char.val ≤ 0x7f := by
    change char.toNat ≤ 127
    omega
  simp [Char.utf8Size, small]

/-! ## Rows of digits -/

/-- Digits that are appended to a number denote, with it, a number below the limit exactly if the
reader appends them. -/
theorem extend_eq_ok_iff (bounded : value < limit) :
    extend radix limit value digits = .ok number ↔
      (∃ values, List.Forall₂ (Digit radix) digits values ∧
        value * radix ^ digits.length + Nat.ofDigits radix values.reverse = number) ∧
        number < limit := by
  induction digits generalizing value with
  | nil =>
    simp only [extend, Except.ok.injEq, List.forall₂_nil_left_iff, List.length_nil, pow_zero,
      mul_one, exists_eq_left, List.reverse_nil, Nat.ofDigits_nil, add_zero]
    constructor
    · rintro rfl
      exact ⟨rfl, bounded⟩
    · exact fun same => same.1
  | cons char rest ih =>
    have onward : ∀ digit values, List.Forall₂ (Digit radix) rest values →
        value * radix ^ (char :: rest).length + Nat.ofDigits radix (digit :: values).reverse =
          (value * radix + digit) * radix ^ rest.length + Nat.ofDigits radix values.reverse := by
      intro digit values others
      rw [List.length_cons, List.reverse_cons, Nat.ofDigits_append, Nat.ofDigits_singleton,
        List.length_reverse, ← others.length_eq]
      ring
    constructor
    · intro done
      rw [extend] at done
      split at done
      case h_1 => simp at done
      case h_2 digit known =>
        split at done
        case isTrue below =>
          obtain ⟨⟨values, others, total⟩, small⟩ := (ih below).1 done
          refine ⟨⟨digit :: values, .cons (digit?_eq_some_iff.1 known) others, ?_⟩, small⟩
          rw [onward digit values others, total]
        case isFalse => simp at done
    · rintro ⟨⟨values, each, total⟩, small⟩
      obtain ⟨digit, others, first, later, rfl⟩ := List.forall₂_cons_left_iff.1 each
      rw [onward digit others later] at total
      -- The number read so far is never more than the whole, so the limit is not reached early.
      have positive : 0 < radix := Nat.zero_lt_of_lt first.1
      have below : value * radix + digit < limit := by
        have grows : value * radix + digit ≤ (value * radix + digit) * radix ^ rest.length :=
          Nat.le_mul_of_pos_right _ (Nat.pow_pos positive)
        omega
      rw [extend, digit?_eq_some_iff.2 first]
      simp only [below, if_true]
      exact (ih below).2 ⟨⟨others, later, total⟩, small⟩

/-- The reader reads the numerals of the numbers below the limit, each as its number, and nothing
else. -/
theorem readDigits_eq_ok_iff (positive : 0 < limit) :
    readDigits radix limit digits = .ok number ↔ Denotes radix digits number ∧ number < limit := by
  rw [readDigits]
  cases digits with
  | nil => simp [Denotes]
  | cons char rest =>
    rw [List.isEmpty_cons, if_neg Bool.false_ne_true, extend_eq_ok_iff positive]
    simp [Denotes]

/-! ## The characters of a numeral -/

/-- A character that is no digit of the radix stands in no numeral. -/
theorem not_mem_of_digit? (denotes : Denotes radix digits number)
    (other : digit? radix char = none) : char ∉ digits := by
  intro among
  obtain ⟨-, values, each, -⟩ := denotes
  obtain ⟨place, bounded, rfl⟩ := List.getElem_of_mem among
  have digit : Digit radix digits[place] _ := each.get bounded (each.length_eq ▸ bounded)
  have known : digit? radix digits[place] = some _ := digit?_eq_some_iff.2 digit
  simp [other] at known

/-- A numeral has as many bytes as digits. -/
theorem size_of_denotes (denotes : Denotes radix digits number) :
    digits.foldr (fun char size => char.utf8Size + size) 0 = digits.length := by
  obtain ⟨-, values, each, -⟩ := denotes
  induction each with
  | nil => rfl
  | cons digit _ ih =>
    rw [List.foldr_cons, ih, utf8Size_eq_one_of_digit digit, List.length_cons, Nat.add_comm]

/-- The number that a numeral denotes is less than the power of the radix to its length. -/
theorem lt_pow_of_denotes (proper : 1 < radix) (denotes : Denotes radix digits number) :
    number < radix ^ digits.length := by
  obtain ⟨-, values, each, rfl⟩ := denotes
  have small : ∀ value ∈ values.reverse, value < radix := by
    intro value among
    obtain ⟨place, bounded, rfl⟩ := List.getElem_of_mem (List.mem_reverse.1 among)
    exact (each.get (each.length_eq ▸ bounded) bounded).1
  have bounded := Nat.ofDigits_lt_base_pow_length proper small
  rwa [List.length_reverse, ← each.length_eq] at bounded

/-! ## Decimal numerals -/

/-- One more digit behind a numeral. -/
theorem Denotes.concat (denotes : Denotes radix digits number) (digit : Digit radix char value) :
    Denotes radix (digits ++ [char]) (radix * number + value) := by
  obtain ⟨-, values, each, rfl⟩ := denotes
  refine ⟨by simp, values ++ [value], List.rel_append each (.cons digit .nil), ?_⟩
  rw [List.reverse_append, List.reverse_singleton, List.singleton_append, Nat.ofDigits_cons,
    Nat.add_comm]

/-- The decimal digits that the library writes. -/
theorem digit_digitChar (small : value < 10) : Digit 10 (Nat.digitChar value) value := by
  have listed : ∀ place : Fin 10, smallDigits[place.val]? = some (Nat.digitChar place) := by decide
  exact ⟨small, .inl (listed ⟨value, small⟩)⟩

/-- A number is written as a numeral that denotes it. -/
theorem denotes_toDigits (number : Nat) : Denotes 10 (Nat.toDigits 10 number) number := by
  induction number using Nat.base_induction 10 (by decide) with
  | single digit small =>
    rw [Nat.toDigits_of_lt_base small]
    exact ⟨by simp, [digit], .cons (digit_digitChar small) .nil, by simp⟩
  | digit front last small positive ih =>
    rw [← Nat.toDigits_append_toDigits (by decide) positive small, Nat.toDigits_of_lt_base small]
    exact ih.concat (digit_digitChar small)

/-! ## Numerals with a sign -/

/-- The reader that allows a plus sign reads numerals, with the sign or without it. -/
theorem read_eq_ok_iff (positive : 0 < limit) :
    read radix limit digits = .ok number ↔
      (Denotes radix digits number ∨
        ∃ unsigned, digits = '+' :: unsigned ∧ Denotes radix unsigned number) ∧
        number < limit := by
  have unmarked : digit? radix '+' = none := by simp [digit?, digitValue?]
  unfold read
  split
  case h_1 unsigned =>
    rw [readDigits_eq_ok_iff positive]
    have signed : ¬ Denotes radix ('+' :: unsigned) number := fun denotes =>
      not_mem_of_digit? denotes unmarked List.mem_cons_self
    simp [signed]
  case h_2 other =>
    rw [readDigits_eq_ok_iff positive]
    have unsigned : ¬ ∃ unsigned, digits = '+' :: unsigned ∧ Denotes radix unsigned number :=
      fun ⟨unsigned, same, _⟩ => other unsigned same
    simp [unsigned]

end

end PropertyGraph.Numeral
