import PropertyGraph.Convert.Coercion
import PropertyGraph.Proofs.Convert.Optional
import PropertyGraph.Proofs.Number.Numeral
import PropertyGraph.Proofs.Result

/-!
# What texts denote

The texts that the standard converter turns into integers and characters, by the grammar that they
are written in. An integer is an optional sign, an optional mark of hexadecimal digits and digits,
with blanks around it; it has to be in the range of the width. A character is written as itself, or
as a backslash, the letter u and four hexadecimal digits. Reading the digits of an escape allows a
plus sign in front of three of them, which is the one way in which more texts become characters than
the grammar has.
-/
namespace PropertyGraph

namespace Coercion

/-! ## The grammar of integers -/

/-- A sign, and the factor that it stands for. -/
inductive Sign : List Char → Int → Prop where
  /-- A number without a sign is not negative. -/
  | bare : Sign [] 1
  /-- A plus sign changes nothing. -/
  | plus : Sign ['+'] 1
  /-- A minus sign stands for the opposite. -/
  | minus : Sign ['-'] (-1)

/-- A mark in front of digits, and their radix. -/
inductive RadixMark : List Char → Nat → Prop where
  /-- Digits without a mark are decimal. -/
  | bare : RadixMark [] 10
  /-- A zero and a small letter mark hexadecimal digits. -/
  | small : RadixMark ['0', 'x'] 16
  /-- A zero and a capital letter mark hexadecimal digits. -/
  | capital : RadixMark ['0', 'X'] 16
  /-- A number sign marks hexadecimal digits. -/
  | hash : RadixMark ['#'] 16

/-- The characters are a sign, a mark and digits of its radix, and denote the integer. -/
inductive DenotesInt : List Char → Int → Prop where
  /-- The digits denote the magnitude. -/
  | written {sign mark digits : List Char} {factor : Int} {radix magnitude : Nat}
      (signed : Sign sign factor) (marked : RadixMark mark radix)
      (denotes : Numeral.Denotes radix digits magnitude) :
      DenotesInt (sign ++ mark ++ digits) (factor * magnitude)

section

variable {chars digits sign mark rest : List Char} {factor number : Int} {radix magnitude : Nat}

/-! ## Reading integers -/

/-- Digits are marked as the reader takes them to be. -/
theorem radixMark_takeRadix (chars : List Char) :
    ∃ mark, RadixMark mark (takeRadix chars).1 ∧ chars = mark ++ (takeRadix chars).2 := by
  unfold takeRadix
  split
  · exact ⟨_, .small, rfl⟩
  · exact ⟨_, .capital, rfl⟩
  · exact ⟨_, .hash, rfl⟩
  · exact ⟨_, .bare, rfl⟩

/-- The reader finds the mark in front of digits of its radix. Without a mark the digits are
decimal, so they do not begin as one. -/
theorem takeRadix_of_radixMark (marked : RadixMark mark radix)
    (denotes : Numeral.Denotes radix digits magnitude) :
    takeRadix (mark ++ digits) = (radix, digits) := by
  cases marked with
  | small | capital | hash => rfl
  | bare =>
    have small : 'x' ∉ digits := Numeral.not_mem_of_digit? denotes (by decide)
    have capital : 'X' ∉ digits := Numeral.not_mem_of_digit? denotes (by decide)
    have hash : '#' ∉ digits := Numeral.not_mem_of_digit? denotes (by decide)
    rw [List.nil_append, takeRadix.eq_def]
    split <;> simp_all

/-- The factor of a number that is negative, or not. -/
def factorOf (negative : Bool) : Int :=
  if negative then -1 else 1

/-- A number is signed as the reader takes it to be. -/
theorem sign_takeSign (chars : List Char) :
    ∃ sign, Sign sign (factorOf (Decimal.takeSign chars).1) ∧
      chars = sign ++ (Decimal.takeSign chars).2 := by
  unfold Decimal.takeSign
  split
  · exact ⟨_, .minus, rfl⟩
  · exact ⟨_, .plus, rfl⟩
  · exact ⟨_, .bare, rfl⟩

/-- The reader finds the sign in front of what has no sign in it. -/
theorem takeSign_of_sign (signed : Sign sign factor) (noPlus : '+' ∉ rest) (noMinus : '-' ∉ rest) :
    ∃ negative, Decimal.takeSign (sign ++ rest) = (negative, rest) ∧
      factorOf negative = factor := by
  cases signed with
  | plus => exact ⟨false, rfl, rfl⟩
  | minus => exact ⟨true, rfl, rfl⟩
  | bare =>
    refine ⟨false, ?_, rfl⟩
    rw [List.nil_append, Decimal.takeSign.eq_def]
    split <;> simp_all

/-- A second sign stands neither in the mark nor among the digits. -/
theorem not_mem_of_radixMark (marked : RadixMark mark radix)
    (denotes : Numeral.Denotes radix digits magnitude) :
    '+' ∉ mark ++ digits ∧ '-' ∉ mark ++ digits := by
  have plus : Numeral.digit? radix '+' = none := by simp [Numeral.digit?, Numeral.digitValue?]
  have minus : Numeral.digit? radix '-' = none := by simp [Numeral.digit?, Numeral.digitValue?]
  have noPlus : '+' ∉ digits := Numeral.not_mem_of_digit? denotes plus
  have noMinus : '-' ∉ digits := Numeral.not_mem_of_digit? denotes minus
  cases marked <;> simp [noPlus, noMinus]

/-- An integer is read in three steps: the sign, the mark and the digits. -/
theorem readInt_eq_ok_iff_readDigits :
    readInt chars = .ok number ↔
      ∃ magnitude : Nat, Numeral.readDigits (takeRadix (Decimal.takeSign chars).2).1 (Nat.pow 2 64)
        (takeRadix (Decimal.takeSign chars).2).2 = .ok magnitude ∧
          factorOf (Decimal.takeSign chars).1 * magnitude = number := by
  simp only [readInt, factorOf, ite_mul, neg_mul, one_mul]
  cases Numeral.readDigits (takeRadix (Decimal.takeSign chars).2).1 (Nat.pow 2 64)
    (takeRadix (Decimal.takeSign chars).2).2 with
  | error fault => simp [Except.map, bind, Except.bind]
  | ok magnitude => simp [Except.map, bind, Except.bind, pure, Except.pure]

/-- A sign leaves the magnitude of a number. -/
theorem natAbs_factor_mul (signed : Sign sign factor) (magnitude : Nat) :
    (factor * magnitude).natAbs = magnitude := by
  cases signed <;> simp

/-- The reader reads what denotes an integer whose magnitude is below 2⁶⁴, as that integer. -/
theorem readInt_eq_ok_iff :
    readInt chars = .ok number ↔ DenotesInt chars number ∧ number.natAbs < 2 ^ 64 := by
  have limit : (0 : Nat) < Nat.pow 2 64 := by decide
  rw [readInt_eq_ok_iff_readDigits]
  constructor
  · rintro ⟨magnitude, digits, rfl⟩
    obtain ⟨denotes, small⟩ := (Numeral.readDigits_eq_ok_iff limit).1 digits
    obtain ⟨sign, signed, front⟩ := sign_takeSign chars
    obtain ⟨mark, marked, back⟩ := radixMark_takeRadix (Decimal.takeSign chars).2
    constructor
    · have written := DenotesInt.written signed marked denotes
      rwa [List.append_assoc, ← back, ← front] at written
    · rwa [natAbs_factor_mul signed]
  · rintro ⟨denotes, small⟩
    cases denotes with
    | written signed marked denotes =>
      obtain ⟨noPlus, noMinus⟩ := not_mem_of_radixMark marked denotes
      obtain ⟨negative, split, rfl⟩ := takeSign_of_sign signed noPlus noMinus
      rw [natAbs_factor_mul signed] at small
      have digits := (Numeral.readDigits_eq_ok_iff limit).2 ⟨denotes, small⟩
      rw [List.append_assoc, split, takeRadix_of_radixMark marked denotes]
      exact ⟨_, digits, rfl⟩

/-- The reader of a text for a width takes the integers that it can read and that fit. -/
theorem textToInt_eq_ok_iff {text : String} {width : IntWidth} :
    textToInt text (.int width) = .ok (.int number) ↔
      readInt (Text.trim text).toList = .ok number ∧ width.contains number = true := by
  simp only [textToInt]
  split
  case h_1 unread => simp [unread]
  case h_2 unread => simp [unread]
  case h_3 read known =>
    by_cases inside : width.contains read
    · simp only [fitInt, inside, if_true, known, Except.ok.injEq, Value.int.injEq]
      constructor
      · rintro rfl
        exact ⟨rfl, inside⟩
      · exact fun same => same.1
    · simp only [fitInt, inside, known, Except.ok.injEq]
      constructor
      · exact nofun
      · rintro ⟨rfl, within⟩
        exact absurd within inside

end

/-! ## The grammar of characters -/

/-- The characters stand for a character: as itself, or as an escape. -/
inductive DenotesChar : List Char → Char → Prop where
  /-- A single character is itself. -/
  | itself (char : Char) : DenotesChar [char] char
  /-- An escape has the code point in four hexadecimal digits. -/
  | escape {digits : List Char} {char : Char} (four : digits.length = 4)
      (denotes : Numeral.Denotes 16 digits char.toNat) : DenotesChar ('\\' :: 'u' :: digits) char

/-- The characters are an escape in which a plus sign stands in the place of the first digit. -/
def IsSignedEscape (chars : List Char) : Prop :=
  ∃ digits point, chars = '\\' :: 'u' :: '+' :: digits ∧ digits.length = 3 ∧
    Numeral.Denotes 16 digits point

section

variable {chars digits : List Char} {char : Char} {point : Nat}

/-! ## Reading characters -/

/-- A character is found by its code point. -/
theorem charOfPoint?_eq_some_iff : charOfPoint? point = some char ↔ char.toNat = point := by
  by_cases valid : point.isValidChar
  · have stands : (Char.ofNatAux point valid).toNat = point := rfl
    rw [charOfPoint?, dif_pos valid]
    constructor
    · rintro ⟨⟩
      exact stands
    · intro same
      exact congrArg some (Char.toNat_inj.1 (stands.trans same.symm))
  · rw [charOfPoint?, dif_neg valid]
    refine iff_of_false (by simp) ?_
    rintro rfl
    exact valid char.valid

/-- The four bytes of a code point that the reader takes: four digits, or a plus sign and three. -/
theorem readPoint_iff :
    (digits.foldr (fun char size => char.utf8Size + size) 0 = 4 ∧
        Numeral.read 16 (Nat.pow 2 32) digits = .ok point) ↔
      (digits.length = 4 ∧ Numeral.Denotes 16 digits point) ∨
        ∃ unsigned, digits = '+' :: unsigned ∧ unsigned.length = 3 ∧
          Numeral.Denotes 16 unsigned point := by
  have limit : (0 : Nat) < Nat.pow 2 32 := by decide
  -- No numeral of four digits or fewer reaches the limit of the reader.
  have small : ∀ {row : List Char}, row.length ≤ 4 → Numeral.Denotes 16 row point →
      point < Nat.pow 2 32 := by
    intro row short denotes
    calc point < 16 ^ row.length := Numeral.lt_pow_of_denotes (by decide) denotes
      _ ≤ 16 ^ 4 := Nat.pow_le_pow_right (by decide) short
      _ ≤ Nat.pow 2 32 := by decide
  rw [Numeral.read_eq_ok_iff limit]
  constructor
  · rintro ⟨size, denotes | ⟨unsigned, rfl, denotes⟩, -⟩
    · rw [Numeral.size_of_denotes denotes] at size
      exact .inl ⟨size, denotes⟩
    · rw [List.foldr_cons, Numeral.size_of_denotes denotes, show '+'.utf8Size = 1 from rfl] at size
      exact .inr ⟨unsigned, rfl, by omega, denotes⟩
  · rintro (⟨four, denotes⟩ | ⟨unsigned, rfl, three, denotes⟩)
    · refine ⟨?_, .inl denotes, small four.le denotes⟩
      rw [Numeral.size_of_denotes denotes, four]
    · refine ⟨?_, .inr ⟨unsigned, rfl, denotes⟩, small (by omega) denotes⟩
      rw [List.foldr_cons, Numeral.size_of_denotes denotes, three]
      rfl

/-- An escape is read by four hexadecimal digits, or by a plus sign and three of them. -/
theorem escapedChar?_eq_some_iff :
    escapedChar? chars = some char ↔ ∃ digits, chars = '\\' :: 'u' :: digits ∧
      ((digits.length = 4 ∧ Numeral.Denotes 16 digits char.toNat) ∨
        ∃ unsigned, digits = '+' :: unsigned ∧ unsigned.length = 3 ∧
          Numeral.Denotes 16 unsigned char.toNat) := by
  unfold escapedChar?
  split
  case h_1 digits =>
    have read : (Numeral.read 16 (Nat.pow 2 32) digits).toOption.bind charOfPoint? = some char ↔
        Numeral.read 16 (Nat.pow 2 32) digits = .ok char.toNat := by
      cases Numeral.read 16 (Nat.pow 2 32) digits with
      | error fault => simp [Except.toOption]
      | ok point =>
        simp only [Except.toOption, Option.bind_some, charOfPoint?_eq_some_iff, Except.ok.injEq]
        exact eq_comm
    rw [Option.ite_none_right_eq_some, read, readPoint_iff]
    simp
  case h_2 other =>
    refine iff_of_false (by simp) ?_
    rintro ⟨digits, rfl, -⟩
    exact other digits rfl

/-- A text is read as a character if it is that character or an escape of it. -/
theorem textToChar_eq_ok_iff_escapedChar? {text : String} :
    textToChar text = .ok (.char char) ↔
      text.toList = [char] ∨ escapedChar? text.toList = some char := by
  unfold textToChar
  generalize text.toList = chars
  split
  case h_1 single =>
    have plain : escapedChar? [single] ≠ some char := fun escaped => by
      obtain ⟨digits, written, -⟩ := escapedChar?_eq_some_iff.1 escaped
      simp at written
    simp [plain]
  case h_2 several =>
    have many : chars ≠ [char] := several char
    cases escapedChar? chars <;> simp [many]

/-- What the reader takes for a character: what stands for it, and an escape with a plus sign. -/
theorem textToChar_eq_ok_iff {text : String} :
    textToChar text = .ok (.char char) ↔ DenotesChar text.toList char ∨
      ∃ digits, text.toList = '\\' :: 'u' :: '+' :: digits ∧ digits.length = 3 ∧
        Numeral.Denotes 16 digits char.toNat := by
  rw [textToChar_eq_ok_iff_escapedChar?, escapedChar?_eq_some_iff]
  generalize text.toList = chars
  constructor
  · rintro (rfl | ⟨digits, rfl, ⟨four, denotes⟩ | ⟨unsigned, rfl, three, denotes⟩⟩)
    · exact .inl (.itself char)
    · exact .inl (.escape four denotes)
    · exact .inr ⟨unsigned, rfl, three, denotes⟩
  · rintro (stands | ⟨unsigned, rfl, three, denotes⟩)
    · cases stands with
      | itself => exact .inl rfl
      | escape four denotes => exact .inr ⟨_, rfl, .inl ⟨four, denotes⟩⟩
    · exact .inr ⟨_, rfl, .inr ⟨unsigned, rfl, three, denotes⟩⟩

/-- Three hexadecimal digits denote the code point of a character. -/
theorem exists_char_of_denotes (three : digits.length = 3)
    (denotes : Numeral.Denotes 16 digits point) : ∃ char : Char, char.toNat = point := by
  have below : point < 16 ^ digits.length := Numeral.lt_pow_of_denotes (by decide) denotes
  have valid : point.isValidChar := .inl (by rw [three] at below; omega)
  exact ⟨Char.ofNatAux point valid, rfl⟩

/-- A plus sign is no hexadecimal digit. -/
theorem not_denotesChar_of_signed : ¬ DenotesChar ('\\' :: 'u' :: '+' :: digits) char := by
  intro stands
  cases stands with
  | escape four denotes =>
    exact Numeral.not_mem_of_digit? denotes (by decide) List.mem_cons_self

end

end Coercion

namespace IntWidth

section

variable {width : IntWidth} {number : Int}

/-- A width contains the numbers between its least and its greatest one. -/
theorem contains_iff :
    width.contains number = true ↔ width.least ≤ number ∧ number ≤ width.greatest := by
  simp [contains]

/-- A number in the range of a width has a magnitude below 2⁶⁴. -/
theorem natAbs_lt_of_mem (low : width.least ≤ number) (high : number ≤ width.greatest) :
    number.natAbs < 2 ^ 64 := by
  have lowest : -2 ^ 63 ≤ width.least := by cases width <;> decide
  have highest : width.greatest < 2 ^ 64 := by cases width <;> decide
  omega

end

end IntWidth

namespace Converter

open Coercion

/-! ## Converting texts to scalars -/

section

variable {text : String} {value : Value}

/-- Where no value passes as it is, a raw value is converted to what its coercion makes of it. -/
theorem convert_eq_ok_iff_of_applicable? {converter : Converter} {raw : Value}
    {target : DeclaredType} {coercion : Coercion}
    (coerced : ∀ ask, converter.attempt ask target raw = (converter.coerce raw target ask).map some)
    (found : converter.applicable? raw.kind target = some coercion) :
    converter.convert raw target = .ok value ↔
      coercion raw target (converter.attemptWithin 999) = .ok value := by
  rw [convert, tryConvert_eq, coerced, coerce_eq found]
  cases coercion raw target (converter.attemptWithin 999) <;> simp [Except.map]

/-- Where no text passes as it is, a text is converted to what its reader makes of it. -/
theorem convert_text_eq_ok_iff {target : DeclaredType}
    (read : String → DeclaredType → Ask → Except CoercionError Value)
    (coerced : ∀ ask, standard.attempt ask target (.text text) =
      (standard.coerce (.text text) target ask).map some)
    (found : standard.applicable? .text target = some (.ofText read)) :
    standard.convert (.text text) target = .ok value ↔
      read text target (standard.attemptWithin 999) = .ok value := by
  rw [convert_eq_ok_iff_of_applicable? coerced found]
  simp only [ofText, Value.text?, Option.getD_some]

/-- A text is converted to an integer as it is read as one. -/
theorem convert_text_int_eq_ok_iff {width : IntWidth} :
    standard.convert (.text text) (.int width) = .ok value ↔
      textToInt text (.int width) = .ok value := by
  refine convert_text_eq_ok_iff (fun text target _ => textToInt text target) (fun _ => rfl) ?_
  simp [applicable?, DeclaredType.named?, DeclaredType.kind?, lookup?, standard, textCoercions]

/-- A text is converted to a character as it is read as one. -/
theorem convert_text_char_eq_ok_iff :
    standard.convert (.text text) .char = .ok value ↔ textToChar text = .ok value := by
  refine convert_text_eq_ok_iff (fun text _ _ => textToChar text) (fun _ => rfl) ?_
  simp [applicable?, DeclaredType.named?, DeclaredType.kind?, lookup?, standard, textCoercions]

end

/-- A text is converted to an integer exactly if it denotes, between blanks, an integer in the range
of the width. -/
theorem convert_text_int_iff (text : String) (width : IntWidth) (number : Int) :
    standard.convert (.text text) (.int width) = .ok (.int number) ↔
      DenotesInt (Text.trim text).toList number ∧
        width.least ≤ number ∧ number ≤ width.greatest := by
  rw [convert_text_int_eq_ok_iff, textToInt_eq_ok_iff, readInt_eq_ok_iff]
  constructor
  · rintro ⟨⟨denotes, -⟩, inside⟩
    exact ⟨denotes, IntWidth.contains_iff.1 inside⟩
  · rintro ⟨denotes, inside⟩
    exact ⟨⟨denotes, IntWidth.natAbs_lt_of_mem inside.1 inside.2⟩, IntWidth.contains_iff.2 inside⟩

/-- The texts that become a character are those that stand for it, except for the escapes with a
plus sign: each of these becomes a character, although it stands for none. -/
theorem convert_text_char_iff (text : String) :
    (∀ char, standard.convert (.text text) .char = .ok (.char char) ↔
      DenotesChar text.toList char) ↔ ¬ IsSignedEscape text.toList := by
  simp only [convert_text_char_eq_ok_iff, textToChar_eq_ok_iff]
  constructor
  · rintro grammatical ⟨digits, point, written, three, denotes⟩
    obtain ⟨char, rfl⟩ := exists_char_of_denotes three denotes
    have stands := (grammatical char).1 (.inr ⟨digits, written, three, denotes⟩)
    exact not_denotesChar_of_signed (written ▸ stands)
  · intro unsigned char
    constructor
    · rintro (stands | ⟨digits, written, three, denotes⟩)
      · exact stands
      · exact absurd ⟨digits, _, written, three, denotes⟩ unsigned
    · exact .inl

/-- An escape with a plus sign becomes a letter. -/
theorem convert_signed_escape :
    standard.convert (.text "\\u+041") .char = .ok (.char 'A') ∧
      ¬ DenotesChar "\\u+041".toList 'A' := by
  refine ⟨?_, not_denotesChar_of_signed⟩
  rw [convert_text_char_eq_ok_iff]
  rfl

end Converter

end PropertyGraph
