import TenantFleet.Json.Printer
import TenantFleet.Json.Reader

/-!
# Numbers and texts are read back from what is written

The digits of a number and the escaped characters of a text are read as the
number and the text again, whatever follows them.  A number has to fit into 64
bits, because only its value as a double tells whether it is in range, and it
must not be followed by a character that could belong to it.
-/

namespace TenantFleet.Json

/-! ### Numbers -/

/-- What follows a number is no part of it. -/
def EndsNumber (rest : List Char) : Prop :=
  ∀ character ∈ rest.head?, character.isDigit = false ∧ character ∉ ['.', 'e', 'E']

/-- Whether 64 bits hold the size of the number. -/
def IsShort (value : Int) : Prop :=
  value.natAbs < Nat.pow 2 64

section Digits

variable {digits rest : List Char} {number : Nat}

theorem readDigits_append (areDigits : ∀ digit ∈ digits, digit.isDigit = true)
    (ends : EndsNumber rest) : readDigits (digits ++ rest) = (digits, rest) := by
  have noDigit : rest.takeWhile Char.isDigit = [] ∧ rest.dropWhile Char.isDigit = rest := by
    cases rest with
    | nil => exact ⟨rfl, rfl⟩
    | cons character rest => simp [(ends character rfl).1]
  rw [readDigits, List.takeWhile_append_of_pos areDigits, List.dropWhile_append_of_pos areDigits,
    noDigit.1, noDigit.2, List.append_nil]

theorem readFraction_of_endsNumber (ends : EndsNumber rest) :
    readFraction rest = some ([], rest) := by
  cases rest with
  | nil => rfl
  | cons character rest =>
      have notPoint : character ≠ '.' := fun same => (ends character rfl).2 (by simp [same])
      simp [readFraction, notPoint]

theorem readExponent_of_endsNumber (ends : EndsNumber rest) :
    readExponent rest = some (none, rest) := by
  cases rest with
  | nil => rfl
  | cons character rest =>
      have notLetter : character ≠ 'e' ∧ character ≠ 'E' := by
        have apart := (ends character rfl).2
        simp only [List.mem_cons, not_or] at apart
        exact ⟨apart.2.1, apart.2.2.1⟩
      simp [readExponent, notLetter]

theorem decimalNumber_toDigits (number : Nat) :
    decimalNumber (Nat.toDigits 10 number) = number := by
  have sameStep : withDigit = fun sofar digit => 10 * sofar + (digit.toNat - '0'.toNat) := by
    funext sofar digit
    rw [withDigit, Nat.mul_comm]
  rw [decimalNumber, sameStep]
  exact Nat.ofDigitChars_ten_toDigits

/-- No number but zero is written with a zero in front. -/
theorem head?_toDigits_ne_zero (positive : 0 < number) :
    (Nat.toDigits 10 number).head? ≠ some '0' := by
  induction number using Nat.strongRecOn with
  | ind number ih =>
      by_cases small : number < 10
      · have single : ∀ digit < 10, 0 < digit → [digit.digitChar].head? ≠ some '0' := by decide
        rw [Nat.toDigits_of_lt_base small]
        exact single number small positive
      · have shorter := ih (number / 10) (by omega) (by omega)
        rw [Nat.toDigits_of_base_le (by decide) (by omega), List.head?_append]
        cases front : (Nat.toDigits 10 (number / 10)).head? with
        | none => exact absurd (List.head?_eq_none_iff.1 front) Nat.toDigits_ne_nil
        | some digit => simpa [front] using shorter

theorem le_foldl_withDigit (start : Nat) (digits : List Char) :
    start ≤ digits.foldl withDigit start := by
  induction digits generalizing start with
  | nil => exact Nat.le_refl start
  | cons digit rest ih =>
      calc start ≤ withDigit start digit := by rw [withDigit]; omega
        _ ≤ rest.foldl withDigit (withDigit start digit) := ih _

/-- No digit of a number that fits into 64 bits is left out. -/
theorem gatherDigits_of_short {start : Nat}
    (short : digits.foldl withDigit start < Nat.pow 2 64) :
    gatherDigits start digits = (digits.foldl withDigit start, []) := by
  induction digits generalizing start with
  | nil => rfl
  | cons digit rest ih =>
      have further : withDigit start digit < Nat.pow 2 64 :=
        Nat.lt_of_le_of_lt (le_foldl_withDigit _ rest) short
      rw [gatherDigits, if_pos further]
      exact ih short

theorem nearestDouble_le (number : Nat) :
    nearestDouble number ≤ number + Nat.pow 2 (number.log2 - 52) := by
  have whole := Nat.div_mul_le_self number (Nat.pow 2 (number.log2 - 52))
  simp only [nearestDouble]
  split
  · exact Nat.le_trans whole (Nat.le_add_right _ _)
  · rw [Nat.succ_mul]
    exact Nat.add_le_add_right whole _

theorem isPastDoubles_of_short (short : number < Nat.pow 2 64) :
    isPastDoubles number 0 = false := by
  have unit : Nat.pow 2 (number.log2 - 52) ≤ Nat.pow 2 64 := by
    refine Nat.pow_le_pow_right (by decide) ?_
    by_cases zero : number = 0
    · simp [zero]
    · have := (Nat.log2_lt zero).2 short
      omega
  have bounded : nearestDouble number < doubleBound :=
    calc nearestDouble number ≤ number + Nat.pow 2 (number.log2 - 52) := nearestDouble_le number
      _ < Nat.pow 2 64 + Nat.pow 2 64 := Nat.add_lt_add_of_lt_of_le short unit
      _ ≤ doubleBound := by decide +kernel
  have one : nearestDouble 1 = 1 := by decide +kernel
  simp [isPastDoubles, one, bounded]

theorem isOutOfRange_of_short (short : decimalNumber digits < Nat.pow 2 64) :
    isOutOfRange digits [] 0 = false := by
  have gathered : gatherDigits 0 digits = (decimalNumber digits, []) := gatherDigits_of_short short
  simp [isOutOfRange, gathered, gatherDigits, isPastDoubles_of_short short]

theorem not_isPadded_toDigits (number : Nat) :
    ((Nat.toDigits 10 number).head? = some '0' && (Nat.toDigits 10 number).length > 1) = false := by
  by_cases zero : number = 0
  · subst zero
    rfl
  · simp [head?_toDigits_ne_zero (Nat.pos_of_ne_zero zero)]

/-- The digits of a number, with or without a sign before them, are read as the number. -/
theorem readNumber_toDigits (negative : Bool) (short : number < Nat.pow 2 64)
    (signed : negative = true → 0 < number) (ends : EndsNumber rest) :
    readNumber ((if negative then ['-'] else []) ++ (Nat.toDigits 10 number ++ rest)) =
      some (.integer (if negative then -(number : Int) else number), rest) := by
  have areDigits : ∀ digit ∈ Nat.toDigits 10 number, digit.isDigit = true :=
    fun digit digitMem => Nat.isDigit_of_mem_toDigits (by decide) (by decide) digitMem
  have read := readDigits_append areDigits ends
  have inRange : isOutOfRange (Nat.toDigits 10 number) [] 0 = false :=
    isOutOfRange_of_short (by rwa [decimalNumber_toDigits])
  have spells := decimalNumber_toDigits number
  have fraction := readFraction_of_endsNumber ends
  have exponent := readExponent_of_endsNumber ends
  have noPadding := not_isPadded_toDigits number
  cases negative with
  | true =>
      have notZero : number ≠ 0 := Nat.pos_iff_ne_zero.1 (signed rfl)
      simp [readNumber, read, inRange, spells, fraction, exponent, noPadding, notZero]
  | false =>
      obtain ⟨digit, digits, front⟩ := List.exists_cons_of_ne_nil (@Nat.toDigits_ne_nil number 10)
      have noSign : digit ≠ '-' := by
        rintro rfl
        exact absurd (areDigits '-' (by simp [front])) (by decide)
      rw [front] at inRange spells noPadding ⊢
      rw [front, List.cons_append] at read
      have onlyZero : digit = '0' → digits = [] := by simpa using noPadding
      simpa [readNumber, read, inRange, spells, fraction, exponent, noSign] using onlyZero

theorem readNumber_toString {value : Int} (short : IsShort value) (ends : EndsNumber rest) :
    readNumber ((toString value).toList ++ rest) = some (.integer value, rest) := by
  cases value with
  | ofNat size =>
      have spelled : (toString (Int.ofNat size)).toList = Nat.toDigits 10 size := Nat.toList_repr
      rw [spelled]
      exact readNumber_toDigits false short (by simp) ends
  | negSucc size =>
      have spelled : (toString (Int.negSucc size)).toList = '-' :: Nat.toDigits 10 (size + 1) := by
        change ("-" ++ (size + 1).repr).toList = _
        simp
      rw [spelled]
      exact readNumber_toDigits true short (fun _ => Nat.succ_pos size) ends

end Digits

/-! ### Texts -/

section Characters

variable {rest read : List Char}

/-- The two hexadecimal digits of a control character give its number. -/
theorem hexNumber?_of_control {number : Nat} (control : number < 32) :
    hexNumber? ['0', '0', hexDigit (number / 16), hexDigit (number % 16)] = some number := by
  have every : ∀ number < 32,
      hexNumber? ['0', '0', hexDigit (number / 16), hexDigit (number % 16)] = some number := by
    decide +kernel
  exact every number control

/-- A character is read back from the way in which it stands in a text. -/
theorem readString_escapeCharacter (character : Char) :
    readString (escapeCharacter character ++ rest) read none true =
      readString rest (character :: read) none true := by
  unfold escapeCharacter
  split
  case h_6 notQuote notBackslash _ _ _ =>
    split
    next control =>
      have small : character.toNat < 32 := control
      have low : isLowSurrogate character.toNat = false := by simp [isLowSurrogate]; omega
      have high : isHighSurrogate character.toNat = false := by simp [isHighSurrogate]; omega
      simp [readString, hexNumber?_of_control small, low, high]
    next notControl =>
      have stands : ¬ (character < ' ' || character = '\\') = true := by
        simpa using ⟨Char.not_lt.1 notControl, notBackslash⟩
      rw [List.singleton_append, readString, if_neg stands]
      all_goals simp_all
  all_goals simp [readString, escaped?]

theorem readString_renderText (text : String) :
    readString (text.toList.flatMap escapeCharacter ++ '"' :: rest) [] none true =
      some (some text, rest) := by
  have further (characters : List Char) (read : List Char) :
      readString (characters.flatMap escapeCharacter ++ '"' :: rest) read none true =
        some (some (String.ofList (read.reverse ++ characters)), rest) := by
    induction characters generalizing read with
    | nil => simp [readString]
    | cons character characters ih =>
        rw [List.flatMap_cons, List.append_assoc, readString_escapeCharacter, ih]
        simp
  simpa using further text.toList []

end Characters

end TenantFleet.Json
