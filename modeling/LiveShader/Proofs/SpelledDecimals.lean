import LiveShader.Decimal.Layout
import LiveShader.Decimal.Read
import LiveShader.Proofs.Findings
import LiveShader.Proofs.ShortestDecimals
import Mathlib.Data.List.TakeWhile

/-!
# Decimals that are spelled out

A decimal can be spelled in many ways, with zeros instead of a power of ten or with a point that
stands elsewhere. The reader sees a different decimal then, but one that stands for the same number,
and it reads every decimal for a number in the interval of a value as that value. So it is enough
that what is written stands for the right number.
-/
namespace LiveShader.Decimal

section Read

variable {format : BinaryFormat} {significand : Nat} {exponent : Int}

/-- A decimal in the interval of a value is read as that value, however it is written. -/
theorem of_scientific_of_holds (usual : format.IsUsual)
    (isValue : format.IsValue significand exponent) (filled : 0 < significand)
    {number : Scientific} (holds : (format.interval significand exponent).Holds number.value) :
    format.ofScientific number = format.bitsOf significand exponent := by
  have positive := pos_of_holds isValue filled holds
  obtain ⟨low, high⟩ := magnitude_of_holds isValue filled holds
  have digits : number.digits ≠ 0 := fun none => positive.ne' (Scientific.value_eq_zero.mpr none)
  have least := isValue.least
  have most := isValue.exponent_lt
  obtain ⟨narrow, leastBound, mostBound⟩ := usual
  have one : (1 : ℚ) ≤ number.digits := by exact_mod_cast Nat.pos_of_ne_zero digits
  have notLarge : ¬ 400 < number.exponent := by
    intro large
    have reached : (2 : ℚ) ^ (3 * number.exponent) ≤ number.value := by
      calc (2 : ℚ) ^ (3 * number.exponent) = (2 ^ 3) ^ number.exponent := by
            rw [zpow_mul]
            norm_num
        _ ≤ 10 ^ number.exponent :=
          zpow_le_zpow_left₀ (by omega) (by norm_num) (by norm_num)
        _ ≤ number.value := le_mul_of_one_le_left (by positivity) one
    have fewer := (zpow_lt_zpow_iff_right₀ one_lt_two).mp (reached.trans_lt high)
    omega
  have notSmall : ¬ (number.digits.log2 : Int) + 1 + number.exponent < -400 := by
    intro small
    have missed : number.value < 2 ^ ((number.digits.log2 : ℤ) + 1 + 3 * number.exponent) := by
      rw [zpow_add₀ two_ne_zero]
      refine mul_lt_mul (lt_two_pow_log2 _) (ten_zpow_le ?_ ?_) (by positivity) (by positivity)
      · omega
      · omega
    have fewer := (zpow_lt_zpow_iff_right₀ one_lt_two).mp (low.trans_lt missed)
    omega
  rw [BinaryFormat.ofScientific, if_neg digits, if_neg notLarge, if_neg notSmall]
  rw [Scientific.value, zpow_eq_div (by norm_num : (10 : ℚ) ≠ 0)] at holds
  split
  · rename_i whole
    refine BinaryFormat.nearest_of_holds one_pos isValue filled ?_
    rw [Int.toNat_of_nonpos (by omega : -number.exponent ≤ 0), pow_zero, div_one] at holds
    change BinaryFormat.interval _ _ _ |>.Holds
      ((number.digits * 10 ^ number.exponent.toNat : Nat) / (1 : Nat))
    push_cast
    rwa [div_one]
  · rename_i fraction
    refine BinaryFormat.nearest_of_holds (Nat.pow_pos (by decide)) isValue filled ?_
    rw [Int.toNat_of_nonpos (by omega : number.exponent ≤ 0), pow_zero, mul_one_div] at holds
    change BinaryFormat.interval _ _ _ |>.Holds
      (number.digits / (10 ^ (-number.exponent).toNat : Nat))
    push_cast
    exact holds

end Read

/-- No decimal is read as more than infinity, however many digits it has or how large its exponent
is. -/
theorem of_scientific_le (format : BinaryFormat) (number : Scientific) :
    format.ofScientific number ≤ format.infinityBits := by
  have nearest (numerator denominator : Nat) :
      format.nearest numerator denominator ≤ format.infinityBits := by
    unfold BinaryFormat.nearest
    split
    · exact Nat.zero_le _
    · exact Nat.min_le_left _ _
  unfold BinaryFormat.ofScientific
  split
  · exact Nat.zero_le _
  · split
    · exact Nat.le_refl _
    · split
      · exact Nat.zero_le _
      · split
        · exact nearest _ _
        · exact nearest _ _

/-! ### Digits -/

/-- Whether a text is made of the digits of ASCII, of which there may be none. -/
def AreDigits (text : List Char) : Prop := ∀ c ∈ text, c.isDigit = true

/-- The text of a number consists of digits. -/
theorem are_digits_digit_text (n : Nat) : AreDigits (digitText n) :=
  fun _ => is_digit_of_digit_text

/-- Zeros are digits. They fill the places up to the point and behind it. -/
theorem are_digits_zeros (count : Nat) : AreDigits (List.replicate count '0') := by
  intro c member
  rw [List.eq_of_mem_replicate member]
  rfl

/-- Digits behind digits are digits. -/
theorem AreDigits.append {front back : List Char} (first : AreDigits front)
    (second : AreDigits back) : AreDigits (front ++ back) :=
  List.forall_mem_append.mpr ⟨first, second⟩

/-- Digits are read from the front, so what the digits at the front are read as is carried over to
those behind them. -/
theorem read_digits_append (before : Nat) (front back : List Char) :
    readDigits before (front ++ back) = readDigits (readDigits before front) back :=
  List.foldl_append

/-- Zeros behind digits count powers of ten. -/
theorem read_digits_zeros (before count : Nat) :
    readDigits before (List.replicate count '0') = before * 10 ^ count := by
  induction count generalizing before with
  | zero => simp [readDigits]
  | succ count induction =>
    rw [List.replicate_succ, show readDigits before ('0' :: List.replicate count '0') =
      readDigits (10 * before + 0) (List.replicate count '0') from rfl, induction, pow_succ]
    ring

/-- Digits are read up to the end of the text, and make a decimal without an exponent. -/
theorem read_scientific_whole {whole : List Char} (digits : AreDigits whole) (filled : whole ≠ []) :
    readScientific? whole = some (Scientific.ofParts whole [] 0) := by
  have taken : whole.takeWhile Char.isDigit = whole := List.takeWhile_eq_self_iff.mpr digits
  have dropped : whole.dropWhile Char.isDigit = [] := List.dropWhile_eq_nil_iff.mpr digits
  simp [readScientific?, taken, dropped, filled, readPower?]

/-- Digits on either side of a point are read together, and those behind it count towards the
exponent. -/
theorem read_scientific_point {whole fraction : List Char} (digits : AreDigits whole)
    (filled : whole ≠ []) (behind : AreDigits fraction) :
    readScientific? (whole ++ '.' :: fraction) = some (Scientific.ofParts whole fraction 0) := by
  have stops : ∀ c ∈ ('.' :: fraction).head?, c.isDigit = false := by simp
  obtain ⟨taken, dropped⟩ := Text.span_append digits stops
  have takenBehind : fraction.takeWhile Char.isDigit = fraction :=
    List.takeWhile_eq_self_iff.mpr behind
  have droppedBehind : fraction.dropWhile Char.isDigit = [] := List.dropWhile_eq_nil_iff.mpr behind
  simp [readScientific?, taken, dropped, takenBehind, droppedBehind, filled, readPower?]

/-- Whether a text is made of digits, at least one, and perhaps a point with more digits behind it,
which together stand for a number. -/
def Spells (text : List Char) (number : ℚ) : Prop :=
  ∃ whole fraction, AreDigits whole ∧ whole ≠ [] ∧ AreDigits fraction ∧
    (text = whole ∧ fraction = [] ∨ text = whole ++ '.' :: fraction) ∧
    (Scientific.ofParts whole fraction 0).value = number

/-- Digits that are written around the point spell the number. -/
theorem spells_positional (number : Scientific) :
    Spells (positional false number) number.value := by
  obtain ⟨digits, exponent⟩ := number
  have filled : digitText digits ≠ [] := Nat.toDigits_ne_nil
  have isDigits := are_digits_digit_text digits
  have long : 0 < (digitText digits).length := List.length_pos_of_ne_nil filled
  simp only [positional]
  split
  · rename_i whole
    refine ⟨digitText digits ++ List.replicate exponent.toNat '0', [],
      isDigits.append (are_digits_zeros _), List.append_ne_nil_of_left_ne_nil filled _,
      List.forall_mem_nil _, .inl ⟨by simp, rfl⟩, ?_⟩
    simp only [Scientific.ofParts, Scientific.value, read_digits_append, read_digits_digit_text,
      read_digits_zeros]
    rw [show readDigits (digits * 10 ^ exponent.toNat) [] = digits * 10 ^ exponent.toNat from rfl]
    obtain ⟨zeros, rfl⟩ := Int.eq_ofNat_of_zero_le whole
    simp
  · rename_i fractional
    split
    · rename_i inside
      refine ⟨(digitText digits).take ((digitText digits).length + exponent).toNat,
        (digitText digits).drop ((digitText digits).length + exponent).toNat,
        fun c member => isDigits c (List.mem_of_mem_take member), ?_,
        fun c member => isDigits c (List.mem_of_mem_drop member), .inr rfl, ?_⟩
      · rw [← List.length_pos_iff, List.length_take]
        omega
      · simp only [Scientific.ofParts, Scientific.value, ← read_digits_append,
          List.take_append_drop, read_digits_digit_text, List.length_drop]
        congr 2
        omega
    · rename_i outside
      refine ⟨['0'], List.replicate (-((digitText digits).length + exponent)).toNat '0' ++
        digitText digits, by simp [AreDigits], by simp, (are_digits_zeros _).append isDigits,
        .inr rfl, ?_⟩
      simp only [Scientific.ofParts, Scientific.value, read_digits_append, read_digits_zeros,
        List.length_append, List.length_replicate]
      rw [show readDigits 0 ['0'] = 0 from rfl, Nat.zero_mul, read_digits_digit_text]
      congr 2
      omega

/-- Zero is spelled with its digit, and with nothing else. -/
theorem spells_zero : Spells ['0'] 0 :=
  ⟨['0'], [], by simp [AreDigits], by simp, by simp [AreDigits], .inl ⟨rfl, rfl⟩, by
    simp [Scientific.ofParts, Scientific.value, readDigits, digitValue]⟩

namespace Spells

variable {text : List Char} {number : ℚ}

/-- A spelled number is read, as some decimal that stands for it. Which decimal it is depends on the
spelling, and does not matter. -/
theorem read (spells : Spells text number) :
    ∃ decimal, readScientific? text = some decimal ∧ decimal.value = number := by
  obtain ⟨whole, fraction, digits, filled, behind, ⟨rfl, rfl⟩ | rfl, value⟩ := spells
  · exact ⟨_, read_scientific_whole digits filled, value⟩
  · exact ⟨_, read_scientific_point digits filled behind, value⟩

/-- A spelled number begins with a digit, so it is never taken for the name of a number or for a
sign. -/
theorem starts (spells : Spells text number) :
    ∃ first rest, text = first :: rest ∧ first.isDigit = true := by
  obtain ⟨whole, fraction, digits, filled, -, ends, -⟩ := spells
  obtain ⟨first, others, rfl⟩ := List.exists_cons_of_ne_nil filled
  have digit : first.isDigit = true := digits first (.head others)
  rcases ends with ⟨rfl, -⟩ | rfl
  · exact ⟨first, others, rfl, digit⟩
  · exact ⟨first, others ++ '.' :: fraction, rfl, digit⟩

/-- A spelled number holds no blank, and stays one word of a line. -/
theorem visible (spells : Spells text number) : ∀ c ∈ text, Text.isBlank c = false := by
  obtain ⟨whole, fraction, digits, -, behind, ends, -⟩ := spells
  have noBlank {part : List Char} (areDigits : AreDigits part) {c : Char} (member : c ∈ part) :
      Text.isBlank c = false :=
    Text.is_blank_of_is_digit (Text.is_digit_of_ascii (areDigits c member))
  intro c member
  rcases ends with ⟨rfl, -⟩ | rfl
  · exact noBlank digits member
  · rcases List.mem_append.mp member with front | rest
    · exact noBlank digits front
    · rcases List.mem_cons.mp rest with rfl | back
      · rfl
      · exact noBlank behind back

end Spells

/-- A digit has no other case. The reader looks for the names of numbers in any case, and finds none
in what begins with a digit. -/
theorem to_lower_of_is_digit {c : Char} (digit : c.isDigit = true) : c.toLower = c := by
  simp only [Char.isDigit, ge_iff_le, Bool.and_eq_true, decide_eq_true_eq] at digit
  refine dif_neg fun upper => ?_
  exact absurd (UInt32.le_trans upper.1 digit.2) (by decide)

/-- A sign in front of a spelled number. -/
def signed (negative : Bool) (text : List Char) : List Char :=
  if negative then '-' :: text else text

/-- A spelled number with a sign is read, and not taken for a word. -/
theorem read_typed_signed {text : List Char} {number : ℚ} (spells : Spells text number)
    (negative : Bool) :
    ∃ decimal, readTyped? (signed negative text) = some (.decimal negative decimal) ∧
      decimal.value = number := by
  obtain ⟨decimal, read, value⟩ := spells.read
  obtain ⟨first, rest, rfl, digit⟩ := spells.starts
  have taken : takeSign (signed negative (first :: rest)) = (negative, first :: rest) := by
    cases negative with
    | true => rfl
    | false =>
      simp only [signed, Bool.false_eq_true, if_false]
      unfold takeSign
      split
      · rename_i minus
        cases minus
        cases digit
      · rename_i plus
        cases plus
        cases digit
      · rfl
  have noWord {word : String} (other : ∀ c ∈ word.toList.head?, c.isDigit = false) :
      String.ofList ((first :: rest).map Char.toLower) ≠ word := by
    rintro rfl
    rw [String.toList_ofList, List.map_cons, to_lower_of_is_digit digit] at other
    rw [other first rfl] at digit
    cases digit
  refine ⟨decimal, ?_, value⟩
  simp only [readTyped?, taken]
  rw [if_neg (not_or.mpr ⟨noWord (by simp), noWord (by simp)⟩), if_neg (noWord (by simp)), read]
  rfl

end LiveShader.Decimal
