import LiveShader.Diagnostic

/-!
# Errors found in logs

The notations of an error are made of numbers, marks and a message. Each part is read back from
the front of a text as long as what follows cannot belong to it, so a notation that is written out
is read back, and the diagnostic has the line and the message that were written.
-/
namespace LiveShader

namespace Text

/-- A cut where a condition first fails: a front that meets it throughout, and a rest that does not
begin with such a character, are found again in the whole. -/
theorem span_append {holds : Char → Bool} {front rest : List Char}
    (all : ∀ c ∈ front, holds c = true) (stops : ∀ c ∈ rest.head?, holds c = false) :
    (front ++ rest).takeWhile holds = front ∧ (front ++ rest).dropWhile holds = rest := by
  rw [List.takeWhile_append_of_pos all, List.dropWhile_append_of_pos all]
  cases rest with
  | nil => simp
  | cons c rest =>
    have stop : holds c = false := stops c rfl
    simp [stop]

/-- The code points of the digits of ASCII, as the bounds that the tables of Unicode are searched
with. -/
theorem ascii_digit_bounds {c : Char} (ascii : c.isDigit = true) :
    0x30 ≤ c.toNat ∧ c.toNat ≤ 0x39 := by
  simp only [Char.isDigit, ge_iff_le, UInt32.le_iff_toNat_le, Bool.and_eq_true,
    decide_eq_true_eq] at ascii
  exact ascii

/-- A digit of ASCII is a digit in the sense of the notations, which take all that Unicode calls
one. -/
theorem is_digit_of_ascii {c : Char} (ascii : c.isDigit = true) : isDigit c = true := by
  have bounds := ascii_digit_bounds ascii
  rw [isDigit, if_pos (by omega), ascii]

/-- A digit is no blank, in any script. -/
theorem is_blank_of_is_digit {c : Char} (digit : isDigit c = true) : isBlank c = false := by
  have apart : ∀ range ∈ digitRanges, range.2 < 0x80 ∨ 0xA0 < range.1 ∧ range.2 < 0x1680 ∨
      0x1680 < range.1 ∧ range.2 < 0x2000 ∨ 0x3000 < range.1 := by decide
  simp only [isBlank, Bool.or_eq_false_iff, Bool.and_eq_false_iff, beq_eq_false_iff_ne, ne_eq,
    decide_eq_false_iff_not]
  unfold isDigit at digit
  split at digit
  · have bounds := ascii_digit_bounds digit
    omega
  · rw [inRanges, List.any_eq_true] at digit
    obtain ⟨range, member, within⟩ := digit
    have around := apart range member
    simp only [Bool.and_eq_true, decide_eq_true_eq] at within
    omega

end Text

namespace Decimal

/-- A number is written with the digits of ASCII, whatever other digits may be read. -/
theorem is_digit_of_digit_text {n : Nat} {c : Char} (member : c ∈ digitText n) : c.isDigit = true :=
  Nat.isDigit_of_mem_toDigits (by decide) (by decide) member

/-- The digits that a number is written with spell it. -/
theorem read_digits_digit_text (n : Nat) : readDigits 0 (digitText n) = n :=
  Nat.ofDigitChars_ten_toDigits

end Decimal

namespace Diagnostic

open Text

/-- Whether a text is a number as drivers write them: one digit at least, and nothing else. -/
def IsNumber (digits : List Char) : Prop := digits ≠ [] ∧ ∀ c ∈ digits, isDigit c = true

/-- Whether a text can be a message: it starts with something that is no blank, and stays on its
line. -/
def IsMessage (message : List Char) : Prop :=
  (∃ c ∈ message.head?, isBlank c = false) ∧ '\n' ∉ message

/-- Whether nothing more stands on the line that a text goes on with. It may be at its end, or at a
newline. -/
def EndsLine (text : List Char) : Prop := ∀ c ∈ text.head?, c = '\n'

/-- A number is read up to what is no digit. -/
theorem take_number_append {digits rest : List Char} (number : IsNumber digits)
    (stops : ∀ c ∈ rest.head?, isDigit c = false) :
    takeNumber? (digits ++ rest) = some (digits, rest) := by
  obtain ⟨first, others, rfl⟩ := List.exists_cons_of_ne_nil number.1
  obtain ⟨taken, dropped⟩ := span_append number.2 stops
  simp only [takeNumber?, taken, dropped]

/-- A message is read from behind its blanks up to the end of its line. -/
theorem take_message_append {least : Nat} {blanks message rest : List Char}
    (blank : ∀ c ∈ blanks, isBlank c = true) (enough : least ≤ blanks.length)
    (isMessage : IsMessage message) (ends : EndsLine rest) :
    takeMessage? least (blanks ++ (message ++ rest)) = some message := by
  obtain ⟨⟨first, starts, visible⟩, oneLine⟩ := isMessage
  obtain ⟨others, rfl⟩ := List.head?_eq_some_iff.mp starts
  have stops : ∀ c ∈ ((first :: others) ++ rest).head?, isBlank c = false := by
    intro c head
    cases head
    exact visible
  have onLine : ∀ c ∈ first :: others, decide (c ≠ '\n') = true := by
    intro c member
    refine decide_eq_true ?_
    rintro rfl
    exact oneLine member
  have lineEnds : ∀ c ∈ rest.head?, decide (c ≠ '\n') = false := by
    intro c head
    simp [ends c head]
  obtain ⟨taken, dropped⟩ := span_append blank stops
  obtain ⟨line, -⟩ := span_append onLine lineEnds
  simp only [takeMessage?, taken, dropped, if_neg (Nat.not_lt.mpr enough)]
  rw [List.cons_append] at line ⊢
  simp only [line]

/-- The notation `ERROR: 0:12: message` at the start of a text is read back. -/
theorem read_shouted_append {file number message rest : List Char} (isFile : IsNumber file)
    (isNumber : IsNumber number) (isMessage : IsMessage message) (ends : EndsLine rest) :
    readShouted?
        ("ERROR: ".toList ++ (file ++ ':' :: (number ++ ':' :: ' ' :: (message ++ rest)))) =
      some ⟨number, message⟩ := by
  have marked : "ERROR: ".toList = "ERROR:".toList ++ [' '] := rfl
  have colon (rest : List Char) : ∀ c ∈ (':' :: rest).head?, isDigit c = false := by
    intro c head
    cases head
    rfl
  have blank : ∀ c ∈ [' '], isBlank c = true := List.forall_mem_singleton.mpr rfl
  have visible (rest : List Char) : ∀ c ∈ (file ++ rest).head?, isBlank c = false := by
    obtain ⟨first, others, rfl⟩ := List.exists_cons_of_ne_nil isFile.1
    intro c head
    cases head
    exact is_blank_of_is_digit (isFile.2 first (.head others))
  have spaced (rest : List Char) : trimStart ([' '] ++ (file ++ rest)) = file ++ rest :=
    (span_append blank (visible rest)).2
  have afterColon (rest : List Char) : afterFront? [':'] (':' :: rest) = some rest :=
    after_front?_append [':'] rest
  have said : takeMessage? 1 (' ' :: (message ++ rest)) = some message :=
    take_message_append blank (Nat.le_refl 1) isMessage ends
  have longer (rest : List Char) : (file ++ rest).length ≠ ([' '] ++ (file ++ rest)).length := by
    simp
  rw [readShouted?, marked, List.append_assoc, after_front?_append]
  simp only [Option.bind_eq_bind, Option.bind_some, spaced, if_neg (longer _),
    take_number_append isFile (colon _), afterColon, take_number_append isNumber (colon _), said]

/-- The digits that a number is written with are a number in the sense of the notations. -/
theorem digit_text_is_number (n : Nat) : IsNumber (Decimal.digitText n) :=
  ⟨Nat.toDigits_ne_nil, fun _ member => is_digit_of_ascii (Decimal.is_digit_of_digit_text member)⟩

/-- The digits that a number is written with are read as that number, if it fits. -/
theorem line_number_digit_text {n : Nat} (fits : n < wordLimit 63) :
    lineNumber? (Decimal.digitText n) = some n := by
  have ascii : (Decimal.digitText n).all Char.isDigit = true :=
    List.all_eq_true.mpr fun _ => Decimal.is_digit_of_digit_text
  simp only [lineNumber?, ascii, if_true, Decimal.read_digits_digit_text, if_pos fits]

/-- The lines behind a header are those of the user, counted from the first one behind it. The bound
keeps the subtraction from going around. -/
theorem user_line_add {line header : Nat} (fits : line < wordLimit 63) :
    userLine (line + header) header = line := by
  have limit : wordLimit 63 = 9223372036854775808 := by decide
  have words : wordLimit 64 = 18446744073709551616 := by decide
  rw [limit] at fits
  rw [userLine, words, Int.natCast_add, Int.add_sub_cancel]
  exact Int.bmod_eq_of_le (by omega) (by omega)

/-- An error that is found behind a header is told with the user's line. -/
theorem of_log_of_found {log : String} {number header : Nat} {message : List Char}
    (found : find? log.toList = some ⟨Decimal.digitText (number + header), message⟩)
    (fits : number + header < wordLimit 63) :
    ofLog log header = .located number (String.ofList (trimEnd message)) := by
  have line : userLine (number + header : Nat) header = number :=
    user_line_add (Nat.lt_of_le_of_lt (Nat.le_add_right number header) fits)
  simp only [ofLog, found, line_number_digit_text fits, line]

/-- An error at the start of a log is what the log is about. -/
theorem of_log_of_shouted {log : String} {number header : Nat} {message : List Char}
    (read : readShouted? log.toList = some ⟨Decimal.digitText (number + header), message⟩)
    (fits : number + header < wordLimit 63) :
    ofLog log header = .located number (String.ofList (trimEnd message)) := by
  have found : find? log.toList = some ⟨Decimal.digitText (number + header), message⟩ := by
    unfold find?
    cases text : log.toList with
    | nil => simp [text, readShouted?, afterFront?] at read
    | cons c rest =>
      rw [text] at read
      simp only [findAnywhere?, read]
  exact of_log_of_found found fits

end Diagnostic

end LiveShader
