import LiveShader.Proofs.Findings
import Mathlib.Data.List.TakeWhile

/-!
# The first error of a log

A log has lines before and behind the error that it tells of. The notations are tried one after the
other over the whole log, so a log is read as the error only if no earlier notation fits anywhere
and the notation itself fits nowhere sooner. Blanks reach across the ends of lines: a notation may
begin in empty lines above the error, which makes no difference, and it might go on from one line
to the next, which a line that begins with a digit does not allow.

Lines without the words that the notations need can therefore stand in front. Behind the error any
lines may follow, except where they could be read by a notation that is tried before.
-/
namespace LiveShader.Diagnostic

open Text

/-- Whether a text is made of whole lines: it is not empty, and its last line has an end. -/
def IsLines (text : List Char) : Prop := text.getLast? = some '\n'

/-- Some newline stands in whole lines. -/
theorem IsLines.newline_mem {text : List Char} (lines : IsLines text) : '\n' ∈ text :=
  List.mem_of_getLast? lines

/-- What is left of whole lines is whole lines. -/
theorem IsLines.suffix {text behind : List Char} (lines : IsLines text) (left : behind <:+ text)
    (filled : behind ≠ []) : IsLines behind := by
  obtain ⟨before, rfl⟩ := left
  unfold IsLines at lines ⊢
  obtain ⟨last, behindLast⟩ := Option.isSome_iff_exists.mp (List.getLast?_isSome.mpr filled)
  rwa [List.getLast?_append, behindLast, Option.some_or, ← behindLast] at lines

/-- Whole lines are a newline, or go on with whole lines. -/
theorem IsLines.tail {c : Char} {text : List Char} (lines : IsLines (c :: text)) :
    text = [] ∧ c = '\n' ∨ IsLines text := by
  cases text with
  | nil => exact .inl ⟨rfl, Option.some.inj lines⟩
  | cons d text => exact .inr (lines.suffix (List.suffix_cons c _) (List.cons_ne_nil d text))

/-- What a text without a newline leaves of whole lines that it starts is whole lines. -/
theorem IsLines.cut {text rest front after : List Char} (lines : IsLines text)
    (oneLine : '\n' ∉ front) (split : text ++ rest = front ++ after) :
    ∃ behind, IsLines behind ∧ text = front ++ behind ∧ after = behind ++ rest := by
  rcases List.append_eq_append_iff.mp split with ⟨inner, longer, -⟩ | ⟨behind, shorter, same⟩
  · rw [longer] at oneLine
    exact absurd (List.mem_append_left inner lines.newline_mem) oneLine
  · refine ⟨behind, lines.suffix ⟨front, shorter.symm⟩ ?_, shorter, same⟩
    rintro rfl
    rw [List.append_nil] at shorter
    exact oneLine (shorter ▸ lines.newline_mem)

/-- A place within whole lines that a text follows: whole lines are left before that text. -/
def Within (text rest place : List Char) : Prop :=
  ∃ behind, IsLines behind ∧ behind <:+ text ∧ place = behind ++ rest

namespace Within

variable {text rest place next : List Char}

/-- The start of whole lines. -/
theorem here (lines : IsLines text) : Within text rest (text ++ rest) :=
  ⟨text, lines, List.suffix_rfl, rfl⟩

/-- A place within lines is one within longer lines. -/
theorem cons {c : Char} (within : Within text rest place) : Within (c :: text) rest place := by
  obtain ⟨behind, lines, left, rfl⟩ := within
  exact ⟨behind, lines, left.trans (List.suffix_cons c text), rfl⟩

/-- A mark that is read within lines stands in them. -/
theorem mark {mark : List Char} (within : Within text rest place) (oneLine : '\n' ∉ mark)
    (found : afterFront? mark place = some next) : Within text rest next ∧ mark <:+: text := by
  obtain ⟨behind, lines, left, rfl⟩ := within
  obtain ⟨after, afterLines, split, rfl⟩ := lines.cut oneLine (after_front?_eq_some_iff.mp found)
  refine ⟨⟨after, afterLines, ?_, rfl⟩, ?_⟩
  · exact List.IsSuffix.trans ⟨mark, split.symm⟩ left
  · have starts : mark <+: behind := ⟨after, split.symm⟩
    exact starts.isInfix.trans left.isInfix

/-- A number that is read within lines stands in them. -/
theorem number {digits : List Char} (within : Within text rest place)
    (found : takeNumber? place = some (digits, next)) : Within text rest next := by
  obtain ⟨behind, lines, left, rfl⟩ := within
  have split : behind ++ rest = digits ++ next ∧ '\n' ∉ digits := by
    unfold takeNumber? at found
    split at found
    · cases found
    · rename_i taken read
      cases found
      rw [List.takeWhile_append_dropWhile]
      refine ⟨rfl, fun newline => ?_⟩
      have digit := List.mem_takeWhile_imp newline
      revert digit
      decide
  obtain ⟨after, afterLines, inner, rfl⟩ := lines.cut split.2 split.1
  exact ⟨after, afterLines, List.IsSuffix.trans ⟨digits, inner.symm⟩ left, rfl⟩

/-- Blanks that are skipped within lines end in them, or reach to the text behind. -/
theorem trimmed (within : Within text rest place) :
    Within text rest (trimStart place) ∨ trimStart place = trimStart rest := by
  obtain ⟨behind, lines, left, rfl⟩ := within
  unfold trimStart
  rw [List.dropWhile_append]
  cases kept : behind.dropWhile isBlank with
  | nil => exact .inr (if_pos rfl)
  | cons c others =>
    have inner : c :: others <:+ behind := kept ▸ List.dropWhile_suffix isBlank
    exact .inl ⟨c :: others, lines.suffix inner (List.cons_ne_nil _ _), inner.trans left, rfl⟩

end Within

/-! ### What a notation needs -/

/-- A loud error is read only where its word stands. -/
theorem shouted_of_read {text : List Char} {finding : Finding}
    (read : readShouted? text = some finding) : "ERROR:".toList <+: text := by
  simp only [readShouted?, Option.bind_eq_bind, Option.bind_eq_some_iff] at read
  obtain ⟨rest, marked, -⟩ := read
  exact ⟨rest, (after_front?_eq_some_iff.mp marked).symm⟩

/-- What a number is read from holds what stands behind the number. -/
theorem suffix_of_take_number {text digits rest : List Char}
    (taken : takeNumber? text = some (digits, rest)) : rest <:+ text := by
  unfold takeNumber? at taken
  split at taken
  · cases taken
  · cases taken
    exact List.dropWhile_suffix isDigit

/-- What a mark is read from holds what stands behind the mark. -/
theorem suffix_of_mark {mark text rest : List Char} (read : afterFront? mark text = some rest) :
    rest <:+ text :=
  ⟨mark, (after_front?_eq_some_iff.mp read).symm⟩

/-- An error with a column is read only where its word stands behind. -/
theorem columned_of_read {text : List Char} {finding : Finding}
    (read : readColumned? text = some finding) : "error:".toList <:+: text := by
  simp only [readColumned?, Option.bind_eq_bind, Option.bind_eq_some_iff, Prod.exists] at read
  obtain ⟨_, _, file, _, colon, _, _, line, _, opened, _, _, column, _, closed, _, marked, -⟩ :=
    read
  have starts : "error:".toList <+: _ := ⟨_, (after_front?_eq_some_iff.mp marked).symm⟩
  have inner := (List.dropWhile_suffix isBlank).trans <| (suffix_of_mark closed).trans <|
    (suffix_of_take_number column).trans <| (suffix_of_mark opened).trans <|
    (suffix_of_take_number line).trans <| (suffix_of_mark colon).trans <|
    (suffix_of_take_number file).trans (List.dropWhile_suffix isBlank)
  exact starts.isInfix.trans inner.isInfix

section Above

variable {text rest place : List Char}

/-- A text that begins with a digit begins with no blank. -/
theorem trim_start_of_digit (digit : ∃ c ∈ rest.head?, isDigit c = true) :
    trimStart rest = rest := by
  obtain ⟨c, head, isDigit_c⟩ := digit
  obtain ⟨others, rfl⟩ := List.head?_eq_some_iff.mp head
  exact List.dropWhile_cons_of_neg (by simp [is_blank_of_is_digit isDigit_c])

/-- No mark is read where a digit stands. -/
theorem mark_of_digit {first : Char} {mark next : List Char}
    (digit : ∃ c ∈ rest.head?, isDigit c = true) (other : isDigit first = false) :
    afterFront? (first :: mark) rest ≠ some next := by
  obtain ⟨c, head, isDigit_c⟩ := digit
  obtain ⟨others, rfl⟩ := List.head?_eq_some_iff.mp head
  intro read
  rw [after_front?_eq_some_iff, List.cons_append] at read
  cases read
  rw [isDigit_c] at other
  cases other

/-- A mark that is read behind blanks within lines stands in them, since it does not begin with a
digit. -/
theorem Within.mark_behind_blanks {first : Char} {mark next : List Char}
    (within : Within text rest place) (digit : ∃ c ∈ rest.head?, isDigit c = true)
    (other : isDigit first = false) (oneLine : '\n' ∉ first :: mark)
    (read : afterFront? (first :: mark) (trimStart place) = some next) :
    Within text rest next ∧ first :: mark <:+: text := by
  rcases within.trimmed with inner | same
  · exact inner.mark oneLine read
  · rw [same, trim_start_of_digit digit] at read
    exact absurd read (mark_of_digit digit other)

/-- Lines without the word of an error are not read as an error with a column. At most the blanks
at their end are read, as those in front of what follows. -/
theorem read_columned_within (within : Within text rest place)
    (digit : ∃ c ∈ rest.head?, isDigit c = true) (quiet : ¬ "error".toList <:+: text) :
    readColumned? place = none ∨ readColumned? place = readColumned? rest := by
  rcases within.trimmed with inner | same
  · refine .inl (Option.eq_none_iff_forall_ne_some.mpr fun finding read => quiet ?_)
    simp only [readColumned?, Option.bind_eq_bind, Option.bind_eq_some_iff, Prod.exists] at read
    obtain ⟨_, _, file, _, colon, _, _, line, _, opened, _, _, column, _, closed, _, marked, -⟩ :=
      read
    have opens := (((inner.number file).mark (by decide) colon).1.number line).mark (by decide)
      opened
    have closes := (opens.1.number column).mark (by decide) closed
    have word := closes.1.mark_behind_blanks digit (by decide) (by decide) marked
    exact List.IsInfix.trans ⟨[], [':'], rfl⟩ word.2
  · exact .inr (by simp only [readColumned?, same])

/-- Lines without the word of an error are not read as an error with a code. At most the blanks at
their end are read, as those in front of what follows. -/
theorem read_coded_within (within : Within text rest place)
    (digit : ∃ c ∈ rest.head?, isDigit c = true) (quiet : ¬ "error".toList <:+: text) :
    readCoded? place = none ∨ readCoded? place = readCoded? rest := by
  rcases within.trimmed with inner | same
  · refine .inl (Option.eq_none_iff_forall_ne_some.mpr fun finding read => quiet ?_)
    simp only [readCoded?, Option.bind_eq_bind, Option.bind_eq_some_iff, Prod.exists] at read
    obtain ⟨_, _, file, _, opened, _, _, line, _, closed, _, colon, _, marked, -⟩ := read
    have opens := (inner.number file).mark (by decide) opened
    have closes := (opens.1.number line).mark (by decide) closed
    have separated := closes.1.mark_behind_blanks digit (by decide) (by decide) colon
    exact (separated.1.mark_behind_blanks digit (by decide) (by decide) marked).2
  · exact .inr (by simp only [readCoded?, same])

end Above

/-! ### The first place that a notation is read at -/

section Places

variable {read : List Char → Option Finding}

/-- What is read at no place is not found. -/
theorem find_anywhere_none {text : List Char}
    (unread : ∀ place, place <:+ text → read place = none) : findAnywhere? read text = none := by
  induction text with
  | nil => exact unread [] List.suffix_rfl
  | cons c text induction =>
    rw [findAnywhere?, unread _ List.suffix_rfl]
    exact induction fun place left => unread place (left.trans (List.suffix_cons c text))

/-- What is read at the start of a text is found there. -/
theorem find_anywhere_here {text : List Char} {finding : Finding}
    (here : read text = some finding) : findAnywhere? read text = some finding := by
  cases text with
  | nil => exact here
  | cons c text => rw [findAnywhere?, here]

/-- Lines that nothing is read in are passed over. -/
theorem find_anywhere_lines {front rest : List Char} (lines : front = [] ∨ IsLines front)
    (unread : ∀ place, Within front rest place → read place = none) :
    findAnywhere? read (front ++ rest) = findAnywhere? read rest := by
  induction front with
  | nil => rfl
  | cons c front induction =>
    have whole : IsLines (c :: front) := lines.resolve_left (List.cons_ne_nil c front)
    have here : read (c :: (front ++ rest)) = none := unread _ (.here whole)
    rw [List.cons_append, findAnywhere?, here]
    exact induction (whole.tail.imp_left And.left) fun place within => unread place within.cons

/-- What is read at no place is not found at the start of a line. -/
theorem find_at_line_start_none {text : List Char}
    (unread : ∀ place, place <:+ text → read place = none) (starts : Bool) :
    findAtLineStart? read starts text = none := by
  induction text generalizing starts with
  | nil => simp [findAtLineStart?, unread [] List.suffix_rfl]
  | cons c text induction =>
    simp only [findAtLineStart?, unread _ List.suffix_rfl, ite_self]
    exact induction (fun place left => unread place (left.trans (List.suffix_cons c text))) _

/-- What is read at the start of a line is found there. -/
theorem find_at_line_start_here {text : List Char} {finding : Finding}
    (here : read text = some finding) : findAtLineStart? read true text = some finding := by
  cases text with
  | nil => exact here
  | cons c text => simp only [findAtLineStart?, if_true, here]

/-- Within a line no line starts, so what is not read at its start and nowhere behind it is not
found. -/
theorem find_at_line_start_line {line back : List Char} {starts : Bool} (oneLine : '\n' ∉ line)
    (unread : starts = true → read (line ++ back) = none)
    (behind : ∀ place, place <:+ back → read place = none) :
    findAtLineStart? read starts (line ++ back) = none := by
  induction line generalizing starts with
  | nil => exact find_at_line_start_none behind starts
  | cons c line induction =>
    rw [List.mem_cons, not_or] at oneLine
    have inside : (c == '\n') = false := beq_eq_false_iff_ne.mpr (Ne.symm oneLine.1)
    have here : (if starts then read (c :: (line ++ back)) else none) = none := by
      cases starts with
      | false => rfl
      | true => exact unread rfl
    rw [List.cons_append, findAtLineStart?, here, inside]
    exact induction oneLine.2 fun starting => nomatch starting

/-- Lines in which at most their last blanks are read, as those in front of what follows, are passed
over. -/
theorem find_at_line_start_lines {front rest : List Char} {starts : Bool}
    (lines : front = [] ∧ starts = true ∨ IsLines front)
    (same : ∀ place, Within front rest place → read place = none ∨ read place = read rest) :
    findAtLineStart? read starts (front ++ rest) = findAtLineStart? read true rest := by
  induction front generalizing starts with
  | nil =>
    rcases lines with ⟨-, rfl⟩ | lines
    · rfl
    · cases lines
  | cons c front induction =>
    have whole : IsLines (c :: front) := lines.resolve_left fun empty => nomatch empty.1
    have behind : findAtLineStart? read (c == '\n') (front ++ rest) =
        findAtLineStart? read true rest := by
      refine induction ?_ fun place within => same place within.cons
      exact whole.tail.imp_left (And.imp_right beq_iff_eq.mpr)
    have here : (if starts then read (c :: (front ++ rest)) else none) = none ∨
        (if starts then read (c :: (front ++ rest)) else none) = read rest := by
      cases starts with
      | false => exact .inl rfl
      | true => exact same _ (.here whole)
    rw [List.cons_append, findAtLineStart?]
    rcases here with unread | asBehind
    · rw [unread, behind]
    · rw [asBehind]
      cases found : read rest with
      | none => exact behind
      | some finding => exact (find_at_line_start_here found).symm

end Places

/-! ### The styles of an error -/

/-- How a driver tells of an error in a line of a file. -/
inductive ErrorStyle where
  /-- A loud word in front: `ERROR: 0:12: message`. -/
  | shouted
  /-- A column behind the line: `0:12(5): error: message`. -/
  | columned (column : List Char)
  /-- A code before the message: `0(12) : error C1008: message`. -/
  | coded (word : List Char)

namespace ErrorStyle

/-- An error as it stands in a log. -/
def write (file number message : List Char) : ErrorStyle → List Char
  | shouted => "ERROR: ".toList ++ (file ++ ':' :: (number ++ ':' :: ' ' :: message))
  | columned column =>
    file ++ ':' :: (number ++ '(' :: (column ++ ("): error: ".toList ++ message)))
  | coded word =>
    file ++ '(' :: (number ++ (") : error ".toList ++ (word ++ ':' :: ' ' :: message)))

/-- Whether a column is a number, and a code a word. -/
def IsSound : ErrorStyle → Prop
  | shouted => True
  | columned column => IsNumber column
  | coded word => ∀ c ∈ word, isWordChar c = true

/-- Whether no notation that is tried before finds its word in a log, or behind the error. -/
def ComesFirst (log back : List Char) : ErrorStyle → Prop
  | shouted => True
  | columned _ => ¬ "ERROR:".toList <:+: log
  | coded _ => ¬ "ERROR:".toList <:+: log ∧ ¬ "error:".toList <:+: back

end ErrorStyle

/-- A log whose first error is written in a style: whole lines without the words of an error stand
in front, and what is behind starts on a new line. -/
structure TellsFirst (style : ErrorStyle) (front file number message back : List Char) : Prop where
  sound : style.IsSound
  isFile : IsNumber file
  isNumber : IsNumber number
  isMessage : IsMessage message
  lines : front = [] ∨ IsLines front
  calm : ¬ "ERROR:".toList <:+: front
  quiet : ¬ "error".toList <:+: front
  ends : EndsLine back
  first : style.ComesFirst (front ++ (style.write file number message ++ back)) back

/-- The code points of the blanks. -/
def blankPoints : List Nat :=
  List.range' 9 5 ++ [0x20, 0x85, 0xA0, 0x1680] ++ List.range' 0x2000 11 ++
    [0x2028, 0x2029, 0x202F, 0x205F, 0x3000]

/-- A blank has one of their code points. -/
theorem mem_blank_points {c : Char} (blank : isBlank c = true) : c.toNat ∈ blankPoints := by
  simp only [isBlank, Bool.or_eq_true, Bool.and_eq_true, beq_iff_eq, decide_eq_true_eq] at blank
  simp only [blankPoints, List.mem_append, List.mem_range'_1, List.mem_cons, List.not_mem_nil,
    or_false]
  omega

/-- A character of a word is no blank. -/
theorem is_blank_of_is_word_char {c : Char} (inWord : isWordChar c = true) : isBlank c = false := by
  have apart : ∀ n ∈ blankPoints, isWordChar (Char.ofNat n) = false := by decide +kernel
  refine Bool.eq_false_iff.mpr fun blank => ?_
  have other := apart c.toNat (mem_blank_points blank)
  rw [Char.ofNat_toNat, inWord] at other
  cases other

/-- A number begins with a digit. -/
theorem IsNumber.head {digits : List Char} (number : IsNumber digits) (rest : List Char) :
    ∃ c ∈ (digits ++ rest).head?, isDigit c = true := by
  obtain ⟨first, others, rfl⟩ := List.exists_cons_of_ne_nil number.1
  exact ⟨first, rfl, number.2 first (.head others)⟩

/-- A number stays on its line. -/
theorem IsNumber.on_one_line {digits : List Char} (number : IsNumber digits) : '\n' ∉ digits := by
  intro newline
  have digit := number.2 '\n' newline
  revert digit
  decide

/-- A number is read up to a mark that is no digit. -/
theorem IsNumber.take {digits : List Char} (number : IsNumber digits) {mark : Char}
    (other : isDigit mark = false) (rest : List Char) :
    takeNumber? (digits ++ mark :: rest) = some (digits, mark :: rest) := by
  refine take_number_append number fun c head => ?_
  cases head
  exact other

/-- A mark at the start of a text is read. -/
theorem mark_cons (mark : Char) (rest : List Char) :
    afterFront? [mark] (mark :: rest) = some rest :=
  after_front?_append [mark] rest

/-- One space is skipped up to what is no blank. -/
theorem trim_start_space {text : List Char} (visible : ∀ c ∈ text.head?, isBlank c = false) :
    trimStart (' ' :: text) = text :=
  (span_append (List.forall_mem_singleton.mpr rfl : ∀ c ∈ [' '], isBlank c = true) visible).2

/-- A message is read behind one space. -/
theorem IsMessage.take {message back : List Char} (isMessage : IsMessage message)
    (ends : EndsLine back) : takeMessage? 0 (' ' :: (message ++ back)) = some message :=
  take_message_append (List.forall_mem_singleton.mpr rfl : ∀ c ∈ [' '], isBlank c = true)
    (Nat.zero_le 1) isMessage ends

section Written

variable {file number message back : List Char}

/-- The parts of an error with a column. -/
theorem write_columned (column : List Char) :
    (ErrorStyle.columned column).write file number message ++ back =
      file ++ ':' :: (number ++ '(' :: (column ++ ')' :: ':' :: ' ' ::
        ("error:".toList ++ ' ' :: (message ++ back)))) := by
  delta ErrorStyle.write
  simp

/-- The parts of an error with a code. -/
theorem write_coded (word : List Char) :
    (ErrorStyle.coded word).write file number message ++ back =
      file ++ '(' :: (number ++ ')' :: ' ' :: ':' :: ' ' ::
        ("error".toList ++ ' ' :: (word ++ ':' :: ' ' :: (message ++ back)))) := by
  delta ErrorStyle.write
  simp

/-- The notation `0:12(5): error: message` at the start of a text is read back. -/
theorem read_columned_append {column : List Char} (isFile : IsNumber file)
    (isNumber : IsNumber number) (isColumn : IsNumber column) (isMessage : IsMessage message)
    (ends : EndsLine back) :
    readColumned? ((ErrorStyle.columned column).write file number message ++ back) =
      some ⟨number, message⟩ := by
  have colon : isDigit ':' = false := rfl
  have opening : isDigit '(' = false := rfl
  have closing : isDigit ')' = false := rfl
  have closed (rest : List Char) : afterFront? [')', ':'] (')' :: ':' :: rest) = some rest :=
    after_front?_append [')', ':'] rest
  have spaced (rest : List Char) : trimStart (' ' :: ("error:".toList ++ rest)) =
      "error:".toList ++ rest := by
    refine trim_start_space fun c head => ?_
    cases head
    rfl
  rw [write_columned, readColumned?, trim_start_of_digit (isFile.head _)]
  simp only [Option.bind_eq_bind, Option.bind_some, isFile.take colon, mark_cons,
    isNumber.take opening, isColumn.take closing, closed, spaced, after_front?_append,
    isMessage.take ends]

/-- The notation `0(12) : error C1008: message` at the start of a text is read back. -/
theorem read_coded_append {word : List Char} (isFile : IsNumber file)
    (isNumber : IsNumber number) (isWord : ∀ c ∈ word, isWordChar c = true)
    (isMessage : IsMessage message) (ends : EndsLine back) :
    readCoded? ((ErrorStyle.coded word).write file number message ++ back) =
      some ⟨number, message⟩ := by
  have opening : isDigit '(' = false := rfl
  have closing : isDigit ')' = false := rfl
  have separated (rest : List Char) : trimStart (' ' :: ':' :: rest) = ':' :: rest := by
    refine trim_start_space fun c head => ?_
    cases head
    rfl
  have spaced (rest : List Char) : trimStart (' ' :: ("error".toList ++ rest)) =
      "error".toList ++ rest := by
    refine trim_start_space fun c head => ?_
    cases head
    rfl
  have wordBegins (rest : List Char) : trimStart (' ' :: (word ++ ':' :: rest)) =
      word ++ ':' :: rest := by
    refine trim_start_space fun c head => ?_
    cases word with
    | nil =>
      cases head
      rfl
    | cons first others =>
      cases head
      exact is_blank_of_is_word_char (isWord c (.head others))
  have wordEnds (rest : List Char) : (word ++ ':' :: rest).dropWhile isWordChar = ':' :: rest := by
    refine (span_append isWord fun c head => ?_).2
    cases head
    decide +kernel
  rw [write_coded, readCoded?, trim_start_of_digit (isFile.head _)]
  simp only [Option.bind_eq_bind, Option.bind_some, isFile.take opening, mark_cons,
    isNumber.take closing, separated, spaced, after_front?_append, wordBegins, wordEnds,
    isMessage.take ends]

/-- An error with a code is not read as one with a column. -/
theorem read_columned_of_coded {word : List Char} (isFile : IsNumber file) :
    readColumned? ((ErrorStyle.coded word).write file number message ++ back) = none := by
  have opening : isDigit '(' = false := rfl
  have other (rest : List Char) : afterFront? [':'] ('(' :: rest) = none := rfl
  rw [write_coded, readColumned?, trim_start_of_digit (isFile.head _)]
  simp only [Option.bind_eq_bind, Option.bind_some, isFile.take opening, other, Option.bind_none]

/-- An error with a code stays on its line. -/
theorem one_line_of_coded {word : List Char} (isFile : IsNumber file) (isNumber : IsNumber number)
    (isWord : ∀ c ∈ word, isWordChar c = true) (isMessage : IsMessage message) :
    '\n' ∉ (ErrorStyle.coded word).write file number message := by
  have wordOneLine : '\n' ∉ word := by
    intro newline
    have inWord := isWord '\n' newline
    revert inWord
    decide +kernel
  rw [← List.append_nil ((ErrorStyle.coded word).write file number message), write_coded]
  simp [isFile.on_one_line, isNumber.on_one_line, wordOneLine, isMessage.2]

end Written

/-! ### What a log is about -/

/-- What needs a word is read nowhere in a text without that word. -/
theorem unread_of_absent {read : List Char → Option Finding} {word text : List Char}
    (needs : ∀ place finding, read place = some finding → word <:+: place)
    (absent : ¬ word <:+: text) : ∀ place, place <:+ text → read place = none := by
  intro place left
  refine Option.eq_none_iff_forall_ne_some.mpr fun finding found => absent ?_
  exact (needs place finding found).trans left.isInfix

namespace TellsFirst

variable {style : ErrorStyle} {front file number message back column word : List Char}

/-- A loud error is found behind the lines in front. -/
theorem find_shouted (tells : TellsFirst .shouted front file number message back) :
    find? (front ++ (ErrorStyle.shouted.write file number message ++ back)) =
      some ⟨number, message⟩ := by
  have read : readShouted? (ErrorStyle.shouted.write file number message ++ back) =
      some ⟨number, message⟩ := by
    have parts : ErrorStyle.shouted.write file number message ++ back =
        "ERROR: ".toList ++ (file ++ ':' :: (number ++ ':' :: ' ' :: (message ++ back))) := by
      delta ErrorStyle.write
      simp
    rw [parts]
    exact read_shouted_append tells.isFile tells.isNumber tells.isMessage tells.ends
  have unread : ∀ place, Within front (ErrorStyle.shouted.write file number message ++ back) place →
      readShouted? place = none := by
    intro place within
    refine Option.eq_none_iff_forall_ne_some.mpr fun finding found => tells.calm ?_
    obtain ⟨rest, split⟩ := shouted_of_read found
    exact (within.mark (by decide) (after_front?_eq_some_iff.mpr split.symm)).2
  rw [find?, find_anywhere_lines tells.lines unread, find_anywhere_here read]

/-- An error with a column is found behind the lines in front. -/
theorem find_columned (tells : TellsFirst (.columned column) front file number message back) :
    find? (front ++ ((ErrorStyle.columned column).write file number message ++ back)) =
      some ⟨number, message⟩ := by
  have read :=
    read_columned_append tells.isFile tells.isNumber tells.sound tells.isMessage tells.ends
  have digit : ∃ c ∈ ((ErrorStyle.columned column).write file number message ++ back).head?,
      isDigit c = true := by
    rw [write_columned]
    exact tells.isFile.head _
  have noShout := unread_of_absent (fun _ _ found => (shouted_of_read found).isInfix) tells.first
  have passed := find_at_line_start_lines (tells.lines.imp_left fun empty => ⟨empty, rfl⟩)
    fun place within => read_columned_within within digit tells.quiet
  rw [find?, find_anywhere_none noShout, passed, find_at_line_start_here read]

/-- An error with a code is found behind the lines in front. -/
theorem find_coded (tells : TellsFirst (.coded word) front file number message back) :
    find? (front ++ ((ErrorStyle.coded word).write file number message ++ back)) =
      some ⟨number, message⟩ := by
  have read := read_coded_append tells.isFile tells.isNumber tells.sound tells.isMessage tells.ends
  have digit : ∃ c ∈ ((ErrorStyle.coded word).write file number message ++ back).head?,
      isDigit c = true := by
    rw [write_coded]
    exact tells.isFile.head _
  have lines := tells.lines.imp_left fun empty => And.intro empty (Eq.refl true)
  have noShout := unread_of_absent (fun _ _ found => (shouted_of_read found).isInfix) tells.first.1
  have noColumn : findAtLineStart? readColumned? true
      (front ++ ((ErrorStyle.coded word).write file number message ++ back)) = none := by
    rw [find_at_line_start_lines lines fun place within =>
      read_columned_within within digit tells.quiet]
    exact find_at_line_start_line
      (one_line_of_coded tells.isFile tells.isNumber tells.sound tells.isMessage)
      (fun _ => read_columned_of_coded tells.isFile)
      (unread_of_absent (fun _ _ found => columned_of_read found) tells.first.2)
  rw [find?, find_anywhere_none noShout, noColumn,
    find_at_line_start_lines lines fun place within => read_coded_within within digit tells.quiet,
    find_at_line_start_here read]

/-- The error is what is found, in every style. -/
theorem find (tells : TellsFirst style front file number message back) :
    find? (front ++ (style.write file number message ++ back)) = some ⟨number, message⟩ := by
  cases style with
  | shouted => exact tells.find_shouted
  | columned column => exact tells.find_columned
  | coded word => exact tells.find_coded

end TellsFirst

/-- Headers and lines that a word with a sign holds do not wrap around. -/
theorem user_line_of_fits {line header : Nat} (lineFits : line < wordLimit 63)
    (headerFits : header < wordLimit 63) : userLine line header = (line : Int) - header := by
  have limit : wordLimit 63 = 9223372036854775808 := by decide
  have words : wordLimit 64 = 18446744073709551616 := by decide
  rw [limit] at lineFits headerFits
  rw [userLine, words]
  exact Int.bmod_eq_of_le (by omega) (by omega)

/-- A line number is one in the digits of ASCII that a word with a sign holds. -/
theorem line_number_eq (digits : List Char) :
    lineNumber? digits =
      if digits.all Char.isDigit ∧ Decimal.readDigits 0 digits < wordLimit 63 then
        some (Decimal.readDigits 0 digits)
      else none := by
  by_cases ascii : digits.all Char.isDigit = true <;> simp [lineNumber?, ascii]

/-- Logs are read as the first error that they tell of.

Whatever the style, whatever whole lines without the words of an error stand in front, and whatever
lines follow, the user is told of the line that the error names, less the header, and of its message
up to the last character that is no blank. A line in the header is told of as well, with zero or a
negative number. If the line number does not fit a word of 64 bits with a sign, the log is kept
whole. -/
theorem first_error_is_read {style : ErrorStyle} {front file number message back : List Char}
    {header : Nat} (tells : TellsFirst style front file number message back)
    (fits : header < wordLimit 63) :
    let log := String.ofList (front ++ (style.write file number message ++ back))
    ofLog log header =
      if number.all Char.isDigit ∧ Decimal.readDigits 0 number < wordLimit 63 then
        .located ((Decimal.readDigits 0 number : Nat) - (header : Int))
          (String.ofList (trimEnd message))
      else .raw log := by
  intro log
  have found : find? log.toList = some ⟨number, message⟩ := by
    rw [String.toList_ofList]
    exact tells.find
  simp only [ofLog, found, line_number_eq]
  by_cases known : number.all Char.isDigit ∧ Decimal.readDigits 0 number < wordLimit 63
  · simp only [if_pos known, user_line_of_fits known.2 fits]
  · simp only [if_neg known]

/-- A warning and an empty line stand in front of an error with a code, and another error
follows. -/
theorem coded_error_is_read :
    let front := "0:3(1): warning: unused variable\n\n".toList
    let message := "undefined variable \"x\" ".toList
    let back := "\n0(21) : error C0000: syntax error\n".toList
    let style := ErrorStyle.coded "C1008".toList
    let log := String.ofList (front ++ (style.write ['0'] ['2', '0'] message ++ back))
    TellsFirst style front ['0'] ['2', '0'] message back ∧ 8 < wordLimit 63 ∧
      ofLog log 8 = .located 12 "undefined variable \"x\"" := by
  intro front message back style log
  have absent {word text : List Char} (missing : holds word text = false) : ¬ word <:+: text := by
    intro stands
    rw [holds_iff.mpr stands] at missing
    cases missing
  have isWord : ∀ c ∈ "C1008".toList, isWordChar c = true :=
    List.all_eq_true.mp (by decide +kernel)
  have newLine : back.head? = some '\n' := by decide +kernel
  have tells : TellsFirst style front ['0'] ['2', '0'] message back :=
    { sound := isWord
      isFile := digit_text_is_number 0
      isNumber := digit_text_is_number 20
      isMessage := ⟨⟨'u', rfl, by decide⟩, by decide⟩
      lines := .inr rfl
      calm := absent (by decide +kernel)
      quiet := absent (by decide +kernel)
      ends := fun c head => (Option.some.inj (newLine.symm.trans head)).symm
      first := ⟨absent (by decide +kernel), absent (by decide +kernel)⟩ }
  have fits : 8 < wordLimit 63 := by decide
  exact ⟨tells, fits, (first_error_is_read tells fits).trans (by decide +kernel)⟩

end LiveShader.Diagnostic
