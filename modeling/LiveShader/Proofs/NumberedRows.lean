import LiveShader.Proofs.DriverLogs
import LiveShader.Proofs.SourceLines
import LiveShader.Shader.Listing
import Mathlib.Data.List.Forall2

/-!
# The rows of a listing

A listing has a row for every line of the wrapped text. The driver counts all of them, the editor
only those that the user wrote, so the two counts differ by the header. The listing takes the number
of the user's lines from the bare source and their texts from the wrapped one. Within the template
every line of the source has a newline behind it, also the last, so the two countings agree for
every source; what they differ in is a carriage return at the very end of the source, which counts
as part of its last line and not of the row, and the empty row behind a source that ends in a
newline.
-/
namespace LiveShader

namespace Text

/-- A text of lines that newlines end, and of what stands behind the last of them. -/
def endedText (ended : List (List Char)) (last : List Char) : List Char :=
  ended.flatMap (· ++ ['\n']) ++ last

/-- Every text is cut at its newlines. -/
theorem exists_ended_text (text : List Char) :
    ∃ ended last, text = endedText ended last ∧ (∀ line ∈ ended, '\n' ∉ line) ∧ '\n' ∉ last := by
  induction text with
  | nil => exact ⟨[], [], rfl, by simp, by simp⟩
  | cons c text induction =>
    obtain ⟨ended, last, rfl, clear, clearLast⟩ := induction
    by_cases newline : c = '\n'
    · exact ⟨[] :: ended, last, by simp [endedText, newline], by simpa using clear, clearLast⟩
    · -- The character joins the first line, whether a newline ends that line or not.
      cases ended with
      | nil => exact ⟨[], c :: last, rfl, by simp, by simp [Ne.symm newline, clearLast]⟩
      | cons first rest =>
        obtain ⟨clearFirst, clearRest⟩ := List.forall_mem_cons.mp clear
        refine ⟨(c :: first) :: rest, last, rfl, ?_, clearLast⟩
        exact List.forall_mem_cons.mpr ⟨by simp [Ne.symm newline, clearFirst], clearRest⟩

/-- The pieces of a text between its newlines. -/
theorem split_on_ended_text {ended : List (List Char)} {last : List Char}
    (clear : ∀ line ∈ ended, '\n' ∉ line) (clearLast : '\n' ∉ last) :
    (endedText ended last).splitOn '\n' = ended ++ [last] := by
  induction ended with
  | nil => exact List.splitOn_eq_singleton clearLast
  | cons first rest induction =>
    obtain ⟨clearFirst, clearRest⟩ := List.forall_mem_cons.mp clear
    have split : endedText (first :: rest) last = first ++ '\n' :: endedText rest last := by
      simp [endedText]
    rw [split, List.splitOn_append_cons_self, List.splitOn_eq_singleton clearFirst,
      induction clearRest]
    rfl

/-- A text without a newline goes on with the line that was begun before, and is empty or one line
if none was. -/
theorem lines_from_one_line {text : List Char} (clear : '\n' ∉ text) (current : List Char) :
    linesFrom current text =
      if current.reverse ++ text = [] then [] else [current.reverse ++ text] := by
  induction text generalizing current with
  | nil => cases current <;> simp [linesFrom]
  | cons c text induction =>
    rw [List.mem_cons, not_or] at clear
    rw [linesFrom, if_neg (Ne.symm clear.1), induction clear.2]
    simp

/-- The lines of a text. What stands behind the last newline is a line if it is not empty, and keeps
its carriage return. -/
theorem lines_ended_text {ended : List (List Char)} {last : List Char}
    (clear : ∀ line ∈ ended, '\n' ∉ line) (clearLast : '\n' ∉ last) :
    lines (endedText ended last) =
      ended.map withoutReturn ++ if last = [] then [] else [last] := by
  induction ended with
  | nil =>
    exact lines_from_one_line clearLast []
  | cons first rest induction =>
    obtain ⟨clearFirst, clearRest⟩ := List.forall_mem_cons.mp clear
    have split : endedText (first :: rest) last = first ++ '\n' :: endedText rest last := by
      simp [endedText]
    rw [split, lines_append, List.splitOn_eq_singleton clearFirst, induction clearRest]
    rfl

/-- A text is empty or ends in a newline just when nothing stands behind its last newline. -/
theorem ended_text_ends {ended : List (List Char)} {last : List Char} (clearLast : '\n' ∉ last) :
    (endedText ended last).getLast?.all (· == '\n') = true ↔ last = [] := by
  rw [Option.all_eq_true]
  constructor
  · intro ends
    refine List.eq_nil_iff_forall_not_mem.mpr fun c member => ?_
    obtain ⟨final, found⟩ := Option.isSome_iff_exists.mp
      (List.getLast?_isSome.mpr (List.ne_nil_of_mem member))
    have newline := beq_iff_eq.mp (ends final (by simp [endedText, found]))
    exact clearLast (newline ▸ List.mem_of_getLast? found)
  · rintro rfl
    induction ended with
    | nil => simp [endedText]
    | cons first rest induction =>
      have split : endedText (first :: rest) [] = first ++ ['\n'] ++ endedText rest [] := by
        simp [endedText]
      rw [split, List.getLast?_append]
      intro c final
      cases behind : (endedText rest []).getLast? with
      | none =>
        rw [behind] at final
        have same : '\n' = c := by simpa using final
        exact beq_iff_eq.mpr same.symm
      | some d =>
        rw [behind] at final
        cases final
        exact induction c behind

/-- What is left of a line without its carriage return was there before. -/
theorem without_return_subset (line : List Char) : withoutReturn line ⊆ line := by
  obtain ⟨returns, whole, -⟩ := exists_append_return line
  intro c member
  rw [whole]
  exact List.mem_append_left _ member

/-- No newline stands in a line. -/
theorem newline_not_mem_lines {text line : List Char} (member : line ∈ lines text) :
    '\n' ∉ line := by
  obtain ⟨ended, last, rfl, clear, clearLast⟩ := exists_ended_text text
  rw [lines_ended_text clear clearLast, List.mem_append] at member
  rcases member with inEnded | isLast
  · obtain ⟨whole, listed, rfl⟩ := List.mem_map.mp inEnded
    exact fun newline => clear whole listed (without_return_subset whole newline)
  · split at isLast
    · cases isLast
    · exact List.mem_singleton.mp isLast ▸ clearLast

end Text

open Text

/-- Whether a row's text is a line, or that line without the carriage return at its end. -/
def ShowsLine (line : List Char) (text : String) : Prop :=
  line = text.toList ∨ line = text.toList ++ ['\r']

/-- A row as it is printed, without its newline. -/
def ListingRow.printed (row : ListingRow) : List Char :=
  padLeft (Decimal.digitText row.driverLine) ++ ' ' ::
    (padLeft ((row.userLine.map Decimal.digitText).getD []) ++ (" | ".toList ++ row.text.toList))

/-- The row at an index has the line at that index, under the next number. -/
theorem number_rows_get (count start : Nat) (texts : List (List Char)) (index : Nat) :
    (numberRows count start texts)[index]? = texts[index]?.map fun line =>
      ⟨start + index, userLine? count (start + index), String.ofList line⟩ := by
  induction texts generalizing start index with
  | nil => rfl
  | cons line rest induction =>
    cases index with
    | zero => rfl
    | succ index =>
      simp only [numberRows, List.getElem?_cons_succ, induction]
      rw [Nat.add_right_comm, Nat.add_assoc]

/-- The rows have the texts of the lines. -/
theorem number_rows_texts (count start : Nat) (texts : List (List Char)) :
    (numberRows count start texts).map (·.text.toList) = texts := by
  induction texts generalizing start with
  | nil => rfl
  | cons line rest induction => simp [numberRows, induction]

/-- The user's number of a row says that the row stands that far behind the header, within the
user's lines. -/
theorem user_line_eq_some_iff {count driverLine user : Nat} :
    userLine? count driverLine = some user ↔
      1 ≤ user ∧ user ≤ count ∧ driverLine = user + headerSize := by
  unfold userLine?
  constructor
  · intro numbered
    rw [Option.ite_none_right_eq_some, Option.some.injEq] at numbered
    omega
  · rintro ⟨first, last, rfl⟩
    rw [if_pos (by omega), Nat.add_sub_cancel]

/-- A printed row begins with blanks and then the number of its line. -/
theorem printed_starts (row : ListingRow) :
    ∃ rest, trimStart row.printed = Decimal.digitText row.driverLine ++ ' ' :: rest := by
  obtain ⟨filled, digits⟩ := Diagnostic.digit_text_is_number row.driverLine
  obtain ⟨first, others, number⟩ := List.exists_cons_of_ne_nil filled
  have visible : isBlank first = false :=
    is_blank_of_is_digit (digits first (number ▸ .head others))
  refine ⟨padLeft ((row.userLine.map Decimal.digitText).getD []) ++
    (" | ".toList ++ row.text.toList), ?_⟩
  have blank : ∀ c ∈ List.replicate (5 - (Decimal.digitText row.driverLine).length) ' ',
      isBlank c = true := by
    intro c member
    rw [List.eq_of_mem_replicate member]
    rfl
  rw [ListingRow.printed, padLeft, List.append_assoc, trimStart,
    List.dropWhile_append_of_pos blank, number, List.cons_append,
    List.dropWhile_cons_of_neg (by simp [visible])]

/-- Padding puts no newline in a text. -/
theorem newline_not_mem_pad_left {text : List Char} (clear : '\n' ∉ text) :
    '\n' ∉ padLeft text := by
  simp [padLeft, clear]

/-- No newline stands in the digits of a number. -/
theorem newline_not_mem_digit_text (n : Nat) : '\n' ∉ Decimal.digitText n :=
  (Diagnostic.digit_text_is_number n).on_one_line

/-- A row is printed on one line if its text is on one line. -/
theorem newline_not_mem_printed {row : ListingRow} (clear : '\n' ∉ row.text.toList) :
    '\n' ∉ row.printed := by
  have user : '\n' ∉ (row.userLine.map Decimal.digitText).getD [] := by
    cases row.userLine with
    | none => exact List.not_mem_nil
    | some line => exact newline_not_mem_digit_text line
  simp [ListingRow.printed, newline_not_mem_pad_left (newline_not_mem_digit_text _),
    newline_not_mem_pad_left user, clear]

/-- A printed listing is its printed rows, each ended by a newline. -/
theorem render_listing_rows (source : String) (dialect : Dialect) :
    (renderListing source dialect).toList.splitOn '\n' =
      (listing source dialect).map ListingRow.printed ++ [[]] := by
  have rows : (renderListing source dialect).toList =
      endedText ((listing source dialect).map ListingRow.printed) [] := by
    simp [renderListing, endedText, String.toList_join, List.flatMap_map, ListingRow.render,
      ListingRow.printed]
  rw [rows]
  refine split_on_ended_text (fun line member => ?_) List.not_mem_nil
  obtain ⟨row, listed, rfl⟩ := List.mem_map.mp member
  have text : row.text.toList ∈ (listing source dialect).map (·.text.toList) :=
    List.mem_map_of_mem listed
  rw [listing, number_rows_texts] at text
  exact newline_not_mem_printed (newline_not_mem_lines text)

/-- A line with what was left of it. -/
theorem shows_line_without_return (line : List Char) :
    ShowsLine line (String.ofList (withoutReturn line)) := by
  obtain ⟨returns, split, none | one⟩ := exists_append_return line
  · rw [none, List.append_nil] at split
    exact .inl (by rw [String.toList_ofList, ← split])
  · exact .inr (by rw [String.toList_ofList, ← one, ← split])

/-- The texts of the rows: the template's lines around those of the source, with an empty one behind
them if the source is empty or ends in a newline. -/
theorem listing_texts (source : String) (dialect : Dialect) :
    ∃ texts, (listing source dialect).map (·.text) = headerLines dialect ++ (texts ++
        ((if source.toList.getLast?.all (· == '\n') then [""] else []) ++ footerLines)) ∧
      List.Forall₂ ShowsLine (lines source.toList) texts := by
  obtain ⟨ended, last, whole, clear, clearLast⟩ := exists_ended_text source.toList
  have rows : (listing source dialect).map (·.text) =
      headerLines dialect ++ ((ended.map fun line => String.ofList (withoutReturn line)) ++
        (String.ofList (withoutReturn last) :: footerLines)) := by
    have pieces := lines_wrap_fragment source dialect
    rw [whole, split_on_ended_text clear clearLast] at pieces
    have texts := congrArg (List.map String.ofList)
      ((number_rows_texts (lines source.toList).length 1
        (lines (wrapFragment source dialect).toList)).trans pieces)
    simpa [listing, Function.comp_def] using texts
  have same (line : List Char) :
      ShowsLine (withoutReturn line) (String.ofList (withoutReturn line)) :=
    .inl (by rw [String.toList_ofList])
  have shown : List.Forall₂ ShowsLine (ended.map withoutReturn)
      (ended.map fun line => String.ofList (withoutReturn line)) := by
    rw [List.forall₂_map_left_iff, List.forall₂_map_right_iff, List.forall₂_same]
    exact fun line _ => same line
  simp only [whole, lines_ended_text clear clearLast, ended_text_ends clearLast, rows]
  by_cases nothing : last = []
  · refine ⟨ended.map fun line => String.ofList (withoutReturn line), ?_, ?_⟩
    · simp [nothing, withoutReturn, dropReturn]
    · simpa [nothing] using shown
  · refine ⟨(ended.map fun line => String.ofList (withoutReturn line)) ++
      [String.ofList (withoutReturn last)], by simp [nothing], ?_⟩
    rw [if_neg nothing]
    exact List.rel_append shown (.cons (shows_line_without_return last) .nil)

/-- A listing numbers its rows as the driver and the diagnostics do.

Every line of the wrapped text has a row, and the rows are printed one on a line, each beginning
with the number under which the driver counts it. A row has a user's number just when it is that
many rows behind the header and the source has that many lines, and its text is then that line of
the source, less at most the carriage return at its end. All other rows are the template's own, save
an empty one behind a source that is empty or ends in a newline. A log whose first error blames a
row with a user's number is told with that number, in every notation; the wrapped text has to have
fewer characters than a word with a sign counts, as every text in memory has. -/
theorem listing_numbers_lines (source : String) (dialect : Dialect) :
    let rows := listing source dialect
    rows.map (·.text.toList) = lines (wrapFragment source dialect).toList ∧
    (renderListing source dialect).toList.splitOn '\n' = rows.map ListingRow.printed ++ [[]] ∧
    (∀ index row, rows[index]? = some row →
      row.driverLine = index + 1 ∧
      (∃ rest, trimStart row.printed = Decimal.digitText (index + 1) ++ ' ' :: rest) ∧
      ∀ user, row.userLine = some user ↔
        1 ≤ user ∧ user ≤ (lines source.toList).length ∧ index + 1 = user + headerSize) ∧
    (∃ texts, rows.map (·.text) = headerLines dialect ++ (texts ++
        ((if source.toList.getLast?.all (· == '\n') then [""] else []) ++ footerLines)) ∧
      List.Forall₂ ShowsLine (lines source.toList) texts) ∧
    ((wrapFragment source dialect).length < wordLimit 63 →
      ∀ row ∈ rows, ∀ user, row.userLine = some user →
      ∀ style front file message back,
        let number := Decimal.digitText row.driverLine
        Diagnostic.TellsFirst style front file number message back →
        Diagnostic.ofLog (String.ofList (front ++ (style.write file number message ++ back)))
          headerSize = .located user (String.ofList (trimEnd message))) := by
  intro rows
  have numbered : ∀ index row, rows[index]? = some row →
      row.driverLine = index + 1 ∧
        row.userLine = userLine? (lines source.toList).length (index + 1) := by
    intro index row found
    obtain ⟨line, -, rfl⟩ :=
      Option.map_eq_some_iff.mp ((number_rows_get _ 1 _ index).symm.trans found)
    rw [Nat.add_comm]
    exact ⟨rfl, rfl⟩
  refine ⟨number_rows_texts _ 1 _, render_listing_rows source dialect, fun index row found => ?_,
    listing_texts source dialect,
    fun fits row member user shown style front file message back => ?_⟩
  · obtain ⟨driver, user⟩ := numbered index row found
    refine ⟨driver, driver ▸ printed_starts row, fun line => ?_⟩
    rw [user]
    exact user_line_eq_some_iff
  · intro number tells
    obtain ⟨index, found⟩ := List.mem_iff_getElem?.mp member
    obtain ⟨driver, numbers⟩ := numbered index row found
    obtain ⟨-, -, place⟩ := user_line_eq_some_iff.mp (numbers.symm.trans shown)
    -- The row is one of the lines of the wrapped text, which has no more lines than characters.
    have within : index < rows.length := (List.getElem?_eq_some_iff.mp found).1
    have rowsOfLines : rows.length = (lines (wrapFragment source dialect).toList).length := by
      simpa [rows, listing] using congrArg List.length (number_rows_texts
        (lines source.toList).length 1 (lines (wrapFragment source dialect).toList))
    have bound := length_lines_le (wrapFragment source dialect).toList
    rw [String.length_toList] at bound
    have counted : row.driverLine = user + headerSize := driver.trans place
    rw [show number = _ from congrArg Decimal.digitText counted] at tells ⊢
    exact Diagnostic.of_log_of_found (by rw [String.toList_ofList, tells.find]) (by omega)

end LiveShader
