import LiveShader.Shader.Template
import LiveShader.Text.Lines

/-!
# The lines of a wrapped source

A source stands in its template as a whole, behind eight lines and with a newline of its own, so
the lines of the wrapped text are those of the header, the pieces of the source between its
newlines, and those of the footer. A line is such a piece without the one carriage return at its
end; nothing else of the source is lost, whether it ends in a newline, is empty, or holds carriage
returns elsewhere.
-/
namespace LiveShader

namespace Text

/-- A line without the one carriage return that stands at its end. -/
def withoutReturn (line : List Char) : List Char := (dropReturn line.reverse).reverse

/-- A line that does not end in a carriage return stays whole. -/
theorem without_return_of_unreturned {line : List Char} (unreturned : line.getLast? ≠ some '\r') :
    withoutReturn line = line := by
  unfold withoutReturn
  rw [← List.head?_reverse] at unreturned
  generalize reversed : line.reverse = letters at unreturned ⊢
  have whole : dropReturn letters = letters := by
    cases letters with
    | nil => rfl
    | cons c rest =>
      unfold dropReturn
      split
      · rename_i same
        cases same
        exact absurd rfl unreturned
      · rfl
  rw [whole, ← reversed, List.reverse_reverse]

/-- A line is what it is without the carriage return, with at most one of them behind it. -/
theorem exists_append_return (line : List Char) :
    ∃ returns, line = withoutReturn line ++ returns ∧ (returns = [] ∨ returns = ['\r']) := by
  by_cases returned : line.getLast? = some '\r'
  · obtain ⟨front, rfl⟩ := List.getLast?_eq_some_iff.mp returned
    exact ⟨['\r'], by simp [withoutReturn, dropReturn], .inr rfl⟩
  · exact ⟨[], by simp [without_return_of_unreturned returned], .inl rfl⟩

/-- The pieces of a text between its newlines hold no newline. -/
theorem newline_not_mem_split_on {text piece : List Char} (member : piece ∈ text.splitOn '\n') :
    '\n' ∉ piece := by
  induction text generalizing piece with
  | nil =>
    cases List.mem_singleton.mp member
    exact List.not_mem_nil
  | cons c text induction =>
    obtain ⟨first, others, split⟩ := List.exists_cons_of_ne_nil (List.splitOn_ne_nil '\n' text)
    rw [List.splitOn_cons_eq_if_modifyHead] at member
    rw [split] at member induction
    obtain ⟨firstClear, othersClear⟩ :=
      List.forall_mem_cons.mp fun piece (member : piece ∈ first :: others) => induction member
    by_cases newline : c = '\n'
    · rw [if_pos (beq_iff_eq.mpr newline)] at member
      rcases List.mem_cons.mp member with rfl | behind
      · exact List.not_mem_nil
      · exact induction behind
    · rw [if_neg (by simpa using newline), List.modifyHead_cons] at member
      rcases List.mem_cons.mp member with rfl | behind
      · exact List.not_mem_cons_of_ne_of_not_mem (Ne.symm newline) firstClear
      · exact othersClear piece behind

/-- Where no line was begun before, the pieces stay as they are. -/
theorem modify_head_unbegun (pieces : List (List Char)) :
    pieces.modifyHead ([].reverse ++ ·) = pieces :=
  congrFun List.modifyHead_id pieces

/-- A text that a newline ends has one line for each piece between its newlines. The first of the
pieces goes on with the line that was begun before. -/
theorem lines_from_append (current text rest : List Char) :
    linesFrom current (text ++ '\n' :: rest) =
      ((text.splitOn '\n').modifyHead (current.reverse ++ ·)).map withoutReturn ++ lines rest := by
  induction text generalizing current with
  | nil => simp [linesFrom, lines, withoutReturn]
  | cons c text induction =>
    rw [List.cons_append, List.splitOn_cons_eq_if_modifyHead, linesFrom]
    by_cases newline : c = '\n'
    · rw [if_pos newline, if_pos (beq_iff_eq.mpr newline), induction]
      rw [modify_head_unbegun]
      simp [withoutReturn]
    · rw [if_neg newline, if_neg (by simpa using newline), induction, List.modifyHead_modifyHead]
      have begun : ((fun piece => current.reverse ++ piece) ∘ List.cons c) =
          fun piece => (c :: current).reverse ++ piece := by
        funext piece
        simp
      rw [begun]

/-- The lines of a text that a newline ends are the pieces between its newlines, without the
carriage returns at their ends. -/
theorem lines_append (text rest : List Char) :
    lines (text ++ '\n' :: rest) = (text.splitOn '\n').map withoutReturn ++ lines rest := by
  rw [lines, lines_from_append, modify_head_unbegun]

/-- A text has no more lines than characters. -/
theorem length_lines_le (text : List Char) : (lines text).length ≤ text.length := by
  have bound (current text : List Char) :
      (linesFrom current text).length ≤ text.length + if current.isEmpty then 0 else 1 := by
    induction text generalizing current with
    | nil => cases current <;> simp [linesFrom]
    | cons c rest induction =>
      rw [linesFrom]
      split
      · have behind := induction []
        simp only [List.isEmpty_nil, if_true, List.length_cons] at behind ⊢
        omega
      · have behind := induction (c :: current)
        simp only [List.isEmpty_cons, Bool.false_eq_true, if_false, List.length_cons] at behind ⊢
        omega
  simpa [lines] using bound [] text

end Text

open Text

/-- Whether a text is a line as a template has them: without a newline, and not ending in a carriage
return. -/
def IsPlainLine (line : String) : Prop :=
  '\n' ∉ line.toList ∧ line.toList.getLast? ≠ some '\r'

/-- Lines that were joined come apart again. -/
theorem lines_join_lines {joined : List String} (plain : ∀ line ∈ joined, IsPlainLine line)
    (rest : List Char) :
    lines ((joinLines joined).toList ++ rest) = joined.map String.toList ++ lines rest := by
  induction joined with
  | nil => simp [joinLines]
  | cons line joined induction =>
    obtain ⟨⟨newline, unreturned⟩, plain⟩ := List.forall_mem_cons.mp plain
    have split : (joinLines (line :: joined)).toList ++ rest =
        line.toList ++ '\n' :: ((joinLines joined).toList ++ rest) := by
      simp [joinLines, String.toList_join]
    rw [split, lines_append, List.splitOn_eq_singleton newline, induction plain]
    simp [without_return_of_unreturned unreturned]

/-- No line of the header has a newline or a carriage return in it, so that the lines of the wrapped
text begin with exactly these. -/
theorem header_is_plain (dialect : Dialect) : ∀ line ∈ headerLines dialect, IsPlainLine line := by
  cases dialect <;> simp [headerLines, IsPlainLine, Dialect.versionLine]

/-- No line of the footer has a newline or a carriage return in it. -/
theorem footer_is_plain : ∀ line ∈ footerLines, IsPlainLine line := by
  simp [footerLines, IsPlainLine]

/-- The lines of a wrapped source: the header's, the source's and the footer's. -/
theorem lines_wrap_fragment (source : String) (dialect : Dialect) :
    lines (wrapFragment source dialect).toList =
      (headerLines dialect).map String.toList ++
        ((source.toList.splitOn '\n').map withoutReturn ++ footerLines.map String.toList) := by
  have wrapped : (wrapFragment source dialect).toList =
      (joinLines (headerLines dialect)).toList ++
        (source.toList ++ '\n' :: ((joinLines footerLines).toList ++ [])) := by
    simp [wrapFragment]
  rw [wrapped, lines_join_lines (header_is_plain dialect), lines_append,
    lines_join_lines footer_is_plain]
  rfl

end LiveShader
