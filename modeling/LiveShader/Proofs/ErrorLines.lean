import LiveShader.Headless.Driver
import LiveShader.Proofs.Findings
import LiveShader.Proofs.Rejection
import LiveShader.Proofs.SourceLines

/-!
# Errors at the user's own lines

The driver without a screen stops at the first line of the wrapped text that holds an `#error`. The
template holds none, and a carriage return at the end of a line changes neither whether it holds one
nor what it says, so this is the first such line of the source; and the log that tells of it is read
back as that line, counted in the source, and what it says.
-/
namespace LiveShader

namespace Headless

open Text

/-- Whether a line holds the directive that makes a compiler fail. -/
def HoldsError (line : List Char) : Prop := "#error".toList <:+: line

/-- If a line holds the directive, one of them is the first. -/
theorem exists_first_error {among : List (List Char)} (marked : ∃ line ∈ among, HoldsError line) :
    ∃ before line after, among = before ++ line :: after ∧
      (∀ earlier ∈ before, ¬ HoldsError earlier) ∧ HoldsError line := by
  obtain ⟨line, member, held⟩ := marked
  have some_held : (among.find? (holds "#error".toList)).isSome = true :=
    List.find?_isSome.mpr ⟨line, member, holds_iff.mpr held⟩
  obtain ⟨first, found⟩ := Option.isSome_iff_exists.mp some_held
  obtain ⟨firstHeld, before, after, split, clear⟩ := List.find?_eq_some_iff_append.mp found
  refine ⟨before, first, after, split, ?_, holds_iff.mp firstHeld⟩
  intro earlier early held
  have unheld := clear earlier early
  rw [holds_iff.mpr held] at unheld
  cases unheld

/-- Of lines the first one with an `#error` counts, wherever it stands. -/
theorem first_error_append {before after : List (List Char)} {line : List Char} (number : Nat)
    (clear : ∀ earlier ∈ before, ¬ HoldsError earlier) (marked : HoldsError line) :
    firstError? number (before ++ line :: after) = some (number + before.length, line) := by
  induction before generalizing number with
  | nil =>
    have held : holds "#error".toList line = true := holds_iff.mpr marked
    simp only [List.nil_append, firstError?, held, if_true, List.length_nil, Nat.add_zero]
  | cons earlier before induction =>
    obtain ⟨first, others⟩ := List.forall_mem_cons.mp clear
    have unheld : ¬ holds "#error".toList earlier = true := fun held => first (holds_iff.mp held)
    rw [List.cons_append, firstError?, if_neg unheld, induction (number + 1) others,
      List.length_cons, Nat.add_right_comm, Nat.add_assoc]

/-- The vertex shader holds no `#error`. -/
theorem vertex_source_is_clear (dialect : Dialect) :
    firstError? 1 (lines (vertexSource dialect).toList) = none := by
  have plain : ∀ line ∈ vertexLines dialect, IsPlainLine line := by
    cases dialect <;> simp [vertexLines, IsPlainLine, Dialect.versionLine]
  have split : lines (vertexSource dialect).toList = (vertexLines dialect).map String.toList := by
    simpa [vertexSource, lines, linesFrom] using lines_join_lines plain []
  rw [split]
  cases dialect <;> simp [vertexLines, firstError?, holds, afterFront?, Dialect.versionLine]

/-- The header of a fragment shader holds no `#error`. -/
theorem header_is_clear (dialect : Dialect) :
    ∀ line ∈ (headerLines dialect).map String.toList, ¬ HoldsError line := by
  simp only [HoldsError, ← holds_iff]
  cases dialect <;> simp [headerLines, holds, afterFront?, Dialect.versionLine]

/-- A carriage return at the end of a line is no part of a directive. -/
theorem holds_error_without_return (line : List Char) :
    HoldsError (withoutReturn line) ↔ HoldsError line := by
  obtain ⟨returns, split, kind⟩ := exists_append_return line
  generalize withoutReturn line = front at split ⊢
  subst split
  rcases kind with rfl | rfl
  · rw [List.append_nil]
  · have behind : ¬ "#error".toList <:+ front ++ ['\r'] := by
      rintro ⟨others, split⟩
      have last := congrArg List.getLast? split
      simp at last
    rw [HoldsError, HoldsError, List.infix_concat_iff]
    exact (or_iff_right behind).symm

/-- A carriage return at the end of a line is no part of what the line says. -/
theorem error_text_without_return (line : List Char) :
    errorText (withoutReturn line) = errorText line := by
  obtain ⟨returns, split, kind⟩ := exists_append_return line
  have blank : ∀ c ∈ returns, isBlank c = true := by
    rcases kind with rfl | rfl
    · exact fun c none => nomatch none
    · exact List.forall_mem_singleton.mpr rfl
  have same : trim line = trim (withoutReturn line) := by
    rw [split, trim_append_blanks _ blank, ← split]
  rw [errorText, errorText, same]

/-- What a line says is a stretch of it, so it stays on one line. -/
theorem error_text_one_line {line : List Char} (oneLine : '\n' ∉ line) :
    '\n' ∉ (errorText line).toList := by
  intro member
  rw [errorText, String.toList_ofList] at member
  have directive := (drop_fronts_suffix _ _).subset (trim_subset _ member)
  exact oneLine (trim_subset _ directive)

/-- Of a line with a directive the text behind it is said, without the blanks around it. -/
theorem error_text_of_directive {blanks said : List Char} (blank : ∀ c ∈ blanks, isBlank c = true)
    (once : ¬ "#error".toList <+: said) :
    (errorText (blanks ++ ("#error".toList ++ said))).toList = trim said := by
  have visible : ∀ c ∈ "#error".toList, isBlank c = false := by simp [isBlank]
  obtain ⟨behind, dropped, split⟩ := exists_trim_end_append said
  have cut : trim (blanks ++ ("#error".toList ++ said)) = "#error".toList ++ trimEnd said := by
    rw [trim, trimStart, (span_append blank _).2, trim_end_append visible]
    intro c head
    cases head
    rfl
  have single : ¬ "#error".toList <+: trimEnd said := by
    intro again
    exact once (again.trans ⟨behind, split.symm⟩)
  rw [errorText, cut, drop_fronts_append (by decide) single]
  have whole : trim said = trim (trimEnd said) := by
    rw [split, trim_append_blanks _ dropped, ← split]
  rw [whole]
  exact String.toList_ofList

/-- The message of a log: the name of the directive, and what it says, up to the last character
that is no blank. -/
def errorMessage (line : List Char) : String :=
  String.ofList (trimEnd ("'#error' : ".toList ++ (errorText line).toList))

example : errorMessage "  #error missing semicolon \r".toList = "'#error' : missing semicolon" := by
  decide +kernel

/-- The first line of a log has its place and its message; a second one repeats the place. -/
theorem to_list_error_log (number : Nat) (line : List Char) :
    (errorLog number line).toList =
      "ERROR: ".toList ++ (['0'] ++ ':' :: (Decimal.digitText number ++ ':' :: ' ' ::
        ("'#error' : ".toList ++ (errorText line).toList ++
          '\n' :: ("ERROR: 0:".toList ++ Decimal.digitText number ++
            ": '' : compilation terminated\n".toList)))) := by
  delta errorLog
  simp

/-- The log of a line is read back as the line and its message. -/
theorem of_log_error_log {number header : Nat} {line : List Char} (oneLine : '\n' ∉ line)
    (fits : number + header < wordLimit 63) :
    Diagnostic.ofLog (errorLog (number + header) line) header =
      .located number (errorMessage line) := by
  have isFile : Diagnostic.IsNumber ['0'] := Diagnostic.digit_text_is_number 0
  have isMessage : Diagnostic.IsMessage ("'#error' : ".toList ++ (errorText line).toList) := by
    refine ⟨⟨'\'', rfl, by decide⟩, ?_⟩
    rw [List.mem_append, not_or]
    exact ⟨by decide, error_text_one_line oneLine⟩
  refine Diagnostic.of_log_of_shouted ?_ fits
  rw [to_list_error_log]
  refine Diagnostic.read_shouted_append isFile (Diagnostic.digit_text_is_number _) isMessage ?_
  intro c head
  cases head
  rfl

/-- A text without an `#error` compiles. -/
theorem compile_stage_of_clear {source : String}
    (clear : firstError? 1 (lines source.toList) = none) (memory : Memory) :
    ∃ handle after, compileStage source memory = (.ok handle, after) := by
  simp only [compileStage, clear]
  exact ⟨_, _, rfl⟩

/-- A text with an `#error` in a line does not compile. -/
theorem compile_stage_of_error {source : String} {before after : List (List Char)}
    {line : List Char}
    (split : lines source.toList = before ++ line :: after)
    (clear : ∀ earlier ∈ before, ¬ HoldsError earlier) (marked : HoldsError line)
    (memory : Memory) :
    compileStage source memory = (.error (errorLog (1 + before.length) line), memory) := by
  simp only [compileStage, split, first_error_append 1 clear marked]

/-- The lines of a wrapped source around one that is the source's own. -/
theorem lines_around {source : String} {before after : List (List Char)} {line : List Char}
    (split : source.toList.splitOn '\n' = before ++ line :: after) (dialect : Dialect) :
    lines (wrapFragment source dialect).toList =
      ((headerLines dialect).map String.toList ++ before.map withoutReturn) ++
        withoutReturn line :: (after.map withoutReturn ++ footerLines.map String.toList) := by
  rw [lines_wrap_fragment, split]
  simp

/-- The line of the source that the driver stops at has no more numbers before it than the wrapped
text has characters. -/
theorem number_le_length {source : String} {before after : List (List Char)} {line : List Char}
    (split : source.toList.splitOn '\n' = before ++ line :: after) (dialect : Dialect) :
    before.length + 1 + headerSize ≤ (wrapFragment source dialect).length := by
  have bound := length_lines_le (wrapFragment source dialect).toList
  rw [lines_around split, String.length_toList] at bound
  simp only [List.length_append, List.length_map, List.length_cons, length_header_lines] at bound
  omega

/-- A source with an `#error` in a line fails to build, in the second of the two stages. -/
theorem build_of_error {State : Type} (canvas : Canvas State) {source : String}
    {before after : List (List Char)} {line : List Char}
    (split : source.toList.splitOn '\n' = before ++ line :: after)
    (clear : ∀ earlier ∈ before, ¬ HoldsError earlier) (marked : HoldsError line)
    (dialect : Dialect) (state : Memory × State) :
    ∃ failed, (Rig.pair driver canvas).driver.build (vertexSource dialect)
        (wrapFragment source dialect) state =
      (.error (.compile .fragment (errorLog (before.length + 1 + headerSize) (withoutReturn line))),
        failed) := by
  obtain ⟨vertex, compiled, vertexStep⟩ :=
    compile_stage_of_clear (vertex_source_is_clear dialect) state.1
  have allClear : ∀ earlier ∈ (headerLines dialect).map String.toList ++ before.map withoutReturn,
      ¬ HoldsError earlier := by
    intro earlier member
    rcases List.mem_append.mp member with header | own
    · exact header_is_clear dialect earlier header
    · obtain ⟨piece, piece_member, rfl⟩ := List.mem_map.mp own
      exact fun held => clear piece piece_member ((holds_error_without_return piece).mp held)
  have fragmentStep := compile_stage_of_error (lines_around split dialect) allClear
    ((holds_error_without_return line).mpr marked) compiled
  have number : 1 + ((headerLines dialect).map String.toList ++ before.map withoutReturn).length =
      before.length + 1 + headerSize := by
    simp only [List.length_append, List.length_map, length_header_lines]
    omega
  rw [number] at fragmentStep
  simp only [Driver.build, Rig.pair, Driver.lift, driver, vertexStep, fragmentStep]
  exact ⟨_, rfl⟩

end Headless

open Headless Text

/-- Errors point at the user's own lines.

Whatever the dialect and whatever has happened before, a source with an `#error` in one of its lines
is rejected, and the user is told of the first such line: by its number, counted in the source from
one, and with the name of the directive and what the line says, up to the last character that is no
blank. Where nothing but blanks stands before the directive, the text behind it is what the line
says. A text in memory has fewer than `2 ^ 63` characters, and so must the wrapped source. -/
theorem error_line_is_located {State : Type} (canvas : Canvas State)
    (session : Session Headless.handles (Memory × State)) (source document : String)
    (fits : (wrapFragment source session.options.dialect).length < wordLimit 63)
    (marked : ∃ line ∈ source.toList.splitOn '\n', HoldsError line) :
    let result := session.eval (Rig.pair driver canvas) source document
    ∃ before line after,
      source.toList.splitOn '\n' = before ++ line :: after ∧
      (∀ earlier ∈ before, ¬ HoldsError earlier) ∧ HoldsError line ∧
      result.1 = .rejected ∧
      result.2.rejections = session.rejections ++
        [(.located (before.length + 1 : Nat) (errorMessage line), document)] ∧
      ∀ blanks said, (∀ c ∈ blanks, isBlank c = true) → ¬ "#error".toList <+: said →
        line = blanks ++ ("#error".toList ++ said) →
        errorMessage line = String.ofList (trimEnd ("'#error' : ".toList ++ trim said)) := by
  intro result
  obtain ⟨before, line, after, split, clear, held⟩ := exists_first_error marked
  have oneLine : '\n' ∉ withoutReturn line := by
    obtain ⟨returns, whole, -⟩ := exists_append_return line
    intro newline
    have member : line ∈ source.toList.splitOn '\n' := by simp [split]
    exact newline_not_mem_split_on member (whole ▸ List.mem_append_left returns newline)
  obtain ⟨failed, built⟩ :=
    build_of_error canvas split clear held session.options.dialect session.state
  have told : Diagnostic.ofLog
      (errorLog (before.length + 1 + headerSize) (withoutReturn line)) headerSize =
        .located (before.length + 1 : Nat) (errorMessage line) := by
    rw [of_log_error_log oneLine (Nat.lt_of_le_of_lt (number_le_length split _) fits), errorMessage,
      error_text_without_return, ← errorMessage]
  have ends : Evaluated (Rig.pair driver canvas) session source document _ :=
    .unbuilt _ failed built
  have evaluated : result = _ := ends.decides
  rw [BuildError.log, told] at evaluated
  refine ⟨before, line, after, split, clear, held, congrArg Prod.fst evaluated, ?_, ?_⟩
  · rw [evaluated]
    refine (note_rejections _ _).trans (congrArg (· ++ _) ?_)
    exact (note_rejections _ _).trans (List.append_nil _)
  · rintro blanks said blank once rfl
    rw [errorMessage, error_text_of_directive blank once]

/-- A session without a shader over the driver without a screen. -/
def blankSession (dialect : Dialect) : Session Headless.handles (Memory × Surface) :=
  Session.start rig { SessionOptions.standard with dialect } (.stepped 0 1)
    (.initial, .sized ⟨8, 6⟩)

/-- A source whose second line has an `#error`, and ends in a carriage return. -/
def missingSemicolon : String := "void mainImage() {}\n  #error missing semicolon \r\n"

/-- The second line of the source is the one that the user is told of. -/
theorem missing_semicolon_is_located :
    (wrapFragment missingSemicolon .glsl330).length < wordLimit 63 ∧
    (∃ line ∈ missingSemicolon.toList.splitOn '\n', HoldsError line) ∧
    let result := (blankSession .glsl330).eval rig missingSemicolon "document"
    ∃ before line after,
      missingSemicolon.toList.splitOn '\n' = before ++ line :: after ∧
      (∀ earlier ∈ before, ¬ HoldsError earlier) ∧ HoldsError line ∧
      result.1 = .rejected ∧
      result.2.rejections = [] ++
        [(.located (before.length + 1 : Nat) (errorMessage line), "document")] ∧
      ∀ blanks said, (∀ c ∈ blanks, isBlank c = true) → ¬ "#error".toList <+: said →
        line = blanks ++ ("#error".toList ++ said) →
        errorMessage line = String.ofList (trimEnd ("'#error' : ".toList ++ trim said)) := by
  have fits : (wrapFragment missingSemicolon .glsl330).length < wordLimit 63 := by
    simp only [wrapFragment, String.length_append]
    decide +kernel
  have marked : ∃ line ∈ missingSemicolon.toList.splitOn '\n', HoldsError line := by
    refine ⟨"  #error missing semicolon \r".toList, by decide +kernel, ?_⟩
    exact holds_iff.mp (by decide +kernel)
  exact ⟨fits, marked, error_line_is_located canvas (blankSession .glsl330) missingSemicolon
    "document" fits marked⟩

end LiveShader
