import LiveShader.Proofs.Addresses
import LiveShader.Proofs.PrintedNumbers

/-!
# Commands written as lines

A command of the host can be written as a line of the console: a verb, the component by name and
index, and the numbers as replies print them. The line is read as the command, whatever blanks are
typed around its words, as long as the name is one that a line can hold and the numbers are such as
the console accepts. Lines that are read as commands may look different. They may leave out an
index, write one with a plus or with zeros in front, and write numbers with exponents or with more
digits than a value has. But the commands they give are again among those that can be written, so
writing the command and reading it again leaves it as it was.
-/
namespace LiveShader

namespace Text

/-- Whether a text is made of words with blanks around them, and at least one blank between two of
them. -/
inductive Spaced : List (List Char) → List Char → Prop where
  | blanks {front : List Char} (blank : ∀ c ∈ front, isBlank c = true) : Spaced [] front
  | last {front : List Char} (blank : ∀ c ∈ front, isBlank c = true) (word : List Char) :
      Spaced [word] (front ++ word)
  | more {front : List Char} (blank : ∀ c ∈ front, isBlank c = true) (word : List Char)
      {between : Char} (apart : isBlank between = true) {words : List (List Char)}
      {rest : List Char} (spaced : Spaced words rest) :
      Spaced (word :: words) (front ++ (word ++ between :: rest))

/-- The words of a text that is made of them. -/
theorem words_of_spaced {parts : List (List Char)} {text : List Char} (spaced : Spaced parts text)
    (areWords : ∀ word ∈ parts, IsWord word) : words text = parts := by
  induction spaced with
  | blanks blank =>
    have nothing := words_blanks blank []
    rwa [List.append_nil] at nothing
  | last blank word =>
    obtain ⟨filled, visible⟩ := areWords word (.head _)
    rw [words_blanks blank, words_of_visible filled visible]
  | more blank word apart spaced induction =>
    obtain ⟨⟨filled, visible⟩, others⟩ := List.forall_mem_cons.mp areWords
    rw [words_blanks blank, words_append filled visible apart, induction others]

end Text

namespace Console

open Text

/-- The verb of a change. -/
def editVerb : Edit Formula → String
  | .set _ => "set"
  | .increment _ => "incr"
  | .animate (.approach _ _) => "ease"
  | .animate (.decay _) => "decay"
  | .animate (.ramp _) => "ramp"
  | .clear => "clear"

/-- The numbers of a change, in the order of its line. -/
def editNumbers : Edit Formula → List Float32
  | .set value => [value]
  | .increment delta => [delta]
  | .animate (.approach target rate) => [target, rate]
  | .animate (.decay rate) => [rate]
  | .animate (.ramp speed) => [speed]
  | .clear => []

/-- The number of a change that is a rate. -/
def editRate? : Edit Formula → Option Float32
  | .animate (.approach _ rate) => some rate
  | .animate (.decay rate) => some rate
  | _ => none

/-- The words of the line that a command is written as: the verb, the component, and the numbers as
replies print them. -/
def commandWords : Command → List String
  | .change name index edit =>
    editVerb edit :: componentAddress name index ::
      (editNumbers edit).map Decimal.Layout.plain.single
  | .get name index => ["get", componentAddress name index]
  | .dump => ["dump"]

/-- The line that a command is written as. -/
def commandLine (command : Command) : String := " ".intercalate (commandWords command)

/-- Whether a component can be typed: the name is not empty and has neither blanks nor brackets that
open, and the index fits a word. -/
structure IsTypableTarget (name : String) (index : Nat) : Prop where
  filled : name ≠ ""
  visible : ∀ c ∈ name.toList, isBlank c = false
  plain : '[' ∉ name.toList
  fits : index < wordLimit 64

/-- Whether a change can be typed: its numbers are finite, and its rate is not below zero. -/
structure IsTypableEdit (edit : Edit Formula) : Prop where
  finite : ∀ number ∈ editNumbers edit, number.isFinite = true
  rate : ∀ rate ∈ editRate? edit, ¬ rate < 0

/-- Whether a command can be typed. -/
def IsTypable : Command → Prop
  | .change name index edit => IsTypableTarget name index ∧ IsTypableEdit edit
  | .get name index => IsTypableTarget name index
  | .dump => True

/-- The words that numbers are read from. -/
def ReadsNumbers (words : List (List Char)) (numbers : List Float32) : Prop :=
  List.Forall₂ (fun word number => readNumber word = .ok number) words numbers

/-- What a verb and its arguments are read as. -/
inductive Reads : String → List (List Char) → Command → Prop where
  | change (edit : Edit Formula) {target words name index}
      (named : readTarget target = .ok (name, index))
      (numbers : ReadsNumbers words (editNumbers edit))
      (rate : ∀ rate ∈ editRate? edit, ¬ rate < 0) :
      Reads (editVerb edit) (target :: words) (.change name index edit)
  | get {target name index} (named : readTarget target = .ok (name, index)) :
      Reads "get" [target] (.get name index)
  | dump : Reads "dump" [] .dump

/-! ### The verbs -/

/-- What a step gives that follows another. -/
theorem bind_eq_ok {α β : Type} {first : Except LineError α} {next : α → Except LineError β}
    {result : β} :
    first >>= next = .ok result ↔ ∃ value, first = .ok value ∧ next value = .ok result := by
  cases first with
  | error fault => simp [bind, Except.bind]
  | ok value => simp [bind, Except.bind]

/-- A rate is a number that is not below zero. -/
theorem read_rate_iff {word : List Char} {rate : Float32} :
    readRate word = .ok rate ↔ readNumber word = .ok rate ∧ ¬ rate < 0 := by
  unfold readRate
  rw [bind_eq_ok]
  constructor
  · rintro ⟨value, number, read⟩
    split at read
    · cases read
    · rename_i notBelow
      cases read
      exact ⟨number, notBelow⟩
  · rintro ⟨number, notBelow⟩
    exact ⟨rate, number, if_neg notBelow⟩

/-- What is read from a verb and its arguments is a command that they stand for. -/
theorem reads_of_read_words {verb : String} {arguments : List (List Char)} {command : Command}
    (read : readWords verb arguments = .ok (.uniform command)) : Reads verb arguments command := by
  have noRate {edit : Edit Formula} (none : editRate? edit = none) :
      ∀ rate ∈ editRate? edit, ¬ rate < 0 := by
    simp [none]
  unfold readWords at read
  split at read
  · cases read
    exact .dump
  · cases read
  · cases read
  · cases read
  · obtain ⟨⟨name, index⟩, named, read⟩ := bind_eq_ok.mp read
    obtain ⟨value, number, read⟩ := bind_eq_ok.mp read
    cases read
    exact .change (.set value) named (.cons number .nil) (noRate rfl)
  · obtain ⟨⟨name, index⟩, named, read⟩ := bind_eq_ok.mp read
    obtain ⟨delta, number, read⟩ := bind_eq_ok.mp read
    cases read
    exact .change (.increment delta) named (.cons number .nil) (noRate rfl)
  · obtain ⟨goal, number, read⟩ := bind_eq_ok.mp read
    obtain ⟨rate, rated, read⟩ := bind_eq_ok.mp read
    obtain ⟨⟨name, index⟩, named, read⟩ := bind_eq_ok.mp read
    obtain ⟨rateNumber, notBelow⟩ := read_rate_iff.mp rated
    cases read
    exact .change (.animate (.approach goal rate)) named
      (.cons number (.cons rateNumber .nil)) (by simpa [editRate?] using notBelow)
  · obtain ⟨rate, rated, read⟩ := bind_eq_ok.mp read
    obtain ⟨⟨name, index⟩, named, read⟩ := bind_eq_ok.mp read
    obtain ⟨rateNumber, notBelow⟩ := read_rate_iff.mp rated
    cases read
    exact .change (.animate (.decay rate)) named (.cons rateNumber .nil)
      (by simpa [editRate?] using notBelow)
  · obtain ⟨speed, number, read⟩ := bind_eq_ok.mp read
    obtain ⟨⟨name, index⟩, named, read⟩ := bind_eq_ok.mp read
    cases read
    exact .change (.animate (.ramp speed)) named (.cons number .nil) (noRate rfl)
  · obtain ⟨⟨name, index⟩, named, read⟩ := bind_eq_ok.mp read
    cases read
    exact .change .clear named .nil (noRate rfl)
  · obtain ⟨⟨name, index⟩, named, read⟩ := bind_eq_ok.mp read
    cases read
    exact .get named
  · cases read

/-- A verb and its arguments are read as the command that they stand for. -/
theorem Reads.are_read {verb : String} {arguments : List (List Char)} {command : Command}
    (reads : Reads verb arguments command) :
    readWords verb arguments = .ok (.uniform command) := by
  cases reads with
  | dump => rfl
  | get named =>
    simp only [Console.readWords, named]
    rfl
  | change edit named numbers rate =>
    cases edit with
    | set value =>
      obtain _ | ⟨number, _ | _⟩ := numbers
      simp only [editVerb, Console.readWords, named, number]
      rfl
    | increment delta =>
      obtain _ | ⟨number, _ | _⟩ := numbers
      simp only [editVerb, Console.readWords, named, number]
      rfl
    | clear =>
      obtain _ | _ := numbers
      simp only [editVerb, Console.readWords, changeTarget, named]
      rfl
    | animate modifier =>
      cases modifier with
      | approach goal speed =>
        obtain _ | ⟨number, _ | ⟨rateNumber, _ | _⟩⟩ := numbers
        have rated := read_rate_iff.mpr ⟨rateNumber, rate speed rfl⟩
        simp only [editVerb, Console.readWords, changeTarget, named, number, rated]
        rfl
      | decay speed =>
        obtain _ | ⟨rateNumber, _ | _⟩ := numbers
        have rated := read_rate_iff.mpr ⟨rateNumber, rate speed rfl⟩
        simp only [editVerb, Console.readWords, changeTarget, named, rated]
        rfl
      | ramp speed =>
        obtain _ | ⟨number, _ | _⟩ := numbers
        simp only [editVerb, Console.readWords, changeTarget, named, number]
        rfl

/-! ### The components and the numbers -/

/-- A component that can be typed is named by its address. -/
theorem read_target_of_typable {name : String} {index : Nat}
    (typable : IsTypableTarget name index) :
    readTarget (componentAddress name index).toList = .ok (name, index) := by
  rw [read_target_address typable.fits, if_neg typable.plain, if_neg typable.filled]

/-- An index that is read fits a word. -/
theorem read_index_lt {text : List Char} {index : Nat} (read : readIndex? text = some index) :
    index < wordLimit 64 := by
  simp only [readIndex?, Option.ite_none_left_eq_some, Option.ite_none_right_eq_some,
    Option.some.injEq] at read
  obtain ⟨-, fits, rfl⟩ := read
  exact fits

/-- What a word names can be typed. -/
theorem is_typable_of_read_target {word : List Char} {name : String} {index : Nat}
    (isWord : IsWord word) (named : readTarget word = .ok (name, index)) :
    IsTypableTarget name index := by
  have parts : ∃ front number, '[' ∉ front ∧ front ⊆ word ∧ number < wordLimit 64 ∧
      (if front.isEmpty then .error .emptyName else .ok (String.ofList front, number) :
        Except LineError (String × Nat)) = .ok (name, index) := by
    unfold readTarget at named
    dsimp only at named
    split at named
    · rename_i unsplit
      exact ⟨word, 0, split_at_mark?_eq_none.mp unsplit, List.Subset.refl _, by decide, named⟩
    · rename_i front rest split
      obtain ⟨rfl, absent⟩ := split_at_mark?_eq_some split
      split at named
      · cases named
      · split at named
        · cases named
        · rename_i number known
          exact ⟨front, number, absent, List.subset_append_left _ _, read_index_lt known, named⟩
  obtain ⟨front, number, plain, inWord, fits, read⟩ := parts
  split at read
  · cases read
  · rename_i filled
    cases read
    refine ⟨by simpa using filled, ?_, by rwa [String.toList_ofList], fits⟩
    rw [String.toList_ofList]
    exact fun c member => isWord.2 c (inWord member)

/-- Numbers that are read are finite. -/
theorem ReadsNumbers.finite {words : List (List Char)} {numbers : List Float32}
    (read : ReadsNumbers words numbers) : ∀ number ∈ numbers, number.isFinite = true := by
  induction read with
  | nil => exact List.forall_mem_nil _
  | cons number others induction =>
    exact List.forall_mem_cons.mpr ⟨is_finite_of_read_number number, induction⟩

/-- Finite numbers are read back from their texts. -/
theorem reads_numbers_printed {numbers : List Float32}
    (finite : ∀ number ∈ numbers, number.isFinite = true) :
    ReadsNumbers ((numbers.map Decimal.Layout.plain.single).map String.toList) numbers := by
  induction numbers with
  | nil => exact .nil
  | cons number others induction =>
    obtain ⟨first, rest⟩ := List.forall_mem_cons.mp finite
    exact .cons (read_number_single first) (induction rest)

/-- What is read can be typed. -/
theorem Reads.is_typable {verb : String} {arguments : List (List Char)} {command : Command}
    (reads : Reads verb arguments command) (areWords : ∀ word ∈ arguments, IsWord word) :
    IsTypable command := by
  cases reads with
  | change edit named numbers rate =>
    exact ⟨is_typable_of_read_target (areWords _ (.head _)) named, numbers.finite, rate⟩
  | get named => exact is_typable_of_read_target (areWords _ (.head _)) named
  | dump => trivial

/-! ### The lines -/

/-- The verbs are words, and start no remark. -/
theorem is_word_verb : ∀ verb ∈ verbs, IsWord verb.toList ∧ verb.toList.head? ≠ some '#' := by
  simp [verbs, IsWord, isBlank]

/-- The verb of a command is one of the verbs. -/
theorem Reads.verb_mem {verb : String} {arguments : List (List Char)} {command : Command}
    (reads : Reads verb arguments command) : verb ∈ verbs := by
  cases reads with
  | change edit named numbers rate =>
    unfold editVerb
    split <;> simp [verbs]
  | get named => simp [verbs]
  | dump => simp [verbs]

/-- The address of a typable component is one word of the line: it has no blanks, and it is not
empty since it has brackets. -/
theorem is_word_address {name : String} {index : Nat} (typable : IsTypableTarget name index) :
    IsWord (componentAddress name index).toList := by
  refine ⟨?_, component_address_visible typable.visible index⟩
  rw [to_list_component_address]
  simp

/-- The words of the line of a command that can be typed are words, and are read as the command. -/
theorem command_words_read {command : Command} (typable : IsTypable command) :
    ∃ verb arguments, commandWords command = verb :: arguments ∧
      (∀ word ∈ arguments, IsWord word.toList) ∧
      Reads verb (arguments.map String.toList) command := by
  cases command with
  | change name index edit =>
    obtain ⟨target, finite, rate⟩ := typable
    refine ⟨editVerb edit, _, rfl, ?_,
      .change edit (read_target_of_typable target) (reads_numbers_printed finite) rate⟩
    refine List.forall_mem_cons.mpr ⟨is_word_address target, ?_⟩
    exact List.forall_mem_map.mpr fun number member => is_word_single (finite number member)
  | get name index =>
    exact ⟨"get", _, rfl, List.forall_mem_singleton.mpr (is_word_address typable),
      .get (read_target_of_typable typable)⟩
  | dump => exact ⟨"dump", [], rfl, List.forall_mem_nil _, .dump⟩

/-- A line with the words of a command that can be typed is read as the command. -/
theorem read_line_of_spaced {command : Command} (typable : IsTypable command) {line : String}
    (spaced : Spaced ((commandWords command).map String.toList) line.toList) :
    readLine line = .ok (some (.uniform command)) := by
  obtain ⟨verb, arguments, split, areWords, reads⟩ := command_words_read typable
  obtain ⟨verbIsWord, noRemark⟩ := is_word_verb verb reads.verb_mem
  rw [split, List.map_cons] at spaced
  have divided : words line.toList = verb.toList :: arguments.map String.toList := by
    refine words_of_spaced spaced (List.forall_mem_cons.mpr ⟨verbIsWord, ?_⟩)
    exact List.forall_mem_map.mpr areWords
  rw [readLine, divided]
  simp only [if_neg noRemark, String.ofList_toList, reads.are_read]
  rfl

/-- Words that are joined by spaces have blanks between. -/
theorem spaced_intercalate (parts : List String) :
    Spaced (parts.map String.toList) (" ".intercalate parts).toList := by
  rw [String.toList_intercalate]
  induction parts with
  | nil => exact .blanks (List.forall_mem_nil _)
  | cons first rest induction =>
    cases rest with
    | nil => simpa using Spaced.last (List.forall_mem_nil _) first.toList
    | cons second others =>
      have space : isBlank ' ' = true := rfl
      have joined := Spaced.more (List.forall_mem_nil _) first.toList space induction
      simpa using joined

/-- Lines ask for the commands that can be typed.

The line that a command is written as, with any blanks around its words and at least one between two
of them, is read as exactly that command, if the name of the uniform is not empty and holds neither
blanks nor brackets that open, the numbers are finite, and a rate is not below zero. Every line that
is read as a command gives such a command, and the line that this command is written as is read as
it, too. -/
theorem lines_ask_for_typable_commands :
    (∀ command, IsTypable command → ∀ line : String,
      Spaced ((commandWords command).map String.toList) line.toList →
      readLine line = .ok (some (.uniform command))) ∧
    ∀ line command, readLine line = .ok (some (.uniform command)) →
      IsTypable command ∧ readLine (commandLine command) = .ok (some (.uniform command)) := by
  refine ⟨fun command typable line spaced => read_line_of_spaced typable spaced, ?_⟩
  intro line command read
  have typable : IsTypable command := by
    unfold readLine at read
    split at read
    · cases read
    · rename_i verb arguments divided
      have areWords : ∀ word ∈ verb :: arguments, IsWord word := by
        rw [← divided]
        exact fun word member => is_word_of_mem_words member
      split at read
      · cases read
      · cases asked : readWords (String.ofList verb) arguments with
        | error fault =>
          rw [asked] at read
          cases read
        | ok request =>
          rw [asked] at read
          cases read
          exact (reads_of_read_words asked).is_typable (List.forall_mem_cons.mp areWords).2
  exact ⟨typable, read_line_of_spaced typable (spaced_intercalate _)⟩

/-- A tab, several spaces and one that no line is broken at stand between the words. -/
theorem spaced_ease_is_read :
    readLine "\tease  tint[2]\u00a00.5   2 " =
      .ok (some (.uniform (.change "tint" 2 (.animate (.approach 0.5 2))))) := by
  have typable : IsTypable (.change "tint" 2 (.animate (.approach 0.5 2))) :=
    ⟨⟨by decide, by simp [isBlank], by decide, by decide⟩, by decide, by decide⟩
  have typed : "\tease  tint[2]\u00a00.5   2 ".toList = ['\t'] ++ ("ease".toList ++ ' ' ::
      ([' '] ++ ("tint[2]".toList ++ '\u00a0' :: ([] ++ ("0.5".toList ++ ' ' ::
        ([' ', ' '] ++ ("2".toList ++ ' ' :: []))))))) := by decide
  have parts : (commandWords (.change "tint" 2 (.animate (.approach 0.5 2)))).map String.toList =
      ["ease".toList, "tint[2]".toList, "0.5".toList, "2".toList] := by decide
  have spaced : Spaced
      ((commandWords (.change "tint" 2 (.animate (.approach 0.5 2)))).map String.toList)
      "\tease  tint[2]\u00a00.5   2 ".toList := by
    rw [typed, parts]
    refine .more ?_ _ rfl (.more ?_ _ rfl (.more ?_ _ rfl (.more ?_ _ rfl (.blanks ?_))))
    all_goals simp [isBlank]
  exact lines_ask_for_typable_commands.1 _ typable _ spaced

end Console

end LiveShader
