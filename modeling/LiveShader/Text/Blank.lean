/-!
# Blank characters

The characters that Unicode gives the property `White_Space`, the cuts at either end of a text
that remove them, and the division of a text into words. Texts are lists of characters here, so
that laws about them are laws about lists.
-/
namespace LiveShader.Text

/-- Whether a character has the property `White_Space`. The ranges are the whole of that property:
six controls, the space, and the spaces and separators outside ASCII. -/
def isBlank (c : Char) : Bool :=
  let n := c.toNat
  (9 ≤ n && n ≤ 13) || n == 0x20 || n == 0x85 || n == 0xA0 || n == 0x1680 ||
    (0x2000 ≤ n && n ≤ 0x200A) || n == 0x2028 || n == 0x2029 || n == 0x202F ||
    n == 0x205F || n == 0x3000

/-- A text without the blanks it starts with. -/
def trimStart (text : List Char) : List Char :=
  text.dropWhile isBlank

/-- A text without the blanks it ends with: blanks are dropped from the right for as long as
nothing else follows them. -/
def trimEnd : List Char → List Char
  | [] => []
  | c :: rest =>
    match trimEnd rest with
    | [] => if isBlank c then [] else [c]
    | kept => c :: kept

/-- Blanks at the end of a text do not count. -/
theorem trim_end_append_blanks (text : List Char) {blanks : List Char}
    (blank : ∀ c ∈ blanks, isBlank c = true) : trimEnd (text ++ blanks) = trimEnd text := by
  induction text with
  | nil =>
    induction blanks with
    | nil => rfl
    | cons c rest induction =>
      have nothing : trimEnd rest = [] := induction fun d member => blank d (.tail c member)
      simp [trimEnd, nothing, blank c (.head rest)]
  | cons c text induction => simp only [List.cons_append, trimEnd, induction]

/-- What the cut at the end removes are blanks. -/
theorem exists_trim_end_append (text : List Char) :
    ∃ blanks, (∀ c ∈ blanks, isBlank c = true) ∧ text = trimEnd text ++ blanks := by
  induction text with
  | nil => exact ⟨[], by simp, rfl⟩
  | cons c rest induction =>
    obtain ⟨blanks, blank, split⟩ := induction
    cases kept : trimEnd rest with
    | cons d others => exact ⟨blanks, blank, by simpa [trimEnd, kept] using split⟩
    | nil =>
      rw [kept, List.nil_append] at split
      by_cases first : isBlank c = true
      · refine ⟨c :: blanks, ?_, by simp [trimEnd, kept, first, ← split]⟩
        intro d member
        rcases List.mem_cons.mp member with rfl | behind
        · exact first
        · exact blank d behind
      · exact ⟨blanks, blank, by simp [trimEnd, kept, first, ← split]⟩

/-- The cut at the end spares what stands before a text, as long as no blank is in it. -/
theorem trim_end_append {front : List Char} (visible : ∀ c ∈ front, isBlank c = false)
    (text : List Char) : trimEnd (front ++ text) = front ++ trimEnd text := by
  induction front with
  | nil => rfl
  | cons c front induction =>
    obtain ⟨first, others⟩ := List.forall_mem_cons.mp visible
    simp only [List.cons_append, trimEnd, induction others]
    cases front ++ trimEnd text <;> simp [first]

/-- A text without blanks at either end. -/
def trim (text : List Char) : List Char :=
  trimEnd (trimStart text)

/-- Blanks at the end of a text do not count when it is cut at both ends. -/
theorem trim_append_blanks (text : List Char) {blanks : List Char}
    (blank : ∀ c ∈ blanks, isBlank c = true) : trim (text ++ blanks) = trim text := by
  have behind : blanks.dropWhile isBlank = [] := by
    rw [← List.append_nil blanks, List.dropWhile_append_of_pos blank, List.dropWhile_nil]
  rw [trim, trimStart, List.dropWhile_append]
  cases kept : text.dropWhile isBlank with
  | nil => simp [trim, trimStart, kept, behind]
  | cons c rest =>
    rw [if_neg (by simp), trim_end_append_blanks _ blank, trim, trimStart, kept]

/-- What is left of a text was there before. -/
theorem trim_subset (text : List Char) : trim text ⊆ text := by
  obtain ⟨blanks, -, split⟩ := exists_trim_end_append (trimStart text)
  intro c member
  have inner : c ∈ trimStart text := by
    rw [split]
    exact List.mem_append_left blanks member
  exact (List.dropWhile_suffix isBlank).subset inner

/-- The words of a text that follow a word begun as `current`, whose letters stand in reverse. -/
def wordsFrom (current : List Char) : List Char → List (List Char)
  | [] => if current.isEmpty then [] else [current.reverse]
  | c :: rest =>
    if isBlank c then
      if current.isEmpty then wordsFrom [] rest
      else current.reverse :: wordsFrom [] rest
    else wordsFrom (c :: current) rest

/-- The longest stretches of a text that hold no blank, in order. -/
def words (text : List Char) : List (List Char) :=
  wordsFrom [] text

/-- A text without blanks makes the word that was begun longer. -/
theorem words_from_append {front : List Char} (visible : ∀ c ∈ front, isBlank c = false)
    (current rest : List Char) :
    wordsFrom current (front ++ rest) = wordsFrom (front.reverse ++ current) rest := by
  induction front generalizing current with
  | nil => rfl
  | cons c front induction =>
    obtain ⟨first, others⟩ := List.forall_mem_cons.mp visible
    simp [wordsFrom, first, induction others]

/-- A text without blanks is one word. -/
theorem words_of_visible {text : List Char} (filled : text ≠ [])
    (visible : ∀ c ∈ text, isBlank c = false) : words text = [text] := by
  have whole := words_from_append visible [] []
  rw [List.append_nil, List.append_nil] at whole
  simp [words, whole, wordsFrom, filled]

/-- A text without blanks that a blank follows is the first word. -/
theorem words_append {front : List Char} (filled : front ≠ [])
    (visible : ∀ c ∈ front, isBlank c = false) {blank : Char} (isBlank_blank : isBlank blank = true)
    (rest : List Char) : words (front ++ blank :: rest) = front :: words rest := by
  rw [words, words_from_append visible]
  simp [wordsFrom, isBlank_blank, filled, words]

/-- Blanks in front of a text belong to none of its words. -/
theorem words_blanks {front : List Char} (blank : ∀ c ∈ front, isBlank c = true)
    (rest : List Char) : words (front ++ rest) = words rest := by
  induction front with
  | nil => rfl
  | cons c front induction =>
    obtain ⟨first, others⟩ := List.forall_mem_cons.mp blank
    rw [← induction others]
    simp [words, wordsFrom, first]

/-- Whether a text is a word: not empty, and without blanks. -/
def IsWord (word : List Char) : Prop := word ≠ [] ∧ ∀ c ∈ word, isBlank c = false

/-- What a text is divided into are words. -/
theorem is_word_of_mem_words {text word : List Char} (member : word ∈ words text) :
    IsWord word := by
  have ended {current : List Char} (visible : ∀ c ∈ current, isBlank c = false)
      (filled : ¬ current.isEmpty = true) : IsWord current.reverse :=
    ⟨by simpa using filled, by simpa using visible⟩
  have begun (text current : List Char) (visible : ∀ c ∈ current, isBlank c = false)
      (member : word ∈ wordsFrom current text) : IsWord word := by
    fun_induction wordsFrom current text with
    | case1 current empty => cases member
    | case2 current filled => exact List.mem_singleton.mp member ▸ ended visible filled
    | case3 current c rest blank empty induction =>
      exact induction (List.forall_mem_nil _) member
    | case4 current c rest blank filled induction =>
      rcases List.mem_cons.mp member with rfl | later
      · exact ended visible filled
      · exact induction (List.forall_mem_nil _) later
    | case5 current c rest letter induction =>
      refine induction (List.forall_mem_cons.mpr ⟨?_, visible⟩) member
      exact Bool.eq_false_iff.mpr letter
  exact begun text [] (List.forall_mem_nil _) member

end LiveShader.Text
