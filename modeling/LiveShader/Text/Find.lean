/-!
# Looking for one text in another

Whether a text starts, ends or holds another one, and the two halves on either side of the first
place where a character stands.
-/
namespace LiveShader.Text

/-- What follows `front` in a text that starts with it. -/
def afterFront? : (front text : List Char) → Option (List Char)
  | [], text => some text
  | _ :: _, [] => none
  | f :: front, c :: text => if f = c then afterFront? front text else none

/-- A text starts with `front` just when it is `front` with something behind it. -/
theorem after_front?_eq_some_iff {front text rest : List Char} :
    afterFront? front text = some rest ↔ text = front ++ rest := by
  induction front generalizing text with
  | nil => simp [afterFront?, eq_comm]
  | cons f front induction =>
    cases text with
    | nil => simp [afterFront?]
    | cons c text =>
      by_cases same : f = c
      · simp [afterFront?, same, induction]
      · simp [afterFront?, same, Ne.symm same]

/-- A text that begins with a front is that front and the rest, and the rest is what is found. -/
@[simp]
theorem after_front?_append (front rest : List Char) :
    afterFront? front (front ++ rest) = some rest :=
  after_front?_eq_some_iff.mpr rfl

/-- What stands before `back` in a text that ends with it. -/
def beforeBack? (back text : List Char) : Option (List Char) :=
  (afterFront? back.reverse text.reverse).map List.reverse

/-- A text that ends with a back is found to have the text before it. The two texts are read from
their ends, since a back may also occur further to the front. -/
@[simp]
theorem before_back?_append (text back : List Char) :
    beforeBack? back (text ++ back) = some text := by
  simp [beforeBack?]

/-- What stands before the end of a text is the front of that text. -/
theorem eq_append_of_before_back? {text back front : List Char}
    (found : beforeBack? back text = some front) : text = front ++ back := by
  obtain ⟨rest, behind, rfl⟩ := Option.map_eq_some_iff.mp found
  have turned := congrArg List.reverse (after_front?_eq_some_iff.mp behind)
  simpa using turned

/-- Whether `part` stands anywhere in a text. -/
def holds (part : List Char) : List Char → Bool
  | [] => part.isEmpty
  | c :: rest => (afterFront? part (c :: rest)).isSome || holds part rest

/-- A text holds another one just when that is a stretch of it. -/
theorem holds_iff {part text : List Char} : holds part text = true ↔ part <:+: text := by
  induction text with
  | nil => simp [holds]
  | cons c rest induction =>
    have front : (afterFront? part (c :: rest)).isSome = true ↔ part <+: c :: rest := by
      rw [Option.isSome_iff_exists]
      exact exists_congr fun behind => after_front?_eq_some_iff.trans eq_comm
    simp only [holds, Bool.or_eq_true, front, induction, List.infix_cons_iff]

/-- The parts of a text before and after the first place where `mark` stands. -/
def splitAtMark? (mark : Char) : List Char → Option (List Char × List Char)
  | [] => none
  | c :: rest =>
    if c = mark then some ([], rest)
    else (splitAtMark? mark rest).map fun (before, after) => (c :: before, after)

/-- A text is split at a mark that does not stand before. -/
theorem split_at_mark?_append {mark : Char} {front : List Char} (absent : mark ∉ front)
    (rest : List Char) : splitAtMark? mark (front ++ mark :: rest) = some (front, rest) := by
  induction front with
  | nil => simp [splitAtMark?]
  | cons c front induction =>
    rw [List.mem_cons, not_or] at absent
    simp [splitAtMark?, Ne.symm absent.1, induction absent.2]

/-- A text without a mark is not split at it. -/
theorem split_at_mark?_eq_none {mark : Char} {text : List Char} :
    splitAtMark? mark text = none ↔ mark ∉ text := by
  induction text with
  | nil => simp [splitAtMark?]
  | cons c text induction =>
    by_cases same : c = mark
    · simp [splitAtMark?, same]
    · simp [splitAtMark?, same, Ne.symm same, induction]

/-- A text is split at the first of its marks. -/
theorem split_at_mark?_eq_some {mark : Char} {text front rest : List Char}
    (split : splitAtMark? mark text = some (front, rest)) :
    text = front ++ mark :: rest ∧ mark ∉ front := by
  by_cases present : mark ∈ text
  · obtain ⟨before, behind, rfl, absent⟩ := List.eq_append_cons_of_mem present
    rw [split_at_mark?_append absent] at split
    cases split
    exact ⟨rfl, absent⟩
  · rw [split_at_mark?_eq_none.mpr present] at split
    cases split

/-- A text without the copies of `front` it starts with, however many there are. The number of
characters bounds the number of copies. -/
def dropFronts (front text : List Char) : List Char :=
  go text.length text
where
  go : Nat → List Char → List Char
    | 0, text => text
    | bound + 1, text =>
      match front, afterFront? front text with
      | _ :: _, some rest => go bound rest
      | _, _ => text

/-- What is left when copies are dropped is the end of the text. -/
theorem drop_fronts_suffix (front text : List Char) : dropFronts front text <:+ text := by
  have shorter (bound : Nat) (text : List Char) : dropFronts.go front bound text <:+ text := by
    induction bound generalizing text with
    | zero => exact List.suffix_rfl
    | succ bound induction =>
      unfold dropFronts.go
      split
      · rename_i rest found
        have split := after_front?_eq_some_iff.mp found
        exact (induction rest).trans ⟨_, split.symm⟩
      · exact List.suffix_rfl
  exact shorter text.length text

/-- One copy is dropped when no second one follows. -/
theorem drop_fronts_append {front rest : List Char} (filled : front ≠ [])
    (last : ¬ front <+: rest) : dropFronts front (front ++ rest) = rest := by
  have done : afterFront? front rest = none := by
    cases found : afterFront? front rest with
    | none => rfl
    | some behind => exact absurd ⟨behind, (after_front?_eq_some_iff.mp found).symm⟩ last
  have stays (bound : Nat) : dropFronts.go front bound rest = rest := by
    cases bound with
    | zero => rfl
    | succ bound => simp only [dropFronts.go, done]
  obtain ⟨c, others, rfl⟩ := List.exists_cons_of_ne_nil filled
  simp only [dropFronts, List.cons_append, List.length_cons, dropFronts.go]
  rw [← List.cons_append, after_front?_append]
  exact stays _

/-- A text without the copies of `back` it ends with. -/
def dropBacks (back text : List Char) : List Char :=
  (dropFronts back.reverse text.reverse).reverse

/-- The pieces between the characters that `separates` picks out. Pieces may be empty, and there
is always one more piece than there are such characters. -/
def piecesFrom (separates : Char → Bool) (current : List Char) : List Char → List (List Char)
  | [] => [current.reverse]
  | c :: rest =>
    if separates c then current.reverse :: piecesFrom separates [] rest
    else piecesFrom separates (c :: current) rest

/-- The pieces of a whole text. -/
def pieces (separates : Char → Bool) (text : List Char) : List (List Char) :=
  piecesFrom separates [] text

/-- Whether a string stands anywhere in another. -/
def stringHolds (part text : String) : Bool :=
  holds part.toList text.toList

end LiveShader.Text
