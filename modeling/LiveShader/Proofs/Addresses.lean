import LiveShader.Console.Line
import LiveShader.Decimal.Layout
import LiveShader.Proofs.Findings
import LiveShader.Proofs.Places

/-!
# Components named on the console

A console line names a component by the name of its uniform with an index in brackets. Uniforms have
their names from the driver, and of these the registry removes only the suffix of arrays; the
console takes the name to end at the first bracket. The two agree on the names without a bracket.
Members of arrays of structures have one in the middle. Hosts see them, and a request for one of
their components is answered, but no line makes that request: what follows the first bracket is
no index.
-/
namespace LiveShader

namespace Console

open Text

/-- A component as a line names it. -/
def componentAddress (name : String) (index : Nat) : String :=
  name ++ "[" ++ toString index ++ "]"

/-- The address of a component is the name, a bracket, the digits of the index and a bracket. The
reader works on characters, so this is the form in which it meets an address. -/
theorem to_list_component_address (name : String) (index : Nat) :
    (componentAddress name index).toList =
      name.toList ++ '[' :: (Decimal.digitText index ++ [']']) := by
  simp [componentAddress, Decimal.digitText]

/-- An index that is written out is read back, if it fits a word. -/
theorem read_index?_digit_text {n : Nat} (fits : n < wordLimit 64) :
    readIndex? (Decimal.digitText n) = some n := by
  have filled : Decimal.digitText n ≠ [] := Nat.toDigits_ne_nil
  have ascii : (Decimal.digitText n).all Char.isDigit = true :=
    List.all_eq_true.mpr fun _ => Decimal.is_digit_of_digit_text
  unfold readIndex?
  split
  · rename_i rest signed
    have plus : '+' ∈ Decimal.digitText n := signed ▸ .head rest
    exact absurd (Decimal.is_digit_of_digit_text plus) (by decide)
  · simp [Decimal.read_digits_digit_text, filled, ascii, fits]

/-- A text with a bracket in it is no index. -/
theorem read_index?_of_bracket {text : List Char} (bracket : '[' ∈ text) :
    readIndex? text = none := by
  have stops {digits : List Char} (inside : '[' ∈ digits) : digits.all Char.isDigit = false :=
    List.all_eq_false.mpr ⟨'[', inside, by decide⟩
  unfold readIndex?
  split
  · rename_i rest
    have inside : '[' ∈ rest := by simpa using bracket
    simp [stops inside]
  · simp [stops bracket]

/-- A word is cut at its first bracket, and what stands behind it is the index. -/
theorem read_target_of_parts {front inner : List Char} (plain : '[' ∉ front) :
    readTarget (front ++ '[' :: (inner ++ [']'])) =
      match readIndex? inner with
      | none => .error (.invalidIndex (String.ofList (front ++ '[' :: (inner ++ [']']))))
      | some index =>
        if front.isEmpty then .error .emptyName else .ok (String.ofList front, index) := by
  simp only [readTarget, split_at_mark?_append plain, before_back?_append]
  cases readIndex? inner with
  | none => rfl
  | some index => rfl

/-- What a word names that gives an index in brackets behind a name. -/
theorem read_target_address {name : String} {index : Nat} (fits : index < wordLimit 64) :
    readTarget (componentAddress name index).toList =
      if '[' ∈ name.toList then .error (.invalidIndex (componentAddress name index))
      else if name = "" then .error .emptyName
      else .ok (name, index) := by
  rw [to_list_component_address]
  by_cases bracketed : '[' ∈ name.toList
  · -- The name itself is cut, and the rest of it is taken for the index.
    obtain ⟨front, behind, split, plain⟩ := List.eq_append_cons_of_mem bracketed
    have word : name.toList ++ '[' :: (Decimal.digitText index ++ [']']) =
        front ++ '[' :: ((behind ++ '[' :: Decimal.digitText index) ++ [']']) := by
      simp [split]
    have whole : String.ofList (name.toList ++ '[' :: (Decimal.digitText index ++ [']'])) =
        componentAddress name index := by
      rw [← to_list_component_address, String.ofList_toList]
    have noIndex : readIndex? (behind ++ '[' :: Decimal.digitText index) = none :=
      read_index?_of_bracket (List.mem_append_right _ (.head _))
    rw [if_pos bracketed, word, read_target_of_parts plain, noIndex, ← word, whole]
  · rw [if_neg bracketed, read_target_of_parts bracketed, read_index?_digit_text fits]
    simp

/-- A line that asks for a component asks for what its second word names. -/
theorem read_line_get {word : String} (filled : word ≠ "")
    (visible : ∀ c ∈ word.toList, isBlank c = false) :
    readLine ("get " ++ word) = (readTarget word.toList).map fun (name, index) =>
      some (.uniform (.get name index)) := by
  have split : words ("get " ++ word).toList = ["get".toList, word.toList] := by
    have text : ("get " ++ word).toList = "get".toList ++ ' ' :: word.toList := by
      simp
    have verb : ∀ c ∈ "get".toList, isBlank c = false := by simp [isBlank]
    rw [text, words_append (by decide) verb (by decide),
      words_of_visible (by simpa using filled) visible]
  rw [readLine, split]
  cases read : readTarget word.toList with
  | error fault => simp [readWords, read]; rfl
  | ok target => simp [readWords, read]; rfl

/-- An address has no blanks if the name has none, since brackets and digits are none either. The
console splits its lines at blanks, so such an address stays one word. -/
theorem component_address_visible {name : String} (visible : ∀ c ∈ name.toList, isBlank c = false)
    (index : Nat) : ∀ c ∈ (componentAddress name index).toList, isBlank c = false := by
  rw [to_list_component_address]
  intro c member
  simp only [List.mem_append, List.mem_cons, List.not_mem_nil, or_false] at member
  rcases member with inName | rfl | inIndex | rfl
  · exact visible c inName
  · decide
  · exact is_blank_of_is_digit (is_digit_of_ascii (Decimal.is_digit_of_digit_text inIndex))
  · decide

/-- What a line asks for that names a component of a uniform whose name has no blanks. -/
theorem read_line_get_address {name : String} {index : Nat} (fits : index < wordLimit 64)
    (visible : ∀ c ∈ name.toList, isBlank c = false) :
    readLine ("get " ++ componentAddress name index) =
      if '[' ∈ name.toList then .error (.invalidIndex (componentAddress name index))
      else if name = "" then .error .emptyName
      else .ok (some (.uniform (.get name index))) := by
  have filled : componentAddress name index ≠ "" := by
    intro empty
    have text := to_list_component_address name index
    simp [empty] at text
  rw [read_line_get filled (component_address_visible visible index), read_target_address fits]
  split
  · rfl
  · split <;> rfl

end Console

variable {handles : Handles} {State : Type}

/-- The names of uniforms that the answer to a call reports. -/
def Call.reported : Call handles → List String
  | .activeUniforms _ actives => actives.map (·.name)
  | _ => []

/-- The names of uniforms that a driver has reported. -/
def reportedNames (calls : List (Call handles)) : List String := calls.flatMap Call.reported

/-- Taking the index from a reported name adds no character to it. What holds of every character
that the driver reports holds of the name that is listed. -/
theorem base_name_subset (reported : String) : (baseName reported).toList ⊆ reported.toList := by
  unfold baseName
  split
  · rename_i front found
    rw [Text.eq_append_of_before_back? found, String.toList_ofList]
    exact List.subset_append_left ..
  · exact List.Subset.refl _

/-- What hosts see of a uniform is what its slot shows. -/
theorem get_snapshot {Whole : Type} (session : Session handles Whole) (name : String) :
    session.snapshot.get? name = (session.slot? name).map Slot.snapshot := by
  unfold Session.snapshot Session.slot?
  cases session.shader with
  | none => rfl
  | some shader =>
    refine (NameTable.get_map _ _ name).trans ?_
    rw [NameTable.get_filter shader.registry.slots (fun name => !isReserved name) name]
    simp only [Option.bind_some, Registry.get?]
    cases isReserved name <;> rfl

/-- A uniform that hosts see is listed by its name. -/
theorem listed_of_slot {Whole : Type} {session : Session handles Whole} {name : String}
    {slot : Slot handles.Location} (seen : session.slot? name = some slot) :
    name ∈ session.registry.names ∧ session.registry.slots.get? name = some slot := by
  obtain ⟨shader, running, held⟩ := Option.bind_eq_some_iff.mp seen
  unfold Registry.get? at held
  split at held
  · cases held
  · rename_i unreserved
    rw [Session.registry, running]
    refine ⟨List.mem_filter.mpr ⟨?_, by simp [unreserved]⟩, held⟩
    exact (NameTable.mem_names _ name).mpr (by rw [held]; rfl)

/-- A request for a component that there is answers the value that hosts see. -/
theorem get_answers {Whole : Type} {session : Session handles Whole} {name : String}
    {slot : Slot handles.Location} (seen : session.slot? name = some slot) {index : Nat}
    (there : index < slot.snapshot.values.length) :
    (session.apply (.get name index)).1 = .value slot.snapshot.values[index] := by
  obtain ⟨shader, running, held⟩ := Option.bind_eq_some_iff.mp seen
  have inside : slot.wrap index = index := Nat.mod_eq_of_lt there
  have value : slot.get index = slot.snapshot.values[index] := by
    rw [Slot.get, inside]
    exact (List.getElem_eq_getD 0).symm
  rw [← value]
  unfold Session.apply
  simp [running, held]

/-- Every uniform of a running shader goes by a name that the driver has reported. -/
theorem reported_of_slot (rig : Rig handles State) (options : SessionOptions) (clock : Clock)
    (state : State) (operations : List Operation) {name : String} {slot : Slot handles.Location}
    (seen : ((Session.start rig.traced options clock (.begin state)).after rig.traced
      operations).slot? name = some slot) :
    ∃ reported ∈ reportedNames ((Session.start rig.traced options clock (.begin state)).after
      rig.traced operations).state.calls, baseName reported = name := by
  obtain ⟨shader, running, -⟩ := Option.bind_eq_some_iff.mp seen
  obtain ⟨earlier, listing, later, calls, -, goes⟩ :=
    run_placed rig options clock state operations shader running
  have held := (listed_of_slot seen).2
  rw [Session.registry, running] at held
  obtain ⟨front, active, place, back, listed, named, -⟩ := goes name slot held
  refine ⟨active.name, ?_, named⟩
  have asked : Call.activeUniforms shader.program (listing.map (·.1)) ∈ earlier ++
      (introspection shader.program listing ++ later) :=
    List.mem_append_right _ (List.mem_append_left _ (.head _))
  rw [calls, reportedNames, List.mem_flatMap]
  refine ⟨_, asked, ?_⟩
  simp [Call.reported, listed]

/-- The console names the components of every uniform without a bracket in its name, and of no
other.

Whatever was done in a session, as long as the names that its driver has reported hold no blanks, a
uniform that a dump shows is listed, and a request for one of its components is answered with the
value that is shown. The line `get name[index]` makes this very request if there is a name and no
bracket in it. A line that spells a bracket in the name is refused, as is one without a name. -/
theorem plain_names_are_addressed (rig : Rig handles State) (options : SessionOptions)
    (clock : Clock) (state : State) (operations : List Operation) :
    let session := (Session.start rig.traced options clock (.begin state)).after rig.traced
      operations
    (∀ reported ∈ reportedNames session.state.calls, ∀ c ∈ reported.toList,
      Text.isBlank c = false) →
    ∀ name seen, session.snapshot.get? name = some seen →
    ∀ index, (there : index < seen.values.length) → index < wordLimit 64 →
      name ∈ session.registry.names ∧
      (session.apply (.get name index)).1 = .value seen.values[index] ∧
      Console.readLine ("get " ++ Console.componentAddress name index) =
        if '[' ∈ name.toList then .error (.invalidIndex (Console.componentAddress name index))
        else if name = "" then .error .emptyName
        else .ok (some (.uniform (.get name index))) := by
  intro session unblank name seen shown index there fits
  rw [get_snapshot] at shown
  obtain ⟨slot, held, rfl⟩ := Option.map_eq_some_iff.mp shown
  obtain ⟨reported, member, rfl⟩ := reported_of_slot rig options clock state operations held
  have visible : ∀ c ∈ (baseName reported).toList, Text.isBlank c = false := fun c inside =>
    unblank reported member c (base_name_subset reported inside)
  exact ⟨(listed_of_slot held).1, get_answers held there,
    Console.read_line_get_address fits visible⟩

/-- A session whose program has a vector, and an array of structures with a vector in each. -/
def litSession :
    Session Scripted.handles (Traced Scripted.handles (Scripted.Memory × Headless.Surface)) :=
  let script : Script :=
    ⟨none, none, none, none, [⟨"tint", .vec3, 1, true⟩, ⟨"lights[0].color", .vec3, 1, true⟩]⟩
  (Session.start scriptedRig.traced .standard (.stepped 0 1)
    (.begin (⟨script, 0, [], []⟩, .sized ⟨8, 6⟩))).after scriptedRig.traced [.eval "" "scene"]

/-- The vector is addressed by its name. -/
theorem tint_is_addressed :
    (∀ reported ∈ reportedNames litSession.state.calls, ∀ c ∈ reported.toList,
      Text.isBlank c = false) ∧
    ∃ seen, litSession.snapshot.get? "tint" = some seen ∧ 1 < seen.values.length ∧
      Console.readLine "get tint[1]" = .ok (some (.uniform (.get "tint" 1))) := by
  have unblank : ∀ reported ∈ reportedNames litSession.state.calls, ∀ c ∈ reported.toList,
      Text.isBlank c = false := by
    have names : reportedNames litSession.state.calls = ["tint", "lights[0].color"] := rfl
    simp [names, Text.isBlank]
  refine ⟨unblank, _, rfl, by decide, ?_⟩
  exact (plain_names_are_addressed scriptedRig .standard (.stepped 0 1) _ [.eval "" "scene"] unblank
    "tint" _ rfl 1 (by decide) (by decide)).2.2

/-- The vector in a structure is shown, and its components are answered, but no line asks for
them. -/
theorem member_is_not_addressed :
    ∃ seen, litSession.snapshot.get? "lights[0].color" = some seen ∧ 1 < seen.values.length ∧
      (litSession.apply (.get "lights[0].color" 1)).1 = .value 0 ∧
      Console.readLine "get lights[0].color[1]" =
        .error (.invalidIndex "lights[0].color[1]") := by
  exact ⟨_, rfl, by decide, rfl, rfl⟩

end LiveShader
