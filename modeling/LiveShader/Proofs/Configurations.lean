import LiveShader.Proofs.Durations

/-!
# What becomes of a configuration

Reading a document ends in a configuration that keeps the rules, or in an error. There is one misfit
that nobody can report: a length of time that is too long breaks the reading off. Of the many
readers that a document goes through only that of the watcher's `debounce` has it, and the others
hand on what their parts report. So a document whose `debounce` can be held is never broken off,
whatever else it says.
-/
namespace LiveShader.Config

open Document

/-- The fields of a record with what a document gives for them, by name or by position. -/
def given (fields : List String) (value : Value) : List (String × Value) :=
  match value.entries?, value.items? with
  | some entries, _ => entries
  | none, some items => fields.zip items
  | none, none => []

/-- What a document gives for a field of a record. -/
def givenFor (field : String) (fields : List String) (value : Value) : List Value :=
  (given fields value).filterMap fun entry => if entry.1 = field then some entry.2 else none

/-- What a document gives for the time that the watched file must rest. -/
def debounces (value : Value) : List Value :=
  (givenFor "watch" ["version", "window", "runtime", "watch", "uniforms"] value).flatMap
    (givenFor "debounce" ["enabled", "debounce"])

section Readers

variable {α β Record : Type} {format : Format}

/-- A change of what was read breaks off only where the reading did. -/
theorem map_overflow {read : Decoded α} {change : α → β}
    (broken : read.map change = .error .overflow) : read = .error .overflow := by
  cases read with
  | ok => cases broken
  | error misfit => exact congrArg Except.error (Except.error.inj broken)

/-- A value of the wrong kind is answered with a misfit that says so, which is an error of the
document and no end of the program. -/
theorem mismatch_holds (found : Value) (expected : String) :
    (mismatch format found expected : Decoded α) ≠ .error .overflow := by
  simp [mismatch]

/-- Reading a number without a sign ends with the number or with what is wrong with it, for every
value that a document can hold. -/
theorem read_word_holds (value : Value) : readWord format value ≠ .error .overflow := by
  unfold readWord readNatural
  split
  · split <;> simp
  · exact mismatch_holds _ _

/-- Reading a text ends with the text or with what is wrong with it. -/
theorem read_text_holds (value : Value) : readText format value ≠ .error .overflow := by
  unfold readText
  split
  · simp
  · exact mismatch_holds _ _

/-- Reading a truth value ends with that value or with what is wrong with it. -/
theorem read_boolean_holds (value : Value) : readBoolean format value ≠ .error .overflow := by
  unfold readBoolean
  split
  · simp
  · exact mismatch_holds _ _

/-- Looking for a variant ends with it or with a misfit that lists the variants there are. -/
theorem variant_named_holds (variants : List (String × α)) (name : String) :
    variantNamed variants name ≠ .error .overflow := by
  unfold variantNamed
  split <;> simp

/-- Reading what stands behind a variant that carries nothing ends, whatever stands there and in
both notations. -/
theorem read_nothing_holds (value : Value) : readNothing format value ≠ .error .overflow := by
  unfold readNothing
  dsimp only
  split <;> simp [mismatch]

/-- Reading a variant ends, be it given by its name or as a table with the name as its only entry.
-/
theorem read_variant_holds (variants : List (String × α)) (value : Value) :
    readVariant format variants value ≠ .error .overflow := by
  unfold readVariant
  split
  · exact variant_named_holds _ _
  · split
    · rename_i misfit broken
      intro overflow
      exact variant_named_holds variants _ (broken.trans overflow)
    · exact fun broken => read_nothing_holds _ (map_overflow broken)
  all_goals simp [mismatch]

/-- Reading entries is broken off within one of them. -/
theorem read_entries_overflow {step : String → Value → Record → Decoded Record}
    {entries : List (String × Value)} {record : Record}
    (broken : readEntries step entries record = .error .overflow) :
    ∃ entry ∈ entries, ∃ before, step entry.1 entry.2 before = .error .overflow := by
  induction entries generalizing record with
  | nil => cases broken
  | cons entry rest induction =>
    simp only [readEntries] at broken
    split at broken
    · rename_i misfit failed
      exact ⟨entry, .head _, record, failed.trans broken⟩
    · obtain ⟨other, member, before, inside⟩ := induction broken
      exact ⟨other, .tail _ member, before, inside⟩

/-- Reading a record is broken off within one of its fields. -/
theorem read_record_overflow {expected : String} {fields : List String}
    {step : String → Value → Record → Decoded Record} {initial : Record} {value : Value}
    (broken : readRecord format expected fields step initial value = .error .overflow) :
    ∃ entry ∈ given fields value, ∃ before, step entry.1 entry.2 before = .error .overflow := by
  cases named : value.entries? with
  | some entries =>
    simp only [readRecord, given, named] at broken ⊢
    exact read_entries_overflow broken
  | none =>
    cases placed : value.items? with
    | none =>
      simp only [readRecord, named, placed] at broken
      exact absurd broken (mismatch_holds _ _)
    | some items =>
      simp only [readRecord, given, named, placed] at broken ⊢
      split at broken
      · rename_i misfit failed
        exact read_entries_overflow (failed.trans broken)
      · split at broken <;> cases broken

/-- No entry of the window's section breaks the loading off: its fields are numbers, truth values
and variants, none of which does. -/
theorem read_window_entry_holds (name : String) (value : Value) (part : WindowSection) :
    readWindowEntry format name value part ≠ .error .overflow := by
  intro broken
  unfold readWindowEntry at broken
  split at broken
  · exact read_text_holds _ (map_overflow broken)
  · exact read_word_holds _ (map_overflow broken)
  · exact read_word_holds _ (map_overflow broken)
  · exact read_word_holds _ (map_overflow broken)
  · exact read_word_holds _ (map_overflow broken)
  · cases broken

/-- No entry of the runtime's section breaks the loading off, for the same reason as with the
window. -/
theorem read_runtime_entry_holds (name : String) (value : Value) (part : RuntimeSection) :
    readRuntimeEntry format name value part ≠ .error .overflow := by
  intro broken
  unfold readRuntimeEntry at broken
  split at broken
  · exact read_word_holds _ (map_overflow broken)
  · exact read_variant_holds _ _ (map_overflow broken)
  · cases broken

/-- Reading the presets ends, since whatever is wrong with a preset is told in the words of the
untagged reader. -/
theorem read_presets_holds (value : Value) : readPresets format value ≠ .error .overflow := by
  intro broken
  unfold readPresets at broken
  split at broken
  · obtain ⟨entry, -, before, inside⟩ := read_entries_overflow broken
    have preset := map_overflow inside
    unfold readPreset at preset
    dsimp only at preset
    split at preset <;> cases preset
  · exact mismatch_holds _ _ broken

/-- Of the watcher's fields only the time it waits breaks the reading off. -/
theorem read_watch_entry_overflow {name : String} {value : Value} {part : WatchSection}
    (broken : readWatchEntry format name value part = .error .overflow) :
    name = "debounce" ∧ IsTooLong value := by
  unfold readWatchEntry at broken
  split at broken
  · exact absurd (map_overflow broken) (read_boolean_holds value)
  · exact ⟨rfl, (read_duration_overflow_iff format value).mp (map_overflow broken)⟩
  · cases broken

/-- An entry that is given under a field is among the values given for that field. -/
theorem mem_given_for {field : String} {fields : List String} {value : Value}
    {entry : String × Value} (member : entry ∈ given fields value) (named : entry.1 = field) :
    entry.2 ∈ givenFor field fields value :=
  List.mem_filterMap.mpr ⟨entry, member, if_pos named⟩

/-- Of the sections only the watcher's breaks the reading off. -/
theorem read_entry_overflow {name : String} {value : Value} {before : Option Nat × Config}
    (broken : readEntry format name value before = .error .overflow) :
    name = "watch" ∧
      ∃ debounce ∈ givenFor "debounce" ["enabled", "debounce"] value, IsTooLong debounce := by
  unfold readEntry at broken
  dsimp only at broken
  split at broken
  · exact absurd (map_overflow broken) (read_word_holds value)
  · obtain ⟨entry, -, part, inside⟩ := read_record_overflow (map_overflow broken)
    exact absurd inside (read_window_entry_holds _ _ _)
  · obtain ⟨entry, -, part, inside⟩ := read_record_overflow (map_overflow broken)
    exact absurd inside (read_runtime_entry_holds _ _ _)
  · obtain ⟨entry, member, part, inside⟩ := read_record_overflow (map_overflow broken)
    obtain ⟨named, long⟩ := read_watch_entry_overflow inside
    exact ⟨rfl, entry.2, mem_given_for member named, long⟩
  · exact absurd (map_overflow broken) (read_presets_holds value)
  · cases broken

/-- Reading a document is broken off only where its time to wait is too long. -/
theorem read_overflow {value : Value} (broken : read format value = .error .overflow) :
    ∃ debounce ∈ debounces value, IsTooLong debounce := by
  unfold read at broken
  split at broken
  · cases broken
  · cases fields : readRecord format "struct LiveConfig"
      ["version", "window", "runtime", "watch", "uniforms"] (readEntry format) (none, standard)
      value with
    | error misfit =>
      rw [fields] at broken
      have same : misfit = .overflow := Except.error.inj broken
      obtain ⟨entry, member, before, inside⟩ := read_record_overflow (same ▸ fields)
      obtain ⟨named, debounce, given, long⟩ := read_entry_overflow inside
      exact ⟨debounce, List.mem_flatMap.mpr ⟨entry.2, mem_given_for member named, given⟩, long⟩
    | ok result =>
      rw [fields] at broken
      obtain ⟨version, config⟩ := result
      cases version <;> cases broken

end Readers

/-- A configuration that keeps the rules. -/
structure IsSound (config : Config) : Prop where
  version : config.version = 1
  size : config.window.size.width ≠ 0 ∧ config.window.size.height ≠ 0
  smallSize : config.window.smallSize.width ≠ 0 ∧ config.window.smallSize.height ≠ 0
  idleFrames : config.runtime.idleFrames ≠ 0
  /-- Every preset has a visible name that is not reserved, and a value. -/
  presets : ∀ name preset, (name, preset) ∈ config.presets.entries →
    (∃ c ∈ name.toList, Text.isBlank c = false) ∧ isReserved name = false ∧ preset.values ≠ []

/-- A size that is not flat has neither a width nor a height of zero. -/
theorem is_flat_eq_false {size : Size} (filled : ¬ isFlat size = true) :
    size.width ≠ 0 ∧ size.height ≠ 0 := by
  simpa [isFlat] using filled

/-- A text of which something is left when it is cut has a visible character. -/
theorem visible_of_trim {text : List Char} (left : ¬ (Text.trim text).isEmpty = true) :
    ∃ c ∈ text, Text.isBlank c = false := by
  by_cases blank : ∀ c ∈ text, Text.isBlank c = true
  · have cut := Text.trim_append_blanks [] blank
    rw [List.nil_append] at cut
    exact absurd (by rw [cut]; rfl) left
  · simpa using blank

/-- A configuration without a fault keeps the rules. -/
theorem sound_of_faultless {config : Config} (faultless : config.fault? = none) :
    config.IsSound := by
  unfold fault? at faultless
  split at faultless
  · cases faultless
  rename_i version
  split at faultless
  · cases faultless
  rename_i size
  split at faultless
  · cases faultless
  rename_i smallSize
  split at faultless
  · cases faultless
  rename_i idleFrames
  refine ⟨by simpa using version, is_flat_eq_false size, is_flat_eq_false smallSize,
    by simpa using idleFrames, ?_⟩
  intro name preset member
  have fault := List.findSome?_eq_none_iff.mp faultless (name, preset) member
  simp only [presetFault?] at fault
  split at fault
  · cases fault
  rename_i visible
  split at fault
  · cases fault
  rename_i free
  split at fault
  · cases fault
  rename_i filled
  exact ⟨visible_of_trim visible, by simpa using free, by simpa using filled⟩

/-- A value that gives a configuration gives one that keeps the rules. -/
theorem sound_of_value {format : Format} {value : Value} {config : Config}
    (loaded : ofValue format value = .ok config) : config.IsSound := by
  unfold ofValue at loaded
  split at loaded
  · cases loaded
  · split at loaded
    · cases loaded
    · rename_i faultless
      cases loaded
      exact sound_of_faultless faultless

/-- Taking in a value is broken off only where its time to wait is too long. -/
theorem overflow_of_value {format : Format} {value : Value}
    (broken : ofValue format value = .error (.misfit .overflow)) :
    ∃ debounce ∈ debounces value, IsTooLong debounce := by
  unfold ofValue at broken
  split at broken
  · rename_i misfit failed
    have same : misfit = .overflow := by simpa using broken
    exact read_overflow (same ▸ failed)
  · split at broken <;> cases broken

/-- Loading a configuration ends in one that keeps the rules or in an error, unless a length of time
in it is too long.

For values of either notation and for texts alike: what is loaded has version 1, sizes and frames
that are not zero, and presets with visible names that are not reserved and with values. Loading is
broken off only if the watcher's time to wait is too long, and reading that time is broken off
exactly if it is: an integer or finite number of two to the power of 64 seconds or more, or a text
whose sum is just beyond. Every other number yields the nearest duration, or words for why it is
none, as the negative and the not finite do. -/
theorem loading_ends (format : Format) :
    (∀ value,
      (∀ config, ofValue format value = .ok config → config.IsSound) ∧
      (ofValue format value = .error (.misfit .overflow) →
        ∃ debounce ∈ debounces value, IsTooLong debounce)) ∧
    (∀ text,
      (∀ config, ofToml text = .ok config → config.IsSound) ∧
      (ofToml text = .error (.misfit .overflow) → ∃ value, Toml.read? text = some value ∧
        ∃ debounce ∈ debounces value, IsTooLong debounce)) ∧
    (∀ debounce, readDuration format debounce = .error .overflow ↔ IsTooLong debounce) ∧
    (∀ number, isNumber number = true → ¬ IsTooLong number →
      (∃ duration, readDuration format number = .ok duration ∧
        nanoseconds? number = some duration.nanoseconds) ∨
      (∃ words, readDuration format number = .error (.custom words)) ∧
        nanoseconds? number = none) := by
  refine ⟨fun value => ⟨fun _ => sound_of_value, overflow_of_value⟩, fun text => ?_,
    read_duration_overflow_iff format, fun _ => read_duration_of_number format⟩
  unfold ofToml
  cases Toml.read? text with
  | none => exact ⟨nofun, nofun⟩
  | some value =>
    exact ⟨fun _ => sound_of_value, fun broken => ⟨value, rfl, overflow_of_value broken⟩⟩

/-- Whether loading was broken off. -/
def isBrokenOff : Except ConfigError Config → Bool
  | .error (.misfit .overflow) => true
  | _ => false

/-- The loading breaks off in one way only, by a span of time that is too long to be held. Every
other way to fail is an error that is returned. -/
theorem eq_of_is_broken_off {loaded : Except ConfigError Config}
    (broken : isBrokenOff loaded = true) : loaded = .error (.misfit .overflow) := by
  unfold isBrokenOff at broken
  split at broken
  · rfl
  · cases broken

/-- A time of ten to the power of 20 seconds breaks the loading off. -/
theorem long_debounce_breaks_loading :
    ofToml "version = 1\n[watch]\ndebounce = 1e20\n" = .error (.misfit .overflow) :=
  eq_of_is_broken_off (by decide +kernel)

end LiveShader.Config
