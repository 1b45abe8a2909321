import LiveShader.Proofs.Frames
import LiveShader.Proofs.Reload

/-!
# Uploads and the slots they are made for

The uploads that a rig makes are written down, each with the state that it was made from and the
verdict on it. A frame uploads the slots that have a place in the order of their names, so the
uploads of an operation are matched with the slots by their order, whatever places the driver gave.

For every slot an operation does one of three things: it leaves the slot alone, it makes an upload
that is taken, or it makes one that is refused, which is told to the log and noted in the slot. An
operation that does not draw does the first. What it does before it draws tells of no upload; it
leaves the notes as they are, or takes in a program, which leaves none.
-/
namespace LiveShader

variable {handles : Handles} {State Location : Type}

/-! ### Recorded uploads -/

/-- An upload that was made: the state it was made from, what was uploaded, and the verdict. -/
structure MadeUpload (handles : Handles) (State : Type) where
  before : State
  location : handles.Location
  shape : Shape
  values : List Float32
  verdict : Except UploadError Unit

/-- The error with which an upload was refused. -/
def MadeUpload.refusal? (upload : MadeUpload handles State) : Option UploadError :=
  match upload.verdict with
  | .error error => some error
  | .ok () => none

/-- A state with the uploads made so far, the oldest first. -/
structure Recorded (handles : Handles) (State : Type) where
  state : State
  made : List (MadeUpload handles State)

/-- A state before any upload. -/
def Recorded.begin (state : State) : Recorded handles State := ⟨state, []⟩

/-- Puts the state behind a call in the place of the one before it. -/
def Recorded.replace (state : State) (recorded : Recorded handles State) :
    Recorded handles State :=
  { recorded with state }

/-- The rig that writes its uploads down. -/
def Rig.recorded (rig : Rig handles State) : Rig handles (Recorded handles State) :=
  { driver := { rig.driver.lift Recorded.state Recorded.replace with
      upload := fun location shape values recorded =>
        let (verdict, state) := rig.driver.upload location shape values recorded.state
        (verdict, ⟨state, recorded.made ++ [⟨recorded.state, location, shape, values, verdict⟩]⟩) }
    canvas := rig.canvas.lift Recorded.state Recorded.replace }

/-- The names of the entries whose slots have a place. -/
def placedNames (entries : List (String × Slot Location)) : List String :=
  (entries.filter fun entry => entry.2.location.isSome).map (·.1)

/-- The names of the slots that have a place, in order. -/
def Registry.placedNames (registry : Registry Location) : List String :=
  LiveShader.placedNames registry.slots.entries

/-- The failed upload that a notice tells of. -/
def Notice.failedUpload? : Notice → Option FailedUpload
  | .uploadFailed failure => some failure
  | _ => none

namespace Session

/-- The uploads made from one session to a later one. -/
def uploadsSince (before after : Session handles (Recorded handles State)) :
    List (MadeUpload handles State) :=
  after.state.made.drop before.state.made.length

/-- The upload made for a uniform from one session to the session after the next operation. -/
def upload? (before after : Session handles (Recorded handles State)) (name : String) :
    Option (MadeUpload handles State) :=
  NameTable.lookup? name ((after.registry.placedNames).zip (before.uploadsSince after))

/-- The failed uploads of a uniform that are told from one session to a later one. -/
def failuresTold {Whole : Type} (before after : Session handles Whole) (name : String) :
    List FailedUpload :=
  ((after.journal.drop before.journal.length).filterMap Notice.failedUpload?).filter
    fun failure => failure.uniform == name

end Session

/-- Whether an answer says that a source was installed. -/
def Answer.installs : Answer → Bool
  | .outcome .started | .outcome .reloaded => true
  | _ => false

/-! ### Frames -/

/-- An upload of a slot, with the driver's verdict on it. -/
structure IsUploadOf (driver : Driver handles State) (slot : Slot handles.Location)
    (upload : MadeUpload handles State) : Prop where
  location : slot.location = some upload.location
  shape : upload.shape = slot.shape
  verdict : upload.verdict =
    (driver.upload upload.location upload.shape upload.values upload.before).1

/-- What may be done for the slot of a name: the slot before, the upload made for it, the failures
told of it, and the slot after. -/
inductive Sent (driver : Driver handles State) (name : String) :
    Option (Slot handles.Location) → Option (MadeUpload handles State) → List FailedUpload →
      Option (Slot handles.Location) → Prop where
  /-- Nothing is uploaded. -/
  | idle (slot : Option (Slot handles.Location)) : Sent driver name slot none [] slot
  /-- The slot is uploaded. -/
  | taken {slot : Slot handles.Location} {upload : MadeUpload handles State}
      (made : IsUploadOf driver slot upload) (accepted : upload.verdict = .ok ()) :
      Sent driver name (some slot) (some upload) [] (some slot)
  /-- The upload is refused, which is told and noted. -/
  | refused {slot : Slot handles.Location} {upload : MadeUpload handles State}
      (made : IsUploadOf driver slot upload) (error : UploadError)
      (failed : upload.verdict = .error error) :
      Sent driver name (some slot) (some upload) [⟨name, error, slot.warned⟩]
        (some slot.markWarned)

/-- Without a slot nothing is done. -/
theorem Sent.of_absent {driver : Driver handles State} {name : String}
    {upload : Option (MadeUpload handles State)} {told : List FailedUpload}
    {after : Option (Slot handles.Location)} (sent : Sent driver name none upload told after) :
    upload = none ∧ told = [] ∧ after = none := by
  cases sent
  exact ⟨rfl, rfl, rfl⟩

/-- Only the names and the places of the slots decide which of them have a place. -/
theorem placed_names_congr {left right : Registry Location}
    (same : left.slots.map (fun _ slot => slot.location) =
      right.slots.map fun _ slot => slot.location) :
    left.placedNames = right.placedNames := by
  have placed (registry : Registry Location) :
      registry.placedNames =
        ((registry.slots.map fun _ slot => slot.location).entries.filter
          fun entry => entry.2.isSome).map (·.1) := by
    simp only [Registry.placedNames, LiveShader.placedNames, NameTable.map, List.filter_map,
      List.map_map]
    rfl
  rw [placed, placed, same]

/-- An entry is counted among those with a place if there is an upload for it. -/
theorem placed_names_cons {Upload : Type} (upload : Option Upload) (first : String)
    (slot : Slot Location) (rest : List (String × Slot Location))
    (placed : upload.isSome = slot.location.isSome) :
    placedNames ((first, slot) :: rest) =
      (upload.toList.map fun _ => first) ++ placedNames rest := by
  unfold placedNames
  cases upload with
  | none => rw [List.filter_cons_of_neg (by simp [← placed])]; rfl
  | some made => rw [List.filter_cons_of_pos (by simp [← placed])]; rfl

/-- Looking up among uploads of which the first, if there is one, is for a name. -/
theorem lookup_zip_cons {Upload : Type} (upload : Option Upload) (first name : String)
    (names : List String) (more : List Upload) :
    NameTable.lookup? name
        (((upload.toList.map fun _ => first) ++ names).zip (upload.toList ++ more)) =
      if first = name then upload.or (NameTable.lookup? name (names.zip more))
      else NameTable.lookup? name (names.zip more) := by
  cases upload with
  | none => exact (ite_self _).symm
  | some made => rfl

/-- An upload is made for the slot, which keeps its place and its shape. -/
theorem Sent.is_upload {driver : Driver handles State} {name : String}
    {before after : Option (Slot handles.Location)} {upload : MadeUpload handles State}
    {told : List FailedUpload} (sent : Sent driver name before (some upload) told after) :
    ∃ slot, after = some slot ∧ IsUploadOf driver slot upload := by
  cases sent with
  | taken made accepted => exact ⟨_, rfl, made⟩
  | refused made error failed => exact ⟨_, rfl, made.location, made.shape, made.verdict⟩

/-- The failures told are those with which the upload was refused. -/
theorem Sent.told_errors {driver : Driver handles State} {name : String}
    {before after : Option (Slot handles.Location)} {upload : Option (MadeUpload handles State)}
    {told : List FailedUpload} (sent : Sent driver name before upload told after) :
    told.map (·.error) = (upload.bind MadeUpload.refusal?).toList := by
  cases sent with
  | idle slot => rfl
  | taken made accepted => simp [MadeUpload.refusal?, accepted]
  | refused made error failed => simp [MadeUpload.refusal?, failed]

section Frames

variable (rig : Rig handles State) (inputs : FrameInputs)

/-- One slot is uploaded if it has a place, and only its own failure is told. -/
theorem slot_is_sent (name : String) (slot : Slot handles.Location)
    (state : Recorded handles State × List FailedUpload) :
    let after := Registry.sendSlot rig.recorded.driver inputs name slot state
    ∃ upload told, after.2.1.made = state.1.made ++ Option.toList upload ∧
      after.2.2 = state.2 ++ told ∧ upload.isSome = slot.location.isSome ∧
      (∀ failure ∈ told, failure.uniform = name) ∧
      Sent rig.driver name (some slot) upload told (some after.1) := by
  dsimp only
  unfold Registry.sendSlot
  cases place : slot.location with
  | none =>
    exact ⟨none, [], (List.append_nil _).symm, (List.append_nil _).symm, rfl, by simp, .idle _⟩
  | some location =>
    rcases answer : rig.driver.upload location slot.shape (Registry.payload inputs name slot)
      state.1.state with ⟨error | _, after⟩
    · simp only [Rig.recorded, answer]
      exact ⟨some ⟨_, location, slot.shape, _, .error error⟩, [⟨name, error, slot.warned⟩], rfl,
        rfl, rfl, by simp, .refused ⟨place, rfl, (congrArg Prod.fst answer).symm⟩ error rfl⟩
    · simp only [Rig.recorded, answer]
      exact ⟨some ⟨_, location, slot.shape, _, .ok ()⟩, [], rfl, (List.append_nil _).symm, rfl,
        by simp, .taken ⟨place, rfl, (congrArg Prod.fst answer).symm⟩ rfl⟩

/-- Slots are uploaded in the order of their entries, each that has a place. -/
theorem entries_are_sent (entries : List (String × Slot handles.Location))
    (ascending : entries.Pairwise fun left right => left.1 < right.1)
    (state : Recorded handles State × List FailedUpload) :
    let after := NameTable.stepEntries (Registry.sendSlot rig.recorded.driver inputs) entries state
    ∃ made told, after.2.1.made = state.1.made ++ made ∧ after.2.2 = state.2 ++ told ∧
      made.length = (placedNames entries).length ∧
      ∀ name, Sent rig.driver name (NameTable.lookup? name entries)
        (NameTable.lookup? name ((placedNames entries).zip made))
        (told.filter fun failure => failure.uniform == name)
        (NameTable.lookup? name after.1) := by
  induction entries generalizing state with
  | nil =>
    exact ⟨[], [], (List.append_nil _).symm, (List.append_nil _).symm, rfl, fun _ => .idle none⟩
  | cons entry rest induction =>
    obtain ⟨first, slot⟩ := entry
    obtain ⟨above, ascendingRest⟩ := List.pairwise_cons.mp ascending
    obtain ⟨upload, told, grown, tells, placed, own, sent⟩ :=
      slot_is_sent rig inputs first slot state
    obtain ⟨more, later, grownMore, tellsMore, counted, sentMore⟩ := induction ascendingRest
      (Registry.sendSlot rig.recorded.driver inputs first slot state).2
    have names := placed_names_cons upload first slot rest placed
    refine ⟨upload.toList ++ more, told ++ later, ?_, ?_, ?_, fun name => ?_⟩
    · rw [← List.append_assoc, ← grown]
      exact grownMore
    · rw [← List.append_assoc, ← tells]
      exact tellsMore
    · rw [names, List.length_append, List.length_append, counted, List.length_map]
    have sentMore := sentMore name
    rw [names, lookup_zip_cons, List.filter_append]
    by_cases here : first = name
    · -- The names ascend, so nothing later is sent for the first one.
      subst here
      have absent : NameTable.lookup? first rest = none :=
        NameTable.lookup_absent fun entry member => (String.ne_of_lt (above entry member)).symm
      rw [absent] at sentMore
      obtain ⟨unsent, untold, -⟩ := sentMore.of_absent
      have tellsOwn : told.filter (fun failure => failure.uniform == first) = told :=
        List.filter_eq_self.mpr fun failure member => by simp [own failure member]
      rw [if_pos rfl, unsent, Option.or_none, tellsOwn, untold, List.append_nil]
      simpa only [NameTable.stepEntries, NameTable.lookup?, if_pos] using sent
    · have tellsOther : told.filter (fun failure => failure.uniform == name) = [] :=
        List.filter_eq_nil_iff.mpr fun failure member => by simp [own failure member, here]
      rw [if_neg here, tellsOther, List.nil_append]
      simpa only [NameTable.stepEntries, NameTable.lookup?, if_neg here] using sentMore

/-- Sending keeps the places of the slots. -/
theorem placed_names_send {Whole : Type} (driver : Driver handles Whole)
    (registry : Registry handles.Location) (state : Whole) :
    (registry.send driver inputs state).1.placedNames = registry.placedNames := by
  refine placed_names_congr (NameTable.map_step_through registry.slots _ (state, []) _ _ ?_)
  intro name slot state
  unfold Registry.sendSlot
  split
  · rfl
  · split <;> rfl

/-- A frame makes the uploads of the slots that have a place, and tells of their failures and of no
others. The modifiers that it runs first change neither the places nor the notes. -/
theorem draw_sends (session : Session handles (Recorded handles State))
    (shader : RunningShader handles) :
    let after := (session.drawShader rig.recorded shader).2
    ∃ made notices, after.state.made = session.state.made ++ made ∧
      made.length = after.registry.placedNames.length ∧
      after.journal = session.journal ++ notices ∧
      ∀ name, ∃ slot?, slot?.map Slot.warned = (shader.registry.slots.get? name).map Slot.warned ∧
        Sent rig.driver name slot? (NameTable.lookup? name (after.registry.placedNames.zip made))
          ((notices.filterMap Notice.failedUpload?).filter fun failure => failure.uniform == name)
          (after.registry.slots.get? name) := by
  intro after
  have idle (fell : Bool) (age : Nat) :
      (if fell then [Notice.fellIdle age] else []).filterMap Notice.failedUpload? = [] := by
    cases fell <;> rfl
  have unshown (reason : Option String) :
      (reason.toList.map Notice.presentFailed).filterMap Notice.failedUpload? = [] := by
    cases reason <;> rfl
  have failed (failures : List FailedUpload) :
      (failures.map Notice.uploadFailed).filterMap Notice.failedUpload? = failures := by
    rw [List.filterMap_map]
    exact List.filterMap_some
  let advanced := shader.registry.advance (shader.frames.elapsed session.clock.sample.1)
  let inputs : FrameInputs :=
    ⟨session.clock.sample.1.toFloat32, rig.recorded.canvas.drawableSize session.state⟩
  let begun := rig.recorded.driver.beginFrame shader.program shader.quad session.state
  obtain ⟨made, told, grown, tells, counted, sent⟩ :=
    entries_are_sent rig inputs advanced.slots.entries advanced.slots.sorted (begun, [])
  have places : after.registry.placedNames = advanced.placedNames :=
    placed_names_send inputs rig.recorded.driver advanced begun
  refine ⟨made, _, grown, counted.trans (congrArg List.length places.symm), rfl, fun name =>
    ⟨advanced.slots.get? name, ?_, ?_⟩⟩
  · rw [Registry.get_advance, Option.map_map]
    refine congrArg (Option.map · _) (funext fun slot => ?_)
    dsimp only [Function.comp]
    split <;> rfl
  · rw [places, List.filterMap_append, List.filterMap_append, failed, idle, unshown,
      List.append_nil, List.append_nil]
    exact tells ▸ sent name

end Frames

/-! ### Operations -/

/-- Between two sessions nothing was uploaded and no failure was told; and if a name has a slot, it
notes a failed upload or not, as `noted` says. -/
structure Unsent (name : String) (noted : Bool)
    (before after : Session handles (Recorded handles State)) : Prop where
  made : after.state.made = before.state.made
  told : ∃ notices, after.journal = before.journal ++ notices ∧
    notices.filterMap Notice.failedUpload? = []
  notes : ∀ slot, after.registry.slots.get? name = some slot → slot.warned = noted

/-- Between two sessions the uploads of one frame were made, or none; and if a name had a slot
before them, it noted a failed upload or not, as `noted` says. -/
structure Uploaded (driver : Driver handles State) (name : String) (noted : Bool)
    (before after : Session handles (Recorded handles State)) : Prop where
  counted : before.uploadsSince after = [] ∨
    (before.uploadsSince after).length = after.registry.placedNames.length
  sent : ∃ slot?, (∀ slot, slot? = some slot → slot.warned = noted) ∧
    Sent driver name slot? (before.upload? after name) (before.failuresTold after name)
      (after.registry.slots.get? name)

namespace Unsent

variable {rig : Rig handles State} {name : String} {noted : Bool}
  {before ready : Session handles (Recorded handles State)}

/-- Where nothing happens, nothing is sent. -/
theorem refl {session : Session handles (Recorded handles State)}
    (notes : ∀ slot, session.registry.slots.get? name = some slot → slot.warned = noted) :
    Unsent name noted session session :=
  ⟨rfl, ⟨[], (List.append_nil _).symm, rfl⟩, notes⟩

/-- The driver may be called for anything but an upload. -/
theorem moved (unsent : Unsent name noted before ready) (state : Recorded handles State)
    (same : state.made = ready.state.made) : Unsent name noted before { ready with state } :=
  ⟨same.trans unsent.made, unsent.told, unsent.notes⟩

/-- What tells of no failed upload may be noted for the log. -/
theorem note (unsent : Unsent name noted before ready) (notice : Notice)
    (other : notice.failedUpload? = none) : Unsent name noted before (ready.note notice) := by
  obtain ⟨made, ⟨notices, grown, untold⟩, notes⟩ := unsent
  refine ⟨made, ⟨notices ++ [notice], ?_, ?_⟩, notes⟩
  · rw [← List.append_assoc, ← grown]
    rfl
  · rw [List.filterMap_append, untold]
    simp [other]

/-- What notes the same as the slot of the running shader notes what that one notes. -/
theorem notes_kept (unsent : Unsent name noted before ready) {shader : RunningShader handles}
    (running : ready.shader = some shader) {slot? : Option (Slot handles.Location)}
    (same : slot?.map Slot.warned = (shader.registry.slots.get? name).map Slot.warned)
    (slot : Slot handles.Location) (held : slot? = some slot) : slot.warned = noted := by
  rw [held, Option.map_some] at same
  obtain ⟨old, holds, warned⟩ := Option.map_eq_some_iff.mp same.symm
  rw [← warned]
  refine unsent.notes old ?_
  rwa [Session.registry, running]

/-- A component may be changed. -/
theorem edited (unsent : Unsent name noted before ready)
    {changed : Session handles (Recorded handles State)} {uniform : String} {index : Nat}
    {edit : Edit Modifier} (edited : ready.edit? uniform index edit = some changed) :
    Unsent name noted before changed := by
  obtain ⟨shader, slot, running, -, rfl⟩ := edit_ends edited
  obtain ⟨notices, grown, untold⟩ := unsent.told
  refine ⟨unsent.made, ⟨notices ++ shader.wakeNotices, ?_, ?_⟩, ?_⟩
  · rw [← List.append_assoc, ← grown]
  · rw [List.filterMap_append, untold, RunningShader.wakeNotices]
    split <;> rfl
  · exact unsent.notes_kept running
      (Registry.edit_keeps Slot.warned shader.registry uniform index edit (fun _ => rfl) name)

/-- Without a frame nothing is uploaded. -/
theorem uploaded (unsent : Unsent name noted before ready) :
    Uploaded rig.driver name noted before ready := by
  obtain ⟨made, ⟨notices, grown, untold⟩, notes⟩ := unsent
  have none : before.uploadsSince ready = [] := by
    rw [Session.uploadsSince, made, List.drop_length]
  refine ⟨.inl none, ready.registry.slots.get? name, notes, ?_⟩
  have unmade : before.upload? ready name = .none := by
    rw [Session.upload?, none, List.zip_nil_right]
    rfl
  have quiet : before.failuresTold ready name = [] := by
    rw [Session.failuresTold, grown, List.drop_left, untold]
    rfl
  rw [unmade, quiet]
  exact .idle _

/-- A frame makes the uploads of the slots that have a place, and tells of their failures. -/
theorem frame (unsent : Unsent name noted before ready) {shader : RunningShader handles}
    (running : ready.shader = some shader) :
    Uploaded rig.driver name noted before (ready.drawShader rig.recorded shader).2 := by
  obtain ⟨notices, grown, untold⟩ := unsent.told
  obtain ⟨sent, told, makes, counted, tells, sends⟩ := draw_sends rig ready shader
  generalize (ready.drawShader rig.recorded shader).2 = after at *
  have uploads : before.uploadsSince after = sent := by
    rw [Session.uploadsSince, makes, unsent.made, List.drop_left]
  obtain ⟨slot?, same, does⟩ := sends name
  refine ⟨.inr (uploads ▸ counted), slot?, unsent.notes_kept running same, ?_⟩
  rw [Session.upload?, uploads, Session.failuresTold, tells, grown, List.append_assoc,
    List.drop_left, List.filterMap_append, untold, List.nil_append]
  exact does

/-- Drawing at once makes the uploads of one frame at most. -/
theorem redraw (unsent : Unsent name noted before ready) :
    Uploaded rig.driver name noted before (ready.redraw rig.recorded).2 := by
  cases running : ready.shader with
  | none =>
    rw [redraw_without_shader running]
    exact unsent.uploaded
  | some shader =>
    rw [redraw_of_shader running]
    exact unsent.frame running

end Unsent

namespace Registry

/-- The slots that a program's uniforms are taken into note no failed upload. -/
theorem adopted_unwarned (registry : Registry Location) (declared : List (Declared Location))
    (defaults : NameTable (List Float32)) {name : String} {slot : Slot Location}
    (held : (registry.adopted declared defaults).slots.get? name = some slot) :
    slot.warned = false := by
  have same := apply_defaults_keeps Slot.warned defaults
    (seeded_view Slot.warned (fun _ _ _ => rfl) defaults name)
    (registry.rebuild declared).2.added (registry.rebuild declared).1
  rw [← Registry.adopted, held, Option.map_some] at same
  obtain ⟨rebuilt, holds, noted⟩ := Option.map_eq_some_iff.mp same.symm
  obtain ⟨front, uniform, back, old, -, -, -, rfl⟩ := rebuild_takes registry declared holds
  exact noted.symm.trans (taken_warned uniform old)

end Registry

section Operations

variable (rig : Rig handles State) (session : Session handles (Recorded handles State))
  {name : String} {noted : Bool}

/-- The build of an evaluation uploads nothing. -/
theorem built_made (source : String) :
    (session.built rig.recorded source).2.made = session.state.made :=
  @build_follows handles (Recorded handles State) rig.recorded.driver
    (fun before after => after.made = before.made) (fun first second => second.trans first)
    (fun _ _ _ => rfl) (fun _ _ => rfl) (fun _ _ _ => rfl) (fun _ _ => rfl) _ _ session.state

/-- Taking in a program uploads nothing. -/
theorem declared_made (program : handles.Program) (recorded : Recorded handles State) :
    (rig.recorded.driver.declared program recorded).2.made = recorded.made :=
  @locate_follows handles (Recorded handles State) rig.recorded.driver
    (fun before after => after.made = before.made) (fun _ => rfl)
    (fun first second => second.trans first) program (fun _ _ => rfl) _ _

/-- An installation takes in the shader's program, which leaves no notes, and draws one frame. -/
theorem install_uploads (shader : RunningShader handles) (loaded : Recorded handles State)
    (made : loaded.made = session.state.made) (source document : String) (outcome : EvalOutcome)
    (installs : (Answer.outcome outcome).installs = true) :
    Uploaded rig.driver name false session
      ((({ session with state := loaded } : Session handles (Recorded handles State)).adopt
        rig.recorded shader).install rig.recorded source document outcome).2 := by
  have adopted : Unsent name false session
      (({ session with state := loaded } : Session handles (Recorded handles State)).adopt
        rig.recorded shader) :=
    ⟨(declared_made rig shader.program loaded).trans made, ⟨[.rebuilt _], rfl, rfl⟩,
      fun _ held => Registry.adopted_unwarned shader.registry _ _ held⟩
  have asked {told : Session handles (Recorded handles State)}
      (unsent : Unsent name false session told) (mode : Presentation) :
      Uploaded rig.driver name false session
        ((({ told with state := rig.recorded.canvas.setPresentation mode told.state } :
          Session handles (Recorded handles State)).note (.presentationAsked mode)).redraw
          rig.recorded).2 :=
    ((unsent.moved (rig.recorded.canvas.setPresentation mode told.state) rfl).note
      (.presentationAsked mode) rfl).redraw
  unfold Session.install
  cases outcome with
  | rejected => cases installs
  | started =>
    cases sizeDirective? source with
    | none => exact (adopted.note (.started document _) rfl).redraw
    | some mode => exact asked (adopted.note (.started document _) rfl) mode
  | reloaded =>
    cases sizeDirective? source with
    | none => exact (adopted.note (.reloaded document _) rfl).redraw
    | some mode => exact asked (adopted.note (.reloaded document _) rfl) mode

/-- An evaluation uploads nothing before its program is installed, and if none is installed, nothing
at all. -/
theorem eval_uploads (unsent : Unsent name noted session session) (source document : String) :
    let result := session.eval rig.recorded source document
    Uploaded rig.driver name (!(Answer.outcome result.1).installs && noted) session result.2 := by
  have built := built_made rig session source
  have ends := eval_ends rig.recorded session source document
  dsimp only
  generalize session.eval rig.recorded source document = result at ends ⊢
  cases ends with
  | unbuilt failure state failed =>
    rw [failed] at built
    exact (((unsent.moved state built).note (.buildFailed document failure) rfl).note
      (.rejected _ document) rfl).uploaded
  | withoutQuad program ready state text stopped succeeded failed =>
    rw [succeeded] at built
    have unplaced : state.made = ready.made := (congrArg (·.2.made) failed).symm
    exact ((unsent.moved (rig.recorded.driver.releaseProgram program state)
      (unplaced.trans built)).note (.rejected (.raw text) document) rfl).uploaded
  | reloaded shader program ready running succeeded =>
    rw [succeeded] at built
    exact install_uploads rig session (shader.replaced program)
      (rig.recorded.driver.releaseProgram shader.program ready) built source document .reloaded rfl
  | started program quad ready state stopped succeeded placed =>
    rw [succeeded] at built
    have created : state.made = ready.made := (congrArg (·.2.made) placed).symm
    exact install_uploads rig session (.fresh program quad session.options.idleFrames) _
      (created.trans built) source document .started rfl

/-- Every operation makes the uploads of one frame at most, from slots that note what they noted
before unless the operation installs a source. -/
theorem perform_uploads
    (notes : ∀ slot, session.registry.slots.get? name = some slot → slot.warned = noted)
    (operation : Operation) :
    let result := session.perform rig.recorded operation
    Uploaded rig.driver name (!result.1.installs && noted) session result.2 := by
  have unsent := Unsent.refl notes
  cases operation with
  | eval source document => exact eval_uploads rig session unsent source document
  | apply command =>
    have ends := apply_ends session command
    show Uploaded rig.driver name noted session (session.apply command).2
    generalize session.apply command = result at ends
    cases ends with
    | answered command reply other => exact unsent.uploaded
    | unknown command name => exact (unsent.note (.unknownUniform name) rfl).uploaded
    | changed name index edit changed edited => exact (unsent.edited edited).uploaded
  | edit name index edit =>
    cases edited : session.edit? name index edit with
    | none =>
      simp only [Session.perform, edited]
      exact unsent.uploaded
    | some changed =>
      simp only [Session.perform, edited]
      exact (unsent.edited edited).uploaded
  | tick =>
    show Uploaded rig.driver name noted session (session.tick rig.recorded).2
    unfold Session.tick
    split
    · exact unsent.redraw
    · exact unsent.uploaded
  | redraw => exact unsent.redraw
  | resize =>
    let size := rig.recorded.canvas.clientSize session.state
    exact ((unsent.moved (rig.recorded.driver.setViewport size
      (rig.recorded.canvas.resizeDrawable size session.state)) rfl).note (.resized size) rfl).redraw
  | present presentation =>
    exact (unsent.moved (rig.recorded.canvas.setPresentation presentation session.state)
      rfl).uploaded
  | release =>
    show Uploaded rig.driver name noted session (session.release rig.recorded)
    unfold Session.release
    cases running : session.shader with
    | none => exact unsent.uploaded
    | some shader =>
      exact Unsent.uploaded ⟨rfl, unsent.told, fun slot held => by cases held⟩

end Operations

end LiveShader
