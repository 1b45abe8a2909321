import LiveShader.Proofs.Uploads

/-!
# Warnings of failed uploads

The log warns of a failed upload once for each slot and each program. The errors with which the
uploads for a uniform are refused are put on record; a source that is installed begins the record
anew, and nothing else does. The slot notes a failure just when the record is not empty, and so the
first entry of the record is the only one that is warned of.

One operation makes the uploads of one frame at most, hence at most one upload for a uniform. What
an operation does to the record is told by one lemma, and the induction over a run uses nothing
else.
-/
namespace LiveShader

variable {handles : Handles} {State : Type}

/-- The line of the log that warns of a failed upload. -/
def uploadWarning (name : String) (error : UploadError) : LogLine :=
  ⟨.warn, "renderer::uniforms::registry", "uniform upload failed; skipping it",
    [("uniform", name), ("err", error.message)]⟩

namespace Session

/-- The errors with which uploads for a uniform are refused from one session to the session after
the next operation. -/
def refusals (before after : Session handles (Recorded handles State)) (name : String) :
    List UploadError :=
  ((before.upload? after name).bind MadeUpload.refusal?).toList

/-- The warnings of failed uploads for a uniform from one session to a later one. -/
def uploadWarnings {Whole : Type} (before after : Session handles Whole) (name : String) :
    List LogLine :=
  ((before.failuresTold after name).map Notice.uploadLine).filter fun line => line.level == .warn

/-- The record that operations leave, each of which adds its entries. The first of them finds the
record as it is given, and one that installs a source begins it anew. -/
def recordSince {Entry Whole : Type} (rig : Rig handles Whole)
    (entries : Session handles Whole → Session handles Whole → List Entry) :
    Session handles Whole → List Entry → List Operation → List Entry
  | _, record, [] => record
  | session, record, operation :: rest =>
    let (answer, after) := session.perform rig operation
    recordSince rig entries after
      ((if answer.installs then [] else record) ++ entries session after) rest

end Session

/-- The slot of a name notes a failure if one is on record, and the first on record is the only one
that was warned of. -/
structure Warned {Whole : Type} (name : String) (session : Session handles Whole)
    (refused : List UploadError) (warnings : List LogLine) : Prop where
  noted : ∀ slot, session.registry.slots.get? name = some slot → slot.warned = !refused.isEmpty
  once : warnings = (refused.take 1).map (uploadWarning name)

/-- A frame warns of a failed upload if the slot notes none yet, and then the slot notes it. -/
theorem Sent.warns {driver : Driver handles State} {name : String}
    {before after : Option (Slot handles.Location)} {upload : Option (MadeUpload handles State)}
    {told : List FailedUpload} (sent : Sent driver name before upload told after)
    {refused : List UploadError}
    (noted : ∀ slot, before = some slot → slot.warned = !refused.isEmpty) :
    (told.map Notice.uploadLine).filter (fun line => line.level == .warn) =
        (if refused.isEmpty then
          (upload.bind MadeUpload.refusal?).toList.map (uploadWarning name) else []) ∧
      ∀ slot, after = some slot →
        slot.warned = !(refused ++ (upload.bind MadeUpload.refusal?).toList).isEmpty := by
  cases sent with
  | idle slot =>
    refine ⟨(ite_self []).symm, fun slot held => ?_⟩
    rw [noted slot held]
    simp
  | @taken slot upload made accepted =>
    have unrefused : upload.refusal? = none := by simp [MadeUpload.refusal?, accepted]
    simp only [Option.bind_some, unrefused]
    refine ⟨(ite_self []).symm, fun slot held => ?_⟩
    rw [noted slot held]
    simp
  | @refused slot upload made error failed =>
    have refusal : upload.refusal? = some error := by simp [MadeUpload.refusal?, failed]
    simp only [Option.bind_some, refusal, Option.toList_some]
    have again := noted slot rfl
    refine ⟨?_, ?_⟩
    · cases none : refused.isEmpty <;> simp [again, none, Notice.uploadLine, uploadWarning]
    · rintro _ ⟨⟩
      simp [Slot.markWarned]

section Runs

variable (rig : Rig handles State) {name : String}

/-- An operation warns of a failed upload if none is on record. -/
theorem perform_warns {session : Session handles (Recorded handles State)}
    {refused : List UploadError} {warnings : List LogLine}
    (warned : Warned name session refused warnings) (operation : Operation) :
    let result := session.perform rig.recorded operation
    let earlier := if result.1.installs then [] else refused
    let told := session.uploadWarnings result.2 name
    told = (if earlier.isEmpty then (session.refusals result.2 name).map (uploadWarning name)
      else []) ∧
    Warned name result.2 (earlier ++ session.refusals result.2 name)
      ((if result.1.installs then [] else warnings) ++ told) := by
  intro result earlier told
  obtain ⟨-, slot?, noted, sent⟩ := perform_uploads rig session warned.noted operation
  have anew : (!result.1.installs && !refused.isEmpty) = !earlier.isEmpty := by
    unfold earlier
    cases result.1.installs <;> rfl
  obtain ⟨tells, notes⟩ := sent.warns fun slot held => (noted slot held).trans anew
  have tells : told = if earlier.isEmpty then
      (session.refusals result.2 name).map (uploadWarning name) else [] := tells
  have kept : (if result.1.installs then [] else warnings) =
      (earlier.take 1).map (uploadWarning name) := by
    unfold earlier
    rw [warned.once]
    split <;> rfl
  have one : (session.refusals result.2 name).take 1 = session.refusals result.2 name :=
    List.take_of_length_le Option.length_toList_le
  refine ⟨tells, notes, ?_⟩
  rw [kept, tells]
  -- The first of the record changes only where the record was empty.
  cases earlier with
  | nil =>
    rw [if_pos List.isEmpty_nil, List.nil_append, one]
    rfl
  | cons first rest => simp

/-- A run keeps the record. -/
theorem run_warns {session : Session handles (Recorded handles State)}
    {refused : List UploadError} {warnings : List LogLine}
    (warned : Warned name session refused warnings) (operations : List Operation) :
    Warned name (session.after rig.recorded operations)
      (session.recordSince rig.recorded (fun before after => before.refusals after name) refused
        operations)
      (session.recordSince rig.recorded (fun before after => before.uploadWarnings after name)
        warnings operations) := by
  induction operations generalizing session refused warnings with
  | nil => exact warned
  | cons operation rest induction => exact induction (perform_warns rig warned operation).2

end Runs

/-- Failed uploads are warned of once for each slot and each program.

The record of a uniform holds the errors with which its uploads were refused since a source was
installed last; an operation that installs a source begins it anew before it draws. After any
operations, one more operation warns of the uniform's upload if it is refused while the record is
empty, and else does not. So the warnings since a source was installed are one for the first
refusal on record, and the slot notes a failure just when there is one. Of a slot without a place
nothing is warned. An operation makes as many uploads as there are slots with a place, or none; an
upload is for the slot of its name, at the place and of the shape that the slot has, and is judged
by the driver. -/
theorem failed_uploads_warn_once (rig : Rig handles State) (options : SessionOptions)
    (clock : Clock) (state : State) (operations : List Operation) (operation : Operation)
    (name : String) :
    let first := Session.start rig.recorded options clock (.begin state)
    let session := first.after rig.recorded operations
    let refusals := first.recordSince rig.recorded
      (fun before after => before.refusals after name) []
    let warnings := first.recordSince rig.recorded
      (fun before after => before.uploadWarnings after name) []
    let answer := (session.perform rig.recorded operation).1
    let after := (session.perform rig.recorded operation).2
    session.uploadWarnings after name =
        (if answer.installs || (refusals operations).isEmpty then
          (session.refusals after name).map (uploadWarning name) else []) ∧
      warnings operations = ((refusals operations).take 1).map (uploadWarning name) ∧
      (∀ slot, session.registry.slots.get? name = some slot →
        slot.warned = !(refusals operations).isEmpty) ∧
      (∀ slot, after.registry.slots.get? name = some slot → slot.location = none →
        session.uploadWarnings after name = []) ∧
      (∀ upload, session.upload? after name = some upload → ∃ slot,
        after.registry.slots.get? name = some slot ∧ IsUploadOf rig.driver slot upload) ∧
      (session.uploadsSince after = [] ∨
        (session.uploadsSince after).length = after.registry.placedNames.length) := by
  intro first session refusals warnings answer after
  have start : Warned name first [] [] := ⟨fun slot held => (by cases held), rfl⟩
  have run : Warned name session (refusals operations) (warnings operations) :=
    run_warns rig start operations
  have uploads := perform_uploads rig session run.noted operation
  have told : session.uploadWarnings after name =
      if answer.installs || (refusals operations).isEmpty then
        (session.refusals after name).map (uploadWarning name) else [] := by
    rw [(perform_warns rig run operation).1]
    show (if (if answer.installs then [] else refusals operations).isEmpty then _ else []) = _
    cases answer.installs <;> rfl
  have slots (upload : MadeUpload handles State) (made : session.upload? after name = some upload) :
      ∃ slot, after.registry.slots.get? name = some slot ∧ IsUploadOf rig.driver slot upload := by
    obtain ⟨slot?, -, sent⟩ := uploads.sent
    rw [made] at sent
    exact sent.is_upload
  refine ⟨told, run.once, run.noted, fun slot held unplaced => ?_, slots, uploads.counted⟩
  cases made : session.upload? after name with
  | none =>
    rw [told, Session.refusals, made]
    exact ite_self []
  | some upload =>
    obtain ⟨other, same, is⟩ := slots upload made
    cases held.symm.trans same
    cases unplaced.symm.trans is.location

end LiveShader
