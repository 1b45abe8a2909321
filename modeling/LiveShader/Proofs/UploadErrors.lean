import LiveShader.OpenGL.Binding
import LiveShader.OpenGL.Scripted
import LiveShader.Proofs.Uploads

/-!
# Errors and the uploads that raised them

A context keeps its errors in a queue, whichever call raised them, and each query takes the oldest
off. An upload through the binding empties the queue before it makes its call, but takes no more
than sixteen errors off; what the query after the call answers is the first of the errors that were
left and of those that the call raised. So where no more than sixteen were pending, an upload
answers for its own call, and this carries over to the slots of a session whose driver is the
binding.

The bound keeps a context in check that reports errors forever. This is told of the calls that an
upload makes, and for every context.
-/
namespace LiveShader.OpenGL

variable {State : Type}

/-! ### Queues of errors -/

/-- The errors of a context are a queue: `pending` tells which there are, the oldest first, and
`raised` which ones a call that sets a uniform adds. -/
structure EntryPoints.Queues (gl : EntryPoints State) (pending : State → List UInt32)
    (raised : Nat → Int → List Float32 → State → List UInt32) : Prop where
  /-- A query answers with the oldest error. -/
  answers : ∀ state, (gl.getError state).1 = (pending state).headD noError
  /-- A query takes the oldest error off. -/
  takes : ∀ state, pending (gl.getError state).2 = (pending state).tail
  /-- A query has no bearing on the errors that a later call raises. -/
  steady : ∀ width location values state,
    raised width location values (gl.getError state).2 = raised width location values state
  raises : ∀ width location values state,
    pending (gl.uniformValues width location values state) =
      pending state ++ raised width location values state
  errors : ∀ width location values state, noError ∉ raised width location values state

/-- A queue of errors that an upload empties. -/
def Drainable (pending : List UInt32) : Prop := pending.length ≤ 16 ∧ noError ∉ pending

/-- The verdict on a call, by the errors that are held against it. -/
def blamed : List UInt32 → Except UploadError Unit
  | [] => .ok ()
  | code :: _ => .error (.driver code)

/-- The verdict on an upload in a shape, by the errors that are held against its call. -/
def judged (shape : Shape) (values : List Float32) (errors : List UInt32) :
    Except UploadError Unit :=
  if values ≠ [] ∧ shape.components ∣ values.length then blamed errors
  else .error (.shapeMismatch shape.components values.length)

/-- Values pass the check if there are some and they are whole elements. -/
theorem check_shape_passes (shape : Shape) (values : List Float32) :
    checkShape shape values.length =
      if values ≠ [] ∧ shape.components ∣ values.length then .ok ()
      else .error (.shapeMismatch shape.components values.length) := by
  unfold checkShape
  by_cases whole : values ≠ [] ∧ shape.components ∣ values.length
  · rw [if_pos whole, if_neg]
    rintro (empty | part)
    · exact whole.1 (List.length_eq_zero_iff.mp empty)
    · exact part (Nat.mod_eq_zero_of_dvd whole.2)
  · rw [if_neg whole, if_pos]
    by_cases empty : values = []
    · exact .inl (List.length_eq_zero_iff.mpr empty)
    · exact .inr fun part => whole ⟨empty, Nat.dvd_of_mod_eq_zero part⟩

/-- The oldest error of a queue is the verdict, and there is none if the queue is empty. -/
theorem oldest_error_decides {held : List UInt32} (errors : noError ∉ held) :
    (if held.headD noError = noError then (.ok () : Except UploadError Unit)
      else .error (.driver (held.headD noError))) = blamed held := by
  cases held with
  | nil => rfl
  | cons first others =>
    obtain ⟨isError, -⟩ := List.ne_and_not_mem_of_not_mem_cons errors
    exact if_neg isError.symm

/-- An upload is taken if its values are whole elements and no error is held against its call. -/
theorem judged_ok (shape : Shape) (values : List Float32) (errors : List UInt32) :
    judged shape values errors = .ok () ↔
      (values ≠ [] ∧ shape.components ∣ values.length) ∧ errors = [] := by
  unfold judged
  by_cases whole : values ≠ [] ∧ shape.components ∣ values.length
  · rw [if_pos whole]
    cases errors <;> simp [blamed, whole]
  · rw [if_neg whole]
    exact ⟨nofun, fun both => absurd both.1 whole⟩

section Queues

variable {gl : EntryPoints State} {pending : State → List UInt32}
  {raised : Nat → Int → List Float32 → State → List UInt32} (queues : gl.Queues pending raised)
include queues

/-- Draining takes so many of the oldest errors off, and has no bearing on later calls. -/
theorem drain_takes (bound : Nat) (state : State) (errors : noError ∉ pending state) :
    pending (drainErrors gl bound state) = (pending state).drop bound ∧
      ∀ width location values, raised width location values (drainErrors gl bound state) =
        raised width location values state := by
  induction bound generalizing state with
  | zero => exact ⟨rfl, fun _ _ _ => rfl⟩
  | succ bound induction =>
    have answer := queues.answers state
    have rest := queues.takes state
    have steady (width location values) := queues.steady width location values state
    unfold drainErrors
    generalize gl.getError state = answered at answer rest steady ⊢
    obtain ⟨code, after⟩ := answered
    dsimp only at answer rest steady ⊢
    -- No error has the code for none, so the code tells whether the queue was empty.
    cases queue : pending state with
    | nil =>
      rw [queue] at answer rest
      have none : code = noError := answer
      rw [if_pos none]
      exact ⟨rest, steady⟩
    | cons first others =>
      rw [queue] at answer rest errors
      obtain ⟨isError, errorsRest⟩ := List.ne_and_not_mem_of_not_mem_cons errors
      have going : code ≠ noError := fun none => isError (none.symm.trans answer)
      rw [if_neg going]
      obtain ⟨drained, same⟩ := induction after (rest ▸ errorsRest)
      rw [rest] at drained
      exact ⟨drained, fun width location values =>
        (same width location values).trans (steady width location values)⟩

/-- Held against an upload are the errors that were left by the draining, and those of its call. -/
theorem upload_is_judged (location : Int) (shape : Shape) (values : List Float32) (state : State)
    (errors : noError ∉ pending state) :
    let held :=
      (pending state).drop staleErrorLimit ++ raised shape.components location values state
    let result := upload gl location shape values state
    result.1 = judged shape values held ∧
      (values ≠ [] ∧ shape.components ∣ values.length → pending result.2 = held.tail) := by
  obtain ⟨drained, same⟩ := drain_takes queues staleErrorLimit state errors
  have raises := queues.raises shape.components location values
    (drainErrors gl staleErrorLimit state)
  rw [drained, same] at raises
  have answer := queues.answers (gl.uniformValues shape.components location values
    (drainErrors gl staleErrorLimit state))
  have rest := queues.takes (gl.uniformValues shape.components location values
    (drainErrors gl staleErrorLimit state))
  rw [raises] at answer rest
  intro held result
  unfold result upload judged
  rw [check_shape_passes]
  by_cases whole : values ≠ [] ∧ shape.components ∣ values.length
  · simp only [if_pos whole]
    refine ⟨?_, fun _ => rest⟩
    have isError : noError ∉ held := List.not_mem_append
      (fun member => errors (List.mem_of_mem_drop member)) (queues.errors _ _ _ _)
    rw [show (gl.getError _).1 = held.headD noError from answer]
    exact oldest_error_decides isError
  · simp only [if_neg whole]
    exact ⟨trivial, fun fits => absurd fits whole⟩

/-- Where the queue can be emptied, only the errors of an upload's own call are held against it. -/
theorem upload_is_judged_alone (location : Int) (shape : Shape) (values : List Float32)
    (state : State) (drainable : Drainable (pending state)) :
    let own := raised shape.components location values state
    let result := upload gl location shape values state
    result.1 = judged shape values own ∧
      (values ≠ [] ∧ shape.components ∣ values.length → pending result.2 = own.tail) := by
  have drained : (pending state).drop staleErrorLimit = [] := List.drop_of_length_le drainable.1
  have result := upload_is_judged queues location shape values state drainable.2
  rw [drained] at result
  exact result

end Queues

/-! ### Calls of an upload -/

/-- A state with the calls made so far, the oldest first. -/
structure Logged (State : Type) where
  state : State
  calls : List Call

/-- The context that writes its calls down. -/
def EntryPoints.logged (gl : EntryPoints State) : EntryPoints (Logged State) :=
  gl.watched Logged.state (fun state logged => { logged with state })
    (fun call logged => { logged with calls := logged.calls ++ [call] }) fun _ logged => logged

/-- Draining makes so many queries at most, and no other calls. -/
theorem drain_asks (gl : EntryPoints State) (bound : Nat) (state : State) (calls : List Call) :
    ∃ stale : List UInt32, stale.length ≤ bound ∧
      drainErrors gl.logged bound ⟨state, calls⟩ =
        ⟨drainErrors gl bound state, calls ++ stale.map Call.getError⟩ := by
  induction bound generalizing state calls with
  | zero => exact ⟨[], Nat.le_refl 0, by simp [drainErrors]⟩
  | succ bound induction =>
    have asked : gl.logged.getError ⟨state, calls⟩ =
        ((gl.getError state).1,
          ⟨(gl.getError state).2, calls ++ [.getError (gl.getError state).1]⟩) := rfl
    unfold drainErrors
    rw [asked]
    dsimp only
    split
    · exact ⟨[(gl.getError state).1], Nat.succ_le_succ (Nat.zero_le bound), rfl⟩
    · obtain ⟨stale, few, drained⟩ := induction (gl.getError state).2
        (calls ++ [.getError (gl.getError state).1])
      refine ⟨(gl.getError state).1 :: stale, Nat.succ_le_succ few, drained.trans ?_⟩
      rw [List.append_assoc]
      rfl

/-- What an upload calls: nothing if its values are no whole elements, and else queries for stale
errors, the call that sets the uniform, and one more query. -/
theorem upload_asks (gl : EntryPoints State) (location : Int) (shape : Shape)
    (values : List Float32) (state : State) (calls : List Call) :
    ∃ made, upload gl.logged location shape values ⟨state, calls⟩ =
        ((upload gl location shape values state).1,
          ⟨(upload gl location shape values state).2, calls ++ made⟩) ∧
      if values ≠ [] ∧ shape.components ∣ values.length then
        ∃ (stale : List UInt32) (code : UInt32), stale.length ≤ staleErrorLimit ∧
          made = stale.map Call.getError ++
            [.uniformValues shape.components location values, .getError code]
      else made = [] := by
  obtain ⟨stale, few, drained⟩ := drain_asks gl staleErrorLimit state calls
  unfold upload
  rw [check_shape_passes]
  by_cases whole : values ≠ [] ∧ shape.components ∣ values.length
  · simp only [if_pos whole, drained]
    let set := gl.uniformValues shape.components location values
      (drainErrors gl staleErrorLimit state)
    refine ⟨_, ?_, stale, (gl.getError set).1, few, rfl⟩
    rw [← List.append_assoc, List.append_cons]
    rfl
  · simp only [if_neg whole]
    exact ⟨[], by rw [List.append_nil], rfl⟩

/-! ### Blame -/

/-- An upload answers for the errors of its own call, and asks for errors seventeen times at most.

Let the errors of a context be a queue. Where no more than sixteen are pending, whichever calls
raised them, an upload is judged by the errors that its own call raises: it is taken just when its
values are whole elements, at least one, and its call raises no error. Of several errors the first
is answered, and the others stay pending, to be counted before the next upload. So it is for every
slot that a session over the context uploads, whatever the session did before: the verdict on it,
and what is told of it, depend on its own call.

Whatever a context answers, an upload of values that are no whole elements makes no call, and any
other makes one call, after sixteen queries for errors at most, and before one more. -/
theorem uploads_answer_for_their_calls (gl : EntryPoints State) :
    (∀ (pending : State → List UInt32) (raised : Nat → Int → List Float32 → State → List UInt32),
      gl.Queues pending raised →
      (∀ location shape values state, Drainable (pending state) →
        let own := raised shape.components location values state
        let result := upload gl location shape values state
        result.1 = judged shape values own ∧
        (result.1 = .ok () ↔ (values ≠ [] ∧ shape.components ∣ values.length) ∧ own = []) ∧
        (values ≠ [] ∧ shape.components ∣ values.length → pending result.2 = own.tail)) ∧
      ∀ {Whole : Type} (part : Whole → State) (replace : State → Whole → Whole)
        (canvas : Canvas Whole) (session : Session handles (Recorded handles Whole))
        (operation : Operation) (name : String) (made : MadeUpload handles Whole),
        let rig : Rig handles Whole := ⟨(driver gl).lift part replace, canvas⟩
        let after := (session.perform rig.recorded operation).2
        session.upload? after name = some made → Drainable (pending (part made.before)) →
        (∃ slot, after.registry.slots.get? name = some slot ∧ IsUploadOf rig.driver slot made) ∧
        made.verdict = judged made.shape made.values
          (raised made.shape.components made.location made.values (part made.before)) ∧
        (session.failuresTold after name).map (·.error) = made.refusal?.toList) ∧
    ∀ location shape values state calls, ∃ made,
      upload gl.logged location shape values ⟨state, calls⟩ =
        ((upload gl location shape values state).1,
          ⟨(upload gl location shape values state).2, calls ++ made⟩) ∧
      if values ≠ [] ∧ shape.components ∣ values.length then
        ∃ (stale : List UInt32) (code : UInt32), stale.length ≤ 16 ∧
          made = stale.map Call.getError ++
            [.uniformValues shape.components location values, .getError code]
      else made = [] := by
  refine ⟨fun pending raised queues => ?_, upload_asks gl⟩
  constructor
  · intro location shape values state drainable own result
    obtain ⟨verdict, left⟩ :=
      upload_is_judged_alone queues location shape values state drainable
    refine ⟨verdict, ?_, left⟩
    rw [show result.1 = judged shape values own from verdict]
    exact judged_ok shape values own
  · intro Whole part replace canvas session operation name made rig after uploads drainable
    let noted := (session.registry.slots.get? name).any (·.warned)
    have notes (slot : Slot handles.Location)
        (held : session.registry.slots.get? name = some slot) : slot.warned = noted := by
      simp [noted, held]
    obtain ⟨slot?, -, sent⟩ := (perform_uploads rig session notes operation).sent
    have told := sent.told_errors
    rw [show session.upload? _ name = some made from uploads] at sent told
    obtain ⟨slot, held, is⟩ := sent.is_upload
    refine ⟨⟨slot, held, is⟩, ?_, told⟩
    refine is.verdict.trans ?_
    exact (upload_is_judged_alone queues made.location made.shape made.values (part made.before)
      drainable).1

/-- The errors that setting a uniform of a scripted context raises. -/
def Context.raised (_ : Nat) (location : Int) (_ : List Float32) (context : Context) :
    List UInt32 :=
  if context.rejects location then [invalidOperation] else []

/-- The errors of a scripted context are a queue. -/
theorem Context.queues : Context.entryPoints.Queues Context.errors Context.raised := by
  constructor
  case answers | takes =>
    rintro ⟨script, lastName, shaders, programs, errors, rejected⟩
    cases errors <;> rfl
  case steady =>
    rintro width location values ⟨script, lastName, shaders, programs, errors, rejected⟩
    cases errors <;> rfl
  case raises =>
    intro width location values context
    show (if context.rejects location then context.raise invalidOperation else context).errors =
      context.errors ++ Context.raised width location values context
    unfold Context.raised
    split
    · rfl
    · exact (List.append_nil _).symm
  case errors =>
    intro width location values context
    unfold Context.raised
    split <;> decide

/-- A scripted context with sixteen errors left by other calls, which rejects some names. -/
def staleContext (rejected : List String) : Context :=
  let script : Script := ⟨none, none, none, none, [⟨"level", .float, 1, true⟩]⟩
  ⟨script, 1, [], [(1, script)], List.replicate 16 0x0500, rejected⟩

/-- A scripted context beside the canvas without a screen. -/
def staleRig : Rig handles (Context × Headless.Surface) :=
  Rig.pair (driver Context.entryPoints) Headless.canvas

/-- A session over such a context that has not been given a source. -/
def staleSession : Session handles (Recorded handles (Context × Headless.Surface)) :=
  .start staleRig.recorded .standard (.stepped 0 1)
    (.begin (staleContext ["level"], .sized ⟨8, 6⟩))

/-- Behind sixteen errors of other calls, an upload is taken or answers for its own error, and so
does the slot of a session. -/
theorem stale_errors_are_passed_over :
    (upload Context.entryPoints 10 .scalar [1] (staleContext [])).1 = .ok () ∧
      (upload Context.entryPoints 10 .scalar [1] (staleContext ["level"])).1 =
        .error (.driver invalidOperation) ∧
      (staleSession.failuresTold
        (staleSession.perform staleRig.recorded (.eval "" "late")).2 "level").map (·.error) =
          [.driver invalidOperation] := by
  obtain ⟨alone, slots⟩ :=
    (uploads_answer_for_their_calls Context.entryPoints).1 Context.errors Context.raised
      Context.queues
  have drainable : Drainable (List.replicate 16 0x0500) := ⟨Nat.le_refl 16, by decide⟩
  have made : (staleSession.upload?
      (staleSession.perform staleRig.recorded (.eval "" "late")).2 "level").isSome = true := rfl
  have pending : (Option.get _ made).before.1.errors = List.replicate 16 0x0500 := rfl
  obtain ⟨-, judged, told⟩ := slots Prod.fst (fun context whole => (context, whole.2))
    staleRig.canvas staleSession (.eval "" "late") "level" (Option.get _ made)
    (Option.some_get made).symm (pending ▸ drainable)
  refine ⟨(alone 10 .scalar [1] (staleContext []) drainable).1,
    (alone 10 .scalar [1] (staleContext ["level"]) drainable).1, told.trans ?_⟩
  have whole : (Option.get _ made).values ≠ [] ∧
      (Option.get _ made).shape.components ∣ (Option.get _ made).values.length :=
    ⟨List.ne_nil_of_length_eq_add_one rfl, 1, rfl⟩
  rw [MadeUpload.refusal?, judged, OpenGL.judged, if_pos whole]
  rfl

end LiveShader.OpenGL
