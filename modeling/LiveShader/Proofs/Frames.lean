import LiveShader.Graphics.Trace
import LiveShader.Proofs.Operations

/-!
# Frames in a trace

An operation makes a session ready and then draws at most one frame, which comes last. Making
ready draws nothing: the shader stays or is given back, or one of its components is changed, or a
program is taken in. A frame clears the picture, uploads every slot that has a place in the order
of the names, draws, and shows the picture.

Whether the driver takes an upload is up to the driver, and is put aside where the calls of a frame
are told. An invariant of runs has two parts to be shown, that it survives making ready and that it
survives a frame; the induction over the operations is done once, here.
-/
namespace LiveShader

variable {handles : Handles} {State Answer : Type}

namespace Call

/-- Whether a call belongs to a frame, from clearing the picture to showing it. -/
def draws : Call handles → Bool
  | .beginFrame _ _ | .upload _ _ _ _ | .drawQuad | .present _ => true
  | _ => false

/-- Whether a call clears the picture for a frame. -/
def clears : Call handles → Bool
  | .beginFrame _ _ => true
  | _ => false

/-- Whether a call draws the picture, which a frame does once. -/
def paints : Call handles → Bool
  | .drawQuad => true
  | _ => false

/-- Whether a call shows the picture. -/
def shows : Call handles → Bool
  | .present _ => true
  | _ => false

/-- Whether a call asks for the uniforms of a program, or for the place of one. -/
def introspects : Call handles → Bool
  | .activeUniforms _ _ | .uniformLocation _ _ _ => true
  | _ => false

/-- Whether a call belongs neither to a frame nor to the taking in of a program. -/
def isAside (call : Call handles) : Bool := !call.draws && !call.introspects

/-- A call with the driver's verdict put aside, if it is an upload. What a frame asks for does not
depend on the verdicts, so frames are compared without them. -/
def unjudged : Call handles → Call handles
  | .upload location shape values _ => .upload location shape values (.ok ())
  | call => call

end Call

/-- Between two states only calls were made that `such` holds of. Nothing is said of how many there
were, or in which order. -/
def Only (such : Call handles → Bool) (before after : Traced handles State) : Prop :=
  ∃ made, after.calls = before.calls ++ made ∧ ∀ call ∈ made, such call = true

namespace Only

variable {such : Call handles → Bool} {before middle after : Traced handles State}

/-- Where nothing happens, no call is made, and any condition holds of the calls. -/
theorem refl (such : Call handles → Bool) (traced : Traced handles State) :
    Only such traced traced :=
  ⟨[], (List.append_nil _).symm, by simp⟩

/-- One part after another. -/
theorem trans (first : Only such before middle) (second : Only such middle after) :
    Only such before after := by
  obtain ⟨made, grown, admitted⟩ := first
  obtain ⟨more, grownMore, admittedMore⟩ := second
  refine ⟨made ++ more, ?_, fun call member => ?_⟩
  · rw [grownMore, grown, List.append_assoc]
  · exact (List.mem_append.mp member).elim (admitted call) (admittedMore call)

/-- A call without an answer is the one call that is made. -/
theorem told (call : Call handles) (act : State → State) (traced : Traced handles State)
    (admitted : such call = true) : Only such traced (Traced.tell call act traced) :=
  ⟨[call], rfl, by simpa using admitted⟩

/-- One call with an answer. -/
theorem asked (call : Answer → Call handles) (act : State → Answer × State)
    (traced : Traced handles State) (admitted : ∀ answer, such (call answer) = true) :
    Only such traced (Traced.ask call act traced).2 :=
  ⟨[call (act traced.state).1], rfl, by simpa using admitted _⟩

/-- A call is the one that is made, whatever it is answered. The condition is asked of the call with
every answer, as the answer is up to the driver. -/
theorem answered (call : Answer → Call handles) {act : State → Answer × State} {answer : Answer}
    (asked : Traced.ask call act before = (answer, after))
    (admitted : ∀ answer, such (call answer) = true) : Only such before after := by
  have made := Only.asked call act before admitted
  rwa [asked] at made

/-- What holds of such calls holds of the calls made, so parts that were told under different
conditions can be put together under a wider one. -/
theorem widened {wider : Call handles → Bool} (only : Only such before after)
    (wide : ∀ call, such call = true → wider call = true) : Only wider before after := by
  obtain ⟨made, grown, admitted⟩ := only
  exact ⟨made, grown, fun call member => wide call (admitted call member)⟩

end Only

/-- The uniforms of the running shader, and none without one. A program that is installed first
takes its uniforms into this empty registry. -/
def Session.registry {Whole : Type} (session : Session handles Whole) :
    Registry handles.Location :=
  match session.shader with
  | none => .empty
  | some shader => shader.registry

/-- What becomes of a session before an operation draws, if it draws. The cases are those of all
operations together, so an invariant has to be shown for each of them once and not for each
operation. -/
inductive Readied (rig : Rig handles State) (session : Session handles (Traced handles State)) :
    Session handles (Traced handles State) → Prop where
  /-- The shader stays as it is, or is given back. -/
  | kept (ready : Session handles (Traced handles State))
      (shader : ready.shader = session.shader ∨ ready.shader = none)
      (clock : ready.clock = session.clock) (aside : Only Call.isAside session.state ready.state) :
      Readied rig session ready
  /-- One component of a uniform that hosts see is changed, which wakes the loop. -/
  | changed (ready : Session handles (Traced handles State)) (old : RunningShader handles)
      (slot : Slot handles.Location) (name : String) (index : Nat) (edit : Edit Modifier)
      (running : session.shader = some old) (seen : old.registry.get? name = some slot)
      (shader : ready.shader = some (old.changed name index edit))
      (clock : ready.clock = session.clock) (aside : Only Call.isAside session.state ready.state) :
      Readied rig session ready
  /-- A program is taken in, with the uniforms of the shader before and a loop that starts anew. -/
  | installed (ready : Session handles (Traced handles State)) (shader : RunningShader handles)
      (loaded : Traced handles State) (built : Only Call.isAside session.state loaded)
      (registry : shader.registry = session.registry)
      (anew : shader.frames = .start shader.frames.idleFrames)
      (adopted : ready.shader =
        (({ session with state := loaded } : Session handles (Traced handles State)).adopt
          rig.traced shader).shader)
      (clock : ready.clock = session.clock)
      (settled : Only Call.isAside
        (({ session with state := loaded } : Session handles (Traced handles State)).adopt
          rig.traced shader).state ready.state) :
      Readied rig session ready

/-- A session is made ready and then draws at most one frame. Unless the frame is forced the loop
animates. -/
inductive Draws (rig : Rig handles State) (forced : Bool)
    (session : Session handles (Traced handles State)) :
    Session handles (Traced handles State) → Prop where
  | nothing {after : Session handles (Traced handles State)} (readied : Readied rig session after) :
      Draws rig forced session after
  | frame {ready : Session handles (Traced handles State)} {shader : RunningShader handles}
      (readied : Readied rig session ready) (running : ready.shader = some shader)
      (awake : forced = true ∨ ready.wantsTick = true) :
      Draws rig forced session (ready.drawShader rig.traced shader).2

section Steps

variable (rig : Rig handles State)

/-- Drawing at once draws a frame if there is a shader, and nothing without one. -/
theorem redraw_draws {forced : Bool} {session ready : Session handles (Traced handles State)}
    (readied : Readied rig session ready) (awake : forced = true ∨ ready.wantsTick = true) :
    Draws rig forced session (ready.redraw rig.traced).2 := by
  cases running : ready.shader with
  | none =>
    rw [redraw_without_shader running]
    exact .nothing readied
  | some shader =>
    rw [redraw_of_shader running]
    exact .frame readied running awake

/-- The build of an evaluation draws nothing and takes in no program, whether it succeeds or fails.
-/
theorem built_aside (session : Session handles (Traced handles State)) (source : String) :
    Only Call.isAside session.state (session.built rig.traced source).2 :=
  build_follows rig.traced.driver Only.trans
    (fun stage source traced => .asked (Call.compileStage stage source) _ traced fun _ => rfl)
    (fun stage traced => .told (.releaseStage stage) _ traced rfl)
    (fun vertex fragment traced => .asked (Call.link vertex fragment) _ traced fun _ => rfl)
    (fun program traced => .told (.useProgram program) _ traced rfl) _ _ session.state

/-- An installation takes in the shader's program, which readies the session, and then draws one
frame of it. The loop of the shader starts anew. -/
theorem install_draws (session : Session handles (Traced handles State))
    (shader : RunningShader handles) (loaded : Traced handles State)
    (built : Only Call.isAside session.state loaded)
    (registry : shader.registry = session.registry)
    (anew : shader.frames = .start shader.frames.idleFrames) (source document : String)
    (outcome : EvalOutcome) :
    Draws rig false session
      ((({ session with state := loaded } : Session handles (Traced handles State)).adopt
        rig.traced shader).install rig.traced source document outcome).2 := by
  have awake : shader.frames.isAnimating = true := by
    rw [anew]
    rfl
  unfold Session.install
  cases sizeDirective? source with
  | none =>
    exact redraw_draws rig (.installed _ shader loaded built registry anew rfl rfl (.refl _ _))
      (.inr awake)
  | some mode =>
    exact redraw_draws rig (.installed _ shader loaded built registry anew rfl rfl
      (.told (.setPresentation mode) (rig.canvas.setPresentation mode) _ rfl)) (.inr awake)

/-- An evaluation draws one frame if it installs its source. If the source is rejected, the calls
that were made have nothing to do with a frame. -/
theorem eval_draws (session : Session handles (Traced handles State)) (source document : String) :
    Draws rig false session (session.eval rig.traced source document).2 := by
  have built := built_aside rig session source
  have ends := eval_ends rig.traced session source document
  generalize session.eval rig.traced source document = result at ends
  cases ends with
  | unbuilt failure state failed =>
    rw [failed] at built
    exact .nothing (.kept _ (.inl rfl) rfl built)
  | withoutQuad program ready state text stopped succeeded failed =>
    rw [succeeded] at built
    have unplaced : Only Call.isAside ready state := .answered Call.createQuad failed fun _ => rfl
    exact .nothing (.kept _ (.inl rfl) rfl ((built.trans unplaced).trans
      (.told (.releaseProgram program) (rig.driver.releaseProgram program) state rfl)))
  | reloaded shader program ready running succeeded =>
    rw [succeeded] at built
    have released := built.trans (.told (.releaseProgram shader.program)
      (rig.driver.releaseProgram shader.program) ready rfl)
    exact install_draws rig session (shader.replaced program) _ released
      (by rw [Session.registry, running]; rfl) rfl source document .reloaded
  | started program quad ready state stopped succeeded placed =>
    rw [succeeded] at built
    have created : Only Call.isAside ready state := .answered Call.createQuad placed fun _ => rfl
    exact install_draws rig session (.fresh program quad session.options.idleFrames) _
      (built.trans created) (by rw [Session.registry, stopped]; rfl) rfl source document .started

/-- Every operation makes the session ready and then draws at most one frame. This is the step of
all inductions over runs that look at frames. -/
theorem perform_draws (session : Session handles (Traced handles State)) (operation : Operation) :
    Draws rig operation.isForced session (session.perform rig.traced operation).2 := by
  have ends := perform_ends rig.traced session operation
  generalize session.perform rig.traced operation = result at ends
  cases ends with
  | evaluated source document => exact eval_draws rig session source document
  | passed operation answer notices other unrenewed unreported =>
    exact .nothing (.kept _ (.inl rfl) rfl (.refl _ _))
  | changed operation answer name index edit changed other renewed edited =>
    obtain ⟨shader, slot, running, seen, rfl⟩ := edit_ends edited
    exact .nothing (.changed _ shader slot name index edit running seen rfl rfl (.refl _ _))
  | drawn operation other awake =>
    exact redraw_draws rig (.kept _ (.inl rfl) rfl (.refl _ _)) awake
  | resized =>
    have sized : Only Call.isAside session.state
        (rig.traced.canvas.resizeDrawable (rig.canvas.clientSize session.state.state)
          session.state) := .told (.resizeDrawable _) _ _ rfl
    have fitted := sized.trans (.told (.setViewport (rig.canvas.clientSize session.state.state))
      (rig.driver.setViewport (rig.canvas.clientSize session.state.state)) _ rfl)
    exact redraw_draws rig (.kept _ (.inl rfl) rfl fitted) (.inl rfl)
  | presented presentation =>
    exact .nothing (.kept _ (.inl rfl) rfl (.told (.setPresentation presentation)
      (rig.canvas.setPresentation presentation) session.state rfl))
  | released shader running =>
    have program : Only Call.isAside session.state
        (rig.traced.driver.releaseProgram shader.program session.state) :=
      .told (.releaseProgram shader.program) _ _ rfl
    exact .nothing (.kept _ (.inr rfl) rfl (program.trans
      (.told (.releaseQuad shader.quad) (rig.driver.releaseQuad shader.quad) _ rfl)))

/-- What survives making ready and survives a frame survives every run. The induction is on the
operations, and each of them is taken apart as above. -/
theorem run_keeps (Kept : Session handles (Traced handles State) → Prop)
    (readied : ∀ {session ready}, Kept session → Readied rig session ready → Kept ready)
    (drawn : ∀ {ready shader}, Kept ready → ready.shader = some shader →
      Kept (ready.drawShader rig.traced shader).2)
    {session : Session handles (Traced handles State)} (kept : Kept session)
    (operations : List Operation) : Kept (session.after rig.traced operations) := by
  induction operations generalizing session with
  | nil => exact kept
  | cons operation rest induction =>
    refine induction ?_
    have draws := perform_draws rig session operation
    generalize (session.perform rig.traced operation).2 = after at draws
    cases draws with
    | nothing ready => exact readied kept ready
    | frame ready running awake => exact drawn (readied kept ready) running

end Steps

end LiveShader
