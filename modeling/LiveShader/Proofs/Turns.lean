import LiveShader.Proofs.FrameCalls
import LiveShader.Proofs.Reload

/-!
# Turns of operations

Which component an operation changes is told by the operation, and whether it installs a program is
told by its answer. An operation's turn is what it does before it may draw: it leaves the shader as
it is, changes the component that it names, takes in the uniforms that the driver lists for a
program, or gives the shader back. Making ready says the same of an operation that is not known;
here the operation and its answer stand beside it.
-/
namespace LiveShader

variable {handles : Handles} {State : Type}

/-- The component that an operation asks to change, by name and index, and the change. -/
def Operation.change? : Operation → Option (String × Nat × Edit Modifier)
  | .apply (.change name index change) => some (name, index, change.map Formula.modifier)
  | .edit name index change => some (name, index, change)
  | _ => none

/-- The change that an operation makes of a component, if it reaches it. -/
def Session.editAt {Whole : Type} (session : Session handles Whole) (operation : Operation)
    (name : String) (index : Nat) : Option (Edit Modifier) :=
  match operation.change?, session.slot? name with
  | some (changed, place, edit), some slot =>
    if changed = name ∧ index = place % slot.count then some edit else none
  | _, _ => none

/-- What an operation makes of a session before it draws, by its answer. The answer tells whether a
program was installed, and the operation which component it changes. -/
inductive Turn (session : Session handles (Traced handles State)) :
    Operation → Answer → Session handles (Traced handles State) → Prop where
  /-- No component is changed, and the shader stays. -/
  | kept {operation : Operation} {answer : Answer} {ready : Session handles (Traced handles State)}
      (unchanged : ∀ name index, session.editAt operation name index = none)
      (unrenewed : answer.renews = false) (shader : ready.shader = session.shader)
      (aside : Only Call.isAside session.state ready.state) : Turn session operation answer ready
  /-- One component is changed. -/
  | changed {operation : Operation} {answer : Answer}
      {ready : Session handles (Traced handles State)} {old : RunningShader handles}
      {slot : Slot handles.Location} {name : String} {index : Nat} {edit : Edit Modifier}
      (change : operation.change? = some (name, index, edit)) (renewed : answer.renews = true)
      (running : session.shader = some old) (seen : old.registry.get? name = some slot)
      (shader : ready.shader = some (old.changed name index edit))
      (aside : Only Call.isAside session.state ready.state) : Turn session operation answer ready
  /-- A listed program is taken in, and its loop starts anew. -/
  | installed {operation : Operation} {answer : Answer}
      {ready : Session handles (Traced handles State)} {shader : RunningShader handles}
      {listing : Listing handles} {loaded : Traced handles State} {back : List (Call handles)}
      (unchanging : operation.change? = none) (renewed : answer.renews = true)
      (anew : shader.frames = .start shader.frames.idleFrames)
      (running : ready.shader = some { shader with
        registry := session.registry.adopted (listing.map declaration) session.options.defaults })
      (built : Only Call.isAside session.state loaded)
      (calls : ready.state.calls = loaded.calls ++ introspection shader.program listing ++ back) :
      Turn session operation answer ready
  /-- The shader is given back. -/
  | released {operation : Operation} {answer : Answer}
      {ready : Session handles (Traced handles State)} (unrenewed : answer.renews = false)
      (stopped : ready.shader = none) : Turn session operation answer ready

/-- An operation makes a session ready in its turn, and then draws at most one frame. -/
inductive TakesTurn (rig : Rig handles State) (session : Session handles (Traced handles State))
    (operation : Operation) (answer : Answer) : Session handles (Traced handles State) → Prop where
  | still {after : Session handles (Traced handles State)} (readied : Readied rig session after)
      (turn : Turn session operation answer after) : TakesTurn rig session operation answer after
  | framed {ready : Session handles (Traced handles State)} {shader : RunningShader handles}
      (readied : Readied rig session ready) (turn : Turn session operation answer ready)
      (running : ready.shader = some shader) :
      TakesTurn rig session operation answer (ready.drawShader rig.traced shader).2

section Turns

variable (rig : Rig handles State) {session : Session handles (Traced handles State)}
  {operation : Operation} {answer : Answer}

/-- An operation that asks for no change changes no component, whichever name and index are looked
at. -/
theorem edit_at_none (session : Session handles (Traced handles State))
    (unchanging : operation.change? = none) (name : String) (index : Nat) :
    session.editAt operation name index = none := by
  unfold Session.editAt
  rw [unchanging]

/-- Drawing at once is the frame of a turn if there is a shader, and ends the turn without one. -/
theorem redraw_turns {ready : Session handles (Traced handles State)}
    (readied : Readied rig session ready) (turn : Turn session operation answer ready) :
    TakesTurn rig session operation answer (ready.redraw rig.traced).2 := by
  cases running : ready.shader with
  | none =>
    rw [redraw_without_shader running]
    exact .still readied turn
  | some shader =>
    rw [redraw_of_shader running]
    exact .framed readied turn running

/-- Where the shader and the clock stay, it is a turn without a frame. -/
theorem kept_turns {after : Session handles (Traced handles State)}
    (unchanging : operation.change? = none) (unrenewed : answer.renews = false)
    (shader : after.shader = session.shader) (clock : after.clock = session.clock)
    (aside : Only Call.isAside session.state after.state) :
    TakesTurn rig session operation answer after :=
  .still (.kept after (.inl shader) clock aside)
    (.kept (edit_at_none session unchanging) unrenewed shader aside)

/-- Where the shader and the clock stay before a frame, it is a turn. -/
theorem drawn_turns {ready : Session handles (Traced handles State)}
    (unchanging : operation.change? = none) (unrenewed : answer.renews = false)
    (shader : ready.shader = session.shader) (clock : ready.clock = session.clock)
    (aside : Only Call.isAside session.state ready.state) :
    TakesTurn rig session operation answer (ready.redraw rig.traced).2 :=
  redraw_turns rig (.kept ready (.inl shader) clock aside)
    (.kept (edit_at_none session unchanging) unrenewed shader aside)

/-- An installation takes in the listed program and draws it. The answer says so, which sets it
apart from an evaluation that was rejected. -/
theorem install_turns (shader : RunningShader handles) (loaded : Traced handles State)
    (built : Only Call.isAside session.state loaded) (registry : shader.registry = session.registry)
    (anew : shader.frames = .start shader.frames.idleFrames)
    (unchanging : operation.change? = none) (renewed : answer.renews = true)
    (source document : String) (outcome : EvalOutcome) :
    TakesTurn rig session operation answer
      ((({ session with state := loaded } : Session handles (Traced handles State)).adopt
        rig.traced shader).install rig.traced source document outcome).2 := by
  obtain ⟨listing, calls, declared⟩ := declared_calls rig shader.program loaded
  have adopted : (({ session with state := loaded } :
      Session handles (Traced handles State)).adopt rig.traced shader).shader =
        some { shader with
          registry := session.registry.adopted (listing.map declaration)
            session.options.defaults } := by
    rw [← registry, ← declared]
    rfl
  unfold Session.install
  cases sizeDirective? source with
  | none =>
    exact redraw_turns rig (.installed _ shader loaded built registry anew rfl rfl (.refl _ _))
      (.installed unchanging renewed anew adopted built (calls.trans (List.append_nil _).symm))
  | some mode =>
    have asked : (rig.traced.canvas.setPresentation mode
        (rig.traced.driver.declared shader.program loaded).2).calls =
          loaded.calls ++ introspection shader.program listing ++ [.setPresentation mode] :=
      congrArg (· ++ [Call.setPresentation mode]) calls
    exact redraw_turns rig (.installed _ shader loaded built registry anew rfl rfl
      (.told (.setPresentation mode) (rig.canvas.setPresentation mode) _ rfl))
      (.installed unchanging renewed anew adopted built asked)

/-- An evaluation installs its program, or leaves the shader as it was and says so by its answer. -/
theorem eval_turns (session : Session handles (Traced handles State)) (source document : String) :
    TakesTurn rig session (.eval source document)
      (.outcome (session.eval rig.traced source document).1)
      (session.eval rig.traced source document).2 := by
  have built := built_aside rig session source
  have ends := eval_ends rig.traced session source document
  generalize session.eval rig.traced source document = result at ends
  cases ends with
  | unbuilt failure state failed =>
    rw [failed] at built
    exact kept_turns rig rfl rfl rfl rfl built
  | withoutQuad program ready state text stopped succeeded failed =>
    rw [succeeded] at built
    have unplaced : Only Call.isAside ready state := .answered Call.createQuad failed fun _ => rfl
    exact kept_turns rig rfl rfl rfl rfl ((built.trans unplaced).trans
      (.told (.releaseProgram program) (rig.driver.releaseProgram program) state rfl))
  | reloaded shader program ready running succeeded =>
    rw [succeeded] at built
    have released := built.trans (.told (.releaseProgram shader.program)
      (rig.driver.releaseProgram shader.program) ready rfl)
    exact install_turns rig (shader.replaced program) _ released
      (by rw [Session.registry, running]; rfl) rfl rfl rfl source document .reloaded
  | started program quad ready state stopped succeeded placed =>
    rw [succeeded] at built
    have created : Only Call.isAside ready state := .answered Call.createQuad placed fun _ => rfl
    exact install_turns rig (.fresh program quad session.options.idleFrames) _
      (built.trans created) (by rw [Session.registry, stopped]; rfl) rfl rfl rfl source document
      .started

/-- A change through a handle that finds its component is the turn of an operation that asks for it,
and it renews the loop. Nothing is drawn. -/
theorem edit_turns {name : String} {index : Nat} {edit : Edit Modifier}
    (change : operation.change? = some (name, index, edit)) (renewed : answer.renews = true)
    {changed : Session handles (Traced handles State)}
    (edited : session.edit? name index edit = some changed) :
    TakesTurn rig session operation answer changed := by
  obtain ⟨shader, slot, running, seen, rfl⟩ := edit_ends edited
  exact .still (.changed _ shader slot name index edit running seen rfl rfl (.refl _ _))
    (.changed change renewed running seen rfl (.refl _ _))

/-- A change of what hosts do not see reaches nothing: shader, clock and driver stay as they are,
and the answer does not say that the loop was renewed. -/
theorem unseen_turns {name : String} {index : Nat} {edit : Edit Modifier}
    (change : operation.change? = some (name, index, edit)) (unrenewed : answer.renews = false)
    (unseen : session.edit? name index edit = none)
    {after : Session handles (Traced handles State)} (shader : after.shader = session.shader)
    (clock : after.clock = session.clock) (state : after.state = session.state) :
    TakesTurn rig session operation answer after := by
  have aside : Only Call.isAside session.state after.state := by
    rw [state]
    exact .refl _ _
  have noSlot : session.slot? name = none := by
    unfold Session.edit? at unseen
    unfold Session.slot?
    cases running : session.shader with
    | none => rfl
    | some shader =>
      cases seen : shader.registry.get? name with
      | none => exact seen
      | some slot => simp [running, seen] at unseen
  refine .still (.kept after (.inl shader) clock aside)
    (.kept (fun other place => ?_) unrenewed shader aside)
  unfold Session.editAt
  rw [change]
  by_cases here : name = other
  · subst here
    rw [noSlot]
  · cases session.slot? other with
    | none => rfl
    | some slot => exact if_neg fun same => here same.1

/-- A request that asks for no change makes none, whatever it reads. -/
theorem read_turns {command : Command} (reads : (Operation.apply command).change? = none) :
    TakesTurn rig session (.apply command) (.reply (session.apply command).1)
      (session.apply command).2 := by
  have ends := apply_ends session command
  generalize session.apply command = result at ends
  cases ends with
  | answered command reply other =>
    have unrenewed : (Answer.reply reply).renews = false := by
      cases reply <;> first | rfl | exact absurd rfl other
    exact kept_turns rig reads unrenewed rfl rfl (.refl _ _)
  | unknown command name => exact kept_turns rig reads rfl rfl rfl (.refl _ _)
  | changed name index edit changed edited => cases reads

/-- A request for a change makes it, or there is nothing to change, be it for want of a shader or of
the name. -/
theorem change_turns (session : Session handles (Traced handles State)) (name : String)
    (index : Nat) (edit : Edit Formula) :
    TakesTurn rig session (.apply (.change name index edit))
      (.reply (session.apply (.change name index edit)).1)
      (session.apply (.change name index edit)).2 := by
  unfold Session.apply
  cases running : session.shader with
  | none =>
    have unseen : session.edit? name index (edit.map Formula.modifier) = none := by
      simp only [Session.edit?, running]
    exact unseen_turns rig rfl rfl unseen rfl rfl rfl
  | some shader =>
    cases edited : session.edit? name index (edit.map Formula.modifier) with
    | none =>
      simp only [edited]
      exact unseen_turns rig rfl rfl edited rfl rfl rfl
    | some changed =>
      simp only [edited]
      exact edit_turns rig rfl rfl edited

/-- Every operation takes its turn. The cases are those of the operations; each is one of the lemmas
above, or leaves the shader alone or gives it back. -/
theorem perform_turns (session : Session handles (Traced handles State)) (operation : Operation) :
    TakesTurn rig session operation (session.perform rig.traced operation).1
      (session.perform rig.traced operation).2 := by
  cases operation with
  | eval source document => exact eval_turns rig session source document
  | apply command =>
    cases command with
    | dump => exact read_turns rig rfl
    | get name index => exact read_turns rig rfl
    | change name index edit => exact change_turns rig session name index edit
  | edit name index edit =>
    cases edited : session.edit? name index edit with
    | none =>
      simp only [Session.perform, edited]
      exact unseen_turns rig rfl rfl edited rfl rfl rfl
    | some changed =>
      simp only [Session.perform, edited]
      exact edit_turns rig rfl rfl edited
  | tick =>
    show TakesTurn rig session .tick (.drawn (session.tick rig.traced).1)
      (session.tick rig.traced).2
    unfold Session.tick
    split
    · exact drawn_turns rig rfl rfl rfl rfl (.refl _ _)
    · exact kept_turns rig rfl rfl rfl rfl (.refl _ _)
  | redraw => exact drawn_turns rig rfl rfl rfl rfl (.refl _ _)
  | resize =>
    have sized : Only Call.isAside session.state
        (rig.traced.canvas.resizeDrawable (rig.canvas.clientSize session.state.state)
          session.state) := .told (.resizeDrawable _) _ _ rfl
    exact drawn_turns rig rfl rfl rfl rfl (sized.trans
      (.told (.setViewport (rig.canvas.clientSize session.state.state))
        (rig.driver.setViewport (rig.canvas.clientSize session.state.state)) _ rfl))
  | present presentation =>
    exact kept_turns rig rfl rfl rfl rfl (.told (.setPresentation presentation)
      (rig.canvas.setPresentation presentation) session.state rfl)
  | release =>
    show TakesTurn rig session .release .done (session.release rig.traced)
    unfold Session.release
    cases running : session.shader with
    | none => exact kept_turns rig rfl rfl rfl rfl (.refl _ _)
    | some shader =>
      have program : Only Call.isAside session.state
          (rig.traced.driver.releaseProgram shader.program session.state) :=
        .told (.releaseProgram shader.program) _ _ rfl
      exact .still (.kept _ (.inr rfl) rfl (program.trans
        (.told (.releaseQuad shader.quad) (rig.driver.releaseQuad shader.quad) _ rfl)))
        (.released rfl rfl)

end Turns

end LiveShader
