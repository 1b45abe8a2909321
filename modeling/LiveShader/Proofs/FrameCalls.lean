import LiveShader.Proofs.Frames
import LiveShader.Proofs.Slots

/-!
# The calls of a frame

A frame is told in full by its shader, by the values that are uploaded for each slot, and by what
the canvas says when the picture is shown. The verdicts on the uploads are put aside: what the
driver makes of an upload does not change the calls of the frame.

What comes before the frame draws nothing. It may take in a program, which asks for the program's
uniforms and then for the place of each. So a call that stands once in every frame is made as often
as the clock is read.
-/
namespace LiveShader

variable {handles : Handles} {State Location : Type} (rig : Rig handles State)

/-- The upload of a slot with given values, if it has a place; the verdict is put aside. -/
def Slot.upload? (slot : Slot handles.Location) (values : List Float32) : Option (Call handles) :=
  slot.location.map fun location => .upload location slot.shape values (.ok ())

/-- The uploads of the slots that have a place, in the order of their names. -/
def Registry.uploads (registry : Registry handles.Location)
    (values : String → Slot handles.Location → List Float32) : List (Call handles) :=
  registry.slots.entries.filterMap fun (name, slot) => slot.upload? (values name slot)

/-- Sending the slots makes their uploads and no other call. -/
theorem send_calls (registry : Registry handles.Location) (inputs : FrameInputs)
    (traced : Traced handles State) :
    ∃ made, (registry.send rig.traced.driver inputs traced).2.2.calls = traced.calls ++ made ∧
      made.map Call.unjudged = registry.uploads (Registry.payload inputs) := by
  have sent (name : String) (slot : Slot handles.Location)
      (state : Traced handles State × List FailedUpload) :
      ∃ made, (Registry.sendSlot rig.traced.driver inputs name slot state).2.1.calls =
          state.1.calls ++ made ∧
        made.map Call.unjudged = (slot.upload? (Registry.payload inputs name slot)).toList := by
    unfold Registry.sendSlot Slot.upload?
    cases slot.location with
    | none => exact ⟨[], (List.append_nil _).symm, rfl⟩
    | some location =>
      rcases answer : rig.driver.upload location slot.shape (Registry.payload inputs name slot)
        state.1.state with ⟨refused | _, after⟩
      all_goals
        simp only [Rig.traced, Driver.traced, Traced.ask, answer]
        exact ⟨[_], rfl, rfl⟩
  have steps (entries : List (String × Slot handles.Location))
      (state : Traced handles State × List FailedUpload) :
      ∃ made, (NameTable.stepEntries (Registry.sendSlot rig.traced.driver inputs) entries
          state).2.1.calls = state.1.calls ++ made ∧
        made.map Call.unjudged = entries.filterMap fun (name, slot) =>
          slot.upload? (Registry.payload inputs name slot) := by
    induction entries generalizing state with
    | nil => exact ⟨[], (List.append_nil _).symm, rfl⟩
    | cons entry rest induction =>
      obtain ⟨name, slot⟩ := entry
      obtain ⟨made, grown, first⟩ := sent name slot state
      obtain ⟨more, grownMore, later⟩ := induction
        (Registry.sendSlot rig.traced.driver inputs name slot state).2
      refine ⟨made ++ more, ?_, ?_⟩
      · rw [← List.append_assoc, ← grown]
        exact grownMore
      · rw [List.map_append, first, later, List.filterMap_cons]
        dsimp only
        cases slot.upload? (Registry.payload inputs name slot) <;> rfl
  exact steps registry.slots.entries (traced, [])

/-- What the runtime gives to the next frame of a session: the time, and the size drawn into. -/
def Session.nextInputs (session : Session handles (Traced handles State)) : FrameInputs :=
  ⟨session.clock.sample.1.toFloat32, rig.canvas.drawableSize session.state.state⟩

/-- The calls of a frame in full: the picture is cleared, every slot that has a place is uploaded in
the order of the names, and the picture is drawn and shown. The verdicts are put aside. -/
def frameCalls (shader : RunningShader handles)
    (values : String → Slot handles.Location → List Float32) (shown : Option String) :
    List (Call handles) :=
  .beginFrame shader.program shader.quad ::
    (shader.registry.uploads values ++ [.drawQuad, .present shown])

/-- What a frame of some seconds uploads for a slot, by what the slot is before the frame. -/
def sentValues (inputs : FrameInputs) (elapsed : Float32) (name : String) (slot : Slot Location) :
    List Float32 :=
  Registry.payload inputs name (if isReserved name then slot else slot.advance elapsed)

/-- The uploads once the modifiers have run are told by the slots before that. -/
theorem uploads_advance (registry : Registry handles.Location) (elapsed : Float32)
    (inputs : FrameInputs) :
    (registry.advance elapsed).uploads (Registry.payload inputs) =
      registry.uploads (sentValues inputs elapsed) := by
  refine List.filterMap_map.trans ?_
  congr 1
  funext ⟨name, slot⟩
  show Slot.upload? (if isReserved name then slot else slot.advance elapsed) _ = _
  unfold sentValues
  split <;> rfl

/-- A frame makes its calls and no other. -/
theorem draw_calls (session : Session handles (Traced handles State))
    (shader : RunningShader handles) :
    ∃ frame shown,
      (session.drawShader rig.traced shader).2.state.calls = session.state.calls ++ frame ∧
      frame.map Call.unjudged = frameCalls shader (sentValues (session.nextInputs rig)
        (shader.frames.elapsed session.clock.sample.1)) shown := by
  obtain ⟨made, grown, uploads⟩ := send_calls rig
    (shader.registry.advance (shader.frames.elapsed session.clock.sample.1))
    (session.nextInputs rig)
    (rig.traced.driver.beginFrame shader.program shader.quad session.state)
  rw [uploads_advance] at uploads
  have drawn : (session.drawShader rig.traced shader).2.state =
      (rig.traced.canvas.present (rig.traced.driver.drawQuad
        ((shader.registry.advance (shader.frames.elapsed session.clock.sample.1)).send
          rig.traced.driver (session.nextInputs rig)
          (rig.traced.driver.beginFrame shader.program shader.quad session.state)).2.2)).2 := rfl
  generalize (Registry.send rig.traced.driver _ _ _).2.2 = sent at grown drawn
  rw [drawn]
  generalize answered : (rig.canvas.present (rig.driver.drawQuad sent.state)).1 = shown
  refine ⟨.beginFrame shader.program shader.quad :: (made ++ [.drawQuad, .present shown]), shown,
    ?_, ?_⟩
  · have begun : (rig.traced.driver.beginFrame shader.program shader.quad session.state).calls =
        session.state.calls ++ [.beginFrame shader.program shader.quad] := rfl
    rw [begun, List.append_assoc, List.singleton_append] at grown
    show sent.calls ++ [.drawQuad] ++
      [.present (rig.canvas.present (rig.driver.drawQuad sent.state)).1] = _
    rw [grown, answered, List.append_assoc, List.append_assoc]
    rfl
  · rw [List.map_cons, List.map_append, uploads]
    rfl

/-- A frame of the running shader of a ready session, with the values uploaded for its slots. -/
structure FullFrame (values : String → Slot handles.Location → List Float32)
    (ready after : Session handles (Traced handles State)) (shader : RunningShader handles) :
    Prop where
  running : ready.shader = some shader
  /-- The clock is read once. -/
  clock : after.clock = ready.clock.sample.2
  /-- The calls are those of a frame of the shader. -/
  calls : ∃ frame shown, after.state.calls = ready.state.calls ++ frame ∧
    frame.map Call.unjudged = frameCalls shader values shown
  /-- The shader runs on with its program and its quad and with the same names, its slots have been
  through a frame of the time that the loop took it to last, and the loop is a frame older. -/
  left : ∃ drawn, after.shader = some drawn ∧ drawn.program = shader.program ∧
    drawn.quad = shader.quad ∧
    drawn.frames =
      (shader.frames.beginFrame ready.clock.sample.1).endFrame drawn.registry.readsTime ∧
    ∀ name, Option.Rel (Slot.Framed name (shader.frames.elapsed ready.clock.sample.1))
      (shader.registry.slots.get? name) (drawn.registry.slots.get? name)

/-- A drawn shader has had a full frame, with the time and the size for the runtime's uniforms and
its own components for every other. -/
theorem draw_is_full {ready : Session handles (Traced handles State)}
    {shader : RunningShader handles} (running : ready.shader = some shader) :
    FullFrame (sentValues (ready.nextInputs rig) (shader.frames.elapsed ready.clock.sample.1))
      ready (ready.drawShader rig.traced shader).2 shader := by
  obtain ⟨frame, shown, grown, calls⟩ := draw_calls rig ready shader
  have framed := Registry.frame_slot rig.traced.driver shader.registry
    (shader.frames.elapsed ready.clock.sample.1) (ready.nextInputs rig)
    (rig.traced.driver.beginFrame shader.program shader.quad ready.state)
  exact ⟨running, rfl, ⟨frame, shown, grown, calls⟩, _, rfl, rfl, rfl, rfl, framed⟩

/-- A redraw of a running shader is a full frame. -/
theorem redraw_is_full {ready : Session handles (Traced handles State)}
    {shader : RunningShader handles} (running : ready.shader = some shader) :
    FullFrame (sentValues (ready.nextInputs rig) (shader.frames.elapsed ready.clock.sample.1))
      ready (ready.perform rig.traced .redraw).2 shader := by
  show FullFrame _ ready (ready.redraw rig.traced).2 shader
  rw [redraw_of_shader running]
  exact draw_is_full rig running

/-- What is uploaded for a uniform that hosts see, unlike the runtime's, is what its slot holds. -/
theorem payload_seen (inputs : FrameInputs) {name : String} (seen : isReserved name = false)
    (slot : Slot Location) : Registry.payload inputs name slot = slot.values := by
  obtain ⟨notTime, notSize⟩ : name ≠ timeUniform ∧ name ≠ resolutionUniform := by
    simpa [isReserved] using seen
  unfold Registry.payload
  rw [if_neg notTime, if_neg notSize]

/-- Values that carry all components of a slot through a frame of some seconds: each is the one
before the frame, or what its modifier makes of that. -/
structure Slot.CarriedBy (slot : Slot Location) (elapsed : Float32) (values : List Float32) :
    Prop where
  count : values.length = slot.count
  still : ∀ (place : Nat) value, slot.component? place = some ⟨value, none⟩ →
    values[place]? = some value
  moved : ∀ (place : Nat) value modifier, slot.component? place = some ⟨value, some modifier⟩ →
    values[place]? = some (modifier.apply value elapsed)

/-- A uniform that hosts see is uploaded with all its components, as the modifiers leave them. -/
theorem sent_carries (inputs : FrameInputs) (elapsed : Float32) {name : String}
    (seen : isReserved name = false) (slot : Slot Location) :
    slot.CarriedBy elapsed (sentValues inputs elapsed name slot) := by
  have sent : sentValues inputs elapsed name slot = (slot.advance elapsed).values := by
    unfold sentValues
    rw [payload_seen inputs seen, seen]
    rfl
  have runs := slot.advance_runs_once elapsed
  rw [sent]
  refine ⟨runs.counts.1, fun place value held => ?_, fun place value modifier held => ?_⟩
  · exact (Slot.component_iff.mp (runs.component_still held)).1
  · exact (Slot.component_iff.mp (runs.component_moved held)).1

/-- The uniforms of a program as the driver lists them, each with the place given for it. -/
abbrev Listing (handles : Handles) := List (ActiveUniform × Option handles.Location)

/-- The calls that take in a program. -/
def introspection (program : handles.Program) (listing : Listing handles) : List (Call handles) :=
  .activeUniforms program (listing.map (·.1)) ::
    listing.map fun (active, place) => .uniformLocation program active.name place

/-- A listed uniform as the registry takes it in. -/
def declaration (listed : ActiveUniform × Option Location) : Declared Location :=
  ⟨baseName listed.1.name, .ofType listed.1.type, listed.1.componentCount, listed.2⟩

/-- Taking in a program makes the calls of its listing, and declares what is listed. -/
theorem declared_calls (rig : Rig handles State) (program : handles.Program)
    (traced : Traced handles State) :
    ∃ listing : Listing handles,
      (rig.traced.driver.declared program traced).2.calls =
        traced.calls ++ introspection program listing ∧
      (rig.traced.driver.declared program traced).1 = listing.map declaration := by
  have located (actives : List ActiveUniform) (traced : Traced handles State) :
      ∃ listing : Listing handles, listing.map (·.1) = actives ∧
        (locateAll rig.traced.driver program actives traced).2.calls = traced.calls ++
          listing.map (fun (active, place) => .uniformLocation program active.name place) ∧
        (locateAll rig.traced.driver program actives traced).1 = listing.map declaration := by
    induction actives generalizing traced with
    | nil => exact ⟨[], rfl, (List.append_nil _).symm, rfl⟩
    | cons active rest induction =>
      obtain ⟨listing, listed, grown, declared⟩ := induction
        (rig.traced.driver.uniformLocation program active.name traced).2
      have asked : (rig.traced.driver.uniformLocation program active.name traced).2.calls =
          traced.calls ++ [.uniformLocation program active.name
            (rig.traced.driver.uniformLocation program active.name traced).1] := rfl
      refine ⟨(active, (rig.traced.driver.uniformLocation program active.name traced).1) ::
        listing, congrArg (List.cons active) listed, ?_, congrArg (List.cons _) declared⟩
      rw [asked, List.append_assoc] at grown
      exact grown
  obtain ⟨listing, listed, grown, declared⟩ := located
    (rig.driver.activeUniforms program traced.state).1
    (rig.traced.driver.activeUniforms program traced).2
  refine ⟨listing, ?_, declared⟩
  have asked : (rig.traced.driver.activeUniforms program traced).2.calls = traced.calls ++
      [.activeUniforms program (rig.driver.activeUniforms program traced.state).1] := rfl
  rw [asked, List.append_assoc, List.singleton_append] at grown
  unfold introspection
  rw [listed]
  exact grown

/-- Making ready draws nothing and leaves the clock alone. -/
theorem readied_undrawn {session ready : Session handles (Traced handles State)}
    (readied : Readied rig session ready) :
    Only (fun call => !call.draws) session.state ready.state ∧ ready.clock = session.clock := by
  have apart {before after : Traced handles State} (aside : Only Call.isAside before after) :
      Only (fun call => !call.draws) before after := by
    refine aside.widened fun call unread => ?_
    rw [Call.isAside, Bool.and_eq_true] at unread
    exact unread.1
  cases readied with
  | kept shader clock aside => exact ⟨apart aside, clock⟩
  | changed old slot name index edit running seen shader clock aside => exact ⟨apart aside, clock⟩
  | installed shader loaded built registry anew adopted clock settled =>
    obtain ⟨listing, listed, -⟩ := declared_calls rig shader.program loaded
    have taken : Only (fun call => !call.draws) loaded
        (rig.traced.driver.declared shader.program loaded).2 := by
      refine ⟨introspection shader.program listing, listed, ?_⟩
      intro call member
      rcases List.mem_cons.mp member with here | located
      · rw [here]
        rfl
      · obtain ⟨entry, -, here⟩ := List.mem_map.mp located
        rw [← here]
        rfl
    exact ⟨((apart built).trans taken).trans (apart settled), clock⟩

/-- An operation makes the session ready without drawing, and then draws at most one full frame.
Unless the operation forces the frame the loop animates. -/
theorem perform_frames (session : Session handles (Traced handles State))
    (operation : Operation) :
    ∃ ready, Readied rig session ready ∧
      Only (fun call => !call.draws) session.state ready.state ∧ ready.clock = session.clock ∧
      ((session.perform rig.traced operation).2 = ready ∨
        ∃ shader, FullFrame
          (sentValues (ready.nextInputs rig) (shader.frames.elapsed ready.clock.sample.1)) ready
          (session.perform rig.traced operation).2 shader ∧
          (operation.isForced = true ∨ shader.frames.isAnimating = true)) := by
  have draws := perform_draws rig session operation
  generalize (session.perform rig.traced operation).2 = after at draws
  cases draws with
  | nothing readied =>
    obtain ⟨undrawn, clock⟩ := readied_undrawn rig readied
    exact ⟨after, readied, undrawn, clock, .inl rfl⟩
  | @frame ready shader readied running awake =>
    obtain ⟨undrawn, clock⟩ := readied_undrawn rig readied
    unfold Session.wantsTick at awake
    rw [running] at awake
    exact ⟨ready, readied, undrawn, clock, .inr ⟨shader, draw_is_full rig running, awake⟩⟩

/-- A call that stands once in every frame and nowhere else. -/
structure StandsOnce (counted : Call handles → Bool) : Prop where
  drawing : ∀ call, counted call = true → call.draws = true
  uploads : ∀ location shape values answer,
    counted (.upload location shape values answer) = false
  once : ∀ program quad shown,
    [.beginFrame program quad, .drawQuad, .present shown].countP counted = 1

namespace StandsOnce

/-- The picture is cleared once. -/
theorem clears : StandsOnce (Call.clears : Call handles → Bool) where
  drawing := by
    intro call
    cases call <;> simp [Call.clears, Call.draws]
  uploads _ _ _ _ := rfl
  once _ _ _ := rfl

/-- The picture is drawn once. -/
theorem paints : StandsOnce (Call.paints : Call handles → Bool) where
  drawing := by
    intro call
    cases call <;> simp [Call.paints, Call.draws]
  uploads _ _ _ _ := rfl
  once _ _ _ := rfl

/-- The picture is shown once. -/
theorem shows : StandsOnce (Call.shows : Call handles → Bool) where
  drawing := by
    intro call
    cases call <;> simp [Call.shows, Call.draws]
  uploads _ _ _ _ := rfl
  once _ _ _ := rfl

variable {counted : Call handles → Bool}

/-- Where nothing is drawn the call is not made. -/
theorem undrawn (once : StandsOnce counted) {before after : Traced handles State}
    (only : Only (fun call => !call.draws) before after) :
    after.calls.countP counted = before.calls.countP counted := by
  obtain ⟨made, grown, admitted⟩ := only
  have none : made.countP counted = 0 := by
    rw [List.countP_eq_zero]
    intro call member counts
    have draws : (!call.draws) = true := admitted call member
    rw [once.drawing call counts] at draws
    cases draws
  rw [grown, List.countP_append, none, Nat.add_zero]

/-- In a frame the call is made once. -/
theorem framed (once : StandsOnce counted)
    {values : String → Slot handles.Location → List Float32}
    {ready after : Session handles (Traced handles State)} {shader : RunningShader handles}
    (full : FullFrame values ready after shader) :
    after.state.calls.countP counted = ready.state.calls.countP counted + 1 := by
  obtain ⟨frame, shown, grown, calls⟩ := full.calls
  have judged (call : Call handles) : counted call.unjudged = counted call := by
    cases call with
    | upload location shape values answer =>
      exact (once.uploads ..).trans (once.uploads ..).symm
    | _ => rfl
  have unsent (registry : Registry handles.Location) :
      (registry.uploads values).countP counted = 0 := by
    rw [List.countP_eq_zero]
    intro call member
    obtain ⟨entry, -, sent⟩ := List.mem_filterMap.mp member
    obtain ⟨location, -, here⟩ := Option.map_eq_some_iff.mp sent
    rw [← here, once.uploads]
    exact Bool.false_ne_true
  have one : (frame.map Call.unjudged).countP counted = 1 := by
    have ends := once.once shader.program shader.quad shown
    rw [List.countP_cons] at ends
    rw [calls, frameCalls, List.countP_cons, List.countP_append, unsent, Nat.zero_add]
    exact ends
  have same : frame.countP counted = (frame.map Call.unjudged).countP counted := by
    rw [List.countP_map]
    exact List.countP_congr fun call _ => by rw [Function.comp_apply, judged]
  rw [grown, List.countP_append, same, one]

end StandsOnce

/-- A call that stands once in every frame is made as often as the clock is read. -/
theorem calls_counted {counted : Call handles → Bool} (once : StandsOnce counted)
    (options : SessionOptions) (clock : Clock) (state : State) (operations : List Operation) :
    let session :=
      (Session.start rig.traced options clock (.begin state)).after rig.traced operations
    session.state.calls.countP counted = session.clock.taken := by
  refine run_keeps rig (fun session => session.state.calls.countP counted = session.clock.taken)
    ?_ ?_ ?_ operations
  · intro session ready same readied
    obtain ⟨undrawn, clock⟩ := readied_undrawn rig readied
    rw [once.undrawn undrawn, clock]
    exact same
  · intro ready shader same running
    rw [once.framed (draw_is_full rig running), same]
    rfl
  · exact once.undrawn (.told (.setPresentation .fullscreen) _ (.begin state) rfl)

end LiveShader
