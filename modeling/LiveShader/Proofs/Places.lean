import LiveShader.Proofs.FrameCalls
import LiveShader.Proofs.Reload

/-!
# Where the uniforms of a frame go

A slot is uploaded to the place that the driver gave for it. That place belongs to the program it
was asked for and to no other, so a slot that kept the place of an earlier program would write into
the wrong uniform. The invariant says that this does not happen: the calls so far hold the listing
of the running shader's program, nothing has been listed or located since, and every slot goes to
the place given there for the last listed uniform of its name, in the shape of that uniform's type.

With that, a frame is told in full. It clears the picture, uploads every slot that has a place, in
the order of the names, and draws and shows the picture once; outside a frame nothing of this is
done. So pictures are cleared, drawn and shown as often as the clock has been read.
-/
namespace LiveShader

variable {handles : Handles} {State Location : Type}

/-- The place a slot goes to, and the shape it goes in. -/
def Slot.bound (slot : Slot Location) : Option Location × Shape := (slot.location, slot.shape)

/-- Every slot goes to the place given for the last listed uniform of its name, in the shape of that
uniform's type. -/
def Registry.GoesBy (registry : Registry Location)
    (listing : List (ActiveUniform × Option Location)) : Prop :=
  ∀ name slot, registry.slots.get? name = some slot →
    ∃ front active place back, listing = front ++ (active, place) :: back ∧
      baseName active.name = name ∧ (∀ other ∈ back, baseName other.1.name ≠ name) ∧
      slot.bound = (place, .ofType active.type)

namespace Registry

/-- Where the slots of a registry go depends on the places and shapes alone. -/
theorem GoesBy.of_bound {listing : List (ActiveUniform × Option Location)}
    {before after : Registry Location} (goes : before.GoesBy listing)
    (same : ∀ name, (after.slots.get? name).map Slot.bound =
      (before.slots.get? name).map Slot.bound) : after.GoesBy listing := by
  intro name slot held
  have bound := same name
  rw [held, Option.map_some] at bound
  obtain ⟨old, found, oldBound⟩ := Option.map_eq_some_iff.mp bound.symm
  obtain ⟨front, active, place, back, listed, named, last, going⟩ := goes name old found
  exact ⟨front, active, place, back, listed, named, last, oldBound.symm.trans going⟩

/-- A registry that took in a listing goes by it, whatever it held before. -/
theorem adopted_goes_by (registry : Registry Location)
    (listing : List (ActiveUniform × Option Location)) (defaults : NameTable (List Float32)) :
    (registry.adopted (listing.map declaration) defaults).GoesBy listing := by
  have rebuilt : (registry.rebuild (listing.map declaration)).1.GoesBy listing := by
    intro name slot held
    obtain ⟨front, uniform, back, old, declared, named, last, rfl⟩ :=
      rebuild_takes registry (listing.map declaration) held
    obtain ⟨first, tail, rfl, rfl, rest⟩ := List.map_eq_append_iff.mp declared
    obtain ⟨listed, others, rfl, rfl, rfl⟩ := List.map_eq_cons_iff.mp rest
    refine ⟨first, listed.1, listed.2, others, rfl, named, ?_, ?_⟩
    · intro other inBack same
      exact last (List.mem_map.mpr ⟨declaration other, List.mem_map_of_mem inBack, same⟩)
    · rw [Slot.bound, taken_location, taken_shape]
      rfl
  exact rebuilt.of_bound fun name => apply_defaults_keeps Slot.bound defaults
    (seeded_view Slot.bound (fun _ _ _ => rfl) defaults name) _ _

end Registry

/-- The calls hold the listing of a shader's program, nothing was listed or located since, and the
shader's slots go by that listing. -/
def Placed (calls : List (Call handles)) (shader : RunningShader handles) : Prop :=
  ∃ (earlier : List (Call handles)) (listing : Listing handles) (later : List (Call handles)),
    calls = earlier ++ (introspection shader.program listing ++ later) ∧
    (∀ call ∈ later, call.introspects = false) ∧ shader.registry.GoesBy listing

/-- A shader stays placed while its slots stay bound and nothing is listed or located. -/
theorem Placed.kept {before after : Traced handles State} {old shader : RunningShader handles}
    (placed : Placed before.calls old) (program : shader.program = old.program)
    (bound : ∀ name, (shader.registry.slots.get? name).map Slot.bound =
      (old.registry.slots.get? name).map Slot.bound)
    (only : Only (fun call => !call.introspects) before after) : Placed after.calls shader := by
  obtain ⟨earlier, listing, later, calls, quiet, goes⟩ := placed
  obtain ⟨made, grown, admitted⟩ := only
  refine ⟨earlier, listing, later ++ made, ?_, ?_, goes.of_bound bound⟩
  · rw [grown, calls, program]
    simp only [List.append_assoc]
  · intro call member
    rcases List.mem_append.mp member with old | new
    · exact quiet call old
    · simpa using admitted call new

/-- A call that is put aside does not list or locate. -/
theorem aside_is_quiet (call : Call handles) (aside : call.isAside = true) :
    (!call.introspects) = true := by
  unfold Call.isAside at aside
  rw [Bool.and_eq_true] at aside
  exact aside.2

variable (rig : Rig handles State)

/-- Making ready keeps the running shader placed; a program that is taken in is placed by its own
listing. -/
theorem readied_placed {session ready : Session handles (Traced handles State)}
    (placed : ∀ shader, session.shader = some shader → Placed session.state.calls shader)
    (readied : Readied rig session ready) (shader : RunningShader handles)
    (running : ready.shader = some shader) : Placed ready.state.calls shader := by
  cases readied with
  | kept same clock aside =>
    rcases same with same | stopped
    · exact (placed shader (same ▸ running)).kept rfl (fun _ => rfl)
        (aside.widened aside_is_quiet)
    · rw [stopped] at running
      cases running
  | changed old slot name index edit runs seen changed clock aside =>
    rw [changed, Option.some.injEq] at running
    subst running
    have bound := Registry.edit_keeps Slot.bound old.registry name index edit fun _ => rfl
    exact (placed old runs).kept rfl bound (aside.widened aside_is_quiet)
  | installed fresh loaded built registry anew adopted clock settled =>
    rw [adopted] at running
    cases running
    obtain ⟨listing, listed, declared⟩ := declared_calls rig fresh.program loaded
    have taken : Placed (rig.traced.driver.declared fresh.program loaded).2.calls
        { fresh with
          registry := fresh.registry.adopted (listing.map declaration)
            session.options.defaults } := by
      refine ⟨loaded.calls, listing, [], ?_, by simp, Registry.adopted_goes_by _ _ _⟩
      rw [List.append_nil]
      exact listed
    rw [← declared] at taken
    exact taken.kept rfl (fun _ => rfl) (settled.widened aside_is_quiet)

/-- The calls of a frame list and locate nothing. -/
theorem frame_is_quiet {frame : List (Call handles)} {shader : RunningShader handles}
    {values : String → Slot handles.Location → List Float32} {shown : Option String}
    (calls : frame.map Call.unjudged = frameCalls shader values shown) :
    ∀ call ∈ frame, call.introspects = false := by
  intro call member
  have unjudged : call.unjudged ∈ frameCalls shader values shown :=
    calls ▸ List.mem_map_of_mem member
  have judged : call.unjudged.introspects = call.introspects := by cases call <;> rfl
  rw [← judged]
  simp only [frameCalls, List.mem_cons, List.mem_append, List.not_mem_nil, or_false] at unjudged
  rcases unjudged with begun | upload | drawn | shownCall
  · rw [begun]
    rfl
  · obtain ⟨entry, -, sent⟩ := List.mem_filterMap.mp upload
    obtain ⟨location, -, here⟩ := Option.map_eq_some_iff.mp sent
    rw [← here]
    rfl
  · rw [drawn]
    rfl
  · rw [shownCall]
    rfl

/-- A frame keeps its shader placed. -/
theorem drawn_placed {ready : Session handles (Traced handles State)}
    {shader : RunningShader handles} (placed : Placed ready.state.calls shader)
    (drawn : RunningShader handles)
    (running : (ready.drawShader rig.traced shader).2.shader = some drawn) :
    Placed (ready.drawShader rig.traced shader).2.state.calls drawn := by
  obtain ⟨frame, shown, grown, calls⟩ := draw_calls rig ready shader
  obtain ⟨now, inputs, state, ends⟩ := draw_ends rig.traced ready shader
  rw [ends, Option.some.injEq] at running
  subst running
  have bound (name : String) := Registry.frame_keeps Slot.bound (fun _ => rfl) rig.traced.driver
    shader.registry (shader.frames.elapsed now) inputs state name fun slot => by split <;> rfl
  refine placed.kept rfl bound ⟨frame, grown, ?_⟩
  intro call member
  show (!call.introspects) = true
  rw [frame_is_quiet calls call member]
  rfl

/-- After any operations the running shader is placed. -/
theorem run_placed (options : SessionOptions) (clock : Clock) (state : State)
    (operations : List Operation) (shader : RunningShader handles)
    (running : ((Session.start rig.traced options clock (.begin state)).after rig.traced
      operations).shader = some shader) :
    Placed ((Session.start rig.traced options clock (.begin state)).after rig.traced
      operations).state.calls shader := by
  refine run_keeps rig (fun session => ∀ shader, session.shader = some shader →
    Placed session.state.calls shader) ?_ ?_ ?_ operations shader running
  · intro session ready placed readied
    exact readied_placed rig placed readied
  · intro ready shader placed runs
    exact drawn_placed rig (placed shader runs)
  · intro shader runs
    cases runs

/-- Every frame is complete and goes to the current program.

No call of a frame is made outside one: not by the start of a session, and not by an operation
before it draws. What an operation draws is one full frame: the picture is cleared with the running
shader's program and quad; every slot that has a place is uploaded, in the order of the names, and
no other; and the picture is drawn and shown. The uniforms that hosts see are uploaded with all
their components as the modifiers of this frame leave them. The places are those that the driver
gave for the listed uniforms of this very program, the last it was asked about, and the shapes are
those of the listed types. So after any operations the picture has been cleared, drawn and shown as
often as the clock has been read. -/
theorem frames_are_complete (rig : Rig handles State) (options : SessionOptions) (clock : Clock)
    (state : State) (operations : List Operation) (operation : Operation) :
    let first := Session.start rig.traced options clock (.begin state)
    let session := first.after rig.traced operations
    let after := (session.perform rig.traced operation).2
    Only (fun call => !call.draws) (.begin state) first.state ∧
    (∃ ready, Only (fun call => !call.draws) session.state ready.state ∧
      ready.clock = session.clock ∧
      (∀ shader, ready.shader = some shader → Placed ready.state.calls shader) ∧
      (after = ready ∨ ∃ shader values, FullFrame values ready after shader ∧
        ∀ name slot, isReserved name = false → shader.registry.slots.get? name = some slot →
          slot.IsPaired ∧
          slot.CarriedBy (shader.frames.elapsed ready.clock.sample.1) (values name slot))) ∧
    session.state.calls.countP Call.clears = session.clock.taken ∧
    session.state.calls.countP Call.paints = session.clock.taken ∧
    session.state.calls.countP Call.shows = session.clock.taken := by
  intro first session after
  have placed := run_placed rig options clock state operations
  refine ⟨.told (.setPresentation .fullscreen) _ _ rfl, ?_,
    calls_counted rig .clears options clock state operations,
    calls_counted rig .paints options clock state operations,
    calls_counted rig .shows options clock state operations⟩
  obtain ⟨ready, readied, undrawn, sameClock, drawn⟩ := perform_frames rig session operation
  refine ⟨ready, undrawn, sameClock, readied_placed rig placed readied, ?_⟩
  rcases drawn with nothing | ⟨shader, frame, -⟩
  · exact .inl nothing
  · have paired := readied_paired rig (run_paired rig options clock state operations) readied
    unfold Session.registry at paired
    rw [frame.running] at paired
    exact .inr ⟨shader, _, frame, fun name slot seen held =>
      ⟨paired name slot held, sent_carries _ _ seen slot⟩⟩

end LiveShader
