import LiveShader.Proofs.IdleGap
import LiveShader.Proofs.Idling
import LiveShader.Proofs.Turns

/-!
# How long frames last

The modifiers run for the time that a frame is taken to last. A loop remembers the reading of the
clock for the frame before, and how many frames have been drawn since it was renewed; it does not
remember whether anything else happened in between. The invariant says that the clock is read once
for each frame, so that the reading with a frame's number is the one that the frame was given, and
that a loop which has drawn since its renewal remembers the last of them.
-/
namespace LiveShader

variable {handles : Handles} {State : Type} (rig : Rig handles State)

/-- The picture has been drawn as often as frames are counted. -/
theorem draws_are_paintings (session : Session handles (Traced handles State)) :
    session.draws = session.paintings := by
  unfold Session.draws Session.paintings Traced.milestones
  rw [List.countP_filterMap]
  refine List.countP_congr fun call _ => ?_
  cases call with
  | compileStage stage source answer | link vertex fragment answer | createQuad answer =>
    cases answer <;> simp [Call.milestone?, Milestone.isDrawn, Call.paints]
  | _ => simp [Call.milestone?, Milestone.isDrawn, Call.paints]

/-- A session that has read its clock once for each frame, and whose loop remembers the frame before
if it is not the first since it was renewed. -/
structure IsClocked (reading : Nat → Float) (session : Session handles (Traced handles State)) :
    Prop where
  readings : session.clock.reading = reading
  taken : session.clock.taken = session.draws
  last : ∀ shader, session.shader = some shader → 0 < shader.frames.age →
    0 < session.draws ∧ shader.frames.previous = some (reading (session.draws - 1))

/-- Making ready keeps a session clocked. -/
theorem readied_clocked {reading : Nat → Float}
    {session ready : Session handles (Traced handles State)} (clocked : IsClocked reading session)
    (readied : Readied rig session ready) : IsClocked reading ready := by
  obtain ⟨undrawn, clock⟩ := readied_undrawn rig readied
  have draws : ready.draws = session.draws := by
    rw [draws_are_paintings, draws_are_paintings]
    exact StandsOnce.paints.undrawn undrawn
  refine ⟨clock ▸ clocked.readings, by rw [clock, draws, clocked.taken], ?_⟩
  intro shader running old
  rw [draws]
  cases readied with
  | kept same clock aside =>
    rcases same with same | stopped
    · exact clocked.last shader (same ▸ running) old
    · rw [stopped] at running
      cases running
  | changed before slot name index edit runs seen changed clock aside =>
    rw [changed, Option.some.injEq] at running
    subst running
    cases old
  | installed fresh loaded built registry anew adopted clock settled =>
    rw [adopted] at running
    cases running
    have young : fresh.frames.age = 0 := by
      rw [anew]
      rfl
    exact absurd old (by simp [young])

/-- A frame keeps a session clocked. -/
theorem drawn_clocked {reading : Nat → Float} {ready : Session handles (Traced handles State)}
    {shader : RunningShader handles} (clocked : IsClocked reading ready)
    (running : ready.shader = some shader) :
    IsClocked reading (ready.drawShader rig.traced shader).2 := by
  have full := draw_is_full rig running
  have draws : (ready.drawShader rig.traced shader).2.draws = ready.draws + 1 := by
    rw [draws_are_paintings, draws_are_paintings]
    exact StandsOnce.paints.framed full
  refine ⟨clocked.readings, ?_, ?_⟩
  · rw [draws, ← clocked.taken]
    rfl
  · intro drawn runs old
    obtain ⟨other, here, -, -, frames, -⟩ := full.left
    cases here.symm.trans runs
    rw [draws, frames, Nat.add_sub_cancel, ← clocked.readings, ← clocked.taken]
    exact ⟨Nat.succ_pos _, rfl⟩

/-- After any operations a session is clocked. -/
theorem run_clocked (options : SessionOptions) (clock : Clock) (state : State)
    (operations : List Operation) :
    IsClocked clock.reading
      ((Session.start rig.traced options clock (.begin state)).after rig.traced operations) := by
  refine run_keeps rig (IsClocked clock.reading) (readied_clocked rig) (drawn_clocked rig) ?_
    operations
  exact ⟨rfl, rfl, fun shader running => nomatch running⟩

/-- The last operation decides the last renewal, if it renews the loop. -/
theorem renewal_concat (session : Session handles (Traced handles State)) (mark : Nat)
    (operations : List Operation) (operation : Operation) :
    session.renewal rig mark (operations ++ [operation]) =
      if ((session.after rig.traced operations).perform rig.traced operation).1.renews then
        (session.after rig.traced operations).draws
      else session.renewal rig mark operations := by
  induction operations generalizing session mark with
  | nil => rfl
  | cons first rest induction => exact induction _ _

/-- How long a frame lasts, by its number: a sixtieth of a second if its number is that of the last
renewal, and else what the clock says that it took since the frame before, but never less than no
time at all. -/
structure Lasts (reading : Nat → Float) (frame renewed : Nat) (elapsed : Float32) : Prop where
  nominal : frame = renewed → elapsed = 1 / 60
  since : frame ≠ renewed → 0 < frame ∧
    elapsed = (if 0 < reading frame - reading (frame - 1) then
      reading frame - reading (frame - 1) else 0).toFloat32

/-- A frame that follows a renewal at once lasts a sixtieth of a second. -/
theorem Lasts.renewed {reading : Nat → Float} {loop : RenderLoop} (young : loop.age = 0)
    (frame : Nat) (now : Float) : Lasts reading frame frame (loop.elapsed now) where
  nominal _ := RenderLoop.elapsed_of_young young now
  since other := absurd rfl other

/-- A frame that an operation draws in its turn lasts by its number. -/
theorem turn_lasts {reading : Nat → Float} {idleFrames mark : Nat}
    {session ready : Session handles (Traced handles State)} {operation : Operation}
    {answer : Answer} {shader : RunningShader handles} (clocked : IsClocked reading session)
    (paced : Paced idleFrames mark session) (turn : Turn session operation answer ready)
    (running : ready.shader = some shader) :
    Lasts reading session.draws (if answer.renews then session.draws else mark)
      (shader.frames.elapsed (reading session.draws)) := by
  cases turn with
  | kept unchanged unrenewed same aside =>
    have runs : session.shader = some shader := same ▸ running
    have age := (paced.scheduled shader runs).age
    have marked := paced.marked
    rw [if_neg (by simp [unrenewed])]
    refine ⟨fun first => RenderLoop.elapsed_of_young ?_ _, fun later => ?_⟩
    · rw [age, first, Nat.sub_self]
      rfl
    · have limit : 0 < oldestAge := by decide
      have old : 0 < shader.frames.age := by
        rw [age]
        omega
      obtain ⟨drawn, previous⟩ := clocked.last shader runs old
      exact ⟨drawn, RenderLoop.elapsed_of_old old previous _⟩
  | changed change renews runs seen changed aside =>
    rw [changed, Option.some.injEq] at running
    subst running
    rw [if_pos renews]
    exact .renewed rfl _ _
  | installed unchanging renews anew runs built calls =>
    rw [runs, Option.some.injEq] at running
    subst running
    rw [if_pos renews]
    exact .renewed (congrArg RenderLoop.age anew) _ _
  | released unrenewed stopped =>
    rw [stopped] at running
    cases running

end LiveShader
