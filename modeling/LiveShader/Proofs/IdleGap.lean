import LiveShader.Proofs.FrameCalls
import LiveShader.Proofs.Reload

/-!
# Idle gaps

While a loop is idle no frame is scheduled, and any time may pass. A loop that is renewed takes the
next frame to last the nominal time, so a gap that ends with a change or with a new program does
not reach the modifiers. A frame that is forced, by a redraw or for a new size, renews nothing: an
idle loop stays idle, and the modifiers run for all the time since the frame before.

Whether the loop has been idle since the last frame is followed along the operations. The invariant
says that the loop remembers the last reading of the clock, and that a loop which has been idle
since then and animates again is of age zero.
-/
namespace LiveShader

variable {handles : Handles} {State : Type}

/-- How often the picture has been drawn. -/
def Session.paintings (session : Session handles (Traced handles State)) : Nat :=
  session.state.calls.countP Call.paints

/-- Whether the loop of the running shader is idle. -/
def Session.isIdle {Whole : Type} (session : Session handles Whole) : Bool :=
  session.loopState? == some .idle

/-- Whether the loop has been idle since the last frame, after one more operation. -/
def Session.idledAfter (before : Session handles (Traced handles State)) (idled : Bool)
    (after : Session handles (Traced handles State)) : Bool :=
  (if after.paintings = before.paintings then idled else false) || after.isIdle

/-- Whether the loop has been idle since the last frame, after operations. -/
def Session.idled (rig : Rig handles State) :
    Session handles (Traced handles State) → Bool → List Operation → Bool
  | _, idled, [] => idled
  | session, idled, operation :: rest =>
    let after := (session.perform rig.traced operation).2
    after.idled rig (session.idledAfter idled after) rest

/-- A loop beside a clock, by whether it has been idle since the last frame. -/
structure Timed (idled : Bool) (clock : Clock) (loop : RenderLoop) : Prop where
  /-- The frame before was given the clock's last reading. -/
  last : ∀ time, loop.previous = some time →
    0 < clock.taken ∧ time = clock.reading (clock.taken - 1)
  /-- An idle loop has drawn frames since it was renewed. -/
  aged : loop.state = .idle → 0 < loop.age ∧ loop.previous.isSome
  /-- A loop that has been idle and animates was renewed. -/
  renewed : idled = true → loop.state = .animating → loop.age = 0

namespace Timed

variable {idled : Bool} {clock : Clock} {loop : RenderLoop}

/-- A loop that starts. -/
theorem start (idled : Bool) (clock : Clock) (idleFrames : Nat) :
    Timed idled clock (.start idleFrames) where
  last := by
    intro time drawn
    cases drawn
  aged := by
    intro idle
    cases idle
  renewed := by
    intro _ _
    rfl

/-- A change wakes the loop. -/
theorem wake (timed : Timed idled clock loop) : Timed idled clock loop.wake where
  last := timed.last
  aged := by
    intro idle
    cases idle
  renewed := by
    intro _ _
    rfl

/-- A frame leaves the reading of the clock behind. Whether it leaves the loop idle is all there is
to know of the time since. -/
theorem framed (clock : Clock) (loop : RenderLoop) (still : Bool) :
    let after := (loop.beginFrame clock.sample.1).endFrame still
    Timed (after.state == .idle) clock.sample.2 after where
  last := by
    intro time drawn
    cases drawn
    exact ⟨Nat.succ_pos _, rfl⟩
  aged := by
    intro idle
    have limit : 0 < oldestAge := by decide
    refine ⟨?_, rfl⟩
    show 0 < min (loop.age + 1) oldestAge
    omega
  renewed := by
    intro idle animating
    rw [animating] at idle
    cases idle

/-- The loop of a frame that is drawn while it animates, if it has been idle: the frame lasts a
sixtieth of a second. -/
theorem nominal (timed : Timed idled clock loop) (been : idled = true)
    (animating : loop.state = .animating) (now : Float) : loop.elapsed now = 1 / 60 :=
  RenderLoop.elapsed_of_young (timed.renewed been animating) now

/-- The loop of a frame that is drawn while it is idle: the frame lasts since the one before. -/
theorem whole_gap (timed : Timed idled clock loop) (idle : loop.state = .idle) (now : Float) :
    let gap := now - clock.reading (clock.taken - 1)
    0 < clock.taken ∧ loop.elapsed now = (if 0 < gap then gap else 0).toFloat32 := by
  obtain ⟨old, drawn⟩ := timed.aged idle
  obtain ⟨previous, before⟩ := Option.isSome_iff_exists.mp drawn
  obtain ⟨taken, rfl⟩ := timed.last previous before
  exact ⟨taken, RenderLoop.elapsed_of_old old before now⟩

end Timed

/-- The loop of the running shader, if there is one, beside the session's clock. -/
def Session.IsTimed {Whole : Type} (idled : Bool) (session : Session handles Whole) : Prop :=
  ∀ shader, session.shader = some shader → Timed idled session.clock shader.frames

variable (rig : Rig handles State)

/-- Making ready keeps the loop in time. -/
theorem readied_timed {idled : Bool} {session ready : Session handles (Traced handles State)}
    (timed : session.IsTimed idled) (readied : Readied rig session ready) :
    ready.IsTimed idled := by
  intro shader running
  cases readied with
  | kept same clock aside =>
    rw [clock]
    rcases same with same | stopped
    · exact timed shader (same ▸ running)
    · rw [stopped] at running
      cases running
  | changed old slot name index edit runs seen changed clock aside =>
    rw [changed, Option.some.injEq] at running
    subst running
    rw [clock]
    exact (timed old runs).wake
  | installed fresh loaded built registry anew adopted clock settled =>
    rw [adopted] at running
    cases running
    show Timed idled ready.clock fresh.frames
    rw [anew]
    exact .start idled ready.clock fresh.frames.idleFrames

/-- An operation keeps the loop in time. -/
theorem performed_timed {idled : Bool} {session : Session handles (Traced handles State)}
    (timed : session.IsTimed idled) (operation : Operation) :
    (session.perform rig.traced operation).2.IsTimed
      (session.idledAfter idled (session.perform rig.traced operation).2) := by
  obtain ⟨ready, readied, undrawn, clock, drawn⟩ := perform_frames rig session operation
  have before := readied_timed rig timed readied
  have paintings : ready.paintings = session.paintings := StandsOnce.paints.undrawn undrawn
  generalize (session.perform rig.traced operation).2 = after at drawn
  rcases drawn with nothing | ⟨shader, full, -⟩
  · subst nothing
    intro shader running
    have loop := before shader running
    refine ⟨loop.last, loop.aged, fun been animating => ?_⟩
    refine loop.renewed ?_ animating
    have awake : after.isIdle = false := by
      unfold Session.isIdle Session.loopState?
      rw [running, Option.map_some, animating]
      rfl
    unfold Session.idledAfter at been
    rwa [paintings, if_pos rfl, awake, Bool.or_false] at been
  · have more : after.paintings = session.paintings + 1 := by
      rw [← paintings]
      exact StandsOnce.paints.framed full
    obtain ⟨drawn, running, -, -, frames, -⟩ := full.left
    have same : session.idledAfter idled after = (drawn.frames.state == .idle) := by
      unfold Session.idledAfter Session.isIdle Session.loopState?
      rw [if_neg (by omega), Bool.false_or, running]
      rfl
    intro other runs
    cases running.symm.trans runs
    rw [same, full.clock, frames]
    exact .framed ready.clock shader.frames drawn.registry.readsTime

/-- Operations keep the loop in time. -/
theorem run_timed {idled : Bool} {session : Session handles (Traced handles State)}
    (timed : session.IsTimed idled) (operations : List Operation) :
    (session.after rig.traced operations).IsTimed (session.idled rig idled operations) := by
  induction operations generalizing idled session with
  | nil => exact timed
  | cons operation rest induction => exact induction (performed_timed rig timed operation)

/-- An idle gap ends with a renewal, or it reaches the modifiers.

Of a frame that an operation draws after any operations there are two things to say. If the loop has
been idle since the frame before and animates when the frame is drawn, the modifiers run for a
sixtieth of a second; and unless the frame is forced, by a redraw or for a new size, the loop does
animate. If the loop is idle when the frame is drawn, the modifiers run for the whole difference of
the clock's last two readings, so that the gap since the frame before is within it. -/
theorem idle_gaps_end_with_renewal (rig : Rig handles State) (options : SessionOptions)
    (clock : Clock) (state : State) (operations : List Operation) (operation : Operation) :
    let first := Session.start rig.traced options clock (.begin state)
    let session := first.after rig.traced operations
    let now := session.clock.reading session.clock.taken
    let gap := now - session.clock.reading (session.clock.taken - 1)
    ∃ ready, Only (fun call => !call.draws) session.state ready.state ∧
      ready.clock = session.clock ∧
      ((session.perform rig.traced operation).2 = ready ∨
        ∃ shader values,
          FullFrame values ready (session.perform rig.traced operation).2 shader ∧
          (operation.isForced = false → shader.frames.state = .animating) ∧
          (first.idled rig false operations = true → shader.frames.state = .animating →
            shader.frames.elapsed now = 1 / 60) ∧
          (shader.frames.state = .idle → 0 < session.clock.taken ∧
            shader.frames.elapsed now = (if 0 < gap then gap else 0).toFloat32)) := by
  intro first session now gap
  have timed : session.IsTimed (first.idled rig false operations) := by
    refine run_timed rig ?_ operations
    intro shader running
    cases running
  obtain ⟨ready, readied, undrawn, sameClock, drawn⟩ := perform_frames rig session operation
  have before := readied_timed rig timed readied
  refine ⟨ready, undrawn, sameClock, ?_⟩
  rcases drawn with nothing | ⟨shader, full, awake⟩
  · exact .inl nothing
  · have loop := before shader full.running
    rw [sameClock] at loop
    refine .inr ⟨shader, _, full, ?_, ?_, ?_⟩
    · intro unforced
      simpa [unforced, RenderLoop.isAnimating] using awake
    · intro been animating
      exact loop.nominal been animating now
    · intro idle
      exact loop.whole_gap idle now

/-- A session whose loop has fallen idle while a component is moved by a modifier. -/
def restingSession :
    Session Scripted.handles
      (Traced Scripted.handles (Scripted.Memory × Headless.Surface)) :=
  let script : Script := ⟨none, none, none, none, [⟨"level", .float, 1, true⟩]⟩
  let started := Session.start scriptedRig.traced ⟨0, .gles300, .empty⟩ (.stepped 0 1)
    (.begin (⟨script, 0, [], []⟩, .sized ⟨8, 6⟩))
  started.after scriptedRig.traced
    [.eval "" "first", .edit "level" 0 (.animate (Formula.ramp 60).modifier), .tick]

/-- A redraw of the idle loop runs the modifier for the second since the frame before. -/
theorem redraw_spans_gap :
    restingSession.loopState? = some .idle ∧
    restingSession.clock.reading 2 - restingSession.clock.reading 1 = 1 ∧
    ∃ shader values,
      FullFrame values restingSession
        (restingSession.perform scriptedRig.traced .redraw).2 shader ∧
      (shader.registry.slots.get? "level").map (·.isAnimated 0) = some true ∧
      shader.frames.elapsed (restingSession.clock.reading 2) = (1 : Float).toFloat32 := by
  have running : restingSession.shader.isSome = true := rfl
  have idle : restingSession.loopState? = some .idle := rfl
  have gap : RenderLoop.clampElapsed
      (restingSession.clock.reading 2 - restingSession.clock.reading 1) = 1 := by decide +kernel
  have shader := (Option.some_get running).symm
  refine ⟨idle, by decide +kernel, _, _, redraw_is_full scriptedRig shader, rfl, ?_⟩
  rw [← gap]
  rfl

end LiveShader
