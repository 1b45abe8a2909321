import LiveShader.Proofs.FrameTimes
import LiveShader.Proofs.Listings

/-!
# What moves a component

A component has a modifier from the request that gives it one until a request sets it, adds to it or
clears it, or until its uniform is dropped or cut short by a new program. This is told by a ledger
that reads only the operations and what the driver lists; the components follow it, operation by
operation. In between every frame, whichever operation draws it, runs each modifier once.

A modifier may remember the calls that were made of it, so it is not the same after a frame: it has
been called once more. The ledger does not know of values and times, and so it tells which modifier
moves a component but not what that modifier remembers. What it remembers is told frame by frame.
-/
namespace LiveShader

variable {handles : Handles} {State : Type}

/-! ### The ledger of a component -/

/-- The uniforms that a call answers, if it asks for those of a program. -/
def Call.listing? : Call handles → Option (List ActiveUniform)
  | .activeUniforms _ actives => some actives
  | _ => none

/-- The uniforms of the program that was taken in between two states, if one was. -/
def Traced.listedSince (before after : Traced handles State) : Option (List ActiveUniform) :=
  (after.calls.drop before.calls.length).findSome? Call.listing?

/-- Whether a listing keeps a component: its name is listed, and every entry of the name leaves room
for it. -/
def keepsListed (actives : List ActiveUniform) (name : String) (index : Nat) : Bool :=
  actives.any (fun active => baseName active.name == name) &&
    actives.all fun active =>
      baseName active.name != name || decide (index < active.componentCount)

namespace Session

/-- A component that hosts see, at an index that is not wrapped around. -/
def component? {Whole : Type} (session : Session handles Whole) (name : String) (index : Nat) :
    Option Component :=
  (session.slot? name).bind fun slot => slot.component? index

/-- Whether a component is kept from one session to a later one: a shader runs, and if a program was
taken in, its listing keeps the component. -/
def keeps (before after : Session handles (Traced handles State)) (name : String) (index : Nat) :
    Bool :=
  after.isRunning &&
    match Traced.listedSince before.state after.state with
    | none => true
    | some actives => keepsListed actives name index

/-- A component as it is carried into an operation, with the change that is made of it, up to where
a frame may be drawn. -/
def carried (before after : Session handles (Traced handles State)) (operation : Operation)
    (name : String) (index : Nat) : Option Component :=
  if before.keeps after name index then
    (before.component? name index).map fun component =>
      match before.editAt operation name index with
      | none => component
      | some edit => component.edited edit
  else none

/-- What moves a component after an operation, by what moved it before: the change that reaches it
decides, and nothing moves a component that is not kept. -/
def moverNext (before after : Session handles (Traced handles State)) (operation : Operation)
    (name : String) (index : Nat) (moved : Option Modifier) : Option Modifier :=
  if before.keeps after name index then
    match before.editAt operation name index with
    | none => moved
    | some edit => edit.moverAfter
  else none

/-- What moves a component after operations, told by the requests alone: the last modifier that it
was given, unless it was changed otherwise since, or not kept. -/
def mover (rig : Rig handles State) (name : String) (index : Nat) :
    Session handles (Traced handles State) → Option Modifier → List Operation → Option Modifier
  | _, moved, [] => moved
  | session, moved, operation :: rest =>
    let after := (session.perform rig.traced operation).2
    after.mover rig name index (session.moverNext after operation name index moved) rest

end Session

/-! ### Components before a frame -/

/-- A component that is carried is there, and nothing moves one that is not. -/
structure Carries (carried now : Option Component) : Prop where
  there : ∀ component, carried = some component → now = some component
  movers : now.bind (·.modifier) = carried.bind (·.modifier)

/-- What stays the same is carried. -/
theorem Carries.of_eq {carried now : Option Component} (same : carried = now) :
    Carries carried now := by
  subst same
  exact ⟨fun _ held => held, rfl⟩

/-- Calls that take in no program answer no listing. -/
theorem unlisted_calls {made : List (Call handles)}
    (silent : ∀ call ∈ made, (!call.introspects) = true) : made.findSome? Call.listing? = none := by
  rw [List.findSome?_eq_none_iff]
  intro call member
  cases call with
  | activeUniforms program actives => cases silent _ member
  | _ => rfl

/-- Where no program was taken in, nothing was listed. -/
theorem unlisted {before after : Traced handles State}
    (only : Only (fun call => !call.introspects) before after) :
    Traced.listedSince before after = none := by
  obtain ⟨made, grown, admitted⟩ := only
  unfold Traced.listedSince
  rw [grown, List.drop_left]
  exact unlisted_calls admitted

/-- What was listed before calls that take in no program is listed after them. -/
theorem listed_before {before middle after : Traced handles State} {such : Call handles → Bool}
    (earlier : Only such before middle)
    (only : Only (fun call => !call.introspects) middle after) :
    Traced.listedSince before after = Traced.listedSince before middle := by
  obtain ⟨made, grown, -⟩ := earlier
  obtain ⟨more, grownMore, admitted⟩ := only
  unfold Traced.listedSince
  rw [grownMore, grown, List.append_assoc, List.drop_left, List.drop_left, List.findSome?_append,
    unlisted_calls admitted, Option.or_none]

/-- Calls aside take in no program. -/
theorem aside_unlisted {before after : Traced handles State}
    (aside : Only Call.isAside before after) :
    Only (fun call => !call.introspects) before after := by
  refine aside.widened fun call unread => ?_
  rw [Call.isAside, Bool.and_eq_true] at unread
  exact unread.2

/-- The first program that was taken in is listed. -/
theorem listed_first {before loaded after : Traced handles State} {program : handles.Program}
    {listing : Listing handles} {back : List (Call handles)}
    (only : Only (fun call => !call.introspects) before loaded)
    (calls : after.calls = loaded.calls ++ introspection program listing ++ back) :
    Traced.listedSince before after = some (listing.map (·.1)) := by
  have none := unlisted only
  obtain ⟨made, grown, -⟩ := only
  unfold Traced.listedSince at none ⊢
  rw [grown, List.drop_left] at none
  rw [calls, grown, List.append_assoc, List.append_assoc, List.drop_left, List.findSome?_append,
    none]
  rfl

section Components

variable {session ready : Session handles (Traced handles State)} {operation : Operation}
  {answer : Answer}

/-- Hosts see the components of the slots whose names are not reserved. -/
theorem component_seen {Whole : Type} (session : Session handles Whole) (name : String)
    (index : Nat) :
    session.component? name index =
      if isReserved name then none else session.registry.component? name index := by
  unfold Session.component? Session.slot? Session.registry Registry.component? Registry.get?
  cases session.shader with
  | none => exact (ite_self _).symm
  | some shader =>
    rw [Option.bind_some]
    split <;> rfl

/-- Without a shader there are no components. -/
theorem component_stopped {Whole : Type} {session : Session handles Whole}
    (stopped : session.shader = none) (name : String) (index : Nat) :
    session.component? name index = none := by
  unfold Session.component? Session.slot?
  rw [stopped]
  rfl

/-- After a change hosts see what they saw, with the change in its place. -/
theorem component_changed {Whole : Type} {session ready : Session handles Whole}
    {old : RunningShader handles} {changed : String} {place : Nat} {edit : Edit Modifier}
    (running : session.shader = some old)
    (shader : ready.shader = some (old.changed changed place edit))
    (change : operation.change? = some (changed, place, edit)) (name : String) (index : Nat) :
    ready.component? name index =
      (session.component? name index).map fun component =>
        match session.editAt operation name index with
        | none => component
        | some edit => component.edited edit := by
  unfold Session.component? Session.editAt
  rw [change]
  cases seen : old.registry.get? name with
  | none =>
    have unseen : (old.changed changed place edit).registry.get? name = none := by
      unfold Registry.get? at seen ⊢
      split
      · rfl
      · rename_i visible
        rw [if_neg visible] at seen
        refine (Registry.get_edit old.registry changed place edit name).trans ?_
        rw [seen, Option.map_none, ite_self]
    unfold Session.slot?
    rw [running, shader, Option.bind_some, Option.bind_some, seen, unseen]
    rfl
  | some slot =>
    have after := seen_after_change seen changed place edit
    unfold Session.slot?
    rw [running, shader, Option.bind_some, Option.bind_some, seen, after, Option.bind_some,
      Option.bind_some]
    dsimp only
    by_cases here : name = changed
    · subst here
      rw [if_pos rfl, Slot.component_edit]
      by_cases reached : index = place % slot.count
      · rw [if_pos reached, if_pos ⟨rfl, reached⟩]
      · rw [if_neg reached, if_neg fun same => reached same.2]
        exact Option.map_id'.symm
    · rw [if_neg here, if_neg fun same => here same.1.symm]
      exact Option.map_id'.symm

/-- Where no program is taken in, every component is kept for as long as a shader runs. -/
theorem keeps_unlisted {before after : Session handles (Traced handles State)}
    (only : Only (fun call => !call.introspects) before.state after.state) (name : String)
    (index : Nat) : before.keeps after name index = after.isRunning := by
  unfold Session.keeps
  rw [unlisted only, Bool.and_true]

/-- A listing keeps what its declarations keep. -/
theorem keeps_listed (listing : Listing handles) (name : String) (index : Nat) :
    keepsListed (listing.map (·.1)) name index =
      keepsDeclared (listing.map declaration) name index := by
  unfold keepsListed keepsDeclared
  rw [List.any_map, List.all_map, List.any_map, List.all_map]
  rfl

section Installed

variable {shader : RunningShader handles} {listing : Listing handles}
  (running : ready.shader = some { shader with
    registry := session.registry.adopted (listing.map declaration) session.options.defaults })
include running

/-- Where a program is taken in, what is carried is what its listing keeps. -/
theorem carried_installed {loaded : Traced handles State} {back : List (Call handles)}
    (unchanging : operation.change? = none) (built : Only Call.isAside session.state loaded)
    (calls : ready.state.calls = loaded.calls ++ introspection shader.program listing ++ back)
    (name : String) (index : Nat) :
    session.carried ready operation name index =
      if keepsDeclared (listing.map declaration) name index then session.component? name index
      else none := by
  have runs : ready.isRunning = true := by
    rw [Session.isRunning, running]
    rfl
  have kept : session.keeps ready name index =
      keepsDeclared (listing.map declaration) name index := by
    unfold Session.keeps
    rw [runs, listed_first (aside_unlisted built) calls, Bool.true_and]
    exact keeps_listed listing name index
  unfold Session.carried
  rw [kept, edit_at_none session unchanging]
  exact congrArg (ite _ · none) Option.map_id'

/-- A component that the listing keeps is there, and nothing moves one that is not kept. -/
theorem component_installed (paired : session.registry.IsPaired) (name : String) (index : Nat) :
    Carries
      (if keepsDeclared (listing.map declaration) name index then session.component? name index
        else none)
      (ready.component? name index) := by
  have counted : ∀ uniform ∈ listing.map declaration, 0 < uniform.count := by
    intro uniform member
    obtain ⟨listed, -, rfl⟩ := List.mem_map.mp member
    exact component_count_pos listed.1
  have registry : ready.registry =
      session.registry.adopted (listing.map declaration) session.options.defaults := by
    unfold Session.registry
    rw [running]
    rfl
  rw [component_seen, component_seen, registry]
  cases isReserved name with
  | true =>
    simp only [if_true, ite_self]
    exact .of_eq rfl
  | false =>
    have movers : (session.registry.adopted (listing.map declaration)
        session.options.defaults).mover? name index = _ :=
      Registry.mover_adopted counted session.options.defaults paired
    unfold Registry.mover? at movers
    simp only [Bool.false_eq_true, if_false]
    refine ⟨fun component carried => ?_, ?_⟩
    · rw [Option.ite_none_right_eq_some] at carried
      exact Registry.component_adopted counted session.options.defaults paired carried.2 carried.1
    · rw [movers]
      split <;> rfl

end Installed

/-- What is carried into an operation is there when it is ready. -/
theorem Turn.components (turn : Turn session operation answer ready)
    (paired : session.registry.IsPaired) (name : String) (index : Nat) :
    Carries (session.carried ready operation name index) (ready.component? name index) := by
  cases turn with
  | kept unchanged unrenewed shader aside =>
    refine .of_eq ?_
    unfold Session.carried
    rw [keeps_unlisted (aside_unlisted aside), unchanged]
    have same : ready.component? name index = session.component? name index := by
      unfold Session.component? Session.slot?
      rw [shader]
    cases running : session.shader with
    | none =>
      rw [same, component_stopped running, Option.map_none, ite_self]
    | some old =>
      have runs : ready.isRunning = true := by
        rw [Session.isRunning, shader, running]
        rfl
      rw [if_pos runs, same]
      exact Option.map_id'
  | changed change renewed running seen shader aside =>
    refine .of_eq ?_
    have runs : ready.isRunning = true := by
      rw [Session.isRunning, shader]
      rfl
    unfold Session.carried
    rw [keeps_unlisted (aside_unlisted aside), if_pos runs, component_changed running shader change]
  | installed unchanging renewed anew running built calls =>
    rw [carried_installed running unchanging built calls]
    exact component_installed running paired name index
  | released unrenewed stopped =>
    refine .of_eq ?_
    have still : ready.isRunning = false := by
      rw [Session.isRunning, stopped]
      rfl
    unfold Session.carried Session.keeps
    rw [still, component_stopped stopped, Bool.false_and]
    rfl

/-- What hosts see of a session whose lists are in step is in step. -/
theorem seen_paired {Whole : Type} {session : Session handles Whole}
    (paired : session.registry.IsPaired) {name : String} {slot : Slot handles.Location}
    (seen : session.slot? name = some slot) : slot.IsPaired := by
  obtain ⟨shader, running, held⟩ := Option.bind_eq_some_iff.mp seen
  rw [Session.registry, running] at paired
  exact paired name slot (seen_iff.mp held).2

/-- What moves a carried component, told by the request alone. -/
theorem carried_mover {session : Session handles (Traced handles State)}
    (paired : session.registry.IsPaired) (after : Session handles (Traced handles State))
    (operation : Operation) (name : String) (index : Nat) :
    (session.carried after operation name index).bind (·.modifier) =
      session.moverNext after operation name index
        ((session.component? name index).bind (·.modifier)) := by
  unfold Session.carried Session.moverNext
  split
  · cases reached : session.editAt operation name index with
    | none => exact congrArg (Option.bind · _) Option.map_id'
    | some edit =>
      have held : ∃ component, session.component? name index = some component := by
        unfold Session.editAt at reached
        split at reached
        · rename_i changed place change slot asked seen
          rw [Option.ite_none_right_eq_some] at reached
          have inStep := seen_paired paired seen
          unfold Session.component?
          rw [seen, Option.bind_some, reached.1.2]
          exact inStep.component (Nat.mod_lt place inStep.occupied)
        · cases reached
      obtain ⟨component, found⟩ := held
      rw [found, Option.map_some, Option.bind_some]
      rfl
  · rfl

/-- The ledger goes on alike from modifiers that answer alike. -/
theorem mover_next_answer (session after : Session handles (Traced handles State))
    (operation : Operation) (name : String) (index : Nat) {left right : Option Modifier}
    (alike : left.map (·.answer) = right.map (·.answer)) :
    (session.moverNext after operation name index left).map (·.answer) =
      (session.moverNext after operation name index right).map (·.answer) := by
  unfold Session.moverNext
  split
  · cases session.editAt operation name index with
    | none => exact alike
    | some edit => rfl
  · rfl

end Components

/-! ### Frames -/

section Frames

variable (rig : Rig handles State)

/-- A frame takes in no program. -/
theorem draw_unlisted (session : Session handles (Traced handles State))
    (shader : RunningShader handles) :
    Only (fun call => !call.introspects) session.state
      (session.drawShader rig.traced shader).2.state := by
  have begun : Only (fun call => !call.introspects) session.state
      (rig.traced.driver.beginFrame shader.program shader.quad session.state) :=
    .told (.beginFrame shader.program shader.quad) _ _ rfl
  have sent (registry : Registry handles.Location) (inputs : FrameInputs)
      (traced : Traced handles State) : Only (fun call => !call.introspects) traced
        (registry.send rig.traced.driver inputs traced).2.2 :=
    send_follows rig.traced.driver (Only.refl _) Only.trans
      (fun location shape values traced => .asked (Call.upload location shape values) _ traced
        fun _ => rfl) registry inputs traced
  unfold Session.drawShader
  exact ((begun.trans (sent _ _ _)).trans (.told .drawQuad rig.driver.drawQuad _ rfl)).trans
    (.asked Call.present rig.canvas.present _ fun _ => rfl)

/-- A frame runs the modifier of every component that hosts see, once. -/
theorem frame_components {values : String → Slot handles.Location → List Float32}
    {ready after : Session handles (Traced handles State)} {shader : RunningShader handles}
    (full : FullFrame values ready after shader) (name : String) (index : Nat) :
    after.component? name index =
      (ready.component? name index).map
        (·.framed (shader.frames.elapsed ready.clock.sample.1)) := by
  obtain ⟨drawn, runs, -, -, -, slots⟩ := full.left
  have framed := slots name
  have before : ready.registry = shader.registry := by
    rw [Session.registry, full.running]
  have behind : after.registry = drawn.registry := by
    rw [Session.registry, runs]
  rw [component_seen, component_seen, before, behind]
  cases reserved : isReserved name with
  | true => rfl
  | false =>
    simp only [Bool.false_eq_true, if_false]
    unfold Registry.component?
    generalize shader.registry.slots.get? name = old at framed
    generalize drawn.registry.slots.get? name = new at framed
    cases framed with
    | none => rfl
    | some frame => exact (frame.seen reserved).component index

/-- An operation makes the session ready in its turn and then draws at most one full frame. What it
keeps is decided before the frame. -/
theorem perform_ready (session : Session handles (Traced handles State)) (operation : Operation) :
    let result := session.perform rig.traced operation
    ∃ ready, Readied rig session ready ∧ Turn session operation result.1 ready ∧
      (∀ name index, session.keeps result.2 name index = session.keeps ready name index) ∧
      (result.2 = ready ∨
        ∃ shader values, FullFrame values ready result.2 shader) := by
  intro result
  have taken := perform_turns rig session operation
  change TakesTurn rig session operation result.1 result.2 at taken
  generalize result.2 = after at taken
  cases taken with
  | still readied turn => exact ⟨after, readied, turn, fun _ _ => rfl, .inl rfl⟩
  | @framed ready shader readied turn running =>
    refine ⟨ready, readied, turn, fun name index => ?_, .inr ⟨shader, _, draw_is_full rig running⟩⟩
    have runs : ready.isRunning = true := by
      rw [Session.isRunning, running]
      rfl
    have listed := listed_before (readied_undrawn rig readied).1 (draw_unlisted rig ready shader)
    unfold Session.keeps
    rw [runs, listed]
    rfl

/-- What is kept decides what is carried. -/
theorem carried_congr {session left right : Session handles (Traced handles State)}
    {operation : Operation} {name : String} {index : Nat}
    (same : session.keeps left name index = session.keeps right name index) :
    session.carried left operation name index = session.carried right operation name index := by
  unfold Session.carried
  rw [same]

/-- After an operation a component is moved by what moved it before, unless a request changed that
or it was not kept; at most what moves it has been called. -/
theorem mover_performed {session : Session handles (Traced handles State)}
    (paired : session.registry.IsPaired) (operation : Operation) (name : String) (index : Nat) :
    let after := (session.perform rig.traced operation).2
    ((after.component? name index).bind (·.modifier)).map (·.answer) =
      (session.moverNext after operation name index
        ((session.component? name index).bind (·.modifier))).map (·.answer) := by
  intro after
  obtain ⟨ready, -, turn, kept, drawn⟩ := perform_ready rig session operation
  rw [← carried_mover paired, carried_congr (kept name index),
    ← (turn.components paired name index).2]
  rcases drawn with still | ⟨shader, values, full⟩
  · exact congrArg (fun session : Session handles (Traced handles State) =>
      ((session.component? name index).bind (·.modifier)).map (·.answer)) still
  · rw [frame_components full name index]
    cases ready.component? name index with
    | none => rfl
    | some component =>
      obtain ⟨value, modifier | modifier⟩ := component
      · rfl
      · rfl

/-- After any operations a component is moved by what the requests say. -/
theorem mover_after {session : Session handles (Traced handles State)}
    (paired : session.registry.IsPaired) (operations : List Operation) (name : String)
    (index : Nat) {moved : Option Modifier}
    (told : ((session.component? name index).bind (·.modifier)).map (·.answer) =
      moved.map (·.answer)) :
    (((session.after rig.traced operations).component? name index).bind (·.modifier)).map
        (·.answer) =
      (session.mover rig name index moved operations).map (·.answer) := by
  induction operations generalizing session moved with
  | nil => exact told
  | cons operation rest induction =>
    refine induction (after_paired rig paired [operation]) ?_
    refine (mover_performed rig paired operation name index).trans ?_
    exact mover_next_answer session _ operation name index told

end Frames

/-- Modifiers run once in every frame.

After any operations, what moves a component that hosts see is what the requests say: the last
modifier that it was given, unless a value was set, added or cleared since, or the component was
dropped. And an operation carries every component to where it may draw, with the change that it
makes of it; what is new there is not moved. If the operation draws a frame, for whatever reason
and whatever becomes of the uploads, a component that is moved has the value that its modifier
makes of the value before the frame, its modifier remembers this one call besides those that were
made of it before, and every other component stays as it was. The modifiers run for a sixtieth of a
second if this is the first frame since the loop was renewed; otherwise for the difference of the
clock's readings for this frame and the one before, or for no time if the clock went back. -/
theorem modifiers_run_once (rig : Rig handles State) (options : SessionOptions) (clock : Clock)
    (state : State) (operations : List Operation) (operation : Operation) :
    let first := Session.start rig.traced options clock (.begin state)
    let session := first.after rig.traced operations
    let after := (session.perform rig.traced operation).2
    let frame := session.draws
    let renewed := first.renewal rig 0 (operations ++ [operation])
    let since := clock.reading frame - clock.reading (frame - 1)
    (∀ name index, ((session.component? name index).bind (·.modifier)).map (·.answer) =
      (first.mover rig name index none operations).map (·.answer)) ∧
    ∃ ready, Only (fun call => !call.draws) session.state ready.state ∧
      (∀ name index,
        (∀ component, session.carried after operation name index = some component →
          ready.component? name index = some component) ∧
        (session.carried after operation name index = none →
          ∀ fresh, ready.component? name index = some fresh → fresh.modifier = none)) ∧
      (after = ready ∨
        ∃ shader values, FullFrame values ready after shader ∧
          ready.clock.sample.1 = clock.reading frame ∧
          let elapsed := shader.frames.elapsed (clock.reading frame)
          (frame = renewed → elapsed = 1 / 60) ∧
          (frame ≠ renewed → 0 < frame ∧
            elapsed = (if 0 < since then since else 0).toFloat32) ∧
          ∀ name index value,
            (ready.component? name index = some ⟨value, none⟩ →
              after.component? name index = some ⟨value, none⟩) ∧
            ∀ modifier, ready.component? name index = some ⟨value, some modifier⟩ →
              after.component? name index =
                some ⟨modifier.apply value elapsed, some (modifier.called value elapsed)⟩) := by
  intro first session after frame renewed since
  have clocked : IsClocked clock.reading session := run_clocked rig options clock state operations
  have paced : Paced options.idleFrames (first.renewal rig 0 operations) session := by
    have started : Paced options.idleFrames 0 first :=
      ⟨rfl, Nat.zero_le _, fun shader runs => by cases runs⟩
    exact started.ran rig operations
  have empty : first.registry.IsPaired := run_paired rig options clock state []
  have paired : session.registry.IsPaired := after_paired rig empty operations
  refine ⟨fun name index => mover_after rig empty operations name index rfl, ?_⟩
  obtain ⟨ready, readied, turn, kept, drawn⟩ := perform_ready rig session operation
  obtain ⟨undrawn, sameClock⟩ := readied_undrawn rig readied
  refine ⟨ready, undrawn, fun name index => ?_, drawn.imp_right ?_⟩
  · obtain ⟨carries, movers⟩ := turn.components paired name index
    rw [carried_congr (kept name index)]
    refine ⟨carries, fun dropped fresh held => ?_⟩
    rw [dropped, held] at movers
    exact movers
  · rintro ⟨shader, values, full⟩
    have sampled : ready.clock.sample.1 = clock.reading frame := by
      rw [sameClock]
      show session.clock.reading session.clock.taken = _
      rw [clocked.readings, clocked.taken]
    have lasts := turn_lasts clocked paced turn full.running
    rw [← renewal_concat rig first 0 operations operation] at lasts
    refine ⟨shader, values, full, sampled, lasts.nominal, lasts.since, ?_⟩
    intro name index value
    have framed := frame_components full name index
    rw [sampled] at framed
    refine ⟨fun held => ?_, fun modifier held => ?_⟩
    · rw [held, Option.map_some] at framed
      exact framed
    · rw [held, Option.map_some] at framed
      exact framed

end LiveShader
