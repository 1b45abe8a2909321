import LiveShader.Desktop.Scripted
import LiveShader.Proofs.KeptViews

/-!
# The sizes of a window

A window has a size on the screen, and hands sizes on: to the surface that its context draws into,
to the memory of the canvas, which shaders are told of, and to the viewport. A desktop is watched
here for the sizes that it is given, and everything that can happen to the window is followed: the
desktop changes as it likes, the loop delivers events, other threads make requests.

The surface is always backed: it has the size of the canvas, with a pixel at least each way. Only a
resize gives sizes, and it gives the viewport the window's size whatever it is, but the canvas and
the surface only a size that has an area. So the three agree after a resize exactly when the window
had an area then.
-/
namespace LiveShader

/-- Whether there is anything to draw on. -/
def Size.HasArea (size : Size) : Prop := size.width ≠ 0 ∧ size.height ≠ 0

/-- Whether a size has an area can be computed. -/
instance (size : Size) : Decidable size.HasArea :=
  inferInstanceAs (Decidable (size.width ≠ 0 ∧ size.height ≠ 0))

/-- The size with a pixel at least each way. -/
def Size.filled (size : Size) : Size := ⟨max size.width 1, max size.height 1⟩

/-- A size has an area when it has a pixel each way. -/
theorem Size.filled_eq_iff (size : Size) : size.filled = size ↔ size.HasArea := by
  have least (length : UInt32) : max length 1 = length ↔ length ≠ 0 := by
    change (if length ≤ 1 then 1 else length) = length ↔ length ≠ 0
    split <;> grind
  obtain ⟨width, height⟩ := size
  simp only [Size.filled, Size.HasArea, Size.mk.injEq, least]

/-- A corner of the viewport, and its extent from there. -/
structure Viewport where
  x : Int
  y : Int
  width : Int
  height : Int
  deriving DecidableEq

/-- The viewport that starts in the corner of the surface and has a size. -/
def Size.viewport (size : Size) : Viewport :=
  ⟨0, 0, size.width.toInt32.toInt, size.height.toInt32.toInt⟩

/-- The viewport has the whole size. -/
theorem Size.viewport_injective {size other : Size} (same : size.viewport = other.viewport) :
    size = other := by
  obtain ⟨width, height⟩ := size
  obtain ⟨otherWidth, otherHeight⟩ := other
  simp only [Size.viewport, Viewport.mk.injEq, true_and, Int32.toInt_inj] at same
  rw [Size.mk.injEq]
  exact ⟨congrArg Int32.toUInt32 same.1, congrArg Int32.toUInt32 same.2⟩

/-- The sizes that a desktop was last given. -/
structure GivenSizes where
  surface : Option Size
  viewport : Option Viewport
  deriving DecidableEq

/-- A state with the sizes that were given in it. -/
structure Measured (State : Type) where
  state : State
  given : GivenSizes

namespace Measured

variable {State Answer : Type}

/-- A state in which no size was given. -/
def fresh (state : State) : Measured State := ⟨state, none, none⟩

/-- A change that gives no size. -/
def tell (change : State → State) (measured : Measured State) : Measured State :=
  { measured with state := change measured.state }

/-- A call that gives no size. -/
def ask (call : State → Answer × State) (measured : Measured State) : Answer × Measured State :=
  let (answer, state) := call measured.state
  (answer, { measured with state })

/-- A surface has a size now. -/
def surfaced (size : Size) (measured : Measured State) : Measured State :=
  { measured with given := { measured.given with surface := some size } }

/-- Writes down what a call of the context does to the viewport. -/
def note : OpenGL.Call → Measured State → Measured State
  | .viewport x y width height, measured =>
    { measured with given := { measured.given with viewport := some ⟨x, y, width, height⟩ } }
  | _, measured => measured

end Measured

open Measured in
/-- The desktop that writes down the sizes it is given. A surface that could not be made has none.
-/
def Desktop.measured {State : Type} (desktop : Desktop State) : Desktop (Measured State) :=
  { createEventLoop := ask desktop.createEventLoop
    openDisplay := ask desktop.openDisplay
    chooseConfig := fun place alpha => tell (desktop.chooseConfig place alpha)
    openWindow := fun title size => ask (desktop.openWindow title size)
    createContext := fun config flavour => ask (desktop.createContext config flavour)
    createSurface := fun config size measured =>
      match ask (desktop.createSurface config size) measured with
      | (none, measured) => (none, measured.surfaced size)
      | (some reason, measured) => (some reason, measured)
    makeCurrent := ask desktop.makeCurrent
    setSwapInterval := fun interval => ask (desktop.setSwapInterval interval)
    innerSize := fun measured => desktop.innerSize measured.state
    resizeSurface := fun size measured => (tell (desktop.resizeSurface size) measured).surfaced size
    swapBuffers := ask desktop.swapBuffers
    setFullscreen := fun fullscreen => tell (desktop.setFullscreen fullscreen)
    requestInnerSize := fun size => tell (desktop.requestInnerSize size)
    requestRedraw := tell desktop.requestRedraw
    runLoop := ask desktop.runLoop
    waitForEvents := tell desktop.waitForEvents
    exitLoop := tell desktop.exitLoop
    gl := desktop.gl.watched Measured.state (fun state measured => { measured with state }) note
      fun _ measured => measured }

namespace Pane

variable {State : Type}

/-- The size of the canvas, and the sizes that were given. -/
def sizes (pane : Pane (Measured State)) : Size × GivenSizes := (pane.drawable, pane.desktop.given)

/-- Whether the surface has the size of the canvas, with a pixel at least each way. -/
def IsBacked (pane : Pane (Measured State)) : Prop :=
  pane.desktop.given.surface = some pane.drawable.filled

/-- Whether the surface, the canvas and the viewport have one size. -/
def Agrees (pane : Pane (Measured State)) : Prop :=
  pane.desktop.given = ⟨some pane.drawable, some pane.drawable.viewport⟩

/-- Whether the sizes of a window agree can be computed. -/
instance (pane : Pane (Measured State)) : Decidable pane.Agrees :=
  inferInstanceAs (Decidable (pane.desktop.given = _))

end Pane

/-- Something that happens to a window, or around it. -/
inductive Incident (State : Type) where
  /-- The desktop changes: the window may be sized or minimised. -/
  | surroundings (change : State → State)
  | event (event : LoopEvent)
  | command (command : LiveCommand)

/-- Whether the window is told to fit its new size. -/
def Incident.resizes {State : Type} : Incident State → Bool
  | .event (.window .resized) => true
  | _ => false

section Window

variable {State : Type} (desktop : Desktop State) (smallSize : Size)

/-- A session in a window of a measured desktop. -/
abbrev MeasuredSession (State : Type) := Session OpenGL.handles (Pane (Measured State))

/-- The rig of a window on a measured desktop. -/
abbrev measuredRig : Rig OpenGL.handles (Pane (Measured State)) :=
  Pane.rig desktop.measured smallSize

/-- A session after an incident. -/
def undergo (session : MeasuredSession State) : Incident State → MeasuredSession State
  | .surroundings change => { session with state := session.state.act (Measured.tell change) }
  | .event event => (Window.handle desktop.measured smallSize event session).session
  | .command command => (Window.handleCommand desktop.measured smallSize command session).session

/-- A session after incidents, the first of them first. -/
def undergone (session : MeasuredSession State) : List (Incident State) → MeasuredSession State
  | [] => session
  | incident :: rest => undergone (undergo desktop smallSize session incident) rest

/-- Only setting the viewport changes the sizes that a measured context was given. -/
theorem measured_context_keeps : desktop.measured.gl.Keeps Measured.given := by
  constructor <;> intros <;> rfl

/-- The rig of the window gives sizes only where it fits them. -/
theorem measured_rig_keeps : (measuredRig desktop smallSize).Keeps Pane.sizes := by
  have keeps := measured_context_keeps desktop
  have beside (pane : Pane (Measured State)) {after : Measured State}
      (same : Same Measured.given pane.desktop after) :
      Same Pane.sizes pane { pane with desktop := after } := congrArg (Prod.mk pane.drawable) same
  constructor
  case compileStage =>
    exact fun stage source pane => beside pane (OpenGL.compile_stage_same keeps ..)
  case link => exact fun vertex fragment pane => beside pane (OpenGL.link_same keeps ..)
  case upload =>
    exact fun location shape values pane => beside pane (OpenGL.upload_same keeps ..)
  case createQuad => exact fun pane => beside pane (OpenGL.create_quad_same keeps ..)
  case setPresentation => exact fun presentation pane => by cases presentation <;> rfl
  all_goals intros; rfl

/-- What a resize makes of the sizes: the viewport gets the window's size, the canvas and the
surface get it if it has an area and are left as they were otherwise. -/
structure Fitted (size : Size) (before after : Pane (Measured State)) : Prop where
  viewport : after.desktop.given.viewport = some size.viewport
  taken : size.HasArea → after.drawable = size ∧ after.desktop.given.surface = some size
  left : ¬ size.HasArea →
    after.drawable = before.drawable ∧ after.desktop.given.surface = before.desktop.given.surface

/-- A resize fits the sizes to the window, and the frame that it draws leaves them so. -/
theorem resize_fits (session : MeasuredSession State) :
    Fitted (desktop.innerSize session.state.desktop.state) session.state
      (session.resize (measuredRig desktop smallSize)).state := by
  generalize window : desktop.innerSize session.state.desktop.state = size
  have drawn : (session.resize (measuredRig desktop smallSize)).state.sizes =
      ((measuredRig desktop smallSize).driver.setViewport size
        ((session.state).resize desktop.measured size)).sizes :=
    window ▸ redraw_same (measured_rig_keeps desktop smallSize) _
  obtain ⟨drawable, given⟩ := Prod.mk.inj drawn
  refine ⟨by rw [given]; rfl, ?_, ?_⟩
  · intro area
    have fitted : session.state.resize desktop.measured size =
        ⟨desktop.measured.resizeSurface size session.state.desktop, size⟩ :=
      if_neg (not_or.mpr area)
    rw [drawable, given, fitted]
    exact ⟨rfl, rfl⟩
  · intro empty
    have flat : size.width = 0 ∨ size.height = 0 := by
      by_cases narrow : size.width = 0
      · exact .inl narrow
      · exact .inr (Decidable.byContradiction fun tall => empty ⟨narrow, tall⟩)
    have fitted : session.state.resize desktop.measured size = session.state := if_pos flat
    rw [drawable, given, fitted]
    exact ⟨rfl, rfl⟩

/-- Nothing but a resize gives a size. -/
theorem undergo_same (session : MeasuredSession State) {incident : Incident State}
    (other : incident.resizes = false) :
    (undergo desktop smallSize session incident).state.sizes = session.state.sizes := by
  have keeps := measured_rig_keeps desktop smallSize
  cases incident with
  | surroundings change => rfl
  | event event =>
    cases event with
    | window event =>
      cases event with
      | resized => cases other
      | redrawRequested => exact perform_same keeps session .tick (by simp)
      | closeRequested | destroyed | escapePressed | unheeded => rfl
    | otherWindow event => rfl
    | aboutToWait =>
      simp only [undergo, Window.handle]
      split <;> rfl
    | exiting => exact perform_same keeps session .release (by simp)
  | command command =>
    cases command with
    | eval source document => exact eval_same keeps session source document
    | uniform command => exact perform_same keeps session (.apply command) (by simp)
    | shutdown => rfl

/-- A surface is backed after a resize if it was before. -/
theorem Fitted.backed {size : Size} {before after : Pane (Measured State)}
    (fitted : Fitted size before after) (backed : before.IsBacked) : after.IsBacked := by
  unfold Pane.IsBacked at backed ⊢
  by_cases area : size.HasArea
  · obtain ⟨drawable, surface⟩ := fitted.taken area
    rw [drawable, surface, (Size.filled_eq_iff size).mpr area]
  · obtain ⟨drawable, surface⟩ := fitted.left area
    rw [drawable, surface, backed]

/-- After a resize the three sizes agree exactly when the window had an area. -/
theorem Fitted.agrees_iff {size : Size} {before after : Pane (Measured State)}
    (fitted : Fitted size before after) (backed : before.IsBacked) :
    after.Agrees ↔ size.HasArea := by
  have later : after.desktop.given.surface = some after.drawable.filled := fitted.backed backed
  have viewport := fitted.viewport
  unfold Pane.Agrees
  constructor
  · intro agrees
    rw [agrees, Option.some.injEq] at later viewport
    have same : after.drawable = size := Size.viewport_injective viewport
    rw [same] at later
    exact (Size.filled_eq_iff size).mp later.symm
  · intro area
    obtain ⟨drawable, surface⟩ := fitted.taken area
    rw [drawable, ← surface, ← viewport]

/-- Whatever happens, a surface that is backed stays so. -/
theorem undergo_backed {session : MeasuredSession State} (incident : Incident State)
    (backed : session.state.IsBacked) :
    (undergo desktop smallSize session incident).state.IsBacked := by
  cases kind : incident.resizes with
  | true =>
    have resized : incident = .event (.window .resized) := by
      unfold Incident.resizes at kind
      split at kind
      · rfl
      · cases kind
    subst resized
    exact (resize_fits desktop smallSize session).backed backed
  | false =>
    have same := undergo_same desktop smallSize session kind
    obtain ⟨drawable, given⟩ := Prod.mk.inj same
    rw [Pane.IsBacked, given, drawable]
    exact backed

/-- A surface that is backed stays so over any run of incidents. -/
theorem undergone_backed {session : MeasuredSession State} (incidents : List (Incident State))
    (backed : session.state.IsBacked) :
    (undergone desktop smallSize session incidents).state.IsBacked := by
  induction incidents generalizing session with
  | nil => exact backed
  | cons incident rest induction =>
    exact induction (undergo_backed desktop smallSize incident backed)

/-- A surface that could be made was given its size. -/
theorem create_surface_gives {config : Nat} {size : Size} {before after : Measured State}
    (made : desktop.measured.createSurface config size before = (none, after)) :
    after.given.surface = some size := by
  dsimp only [Desktop.measured] at made
  split at made
  · cases made
    rfl
  · cases made

/-- A session starts with the size that the window had, and resizes to that which it has. -/
theorem start_session_ends (options : WindowOptions) (flavour : ContextFlavour) (size : Size)
    (clock : Clock) (state : Measured State) :
    ∃ opening : MeasuredSession State, opening.state.sizes = (size, state.given) ∧
      Window.startSession desktop.measured options flavour size clock state =
        opening.resize (measuredRig desktop options.smallSize) := by
  have keeps := measured_rig_keeps desktop options.smallSize
  have presented := keeps.setPresentation .fullscreen ⟨state, size⟩
  unfold Window.startSession
  cases options.presentation with
  | fullscreen =>
    refine ⟨_, ?_, rfl⟩
    exact presented
  | small =>
    refine ⟨_, ?_, rfl⟩
    exact presented.trans (keeps.setPresentation .small _)

/-- A window comes up with a backed surface, and its sizes are fitted at once. -/
theorem bring_up_ends {options : WindowOptions} {clock : Clock} {state after : Measured State}
    {session : MeasuredSession State}
    (opened : Window.bringUp desktop.measured options clock state = (.ok session, after)) :
    ∃ opening : MeasuredSession State, opening.state.IsBacked ∧
      session = opening.resize (measuredRig desktop options.smallSize) := by
  unfold Window.bringUp at opened
  split at opened
  · cases opened
  split at opened
  · cases opened
  dsimp only at opened
  split at opened
  · cases opened
  split at opened
  · cases opened
  rename_i flavour ready _
  split at opened
  · cases opened
  rename_i surfaced made
  split at opened
  · cases opened
  rename_i current bound
  have surface := create_surface_gives desktop made
  have kept : current.given = surfaced.given := congrArg (fun result => result.2.given) bound.symm
  obtain ⟨opening, sizes, started⟩ := start_session_ends desktop options flavour
    (desktop.measured.innerSize ready) clock (desktop.measured.setSwapInterval 1 current).2
  refine ⟨opening, ?_, ?_⟩
  · obtain ⟨drawable, given⟩ := Prod.mk.inj sizes
    rw [Pane.IsBacked, drawable, given]
    exact (congrArg GivenSizes.surface kept).trans surface
  · rw [← started]
    exact (Except.ok.inj (congrArg Prod.fst opened)).symm

/-- The viewport follows the window, and the canvas and the surface follow it while it has an area.

Whatever sizes a window has, when it comes up and each time it is resized, the viewport is given the
size that it has then. The canvas and the surface are given it too if it has an area; otherwise both
stay as they were, as those of a minimised window do. In between nothing gives a size. So the three
agree after a resize exactly when the window had an area, and the surface always has the size of
the canvas, with a pixel at least each way. -/
theorem sizes_follow_window (options : WindowOptions) (clock : Clock) (state : State)
    {session : MeasuredSession State} {after : Measured State}
    (opened : Window.bringUp desktop.measured options clock (.fresh state) = (.ok session, after)) :
    let rig := measuredRig desktop options.smallSize
    ∃ opening : MeasuredSession State, session = opening.resize rig ∧
      ∀ incidents : List (Incident State),
        let before := undergone desktop options.smallSize opening incidents
        let size := desktop.innerSize before.state.desktop.state
        Fitted size before.state (before.resize rig).state ∧
          ((before.resize rig).state.Agrees ↔ size.HasArea) ∧
          before.state.IsBacked ∧
          ∀ incident, incident.resizes = false →
            (undergo desktop options.smallSize before incident).state.sizes =
              before.state.sizes := by
  intro rig
  obtain ⟨opening, backed, resized⟩ := bring_up_ends desktop opened
  refine ⟨opening, resized, ?_⟩
  intro incidents before size
  have stillBacked : before.state.IsBacked :=
    undergone_backed desktop options.smallSize incidents backed
  have fitted := resize_fits desktop options.smallSize before
  refine ⟨fitted, fitted.agrees_iff stillBacked, stillBacked, ?_⟩
  intro incident other
  exact undergo_same desktop options.smallSize before other

end Window

/-- A desktop on which nothing fails, whose window gets a size whatever is asked for. -/
def readyDesktop (forced : Option Size) : ScriptedDesktop.Memory :=
  ⟨.none, [0], true, forced, ⟨0, 0⟩, .initial, []⟩

/-- A window of the scripted desktop. -/
def readyWindow (forced : Option Size) :
    Except WindowError (MeasuredSession ScriptedDesktop.Memory) × Measured ScriptedDesktop.Memory :=
  Window.bringUp ScriptedDesktop.desktop.measured .standard (.stepped 0 1)
    (.fresh (readyDesktop forced))

/-- The window is minimised, and then told so. -/
def minimise : List (Incident ScriptedDesktop.Memory) :=
  [.surroundings fun memory => { memory with size := ⟨0, 0⟩ }, .event (.window .resized)]

/-- A window that is minimised has an empty viewport, and a canvas and a surface that are not empty;
one that comes up without an area has a surface that is not empty. -/
theorem minimised_window_disagrees :
    (∃ session after, readyWindow none = (.ok session, after) ∧
      let minimised := undergone ScriptedDesktop.desktop WindowOptions.standard.smallSize session
        minimise
      minimised.state.sizes = (⟨1280, 720⟩, ⟨some ⟨1280, 720⟩, some ⟨0, 0, 0, 0⟩⟩) ∧
        ¬ minimised.state.Agrees) ∧
    ∃ session after, readyWindow (some ⟨0, 0⟩) = (.ok session, after) ∧
      session.state.sizes = (⟨0, 0⟩, ⟨some ⟨1, 1⟩, some ⟨0, 0, 0, 0⟩⟩) ∧ ¬ session.state.Agrees :=
  ⟨⟨_, _, rfl, rfl, by decide⟩, _, _, rfl, rfl, by decide⟩

/-- The window of the scripted desktop is followed, also while it is minimised. -/
theorem scripted_window_is_followed :
    ∃ session after, readyWindow none = (.ok session, after) ∧
      let rig := measuredRig ScriptedDesktop.desktop WindowOptions.standard.smallSize
      ∃ opening : MeasuredSession ScriptedDesktop.Memory, session = opening.resize rig ∧
        ∀ incidents : List (Incident ScriptedDesktop.Memory),
          let before := undergone ScriptedDesktop.desktop WindowOptions.standard.smallSize opening
            incidents
          let size := ScriptedDesktop.desktop.innerSize before.state.desktop.state
          Fitted size before.state (before.resize rig).state ∧
            ((before.resize rig).state.Agrees ↔ size.HasArea) ∧
            before.state.IsBacked ∧
            ∀ incident, incident.resizes = false →
              (undergo ScriptedDesktop.desktop WindowOptions.standard.smallSize before
                incident).state.sizes = before.state.sizes :=
  ⟨_, _, rfl, sizes_follow_window ScriptedDesktop.desktop .standard (.stepped 0 1)
    (readyDesktop none) rfl⟩

end LiveShader
