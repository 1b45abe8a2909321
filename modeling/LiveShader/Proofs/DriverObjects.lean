import LiveShader.Graphics.Trace
import LiveShader.Proofs.Ownership

/-!
# Objects as a driver hands them out

The account of a driver's own handles, read off the calls that a traced rig writes down. A handle
is created by the call that answers it, used by every call that it is passed to, and released by
the call that gives it back. A failing call creates nothing: what it does below its handles is not
a matter of this account.
-/
namespace LiveShader

variable {handles : Handles} {State Answer : Type}

/-- A handle as an object of its driver. Handles of different kinds are different objects, also
where a driver numbers them alike. -/
inductive DriverObject (handles : Handles) where
  | stage (stage : handles.Stage)
  | program (program : handles.Program)
  | quad (quad : handles.Quad)

/-- The creation of the object of an answer, unless the call failed. -/
def creation {Handle Object : Type} (object : Handle → Object) :
    Except String Handle → List (ObjectEvent Object)
  | .ok handle => [.created (object handle)]
  | .error _ => []

/-- What a call does to the objects of the driver. A link uses both stages whether it succeeds or
not, and a frame makes its program the current one and uses the quad. -/
def Call.events : Call handles → List (ObjectEvent (DriverObject handles))
  | .compileStage _ _ answer => creation .stage answer
  | .releaseStage stage => [.released (.stage stage)]
  | .link vertex fragment answer =>
    .used (.stage vertex) :: .used (.stage fragment) :: creation .program answer
  | .releaseProgram program => [.released (.program program)]
  | .useProgram program => [.bound (.program program)]
  | .activeUniforms program _ => [.used (.program program)]
  | .uniformLocation program _ _ => [.used (.program program)]
  | .createQuad answer => creation .quad answer
  | .releaseQuad quad => [.released (.quad quad)]
  | .beginFrame program quad => [.used (.quad quad), .bound (.program program)]
  | .upload _ _ _ _ | .setViewport _ | .drawQuad | .resizeDrawable _ | .setPresentation _
  | .present _ => []

/-- What the calls so far did to the objects of the driver, the oldest first. -/
def Traced.events (traced : Traced handles State) : List (ObjectEvent (DriverObject handles)) :=
  traced.calls.flatMap Call.events

/-- Each handle stands for itself. -/
def driverCustody (handles : Handles) : Custody handles (DriverObject handles) :=
  { stage := .stage
    program := .program
    quad := fun quad => {.quad quad} }

section Calls

variable {held left : Multiset (DriverObject handles)} {bound : Option (DriverObject handles)}

/-- A call without an answer moves what its events move. It remains to show for each call that these
are in order and what is bound after them. -/
theorem told (call : Call handles) (act : State → State) (traced : Traced handles State)
    (accounted : Accounted held call.events left) (last : lastBound call.events = bound) :
    Moves Traced.events held left bound traced (Traced.tell call act traced) :=
  ⟨call.events, by simp [Traced.events, Traced.tell], accounted, last⟩

/-- A call with an answer moves what its events move. -/
theorem asked (call : Answer → Call handles) (act : State → Answer × State)
    (traced : Traced handles State)
    (accounted : Accounted held (call (act traced.state).1).events left)
    (last : lastBound (call (act traced.state).1).events = bound) :
    Moves Traced.events held left bound traced (Traced.ask call act traced).2 :=
  ⟨(call (act traced.state).1).events, by simp [Traced.events, Traced.ask], accounted, last⟩

end Calls

/-- A creation adds to what is held the objects that the answer hands out. -/
theorem creation_accounted {Handle Object : Type} (object : Handle → Object)
    (held : Multiset Object) (answer : Except String Handle) :
    Accounted held (creation object answer)
      (held + granted (fun handle => {object handle}) answer) := by
  cases answer with
  | error log =>
    rw [granted, Multiset.add_zero]
    exact .settled held
  | ok handle =>
    rw [granted, Multiset.add_comm, Multiset.singleton_add]
    exact .created (object handle) (.settled _)

/-- A creation binds nothing, whether it succeeds or fails. -/
theorem creation_binds_nothing {Handle Object : Type} (object : Handle → Object)
    (answer : Except String Handle) : lastBound (creation object answer) = none := by
  cases answer <;> rfl

/-- A traced rig keeps an account of the handles of its driver. -/
theorem traced_keeps_account (rig : Rig handles State) :
    rig.traced.KeepsAccount (driverCustody handles) Traced.events where
  compileStage stage source traced := by
    have created := creation_accounted DriverObject.stage 0
      (rig.driver.compileStage stage source traced.state).1
    rw [Multiset.zero_add] at created
    exact asked _ _ traced created (creation_binds_nothing _ _)
  releaseStage stage traced := told _ _ traced (.released _ (.settled 0)) rfl
  link vertex fragment traced := by
    refine asked _ _ traced (.used _ (by simp [driverCustody]) (.used _ (by simp [driverCustody])
      (creation_accounted _ _ _))) ?_
    exact creation_binds_nothing _ _
  releaseProgram program traced := told _ _ traced (.released _ (.settled 0)) rfl
  useProgram program traced :=
    told _ _ traced (.bound _ (Multiset.mem_singleton_self _) (.settled _)) rfl
  activeUniforms program traced :=
    asked _ _ traced (.used _ (Multiset.mem_singleton_self _) (.settled _)) rfl
  uniformLocation program name traced :=
    asked _ _ traced (.used _ (Multiset.mem_singleton_self _) (.settled _)) rfl
  upload location shape values traced := asked _ _ traced (.settled 0) rfl
  createQuad traced := by
    have created := creation_accounted DriverObject.quad 0 (rig.driver.createQuad traced.state).1
    rw [Multiset.zero_add] at created
    exact asked _ _ traced created (creation_binds_nothing _ _)
  releaseQuad quad traced := told _ _ traced (.released _ (.settled 0)) rfl
  setViewport size traced := told _ _ traced (.settled 0) rfl
  beginFrame program quad traced := by
    refine told _ _ traced (.used _ ?_ (.bound _ ?_ (.settled _))) rfl <;> simp [driverCustody]
  drawQuad traced := told _ _ traced (.settled 0) rfl
  resizeDrawable size traced := told _ _ traced (.settled 0) rfl
  setPresentation presentation traced := told _ _ traced (.settled 0) rfl
  present traced := asked _ _ traced (.settled 0) rfl

end LiveShader
