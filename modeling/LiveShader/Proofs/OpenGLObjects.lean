import LiveShader.OpenGL.Binding
import LiveShader.Proofs.DriverObjects

/-!
# Objects below the OpenGL driver

A context of OpenGL hands out shaders, programs, buffers and arrays of vertices, and each call and
query of the binding is written down as what it does to them. The binding keeps an account: a
stage is one shader, a program one program, and a quad an array of vertices with a buffer. A
shader that does not compile, a program that does not link and a buffer whose array of vertices
cannot be made are created and deleted within the call that fails.

With the account of the driver's handles this is what a session owes on both levels.
-/
namespace LiveShader.OpenGL

variable {State : Type}

/-- An object of a context; the four kinds have names of their own. -/
inductive ContextObject where
  | shader (name : Nat)
  | program (name : Nat)
  | buffer (name : Nat)
  | vertexArray (name : Nat)
  deriving DecidableEq

/-- What a call does to the objects of the context. -/
def Call.events : Call → List (ObjectEvent ContextObject)
  | .createShader _ answer => creation .shader answer
  | .shaderSource shader _ => [.used (.shader shader)]
  | .compileShader shader => [.used (.shader shader)]
  | .deleteShader shader => [.released (.shader shader)]
  | .createProgram answer => creation .program answer
  | .attachShader program shader => [.used (.program program), .used (.shader shader)]
  | .detachShader program shader => [.used (.program program), .used (.shader shader)]
  | .linkProgram program => [.used (.program program)]
  | .deleteProgram program => [.released (.program program)]
  | .useProgram program => [.bound (.program program)]
  | .createBuffer answer => creation .buffer answer
  | .bindBuffer _ buffer => [.used (.buffer buffer)]
  | .deleteBuffer buffer => [.released (.buffer buffer)]
  | .createVertexArray answer => creation .vertexArray answer
  | .bindVertexArray vertexArray => [.used (.vertexArray vertexArray)]
  | .deleteVertexArray vertexArray => [.released (.vertexArray vertexArray)]
  | .getError _ | .uniformValues _ _ _ | .bufferData _ _ _ | .enableAttribute _
  | .attributePointer _ _ _ _ _ _ | .viewport _ _ _ _ | .clearColor _ _ _ _ | .clear _
  | .drawArrays _ _ _ => []

/-- A query uses the object that it is about. -/
def Query.event : Query → ObjectEvent ContextObject
  | .shader name => .used (.shader name)
  | .program name => .used (.program name)

/-- A state with what the calls and queries so far did to the objects, the oldest first. -/
structure Audited (State : Type) where
  state : State
  events : List (ObjectEvent ContextObject)

/-- The context that writes down what is done to its objects. -/
def EntryPoints.audited (gl : EntryPoints State) : EntryPoints (Audited State) :=
  gl.watched Audited.state (fun state audited => { audited with state })
    (fun call audited => { audited with events := audited.events ++ call.events })
    (fun query audited => { audited with events := audited.events ++ [query.event] })

/-- The binding over an audited context, beside a canvas of the same state. -/
def auditedRig (gl : EntryPoints State) (canvas : Canvas State) :
    Rig handles (Audited State) :=
  { driver := driver gl.audited
    canvas := canvas.lift Audited.state fun state audited => { audited with state } }

/-- The objects behind the handles of the binding. -/
def bindingCustody : Custody handles ContextObject :=
  { stage := .shader
    program := .program
    quad := fun quad => {.vertexArray quad.vertexArray, .buffer quad.buffer} }

section Accounts

variable {events : State → List (ObjectEvent ContextObject)} {before after : State}

/-- A step that uses only the objects given, and leaves them where they are. -/
def Touches (events : State → List (ObjectEvent ContextObject)) (objects : List ContextObject)
    (before after : State) : Prop :=
  ∀ held : Multiset ContextObject, (∀ object ∈ objects, object ∈ held) →
    Moves events held held none before after

/-- A step that creates the object of its answer. -/
def Creates (events : State → List (ObjectEvent ContextObject)) (object : Nat → ContextObject)
    (before : State) (result : Except String Nat × State) : Prop :=
  Moves events 0 (granted (fun name => {object name}) result.1) none before result.2

/-- Every entry point adds to the events what it does to the objects of the context. -/
structure EntryPoints.KeepsAccount (gl : EntryPoints State)
    (events : State → List (ObjectEvent ContextObject)) : Prop where
  createShader : ∀ kind state, Creates events .shader state (gl.createShader kind state)
  shaderSource : ∀ shader source state,
    Touches events [.shader shader] state (gl.shaderSource shader source state)
  compileShader : ∀ shader state,
    Touches events [.shader shader] state (gl.compileShader shader state)
  shaderCompiled : ∀ shader state,
    Touches events [.shader shader] state (gl.shaderCompiled shader state).2
  shaderLog : ∀ shader state, Touches events [.shader shader] state (gl.shaderLog shader state).2
  deleteShader : ∀ shader state,
    Moves events {.shader shader} 0 none state (gl.deleteShader shader state)
  createProgram : ∀ state, Creates events .program state (gl.createProgram state)
  attachShader : ∀ program shader state,
    Touches events [.program program, .shader shader] state (gl.attachShader program shader state)
  detachShader : ∀ program shader state,
    Touches events [.program program, .shader shader] state (gl.detachShader program shader state)
  linkProgram : ∀ program state,
    Touches events [.program program] state (gl.linkProgram program state)
  programLinked : ∀ program state,
    Touches events [.program program] state (gl.programLinked program state).2
  programLog : ∀ program state,
    Touches events [.program program] state (gl.programLog program state).2
  deleteProgram : ∀ program state,
    Moves events {.program program} 0 none state (gl.deleteProgram program state)
  useProgram : ∀ program state,
    Moves events {.program program} {.program program} (some (.program program)) state
      (gl.useProgram program state)
  activeUniforms : ∀ program state,
    Touches events [.program program] state (gl.activeUniforms program state).2
  uniformLocation : ∀ program name state,
    Touches events [.program program] state (gl.uniformLocation program name state).2
  getError : ∀ state, Touches events [] state (gl.getError state).2
  uniformValues : ∀ width location values state,
    Touches events [] state (gl.uniformValues width location values state)
  createBuffer : ∀ state, Creates events .buffer state (gl.createBuffer state)
  bindBuffer : ∀ target buffer state,
    Touches events [.buffer buffer] state (gl.bindBuffer target buffer state)
  bufferData : ∀ target bytes usage state,
    Touches events [] state (gl.bufferData target bytes usage state)
  deleteBuffer : ∀ buffer state,
    Moves events {.buffer buffer} 0 none state (gl.deleteBuffer buffer state)
  createVertexArray : ∀ state, Creates events .vertexArray state (gl.createVertexArray state)
  bindVertexArray : ∀ vertexArray state,
    Touches events [.vertexArray vertexArray] state (gl.bindVertexArray vertexArray state)
  enableAttribute : ∀ index state, Touches events [] state (gl.enableAttribute index state)
  attributePointer : ∀ index size type normalized stride offset state,
    Touches events [] state (gl.attributePointer index size type normalized stride offset state)
  deleteVertexArray : ∀ vertexArray state,
    Moves events {.vertexArray vertexArray} 0 none state (gl.deleteVertexArray vertexArray state)
  viewport : ∀ x y width height state,
    Touches events [] state (gl.viewport x y width height state)
  clearColor : ∀ red green blue alpha state,
    Touches events [] state (gl.clearColor red green blue alpha state)
  clear : ∀ mask state, Touches events [] state (gl.clear mask state)
  drawArrays : ∀ mode first count state,
    Touches events [] state (gl.drawArrays mode first count state)

/-- Steps that only use objects follow one another. -/
theorem Touches.trans {middle : State} {first second : List ContextObject}
    (earlier : Touches events first before middle) (later : Touches events second middle after) :
    Touches events (first ++ second) before after := by
  intro held members
  obtain ⟨membersFirst, membersSecond⟩ := List.forall_mem_append.mp members
  exact (earlier held membersFirst).trans (later held membersSecond)

/-- A step that uses one object needs no other. -/
theorem Touches.alone {object : ContextObject} (step : Touches events [object] before after) :
    Moves events {object} {object} none before after :=
  step {object} (by simp)

/-- A step that uses nothing needs nothing. -/
theorem Touches.free (step : Touches events [] before after) : Moves events 0 0 none before after :=
  step 0 (by simp)

end Accounts

/-- What is written down to have used objects touches just those. -/
theorem audited_touches {before after : Audited State} (objects : List ContextObject)
    (grown : after.events = before.events ++ objects.map .used) :
    Touches Audited.events objects before after := by
  intro held members
  refine ⟨objects.map .used, grown, ?_, ?_⟩
  · clear grown
    induction objects with
    | nil => exact .settled held
    | cons object rest induction =>
      obtain ⟨member, others⟩ := List.forall_mem_cons.mp members
      exact .used object member (induction others)
  · clear grown members
    induction objects with
    | nil => rfl
    | cons object rest induction => exact induction

/-- What is written down to have created the object of an answer creates it. -/
theorem audited_creates {before : Audited State} {result : Except String Nat × Audited State}
    (object : Nat → ContextObject)
    (grown : result.2.events = before.events ++ creation object result.1) :
    Creates Audited.events object before result := by
  have accounted := creation_accounted object 0 result.1
  rw [Multiset.zero_add] at accounted
  exact ⟨_, grown, accounted, creation_binds_nothing object result.1⟩

/-- What is written down to have deleted an object takes it away. -/
theorem audited_deletes {before after : Audited State} (object : ContextObject)
    (grown : after.events = before.events ++ [.released object]) :
    Moves Audited.events {object} 0 none before after :=
  ⟨_, grown, .released object (.settled 0), rfl⟩

/-- An audited context keeps an account of its objects. -/
theorem audited_keeps_account (gl : EntryPoints State) :
    gl.audited.KeepsAccount Audited.events where
  createShader _ _ := audited_creates _ rfl
  shaderSource _ _ _ := audited_touches _ rfl
  compileShader _ _ := audited_touches _ rfl
  shaderCompiled _ _ := audited_touches _ rfl
  shaderLog _ _ := audited_touches _ rfl
  deleteShader _ _ := audited_deletes _ rfl
  createProgram _ := audited_creates _ rfl
  attachShader _ _ _ := audited_touches _ rfl
  detachShader _ _ _ := audited_touches _ rfl
  linkProgram _ _ := audited_touches _ rfl
  programLinked _ _ := audited_touches _ rfl
  programLog _ _ := audited_touches _ rfl
  deleteProgram _ _ := audited_deletes _ rfl
  useProgram _ _ := ⟨_, rfl, .bound _ (Multiset.mem_singleton_self _) (.settled _), rfl⟩
  activeUniforms _ _ := audited_touches _ rfl
  uniformLocation _ _ _ := audited_touches _ rfl
  getError _ := audited_touches [] rfl
  uniformValues _ _ _ _ := audited_touches [] rfl
  createBuffer _ := audited_creates _ rfl
  bindBuffer _ _ _ := audited_touches _ rfl
  bufferData _ _ _ _ := audited_touches [] rfl
  deleteBuffer _ _ := audited_deletes _ rfl
  createVertexArray _ := audited_creates _ rfl
  bindVertexArray _ _ := audited_touches _ rfl
  enableAttribute _ _ := audited_touches [] rfl
  attributePointer _ _ _ _ _ _ _ := audited_touches [] rfl
  deleteVertexArray _ _ := audited_deletes _ rfl
  viewport _ _ _ _ _ := audited_touches [] rfl
  clearColor _ _ _ _ _ := audited_touches [] rfl
  clear _ _ := audited_touches [] rfl
  drawArrays _ _ _ _ := audited_touches [] rfl

section Binding

variable {gl : EntryPoints State} {events : State → List (ObjectEvent ContextObject)}
  (account : gl.KeepsAccount events)
include account

/-- A compilation leaves the shader of its stage; a failed one deletes it. -/
theorem compile_stage_moves (stage : Stage) (source : String) (state : State) :
    Moves events 0 (granted (fun shader => {.shader shader}) (compileStage gl stage source state).1)
      none state (compileStage gl stage source state).2 := by
  have created := account.createShader (kindOf stage) state
  unfold Creates at created
  unfold compileStage
  rcases answer : gl.createShader (kindOf stage) state with ⟨log | shader, made⟩
  · rwa [answer] at created
  rw [answer] at created
  have compiled := (account.shaderSource shader source made).alone.trans
    (account.compileShader shader _).alone
  dsimp only
  generalize gl.compileShader shader (gl.shaderSource shader source made) = ready at compiled
  have asked := (account.shaderCompiled shader ready).alone
  have known := created.trans compiled
  rcases verdict : gl.shaderCompiled shader ready with ⟨_ | _, judged⟩
  · rw [verdict] at asked
    have logged := (account.shaderLog shader judged).alone
    exact ((known.trans asked).trans logged).trans (account.deleteShader shader _)
  · rw [verdict] at asked
    exact known.trans asked

/-- A link leaves its program beside the two shaders; a failed one deletes it. -/
theorem link_moves (vertex fragment : Nat) (state : State) :
    Moves events ({.shader vertex} + {.shader fragment})
      ({.shader vertex} + {.shader fragment} +
        granted (fun program => {.program program}) (link gl vertex fragment state).1)
      none state (link gl vertex fragment state).2 := by
  have vertexHeld : ContextObject.shader vertex ∈
      ({.shader vertex} + {.shader fragment} : Multiset ContextObject) := by simp
  have fragmentHeld : ContextObject.shader fragment ∈
      ({.shader vertex} + {.shader fragment} : Multiset ContextObject) := by simp
  generalize ({.shader vertex} + {.shader fragment} : Multiset ContextObject) = stages
    at vertexHeld fragmentHeld
  have created := (account.createProgram state).beside stages
  rw [Multiset.zero_add, Multiset.add_comm _ stages] at created
  unfold link
  rcases answer : gl.createProgram state with ⟨log | program, made⟩
  · rwa [answer] at created
  rw [answer] at created
  have linked := ((account.attachShader program vertex made).trans
    (account.attachShader program fragment _)).trans (account.linkProgram program _)
  dsimp only
  generalize gl.linkProgram program (gl.attachShader program fragment
    (gl.attachShader program vertex made)) = ready at linked
  have known := created.trans ((linked.trans (account.programLinked program ready)) _
    (by simp [granted, vertexHeld, fragmentHeld]))
  rcases verdict : gl.programLinked program ready with ⟨_ | _, judged⟩
  · rw [verdict] at known
    have logged := known.trans (account.programLog program judged _ (by simp [granted]))
    have deleted := (account.deleteProgram program (gl.programLog program judged).2).beside stages
    rw [Multiset.add_comm _ stages, Multiset.add_comm 0 stages] at deleted
    exact logged.trans deleted
  · rw [verdict] at known
    have detached := (account.detachShader program vertex judged).trans
      (account.detachShader program fragment _)
    exact known.trans (detached _ (by simp [granted, vertexHeld, fragmentHeld]))

/-- Taking errors off the queue touches no object. -/
theorem drain_moves (bound : Nat) (state : State) :
    Moves events 0 0 none state (drainErrors gl bound state) := by
  induction bound generalizing state with
  | zero => exact .refl 0 state
  | succ bound induction =>
    have asked := (account.getError state).free
    unfold drainErrors
    dsimp only
    split
    · exact asked
    · exact asked.trans (induction _)

/-- An upload touches no object. -/
theorem upload_moves (location : Int) (shape : Shape) (values : List Float32) (state : State) :
    Moves events 0 0 none state (upload gl location shape values state).2 := by
  unfold upload
  cases checkShape shape values.length with
  | error mismatch => exact .refl 0 state
  | ok _ =>
    have sent := (account.uniformValues shape.components location values
      (drainErrors gl staleErrorLimit state)).free
    exact ((drain_moves account staleErrorLimit state).trans sent).trans (account.getError _).free

/-- A quad is an array of vertices and a buffer; without the first the second is deleted. -/
theorem create_quad_moves (state : State) :
    Moves events 0 (granted bindingCustody.quad (createQuad gl state).1) none state
      (createQuad gl state).2 := by
  have created := account.createBuffer state
  unfold Creates at created
  unfold createQuad
  rcases answer : gl.createBuffer state with ⟨log | buffer, made⟩
  · rwa [answer] at created
  rw [answer] at created
  dsimp only
  have filled := (account.bindBuffer arrayBuffer buffer made).alone.trans
    ((account.bufferData arrayBuffer (quadCorners.flatMap bytesOf) staticDraw _).free.idle _)
  generalize gl.bufferData arrayBuffer (quadCorners.flatMap bytesOf) staticDraw
    (gl.bindBuffer arrayBuffer buffer made) = ready at filled
  have arrayed := account.createVertexArray ready
  unfold Creates at arrayed
  rcases answerLater : gl.createVertexArray ready with ⟨log | vertexArray, after⟩
  · rw [answerLater] at arrayed
    exact ((created.trans filled).trans (arrayed.idle _)).trans (account.deleteBuffer buffer after)
  · rw [answerLater] at arrayed
    have beside := arrayed.beside {.buffer buffer}
    rw [Multiset.zero_add] at beside
    have described := ((account.bindVertexArray vertexArray after).trans
      (account.enableAttribute 0 _)).trans
      (account.attributePointer 0 2 floatCode false 0 0 _)
    exact ((created.trans filled).trans beside).trans (described _ (by simp [granted]))

/-- A frame binds its program, and uses its array of vertices. -/
theorem begin_frame_moves (program : Nat) (quad : QuadGeometry) (state : State) :
    Moves events ({.program program} + bindingCustody.quad quad)
      ({.program program} + bindingCustody.quad quad) (some (.program program)) state
      ((driver gl).beginFrame program quad state) := by
  have cleared := ((account.clearColor 0 0 0 0 state).trans (account.clear colorBit _)).free
  have used := (account.useProgram program
    (gl.clear colorBit (gl.clearColor 0 0 0 0 state))).beside (bindingCustody.quad quad)
  have arrayed := account.bindVertexArray quad.vertexArray
    (gl.useProgram program (gl.clear colorBit (gl.clearColor 0 0 0 0 state)))
  exact ((cleared.idle _).trans used).trans (arrayed _ (by simp [bindingCustody]))

end Binding

/-- The binding over an audited context keeps an account of the context's objects. -/
theorem audited_rig_keeps_account (gl : EntryPoints State) (canvas : Canvas State) :
    (auditedRig gl canvas).KeepsAccount bindingCustody Audited.events := by
  have account := audited_keeps_account gl
  exact
    { compileStage := compile_stage_moves account
      releaseStage := account.deleteShader
      link := link_moves account
      releaseProgram := account.deleteProgram
      useProgram := account.useProgram
      activeUniforms := fun program state => (account.activeUniforms program state).alone
      uniformLocation := fun program name state =>
        (account.uniformLocation program name state).alone
      upload := upload_moves account
      createQuad := create_quad_moves account
      releaseQuad := fun quad state =>
        ((account.deleteVertexArray quad.vertexArray state).beside {.buffer quad.buffer}).trans
          (account.deleteBuffer quad.buffer _)
      setViewport := fun size state => (account.viewport _ _ _ _ state).free
      beginFrame := begin_frame_moves account
      drawQuad := fun state => (account.drawArrays triangleStrip 0 4 state).free
      resizeDrawable := fun _ _ => ⟨[], (List.append_nil _).symm, .settled 0, rfl⟩
      setPresentation := fun _ _ => ⟨[], (List.append_nil _).symm, .settled 0, rfl⟩
      present := fun _ => ⟨[], (List.append_nil _).symm, .settled 0, rfl⟩ }

/-- What sessions owe to drivers and contexts, whatever these answer.

After any operations a session holds, of all that its driver handed out, exactly the program and
the quad of its running shader, and that program is bound. Over the binding it holds exactly the
program, the array of vertices and the buffer behind them. On both levels nothing is released
twice, nothing is touched after its release, and after the session's release everything that was
created has been released. -/
theorem sessions_are_disciplined {handles : Handles} {Whole Part : Type} (rig : Rig handles Whole)
    (gl : EntryPoints Part) (canvas : Canvas Part) (options : SessionOptions) (clock : Clock)
    (whole : Whole) (part : Part) (operations : List Operation) :
    let traced :=
      (Session.start rig.traced options clock (.begin whole)).after rig.traced operations
    let audited :=
      (Session.start (auditedRig gl canvas) options clock ⟨part, []⟩).after (auditedRig gl canvas)
        operations
    Disciplined (driverCustody handles) traced.state.events operations traced ∧
      Disciplined bindingCustody audited.state.events operations audited :=
  ⟨run_disciplined (traced_keeps_account rig) options clock _ rfl operations,
    run_disciplined (audited_rig_keeps_account gl canvas) options clock _ rfl operations⟩

end LiveShader.OpenGL
