import LiveShader.Launch.Run
import LiveShader.Proofs.Saves

/-!
# Saves while a run starts up

A run reads its shader once, opens the window, hands the window the text that it read, and only then
has the file watched; saves can fall between any two of these steps. What the steps come to is
written down: how many saves came before the last read and what it answered, which texts the window
was handed, and how many saves had come, and what the file held, when the watching began.

The text of the window is the text of that one read, whatever was saved since: it is what the file
holds when the watching begins if nothing was saved in between, and nothing makes up for a save that
was.
-/
namespace LiveShader.Launch

section Assertions

variable {State Error Answer Result : Type}

/-- From a state that meets a condition a computation leads to an answer with a state that meets
another one, or to an error with a state that meets a third. -/
def Leads (before : State → Prop) (computation : ExceptT Error (StateM State) Answer)
    (after : Answer → State → Prop) (failed : State → Prop) : Prop :=
  ∀ state, before state →
    match Id.run (computation.run.run state) with
    | (.ok answer, state) => after answer state
    | (.error _, state) => failed state

namespace Leads

variable {before failed : State → Prop} {after : Answer → State → Prop}
  {last : Result → State → Prop}

/-- A computation that only answers leaves the state, which has to meet the condition for that
answer already. -/
theorem pure {answer : Answer} (meets : ∀ state, before state → after answer state) :
    Leads before (Pure.pure answer : ExceptT Error (StateM State) Answer) after failed :=
  meets

/-- A computation that only fails leaves the state, which has to meet the condition for failures
already. -/
theorem throw {error : Error} (meets : ∀ state, before state → failed state) :
    Leads before (MonadExcept.throw error : ExceptT Error (StateM State) Answer) after failed :=
  meets

/-- A call leads to what it answers. -/
theorem call {action : StateM State Answer}
    (meets : ∀ state, before state →
      after (Id.run (action.run state)).1 (Id.run (action.run state)).2) :
    Leads before (liftM action : ExceptT Error (StateM State) Answer) after failed :=
  meets

/-- What leads on from a condition leads on from a stronger one. -/
theorem weaken {computation : ExceptT Error (StateM State) Answer} {stronger : State → Prop}
    (leads : Leads before computation after failed)
    (meets : ∀ state, stronger state → before state) :
    Leads stronger computation after failed :=
  fun state holds => leads state (meets state holds)

/-- A condition that a computation leads to however it ends holds at its end. -/
theorem ends {computation : ExceptT Error (StateM State) Answer} {ended : State → Prop}
    (leads : Leads before computation (fun _ => ended) ended) {state : State}
    (meets : before state) : ended (Id.run (computation.run.run state)).2 := by
  have arrives := leads state meets
  generalize Id.run (computation.run.run state) = result at arrives ⊢
  obtain ⟨error | answer, later⟩ := result
  · exact arrives
  · exact arrives

/-- One computation after another. -/
theorem bind {first : ExceptT Error (StateM State) Answer}
    {next : Answer → ExceptT Error (StateM State) Result} (leads : Leads before first after failed)
    (goesOn : ∀ answer, Leads (after answer) (next answer) last failed) :
    Leads before (first >>= next) last failed := by
  intro state meets
  have arrives := leads state meets
  have runs : Id.run ((first >>= next).run.run state) =
      match Id.run (first.run.run state) with
      | (.ok answer, later) => Id.run ((next answer).run.run later)
      | (.error error, later) => (.error error, later) := by
    simp only [ExceptT.run_bind, StateT.run_bind, Id.run_bind]
    rcases Id.run (first.run.run state) with ⟨_ | _, later⟩ <;> rfl
  rw [runs]
  rcases result : Id.run (first.run.run state) with ⟨error | answer, later⟩
  · simpa only [result] using arrives
  · rw [result] at arrives
    exact goesOn answer later arrives

/-- What follows an error does not count. -/
theorem throw_bind {error : Error} {next : Answer → ExceptT Error (StateM State) Result}
    (meets : ∀ state, before state → failed state) :
    Leads before (MonadExcept.throw error >>= next) last failed :=
  meets

end Leads

end Assertions

/-- What the steps of a start have come to. -/
structure StartRecord where
  /-- How many saves came before the latest read of the shader, and what the read answered. -/
  latestRead : Option (Nat × Except ReadFault String)
  /-- The texts that the window was handed, the latest first. -/
  handed : List String
  /-- How many saves had come, and what the file held, when the watching began. -/
  watched : Option (Nat × Except ReadFault String)

/-- A run that starts up, with the shader's file and all else that it meets. -/
structure StartUp (Base : Type) where
  base : Base
  /-- What reading the shader would answer. -/
  file : Except ReadFault String
  /-- How many saves there have been. -/
  saves : Nat
  /-- How many calls there have been. -/
  calls : Nat
  record : StartRecord

namespace StartUp

variable {Base Answer : Type}

/-- A start at which nothing has happened yet. -/
def fresh (base : Base) (file : Except ReadFault String) : StartUp Base :=
  ⟨base, file, 0, 0, ⟨none, [], none⟩⟩

variable (schedule : Nat → List (Except ReadFault String))

/-- What is saved before a call. -/
def pass (start : StartUp Base) : StartUp Base :=
  { start with
    file := (schedule start.calls).getLast?.getD start.file
    saves := start.saves + (schedule start.calls).length
    calls := start.calls + 1 }

/-- A call that has nothing to do with the shader's file. -/
def ask (call : StateM Base Answer) : StateM (StartUp Base) Answer := fun start =>
  let (answer, base) := Id.run (call.run start.base)
  (answer, { start.pass schedule with base })

/-- Reads the shader. -/
def readShader : StateM (StartUp Base) (Except ReadFault String) := fun start =>
  let start := start.pass schedule
  (start.file, { start with record.latestRead := some (start.saves, start.file) })

/-- Surroundings in which the shader is saved now and then: before each call a schedule says what is
saved. A path that is not the shader's leads where it leads without it. -/
def system (base : System (StateM Base)) (shader : Option String) :
    System (StateM (StartUp Base)) :=
  { files :=
      { readText := fun path =>
          if shader = some path then readShader schedule
          else ask schedule (base.files.readText path)
        exists? := fun path => ask schedule (base.files.exists? path)
        resolve := fun path => ask schedule (base.files.resolve path) }
    log := fun line => ask schedule (base.log line)
    openWindow := fun options => ask schedule (base.openWindow options)
    eval := fun source document => do
      match ← ask schedule (base.eval source document) with
      | .error error => pure (.error error)
      | .ok () =>
        modify fun start => { start with record.handed := source :: start.record.handed }
        pure (.ok ())
    watch := fun target => do
      ask schedule (base.watch target)
      modify fun start => { start with record.watched := some (start.saves, start.file) }
    converse := fun path => ask schedule (base.converse path) }

/-- Runs a shader and returns what has happened. -/
def after (base : System (StateM Base)) (environment : Environment) (arguments : RunArguments)
    (start : StartUp Base) : StartUp Base :=
  (Id.run ((run (system schedule base arguments.shader) environment arguments).run.run start)).2

/-! ### What the steps keep -/

/-- Nothing that comes to pass before a call ends a condition, nor does the call itself. -/
def Lasting (condition : StartUp Base → Prop) : Prop :=
  ∀ start base, condition start → condition { start.pass schedule with base }

/-- The window has not been handed anything, and nothing is watched. -/
def Untold (start : StartUp Base) : Prop :=
  start.record.handed = [] ∧ start.record.watched = none

/-- The latest read of the shader answered a text, which the file still holds if nothing has been
saved since. -/
def Seen (source : String) (start : StartUp Base) : Prop :=
  ∃ count, start.record.latestRead = some (count, .ok source) ∧ count ≤ start.saves ∧
    (count = start.saves → start.file = .ok source)

/-- The text that was seen is all that the window was handed, and nothing is watched. -/
def Told (source : String) (start : StartUp Base) : Prop :=
  Seen source start ∧ start.record.handed = [source] ∧ start.record.watched = none

/-- If the file is watched, then the window was handed one text, that of the latest read, and the
file held that text when the watching began if nothing was saved between the two. -/
def Explained (start : StartUp Base) : Prop :=
  ∀ count content, start.record.watched = some (count, content) →
    ∃ earlier source, start.record.latestRead = some (earlier, .ok source) ∧
      start.record.handed = [source] ∧ earlier ≤ count ∧
      (earlier = count → content = .ok source)

variable {schedule}

/-- Saves and calls of others hand the window nothing and do not begin to watch. -/
theorem lasting_untold : Lasting schedule (Untold : StartUp Base → Prop) :=
  fun _ _ untold => untold

/-- A text that was seen stays the one that was read last. If it is in the file no longer, then
something was saved in between, and the count of saves has gone up and tells so. -/
theorem lasting_seen (source : String) :
    Lasting schedule (Seen source : StartUp Base → Prop) := by
  rintro start base ⟨count, read, before, held⟩
  refine ⟨count, read, Nat.le_add_right_of_le before,
    fun (same : count = start.saves + (schedule start.calls).length) => ?_⟩
  -- the count has not moved, so nothing was saved before this call
  have unsaved : schedule start.calls = [] := List.eq_nil_of_length_eq_zero (by omega)
  have held := held (by simpa [unsaved] using same)
  simpa [pass, unsaved] using held

/-- What the window was handed stays so, and the text that was seen does by the lemma above. -/
theorem lasting_told (source : String) :
    Lasting schedule (Told source : StartUp Base → Prop) :=
  fun start base ⟨seen, record⟩ => ⟨lasting_seen source start base seen, record⟩

/-- Where nothing is watched there is nothing to explain. -/
theorem explained_of_unwatched {start : StartUp Base} (unwatched : start.record.watched = none) :
    start.Explained := by
  intro count content watched
  simp [unwatched] at watched

variable {condition failed : StartUp Base → Prop}

/-- A call that has nothing to do with the shader's file keeps what lasts. -/
theorem leads_ask {Error : Type} {call : StateM Base Answer}
    (lasting : Lasting schedule condition) :
    Leads condition (liftM (ask schedule call) : ExceptT Error (StateM (StartUp Base)) Answer)
      (fun _ => condition) failed :=
  .call fun start holds => lasting start _ holds

variable {base : System (StateM Base)} {shader : Option String}

/-- The shader's path is read from the file that the saves write to. -/
theorem read_text_shader {path : String} :
    (system schedule base (some path)).files.readText path = readShader schedule :=
  if_pos rfl

/-- Any other path is read from the system beneath, and counts as a call like all others. -/
theorem read_text_other {path : String} (other : shader ≠ some path) :
    (system schedule base shader).files.readText path =
      ask schedule (base.files.readText path) :=
  if_neg other

/-- Reading any file hands the window nothing. -/
theorem leads_read_text {path : String} :
    Leads Untold
      (liftM ((system schedule base shader).files.readText path) :
        ExceptT RunError (StateM (StartUp Base)) _)
      (fun _ => Untold) failed := by
  by_cases same : shader = some path
  · subst same
    rw [read_text_shader]
    exact .call fun start untold => untold
  · rw [read_text_other same]
    exact leads_ask lasting_untold

/-- Reading the shader shows its text. -/
theorem leads_read_shader {path : String} :
    Leads Untold
      (liftM ((system schedule base (some path)).files.readText path) :
        ExceptT RunError (StateM (StartUp Base)) _)
      (fun answer start => Untold start ∧ ∀ source, answer = .ok source → Seen source start)
      failed := by
  rw [read_text_shader]
  refine .call fun start untold => ⟨untold, fun source read => ?_⟩
  exact ⟨_, congrArg (fun answer => some (_, answer)) read, Nat.le_refl _, fun _ => read⟩

/-- A start in which nothing was handed over and nothing is watched is explained. -/
theorem explained_of_untold {start : StartUp Base} (untold : start.Untold) : start.Explained :=
  explained_of_unwatched untold.2

/-- Reading the configuration of a path hands the window nothing, and ends in a start that is
explained if the file cannot be read or makes no sense. -/
theorem leads_read_config {path : String} :
    Leads Untold (readConfig (system schedule base shader) path) (fun _ => Untold) Explained := by
  refine Leads.bind leads_read_text fun answer => ?_
  cases answer with
  | error fault => exact .throw fun start => explained_of_untold
  | ok text =>
    dsimp only
    cases Config.ofToml text with
    | error error => exact .throw fun start => explained_of_untold
    | ok config => exact Leads.bind (leads_ask lasting_untold) fun _ => .pure fun _ untold => untold

/-- Loading the configuration hands the window nothing, be the file named or looked for in its usual
place, and be it there or not. -/
theorem leads_load_config {environment : Environment} {named : Option String} :
    Leads Untold (loadConfig (system schedule base shader) environment named) (fun _ => Untold)
      Explained := by
  cases named with
  | some path => exact leads_read_config
  | none =>
    refine Leads.bind (leads_ask lasting_untold) fun found => ?_
    cases found with
    | true => exact leads_read_config
    | false =>
      exact Leads.bind (leads_ask lasting_untold) fun _ => .pure fun _ untold => untold

/-- The plan of a run has the text that was seen last. -/
theorem leads_prepare {environment : Environment} {arguments : RunArguments} :
    Leads Untold (prepare (system schedule base arguments.shader) environment arguments)
      (fun plan start => Untold start ∧ Seen plan.source start) Explained := by
  unfold prepare
  cases arguments.shader with
  | none => exact .throw fun start => explained_of_untold
  | some path =>
    refine Leads.bind leads_load_config fun config => Leads.bind leads_read_shader fun answer => ?_
    cases answer with
    | error fault => exact .throw fun start ⟨untold, _⟩ => explained_of_untold untold
    | ok source => exact .pure fun start ⟨untold, seen⟩ => ⟨untold, seen source rfl⟩

/-- The window is handed the text that was seen, or it takes nothing. -/
theorem leads_eval {source document : String} :
    Leads (fun start : StartUp Base => Untold start ∧ Seen source start)
      (liftM ((system schedule base shader).eval source document) :
        ExceptT RunError (StateM (StartUp Base)) _)
      (fun answer start =>
        match answer with
        | .ok () => Told source start
        | .error _ => Untold start) failed := by
  refine .call fun start ⟨untold, seen⟩ => ?_
  have lasts : Untold (Id.run ((ask schedule (base.eval source document)).run start)).2 ∧
      Seen source (Id.run ((ask schedule (base.eval source document)).run start)).2 :=
    ⟨untold, lasting_seen source start _ seen⟩
  simp only [system, StateT.run_bind, Id.run_bind]
  generalize Id.run ((ask schedule (base.eval source document)).run start) = asked at lasts ⊢
  obtain ⟨error | ⟨⟩, later⟩ := asked
  · exact lasts.1
  · obtain ⟨⟨unheard, unwatched⟩, seen⟩ := lasts
    exact ⟨seen, congrArg (source :: ·) unheard, unwatched⟩

/-- What is to be watched is found without the window. -/
theorem leads_watch_target {path source : String} {debounce : Duration} :
    Leads (Told source) (watchTarget (system schedule base shader).files path debounce)
      (fun _ => Told source) Explained := by
  refine Leads.bind (leads_ask (lasting_told source)) fun answer => ?_
  cases answer with
  | error fault => exact .throw fun start told => explained_of_unwatched told.2.2
  | ok names =>
    dsimp only
    cases names.getLast? with
    | none => exact .throw fun start told => explained_of_unwatched told.2.2
    | some fileName => exact .pure fun start told => told

/-- The watching begins with the window at the text that was seen. -/
theorem leads_watch {source : String} {target : WatchTarget} :
    Leads (Told source)
      (liftM ((system schedule base shader).watch target) :
        ExceptT RunError (StateM (StartUp Base)) _)
      (fun _ => Explained) failed := by
  refine .call fun start told => ?_
  have asked : Told source (Id.run ((ask schedule (base.watch target)).run start)).2 :=
    lasting_told source start _ told
  obtain ⟨⟨earlier, read, before, held⟩, handed, -⟩ := asked
  rintro count content ⟨⟩
  exact ⟨earlier, source, read, handed, before, held⟩

/-- An explanation rests on the record alone, which no save changes. -/
theorem lasting_explained : Lasting schedule (Explained : StartUp Base → Prop) :=
  fun _ _ explained => explained

/-- Once a start is explained, serving the window does not change that. -/
theorem leads_converse {path : String} :
    Leads Explained
      (do if let .error error ← (system schedule base shader).converse path then
            throw (.window error) :
        ExceptT RunError (StateM (StartUp Base)) Unit)
      (fun _ => Explained) Explained := by
  refine Leads.bind (leads_ask lasting_explained) fun answer => ?_
  cases answer with
  | error error => exact .throw fun start explained => explained
  | ok => exact .pure fun start explained => explained

/-- However a run ends, its start is explained. -/
theorem leads_run {environment : Environment} {arguments : RunArguments} :
    Leads Untold (run (system schedule base arguments.shader) environment arguments)
      (fun _ => Explained) Explained := by
  refine Leads.bind leads_prepare fun plan => Leads.bind (leads_ask ?_) fun opened => ?_
  · exact fun start base ⟨untold, seen⟩ => ⟨untold, lasting_seen _ start base seen⟩
  cases opened with
  | error error => exact .throw_bind fun start ⟨untold, _⟩ => explained_of_untold untold
  | ok =>
    dsimp only
    refine Leads.bind leads_eval fun answer => ?_
    cases answer with
    | error error => exact .throw_bind fun start untold => explained_of_untold untold
    | ok =>
      dsimp only
      cases plan.debounce with
      | none =>
        exact leads_converse.weaken fun start told => explained_of_unwatched told.2.2
      | some debounce =>
        exact Leads.bind leads_watch_target fun target =>
          Leads.bind leads_watch fun _ =>
            Leads.bind (leads_ask lasting_explained) fun _ => leads_converse

/-- The text that the window was handed last, by the start or by the watcher's worker. -/
def lastText? (start : StartUp Base) (world : Watch.World) : Option String :=
  world.lastText?.or start.record.handed.head?

/-- What a start with a watcher comes to, wherever saves fall among its steps.

The window is handed one text, that of the latest read of the shader. If nothing was saved between
that read and the beginning of the watching, it is what the file holds then. As long as the file is
not written again and no event comes for another reason, the worker hands over nothing, so that
this text stays the window's last, whatever was saved before the watching began. -/
theorem window_keeps_last_read (schedule : Nat → List (Except ReadFault String))
    (base : System (StateM Base)) (environment : Environment) (arguments : RunArguments)
    (first : Base) (file : Except ReadFault String) (moves : List Watch.Move)
    (quiet : ∀ move ∈ moves, move.isQuiet) :
    let start := after schedule base environment arguments (fresh first file)
    ∀ count content, start.record.watched = some (count, content) →
      ∃ earlier source, start.record.latestRead = some (earlier, .ok source) ∧
        start.record.handed = [source] ∧ earlier ≤ count ∧
        (earlier = count → content = .ok source) ∧
        start.lastText? ((Watch.Chronicle.fresh content).after moves).world = some source := by
  intro start count content watched
  have explained : start.Explained := leads_run.ends ⟨rfl, rfl⟩
  obtain ⟨earlier, source, read, handed, before, held⟩ := explained count content watched
  refine ⟨earlier, source, read, handed, before, held, ?_⟩
  have silent : ((Watch.Chronicle.fresh content).after moves).world.reports = [] :=
    (Watch.Chronicle.undisturbed_after (.fresh content) quiet).reports
  simp [lastText?, Watch.World.lastText?, silent, handed]

/-- Surroundings in which everything succeeds and nothing is configured. -/
def agreeable : System (StateM Unit) :=
  { files :=
      { readText := fun _ => pure (.error .notFound)
        exists? := fun _ => pure false
        resolve := fun path => pure (.ok ["home", "ann", path]) }
    log := fun _ => pure ()
    openWindow := fun _ => pure (.ok ())
    eval := fun _ _ => pure (.ok ())
    watch := fun _ => pure ()
    converse := fun _ => pure (.ok ()) }

/-- The start of a run of a shader in such surroundings, with one save before one of its calls. -/
def oneSave (call : Nat) : StartUp Unit :=
  after (fun count => if count = call then [.ok "new"] else []) agreeable
    ⟨none, none, none, none, "/home/ann"⟩ ⟨some "art.glsl", none, false, false, none, none⟩
    (fresh () (.ok "old"))

/-- A save before the shader is read is what the window shows. -/
theorem save_before_read_is_shown :
    let moves : List Watch.Move := [.work, .rest, .work]
    let saved : Except ReadFault String := .ok "new"
    (∀ move ∈ moves, move.isQuiet) ∧ (oneSave 2).record.watched = some (1, saved) ∧
      ∃ earlier source, (oneSave 2).record.latestRead = some (earlier, .ok source) ∧
        (oneSave 2).record.handed = [source] ∧ earlier ≤ 1 ∧
        (earlier = 1 → saved = .ok source) ∧
        (oneSave 2).lastText? ((Watch.Chronicle.fresh saved).after moves).world = some source :=
  ⟨by decide, rfl,
    window_keeps_last_read _ agreeable _ _ () (.ok "old") _ (by decide) 1 (.ok "new") rfl⟩

/-- A save while the window is being opened is missed: the file that is watched from now on holds
the new text, and the window keeps the old one. -/
theorem save_while_opening_is_missed :
    let moves : List Watch.Move := [.work, .rest, .work]
    let saved : Except ReadFault String := .ok "new"
    (oneSave 3).record.watched = some (1, saved) ∧
      (oneSave 3).lastText? ((Watch.Chronicle.fresh saved).after moves).world = some "old" :=
  ⟨rfl, rfl⟩

end StartUp

end LiveShader.Launch
