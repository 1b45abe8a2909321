import LiveShader.Desktop.Proxy

/-!
# The order of the queue

Any number of threads make requests of a window, while the window has events of its own and the
desktop around it changes. What comes of it is written down beside the exchange: the requests that
the queue took, and what was done to the session, each in the order in which it happened.

Two laws hold however the turns of threads, loop and desktop fall. The session is the one that a
single session becomes to which the deeds are done one after the other. And the requests that the
queue took are those that were served, followed by those that still stand in it, or were dropped
with it: none is passed over, none is served twice, and none overtakes another.
-/
namespace LiveShader

/-- The session of a window. -/
abbrev WindowSession (State : Type) := Session OpenGL.handles (Pane State)

/-- A session whose desktop has changed. -/
def Session.surrounded {State : Type} (change : State → State) (session : WindowSession State) :
    WindowSession State :=
  { session with state := session.state.act change }

namespace Exchange

variable {State : Type}

/-- A turn: a thread or the loop moves, or the desktop changes by itself. -/
inductive Turn (State : Type) where
  | move (move : Move)
  | surroundings (change : State → State)

/-- Something that is done to the session. -/
inductive Deed (State : Type) where
  | surroundings (change : State → State)
  | serve (request : SentRequest)
  | event (event : LoopEvent)

/-- What a turn adds to the record. -/
inductive Entry (State : Type) where
  /-- The queue takes a request. -/
  | queued (request : SentRequest)
  /-- The queue is gone, and takes no request. -/
  | refused (request : SentRequest)
  | done (deed : Deed State)
  | nothing

/-- The request that a deed serves. -/
def Deed.request? : Deed State → Option SentRequest
  | .serve request => some request
  | .surroundings _ | .event _ => none

/-- The requests that deeds serve, in order. -/
def served (deeds : List (Deed State)) : List SentRequest := deeds.filterMap Deed.request?

/-- The entry for a deed that only a running loop does. -/
def entryWhileServed (exchange : Exchange State) (deed : Option (Deed State)) : Entry State :=
  match exchange.stage, deed with
  | .served, some deed => .done deed
  | _, _ => .nothing

/-- The oldest request, if there is room for its reply. -/
def ready? (exchange : Exchange State) : Option SentRequest :=
  exchange.queue.head?.filter fun request => !exchange.isBlocked request

/-- What a turn adds to the record of an exchange. -/
def entry (exchange : Exchange State) : Turn State → Entry State
  | .surroundings change => .done (.surroundings change)
  | .move (.send client command) =>
    if exchange.isWaiting client then .nothing
    else if exchange.stage = .gone then .refused ⟨exchange.sent, client, command⟩
    else .queued ⟨exchange.sent, client, command⟩
  | .move .take => exchange.entryWhileServed (exchange.ready?.map .serve)
  | .move (.happen event) => exchange.entryWhileServed (some (.event (.window event)))
  | .move (.happenElsewhere event) => exchange.entryWhileServed (some (.event (.otherWindow event)))
  | .move .wait => exchange.entryWhileServed (some (.event .aboutToWait))
  | .move .finish => exchange.entryWhileServed (some (.event .exiting))
  | .move (.collect _) | .move .drop => .nothing

/-- Nobody takes a request any more once the queue is gone. The call is numbered all the same and
returns at once, with the error that the window has exited. -/
theorem send_of_gone {exchange : Exchange State} {client : Nat} {command : LiveCommand}
    (gone : exchange.stage = .gone) :
    exchange.send client command =
      { exchange with
        sent := exchange.sent + 1
        outcomes := (exchange.sent, .error .exited) :: exchange.outcomes } := by
  cases exchange
  cases gone
  rfl

/-- While the queue is there, whether the loop still serves it or not, a request that asks for a
reply goes to its end, and the call begins to wait with an empty channel. -/
theorem send_call {exchange : Exchange State} {client : Nat} {command : LiveCommand}
    (there : exchange.stage ≠ .gone) (awaits : command.awaitsReply = true) :
    exchange.send client command =
      { exchange with
        sent := exchange.sent + 1
        queue := exchange.queue ++ [⟨exchange.sent, client, command⟩]
        waiting := .fresh exchange.sent client :: exchange.waiting } := by
  cases exchange with
  | mk session stage =>
    cases stage with
    | gone => exact absurd rfl there
    | served | abandoned => simp [send, awaits]

/-- A request that asks for no reply goes to the end of the queue, too, but its call returns with
success at once. What becomes of the request later cannot change that outcome. -/
theorem send_post {exchange : Exchange State} {client : Nat} {command : LiveCommand}
    (there : exchange.stage ≠ .gone) (heedless : command.awaitsReply = false) :
    exchange.send client command =
      { exchange with
        sent := exchange.sent + 1
        queue := exchange.queue ++ [⟨exchange.sent, client, command⟩]
        outcomes := (exchange.sent, .ok none) :: exchange.outcomes } := by
  cases exchange with
  | mk session stage =>
    cases stage with
    | gone => exact absurd rfl there
    | served | abandoned => simp [send, settle, heedless]

section Runs

variable (desktop : Desktop State) (smallSize : Size)

/-- The exchange after a turn. -/
def turned (exchange : Exchange State) : Turn State → Exchange State
  | .move move => exchange.next desktop smallSize move
  | .surroundings change => { exchange with session := exchange.session.surrounded change }

/-- A session after a deed. -/
def Deed.apply (session : WindowSession State) : Deed State → WindowSession State
  | .surroundings change => session.surrounded change
  | .serve request => (Window.handleCommand desktop smallSize request.command session).session
  | .event happening => (Window.handle desktop smallSize happening session).session

/-- What a single session becomes to which deeds are done one after the other. -/
def conduct (session : WindowSession State) : List (Deed State) → WindowSession State
  | [] => session
  | deed :: rest => conduct (deed.apply desktop smallSize session) rest

/-- The deed at the end of a list is done to the session that the deeds before it have led to. A
record grows at its end, while a session is conducted from the front, so every step of the
invariants needs this. -/
theorem conduct_append (session : WindowSession State) (deeds : List (Deed State))
    (deed : Deed State) :
    conduct desktop smallSize session (deeds ++ [deed]) =
      deed.apply desktop smallSize (conduct desktop smallSize session deeds) := by
  induction deeds generalizing session with
  | nil => rfl
  | cons first rest induction => exact induction _

/-- What a turn makes of an exchange, by what it adds to the record. -/
inductive Stepped (exchange : Exchange State) : Entry State → Exchange State → Prop where
  | same : Stepped exchange .nothing exchange
  /-- A request comes too late. -/
  | refused (client : Nat) (command : LiveCommand) (gone : exchange.stage = .gone) :
      Stepped exchange (.refused ⟨exchange.sent, client, command⟩)
        { exchange with
          sent := exchange.sent + 1
          outcomes := (exchange.sent, .error .exited) :: exchange.outcomes }
  /-- The queue takes a request that waits for no reply. -/
  | posted (client : Nat) (command : LiveCommand) (there : exchange.stage ≠ .gone)
      (heedless : command.awaitsReply = false) :
      Stepped exchange (.queued ⟨exchange.sent, client, command⟩)
        { exchange with
          sent := exchange.sent + 1
          queue := exchange.queue ++ [⟨exchange.sent, client, command⟩]
          outcomes := (exchange.sent, .ok none) :: exchange.outcomes }
  /-- The queue takes a request, and its thread waits for the reply. -/
  | called (client : Nat) (command : LiveCommand) (there : exchange.stage ≠ .gone)
      (free : exchange.isWaiting client = false) (awaits : command.awaitsReply = true) :
      Stepped exchange (.queued ⟨exchange.sent, client, command⟩)
        { exchange with
          sent := exchange.sent + 1
          queue := exchange.queue ++ [⟨exchange.sent, client, command⟩]
          waiting := .fresh exchange.sent client :: exchange.waiting }
  /-- A call returns. -/
  | returned (call : WaitingCall) (outcome : RequestOutcome) (waits : call ∈ exchange.waiting)
      (ready : call.outcome? = some outcome) :
      Stepped exchange .nothing
        { exchange with
          outcomes := (call.number, outcome) :: exchange.outcomes
          waiting := exchange.waiting.filter fun other => other.number != call.number }
  /-- The desktop changes. -/
  | changed (change : State → State) :
      Stepped exchange (.done (.surroundings change))
        { exchange with session := exchange.session.surrounded change }
  /-- The loop handles an event, after which it may have ended. -/
  | handled (event : LoopEvent) (exits : Bool) (stage : QueueStage)
      (running : exchange.stage = .served) (there : stage ≠ .gone) :
      Stepped exchange (.done (.event event))
        { exchange with
          session := (Window.handle desktop smallSize event exchange.session).session
          stage
          exits }
  /-- The loop serves a request that waits for no reply. -/
  | applied (request : SentRequest) (queue : List SentRequest) (exits : Bool)
      (running : exchange.stage = .served) (first : exchange.queue = request :: queue)
      (heedless : request.command.awaitsReply = false) :
      Stepped exchange (.done (.serve request))
        { exchange with
          session :=
            (Window.handleCommand desktop smallSize request.command exchange.session).session
          queue
          exits }
  /-- The loop serves a request and sends the reply. -/
  | answered (request : SentRequest) (command : Command) (queue : List SentRequest) (exits : Bool)
      (running : exchange.stage = .served) (first : exchange.queue = request :: queue)
      (asks : request.command = .uniform command) (room : exchange.isBlocked request = false) :
      Stepped exchange (.done (.serve request))
        { exchange with
          session := (exchange.session.apply command).2
          queue
          exits
          waiting := exchange.waiting.map fun call =>
            if call.number = request.number then
              call.answer (exchange.session.apply command).1
            else call }
  /-- The queue is dropped. -/
  | dropped (there : exchange.stage ≠ .gone) : Stepped exchange .nothing exchange.drop

/-- A request that is sent is refused, posted or called. A thread that already waits for a reply
cannot send another one, and then nothing changes. -/
theorem send_steps (exchange : Exchange State) (client : Nat) (command : LiveCommand) :
    Stepped desktop smallSize exchange (exchange.entry (.move (.send client command)))
      (exchange.next desktop smallSize (.send client command)) := by
  simp only [entry, next]
  by_cases waits : exchange.isWaiting client = true
  · rw [if_pos waits, if_pos waits]
    exact .same
  rw [if_neg waits, if_neg waits]
  by_cases gone : exchange.stage = .gone
  · rw [if_pos gone, send_of_gone gone]
    exact .refused client command gone
  rw [if_neg gone]
  cases awaits : command.awaitsReply with
  | true =>
    rw [send_call gone awaits]
    exact .called client command gone (eq_false_of_ne_true waits) awaits
  | false =>
    rw [send_post gone awaits]
    exact .posted client command gone awaits

/-- A thread that looks into its channel returns with what is there, or waits on. -/
theorem collect_steps (exchange : Exchange State) (client : Nat) :
    Stepped desktop smallSize exchange .nothing (exchange.collect client) := by
  unfold collect
  cases found : exchange.waiting.find? fun call => call.client == client with
  | none => exact .same
  | some call =>
    cases ready : call.outcome? with
    | none => simpa only [ready] using .same
    | some outcome =>
      simpa only [ready] using .returned call outcome (List.mem_of_find?_eq_some found) ready

/-- The loop takes the oldest request while it runs, unless there is no room for the reply. A
command of the host is answered, everything else is applied without an answer. -/
theorem take_steps (exchange : Exchange State) :
    Stepped desktop smallSize exchange (exchange.entry (.move .take))
      (exchange.next desktop smallSize .take) := by
  simp only [entry, next, whileServed, entryWhileServed]
  cases stage : exchange.stage with
  | abandoned | gone => exact .same
  | served =>
    rw [if_pos rfl]
    unfold serve ready?
    cases first : exchange.queue with
    | nil => exact .same
    | cons request queue =>
      dsimp only [List.head?_cons]
      cases blocked : exchange.isBlocked request with
      | true => simpa [Option.filter, blocked] using .same
      | false =>
        simp only [Option.filter, blocked, Bool.not_false, if_true, Option.map_some,
          Bool.false_eq_true, if_false]
        cases asks : request.command with
        | uniform command =>
          exact .answered request command queue (exchange.exits || false) stage first asks blocked
        | eval source document =>
          have applied := @Stepped.applied _ desktop smallSize exchange request
            queue (exchange.exits || false) stage first (by simp [asks, LiveCommand.awaitsReply])
          rw [asks] at applied
          exact applied
        | shutdown =>
          have applied := @Stepped.applied _ desktop smallSize exchange request
            queue (exchange.exits || true) stage first (by simp [asks, LiveCommand.awaitsReply])
          rw [asks] at applied
          exact applied

/-- The loop handles an event while it runs. -/
theorem handle_steps (exchange : Exchange State) (event : LoopEvent) :
    Stepped desktop smallSize exchange (exchange.entryWhileServed (some (.event event)))
      (exchange.whileServed (handle desktop smallSize event)) := by
  simp only [whileServed, entryWhileServed]
  cases stage : exchange.stage with
  | abandoned | gone => exact .same
  | served =>
    rw [if_pos rfl]
    have handled := @Stepped.handled _ desktop smallSize exchange event
      (exchange.handle desktop smallSize event).exits exchange.stage stage (by simp [stage])
    exact handled

/-- Every turn makes of an exchange what its entry can. -/
theorem turn_steps (exchange : Exchange State) (turn : Turn State) :
    Stepped desktop smallSize exchange (exchange.entry turn)
      (exchange.turned desktop smallSize turn) := by
  cases turn with
  | surroundings change => exact .changed change
  | move move =>
    cases move with
    | send client command => exact send_steps desktop smallSize exchange client command
    | collect client => exact collect_steps desktop smallSize exchange client
    | take => exact take_steps desktop smallSize exchange
    | happen event => exact handle_steps desktop smallSize exchange (.window event)
    | happenElsewhere event => exact handle_steps desktop smallSize exchange (.otherWindow event)
    | wait => exact handle_steps desktop smallSize exchange .aboutToWait
    | finish =>
      simp only [entry, turned, next, whileServed, entryWhileServed]
      cases stage : exchange.stage with
      | abandoned | gone => exact .same
      | served => exact .handled .exiting _ .abandoned stage (by simp)
    | drop =>
      simp only [entry, turned, next]
      split
      · exact .same
      · rename_i there
        exact .dropped there

end Runs

/-- An exchange with the record of what happened. -/
structure Chronicle (State : Type) where
  exchange : Exchange State
  /-- The requests that the queue took, in order. -/
  accepted : List SentRequest
  /-- The requests that came too late, in order. -/
  refused : List SentRequest
  /-- What was done to the session, in order. -/
  deeds : List (Deed State)

namespace Chronicle

/-- A window that has just come up. -/
def fresh (session : WindowSession State) : Chronicle State := ⟨.fresh session, [], [], []⟩

/-- The record with an entry added, and the exchange after it. -/
def add (chronicle : Chronicle State) (exchange : Exchange State) : Entry State → Chronicle State
  | .queued request => { chronicle with exchange, accepted := chronicle.accepted ++ [request] }
  | .refused request => { chronicle with exchange, refused := chronicle.refused ++ [request] }
  | .done deed => { chronicle with exchange, deeds := chronicle.deeds ++ [deed] }
  | .nothing => { chronicle with exchange }

variable (desktop : Desktop State) (smallSize : Size)

/-- The record after a turn. -/
def next (chronicle : Chronicle State) (turn : Turn State) : Chronicle State :=
  chronicle.add (chronicle.exchange.turned desktop smallSize turn) (chronicle.exchange.entry turn)

/-- The record after turns in order. -/
def after (chronicle : Chronicle State) : List (Turn State) → Chronicle State
  | [] => chronicle
  | turn :: rest => (chronicle.next desktop smallSize turn).after rest

/-- Whatever every step keeps holds after any turns. -/
theorem after_keeps {holds : Chronicle State → Prop}
    (step : ∀ chronicle entry exchange, holds chronicle →
      Stepped desktop smallSize chronicle.exchange entry exchange →
      holds (chronicle.add exchange entry))
    {chronicle : Chronicle State} (start : holds chronicle) (turns : List (Turn State)) :
    holds (chronicle.after desktop smallSize turns) := by
  induction turns generalizing chronicle with
  | nil => exact start
  | cons turn rest induction =>
    exact induction (step _ _ _ start (turn_steps desktop smallSize chronicle.exchange turn))

/-- The session is that of the deeds, and the queue keeps its order. -/
structure Ordered (first : WindowSession State) (chronicle : Chronicle State) : Prop where
  session : chronicle.exchange.session = conduct desktop smallSize first chronicle.deeds
  /-- Requests are numbered as they are sent, and are taken in that order until none is. -/
  numbers : (chronicle.accepted ++ chronicle.refused).map SentRequest.number =
    List.range chronicle.exchange.sent
  there : chronicle.exchange.stage ≠ .gone →
    chronicle.accepted = served chronicle.deeds ++ chronicle.exchange.queue ∧
      chronicle.refused = []
  gone : chronicle.exchange.stage = .gone →
    served chronicle.deeds <+: chronicle.accepted ∧ chronicle.exchange.queue = []

variable {desktop smallSize} {first : WindowSession State} {chronicle : Chronicle State}

/-- The requests served by more deeds are those served before and the one, if any, that the last
deed serves. -/
theorem served_append (deeds : List (Deed State)) (deed : Deed State) :
    served (deeds ++ [deed]) = served deeds ++ deed.request?.toList := by
  cases deed <;> simp [served, Deed.request?]

/-- A window that has just come up has taken no request, refused none and done none, which is in
order. -/
theorem fresh_ordered : Ordered desktop smallSize first (fresh first) :=
  ⟨rfl, rfl, fun _ => ⟨rfl, rfl⟩, nofun⟩

/-- A request that the queue takes keeps the order, whether its call waits or not. It gets the next
number, and stands behind all that were taken before. The fields that the two kinds of calls differ
in do not matter here, so the exchange is given by those that do. -/
theorem Ordered.queued (ordered : Ordered desktop smallSize first chronicle)
    (there : chronicle.exchange.stage ≠ .gone) (request : SentRequest)
    (number : request.number = chronicle.exchange.sent) (exchange : Exchange State)
    (session : exchange.session = chronicle.exchange.session)
    (stage : exchange.stage = chronicle.exchange.stage)
    (sent : exchange.sent = chronicle.exchange.sent + 1)
    (queue : exchange.queue = chronicle.exchange.queue ++ [request]) :
    Ordered desktop smallSize first (chronicle.add exchange (.queued request)) := by
  have ⟨order, refused⟩ := ordered.there there
  have numbers := ordered.numbers
  rw [refused, List.append_nil] at numbers
  refine ⟨session.trans ordered.session, ?_, fun _ => ⟨?_, refused⟩,
    fun gone => absurd (stage ▸ gone) there⟩
  · simp [add, refused, numbers, number, sent, List.range_succ]
  · simp [add, order, queue]

/-- A deed that serves the request at the head of the queue, or none. -/
theorem Ordered.done (ordered : Ordered desktop smallSize first chronicle)
    (there : chronicle.exchange.stage ≠ .gone) (deed : Deed State) (exchange : Exchange State)
    (session : exchange.session = deed.apply desktop smallSize chronicle.exchange.session)
    (stage : exchange.stage ≠ .gone) (sent : exchange.sent = chronicle.exchange.sent)
    (queue : chronicle.exchange.queue = deed.request?.toList ++ exchange.queue) :
    Ordered desktop smallSize first (chronicle.add exchange (.done deed)) := by
  have ⟨order, refused⟩ := ordered.there there
  refine ⟨?_, sent ▸ ordered.numbers, fun _ => ⟨?_, refused⟩, fun gone => absurd gone stage⟩
  · simp only [add, conduct_append]
    rw [session, ordered.session]
  · simp only [add, served_append, List.append_assoc]
    rw [← queue]
    exact order

/-- Every step keeps the order. -/
theorem Ordered.step (ordered : Ordered desktop smallSize first chronicle) {entry : Entry State}
    {exchange : Exchange State}
    (stepped : Stepped desktop smallSize chronicle.exchange entry exchange) :
    Ordered desktop smallSize first (chronicle.add exchange entry) := by
  cases stepped with
  | same => exact ⟨ordered.session, ordered.numbers, ordered.there, ordered.gone⟩
  | refused client command gone =>
    refine ⟨ordered.session, ?_, fun there => absurd gone there, ordered.gone⟩
    have numbers := ordered.numbers
    simp only [add, ← List.append_assoc, List.map_append, List.range_succ] at numbers ⊢
    rw [numbers]
    rfl
  | posted client command there | called client command there =>
    exact ordered.queued there _ rfl _ rfl rfl rfl rfl
  | returned call outcome waits ready =>
    exact ⟨ordered.session, ordered.numbers, ordered.there, ordered.gone⟩
  | changed change =>
    refine ⟨?_, ordered.numbers, ?_, ?_⟩
    · simp only [add, conduct_append, ← ordered.session]
      rfl
    · simpa [add, served_append, Deed.request?] using ordered.there
    · simpa [add, served_append, Deed.request?] using ordered.gone
  | handled event exits stage running there =>
    exact ordered.done (by simp [running]) _ _ rfl there rfl rfl
  | applied request queue exits running first heedless =>
    exact ordered.done (by simp [running]) _ _ rfl (by simp [running]) rfl first
  | answered request command queue exits running first asks room =>
    refine ordered.done (by simp [running]) _ _ ?_ (by simp [running]) rfl first
    simp [Deed.apply, asks, Window.handleCommand]
  | dropped there =>
    have ⟨order, refused⟩ := ordered.there there
    exact ⟨ordered.session, ordered.numbers, fun there => absurd rfl there,
      fun _ => ⟨order ▸ List.prefix_append .., rfl⟩⟩

end Chronicle

end Exchange

end LiveShader
