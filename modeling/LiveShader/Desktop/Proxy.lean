import LiveShader.Desktop.Window

/-!
# The proxy

Other threads reach the window through a queue. While the loop runs, requests are taken from it in
order. Once the loop has ended the queue takes requests that nobody will answer, and once the loop
has returned it takes none.

A call that waits for a reply makes a channel with room for one. The request carries the end of it
that a reply is put into, and the thread keeps the other one: it gets the reply that is in the
channel, or learns that the request is gone and that none can come.

Threads, the loop and the events of the window move one at a time, in any order; a move that
nothing allows changes nothing. A request gets a number when it is sent, and its outcome is
remembered under that number. A thread that waits for a reply sends nothing in the meantime.
-/
namespace LiveShader

/-- Where the window's loop stands. -/
inductive QueueStage where
  /-- Requests are queued and served. -/
  | served
  /-- Requests are queued and will be dropped with the queue. -/
  | abandoned
  /-- The queue is gone. -/
  | gone
  deriving DecidableEq

/-- Why a request failed. -/
inductive ProxyError where
  /-- The queue was dropped before the request was answered. -/
  | unanswered
  /-- The loop had returned before the request was sent. -/
  | exited
  deriving DecidableEq

/-- The words for a failed request. -/
def ProxyError.message : ProxyError → String
  | .unanswered =>
    "window closed before replying: receiving on an empty and disconnected channel"
  | .exited => "window event loop has exited"

/-- Whether a request waits for an answer. -/
def LiveCommand.awaitsReply : LiveCommand → Bool
  | .uniform _ => true
  | _ => false

/-- A request that has been sent. -/
structure SentRequest where
  number : Nat
  client : Nat
  command : LiveCommand

/-- What a thread gets for a request: a reply if the request waits for one, or an error. -/
abbrev RequestOutcome := Except ProxyError (Option Reply)

/-- A call that has not returned, with the channel its reply comes through. -/
structure WaitingCall where
  number : Nat
  client : Nat
  /-- The replies in the channel, the oldest first. -/
  replies : List Reply
  /-- Whether the request is still there, so that a reply may yet be put in. -/
  isOpen : Bool

namespace WaitingCall

/-- How many replies a channel has room for. -/
def capacity : Nat := 1

/-- A call whose request has just been queued. -/
def fresh (number client : Nat) : WaitingCall := ⟨number, client, [], true⟩

/-- Whether a further reply would have to wait for room. -/
def isFull (call : WaitingCall) : Bool := capacity ≤ call.replies.length

/-- The call with a reply put in, which uses its request up. -/
def answer (reply : Reply) (call : WaitingCall) : WaitingCall :=
  { call with replies := call.replies ++ [reply], isOpen := false }

/-- The call after its request was dropped. -/
def desert (call : WaitingCall) : WaitingCall := { call with isOpen := false }

/-- What the thread gets from the channel, unless it has to wait on. -/
def outcome? (call : WaitingCall) : Option RequestOutcome :=
  match call.replies with
  | reply :: _ => some (.ok (some reply))
  | [] => if call.isOpen then none else some (.error .unanswered)

end WaitingCall

/-- The window with its queue and all that was sent. -/
structure Exchange (State : Type) where
  session : Session OpenGL.handles (Pane State)
  stage : QueueStage
  /-- The requests that have not been taken, the oldest first. -/
  queue : List SentRequest
  /-- How many requests have been sent. -/
  sent : Nat
  /-- The calls that have not returned, the latest first. -/
  waiting : List WaitingCall
  /-- What threads have got so far by the numbers of their requests, the latest first. -/
  outcomes : List (Nat × RequestOutcome)
  /-- Whether the loop was asked to end. -/
  exits : Bool

namespace Exchange

variable {State : Type}

/-- A move of a thread or of the loop. -/
inductive Move where
  | send (client : Nat) (command : LiveCommand)
  /-- A thread that waits looks into its channel, and its call returns if there is an outcome. -/
  | collect (client : Nat)
  /-- The loop takes the oldest request and applies it. -/
  | take
  /-- Something happens to this window. -/
  | happen (event : WindowEvent)
  /-- Something happens to another window. -/
  | happenElsewhere (event : WindowEvent)
  /-- All that was to be delivered has been. -/
  | wait
  /-- The loop ends. -/
  | finish
  /-- The loop has returned, and its queue is dropped. -/
  | drop

/-- A window that has just come up. -/
def fresh (session : Session OpenGL.handles (Pane State)) : Exchange State :=
  ⟨session, .served, [], 0, [], [], false⟩

/-- Whether a thread waits for a reply. -/
def isWaiting (client : Nat) (exchange : Exchange State) : Bool :=
  exchange.waiting.any fun call => call.client == client

/-- What came of the request of a number: what its thread has got, or would get now. -/
def outcome? (number : Nat) (exchange : Exchange State) : Option RequestOutcome :=
  (exchange.outcomes.lookup number).or
    ((exchange.waiting.find? fun call => call.number == number).bind WaitingCall.outcome?)

/-- Settles a request. -/
def settle (number : Nat) (outcome : RequestOutcome) (exchange : Exchange State) :
    Exchange State :=
  { exchange with outcomes := (number, outcome) :: exchange.outcomes }

/-- Sends a request. One that waits for no reply is settled when it is queued; for any other a
channel is made. -/
def send (client : Nat) (command : LiveCommand) (exchange : Exchange State) : Exchange State :=
  let number := exchange.sent
  let numbered := { exchange with sent := number + 1 }
  match exchange.stage with
  | .gone => numbered.settle number (.error .exited)
  | _ =>
    let request : SentRequest := ⟨number, client, command⟩
    let queued := { numbered with queue := exchange.queue ++ [request] }
    if command.awaitsReply then
      { queued with waiting := .fresh number client :: exchange.waiting }
    else queued.settle number (.ok none)

/-- Lets a thread's call return, if its channel says how. -/
def collect (client : Nat) (exchange : Exchange State) : Exchange State :=
  match exchange.waiting.find? fun call => call.client == client with
  | none => exchange
  | some call =>
    match call.outcome? with
    | none => exchange
    | some outcome =>
      { exchange.settle call.number outcome with
        waiting := exchange.waiting.filter fun other => other.number != call.number }

/-- Takes in what the handling of an event led to. -/
def take (handled : Window.Handled State) (exchange : Exchange State) : Exchange State :=
  { exchange with session := handled.session, exits := exchange.exits || handled.exits }

/-- Handles an event of the loop. -/
def handle (desktop : Desktop State) (smallSize : Size) (event : LoopEvent)
    (exchange : Exchange State) : Exchange State :=
  exchange.take (Window.handle desktop smallSize event exchange.session)

/-- Whether the reply to a request would have to wait for room in its channel. -/
def isBlocked (request : SentRequest) (exchange : Exchange State) : Bool :=
  exchange.waiting.any fun call => call.number == request.number && call.isFull

/-- Changes the waiting call of a number. -/
def changeCall (number : Nat) (change : WaitingCall → WaitingCall) (exchange : Exchange State) :
    Exchange State :=
  { exchange with
    waiting := exchange.waiting.map fun call => if call.number = number then change call else call }

/-- Applies the oldest request, and puts the reply into its channel if one is waited for. As long
as there is no room in the channel the loop stands still. -/
def serve (desktop : Desktop State) (smallSize : Size) (exchange : Exchange State) :
    Exchange State :=
  match exchange.queue with
  | [] => exchange
  | request :: queue =>
    if exchange.isBlocked request then exchange
    else
      let handled := Window.handleCommand desktop smallSize request.command exchange.session
      let served := { exchange.take handled with queue }
      match handled.reply with
      | some reply => served.changeCall request.number (.answer reply)
      | none => served

/-- Drops the queue, and the requests in it with their ends of the channels. -/
def drop (exchange : Exchange State) : Exchange State :=
  { exchange with
    stage := .gone
    queue := []
    waiting := exchange.waiting.map fun call =>
      if exchange.queue.any fun request => request.number == call.number then call.desert
      else call }

/-- A change that only a running loop makes. -/
def whileServed (change : Exchange State → Exchange State) (exchange : Exchange State) :
    Exchange State :=
  if exchange.stage = .served then change exchange else exchange

/-- The exchange after a move. -/
def next (desktop : Desktop State) (smallSize : Size) (exchange : Exchange State) :
    Move → Exchange State
  | .send client command =>
    if exchange.isWaiting client then exchange else exchange.send client command
  | .collect client => exchange.collect client
  | .take => exchange.whileServed (serve desktop smallSize)
  | .happen event => exchange.whileServed (handle desktop smallSize (.window event))
  | .happenElsewhere event => exchange.whileServed (handle desktop smallSize (.otherWindow event))
  | .wait => exchange.whileServed (handle desktop smallSize .aboutToWait)
  | .finish => exchange.whileServed fun exchange =>
    { exchange.handle desktop smallSize .exiting with stage := .abandoned }
  | .drop => if exchange.stage = .gone then exchange else exchange.drop

/-- The exchange after moves in order. -/
def run (desktop : Desktop State) (smallSize : Size) (exchange : Exchange State) :
    List Move → Exchange State
  | [] => exchange
  | move :: rest => run desktop smallSize (exchange.next desktop smallSize move) rest

/-- The moves that send requests, each from a thread of its own. The first thread has the number
`client`. -/
def sends (client : Nat) : List LiveCommand → List Move
  | [] => []
  | command :: rest => .send client command :: sends (client + 1) rest

/-- The moves of a batch, which ends with a wait. A batch is delivered whole even if the loop is
asked to end within it, and the loop ends behind it. -/
def batch (desktop : Desktop State) (smallSize : Size) (exchange : Exchange State)
    (moves : List Move) : Exchange State :=
  let delivered := exchange.run desktop smallSize (moves ++ [.wait])
  if delivered.exits then delivered.next desktop smallSize .finish else delivered

end Exchange

end LiveShader
