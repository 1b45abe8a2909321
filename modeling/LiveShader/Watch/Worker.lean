import LiveShader.Files.Fault
import LiveShader.Session.Notice

/-!
# The watcher's worker

The worker waits for an event, lets further events pass until none has come for a while, reads the
file and hands its text to the window. Writers, the channel of events and the worker move one at a
time, in any order; a move that nothing allows changes nothing. Every write owes one event, and more
may follow; a read may fail whatever the file holds. Once every sender of events is gone and its
events are used up, or the window takes no more texts, the worker is finished.
-/
namespace LiveShader.Watch

/-- Where the worker stands. -/
inductive Phase where
  /-- It waits for a first event. -/
  | waiting
  /-- It lets events pass until none comes. -/
  | settling
  /-- It is about to read the file. -/
  | reading
  /-- It is about to hand over what it has read. -/
  | sending (source : String)
  | finished
  deriving DecidableEq

/-- What the worker did with the file. -/
inductive Report where
  | evaluated (source : String)
  | unreadable (fault : ReadFault)
  deriving DecidableEq

/-- The worker and all that it meets. -/
structure World where
  /-- What reading the file would answer. -/
  file : Except ReadFault String
  /-- How many events of past writes are still to be sent. -/
  owed : Nat
  /-- How many events stand in the channel. -/
  events : Nat
  /-- Whether a sender of events is left. -/
  isOpen : Bool
  /-- Whether the window still takes texts. -/
  takesTexts : Bool
  phase : Phase
  /-- The worker's reports, the latest first. -/
  reports : List Report

/-- A move of a writer, of the channel or of the worker. -/
inductive Move where
  /-- The file gets new content, and an event is owed. -/
  | write (file : Except ReadFault String)
  /-- An event that was owed reaches the channel. -/
  | notify
  /-- An event that nobody owes reaches the channel: a write may lead to several. -/
  | notifyAgain
  /-- The last sender goes. -/
  | close
  /-- The window takes no more texts. -/
  | leave
  /-- The worker does what it can do at once. -/
  | work
  /-- The worker reads, and the read fails for a reason of the moment. -/
  | fail (fault : ReadFault)
  /-- The worker has waited long enough for a further event. -/
  | rest

namespace World

/-- A world in which nothing has happened yet. -/
def fresh (file : Except ReadFault String) : World := ⟨file, 0, 0, true, true, .waiting, []⟩

/-- The worker takes an event, if there is one; without a sender it is finished. -/
def receive (world : World) : World :=
  match world.events with
  | events + 1 => { world with events, phase := .settling }
  | 0 => if world.isOpen then world else { world with phase := .finished }

/-- The worker has read, and goes on with what the read answered. -/
def hasRead (answer : Except ReadFault String) (world : World) : World :=
  match answer with
  | .ok source => { world with phase := .sending source }
  | .error fault => { world with phase := .waiting, reports := .unreadable fault :: world.reports }

/-- What the worker does at once. -/
def work (world : World) : World :=
  match world.phase with
  | .waiting | .settling => world.receive
  | .reading => world.hasRead world.file
  | .sending source =>
    if world.takesTexts then
      { world with phase := .waiting, reports := .evaluated source :: world.reports }
    else { world with phase := .finished }
  | .finished => world

/-- The world after a move. -/
def next (world : World) : Move → World
  | .write file => { world with file, owed := world.owed + 1 }
  | .notify =>
    match world.owed with
    | owed + 1 => if world.isOpen then { world with owed, events := world.events + 1 } else world
    | 0 => world
  | .notifyAgain => if world.isOpen then { world with events := world.events + 1 } else world
  | .close => { world with isOpen := false }
  | .leave => { world with takesTexts := false }
  | .work => world.work
  | .fail fault => if world.phase = .reading then world.hasRead (.error fault) else world
  | .rest =>
    if world.phase = .settling ∧ world.events = 0 ∧ world.isOpen then
      { world with phase := .reading }
    else world

/-- Lets events pass until the worker no longer settles. -/
def settle (world : World) : World :=
  (go (world.events + 1) world).next .rest
where
  go : Nat → World → World
    | 0, world => world
    | bound + 1, world => if world.phase = .settling then go bound world.work else world

/-- Lets the worker use up the events of the channel and come to rest. -/
def drain (world : World) : World :=
  world.work.settle.work.work

end World

/-- The line of the log for a report. -/
def Report.logLine (path : String) : Report → LogLine
  | .evaluated _ =>
    ⟨.debug, "shadelive::watch", "shader changed; reloading", [("path", path)]⟩
  | .unreadable fault =>
    ⟨.warn, "shadelive::watch", "failed to read shader",
      [("path", path), ("err", fault.message)]⟩

end LiveShader.Watch
