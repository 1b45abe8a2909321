import LiveShader.Watch.Worker

/-!
# Saves and the watcher's worker

The worker swallows events on purpose and may fail to read, so a save could be lost: written, told
by an event, and never read. What happens in a world is written down beside it: how many writes
there have been, whether the worker has received an event, and what its latest read answered and
after how many writes. The latest read is current if as many writes came before it as there have
been; then it was made after the latest write.

The invariant has two sides. While the latest read is not current, a read is still to come: an
event is owed or stands in the channel, or the worker is between an event and its read. And a text
that the latest read answered is in the worker's hand or was the last to be handed over. A worker
that waits with nothing owed and nothing in the channel has therefore read the latest save. A worker
that has never been told of anything stays undisturbed, and reports nothing, until something is
written or an event comes for another reason.
-/
namespace LiveShader.Watch

/-- What a move comes to. -/
inductive Deed where
  /-- The file is written. -/
  | wrote
  /-- The worker takes an event. -/
  | received
  /-- The worker reads the file. -/
  | read (answer : Except ReadFault String)
  | other

/-- The text of a report that one was handed over. -/
def Report.text? : Report → Option String
  | .evaluated source => some source
  | .unreadable _ => none

namespace World

/-- What a move comes to in a world. -/
def deed (world : World) : Move → Deed
  | .write _ => .wrote
  | .work =>
    match world.phase with
    | .waiting | .settling => if 0 < world.events then .received else .other
    | .reading => .read world.file
    | .sending _ | .finished => .other
  | .fail fault => if world.phase = .reading then .read (.error fault) else .other
  | .notify | .notifyAgain | .close | .leave | .rest => .other

/-- The text that was handed over last. -/
def lastText? (world : World) : Option String := world.reports.findSome? Report.text?

/-- Whether an event is still to be taken, or still to be sent for a write. -/
def HasPending (world : World) : Prop := 0 < world.owed ∨ 0 < world.events

/-- Whether the worker waits for an event, or for a further one. -/
def Listens (world : World) : Prop := world.phase = .waiting ∨ world.phase = .settling

end World

/-- What a deed makes of a world. -/
inductive Stepped (world : World) : Deed → World → Prop where
  /-- The write owes an event. -/
  | wrote (file : Except ReadFault String) :
      Stepped world .wrote { world with file, owed := world.owed + 1 }
  | received (listens : world.Listens) (left : Nat) :
      Stepped world .received { world with events := left, phase := .settling }
  /-- A read fails, or answers with what the file holds. -/
  | read (answer : Except ReadFault String)
      (holds : ∀ source, answer = .ok source → world.file = .ok source) :
      Stepped world (.read answer) (world.hasRead answer)
  /-- Nothing that is pending gets lost, and the worker stays where it is. -/
  | passed (after : World) (file : after.file = world.file) (phase : after.phase = world.phase)
      (reports : after.reports = world.reports)
      (pending : world.HasPending → after.HasPending) : Stepped world .other after
  /-- No further event has come for a while. -/
  | rested (listens : world.Listens) : Stepped world .other { world with phase := .reading }
  /-- A text is handed over. -/
  | handed (source : String) (inHand : world.phase = .sending source) :
      Stepped world .other
        { world with phase := .waiting, reports := .evaluated source :: world.reports }
  | ended (after : World) (file : after.file = world.file) (phase : after.phase = .finished) :
      Stepped world .other after

/-- A world stays as it is. -/
theorem Stepped.same (world : World) : Stepped world .other world :=
  .passed world rfl rfl rfl id

/-- A worker that listens takes an event, or finds none. -/
theorem receive_steps {world : World} (listens : world.Listens) :
    Stepped world (if 0 < world.events then .received else .other) world.receive := by
  obtain ⟨file, owed, events, isOpen, takesTexts, phase, reports⟩ := world
  cases events with
  | zero =>
    cases isOpen with
    | true => exact .same _
    | false => exact .ended _ rfl rfl
  | succ left =>
    rw [if_pos (Nat.succ_pos left)]
    exact .received listens left

/-- Every move makes of a world what its deed can. -/
theorem next_steps (world : World) (move : Move) :
    Stepped world (world.deed move) (world.next move) := by
  cases move with
  | write file => exact .wrote file
  | notify =>
    simp only [World.deed, World.next]
    cases count : world.owed with
    | zero => exact .same world
    | succ left =>
      dsimp only
      split
      · exact .passed _ rfl rfl rfl fun _ => .inr (Nat.succ_pos world.events)
      · exact .same world
  | notifyAgain =>
    simp only [World.deed, World.next]
    split
    · exact .passed _ rfl rfl rfl fun _ => .inr (Nat.succ_pos world.events)
    · exact .same world
  | close => exact .passed _ rfl rfl rfl id
  | leave => exact .passed _ rfl rfl rfl id
  | work =>
    simp only [World.deed, World.next, World.work]
    cases phase : world.phase with
    | waiting => exact receive_steps (.inl phase)
    | settling => exact receive_steps (.inr phase)
    | reading => exact .read world.file fun _ same => same
    | sending source =>
      dsimp only
      split
      · exact .handed source phase
      · exact .ended _ rfl rfl
    | finished => exact .same world
  | fail fault =>
    simp only [World.deed, World.next]
    split
    · exact .read (.error fault) fun _ impossible => by cases impossible
    · exact .same world
  | rest =>
    simp only [World.deed, World.next]
    split
    · rename_i quiet
      exact .rested (.inr quiet.1)
    · exact .same world

/-- Whether a move is neither a write nor an event that no write owes. -/
def Move.isQuiet : Move → Bool
  | .write _ | .notifyAgain => false
  | .notify | .close | .leave | .work | .fail _ | .rest => true

/-- The worker has nothing to do and has reported nothing. -/
structure Undisturbed (world : World) : Prop where
  owed : world.owed = 0
  events : world.events = 0
  stands : world.phase = .waiting ∨ world.phase = .finished
  reports : world.reports = []

namespace Undisturbed

/-- A worker that has just been started is undisturbed, whatever the file holds. -/
theorem fresh (file : Except ReadFault String) : Undisturbed (.fresh file) :=
  ⟨rfl, rfl, .inl rfl, rfl⟩

variable {world : World}

/-- Looking for an event finds none and changes nothing, unless the channel is closed: then the
worker is finished, which counts as undisturbed. -/
theorem receive (undisturbed : Undisturbed world) : Undisturbed world.receive := by
  unfold World.receive
  rw [undisturbed.events]
  dsimp only
  split
  · exact undisturbed
  · exact { undisturbed with events := rfl, stands := .inr rfl }

/-- A step of an undisturbed worker is to look for an event, or nothing once it is finished. -/
theorem work (undisturbed : Undisturbed world) : Undisturbed world.work := by
  unfold World.work
  rcases undisturbed.stands with waiting | finished
  · rw [waiting]
    exact undisturbed.receive
  · rw [finished]
    exact undisturbed

/-- A quiet move gives the worker nothing to do. -/
theorem next (undisturbed : Undisturbed world) {move : Move} (quiet : move.isQuiet) :
    Undisturbed (world.next move) := by
  cases move with
  | write file => cases quiet
  | notifyAgain => cases quiet
  | notify =>
    simp only [World.next, undisturbed.owed]
    exact undisturbed
  | close => exact { undisturbed with }
  | leave => exact { undisturbed with }
  | work => exact undisturbed.work
  | fail fault =>
    have notReading : world.phase ≠ .reading := by
      rcases undisturbed.stands with stands | stands <;> simp [stands]
    simpa only [World.next, if_neg notReading] using undisturbed
  | rest =>
    have notSettling : world.phase ≠ .settling := by
      rcases undisturbed.stands with stands | stands <;> simp [stands]
    simpa only [World.next, notSettling, false_and, if_false] using undisturbed

end Undisturbed

/-- A world with what has happened in it. -/
structure Chronicle where
  world : World
  /-- How many writes there have been. -/
  writes : Nat
  /-- Whether the worker has received an event. -/
  received : Bool
  /-- How many writes came before the worker's latest read, and what the read answered. -/
  latestRead : Option (Nat × Except ReadFault String)

namespace Chronicle

/-- A world in which nothing has happened yet. -/
def fresh (file : Except ReadFault String) : Chronicle := ⟨.fresh file, 0, false, none⟩

/-- What a deed adds to what has happened, with the world after it. -/
def add (chronicle : Chronicle) (world : World) : Deed → Chronicle
  | .wrote => { chronicle with world, writes := chronicle.writes + 1 }
  | .received => { chronicle with world, received := true }
  | .read answer => { chronicle with world, latestRead := some (chronicle.writes, answer) }
  | .other => { chronicle with world }

/-- What has happened after a move. -/
def next (chronicle : Chronicle) (move : Move) : Chronicle :=
  chronicle.add (chronicle.world.next move) (chronicle.world.deed move)

/-- What has happened after moves, the first of them made first. -/
def after (chronicle : Chronicle) : List Move → Chronicle
  | [] => chronicle
  | move :: rest => (chronicle.next move).after rest

/-- The record follows the world: what a deed adds to it does not change where the world goes. -/
theorem next_world (chronicle : Chronicle) (move : Move) :
    (chronicle.next move).world = chronicle.world.next move := by
  unfold next
  cases chronicle.world.deed move <;> rfl

/-- Quiet moves give the worker nothing to do. -/
theorem undisturbed_after {chronicle : Chronicle} (undisturbed : Undisturbed chronicle.world)
    {moves : List Move} (quiet : ∀ move ∈ moves, move.isQuiet) :
    Undisturbed (chronicle.after moves).world := by
  induction moves generalizing chronicle with
  | nil => exact undisturbed
  | cons move rest induction =>
    refine induction ?_ fun later there => quiet later (.tail move there)
    rw [next_world]
    exact undisturbed.next (quiet move (.head rest))

/-- Whether the latest read was made after the latest write. -/
def IsCurrent (chronicle : Chronicle) : Prop :=
  ∃ answer, chronicle.latestRead = some (chronicle.writes, answer)

/-- Whether a read is still to come, or none was ever called for, or the worker is finished. -/
def AwaitsRead (chronicle : Chronicle) : Prop :=
  chronicle.world.HasPending ∨ chronicle.received = false ∨
    chronicle.world.phase = .settling ∨ chronicle.world.phase = .reading ∨
    chronicle.world.phase = .finished

/-- Where a text is that the latest read answered. -/
def Delivers (world : World) (source : String) : Prop :=
  world.phase = .sending source ∨ world.phase = .finished ∨ world.lastText? = some source

/-- What every move keeps. -/
structure Kept (chronicle : Chronicle) : Prop where
  /-- A save that has not been read will be. -/
  awaited : chronicle.IsCurrent ∨ chronicle.AwaitsRead
  /-- No read has more writes before it than there have been. -/
  dated : ∀ count answer, chronicle.latestRead = some (count, answer) → count ≤ chronicle.writes
  /-- What a current read answered is what the file holds. -/
  holds : ∀ source, chronicle.latestRead = some (chronicle.writes, .ok source) →
    chronicle.world.file = .ok source
  /-- A text in the worker's hand is that of the latest read. -/
  inHand : ∀ source, chronicle.world.phase = .sending source →
    ∃ count, chronicle.latestRead = some (count, .ok source)
  delivered : ∀ count source, chronicle.latestRead = some (count, .ok source) →
    Delivers chronicle.world source

/-- At the start nothing has been read and nothing is called for. -/
theorem fresh_kept (file : Except ReadFault String) : (fresh file).Kept where
  awaited := .inr (.inr (.inl rfl))
  dated := by simp [fresh]
  holds := by simp [fresh]
  inHand := by simp [fresh, World.fresh]
  delivered := by simp [fresh]

namespace Kept

variable {chronicle : Chronicle}

/-- While the worker listens it has no text in its hand: that of the latest read is handed over. -/
theorem listening (kept : chronicle.Kept) (listens : chronicle.world.Listens) {count : Nat}
    {source : String} (latest : chronicle.latestRead = some (count, .ok source)) :
    chronicle.world.lastText? = some source := by
  rcases kept.delivered count source latest with sending | finished | handed
  · rcases listens with waiting | settling
    · cases waiting.symm.trans sending
    · cases settling.symm.trans sending
  · rcases listens with waiting | settling
    · cases waiting.symm.trans finished
    · cases settling.symm.trans finished
  · exact handed

/-- A write makes the latest read out of date, and owes an event. -/
theorem wrote (kept : chronicle.Kept) (file : Except ReadFault String) :
    (chronicle.add { chronicle.world with file, owed := chronicle.world.owed + 1 }
      .wrote).Kept where
  awaited := .inr (.inl (.inl (Nat.succ_pos chronicle.world.owed)))
  dated := by
    intro count answer latest
    exact Nat.le_succ_of_le (kept.dated count answer latest)
  holds := by
    intro source latest
    have dated : chronicle.writes + 1 ≤ chronicle.writes := kept.dated _ _ latest
    omega
  inHand := kept.inHand
  delivered := kept.delivered

/-- An event that is taken leads to a read. -/
theorem received (kept : chronicle.Kept) (listens : chronicle.world.Listens) (left : Nat) :
    (chronicle.add { chronicle.world with events := left, phase := .settling } .received).Kept where
  awaited := .inr (.inr (.inr (.inl rfl)))
  dated := kept.dated
  holds := kept.holds
  inHand := by
    intro source sending
    cases sending
  delivered := by
    intro count source latest
    exact .inr (.inr (kept.listening listens latest))

/-- A read is current when it is made. -/
theorem read (answer : Except ReadFault String)
    (holds : ∀ source, answer = .ok source → chronicle.world.file = .ok source) :
    (chronicle.add (chronicle.world.hasRead answer) (.read answer)).Kept where
  awaited := .inl ⟨answer, rfl⟩
  dated := by
    intro count other latest
    simp only [add, Option.some.injEq, Prod.mk.injEq] at latest
    exact Nat.le_of_eq latest.1.symm
  holds := by
    intro source latest
    simp only [add, Option.some.injEq, Prod.mk.injEq, true_and] at latest
    subst latest
    exact holds source rfl
  inHand := by
    intro source sending
    cases answer with
    | error fault => cases sending
    | ok text =>
      cases sending
      exact ⟨_, rfl⟩
  delivered := by
    intro count source latest
    simp only [add, Option.some.injEq, Prod.mk.injEq] at latest
    obtain ⟨-, rfl⟩ := latest
    exact .inl rfl

/-- What leaves the file, the worker and its reports as they are, and loses nothing pending. -/
theorem passed (kept : chronicle.Kept) {after : World} (file : after.file = chronicle.world.file)
    (phase : after.phase = chronicle.world.phase)
    (reports : after.reports = chronicle.world.reports)
    (pending : chronicle.world.HasPending → after.HasPending) :
    (chronicle.add after .other).Kept where
  awaited := by
    rcases kept.awaited with current | waits | rest
    · exact .inl current
    · exact .inr (.inl (pending waits))
    · refine .inr (.inr ?_)
      simpa only [add, phase] using rest
  dated := kept.dated
  holds := by
    intro source latest
    exact file.trans (kept.holds source latest)
  inHand := by
    intro source sending
    exact kept.inHand source (phase.symm.trans sending)
  delivered := by
    intro count source latest
    simpa only [Delivers, add, World.lastText?, phase, reports] using
      kept.delivered count source latest

/-- A worker that has let events pass is about to read. -/
theorem rested (kept : chronicle.Kept) (listens : chronicle.world.Listens) :
    (chronicle.add { chronicle.world with phase := .reading } .other).Kept where
  awaited := .inr (.inr (.inr (.inr (.inl rfl))))
  dated := kept.dated
  holds := kept.holds
  inHand := by
    intro source sending
    cases sending
  delivered := by
    intro count source latest
    exact .inr (.inr (kept.listening listens latest))

/-- The text in the worker's hand is handed over, and the worker waits again. Whatever was pending
still is. -/
theorem handed (kept : chronicle.Kept) {source : String}
    (inHand : chronicle.world.phase = .sending source) :
    (chronicle.add { chronicle.world with
      phase := .waiting
      reports := .evaluated source :: chronicle.world.reports } .other).Kept where
  awaited := by
    rcases kept.awaited with current | waits | silent | settling | reading | finished
    · exact .inl current
    · exact .inr (.inl waits)
    · exact .inr (.inr (.inl silent))
    · cases settling.symm.trans inHand
    · cases reading.symm.trans inHand
    · cases finished.symm.trans inHand
  dated := kept.dated
  holds := kept.holds
  inHand := by
    intro other sending
    cases sending
  delivered := by
    intro count other latest
    obtain ⟨same, read⟩ := kept.inHand source inHand
    cases read.symm.trans latest
    exact .inr (.inr rfl)

/-- A worker that is finished owes nothing more. -/
theorem ended (kept : chronicle.Kept) {after : World} (file : after.file = chronicle.world.file)
    (phase : after.phase = .finished) : (chronicle.add after .other).Kept where
  awaited := .inr (.inr (.inr (.inr (.inr phase))))
  dated := kept.dated
  holds := by
    intro source latest
    exact file.trans (kept.holds source latest)
  inHand := by
    intro source sending
    cases phase.symm.trans sending
  delivered := by
    intro count source latest
    exact .inr (.inl phase)

/-- Every move keeps it. -/
theorem next (kept : chronicle.Kept) (move : Move) : (chronicle.next move).Kept := by
  have steps := next_steps chronicle.world move
  unfold Chronicle.next
  generalize chronicle.world.deed move = deed at steps
  generalize chronicle.world.next move = after at steps
  cases steps with
  | wrote file => exact kept.wrote file
  | received listens left => exact kept.received listens left
  | read answer holds => exact .read answer holds
  | passed _ file phase reports pending => exact kept.passed file phase reports pending
  | rested listens => exact kept.rested listens
  | handed source inHand => exact kept.handed inHand
  | ended _ file phase => exact kept.ended file phase

/-- Moves keep it. -/
theorem after (kept : chronicle.Kept) (moves : List Move) : (chronicle.after moves).Kept := by
  induction moves generalizing chronicle with
  | nil => exact kept
  | cons move rest induction => exact induction (kept.next move)

end Kept

/-- No save is lost on a worker that has come back to its wait.

Writers, the channel and the worker move in any order, and reads may fail at any time. Once every
event that is owed for a write has been sent, the channel is open and empty, and the worker waits
after having received an event, its latest read was made after the latest write. If that read
succeeded, it answered what the file holds now, and this is the text that was handed over last. -/
theorem waiting_worker_is_up_to_date (file : Except ReadFault String) (moves : List Move) :
    let chronicle := (fresh file).after moves
    chronicle.world.owed = 0 → chronicle.world.isOpen = true → chronicle.world.events = 0 →
    chronicle.world.phase = .waiting → chronicle.received = true →
    ∃ answer, chronicle.latestRead = some (chronicle.writes, answer) ∧
      ∀ source, answer = .ok source →
        chronicle.world.file = .ok source ∧ chronicle.world.lastText? = some source := by
  intro chronicle told _ empty waiting received
  have kept : chronicle.Kept := (fresh_kept file).after moves
  have current : chronicle.IsCurrent := by
    rcases kept.awaited with current | pending | silent | settling | reading | finished
    · exact current
    · rcases pending with owed | events <;> omega
    · cases silent.symm.trans received
    · cases settling.symm.trans waiting
    · cases reading.symm.trans waiting
    · cases finished.symm.trans waiting
  obtain ⟨answer, latest⟩ := current
  refine ⟨answer, latest, ?_⟩
  rintro source rfl
  exact ⟨kept.holds source latest, kept.listening (.inl waiting) latest⟩

/-- A second save comes while the worker lets events pass, the read after it fails, and a further
event leads to a read that succeeds. -/
def burst : List Move :=
  [.write (.ok "draft"), .notify, .work, .write (.ok "final"), .notify, .work, .rest,
   .fail .notFound, .notifyAgain, .work, .rest, .work, .work]

/-- The burst ends with the second save read and handed over. -/
theorem burst_is_read :
    let chronicle := (fresh (.ok "old")).after burst
    (chronicle.world.owed = 0 ∧ chronicle.world.isOpen = true ∧ chronicle.world.events = 0 ∧
      chronicle.world.phase = .waiting ∧ chronicle.received = true) ∧
    ∃ answer, chronicle.latestRead = some (chronicle.writes, answer) ∧
      ∀ source, answer = .ok source →
        chronicle.world.file = .ok source ∧ chronicle.world.lastText? = some source :=
  ⟨⟨rfl, rfl, rfl, rfl, rfl⟩,
    waiting_worker_is_up_to_date (.ok "old") burst rfl rfl rfl rfl rfl⟩

end Chronicle

end LiveShader.Watch
