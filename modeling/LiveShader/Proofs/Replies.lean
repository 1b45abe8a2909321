import Mathlib.Data.List.Nodup
import LiveShader.Proofs.QueueOrder
import LiveShader.Desktop.Scripted

/-!
# Replies through the channels

The record of an exchange says what may come of every request. One that was served has the reply of
a single session at its place among the deeds, one that waits for no reply was settled when the
queue took it, one that was lost with the queue has none, and one that came too late was refused.

Calls and requests are matched by numbers, of which every request has its own. A call that has not
returned either waits with an empty channel for a request in the queue, or has all that will ever
come. So the channel of a request in the queue has room for the reply, and the loop never waits.
-/
namespace LiveShader

namespace Exchange.Chronicle

variable {State : Type} (desktop : Desktop State) (smallSize : Size)

/-- The outcomes that a record justifies for the request of a number. -/
inductive Justified (first : WindowSession State) (chronicle : Chronicle State) (number : Nat) :
    RequestOutcome → Prop where
  /-- The request was served when the session was the one of the deeds before it. -/
  | replied (front back : List (Deed State)) (request : SentRequest) (command : Command)
      (deeds : chronicle.deeds = front ++ .serve request :: back)
      (numbered : request.number = number) (asks : request.command = .uniform command) :
      Justified first chronicle number
        (.ok (some ((conduct desktop smallSize first front).apply command).1))
  /-- The queue took a request that waits for no reply. -/
  | posted (request : SentRequest) (taken : request ∈ chronicle.accepted)
      (numbered : request.number = number) (heedless : request.command.awaitsReply = false) :
      Justified first chronicle number (.ok none)
  /-- The queue was dropped with the request in it. -/
  | lost (request : SentRequest) (taken : request ∈ chronicle.accepted)
      (numbered : request.number = number) (awaits : request.command.awaitsReply = true)
      (unserved : request ∉ served chronicle.deeds) (gone : chronicle.exchange.stage = .gone) :
      Justified first chronicle number (.error .unanswered)
  /-- The request came too late. -/
  | refused (request : SentRequest) (late : request ∈ chronicle.refused)
      (numbered : request.number = number) : Justified first chronicle number (.error .exited)

/-- Where a call that has not returned stands. -/
inductive Waits (first : WindowSession State) (chronicle : Chronicle State) (call : WaitingCall) :
    Prop where
  /-- The request is in the queue, and the channel is empty. -/
  | pending (request : SentRequest) (queued : request ∈ chronicle.exchange.queue)
      (numbered : request.number = call.number) (sender : request.client = call.client)
      (awaits : request.command.awaitsReply = true) (empty : call.replies = [])
      (isOpen : call.isOpen = true)
  /-- The thread gets what is justified as soon as it looks. -/
  | ready (outcome : RequestOutcome) (shows : call.outcome? = some outcome)
      (justified : Justified desktop smallSize first chronicle call.number outcome)

/-- Every request is accounted for once: it is settled, or its call has not returned. -/
structure Answered (first : WindowSession State) (chronicle : Chronicle State) : Prop where
  ordered : Ordered desktop smallSize first chronicle
  settled : ∀ number outcome, (number, outcome) ∈ chronicle.exchange.outcomes →
    Justified desktop smallSize first chronicle number outcome
  waits : ∀ call ∈ chronicle.exchange.waiting, Waits desktop smallSize first chronicle call
  numbers : (chronicle.exchange.outcomes.map Prod.fst ++
    chronicle.exchange.waiting.map WaitingCall.number).Perm (List.range chronicle.exchange.sent)
  /-- No thread waits for two replies. -/
  threads : (chronicle.exchange.waiting.map WaitingCall.client).Nodup

variable {desktop smallSize} {first : WindowSession State} {chronicle : Chronicle State}

namespace Ordered

variable (ordered : Ordered desktop smallSize first chronicle)

include ordered

/-- A number belongs to one request. -/
theorem unique {request other : SentRequest}
    (sent : request ∈ chronicle.accepted ++ chronicle.refused)
    (otherSent : other ∈ chronicle.accepted ++ chronicle.refused)
    (same : request.number = other.number) : request = other := by
  have distinct : ((chronicle.accepted ++ chronicle.refused).map SentRequest.number).Nodup :=
    ordered.numbers ▸ List.nodup_range
  exact List.inj_on_of_nodup_map distinct sent otherSent same

/-- Numbers are given out from zero upwards, so those of the requests so far are below the count of
what was sent. -/
theorem number_lt {request : SentRequest}
    (sent : request ∈ chronicle.accepted ++ chronicle.refused) :
    request.number < chronicle.exchange.sent := by
  rw [← List.mem_range, ← ordered.numbers]
  exact List.mem_map_of_mem sent

/-- No request stands twice among those that were taken and those that came too late, since their
numbers are all different. -/
theorem requests_nodup : (chronicle.accepted ++ chronicle.refused).Nodup :=
  List.Nodup.of_map SentRequest.number (ordered.numbers ▸ List.nodup_range)

/-- No request is refused that was taken. -/
theorem not_refused {request : SentRequest} (taken : request ∈ chronicle.accepted) :
    request ∉ chronicle.refused :=
  List.disjoint_of_nodup_append ordered.requests_nodup taken

/-- No request was taken twice. -/
theorem accepted_nodup : chronicle.accepted.Nodup :=
  ordered.requests_nodup.sublist (List.sublist_append_left ..)

/-- While anything is in the queue, it has not been dropped. -/
theorem there_of_queued {request : SentRequest} (queued : request ∈ chronicle.exchange.queue) :
    chronicle.exchange.stage ≠ .gone := by
  intro gone
  rw [(ordered.gone gone).2] at queued
  exact absurd queued List.not_mem_nil

/-- What is in the queue was taken before. -/
theorem taken_of_queued {request : SentRequest} (queued : request ∈ chronicle.exchange.queue) :
    request ∈ chronicle.accepted := by
  rw [(ordered.there (ordered.there_of_queued queued)).1]
  exact List.mem_append_right _ queued

/-- What was served was taken before. If the queue is still there, the served requests are the front
of those that were taken; if it is gone, they are so by the invariant. -/
theorem taken_of_served {request : SentRequest} (done : request ∈ served chronicle.deeds) :
    request ∈ chronicle.accepted := by
  by_cases gone : chronicle.exchange.stage = .gone
  · exact (ordered.gone gone).1.subset done
  · rw [(ordered.there gone).1]
    exact List.mem_append_left _ done

/-- No request was served twice, so the place of a request among the deeds is unique. -/
theorem served_nodup : (served chronicle.deeds).Nodup := by
  have distinct := ordered.accepted_nodup
  by_cases gone : chronicle.exchange.stage = .gone
  · exact distinct.sublist (ordered.gone gone).1.sublist
  · rw [(ordered.there gone).1] at distinct
    exact distinct.sublist (List.sublist_append_left ..)

/-- What is in the queue has not been served. -/
theorem unserved_of_queued {request : SentRequest} (queued : request ∈ chronicle.exchange.queue) :
    request ∉ served chronicle.deeds := by
  have distinct := ordered.accepted_nodup
  rw [(ordered.there (ordered.there_of_queued queued)).1] at distinct
  exact fun done => List.disjoint_of_nodup_append distinct done queued

end Ordered

/-- A request is among those served if a deed serves it. -/
theorem mem_served {deeds : List (Deed State)} {request : SentRequest}
    (done : .serve request ∈ deeds) : request ∈ served deeds :=
  List.mem_filterMap.mpr ⟨.serve request, done, rfl⟩

/-- A request that has a place among the deeds is served. -/
theorem served_of_place {deeds front back : List (Deed State)} {request : SentRequest}
    (place : deeds = front ++ .serve request :: back) : request ∈ served deeds :=
  mem_served (place ▸ List.mem_append_right _ (.head _))

/-- A request is served at one place. -/
theorem Ordered.place_unique (ordered : Ordered desktop smallSize first chronicle)
    {front back otherFront otherBack : List (Deed State)} {request : SentRequest}
    (place : chronicle.deeds = front ++ .serve request :: back)
    (otherPlace : chronicle.deeds = otherFront ++ .serve request :: otherBack) :
    front = otherFront := by
  have distinct := ordered.served_nodup
  have shape : served chronicle.deeds = served front ++ request :: served back := by
    rw [place, served, List.filterMap_append, List.filterMap_cons]
    rfl
  rw [shape] at distinct
  obtain ⟨_, behind, apart⟩ := List.nodup_append.mp distinct
  have notBefore : Deed.serve request ∉ front := fun done =>
    apart request (mem_served done) request (.head _) rfl
  have notBehind : Deed.serve request ∉ back := fun done =>
    (List.nodup_cons.mp behind).1 (mem_served done)
  exact ((List.append_cons_inj_of_notMem notBefore notBehind).mp
    (place.symm.trans otherPlace)).1

/-- What justifies an outcome for a request that the queue took. -/
theorem Justified.of_taken {request : SentRequest} {outcome : RequestOutcome}
    (justified : Justified desktop smallSize first chronicle request.number outcome)
    (ordered : Ordered desktop smallSize first chronicle)
    (taken : request ∈ chronicle.accepted) :
    (∃ front back command, chronicle.deeds = front ++ .serve request :: back ∧
      request.command = .uniform command ∧
      outcome = .ok (some ((conduct desktop smallSize first front).apply command).1)) ∨
    (request.command.awaitsReply = false ∧ outcome = .ok none) ∨
    (request.command.awaitsReply = true ∧ request ∉ served chronicle.deeds ∧
      chronicle.exchange.stage = .gone ∧ outcome = .error .unanswered) := by
  have sent := List.mem_append_left chronicle.refused taken
  cases justified with
  | replied front back other command place numbered asks =>
    have done : other ∈ served chronicle.deeds := served_of_place place
    obtain rfl :=
      ordered.unique (List.mem_append_left _ (ordered.taken_of_served done)) sent numbered
    exact .inl ⟨front, back, command, place, asks, rfl⟩
  | posted other otherTaken numbered heedless =>
    obtain rfl := ordered.unique (List.mem_append_left _ otherTaken) sent numbered
    exact .inr (.inl ⟨heedless, rfl⟩)
  | lost other otherTaken numbered awaits unserved gone =>
    obtain rfl := ordered.unique (List.mem_append_left _ otherTaken) sent numbered
    exact .inr (.inr ⟨awaits, unserved, gone, rfl⟩)
  | refused other late numbered =>
    obtain rfl := ordered.unique (List.mem_append_right _ late) sent numbered
    exact absurd late (ordered.not_refused taken)

/-- The request behind an outcome: the queue took it, or it came too late. -/
theorem Justified.request {number : Nat} {outcome : RequestOutcome}
    (justified : Justified desktop smallSize first chronicle number outcome)
    (ordered : Ordered desktop smallSize first chronicle) :
    ∃ request, request.number = number ∧
      (request ∈ chronicle.accepted ∨
        request ∈ chronicle.refused ∧ outcome = .error .exited) := by
  cases justified with
  | replied front back request command place numbered =>
    have done : request ∈ served chronicle.deeds := served_of_place place
    exact ⟨request, numbered, .inl (ordered.taken_of_served done)⟩
  | posted request taken numbered | lost request taken numbered =>
    exact ⟨request, numbered, .inl taken⟩
  | refused request late numbered => exact ⟨request, numbered, .inr ⟨late, rfl⟩⟩

/-- A record justifies one outcome at most. -/
theorem Justified.unique {number : Nat} {outcome other : RequestOutcome}
    (justified : Justified desktop smallSize first chronicle number outcome)
    (otherJustified : Justified desktop smallSize first chronicle number other)
    (ordered : Ordered desktop smallSize first chronicle) : outcome = other := by
  obtain ⟨request, rfl, taken | ⟨late, rfl⟩⟩ := justified.request ordered
  · rcases justified.of_taken ordered taken with
      ⟨front, back, command, place, asks, rfl⟩ | ⟨heedless, rfl⟩ | ⟨awaits, unserved, _, rfl⟩ <;>
    rcases otherJustified.of_taken ordered taken with
      ⟨otherFront, otherBack, otherCommand, otherPlace, otherAsks, rfl⟩ | ⟨otherHeedless, rfl⟩ |
      ⟨otherAwaits, otherUnserved, _, rfl⟩
    · obtain rfl := ordered.place_unique place otherPlace
      cases asks.symm.trans otherAsks
      rfl
    · exact nomatch (asks ▸ otherHeedless)
    · exact absurd (served_of_place place) otherUnserved
    · exact nomatch (otherAsks ▸ heedless)
    · rfl
    · exact nomatch heedless.symm.trans otherAwaits
    · exact absurd (served_of_place otherPlace) unserved
    · exact nomatch awaits.symm.trans otherHeedless
    · rfl
  · obtain ⟨second, same, taken | ⟨_, rfl⟩⟩ := otherJustified.request ordered
    · obtain rfl :=
        ordered.unique (List.mem_append_left _ taken) (List.mem_append_right _ late) same
      exact absurd late (ordered.not_refused taken)
    · rfl

/-- Nothing is justified for a request in the queue that waits for a reply. -/
theorem Justified.not_pending {request : SentRequest} {outcome : RequestOutcome}
    (justified : Justified desktop smallSize first chronicle request.number outcome)
    (ordered : Ordered desktop smallSize first chronicle)
    (queued : request ∈ chronicle.exchange.queue) : request.command.awaitsReply = false := by
  rcases justified.of_taken ordered (ordered.taken_of_queued queued) with
    ⟨_, _, _, place, _⟩ | ⟨heedless, _⟩ | ⟨_, _, gone, _⟩
  · exact absurd (served_of_place place) (ordered.unserved_of_queued queued)
  · exact heedless
  · exact absurd gone (ordered.there_of_queued queued)

/-- What is justified stays so. -/
theorem Justified.step {number : Nat} {outcome : RequestOutcome}
    (justified : Justified desktop smallSize first chronicle number outcome) {entry : Entry State}
    {exchange : Exchange State}
    (stepped : Stepped desktop smallSize chronicle.exchange entry exchange) :
    Justified desktop smallSize first (chronicle.add exchange entry) number outcome := by
  cases justified with
  | replied front back request command deeds numbered asks =>
    cases entry with
    | done deed =>
      refine .replied front (back ++ [deed]) request command ?_ numbered asks
      simp [add, deeds]
    | queued | refused | nothing => exact .replied front back request command deeds numbered asks
  | posted request taken numbered heedless =>
    refine .posted request ?_ numbered heedless
    cases entry with
    | queued => exact List.mem_append_left _ taken
    | done | refused | nothing => exact taken
  | lost request taken numbered awaits unserved gone =>
    -- Once the queue is gone nothing is taken or served.
    cases stepped with
    | same | refused | returned => exact .lost request taken numbered awaits unserved gone
    | changed =>
      refine .lost request taken numbered awaits ?_ gone
      simpa [add, served_append, Deed.request?] using unserved
    | posted _ _ there | called _ _ there | dropped there => exact absurd gone there
    | handled _ _ _ running | applied _ _ _ running | answered _ _ _ _ running =>
      cases gone.symm.trans running
  | refused request late numbered =>
    refine .refused request ?_ numbered
    cases entry with
    | refused => exact List.mem_append_left _ late
    | done | queued | nothing => exact late

/-- A call waits on while its request stays in the queue. -/
theorem Waits.step {call : WaitingCall} (waits : Waits desktop smallSize first chronicle call)
    {entry : Entry State} {exchange : Exchange State}
    (stepped : Stepped desktop smallSize chronicle.exchange entry exchange)
    (stays : ∀ request ∈ chronicle.exchange.queue, request.number = call.number →
      request.command.awaitsReply = true → request ∈ exchange.queue) :
    Waits desktop smallSize first (chronicle.add exchange entry) call := by
  cases waits with
  | pending request queued numbered sender awaits empty isOpen =>
    refine .pending request ?_ numbered sender awaits empty isOpen
    have stayed := stays request queued numbered awaits
    cases entry <;> exact stayed
  | ready outcome shows justified => exact .ready outcome shows (justified.step stepped)

/-- Dropping a request takes nothing from a channel. -/
theorem outcome_desert {call : WaitingCall} {outcome : RequestOutcome}
    (shows : call.outcome? = some outcome) : call.desert.outcome? = some outcome := by
  cases call with
  | mk number client replies isOpen =>
    cases replies with
    | cons => exact shows
    | nil =>
      cases isOpen with
      | false => exact shows
      | true => exact nomatch shows

/-- A call whose channel is open and empty has no outcome yet: its thread waits on. -/
theorem outcome_of_pending {call : WaitingCall} (empty : call.replies = [])
    (isOpen : call.isOpen = true) : call.outcome? = none := by
  rw [WaitingCall.outcome?, empty, isOpen]
  rfl

/-- A change of the calls that leaves one of their fields alone leaves the list of these fields
alone. A reply touches the contents of a channel and neither its number nor its thread. -/
theorem map_map_of_kept {field : WaitingCall → Nat} {change : WaitingCall → WaitingCall}
    (kept : ∀ call, field (change call) = field call) (calls : List WaitingCall) :
    (calls.map change).map field = calls.map field := by
  rw [List.map_map]
  exact List.map_congr_left fun call _ => kept call

/-- If some numbers are those below a count in any order, then with the count itself they are those
below the next one. -/
theorem perm_range_succ {numbers : List Nat} {sent : Nat} (all : numbers.Perm (List.range sent)) :
    (sent :: numbers).Perm (List.range (sent + 1)) := by
  rw [List.range_succ]
  exact (all.cons sent).trans (List.perm_append_singleton ..).symm

/-- A number goes from the calls that have not returned to the outcomes. -/
theorem perm_of_returned {settled sent : List Nat} {calls : List WaitingCall} {call : WaitingCall}
    (all : (settled ++ calls.map WaitingCall.number).Perm sent) (distinct : sent.Nodup)
    (waits : call ∈ calls) :
    (call.number :: settled ++
      (calls.filter fun other => other.number != call.number).map WaitingCall.number).Perm
        sent := by
  have waiting : (calls.map WaitingCall.number).Nodup :=
    (List.nodup_append.mp (all.nodup_iff.mpr distinct)).2.1
  have rest : (calls.filter fun other => other.number != call.number).map WaitingCall.number =
      (calls.map WaitingCall.number).erase call.number := by
    rw [waiting.erase_eq_filter, List.filter_map]
    rfl
  have member : call.number ∈ calls.map WaitingCall.number := List.mem_map_of_mem waits
  have taken := List.perm_cons_erase member
  rw [rest]
  exact List.perm_middle.symm.trans ((taken.symm.append_left settled).trans all)

/-- At first nobody has asked for anything, so every request is answered for. -/
theorem fresh_answered : Answered desktop smallSize first (fresh first) :=
  ⟨fresh_ordered, nofun, nofun, .nil, .nil⟩

namespace Answered

variable (answered : Answered desktop smallSize first chronicle)

include answered

/-- The call of a request in the queue waits with an empty channel. -/
theorem room {request : SentRequest} (queued : request ∈ chronicle.exchange.queue) :
    chronicle.exchange.isBlocked request = false := by
  rw [isBlocked, List.any_eq_false]
  intro call member
  simp only [Bool.and_eq_true, beq_iff_eq, not_and]
  intro numbered full
  cases answered.waits call member with
  | pending _ _ _ _ _ empty => simp [WaitingCall.isFull, WaitingCall.capacity, empty] at full
  | ready outcome shows justified =>
    cases replies : call.replies with
    | nil => simp [WaitingCall.isFull, WaitingCall.capacity, replies] at full
    | cons reply rest =>
      rw [WaitingCall.outcome?, replies] at shows
      obtain rfl := Option.some.inj shows
      rw [numbered] at justified
      rcases justified.of_taken answered.ordered (answered.ordered.taken_of_queued queued) with
        ⟨_, _, _, place, _⟩ | ⟨_, wrong⟩ | ⟨_, _, _, wrong⟩
      · exact answered.ordered.unserved_of_queued queued (served_of_place place)
      · exact nomatch wrong
      · exact nomatch wrong

/-- The record after a step that settles no request and lets no call return. -/
theorem undisturbed {entry : Entry State} {exchange : Exchange State}
    (stepped : Stepped desktop smallSize chronicle.exchange entry exchange)
    (sent : exchange.sent = chronicle.exchange.sent)
    (outcomes : exchange.outcomes = chronicle.exchange.outcomes)
    {change : WaitingCall → WaitingCall}
    (waiting : exchange.waiting = chronicle.exchange.waiting.map change)
    (number : ∀ call, (change call).number = call.number)
    (client : ∀ call, (change call).client = call.client)
    (waits : ∀ call ∈ chronicle.exchange.waiting,
      Waits desktop smallSize first (chronicle.add exchange entry) (change call)) :
    Answered desktop smallSize first (chronicle.add exchange entry) := by
  have same : (chronicle.add exchange entry).exchange = exchange := by cases entry <;> rfl
  refine ⟨answered.ordered.step stepped, ?_, ?_, ?_, ?_⟩ <;> rw [same]
  · rw [outcomes]
    exact fun _ _ member => (answered.settled _ _ member).step stepped
  · rw [waiting]
    intro call member
    obtain ⟨before, waited, rfl⟩ := List.mem_map.mp member
    exact waits before waited
  · rw [outcomes, waiting, sent, map_map_of_kept number]
    exact answered.numbers
  · rw [waiting, map_map_of_kept client]
    exact answered.threads

/-- A call gets what is justified for its request. -/
theorem justified_of_ready {call : WaitingCall} {outcome : RequestOutcome}
    (waits : call ∈ chronicle.exchange.waiting) (ready : call.outcome? = some outcome) :
    Justified desktop smallSize first chronicle call.number outcome := by
  cases answered.waits call waits with
  | pending _ _ _ _ _ empty isOpen =>
    exact nomatch (outcome_of_pending empty isOpen).symm.trans ready
  | ready found shows justified => exact Option.some.inj (shows.symm.trans ready) ▸ justified

/-- The call of the request that is served has the reply, and any other waits as before. -/
theorem waits_answered {request : SentRequest} {command : Command} {exchange : Exchange State}
    (stepped : Stepped desktop smallSize chronicle.exchange (.done (.serve request)) exchange)
    (head : chronicle.exchange.queue = request :: exchange.queue)
    (asks : request.command = .uniform command) {call : WaitingCall}
    (waits : call ∈ chronicle.exchange.waiting) :
    Waits desktop smallSize first (chronicle.add exchange (.done (.serve request)))
      (if call.number = request.number then
        call.answer (chronicle.exchange.session.apply command).1
      else call) := by
  have queued : request ∈ chronicle.exchange.queue := head ▸ .head _
  split
  · rename_i numbered
    cases answered.waits call waits with
    | pending _ _ _ _ _ empty =>
      refine .ready (.ok (some (chronicle.exchange.session.apply command).1)) ?_ ?_
      · rw [WaitingCall.outcome?, WaitingCall.answer, empty]
        rfl
      · rw [answered.ordered.session]
        exact .replied chronicle.deeds [] request command rfl numbered.symm asks
    | ready outcome shows justified =>
      have heedless := (numbered ▸ justified).not_pending answered.ordered queued
      rw [asks] at heedless
      exact nomatch heedless
  · rename_i different
    refine (answered.waits call waits).step stepped fun other otherQueued numbered _ => ?_
    rcases List.mem_cons.mp (head ▸ otherQueued) with rfl | behind
    · exact absurd numbered.symm different
    · exact behind

/-- When the queue is dropped, the calls of the requests in it learn that no reply can come. -/
theorem waits_dropped (there : chronicle.exchange.stage ≠ .gone) {call : WaitingCall}
    (waits : call ∈ chronicle.exchange.waiting) :
    Waits desktop smallSize first (chronicle.add chronicle.exchange.drop .nothing)
      (if chronicle.exchange.queue.any fun request => request.number == call.number then
        call.desert
      else call) := by
  cases answered.waits call waits with
  | pending request queued numbered _ awaits empty =>
    have dropped : (chronicle.exchange.queue.any fun request =>
        request.number == call.number) = true :=
      List.any_eq_true.mpr ⟨request, queued, beq_iff_eq.mpr numbered⟩
    rw [if_pos dropped]
    refine .ready (.error .unanswered) ?_ ?_
    · rw [WaitingCall.outcome?, WaitingCall.desert, empty]
      rfl
    · exact .lost request (answered.ordered.taken_of_queued queued) numbered awaits
        (answered.ordered.unserved_of_queued queued) rfl
  | ready outcome shows justified =>
    have stays := justified.step (.dropped there)
    split
    · exact .ready outcome (outcome_desert shows) stays
    · exact .ready outcome shows stays

/-- Every step keeps the requests accounted for. -/
theorem step {entry : Entry State} {exchange : Exchange State}
    (stepped : Stepped desktop smallSize chronicle.exchange entry exchange) :
    Answered desktop smallSize first (chronicle.add exchange entry) := by
  have ordered := answered.ordered.step stepped
  have settled := fun number outcome member =>
    (answered.settled number outcome member).step stepped
  have stay := fun (call : WaitingCall) (member : call ∈ chronicle.exchange.waiting) =>
    (answered.waits call member).step stepped
  cases stepped with
  | same => exact ⟨ordered, settled, answered.waits, answered.numbers, answered.threads⟩
  | refused client command gone =>
    refine ⟨ordered, ?_, fun call member => stay call member fun _ queued _ _ => queued,
      perm_range_succ answered.numbers, answered.threads⟩
    intro number outcome member
    rcases List.mem_cons.mp member with latest | earlier
    · cases latest
      exact .refused ⟨_, client, command⟩ (List.mem_append_right _ (.head _)) rfl
    · exact settled number outcome earlier
  | posted client command there heedless =>
    refine ⟨ordered, ?_, fun call member => stay call member fun _ queued _ _ =>
      List.mem_append_left _ queued, perm_range_succ answered.numbers, answered.threads⟩
    intro number outcome member
    rcases List.mem_cons.mp member with latest | earlier
    · cases latest
      exact .posted ⟨_, client, command⟩ (List.mem_append_right _ (.head _)) rfl heedless
    · exact settled number outcome earlier
  | called client command there free awaits =>
    refine ⟨ordered, settled, ?_, List.perm_middle.trans (perm_range_succ answered.numbers), ?_⟩
    · intro call member
      rcases List.mem_cons.mp member with rfl | earlier
      · exact .pending ⟨_, client, command⟩ (List.mem_append_right _ (.head _)) rfl rfl awaits rfl
          rfl
      · exact stay call earlier fun _ queued _ _ => List.mem_append_left _ queued
    · refine List.nodup_cons.mpr ⟨?_, answered.threads⟩
      simpa [isWaiting, WaitingCall.fresh] using free
  | returned call outcome waits ready =>
    refine ⟨ordered, ?_, ?_, perm_of_returned answered.numbers List.nodup_range waits,
      answered.threads.sublist (List.filter_sublist.map _)⟩
    · intro number other member
      rcases List.mem_cons.mp member with latest | earlier
      · cases latest
        exact (answered.justified_of_ready waits ready).step (.returned call outcome waits ready)
      · exact settled number other earlier
    · exact fun other member => stay other (List.mem_filter.mp member).1 fun _ queued _ _ => queued
  | changed change =>
    exact answered.undisturbed (.changed change) rfl rfl (List.map_id _).symm (fun _ => rfl)
      (fun _ => rfl) fun call member => stay call member fun _ queued _ _ => queued
  | handled event exits stage running there =>
    exact answered.undisturbed (.handled event exits stage running there) rfl rfl
      (List.map_id _).symm (fun _ => rfl) (fun _ => rfl)
      fun call member => stay call member fun _ queued _ _ => queued
  | applied request queue exits running head heedless =>
    refine answered.undisturbed (.applied request queue exits running head heedless) rfl rfl
      (List.map_id _).symm (fun _ => rfl) (fun _ => rfl) fun call member => stay call member ?_
    intro other queued _ awaits
    rcases List.mem_cons.mp (head ▸ queued) with rfl | behind
    · exact nomatch heedless.symm.trans awaits
    · exact behind
  | answered request command queue exits running head asks room =>
    have stepped := @Stepped.answered _ desktop smallSize chronicle.exchange request command
      queue exits running head asks room
    exact answered.undisturbed stepped rfl rfl rfl (fun call => by split <;> rfl)
      (fun call => by split <;> rfl)
      fun call member => answered.waits_answered stepped head asks member
  | dropped there =>
    exact answered.undisturbed (.dropped there) rfl rfl rfl (fun call => by split <;> rfl)
      (fun call => by split <;> rfl) fun call member => answered.waits_dropped there member

/-- What a thread has got, or would get now, is justified. -/
theorem justified_of_outcome {number : Nat} {outcome : RequestOutcome}
    (found : chronicle.exchange.outcome? number = some outcome) :
    Justified desktop smallSize first chronicle number outcome := by
  rw [outcome?, Option.or_eq_some_iff] at found
  rcases found with returned | ⟨_, looks⟩
  · obtain ⟨front, back, shape, _⟩ := List.lookup_eq_some_iff.mp returned
    exact answered.settled number outcome (shape ▸ List.mem_append_right _ (.head _))
  · obtain ⟨call, searched, ready⟩ := Option.bind_eq_some_iff.mp looks
    have numbered : call.number = number := by simpa using List.find?_some searched
    exact numbered ▸ answered.justified_of_ready (List.mem_of_find?_eq_some searched) ready

/-- A request without an outcome is in the queue, and its thread waits. -/
theorem pending_of_no_outcome {number : Nat} (sent : number < chronicle.exchange.sent)
    (nothing : chronicle.exchange.outcome? number = none) :
    ∃ request ∈ chronicle.exchange.queue, request.number = number ∧
      request.command.awaitsReply = true := by
  rw [outcome?, Option.or_eq_none_iff] at nothing
  obtain ⟨unsettled, unready⟩ := nothing
  rcases List.mem_append.mp (answered.numbers.mem_iff.mpr (List.mem_range.mpr sent)) with
    settled | waits
  · obtain ⟨⟨_, outcome⟩, member, rfl⟩ := List.mem_map.mp settled
    have different := List.lookup_eq_none_iff.mp unsettled _ member
    simp at different
  · obtain ⟨waiting, member, rfl⟩ := List.mem_map.mp waits
    have found : (chronicle.exchange.waiting.find? fun call =>
        call.number == waiting.number).isSome = true :=
      List.find?_isSome.mpr ⟨waiting, member, by simp⟩
    obtain ⟨call, searched⟩ := Option.isSome_iff_exists.mp found
    have numbered : call.number = waiting.number := by simpa using List.find?_some searched
    rw [searched, Option.bind_some] at unready
    cases answered.waits call (List.mem_of_find?_eq_some searched) with
    | pending request queued same _ awaits => exact ⟨request, queued, same.trans numbered, awaits⟩
    | ready outcome shows => exact nomatch unready.symm.trans shows

/-- After a look into its channel a thread waits on only for a request in the queue. -/
theorem queued_of_waiting {client : Nat}
    (waits : (chronicle.exchange.collect client).isWaiting client = true) :
    ∃ request ∈ chronicle.exchange.queue, request.client = client := by
  unfold collect at waits
  cases searched : chronicle.exchange.waiting.find? fun call => call.client == client with
  | none =>
    rw [searched] at waits
    obtain ⟨call, member, same⟩ := List.any_eq_true.mp waits
    exact absurd same (List.find?_eq_none.mp searched call member)
  | some call =>
    have member := List.mem_of_find?_eq_some searched
    have same : call.client = client := by simpa using List.find?_some searched
    cases answered.waits call member with
    | pending request queued _ sender => exact ⟨request, queued, sender.trans same⟩
    | ready outcome shows =>
      simp only [searched, shows] at waits
      obtain ⟨other, kept, otherSame⟩ := List.any_eq_true.mp waits
      obtain ⟨otherWaits, different⟩ := List.mem_filter.mp kept
      have alike : other.client = call.client := (beq_iff_eq.mp otherSame).trans same.symm
      obtain rfl := List.inj_on_of_nodup_map answered.threads otherWaits member alike
      simp at different

/-- A request has the outcome that is justified, and none otherwise. -/
theorem outcome_iff {number : Nat} {outcome : RequestOutcome} :
    chronicle.exchange.outcome? number = some outcome ↔
      Justified desktop smallSize first chronicle number outcome := by
  refine ⟨answered.justified_of_outcome, fun justified => ?_⟩
  cases found : chronicle.exchange.outcome? number with
  | some other =>
    exact congrArg some ((answered.justified_of_outcome found).unique justified answered.ordered)
  | none =>
    obtain ⟨request, rfl, whereabouts⟩ := justified.request answered.ordered
    have sent : request ∈ chronicle.accepted ++ chronicle.refused :=
      List.mem_append.mpr (whereabouts.imp_right And.left)
    obtain ⟨other, queued, numbered, awaits⟩ :=
      answered.pending_of_no_outcome (answered.ordered.number_lt sent) found
    have heedless := (numbered ▸ justified).not_pending answered.ordered queued
    exact nomatch heedless.symm.trans awaits

end Answered

/-- After any turns every request is answered for exactly once. This is the invariant of all runs,
by the steps above and the induction over turns. -/
theorem after_answered (first : WindowSession State) (turns : List (Turn State)) :
    Answered desktop smallSize first ((fresh first).after desktop smallSize turns) :=
  after_keeps desktop smallSize (fun _ _ _ answered stepped => answered.step stepped)
    fresh_answered turns

/-- Once the loop has ended nothing more is served. -/
theorem served_after_end (ended : chronicle.exchange.stage ≠ .served) (turns : List (Turn State)) :
    served (chronicle.after desktop smallSize turns).deeds = served chronicle.deeds := by
  let holds (later : Chronicle State) : Prop :=
    later.exchange.stage ≠ .served ∧ served later.deeds = served chronicle.deeds
  have start : holds chronicle := ⟨ended, rfl⟩
  have step (later : Chronicle State) (entry : Entry State) (exchange : Exchange State)
      (kept : holds later) (stepped : Stepped desktop smallSize later.exchange entry exchange) :
      holds (later.add exchange entry) := by
    obtain ⟨past, same⟩ := kept
    cases stepped with
    | same | refused | posted | called | returned => exact ⟨past, same⟩
    | changed => exact ⟨past, by simpa [add, served_append, Deed.request?] using same⟩
    | handled _ _ _ running | applied _ _ _ running | answered _ _ _ _ running =>
      exact absurd running past
    | dropped => exact ⟨QueueStage.noConfusion, same⟩
  exact (after_keeps desktop smallSize step start turns).2

/-- Requests of any number of threads are done to one session, in the order of the queue.

Threads send requests and look into their channels, the loop takes requests and handles events,
the desktop changes by itself, and the loop and its queue come to their end, in any order. The
session is the one that does the deeds one after the other. The requests that the queue took, in
the order in which they were sent, are those that were served and behind them those in the queue,
or at the end those that were lost. A request has an outcome exactly if the record justifies it, and
then that one: the reply of the session at the place of the request, success for a request that
waits for no reply as soon as it is taken, and an error for one that waited and was lost, and for
one that came too late. No call returns twice, the loop never waits for room in a channel, a thread
that looks waits on only for a request in the queue, and once the loop has ended nothing more is
served. -/
theorem requests_are_linearised (desktop : Desktop State) (smallSize : Size)
    (first : WindowSession State) (turns : List (Turn State)) :
    let chronicle := (fresh first).after desktop smallSize turns
    let exchange := chronicle.exchange
    Ordered desktop smallSize first chronicle ∧
      (∀ number outcome, exchange.outcome? number = some outcome ↔
        Justified desktop smallSize first chronicle number outcome) ∧
      (exchange.outcomes.map Prod.fst).Nodup ∧
      (∀ request ∈ exchange.queue, exchange.isBlocked request = false) ∧
      (∀ client, (exchange.collect client).isWaiting client = true →
        ∃ request ∈ exchange.queue, request.client = client) ∧
      (exchange.stage ≠ .served → ∀ later : List (Turn State),
        served (chronicle.after desktop smallSize later).deeds = served chronicle.deeds) := by
  intro chronicle exchange
  have answered : Answered desktop smallSize first chronicle := after_answered first turns
  have distinct := answered.numbers.nodup_iff.mpr List.nodup_range
  exact ⟨answered.ordered, fun _ _ => answered.outcome_iff, (List.nodup_append.mp distinct).1,
    fun _ queued => answered.room queued, fun _ waits => answered.queued_of_waiting waits,
    fun ended later => served_after_end ended later⟩

/-- A scripted window that has just come up. -/
def quietWindow : WindowSession ScriptedDesktop.Memory :=
  Window.startSession ScriptedDesktop.desktop .standard .gles ⟨1280, 720⟩ (.stepped 0 1)
    ⟨.none, [0], true, none, ⟨0, 0⟩, .initial, []⟩

/-- A source that is sent after the loop has ended, and is dropped with the queue. -/
def lateSource : List (Turn ScriptedDesktop.Memory) :=
  [.move .finish, .move (.send 0 (.eval "void mainImage(out vec4 c, in vec2 p) {}" "live")),
   .move .drop]

/-- A source that was never applied is a success for its thread. -/
theorem dropped_source_succeeds :
    let chronicle := (fresh quietWindow).after ScriptedDesktop.desktop ⟨480, 270⟩ lateSource
    ∃ request ∈ chronicle.accepted, request ∉ served chronicle.deeds ∧
      chronicle.exchange.stage = .gone ∧
      chronicle.exchange.outcome? request.number = some (.ok none) := by
  refine ⟨_, .head _, ?_, rfl, rfl⟩
  exact List.not_mem_nil

end Exchange.Chronicle

end LiveShader
