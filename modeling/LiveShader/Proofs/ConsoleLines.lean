import LiveShader.Console.Input
import LiveShader.Console.Serve
import LiveShader.Headless.Rehearsal

/-!
# The lines of a console

Everything that passes between the console and those it deals with is written down: what the window
was handed and what it answered, what reading the shader's file answered, what was printed, and what
was logged. The record says what becomes of each line of an input, whatever stands in the others.

A line that is blank, a comment, or malformed costs no other line, and neither does a file that
cannot be read. So a window that answers is handed what the well-formed lines ask for, each once and
in order, up to the line that quits. A line that is no text is another matter: the console stops
there, and the lines behind it are never read.
-/
namespace LiveShader.Console

/-- Something that passed between the console and those it deals with. -/
inductive Deal where
  | apply (command : Command) (answer : Except ProxyError Reply)
  | eval (source : String) (answer : Except ProxyError Unit)
  | shutdown (answer : Except ProxyError Unit)
  | read (answer : Except ReadFault String)
  | print (text : String)
  | complain (text : String)
  | log (line : LogLine)

namespace Deal

/-- What the window was handed. The document is the name under which sources are shown. -/
def command? (document : String) : Deal → Option LiveCommand
  | .apply command _ => some (.uniform command)
  | .eval source _ => some (.eval source document)
  | .shutdown _ => some .shutdown
  | _ => none

/-- What reading the shader's file answered. -/
def read? : Deal → Option (Except ReadFault String)
  | .read answer => some answer
  | _ => none

/-- What was logged. -/
def logged? : Deal → Option LogLine
  | .log line => some line
  | _ => none

/-- Whether the window answered, if it was handed anything. -/
def isAnswered : Deal → Bool
  | .apply _ (.error _) | .eval _ (.error _) | .shutdown (.error _) => false
  | _ => true

end Deal

/-- A world with what has passed, the oldest first. -/
structure Recorded (World : Type) where
  world : World
  deals : List Deal

variable {World : Type}

namespace Recorded

/-- Asks for something and writes down what passed. -/
def ask {Answer : Type} (deal : Answer → Deal) (act : StateM World Answer) :
    StateM (Recorded World) Answer := fun recorded =>
  let (answer, world) := Id.run (act.run recorded.world)
  (answer, ⟨world, recorded.deals ++ [deal answer]⟩)

/-- Tells something and writes it down. -/
def tell (deal : Deal) (act : StateM World Unit) : StateM (Recorded World) Unit := fun recorded =>
  ((), ⟨(Id.run (act.run recorded.world)).2, recorded.deals ++ [deal]⟩)

end Recorded

/-- A host that writes down all that passes. -/
def Host.recorded (host : Host (StateM World)) : Host (StateM (Recorded World)) :=
  { apply := fun command => Recorded.ask (.apply command) (host.apply command)
    eval := fun source => Recorded.ask (.eval source) (host.eval source)
    shutdown := Recorded.ask .shutdown host.shutdown
    readShader := Recorded.ask .read host.readShader
    print := fun text => Recorded.tell (.print text) (host.print text)
    complain := fun text => Recorded.tell (.complain text) (host.complain text)
    log := fun line => Recorded.tell (.log line) (host.log line) }

/-- What one line leads to: what follows it, and what passed. -/
inductive Served (path : String) : Option String → After → List Deal → Prop where
  | unread : Served path none (.stopped "failed to read console input") []
  | silent {line : String} (read : readLine line = .ok none) : Served path (some line) .more []
  | malformed {line : String} (error : LineError) (read : readLine line = .error error) :
      Served path (some line) .more [.complain error.message]
  | applied {line : String} (command : Command) (reply : Reply)
      (read : readLine line = .ok (some (.uniform command))) :
      Served path (some line) .more
        (.apply command (.ok reply) :: (replyText? reply).toList.map .print)
  | reloaded {line : String} (source : String) (read : readLine line = .ok (some .reload)) :
      Served path (some line) .more [.read (.ok source), .eval source (.ok ())]
  | missing {line : String} (fault : ReadFault) (read : readLine line = .ok (some .reload)) :
      Served path (some line) .more
        [.read (.error fault), .complain (unreadable path fault)]
  | closed {line : String} (read : readLine line = .ok (some .quit)) :
      Served path (some line) .closed [.shutdown (.ok ())]
  | unapplied {line : String} (command : Command) (error : ProxyError)
      (read : readLine line = .ok (some (.uniform command))) :
      Served path (some line) (.stopped error.message) [.apply command (.error error)]
  | unevaluated {line : String} (source : String) (error : ProxyError)
      (read : readLine line = .ok (some .reload)) :
      Served path (some line) (.stopped error.message)
        [.read (.ok source), .eval source (.error error)]
  | unclosed {line : String} (error : ProxyError) (read : readLine line = .ok (some .quit)) :
      Served path (some line) (.stopped error.message) [.shutdown (.error error)]

/-- A computation with a record answers as the one without it and does the same to the world, and
what is added to the record meets a condition. -/
def Keeps {Answer : Type} (plain : StateM World Answer) (recorded : StateM (Recorded World) Answer)
    (added : Answer → List Deal → Prop) : Prop :=
  ∀ world deals, ∃ made,
    Id.run (recorded.run ⟨world, deals⟩) =
      ((Id.run (plain.run world)).1, ⟨(Id.run (plain.run world)).2, deals ++ made⟩) ∧
    added (Id.run (plain.run world)).1 made

namespace Keeps

variable {Answer Result : Type} {added : Answer → List Deal → Prop}

/-- A computation that only answers adds nothing to the record, which the condition has to allow for
that answer. -/
theorem pure {answer : Answer} (nothing : added answer []) :
    Keeps (Pure.pure answer : StateM World Answer) (Pure.pure answer) added :=
  fun _ _ => ⟨[], by simp, nothing⟩

/-- One computation after another. -/
theorem bind {first : StateM World Answer} {firstRecorded : StateM (Recorded World) Answer}
    {next : Answer → StateM World Result} {nextRecorded : Answer → StateM (Recorded World) Result}
    {both : Result → List Deal → Prop} (keeps : Keeps first firstRecorded added)
    (goesOn : ∀ answer made, added answer made → Keeps (next answer) (nextRecorded answer)
      fun result more => both result (made ++ more)) :
    Keeps (first >>= next) (firstRecorded >>= nextRecorded) both := by
  intro world deals
  obtain ⟨made, runs, begun⟩ := keeps world deals
  obtain ⟨more, goes, done⟩ := goesOn _ made begun (Id.run (first.run world)).2 (deals ++ made)
  refine ⟨made ++ more, ?_, done⟩
  simp only [StateT.run_bind, Id.run_bind, runs, goes, List.append_assoc]

/-- A question, and what follows from its answer. -/
theorem ask {plain : StateM World Answer} {deal : Answer → Deal}
    {next : Answer → StateM World Result} {nextRecorded : Answer → StateM (Recorded World) Result}
    {both : Result → List Deal → Prop}
    (goesOn : ∀ answer, Keeps (next answer) (nextRecorded answer)
      fun result more => both result (deal answer :: more)) :
    Keeps (plain >>= next) (Recorded.ask deal plain >>= nextRecorded) both := by
  have one : Keeps plain (Recorded.ask deal plain) fun answer made => made = [deal answer] :=
    fun _ _ => ⟨_, rfl, rfl⟩
  refine one.bind ?_
  rintro answer _ rfl
  exact goesOn answer

/-- Something that is told last. -/
theorem told {plain : StateM World Unit} {deal : Deal} {added : Unit → List Deal → Prop}
    (one : added () [deal]) : Keeps plain (Recorded.tell deal plain) added :=
  fun _ _ => ⟨_, rfl, one⟩

/-- Something that is told, and what follows. -/
theorem tell {plain : StateM World Unit} {deal : Deal} {next : Unit → StateM World Result}
    {nextRecorded : Unit → StateM (Recorded World) Result} {both : Result → List Deal → Prop}
    (goesOn : Keeps (next ()) (nextRecorded ()) fun result more => both result (deal :: more)) :
    Keeps (plain >>= next) (Recorded.tell deal plain >>= nextRecorded) both := by
  have one : Keeps plain (Recorded.tell deal plain) fun _ made => made = [deal] := told rfl
  refine one.bind ?_
  rintro _ _ rfl
  exact goesOn

end Keeps

/-- What is logged at the end of a console. -/
def endLine : After → LogLine
  | .stopped reason => ⟨.warn, "shadelive::console", "console stopped", [("err", reason)]⟩
  | _ => ⟨.debug, "shadelive::console", "console input closed", []⟩

/-- What the lines of a console lead to. -/
inductive Transcript (path : String) : List (Option String) → List Deal → Prop where
  | ended : Transcript path [] [.log (endLine .closed)]
  | more {line : Option String} {rest : List (Option String)} {made deals : List Deal}
      (served : Served path line .more made) (others : Transcript path rest deals) :
      Transcript path (line :: rest) (made ++ deals)
  | last {line : Option String} {rest : List (Option String)} {after : After} {made : List Deal}
      (served : Served path line after made) (ends : after ≠ .more) :
      Transcript path (line :: rest) (made ++ [.log (endLine after)])

section Runs

variable (host : Host (StateM World)) (path : String)

/-- What a request leads to is what its line leads to. -/
theorem request_is_served {line : String} {request : Request}
    (read : readLine line = .ok (some request)) :
    Keeps (serveRequest host path request) (serveRequest host.recorded path request)
      (Served path (some line)) := by
  cases request with
  | uniform command =>
    refine .ask ?_
    rintro (error | reply)
    · exact .pure (.unapplied command error read)
    · have served := @Served.applied path line command reply read
      cases said : replyText? reply with
      | none =>
        rw [said] at served
        simpa only [said] using Keeps.pure served
      | some text =>
        rw [said] at served
        simp only [said]
        exact .tell (.pure served)
  | reload =>
    refine .ask ?_
    rintro (fault | source)
    · exact .tell (.pure (.missing fault read))
    · refine .ask ?_
      rintro (error | _)
      · exact .pure (.unevaluated source error read)
      · exact .pure (.reloaded source read)
  | quit =>
    refine .ask ?_
    rintro (error | _)
    · exact .pure (.unclosed error read)
    · exact .pure (.closed read)

/-- Serving a line does with the record what it does without, and adds what the line leads to. The
cases are those of the reader: no text, an error, nothing asked for, or a request. -/
theorem line_is_served (line : Option String) :
    Keeps (serveLine host path line) (serveLine host.recorded path line) (Served path line) := by
  cases line with
  | none => exact .pure .unread
  | some line =>
    cases read : readLine line with
    | error error =>
      simp only [serveLine, read]
      exact .tell (.pure (.malformed error read))
    | ok request? =>
      cases request? with
      | none =>
        simp only [serveLine, read]
        exact .pure (.silent read)
      | some request =>
        simp only [serveLine, read]
        exact request_is_served host path read

/-- Serving lines with a record does what it does without, and the record is a transcript. -/
theorem lines_are_transcribed (lines : List (Option String)) :
    Keeps (serve host path lines) (serve host.recorded path lines)
      fun _ deals => Transcript path lines deals := by
  induction lines with
  | nil => exact .told .ended
  | cons line rest induction =>
    refine (line_is_served host path line).bind ?_
    intro after made served
    cases after with
    | more =>
      intro world deals
      obtain ⟨more, runs, others⟩ := induction world deals
      exact ⟨more, runs, .more served others⟩
    | closed => exact .told (.last served (by simp))
    | stopped reason => exact .told (.last served (by simp))

end Runs

/-- What a line asks for, if it is understood and asks for anything. -/
def request? (line : String) : Option Request := (readLine line).toOption.join

/-- The lines in front of the first that is no text. -/
def texts : List (Option String) → List String
  | some line :: rest => line :: texts rest
  | _ => []

/-- Requests up to the first that quits. -/
def upToQuit : List Request → List Request
  | [] => []
  | .quit :: _ => [.quit]
  | request :: rest => request :: upToQuit rest

/-- What lines ask for, up to the one that quits or the first that is no text. -/
def requests (lines : List (Option String)) : List Request :=
  upToQuit ((texts lines).filterMap request?)

/-- What a window is handed for requests, where each reload has read the shader's file once. The
source that was read is handed on; a file that could not be read leads to nothing. -/
def commands (document : String) : List Request → List (Except ReadFault String) → List LiveCommand
  | .uniform command :: rest, reads => .uniform command :: commands document rest reads
  | .reload :: rest, .ok source :: reads => .eval source document :: commands document rest reads
  | .reload :: rest, .error _ :: reads => commands document rest reads
  | .quit :: rest, reads => .shutdown :: commands document rest reads
  | _, _ => []

/-- How the console ends for lines: at the one that quits, at the first that is no text, or with the
input. -/
def ending (lines : List (Option String)) : After :=
  if .quit ∈ (texts lines).filterMap request? ∨ lines.all Option.isSome then .closed
  else .stopped "failed to read console input"

section Lines

variable {line : String} (rest : List (Option String))

/-- The request of a line is the one that was read from it. -/
theorem request?_of_read {asked : Option Request} (read : readLine line = .ok asked) :
    request? line = asked := by
  simp [request?, read, Except.toOption]

/-- A line that cannot be read asks for nothing. -/
theorem request?_of_error {error : LineError} (read : readLine line = .error error) :
    request? line = none := by
  simp [request?, read, Except.toOption]

/-- A line that does not quit adds what it asks for, if anything. -/
theorem requests_of_staying {asked : Option Request} (asks : request? line = asked)
    (stays : asked ≠ some .quit) :
    requests (some line :: rest) = asked.toList ++ requests rest ∧
      ending (some line :: rest) = ending rest := by
  subst asks
  cases asks : request? line with
  | none => simp [requests, ending, texts, asks]
  | some request =>
    cases request with
    | quit => exact absurd asks stays
    | uniform | reload => simp [requests, ending, texts, asks, upToQuit]

/-- Behind a line that quits nothing counts. -/
theorem requests_of_quitting (quits : request? line = some .quit) :
    requests (some line :: rest) = [.quit] ∧ ending (some line :: rest) = .closed := by
  simp [requests, ending, texts, quits, upToQuit]

end Lines

/-- What a transcript says of lines when the window answered throughout. -/
structure Accords (path : String) (lines : List (Option String)) (deals : List Deal) : Prop where
  commands : deals.filterMap (Deal.command? path) =
    commands path (requests lines) (deals.filterMap Deal.read?)
  /-- The file is read once for each reload. -/
  reads : (deals.filterMap Deal.read?).length = (requests lines).count .reload
  ending : deals.filterMap Deal.logged? = [endLine (ending lines)]

/-- What a line asks for that does not quit, and what passed for it, in front of others. -/
theorem accords_add {path line : String} {rest : List (Option String)} {made deals : List Deal}
    (accords : Accords path rest deals) {asked : Option Request} (asks : request? line = asked)
    (stays : asked ≠ some .quit)
    (handed : ∀ requests reads,
      commands path (asked.toList ++ requests) (made.filterMap Deal.read? ++ reads) =
        made.filterMap (Deal.command? path) ++ commands path requests reads)
    (reads : (made.filterMap Deal.read?).length = asked.toList.count .reload)
    (quiet : made.filterMap Deal.logged? = []) :
    Accords path (some line :: rest) (made ++ deals) := by
  obtain ⟨requested, ends⟩ := requests_of_staying rest asks stays
  refine ⟨?_, ?_, ?_⟩
  · rw [requested, List.filterMap_append, List.filterMap_append, handed, accords.commands]
  · rw [requested, List.filterMap_append, List.length_append, List.count_append, reads,
      accords.reads]
  · rw [ends, List.filterMap_append, quiet, accords.ending, List.nil_append]

/-- A line that does not end the console, in front of others. -/
theorem Accords.more {path : String} {line : Option String} {rest : List (Option String)}
    {made deals : List Deal} (accords : Accords path rest deals)
    (served : Served path line .more made) : Accords path (line :: rest) (made ++ deals) := by
  cases served with
  | silent read =>
    exact accords_add accords (request?_of_read read) (by simp) (fun _ _ => rfl) rfl rfl
  | malformed error read =>
    exact accords_add accords (request?_of_error read) (by simp) (fun _ _ => rfl) rfl rfl
  | applied command reply read =>
    cases replyText? reply with
    | none | some =>
      exact accords_add accords (request?_of_read read) (by simp) (fun _ _ => rfl) rfl rfl
  | reloaded source read =>
    exact accords_add accords (request?_of_read read) (by simp) (fun _ _ => rfl) rfl rfl
  | missing fault read =>
    exact accords_add accords (request?_of_read read) (by simp) (fun _ _ => rfl) rfl rfl

/-- If the window answered throughout, what passed is what the lines ask for. The induction is on
the transcript: a line that is followed by others adds its own requests in front, and the console
ends at a line that quits, at one that is no text, or with the input, since the other ends are deals
without an answer. -/
theorem Transcript.accords {path : String} {lines : List (Option String)} {deals : List Deal}
    (transcript : Transcript path lines deals) (answered : ∀ deal ∈ deals, deal.isAnswered = true) :
    Accords path lines deals := by
  induction transcript with
  | ended => exact ⟨rfl, rfl, rfl⟩
  | more served others induction =>
    have accords := induction fun deal member => answered deal (List.mem_append_right _ member)
    exact accords.more served
  | @last line rest after made served ends =>
    cases served with
    | unread => exact ⟨rfl, rfl, rfl⟩
    | silent | malformed | applied | reloaded | missing => exact absurd rfl ends
    | closed read =>
      obtain ⟨asked, ends⟩ := requests_of_quitting rest (request?_of_read read)
      exact ⟨by rw [asked]; rfl, by rw [asked]; rfl, by rw [ends]; rfl⟩
    | unapplied | unclosed => exact nomatch answered _ (.head _)
    | unevaluated => exact nomatch answered _ (.tail _ (.head _))

/-- A window that answers is handed what the lines of an input ask for.

Whatever bytes come in, and whatever the console deals with, the lines are served as they would be
without a record. If the window answered throughout, it was handed exactly what was asked for by
the well-formed lines up to the one that quits or the first that is no text, each once and in
order: a reload reads the file once, and hands on the source that was read. Lines that ask for
nothing, malformed lines and files that cannot be read lead to nothing else. The console ends of
itself with the input or at the line that quits, and is stopped at a line that is no text. -/
theorem lines_are_served_in_order (host : Host (StateM World)) (path : String) (input : List UInt8)
    (world : World) :
    let lines := inputLines input
    let recorded := (Id.run ((serve host.recorded path lines).run ⟨world, []⟩)).2
    recorded.world = (Id.run ((serve host path lines).run world)).2 ∧
      ((∀ deal ∈ recorded.deals, deal.isAnswered = true) →
        Accords path lines recorded.deals) := by
  intro lines recorded
  obtain ⟨deals, runs, transcript⟩ := lines_are_transcribed host path lines world []
  have same : recorded = ⟨_, deals⟩ := congrArg Prod.snd runs
  rw [same]
  exact ⟨rfl, transcript.accords⟩

/-- A window that runs no shader, and whose shader's file is not there. -/
def bareHost : Host (StateM Unit) :=
  { apply := fun _ => pure (.ok .noShader)
    eval := fun _ => pure (.ok ())
    shutdown := pure (.ok ())
    readShader := pure (.error .notFound)
    print := fun _ => pure ()
    complain := fun _ => pure ()
    log := fun _ => pure () }

/-- What passes between the console and that window for an input. -/
def bareDeals (input : List UInt8) : List Deal :=
  (Id.run ((serve bareHost.recorded "s.glsl" (inputLines input)).run ⟨(), []⟩)).2.deals

/-- A note and a malformed line cost nothing; behind the line that quits nothing is served. -/
theorem malformed_lines_are_passed_over :
    let input := "# note\nlevel\nget level\nquit\ndump\n".toUTF8.data.toList
    (∀ deal ∈ bareDeals input, deal.isAnswered = true) ∧
      (bareDeals input).filterMap (Deal.command? "s.glsl") =
        [.uniform (.get "level" 0), .shutdown] := by
  intro input
  have answered : ∀ deal ∈ bareDeals input, deal.isAnswered = true := by decide +kernel
  have accords := (lines_are_served_in_order bareHost "s.glsl" input ()).2 answered
  have asked : requests (inputLines input) = [.uniform (.get "level" 0), .quit] := by
    decide +kernel
  refine ⟨answered, accords.commands.trans ?_⟩
  rw [asked]
  simp [commands]

/-- A line that is no text costs the lines behind it. -/
theorem bytes_cost_later_lines :
    let input := [255, newline] ++ "get level\n".toUTF8.data.toList
    inputLines input = [none, some "get level"] ∧
      request? "get level" = some (.uniform (.get "level" 0)) ∧
      (∀ deal ∈ bareDeals input, deal.isAnswered = true) ∧
      (bareDeals input).filterMap (Deal.command? "s.glsl") = [] := by
  exact ⟨by decide, by decide, by decide, rfl⟩

end LiveShader.Console
