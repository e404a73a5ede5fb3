import SearchLex.Proofs.Answer

/-! Deliveries to the log. A call of the tokenizer opens with an event at level debug and
closes with the event of its result; a session delivers them in order, and a console makes
one line of each event its level admits. -/

namespace SearchLex

namespace Log

/-- Context values change nothing but the context. -/
theorem Event.exists_withContexts_eq (event : Event) (pairs : List (String × String)) :
    ∃ context, event.withContexts pairs = { event with context } := by
  induction pairs generalizing event with
  | nil => exact ⟨event.context, rfl⟩
  | cons pair rest ih => exact ih (event.withContext pair.1 pair.2)

@[simp] theorem Event.level_withContexts (event : Event) (pairs : List (String × String)) :
    (event.withContexts pairs).level = event.level := by
  obtain ⟨context, same⟩ := event.exists_withContexts_eq pairs
  rw [same]

@[simp] theorem Event.code_withContexts (event : Event) (pairs : List (String × String)) :
    (event.withContexts pairs).code = event.code := by
  obtain ⟨context, same⟩ := event.exists_withContexts_eq pairs
  rw [same]

@[simp] theorem Event.message_withContexts (event : Event) (pairs : List (String × String)) :
    (event.withContexts pairs).message = event.message := by
  obtain ⟨context, same⟩ := event.exists_withContexts_eq pairs
  rw [same]

theorem Context.mem_insert {context : Context} {key : String}
    (fresh : ∀ held ∈ context, held.1 ≠ key) (value : String) (pair : String × String) :
    pair ∈ context.insert key value ↔ pair = (key, value) ∨ pair ∈ context := by
  induction context with
  | nil => simp [Context.insert]
  | cons first rest ih =>
    obtain ⟨other, held⟩ := first
    obtain ⟨different, others⟩ := List.forall_mem_cons.mp fresh
    rw [Context.insert]
    by_cases before : key < other
    · rw [if_pos before, List.mem_cons]
    · rw [if_neg before, if_neg different.symm, List.mem_cons, ih others, List.mem_cons,
        or_left_comm]

/-- Context values with names of their own are all kept. -/
theorem Event.mem_withContexts {event : Event} {pairs : List (String × String)}
    (fresh : ∀ held ∈ event.context, ∀ pair ∈ pairs, held.1 ≠ pair.1)
    (distinct : pairs.Pairwise fun left right => left.1 ≠ right.1) (pair : String × String) :
    pair ∈ (event.withContexts pairs).context ↔ pair ∈ event.context ∨ pair ∈ pairs := by
  induction pairs generalizing event with
  | nil => simp [withContexts]
  | cons first rest ih =>
    obtain ⟨apart, later⟩ := List.pairwise_cons.mp distinct
    have member := Context.mem_insert (fun held own => fresh held own first List.mem_cons_self)
      first.2
    have again : ∀ held ∈ (event.withContext first.1 first.2).context, ∀ other ∈ rest,
        held.1 ≠ other.1 := by
      intro held own other further
      rcases (member held).mp own with rfl | earlier
      · exact apart other further
      · exact fresh held earlier other (List.mem_cons_of_mem first further)
    refine (ih again later).trans ?_
    rw [Event.withContext, member, List.mem_cons, or_assoc, or_left_comm]

/-- The line of an event in one of the two forms. -/
def Line.ofEvent (structured : Bool) (event : Event) : Line :=
  if structured then .structured event else .plain event

/-- The form of the lines a sink makes, if it makes any. -/
def Sink.form : Sink → Option Bool
  | .console structured => some structured
  | .memory _ => none

/-- The lines that an event makes behind a level. -/
def shown (level : Level) (form : Option Bool) (event : Event) : List Line :=
  if event.level ≤ level then (form.map (Line.ofEvent · event)).toList else []

/-- Without a console no event makes a line. -/
@[simp] theorem shown_none (level : Level) (event : Event) : shown level none event = [] := by
  simp [shown]

/-- A console shows every error, whatever its level is. -/
theorem shown_of_error {event : Event} (error : event.level = .error) (level : Level)
    (structured : Bool) : shown level (some structured) event = [.ofEvent structured event] := by
  have admitted : event.level ≤ level := error ▸ Nat.zero_le _
  simp [shown, admitted]

/-- A sink keeps its form, and makes a line of each event in it. -/
theorem Sink.accept_form (sink : Sink) (event : Event) :
    (sink.accept event).1.form = sink.form ∧
      (sink.accept event).2 = sink.form.map (Line.ofEvent · event) := by
  cases sink with
  | console structured => cases structured <;> exact ⟨rfl, rfl⟩
  | memory buffer => exact ⟨rfl, rfl⟩

namespace Session

/-- A session that logs at a level, with lines of a form if it has a console. What a memory
holds by now is open. -/
def Logs (session : Session) (level : Level) (form : Option Bool) : Prop :=
  ∃ sink, session.service = some ⟨level, sink⟩ ∧ sink.form = form

/-- Delivers events one after another. -/
def deliverAll (session : Session) (events : List Event) : Session :=
  events.foldl deliver session

variable {session : Session} {level : Level} {form : Option Bool}

theorem Logs.minLevel (logs : session.Logs level form) : session.minLevel = level := by
  obtain ⟨sink, held, _⟩ := logs
  simp [Session.minLevel, held]

/-- Delivering an event adds its lines and changes neither level nor form. -/
theorem Logs.deliver (logs : session.Logs level form) (event : Event) :
    (session.deliver event).Logs level form ∧
      (session.deliver event).lines.toList =
        session.lines.toList ++ Log.shown level form event := by
  obtain ⟨sink, held, rfl⟩ := logs
  obtain ⟨service, written⟩ := session
  cases held
  by_cases admitted : event.level ≤ level
  · obtain ⟨same, line⟩ := sink.accept_form event
    have sent : (Session.mk (some ⟨level, sink⟩) written).deliver event =
        ⟨some ⟨level, (sink.accept event).1⟩, written ++ (sink.accept event).2.toList⟩ := by
      simp [Session.deliver, Service.log, Service.enabled, admitted]
    rw [sent]
    exact ⟨⟨_, rfl, same⟩, by simp [line, Log.shown, admitted]⟩
  · have kept : (Session.mk (some ⟨level, sink⟩) written).deliver event =
        ⟨some ⟨level, sink⟩, written⟩ := by
      simp [Session.deliver, Service.log, Service.enabled, admitted]
    rw [kept]
    exact ⟨⟨sink, rfl, rfl⟩, by simp [Log.shown, admitted]⟩

theorem Logs.deliverAll (logs : session.Logs level form) (events : List Event) :
    (session.deliverAll events).Logs level form ∧
      (session.deliverAll events).lines.toList =
        session.lines.toList ++ events.flatMap (Log.shown level form) := by
  induction events generalizing session with
  | nil => exact ⟨logs, by simp [Session.deliverAll]⟩
  | cons event rest ih =>
    obtain ⟨next, first⟩ := logs.deliver event
    obtain ⟨last, later⟩ := ih next
    refine ⟨last, ?_⟩
    rw [first, List.append_assoc] at later
    exact later

end Session

end Log

namespace LoggingPreferences

/-- The level that logging really has: a setting below the floor is raised to it. -/
def level (preferences : LoggingPreferences) : Log.Level :=
  preferences.minLevel.moreVerbose .floor

/-- The form of the lines on the console, if the log goes there. -/
def form (preferences : LoggingPreferences) : Option Bool :=
  if preferences.console then some preferences.structured else none

/-- The lines an event makes. -/
def lines (preferences : LoggingPreferences) : Log.Event → List Log.Line :=
  Log.shown preferences.level preferences.form

theorem lines_silent {preferences : LoggingPreferences} (silent : preferences.console = false)
    (event : Log.Event) : preferences.lines event = [] := by
  simp [lines, form, silent]

theorem lines_of_error {preferences : LoggingPreferences} {event : Log.Event}
    (console : preferences.console = true) (error : event.level = .error) :
    preferences.lines event = [.ofEvent preferences.structured event] := by
  simp [lines, form, console, Log.shown_of_error error]

/-- The service of preferences has their form. -/
theorem form_ofPreferences (preferences : LoggingPreferences) :
    (Log.Service.ofPreferences preferences).sink.form = preferences.form := by
  cases console : preferences.console <;>
    simp [Log.Service.ofPreferences, form, console, Log.Sink.form]

end LoggingPreferences

namespace Tokenizer

open Log

/-- The event that opens a call. It is built only for a log at level debug. -/
def openingEvents (preferences : SearchPreferences) (query : String) (level : Level) :
    List Event :=
  if .debug ≤ level then
    [(Event.debug "Starting $search tokenization").withContexts (startContext preferences query)]
  else []

/-- The event that closes a call: a summary when it is wanted, or the failure. -/
def closingEvents (preferences : SearchPreferences) (query : String) :
    Except Failure Stream → Checked (List Event)
  | .ok stream =>
    .ok (if preferences.logSummary then
      [(Event.success .tokenized "Tokenization completed successfully").withContexts
        (summaryContext query stream.counts)]
    else [])
  | .error failure => do return [← failureEvent preferences query failure]

/-- A call delivers its opening event and then that of its result. -/
theorem deliveries_of_tokenize {preferences : SearchPreferences} {query : String}
    {session later : Session} {result : Except Failure Stream}
    (answered : tokenize preferences query session = .ok (result, later)) :
    ∃ events, closingEvents preferences query result = .ok events ∧
      later = session.deliverAll (openingEvents preferences query session.minLevel ++ events) := by
  have opened : session.debug "Starting $search tokenization" (startContext preferences query) =
      session.deliverAll (openingEvents preferences query session.minLevel) := by
    by_cases debug : Level.debug ≤ session.minLevel
    · simp [Session.debug, openingEvents, debug, Session.deliverAll, Session.dispatch]
    · simp [Session.debug, openingEvents, debug, Session.deliverAll]
  have ran := run_of_tokenize answered
  cases result with
  | ok stream =>
    refine ⟨_, rfl, ?_⟩
    cases summary : preferences.logSummary <;>
      simp [tokenize, ran, opened, summary, bind, Except.bind, pure, Except.pure] at answered <;>
      simp [← answered, Session.deliverAll, Session.dispatch]
  | error failure =>
    cases made : failureEvent preferences query failure with
    | error fault => simp [tokenize, ran, made, bind, Except.bind] at answered
    | ok event =>
      refine ⟨[event], by rw [closingEvents, made]; rfl, ?_⟩
      simp [tokenize, ran, made, opened, bind, Except.bind, pure, Except.pure] at answered
      simp [← answered, Session.deliverAll]

/-- The opening of a call is no error. -/
theorem level_of_openingEvents {preferences : SearchPreferences} {query : String} {level : Level}
    {event : Event} (opening : event ∈ openingEvents preferences query level) :
    event.level = .debug := by
  rw [openingEvents] at opening
  split at opening
  · rw [List.mem_singleton.mp opening, Event.level_withContexts]
    rfl
  · cases opening

/-- A failure is closed with its event. -/
theorem failureEvent_of_closingEvents {preferences : SearchPreferences} {query : String}
    {failure : Failure} {events : List Event}
    (closing : closingEvents preferences query (.error failure) = .ok events) :
    ∃ event, failureEvent preferences query failure = .ok event ∧ events = [event] := by
  cases made : failureEvent preferences query failure with
  | error fault => simp [closingEvents, made, bind, Except.bind] at closing
  | ok event =>
    rw [closingEvents, made] at closing
    exact ⟨event, rfl, (Except.ok.inj closing).symm⟩

/-- The event of a failure that tells no place. -/
def bareEvent (query : String) (failure : Failure) : Event :=
  (Event.error (.ofFailure failure) "Tokenization failed").withContexts
    [("query", loggable query), ("byte_length", toString query.utf8ByteSize)]

/-- The event of a failure that tells its place. -/
def placedEvent (query : String) (failure : Failure) (place : Span) : Event :=
  ((Event.error (.ofFailure failure) failure.message).withSpan place).withContexts
    [("query", loggable query), ("line", toString place.start.line.toNat),
      ("column", toString place.start.column.toNat)]

/-- The event of a failure tells the place that there is and that is wanted. -/
theorem failureEvent_cases {preferences : SearchPreferences} {query : String} {failure : Failure}
    {event : Event} (made : failureEvent preferences query failure = .ok event) :
    (∃ place, failure.span = .ok (some place) ∧ preferences.includePositions = true ∧
      event = placedEvent query failure place) ∨
    ∃ span, failure.span = .ok span ∧ (preferences.includePositions = true → span = none) ∧
      event = bareEvent query failure := by
  cases pointed : failure.span with
  | error fault => simp [failureEvent, pointed, bind, Except.bind] at made
  | ok span =>
    rw [failureEvent, pointed] at made
    cases span with
    | none => exact .inr ⟨none, rfl, fun _ => rfl, (Except.ok.inj made).symm⟩
    | some place =>
      cases wanted : preferences.includePositions with
      | false =>
        rw [wanted] at made
        exact .inr ⟨some place, rfl, fun told => absurd told Bool.false_ne_true,
          (Except.ok.inj made).symm⟩
      | true =>
        rw [wanted] at made
        exact .inl ⟨place, rfl, rfl, (Except.ok.inj made).symm⟩

/-- The event of a failure is an error with the failure's code. -/
theorem failureEvent_error {preferences : SearchPreferences} {query : String} {failure : Failure}
    {event : Event} (made : failureEvent preferences query failure = .ok event) :
    event.level = .error ∧ event.code = Code.ofFailure failure := by
  rcases failureEvent_cases made with ⟨place, _, _, rfl⟩ | ⟨span, _, _, rfl⟩
  · exact ⟨Event.level_withContexts .., Event.code_withContexts ..⟩
  · exact ⟨Event.level_withContexts .., Event.code_withContexts ..⟩

end Tokenizer

end SearchLex
