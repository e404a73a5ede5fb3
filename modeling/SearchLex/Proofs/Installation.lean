import SearchLex.Proofs.Deliveries

/-! The one service of a process. Calls of the log may come in any order: the first that wants
a service installed has its way, every later one is refused and changes nothing, and from then
on the sink takes the events that the installed level admits, one after another. -/

namespace SearchLex.Log

/-- A call that a process makes of its log. -/
inductive Call where
  /-- Installs the service of the preferences that an environment holds. -/
  | setUp (environment : Environment)
  /-- Installs the service of preferences. -/
  | setUpWith (preferences : LoggingPreferences)
  | install (service : Service)
  | dispatch (event : Event) (context : List (String × String))
  | debug (message : String) (context : List (String × String))
  | reportError (code : Code) (message : String)
  | minLevel
  | isInstalled

/-- What a call is answered with. -/
inductive Reply where
  | installed (result : Except InstallError Unit)
  | level (level : Level)
  | truth (value : Bool)
  /-- The call has no answer. -/
  | none

namespace Session

/-- The session after an attempt to install a service; a refused one leaves it alone. -/
def attempt (session : Session) : Except InstallError Session → Reply × Session
  | .ok later => (.installed (.ok ()), later)
  | .error error => (.installed (.error error), session)

def perform (session : Session) : Call → Reply × Session
  | .setUp environment =>
    session.attempt (session.installPreferences (.ofEnvironment environment))
  | .setUpWith preferences => session.attempt (session.installPreferences preferences)
  | .install service => session.attempt (session.install service)
  | .dispatch event context => (.none, session.dispatch event context)
  | .debug message context => (.none, session.debug message context)
  | .reportError code message => (.none, session.reportError code message)
  | .minLevel => (.level session.minLevel, session)
  | .isInstalled => (.truth session.isInstalled, session)

/-- Performs calls one after another and collects their replies. -/
def performAll (session : Session) : List Call → List Reply × Session
  | [] => ([], session)
  | call :: rest =>
    let (reply, next) := session.perform call
    let (replies, last) := next.performAll rest
    (reply :: replies, last)

theorem performAll_cons (session : Session) (call : Call) (rest : List Call) :
    session.performAll (call :: rest) =
      ((session.perform call).1 :: ((session.perform call).2.performAll rest).1,
        ((session.perform call).2.performAll rest).2) := rfl

theorem performAll_append (session : Session) (first second : List Call) :
    session.performAll (first ++ second) =
      ((session.performAll first).1 ++ ((session.performAll first).2.performAll second).1,
        ((session.performAll first).2.performAll second).2) := by
  induction first generalizing session with
  | nil => rfl
  | cons call rest ih =>
    rw [List.cons_append, performAll_cons, ih, performAll_cons, List.cons_append]

end Session

namespace Call

/-- The preferences a call wants a service for. -/
def preferences? : Call → Option LoggingPreferences
  | .setUp environment => some (.ofEnvironment environment)
  | .setUpWith preferences => some preferences
  | _ => none

/-- The service a call wants to install. -/
def service? : Call → Option Service
  | .install service => some service
  | call => call.preferences?.map .ofPreferences

/-- The events a call sends to an installed service. -/
def events : Call → List Event
  | .dispatch event context => [event.withContexts context]
  | .debug message context => [(Event.debug message).withContexts context]
  | .reportError code message => [.error code message]
  | _ => []

/-- The event that tells of a service that preferences asked for. -/
def announcement (preferences : LoggingPreferences) : Event :=
  (Event.success .loggingInstalled "Global logging initialized").withContexts
    [("min_level", preferences.level.name), ("structured", toString preferences.structured)]

/-- The events a call sends right after it installed a service. -/
def greeting (call : Call) : List Event := call.preferences?.toList.map announcement

/-- The lines a call writes while no service is installed. -/
def strayLines : Call → List Line
  | .reportError code message => [.unlogged code message]
  | _ => []

/-- The reply to a call while no service is installed. -/
def replyBefore : Call → Reply
  | .minLevel => .level .floor
  | .isInstalled => .truth false
  | .setUp _ | .setUpWith _ | .install _ => .installed (.ok ())
  | .dispatch .. | .debug .. | .reportError .. => .none

/-- The reply to a call when a service of a level is installed. -/
def replyAfter (level : Level) : Call → Reply
  | .minLevel => .level level
  | .isInstalled => .truth true
  | .setUp _ | .setUpWith _ | .install _ => .installed (.error .alreadyInstalled)
  | .dispatch .. | .debug .. | .reportError .. => .none

/-- Calls in which one wants a service begin with some that want none. -/
theorem exists_first_asking (calls : List Call) :
    (∀ call ∈ calls, call.service? = none) ∨
      ∃ before first after service, calls = before ++ first :: after ∧
        (∀ call ∈ before, call.service? = none) ∧ first.service? = some service := by
  cases found : calls.find? fun call => call.service?.isSome with
  | none => exact .inl (by simpa using List.find?_eq_none.mp found)
  | some first =>
    obtain ⟨asked, before, after, rfl, unasked⟩ := List.find?_eq_some_iff_append.mp found
    obtain ⟨service, wanted⟩ := Option.isSome_iff_exists.mp asked
    exact .inr ⟨before, first, after, service, rfl, by simpa using unasked, wanted⟩

end Call

/-- A sink after it took events, one after another. -/
def Sink.after (sink : Sink) (events : List Event) : Sink :=
  events.foldl (fun sink event => (sink.accept event).1) sink

/-- The lines a sink makes of events: one of each, or none if it has no console. -/
def Sink.linesOf (sink : Sink) (events : List Event) : List Line :=
  events.flatMap fun event => (sink.form.map (Line.ofEvent · event)).toList

theorem Sink.form_after (sink : Sink) (events : List Event) :
    (sink.after events).form = sink.form := by
  induction events generalizing sink with
  | nil => rfl
  | cons event rest ih => exact (ih (sink.accept event).1).trans (sink.accept_form event).1

/-- The events of some that a level admits. -/
def admitted (level : Level) (events : List Event) : List Event :=
  events.filter fun event => event.level ≤ level

/-- A greeting is one event at level info, which the level of the service may hold back. -/
theorem Call.admitted_greeting {call : Call} {preferences : LoggingPreferences}
    (wanted : call.preferences? = some preferences) (level : Level) :
    admitted level call.greeting =
      if .info ≤ level then [announcement preferences] else [] := by
  have info : (announcement preferences).level = .info := Event.level_withContexts _ _
  rw [greeting, wanted]
  by_cases low : Level.info ≤ level <;> simp [admitted, info, low]

namespace Session

/-- A session that has no service but has written some lines. -/
structure Idle (session : Session) (lines : List Line) : Prop where
  unserved : session.service = none
  written : session.lines.toList = lines

/-- A session whose service was installed when some lines had been written, and whose sink has
taken some events since. -/
structure Received (session : Session) (service : Service) (lines : List Line)
    (events : List Event) : Prop where
  served : session.service = some { service with sink := service.sink.after events }
  written : session.lines.toList = lines ++ service.sink.linesOf events

variable {session : Session} {service : Service} {lines : List Line} {events : List Event}

theorem Received.minLevel (received : session.Received service lines events) :
    session.minLevel = service.minLevel := by
  simp [Session.minLevel, received.served]

/-- The sink takes an event exactly if the level admits it. -/
theorem Received.deliver (received : session.Received service lines events) (event : Event) :
    (session.deliver event).Received service lines
      (events ++ admitted service.minLevel [event]) := by
  obtain ⟨served, written⟩ := received
  by_cases low : event.level ≤ service.minLevel
  · have taken : admitted service.minLevel [event] = [event] := by simp [admitted, low]
    obtain ⟨_, line⟩ := (service.sink.after events).accept_form event
    rw [taken]
    constructor
    · simp [Session.deliver, served, Service.log, Service.enabled, low, Sink.after]
    · simp [Session.deliver, served, Service.log, Service.enabled, low, written, line,
        Sink.form_after, Sink.linesOf]
  · have dropped : admitted service.minLevel [event] = [] := by simp [admitted, low]
    rw [dropped, List.append_nil]
    constructor
    · simp [Session.deliver, served, Service.log, Service.enabled, low]
    · simp [Session.deliver, served, Service.log, Service.enabled, low, written]

/-- Debug output is held back exactly if the level would not admit it. -/
theorem Received.debug (received : session.Received service lines events) (message : String)
    (context : List (String × String)) :
    (session.debug message context).Received service lines (events ++
      admitted service.minLevel [(Event.debug message).withContexts context]) := by
  by_cases low : Level.debug ≤ session.minLevel
  · rw [Session.debug, if_pos low]
    exact received.deliver _
  · have dropped : admitted service.minLevel [(Event.debug message).withContexts context] = [] := by
      rw [received.minLevel] at low
      have high : ¬ (Event.debug message).level ≤ service.minLevel := low
      simp [admitted, high]
    rw [Session.debug, if_neg low, dropped, List.append_nil]
    exact received

theorem Received.install (received : session.Received service lines events) (other : Service) :
    session.install other = .error .alreadyInstalled := by
  rw [Session.install, received.served]

theorem Received.installPreferences (received : session.Received service lines events)
    (preferences : LoggingPreferences) :
    session.installPreferences preferences = .error .alreadyInstalled := by
  rw [Session.installPreferences, received.install]
  rfl

/-- Once a service is installed, an attempt to install one is refused and changes nothing. -/
theorem Received.perform_again (received : session.Received service lines events) {call : Call}
    (again : call.service?.isSome) :
    session.perform call = (.installed (.error .alreadyInstalled), session) := by
  cases call with
  | setUp | setUpWith => rw [perform, received.installPreferences, attempt]
  | install => rw [perform, received.install, attempt]
  | dispatch | debug | reportError | minLevel | isInstalled => cases again

/-- One call when a service is installed. -/
theorem Received.perform (received : session.Received service lines events) (call : Call) :
    (session.perform call).1 = call.replyAfter service.minLevel ∧
      (session.perform call).2.Received service lines
        (events ++ admitted service.minLevel call.events) := by
  have nothing : session.Received service lines (events ++ admitted service.minLevel []) := by
    simpa [admitted] using received
  cases call with
  | setUp | setUpWith | install =>
    rw [received.perform_again rfl]
    exact ⟨rfl, nothing⟩
  | dispatch event context => exact ⟨rfl, received.deliver _⟩
  | debug message context => exact ⟨rfl, received.debug message context⟩
  | reportError code message =>
    refine ⟨rfl, ?_⟩
    simp only [Session.perform, Session.reportError, received.served]
    exact received.deliver _
  | minLevel => exact ⟨congrArg Reply.level received.minLevel, nothing⟩
  | isInstalled =>
    refine ⟨congrArg Reply.truth ?_, nothing⟩
    rw [Session.isInstalled, received.served]
    rfl

/-- All calls when a service is installed. -/
theorem Received.performAll (received : session.Received service lines events)
    (calls : List Call) :
    (session.performAll calls).1 = calls.map (Call.replyAfter service.minLevel) ∧
      (session.performAll calls).2.Received service lines
        (events ++ admitted service.minLevel (calls.flatMap Call.events)) := by
  induction calls generalizing session events with
  | nil => exact ⟨rfl, by simpa [admitted, Session.performAll] using received⟩
  | cons call rest ih =>
    obtain ⟨reply, next⟩ := received.perform call
    obtain ⟨replies, last⟩ := ih next
    rw [List.append_assoc, admitted, admitted, ← List.filter_append, ← List.flatMap_cons] at last
    exact ⟨by rw [performAll_cons, List.map_cons, reply, replies], last⟩

/-- One call that wants no service, when none is installed. -/
theorem Idle.perform (idle : session.Idle lines) {call : Call} (unasked : call.service? = none) :
    (session.perform call).1 = call.replyBefore ∧
      (session.perform call).2.Idle (lines ++ call.strayLines) := by
  obtain ⟨unserved, written⟩ := idle
  have level : session.minLevel = .floor := by simp [Session.minLevel, unserved]
  have same : session.Idle (lines ++ []) := ⟨unserved, by rw [written, List.append_nil]⟩
  cases call with
  | setUp | setUpWith | install => cases unasked
  | dispatch event context =>
    simp only [Session.perform, Session.dispatch, Session.deliver, unserved]
    exact ⟨rfl, same⟩
  | debug message context =>
    -- The floor holds debug output back before there is anyone to send it to.
    simp only [Session.perform, Session.debug, level]
    exact ⟨rfl, same⟩
  | reportError code message =>
    simp only [Session.perform, Session.reportError, unserved]
    exact ⟨rfl, rfl, by simp [written, Call.strayLines]⟩
  | minLevel => exact ⟨congrArg Reply.level level, same⟩
  | isInstalled => exact ⟨by simp [Session.perform, isInstalled, unserved, Call.replyBefore], same⟩

/-- All calls as long as none wants a service. -/
theorem Idle.performAll (idle : session.Idle lines) {calls : List Call}
    (unasked : ∀ call ∈ calls, call.service? = none) :
    (session.performAll calls).1 = calls.map Call.replyBefore ∧
      (session.performAll calls).2.Idle (lines ++ calls.flatMap Call.strayLines) := by
  induction calls generalizing session lines with
  | nil => exact ⟨rfl, by simpa [Session.performAll] using idle⟩
  | cons call rest ih =>
    obtain ⟨now, later⟩ := List.forall_mem_cons.mp unasked
    obtain ⟨reply, next⟩ := idle.perform now
    obtain ⟨replies, last⟩ := ih next later
    rw [List.append_assoc, ← List.flatMap_cons] at last
    exact ⟨by rw [performAll_cons, List.map_cons, reply, replies], last⟩

theorem Idle.install (idle : session.Idle lines) (service : Service) :
    ∃ next, session.install service = .ok next ∧ next.Received service lines [] := by
  refine ⟨{ session with service := some service }, ?_, rfl, ?_⟩
  · rw [Session.install, idle.unserved]
  · simp [Sink.linesOf, idle.written]

/-- A service that preferences asked for is told of itself. -/
theorem Idle.installPreferences (idle : session.Idle lines) (preferences : LoggingPreferences) :
    ∃ next, session.installPreferences preferences = .ok next ∧
      next.Received (.ofPreferences preferences) lines
        (admitted preferences.level [Call.announcement preferences]) := by
  obtain ⟨next, taken, received⟩ := idle.install (.ofPreferences preferences)
  refine ⟨next.deliver (Call.announcement preferences), ?_, received.deliver _⟩
  have level : next.minLevel = preferences.level := received.minLevel
  rw [Session.installPreferences, taken]
  simp only [bind, Except.bind, pure, Except.pure, level]
  rfl

theorem Received.of_attempt {result : Except InstallError Session}
    (installed : ∃ next, result = .ok next ∧ next.Received service lines events) :
    (session.attempt result).1 = .installed (.ok ()) ∧
      (session.attempt result).2.Received service lines events := by
  obtain ⟨next, rfl, received⟩ := installed
  exact ⟨rfl, received⟩

/-- The first call that wants a service has it installed, and only then greets it. -/
theorem Idle.perform_first (idle : session.Idle lines) {call : Call}
    (asked : call.service? = some service) :
    (session.perform call).1 = .installed (.ok ()) ∧
      (session.perform call).2.Received service lines
        (admitted service.minLevel call.greeting) := by
  cases call with
  | setUp environment =>
    cases asked
    exact Received.of_attempt (idle.installPreferences (.ofEnvironment environment))
  | setUpWith preferences =>
    cases asked
    exact Received.of_attempt (idle.installPreferences preferences)
  | install wanted =>
    cases asked
    exact Received.of_attempt (idle.install service)
  | dispatch | debug | reportError | minLevel | isInstalled => cases asked

/-- Whatever calls a process makes of its log, at most one service is ever installed. While no
call has wanted one, events go nowhere and reported errors are only written. The first call that
wants one is the only one to get it; it tells of the service if it wanted it for preferences and
the level admits that. From then on the sink takes exactly the events that the level admits, in
order, and no call changes the level or installs another service. -/
theorem performAll_installs_once (calls : List Call) :
    let replies := (({} : Session).performAll calls).1
    let last := (({} : Session).performAll calls).2
    ((∀ call ∈ calls, call.service? = none) ∧ replies = calls.map Call.replyBefore ∧
      last.Idle (calls.flatMap Call.strayLines)) ∨
    ∃ before first after service, calls = before ++ first :: after ∧
      (∀ call ∈ before, call.service? = none) ∧ first.service? = some service ∧
      replies = before.map Call.replyBefore ++
        .installed (.ok ()) :: after.map (Call.replyAfter service.minLevel) ∧
      last.Received service (before.flatMap Call.strayLines)
        (admitted service.minLevel first.greeting ++
          admitted service.minLevel (after.flatMap Call.events)) ∧
      (first.preferences? = none → admitted service.minLevel first.greeting = []) ∧
      (∀ preferences, first.preferences? = some preferences →
        (Call.announcement preferences).code.text = "I004" ∧
        admitted service.minLevel first.greeting =
          if .info ≤ service.minLevel then [Call.announcement preferences] else []) ∧
      ∀ call, call.service?.isSome →
        last.perform call = (.installed (.error .alreadyInstalled), last) := by
  intro replies last
  have fresh : ({} : Session).Idle [] := ⟨rfl, rfl⟩
  rcases Call.exists_first_asking calls with
    unasked | ⟨before, first, after, service, rfl, unasked, asked⟩
  · exact .inl ⟨unasked, fresh.performAll unasked⟩
  · obtain ⟨waited, idle⟩ := fresh.performAll unasked
    obtain ⟨installed, greeted⟩ := idle.perform_first asked
    obtain ⟨served, received⟩ := greeted.performAll after
    have ran : ({} : Session).performAll (before ++ first :: after) = (replies, last) := rfl
    rw [performAll_append, performAll_cons, waited, installed, served, Prod.mk.injEq] at ran
    obtain ⟨replied, ended⟩ := ran
    rw [ended] at received
    refine .inr ⟨before, first, after, service, rfl, unasked, asked, replied.symm, received,
      ?_, ?_, fun call again => received.perform_again again⟩
    · intro plain
      rw [Call.greeting, plain]
      rfl
    · intro preferences wanted
      exact ⟨by rw [Call.announcement, Event.code_withContexts]; rfl,
        Call.admitted_greeting wanted service.minLevel⟩

end Session

end SearchLex.Log
