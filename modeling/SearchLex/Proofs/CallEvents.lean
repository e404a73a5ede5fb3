import SearchLex.Proofs.Fields
import SearchLex.Proofs.Installation
import SearchLex.Proofs.LimitedAnswer
import SearchLex.Proofs.Tallies
import Mathlib.Data.Nat.Digits.Defs

/-! What one call of the tokenizer leaves in the log. A service is sent the same events whatever
its sink is: that of the start for a log at level debug, and then that of the result, as far as
the level admits it. Neither a long query nor a long message makes an event long. -/

namespace SearchLex

namespace Log

/-! ### Context values under their names -/

/-- A context value is found under its name, and the others as before. -/
theorem Context.lookup_insert (context : Context) (key value name : String) :
    (context.insert key value).lookup name =
      if name = key then some value else context.lookup name := by
  induction context with
  | nil => exact Decode.lookup_cons name key value []
  | cons first rest ih =>
    obtain ⟨other, held⟩ := first
    rw [Context.insert]
    split
    · exact Decode.lookup_cons name key value _
    · split
      · rename_i own
        rw [Decode.lookup_cons, Decode.lookup_cons, ← own]
        split <;> rfl
      · rename_i different
        rw [Decode.lookup_cons, Decode.lookup_cons, ih]
        split
        · rename_i same
          rw [if_neg (same ▸ Ne.symm different)]
        · rfl

/-- A name has the value it was given last. -/
theorem Event.lookup_withContexts (event : Event) (pairs : List (String × String))
    (name : String) :
    (event.withContexts pairs).context.lookup name =
      (pairs.reverse.lookup name).or (event.context.lookup name) := by
  induction pairs generalizing event with
  | nil => rfl
  | cons pair rest ih =>
    obtain ⟨key, value⟩ := pair
    rw [List.reverse_cons, List.lookup_append, Decode.lookup_cons, List.lookup_nil, Option.or_assoc]
    refine (ih (event.withContext key value)).trans ?_
    rw [Event.withContext, Context.lookup_insert]
    split <;> rfl

/-! ### Texts that are cut -/

theorem Event.length_cut_le (length : Nat) (text : String) : (cut length text).length ≤ length := by
  rw [cut, String.length_ofList]
  exact List.length_take_le ..

theorem Event.cut_of_length_le {length : Nat} {text : String} (short : text.length ≤ length) :
    cut length text = text := by
  rw [cut, List.take_of_length_le (by rwa [String.length_toList]), String.ofList_toList]

theorem Event.cut_append {length : Nat} {start : String} (whole : start.length = length)
    (rest : String) : cut length (start ++ rest) = start := by
  subst whole
  rw [cut, String.toList_append, ← String.length_toList, List.take_left, String.ofList_toList]

/-! ### Events of a call -/

/-- An event that repeats a query: in full, or its start and three dots. -/
structure Event.Repeats (event : Event) (query : String) : Prop where
  message : event.message.length ≤ Limits.logMessageLength
  whole : query.length ≤ Limits.loggedQueryLength → event.context.lookup "query" = some query
  start : ∀ start rest : String, query = start ++ rest →
    start.length = Limits.loggedQueryLength → rest ≠ "" →
    event.context.lookup "query" = some (start ++ "...")

/-- The event of a success, with the numbers of tokens by category. -/
structure Event.Summarizes (event : Event) (tokens : List PlacedToken) : Prop where
  level : event.level = .info
  code : event.code.text = "I300"
  total : event.context.lookup "token_count" = some (toString tokens.length)
  words : event.context.lookup "words" =
    some (toString (tokens.countP (·.value.kind == .word)))
  phrases : event.context.lookup "phrases" =
    some (toString (tokens.countP (·.value.kind == .phrase)))
  operators : event.context.lookup "operators" =
    some (toString (tokens.countP (·.value.isExplicitOperator)))
  implicitAnds : event.context.lookup "implicit_ands" =
    some (toString (tokens.countP (·.value.isImplicitAnd)))
  balance : event.context.lookup "paren_balance" =
    some (toString ((tokens.countP (·.value.kind == .opening) : Int) -
      tokens.countP (·.value.kind == .closing)))

/-- The event of a failure that is told to lie at a place, or nowhere. -/
structure Event.Reports (event : Event) (failure : Failure) (place : Option Span) : Prop where
  level : event.level = .error
  code : event.code = .ofFailure failure
  span : event.span = place
  message : event.message = failure.message ↔ place.isSome = true
  line : event.context.lookup "line" = place.map fun span => toString span.start.line.toNat
  column : event.context.lookup "column" = place.map fun span => toString span.start.column.toNat

/-- One event with a property if a condition holds, and otherwise none. -/
def Event.Single (condition : Prop) (describes : Event → Prop) (events : List Event) : Prop :=
  (condition → ∃ event, events = [event] ∧ describes event) ∧ (¬ condition → events = [])

/-- An event that is built under a condition comes through if its level does too. -/
theorem Event.single_admitted {condition : Prop} [Decidable condition]
    {describes : Event → Prop} {event : Event} {own : Level} (told : event.level = own)
    (described : describes event) (level : Level) :
    Single (condition ∧ own ≤ level) describes
      (admitted level (if condition then [event] else [])) := by
  subst told
  constructor
  · rintro ⟨holds, low⟩
    exact ⟨event, by simp [admitted, holds, low], described⟩
  · intro missing
    by_cases holds : condition
    · have high : ¬ event.level ≤ level := fun low => missing ⟨holds, low⟩
      simp [admitted, holds, high]
    · simp [admitted, holds]

theorem Session.Received.deliverAll {session : Session} {service : Service} {lines : List Line}
    {events : List Event} (received : session.Received service lines events)
    (further : List Event) :
    (session.deliverAll further).Received service lines
      (events ++ admitted service.minLevel further) := by
  induction further generalizing session events with
  | nil => simpa [admitted, Session.deliverAll] using received
  | cons event rest ih =>
    have last := ih (received.deliver event)
    rw [List.append_assoc, admitted, admitted, ← List.filter_append, List.singleton_append] at last
    exact last

end Log

/-! ### Messages of failures -/

theorem Position.length_text_le (position : Position) : position.text.length ≤ 21 := by
  have digits (number : UInt32) : (toString number.toNat).length ≤ 10 := by
    apply Nat.repr_length number.toNat 10 (by decide)
    exact Nat.lt_trans number.toNat_lt (by decide)
  have line := digits position.line
  have column := digits position.column
  rw [text, String.length_append, String.length_append]
  change _ + 1 + _ ≤ 21
  omega

namespace Failure

/-- A failure that points into the query has a short message. -/
theorem length_message_le {failure : Failure} {place : Span}
    (pointed : failure.span = .ok (some place)) :
    failure.message.length ≤ Limits.logMessageLength := by
  cases failure with
  | illegalCharacter ch position =>
    have short := position.length_text_le
    unfold message
    rw [String.length_append, String.length_append, String.length_append, String.length_singleton]
    change 19 + 1 + 5 + _ ≤ 2048
    omega
  | unterminatedPhrase start =>
    have short := start.length_text_le
    unfold message
    rw [String.length_append]
    change 32 + _ ≤ 2048
    omega
  | queryTooLong | tooManyTokens => cases pointed

/-- No failure has the message of an event that tells no place. -/
theorem message_ne (failure : Failure) : failure.message ≠ "Tokenization failed" := by
  intro same
  have start := congrArg (fun text : String => text.toList.take 3) same
  cases failure with
  | illegalCharacter | unterminatedPhrase | queryTooLong | tooManyTokens =>
    unfold message at start
    simp only [String.toList_append, List.append_assoc] at start
    cases start

end Failure

namespace Tokenizer

open Log

variable {preferences : SearchPreferences} {query : String}

theorem loggable_of_length_le (short : query.length ≤ Limits.loggedQueryLength) :
    loggable query = query := by
  rw [loggable, if_neg (Nat.not_lt.mpr short)]

theorem loggable_append {start rest : String} (whole : start.length = Limits.loggedQueryLength)
    (more : rest ≠ "") : loggable (start ++ rest) = start ++ "..." := by
  have long : Limits.loggedQueryLength < (start ++ rest).length := by
    have positive : 0 < rest.length := Nat.pos_of_ne_zero fun empty => more (by simpa using empty)
    rw [String.length_append, whole]
    omega
  rw [loggable, if_pos long, Event.cut_append whole]

/-- An event that is given the query, and further values under other names, repeats it. -/
theorem repeats_withContexts {event : Event} {others : List (String × String)}
    (short : event.message.length ≤ Limits.logMessageLength)
    (apart : others.reverse.lookup "query" = none) :
    (event.withContexts (("query", loggable query) :: others)).Repeats query := by
  have found : (event.withContexts (("query", loggable query) :: others)).context.lookup "query" =
      some (loggable query) := by
    rw [Event.lookup_withContexts, List.reverse_cons, List.lookup_append, apart,
      List.lookup_cons_self]
    rfl
  constructor
  case message => rwa [Event.message_withContexts]
  case whole =>
    intro fits
    rw [found, loggable_of_length_le fits]
  case start =>
    rintro start rest rfl whole more
    rw [found, loggable_append whole more]

theorem repeats_of_openingEvents {level : Level} {event : Event}
    (opening : event ∈ openingEvents preferences query level) : event.Repeats query := by
  rw [openingEvents] at opening
  split at opening
  · rw [List.mem_singleton.mp opening]
    exact repeats_withContexts (Event.length_cut_le ..) rfl
  · cases opening

theorem single_openingEvents (preferences : SearchPreferences) (query : String) (level : Level) :
    Event.Single (level = .debug) (fun event => event.level = .debug ∧ event.code.text = "D000")
      (admitted level (openingEvents preferences query level)) := by
  have debug : (Level.debug ≤ level ∧ Level.debug ≤ level) = (level = .debug) := by
    cases level <;> decide
  rw [openingEvents, ← debug]
  refine Event.single_admitted ?_ ?_ level
  · exact Event.level_withContexts ..
  · rw [Event.level_withContexts, Event.code_withContexts]
    exact ⟨rfl, rfl⟩

/-- The summary of a stream tells how many tokens of each category it has. -/
theorem summarizes_counts (query : String) (stream : Stream) :
    ((Event.success .tokenized "Tokenization completed successfully").withContexts
      (summaryContext query stream.counts)).Summarizes stream.tokens := by
  have tallies := Counts.tallies_ofTokens stream.tokens
  have found (name : String) := Event.lookup_withContexts
    (.success .tokenized "Tokenization completed successfully")
    (summaryContext query stream.counts) name
  constructor
  case level => exact Event.level_withContexts ..
  case code => rw [Event.code_withContexts]; rfl
  case total => rw [found, ← tallies.total]; rfl
  case words => rw [found, ← tallies.words]; rfl
  case phrases => rw [found, ← tallies.phrases]; rfl
  case operators => rw [found, ← tallies.explicitOperators]; rfl
  case implicitAnds => rw [found, ← tallies.implicitAnds]; rfl
  case balance => rw [found, ← tallies.openings, ← tallies.closings]; rfl

theorem reports_bare (query : String) (failure : Failure) :
    (bareEvent query failure).Reports failure none := by
  constructor
  case level => exact Event.level_withContexts ..
  case code => exact Event.code_withContexts ..
  case span => rfl
  case message =>
    rw [bareEvent, Event.message_withContexts]
    exact iff_of_false (Ne.symm failure.message_ne) (by simp)
  case line | column => rw [bareEvent, Event.lookup_withContexts]; rfl

theorem reports_placed (query : String) {failure : Failure} {place : Span}
    (pointed : failure.span = .ok (some place)) :
    (placedEvent query failure place).Reports failure (some place) := by
  constructor
  case level => exact Event.level_withContexts ..
  case code => exact Event.code_withContexts ..
  case span => rfl
  case message =>
    rw [placedEvent, Event.message_withContexts]
    exact iff_of_true (Event.cut_of_length_le (Failure.length_message_le pointed)) rfl
  case line | column => rw [placedEvent, Event.lookup_withContexts]; rfl

/-- The event of a failure tells its place exactly if there is one and it is wanted. -/
theorem reports_of_failureEvent {failure : Failure} {event : Event}
    (made : failureEvent preferences query failure = .ok event) :
    ∃ span, failure.span = .ok span ∧
      event.Reports failure (if preferences.includePositions then span else none) := by
  rcases failureEvent_cases made with
    ⟨place, pointed, wanted, rfl⟩ | ⟨span, pointed, placeless, rfl⟩
  · refine ⟨some place, pointed, ?_⟩
    rw [if_pos wanted]
    exact reports_placed query pointed
  · refine ⟨span, pointed, ?_⟩
    have nowhere : (if preferences.includePositions then span else none) = none :=
      ite_eq_right_iff.mpr placeless
    rw [nowhere]
    exact reports_bare query failure

theorem repeats_of_failureEvent {failure : Failure} {event : Event}
    (made : failureEvent preferences query failure = .ok event) : event.Repeats query := by
  rcases failureEvent_cases made with ⟨place, _, _, rfl⟩ | ⟨span, _, _, rfl⟩
  · exact repeats_withContexts (Event.length_cut_le ..) rfl
  · exact repeats_withContexts (Event.length_cut_le ..) rfl

theorem repeats_of_closingEvents {result : Except Failure Stream} {events : List Event}
    {event : Event} (closing : closingEvents preferences query result = .ok events)
    (member : event ∈ events) : event.Repeats query := by
  cases result with
  | ok stream =>
    cases closing
    split at member
    · rw [List.mem_singleton.mp member]
      exact repeats_withContexts (Event.length_cut_le ..) rfl
    · cases member
  | error failure =>
    obtain ⟨made, composed, rfl⟩ := failureEvent_of_closingEvents closing
    rw [List.mem_singleton.mp member]
    exact repeats_of_failureEvent composed

/-- The events of a call come in the same order whatever the sink of the log is. A log at level
debug is told of the start. A success is told to a log that admits information if summaries are
wanted, with the numbers of tokens in the stream. A failure is told to every log, and with its
place if it has one and positions are wanted. No event is long: a message is cut, and of a long
query only the start is repeated. -/
theorem tokenize_delivers
    (fits : preferences.enforceLimits = true ∨ query.length ≤ UInt32.size - 2) (level : Level) :
    ∃ (result : Except Failure Stream) (opening closing : List Event),
      (∀ (session : Session) (sink : Sink), session.service = some ⟨level, sink⟩ →
        ∃ later, tokenize preferences query session = .ok (result, later) ∧
          later.Received ⟨level, sink⟩ session.lines.toList (opening ++ closing)) ∧
      Event.Single (level = .debug)
        (fun event => event.level = .debug ∧ event.code.text = "D000") opening ∧
      (∀ stream, result = .ok stream →
        Event.Single (preferences.logSummary = true ∧ .info ≤ level)
          (·.Summarizes stream.tokens) closing) ∧
      (∀ failure, result = .error failure → ∃ span event, failure.span = .ok span ∧
        closing = [event] ∧
        event.Reports failure (if preferences.includePositions then span else none)) ∧
      ∀ event ∈ opening ++ closing, event.Repeats query := by
  obtain ⟨result, answers⟩ := exists_answer fits
  -- The events are those of the result, so that any session may be asked for them.
  obtain ⟨_, anywhere⟩ := answers {}
  obtain ⟨events, closed, _⟩ := deliveries_of_tokenize anywhere
  refine ⟨result, admitted level (openingEvents preferences query level), admitted level events,
    ?_, single_openingEvents preferences query level, ?_, ?_, ?_⟩
  · intro session sink served
    obtain ⟨later, answered⟩ := answers session
    refine ⟨later, answered, ?_⟩
    have begun : session.Received ⟨level, sink⟩ session.lines.toList [] :=
      ⟨served, (List.append_nil _).symm⟩
    obtain ⟨_, again, rfl⟩ := deliveries_of_tokenize answered
    rw [closed] at again
    cases again
    have received := begun.deliverAll (openingEvents preferences query level ++ events)
    rw [begun.minLevel]
    rwa [admitted, List.filter_append] at received
  · rintro stream rfl
    cases closed
    refine Event.single_admitted ?_ (summarizes_counts query stream) level
    exact Event.level_withContexts ..
  · rintro failure rfl
    obtain ⟨event, made, rfl⟩ := failureEvent_of_closingEvents closed
    obtain ⟨span, pointed, reports⟩ := reports_of_failureEvent made
    have low : event.level ≤ level := reports.level ▸ Nat.zero_le _
    exact ⟨span, event, pointed, by simp [admitted, low], reports⟩
  · intro event member
    rcases List.mem_append.mp member with opening | closing
    · exact repeats_of_openingEvents (List.mem_filter.mp opening).1
    · exact repeats_of_closingEvents closed (List.mem_filter.mp closing).1

theorem tokenize_delivers_refused :
    ∃ later event, tokenize ⟨.feedThrough, false, true, true⟩ "a &"
        ⟨some ⟨.error, .console false⟩, #[]⟩ =
        .ok (.error (.illegalCharacter '&' ⟨2, 1, 3⟩), later) ∧
      later.lines.toList = [.plain event] ∧
      event.Reports (.illegalCharacter '&' ⟨2, 1, 3⟩) (some ⟨⟨2, 1, 3⟩, ⟨3, 1, 4⟩⟩) ∧
      event.Repeats "a &" := by
  obtain ⟨result, opening, closing, delivered, opens, _, fails, repeats⟩ :=
    @tokenize_delivers ⟨.feedThrough, false, true, true⟩ "a &" (.inr (by decide)) .error
  obtain ⟨later, answered, received⟩ :=
    delivered ⟨some ⟨.error, .console false⟩, #[]⟩ (.console false) rfl
  have refused : result = .error (.illegalCharacter '&' ⟨2, 1, 3⟩) := by
    cases answered
    rfl
  subst refused
  obtain ⟨span, event, pointed, rfl, reports⟩ := fails _ rfl
  cases pointed
  have silent : opening = [] := opens.2 (by decide)
  subst silent
  exact ⟨later, event, answered, received.written, reports, repeats event List.mem_cons_self⟩

end Tokenizer

end SearchLex
