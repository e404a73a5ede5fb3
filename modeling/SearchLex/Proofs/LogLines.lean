import SearchLex.Proofs.Deliveries
import SearchLex.Proofs.JsonText
import SearchLex.Text.Lines

/-! Lines of the log. As JSON every event is one line. As plain text an event repeats the query
and an illegal character as they are, so that it is one line exactly if they hold no line
feed. -/

namespace SearchLex

/-! ### Texts without a line feed -/

@[simp] theorem lineFeed_not_mem_int (number : Int) : '\n' ∉ number.repr.toList := by
  cases number with
  | ofNat count =>
    have digits : (Int.ofNat count).repr = toString count := rfl
    rw [digits]
    simp
  | negSucc count =>
    have signed : (Int.negSucc count).repr = "-" ++ toString (count + 1) := rfl
    rw [signed]
    simp

@[simp] theorem lineFeed_not_mem_bool (value : Bool) : '\n' ∉ (toString value).toList := by
  cases value <;> decide

@[simp] theorem Fallback.lineFeed_not_mem_name (fallback : Fallback) :
    '\n' ∉ fallback.name.toList := by
  cases fallback <;> decide

@[simp] theorem Position.lineFeed_not_mem_text (position : Position) :
    '\n' ∉ position.text.toList := by
  simp [Position.text]

/-- Texts joined by commas hold a line feed exactly if one of them does. -/
theorem lineFeed_mem_intercalate (pieces : List String) :
    '\n' ∈ (", ".intercalate pieces).toList ↔ ∃ piece ∈ pieces, '\n' ∈ piece.toList := by
  rw [String.toList_intercalate]
  induction pieces with
  | nil => simp
  | cons first rest ih =>
    cases rest with
    | nil => simp
    | cons second more =>
      rw [List.map_cons, List.map_cons, List.intercalate_cons_cons, ← List.map_cons,
        List.mem_append, List.mem_append, ih]
      simp

/-- The same of texts in parentheses, which are left out when there is none. -/
theorem lineFeed_mem_parenthesized (pieces : List String) :
    '\n' ∈ (if pieces.isEmpty then "" else " (" ++ ", ".intercalate pieces ++ ")").toList ↔
      ∃ piece ∈ pieces, '\n' ∈ piece.toList := by
  cases pieces with
  | nil => simp
  | cons first rest =>
    have opening : '\n' ∉ " (".toList := by decide
    have closing : '\n' ∉ ")".toList := by decide
    rw [List.isEmpty_cons, if_neg Bool.false_ne_true, String.toList_append, String.toList_append,
      List.mem_append, List.mem_append, lineFeed_mem_intercalate, or_iff_left closing,
      or_iff_right opening]

namespace Log

namespace Event

/-! ### Events as JSON -/

theorem portable_fields (event : Event) : ∀ field ∈ event.fields, field.2.Portable := by
  intro field member
  rw [fields, List.mem_append, List.mem_append] at member
  rcases member with (named | place) | context
  · simp only [List.mem_cons, List.not_mem_nil, or_false] at named
    rcases named with rfl | rfl | rfl
    · exact .text _
    · exact .text _
    · exact .text _
  · obtain ⟨datum, held, rfl⟩ := Datum.of_mem_optional place
    obtain ⟨span, _, rfl⟩ := Option.map_eq_some_iff.mp held
    exact span.portable_datum
  · obtain ⟨datum, held, rfl⟩ := Datum.of_mem_optional context
    split at held
    · cases held
    · cases held
      apply Datum.Portable.record
      intro entry own
      obtain ⟨⟨key, value⟩, _, rfl⟩ := List.mem_map.mp own
      exact .text value

theorem lineFeed_not_mem_structured (event : Event) (timestamp : String) :
    '\n' ∉ (event.structured timestamp).toList := by
  apply Json.lineFeed_not_mem_line
  apply Datum.Portable.record
  intro field member
  rcases List.mem_cons.mp member with rfl | own
  · exact .text timestamp
  · exact event.portable_fields field own

/-! ### Events as plain text -/

/-- A character stands in what an event was given: its message or its context. -/
def Says (event : Event) (ch : Char) : Prop :=
  ch ∈ event.message.toList ∨
    ∃ pair ∈ event.context, ch ∈ pair.1.toList ∨ ch ∈ pair.2.toList

/-- An event without a context before says its message and the context it is given. -/
theorem says_withContexts {event : Event} {pairs : List (String × String)}
    (empty : event.context = []) (distinct : pairs.Pairwise fun left right => left.1 ≠ right.1)
    (ch : Char) :
    (event.withContexts pairs).Says ch ↔ ch ∈ event.message.toList ∨
      ∃ pair ∈ pairs, ch ∈ pair.1.toList ∨ ch ∈ pair.2.toList := by
  have member := @mem_withContexts event pairs (by simp [empty]) distinct
  simp only [Says, message_withContexts, member, empty, List.not_mem_nil, false_or]

/-- A line feed in the text of an event was given to it. -/
theorem lineFeed_mem_plain {event : Event} (clean : '\n' ∉ event.code.text.toList) :
    '\n' ∈ event.plain.toList ↔ event.Says '\n' := by
  have level : '\n' ∉ event.level.name.toList := by cases event.level <;> decide
  simp only [plain, Says, String.toList_append, List.mem_append, lineFeed_mem_parenthesized]
  cases event.span <;> simp [level, clean]

end Event

end Log

namespace Tokenizer

open Log

/-! ### The events of a call -/

/-- The message of a failure holds a line feed exactly if that is the illegal character. -/
theorem lineFeed_mem_message (failure : Failure) :
    '\n' ∈ (Event.cut Limits.logMessageLength failure.message).toList ↔
      ∃ place, failure = .illegalCharacter '\n' place := by
  have short {text : String} (clean : '\n' ∉ text.toList) (length : Nat) :
      '\n' ∉ (Event.cut length text).toList := by
    rw [Event.cut, String.toList_ofList]
    exact fun feed => clean (List.mem_of_mem_take feed)
  cases failure with
  | illegalCharacter ch place =>
    have written : (Failure.illegalCharacter ch place).message.toList =
        "Illegal character '".toList ++ ch :: ("' at " ++ place.text).toList := by
      unfold Failure.message
      simp
    -- The character stands at the twentieth place, long before the message is cut.
    have kept : (Event.cut Limits.logMessageLength
        (Failure.illegalCharacter ch place).message).toList = "Illegal character '".toList ++
          ch :: (("' at " ++ place.text).toList.take 2028) := by
      rw [Event.cut, String.toList_ofList, written]
      rfl
    have after : '\n' ∉ (("' at " ++ place.text).toList.take 2028) :=
      fun feed => absurd (List.mem_of_mem_take feed) (by simp)
    have before : '\n' ∉ "Illegal character '".toList := by decide
    rw [kept, List.mem_append, List.mem_cons]
    simp only [before, after, false_or, or_false, Failure.illegalCharacter.injEq,
      exists_and_left, exists_eq', and_true]
    exact eq_comm
  | unterminatedPhrase start =>
    exact iff_of_false (short (by unfold Failure.message; simp) _) (by simp)
  | queryTooLong length =>
    exact iff_of_false (short (by unfold Failure.message; simp) _) (by simp)
  | tooManyTokens count =>
    exact iff_of_false (short (by unfold Failure.message; simp) _) (by simp)

theorem says_opening {preferences : SearchPreferences} {query : String} {level : Level}
    {event : Event} (opening : event ∈ openingEvents preferences query level) :
    event.Says '\n' ↔ '\n' ∈ (loggable query).toList := by
  have message : '\n' ∉ (Event.debug "Starting $search tokenization").message.toList := by decide
  rw [openingEvents] at opening
  split at opening
  · rw [List.mem_singleton.mp opening, Event.says_withContexts rfl (by simp [startContext])]
    simp [startContext, message]
  · cases opening

/-- The event of a success repeats the query only. -/
theorem says_summary (query : String) (counts : Counts) :
    ((Event.success .tokenized "Tokenization completed successfully").withContexts
      (summaryContext query counts)).Says '\n' ↔ '\n' ∈ (loggable query).toList := by
  have message : '\n' ∉
      (Event.success .tokenized "Tokenization completed successfully").message.toList := by decide
  rw [Event.says_withContexts rfl (by simp [summaryContext])]
  simp [summaryContext, message]

/-- The event of a failure that says no place repeats the query only. -/
theorem says_bare (query : String) (failure : Failure) :
    (bareEvent query failure).Says '\n' ↔ '\n' ∈ (loggable query).toList := by
  have message : '\n' ∉ (Event.error (.ofFailure failure) "Tokenization failed").message.toList :=
    (by decide : '\n' ∉ (Event.cut Limits.logMessageLength "Tokenization failed").toList)
  rw [bareEvent, Event.says_withContexts rfl (by simp)]
  simp [message]

/-- The event of a failure that says its place repeats its message too. -/
theorem says_placed (query : String) (failure : Failure) (place : Span) :
    (placedEvent query failure place).Says '\n' ↔
      '\n' ∈ (Event.cut Limits.logMessageLength failure.message).toList ∨
        '\n' ∈ (loggable query).toList := by
  rw [placedEvent, Event.says_withContexts rfl (by simp)]
  simp [Event.withSpan, Event.error, Event.make]

/-- The event of a failure repeats the query, and with positions also the failure's message. -/
theorem says_failure {preferences : SearchPreferences} {query : String} {failure : Failure}
    {event : Event} (made : failureEvent preferences query failure = .ok event) :
    event.Says '\n' ↔ '\n' ∈ (loggable query).toList ∨
      preferences.includePositions = true ∧ ∃ place, failure = .illegalCharacter '\n' place := by
  rcases failureEvent_cases made with ⟨place, _, wanted, rfl⟩ | ⟨span, pointed, placeless, rfl⟩
  · rw [says_placed, lineFeed_mem_message, or_comm, wanted]
    simp
  · have untold : ¬ (preferences.includePositions = true ∧
        ∃ place, failure = .illegalCharacter '\n' place) := by
      rintro ⟨wanted, place, rfl⟩
      rw [placeless wanted] at pointed
      unfold Failure.span at pointed
      cases single : Span.single place '\n' <;>
        simp [single, Functor.map, Except.map] at pointed
    rw [says_bare, or_iff_left untold]

theorem says_closing {preferences : SearchPreferences} {query : String}
    {result : Except Failure Stream} {events : List Event} {event : Event}
    (closing : closingEvents preferences query result = .ok events) (member : event ∈ events) :
    event.Says '\n' ↔ '\n' ∈ (loggable query).toList ∨
      preferences.includePositions = true ∧
        ∃ place, result = .error (.illegalCharacter '\n' place) := by
  cases result with
  | ok stream =>
    cases closing
    split at member
    · rw [List.mem_singleton.mp member, says_summary]
      simp
    · cases member
  | error failure =>
    obtain ⟨made, composed, rfl⟩ := failureEvent_of_closingEvents closing
    rw [List.mem_singleton.mp member, says_failure composed]
    simp

theorem clean_code_opening {preferences : SearchPreferences} {query : String} {level : Level}
    {event : Event} (opening : event ∈ openingEvents preferences query level) :
    '\n' ∉ event.code.text.toList := by
  rw [openingEvents] at opening
  split at opening
  · rw [List.mem_singleton.mp opening, Event.code_withContexts]
    decide
  · cases opening

theorem clean_code_closing {preferences : SearchPreferences} {query : String}
    {result : Except Failure Stream} {events : List Event} {event : Event}
    (closing : closingEvents preferences query result = .ok events) (member : event ∈ events) :
    '\n' ∉ event.code.text.toList := by
  cases result with
  | ok stream =>
    cases closing
    split at member
    · rw [List.mem_singleton.mp member, Event.code_withContexts]
      decide
    · cases member
  | error failure =>
    obtain ⟨made, composed, rfl⟩ := failureEvent_of_closingEvents closing
    rw [List.mem_singleton.mp member, (failureEvent_error composed).2]
    cases failure with
    | illegalCharacter => exact (by decide : '\n' ∉ Code.illegalCharacter.text.toList)
    | unterminatedPhrase => exact (by decide : '\n' ∉ Code.unterminatedPhrase.text.toList)
    | queryTooLong => exact (by decide : '\n' ∉ Code.queryTooLong.text.toList)
    | tooManyTokens => exact (by decide : '\n' ∉ Code.tooManyTokens.text.toList)

/-- A console makes a line of every event that its level admits. -/
theorem flatMap_shown (level : Level) (structured : Bool) (events : List Event) :
    events.flatMap (shown level (some structured)) =
      (events.filter fun event => event.level ≤ level).map (Line.ofEvent structured) := by
  induction events with
  | nil => rfl
  | cons event rest ih =>
    rw [List.flatMap_cons, ih]
    by_cases admitted : event.level ≤ level
    · simp [shown, admitted]
    · simp [shown, admitted]

/-- Each event of a call on a console is one line, except in plain form when a line feed is
in what it repeats of the query, or is the illegal character that it names. -/
theorem tokenize_log_lines {preferences : SearchPreferences} {query : String}
    {session later : Session} {result : Except Failure Stream} {level : Level}
    {structured : Bool} (console : session.service = some ⟨level, .console structured⟩)
    (answered : tokenize preferences query session = .ok (result, later)) :
    ∃ events : List Event,
      later.lines.toList = session.lines.toList ++ events.map (Line.ofEvent structured) ∧
      ∀ event ∈ events, ∀ timestamp,
        '\n' ∈ ((Line.ofEvent structured event).text timestamp).toList ↔
          structured = false ∧ ('\n' ∈ (loggable query).toList ∨
            event.isError = true ∧ preferences.includePositions = true ∧
              ∃ place, result = .error (.illegalCharacter '\n' place)) := by
  obtain ⟨closing, closes, delivered⟩ := deliveries_of_tokenize answered
  have logs : session.Logs level (some structured) := ⟨_, console, rfl⟩
  have added := (logs.deliverAll
    (openingEvents preferences query session.minLevel ++ closing)).2
  rw [← delivered, flatMap_shown] at added
  refine ⟨_, added, ?_⟩
  intro event member timestamp
  cases structured with
  | true =>
    exact iff_of_false (event.lineFeed_not_mem_structured timestamp) (by simp)
  | false =>
    have text : (Line.ofEvent false event).text timestamp = event.plain := rfl
    rw [text]
    rcases List.mem_append.mp (List.mem_of_mem_filter member) with opening | own
    · have harmless : event.isError = false := by
        rw [Event.isError, level_of_openingEvents opening]
        rfl
      rw [Event.lineFeed_mem_plain (clean_code_opening opening), says_opening opening]
      simp [harmless]
    · rw [Event.lineFeed_mem_plain (clean_code_closing closes own), says_closing closes own]
      cases result with
      | ok stream => simp
      | error failure =>
        obtain ⟨made, composed, rfl⟩ := failureEvent_of_closingEvents closes
        have error : event.isError = true := by
          rw [List.mem_singleton.mp own, Event.isError, (failureEvent_error composed).1]
          rfl
        simp [error]

theorem tokenize_log_lines_structured :
    ∃ (later : Session) (events : List Event),
      tokenize ⟨.feedThrough, true, true, false⟩ "x\n[ERROR] E999 - forged"
        ⟨some ⟨.warning, .console true⟩, #[]⟩ =
          .ok (.error (.illegalCharacter '\n' ⟨1, 1, 2⟩), later) ∧
      later.lines.toList = events.map (Line.ofEvent true) ∧
      ∀ event ∈ events, ∀ timestamp,
        '\n' ∉ ((Line.ofEvent true event).text timestamp).toList := by
  obtain ⟨events, added, each⟩ := @tokenize_log_lines ⟨.feedThrough, true, true, false⟩
    "x\n[ERROR] E999 - forged" ⟨some ⟨.warning, .console true⟩, #[]⟩ _ _ _ _ rfl rfl
  refine ⟨_, events, rfl, added, ?_⟩
  intro event member timestamp feed
  cases ((each event member timestamp).mp feed).1

/-- In plain form a query can write a line that looks like another event. -/
theorem plain_line_forged :
    ∃ later event, tokenize ⟨.feedThrough, true, true, false⟩ "x\n[ERROR] E999 - forged"
        ⟨some ⟨.warning, .console false⟩, #[]⟩ =
          .ok (.error (.illegalCharacter '\n' ⟨1, 1, 2⟩), later) ∧
      later.lines.toList = [.plain event] ∧
      Text.lines event.plain = ["[ERROR] E300 - Illegal character '",
        "' at 1:2 at 1:2 (column=2, line=1, query=x", "[ERROR] E999 - forged)"] :=
  ⟨_, _, rfl, rfl, rfl⟩

end Tokenizer

end SearchLex
