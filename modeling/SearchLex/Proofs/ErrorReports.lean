import SearchLex.Proofs.CommandRun
import SearchLex.Proofs.LogLines

/-! Error reports of the command. In text format each failed query is told once on standard
error: by its event when the log goes to the console, and otherwise by a report. What standard
error holds is said as text: the lines of the log event by event, and a report row by row. -/

namespace SearchLex

namespace Diagnostic

theorem width_pos (source : String) (span : Span) : 0 < width source span :=
  Nat.lt_of_lt_of_le Nat.zero_lt_one (Nat.le_max_left _ _)

/-- What stands between the message of a diagnostic and its marker: the place, the line of
the query, and the blanks under it. -/
def above (source : String) (span : Span) : String :=
  let number := toString span.start.line.toNat
  let gutter := repeated number.length ' '
  "  --> " ++ span.start.text ++ "\n" ++ gutter ++ " |" ++ "\n" ++ number ++ " | " ++
    sourceLine source span ++ "\n" ++ gutter ++ " | " ++ repeated (indent span) ' '

theorem render_eq (source : String) (span : Span) (message : String) :
    render source span message =
      "error: " ++ message ++ "\n" ++ above source span ++ repeated (width source span) '^' ++
        "\n" := by
  unfold render rows above
  simp only [List.map_cons, List.map_nil, String.join_cons, String.join_nil, String.append_empty]
  simp only [String.append_assoc]

end Diagnostic

namespace Command

open Log Tokenizer

/-! ### The streams of a share -/

namespace Share

def stdout (share : Share) : String := String.join (share.output.map (· ++ "\n"))

def stderr (share : Share) (timestamp : String) : String :=
  String.join (share.notices.map (·.text timestamp))

/-- Joining the pieces of all parts joins what each part's own pieces join to. -/
theorem join_map_flatMap {α β : Type} (parts : List α) (pieces : α → List β)
    (text : β → String) :
    String.join ((parts.flatMap pieces).map text) =
      String.join (parts.map fun part => String.join ((pieces part).map text)) := by
  induction parts with
  | nil => rfl
  | cons part rest ih =>
    rw [List.flatMap_cons, List.map_append, String.join_append, ih, List.map_cons,
      String.join_cons]

end Share

/-! ### Lines of the log -/

/-- What an event of a level looks like on the console. In plain form its code, its message,
its place and its context follow the level; as JSON it is an object on a line of its own. -/
inductive EventText (level : String) (event : Event) : Bool → String → Prop where
  | plain {place context : String}
      (placed : place = (event.span.map fun span => " at " ++ span.start.text).getD "")
      (detailed : context = if event.context = [] then "" else
        " (" ++ ", ".intercalate (event.context.map fun pair => pair.1 ++ "=" ++ pair.2) ++ ")") :
      EventText level event false
        ("[" ++ level ++ "] " ++ event.code.text ++ " - " ++ event.message ++ place ++ context)
  | structured {text : String} {datum : Datum} (single : '\n' ∉ text.toList)
      (read : Json.read text = some datum)
      (severity : datum.field? "level" = some (.text level))
      (code : datum.field? "code" = some (.text event.code.text))
      (message : datum.field? "message" = some (.text event.message)) :
      EventText level event true text

theorem eventText_plain (event : Event) : EventText event.level.name event false event.plain := by
  have written : event.plain =
      "[" ++ event.level.name ++ "] " ++ event.code.text ++ " - " ++ event.message ++
        (event.span.map fun span => " at " ++ span.start.text).getD "" ++
        if event.context = [] then "" else
          " (" ++ ", ".intercalate (event.context.map fun pair => pair.1 ++ "=" ++ pair.2) ++
            ")" := by
    unfold Event.plain
    cases event.span <;> simp
  rw [written]
  exact .plain rfl rfl

/-- Under any name but those of the place and the context the first fields are found. -/
theorem lookup_fields (event : Event) {name : String} (place : name ≠ "span")
    (context : name ≠ "context") :
    event.fields.reverse.lookup name = [("message", Datum.text event.message),
      ("code", .text event.code.text), ("level", .text event.level.name)].lookup name := by
  have absent {other : String} (apart : name ≠ other) (value : Option Datum) :
      (Datum.optional other value).reverse.lookup name = none := by
    cases value <;> simp [Datum.optional, List.lookup_cons, beq_false_of_ne apart]
  rw [Event.fields, List.reverse_append, List.reverse_append, List.lookup_append,
    List.lookup_append, absent place, absent context, Option.none_or, Option.none_or]
  rfl

theorem eventText_structured (event : Event) (timestamp : String) :
    EventText event.level.name event true (event.structured timestamp) := by
  have portable : Datum.Portable (.record (("timestamp", .text timestamp) :: event.fields)) := by
    apply Datum.Portable.record
    exact List.forall_mem_cons.mpr ⟨.text timestamp, event.portable_fields⟩
  refine .structured (event.lineFeed_not_mem_structured timestamp) (Json.read_line portable)
    ?_ ?_ ?_
  all_goals
    rw [Json.field?_sorted, List.reverse_cons, List.lookup_append,
      lookup_fields event (by decide) (by decide)]
    simp [List.lookup_cons]

theorem eventText_ofEvent (structured : Bool) (event : Event) (timestamp : String) :
    EventText event.level.name event structured
      ((Line.ofEvent structured event).text timestamp) := by
  cases structured with
  | false => exact eventText_plain event
  | true => exact eventText_structured event timestamp

/-- A line on the console is that of an event. -/
theorem mem_lines {preferences : LoggingPreferences} {events : List Event} {line : Line}
    (put : line ∈ events.flatMap preferences.lines) :
    preferences.console = true ∧
      ∃ event ∈ events, line = .ofEvent preferences.structured event := by
  obtain ⟨event, sent, own⟩ := List.mem_flatMap.mp put
  cases console : preferences.console with
  | false =>
    rw [LoggingPreferences.lines_silent console] at own
    cases own
  | true =>
    rw [LoggingPreferences.lines, shown, LoggingPreferences.form, if_pos console] at own
    split at own
    · exact ⟨rfl, event, sent, List.mem_singleton.mp own⟩
    · cases own

/-! ### What tells no error -/

/-- What a run says of itself while all is well. -/
def announcements : List String :=
  ["Global logging initialized", "Tokenizing $search queries", "Starting $search tokenization",
    "Tokenization completed successfully"]

/-- An event that tells no error. -/
structure Announces (event : Event) : Prop where
  harmless : event.level ≠ .error
  message : event.message ∈ announcements

theorem Announces.withContexts {event : Event} (announces : Announces event)
    (pairs : List (String × String)) : Announces (event.withContexts pairs) where
  harmless := by
    rw [Event.level_withContexts]
    exact announces.harmless
  message := by
    rw [Event.message_withContexts]
    exact announces.message

theorem announces_setupEvents {configuration : Configuration} {count : Nat} {event : Event}
    (sent : event ∈ setupEvents configuration count) : Announces event := by
  simp only [setupEvents, List.mem_cons, List.not_mem_nil, or_false] at sent
  rcases sent with rfl | rfl
  · exact Announces.withContexts ⟨Level.noConfusion, by decide⟩ _
  · exact Announces.withContexts ⟨Level.noConfusion, by decide⟩ _

theorem announces_openingEvents {preferences : SearchPreferences} {query : String} {level : Level}
    {event : Event} (opening : event ∈ openingEvents preferences query level) :
    Announces event := by
  rw [openingEvents] at opening
  split at opening
  · rw [List.mem_singleton.mp opening]
    exact Announces.withContexts ⟨Level.noConfusion, by decide⟩ _
  · cases opening

theorem announces_closingEvents {preferences : SearchPreferences} {query : String}
    {stream : Stream} {events : List Event} {event : Event}
    (closing : closingEvents preferences query (.ok stream) = .ok events)
    (member : event ∈ events) : Announces event := by
  cases closing
  split at member
  · rw [List.mem_singleton.mp member]
    exact Announces.withContexts ⟨Level.noConfusion, by decide⟩ _
  · cases member

/-- The text of a line that tells no error. -/
def Harmless (structured : Bool) (text : String) : Prop :=
  ∃ event, Announces event ∧ ∃ level ∈ ["WARN", "INFO", "DEBUG"],
    EventText level event structured text

/-- A part of standard error that tells none: such lines, and only on a console. -/
def Clean (preferences : LoggingPreferences) (written : String) : Prop :=
  ∃ texts : List String, written = String.join (texts.map (· ++ "\n")) ∧
    ∀ text ∈ texts, preferences.console = true ∧ Harmless preferences.structured text

theorem Announces.harmless_text {event : Event} (announces : Announces event) (structured : Bool)
    (timestamp : String) :
    Harmless structured ((Line.ofEvent structured event).text timestamp) := by
  refine ⟨event, announces, event.level.name, ?_, eventText_ofEvent structured event timestamp⟩
  cases severity : event.level with
  | error => exact absurd severity announces.harmless
  | warning | info | debug => simp [Level.name]

theorem clean_lines {preferences : LoggingPreferences} {events : List Event}
    (announce : ∀ event ∈ events, Announces event) (timestamp : String) :
    Clean preferences (String.join
      (((events.flatMap preferences.lines).map Notice.log).map (·.text timestamp))) := by
  refine ⟨(events.flatMap preferences.lines).map (·.text timestamp), ?_, ?_⟩
  · simp only [List.map_map]
    rfl
  · intro text listed
    obtain ⟨line, put, rfl⟩ := List.mem_map.mp listed
    obtain ⟨console, event, sent, rfl⟩ := mem_lines put
    exact ⟨console, (announce event sent).harmless_text preferences.structured timestamp⟩

/-! ### What tells an error -/

/-- Whether a notice tells an error: an event of that level, or anything else than an event. -/
def Notice.tellsError : Notice → Bool
  | .log (.plain event) | .log (.structured event) => event.isError
  | .log (.unlogged ..) | .report .. | .abort _ | .usage _ => true

theorem tellsError_ofEvent (structured : Bool) (event : Event) :
    (Notice.log (.ofEvent structured event)).tellsError = event.isError := by
  cases structured <;> rfl

theorem filter_tellsError {preferences : LoggingPreferences} {events : List Event}
    (announce : ∀ event ∈ events, Announces event) :
    ((events.flatMap preferences.lines).map Notice.log).filter Notice.tellsError = [] := by
  rw [List.filter_eq_nil_iff]
  intro notice listed
  obtain ⟨line, put, rfl⟩ := List.mem_map.mp listed
  obtain ⟨_, event, sent, rfl⟩ := mem_lines put
  rw [tellsError_ofEvent, Event.isError]
  simpa using (announce event sent).harmless

/-! ### One report for each failure -/

/-- A report of a failure: its code and message, and under them the marked place it points
at, if there is one. -/
inductive Reports (query : String) (failure : Failure) : String → Prop where
  | caret {span : Span} (pointed : failure.span = .ok (some span))
      (marked : 0 < Diagnostic.width query span) :
      Reports query failure ("error: " ++ headline failure ++ "\n" ++
        Diagnostic.above query span ++
        String.ofList (List.replicate (Diagnostic.width query span) '^') ++ "\n")
  | bare (pointless : failure.span = .ok none) :
      Reports query failure ("error: " ++ headline failure ++ "\n")

theorem reports_placedReport {failure : Failure} {span : Option Span} (query : String)
    (pointed : failure.span = .ok span) :
    Reports query failure (placedReport query failure span) := by
  cases span with
  | none => exact .bare pointed
  | some place =>
    rw [placedReport, Diagnostic.render_eq]
    exact .caret pointed (Diagnostic.width_pos query place)

/-- The message of a failure's event: the failure's own, or one that leaves it out. -/
theorem message_failureEvent {preferences : SearchPreferences} {query : String}
    {failure : Failure} {event : Event}
    (made : failureEvent preferences query failure = .ok event) :
    event.message = Event.cut Limits.logMessageLength failure.message ∨
      event.message = "Tokenization failed" := by
  rcases failureEvent_cases made with ⟨place, _, _, rfl⟩ | ⟨span, _, _, rfl⟩
  · exact .inl (Event.message_withContexts ..)
  · exact .inr (Event.message_withContexts ..)

/-- A share that tells one error. With the log on the console that is the event of a failure,
on the last line of standard error and after lines that tell none; without it standard error
holds a report and nothing else. -/
inductive TellsOnce (preferences : LoggingPreferences) (query : String) (failure : Failure)
    (share : Share) : Prop where
  | logged {event : Event} (console : preferences.console = true)
      (only : share.notices.filter Notice.tellsError =
        [.log (.ofEvent preferences.structured event)])
      (error : event.level = .error) (code : event.code = Code.ofFailure failure)
      (message : event.message = Event.cut Limits.logMessageLength failure.message ∨
        event.message = "Tokenization failed")
      (written : ∀ timestamp, ∃ before own, share.stderr timestamp = before ++ own ++ "\n" ∧
        Clean preferences before ∧ EventText "ERROR" event preferences.structured own)
  | reported {text : String} (silent : preferences.console = false)
      (only : share.notices = [.report failure text]) (reports : Reports query failure text)
      (written : ∀ timestamp, share.stderr timestamp = text)

/-- The share of a query in text format: tokens without an error, or one error and nothing on
standard output. -/
inductive TellsText (preferences : LoggingPreferences) (query : String) (share : Share) :
    Except Failure Stream → Prop where
  | tokens {stream : Stream} (clean : share.notices.filter Notice.tellsError = [])
      (written : ∀ timestamp, Clean preferences (share.stderr timestamp)) :
      TellsText preferences query share (.ok stream)
  | failure {failure : Failure} (empty : share.stdout = "")
      (once : TellsOnce preferences query failure share) :
      TellsText preferences query share (.error failure)

/-- The log of a call that fails tells its error last, and no other. -/
theorem tellsOnce_logged {configuration : Configuration} {query : String} {failure : Failure}
    {event : Event} (console : configuration.logging.console = true)
    (made : failureEvent configuration.search query failure = .ok event) :
    TellsOnce configuration.logging query failure
      ⟨[], logNotices configuration query [event]⟩ := by
  obtain ⟨error, code⟩ := failureEvent_error made
  have last : logNotices configuration query [event] =
      ((openingEvents configuration.search query configuration.logging.level).flatMap
        configuration.logging.lines).map Notice.log ++
      [.log (.ofEvent configuration.logging.structured event)] := by
    rw [logNotices, List.flatMap_append, List.map_append, List.flatMap_singleton,
      LoggingPreferences.lines_of_error console error, List.map_singleton]
  have opening : ∀ event ∈ openingEvents configuration.search query configuration.logging.level,
      Announces event := fun _ => announces_openingEvents
  refine .logged console ?_ error code (message_failureEvent made) ?_
  · rw [last, List.filter_append, filter_tellsError opening]
    simp [tellsError_ofEvent, Event.isError, error]
  · intro timestamp
    have own := eventText_ofEvent configuration.logging.structured event timestamp
    rw [error] at own
    refine ⟨_, _, ?_, clean_lines opening timestamp, own⟩
    rw [Share.stderr, last, List.map_append, String.join_append, List.map_singleton,
      String.join_cons, String.join_nil, String.append_empty, String.append_assoc]
    rfl

theorem Adds.text {configuration : Configuration} {several : Bool} {query : String}
    {result : Except Failure Stream} {share : Share}
    (adds : Adds configuration .text several query result share) :
    TellsText configuration.logging query share result := by
  cases adds with
  | @tokens stream closing closes =>
    have announce : ∀ event ∈ openingEvents configuration.search query
        configuration.logging.level ++ closing, Announces event := by
      intro event sent
      rcases List.mem_append.mp sent with opening | own
      · exact announces_openingEvents opening
      · exact announces_closingEvents closes own
    exact .tokens (filter_tellsError announce) (clean_lines announce)
  | described json => cases json
  | logged _ console made => exact .failure rfl (tellsOnce_logged console made)
  | reported text silent pointed =>
    refine .failure rfl (.reported silent rfl (reports_placedReport query pointed) ?_)
    simp [Share.stderr, Notice.text]

/-- In text format a run that is set up tells no error before its first query, and then one
for each query that fails and none for any other: on the console the event with the failure's
code, and without a console a report with the code and the message. -/
theorem run_text_reports {surroundings : Surroundings} {written : List String}
    {arguments : Arguments} {configuration : Configuration} {queries : List String}
    (read : Arguments.read written = .ok (.tokenize arguments))
    (text : OutputFormat.parse (arguments.format.getD "text") = .ok .text)
    (effective : Effective surroundings arguments configuration)
    (gathers : Gathers surroundings arguments queries) (few : queries.length < UInt32.size / 2)
    (short : ∀ query ∈ queries, query.length ≤ UInt32.size - 2) :
    ∃ outcome startup shares, run surroundings written = .ok outcome ∧
      outcome.stdout = String.join (shares.map Share.stdout) ∧
      (∀ timestamp, outcome.stderr timestamp =
        Share.stderr startup timestamp ++
          String.join (shares.map fun share => share.stderr timestamp)) ∧
      outcome.notices = startup.notices ++ shares.flatMap Share.notices ∧
      startup.notices.filter Notice.tellsError = [] ∧
      (∀ timestamp, Clean configuration.logging (startup.stderr timestamp)) ∧
      List.Forall₂ (fun query share => ∃ result,
        Answers configuration.search query result ∧
          TellsText configuration.logging query share result) queries shares := by
  have announce : ∀ event ∈ setupEvents configuration queries.length, Announces event :=
    fun _ => announces_setupEvents
  obtain ⟨outcome, shares, ran, covers⟩ :=
    runArguments_covers text effective gathers few short
  refine ⟨outcome, ⟨[], setupNotices configuration queries.length⟩, shares, ?_, ?_, ?_,
    covers.notices, filter_tellsError announce, clean_lines announce, ?_⟩
  · simp only [run, read]
    exact ran
  · rw [stdout_eq_join, covers.output]
    exact Share.join_map_flatMap shares Share.output _
  · intro timestamp
    rw [stderr_eq_join, covers.notices, List.map_append, String.join_append]
    exact congrArg _ (Share.join_map_flatMap shares Share.notices _)
  · refine covers.each.imp ?_
    intro query share
    rintro ⟨result, answers, adds⟩
    exact ⟨result, answers, adds.text⟩

/-- A query that fails before one that does not, with the log on the console and without. -/
theorem run_text_reports_two :
    (∃ outcome shares, run ⟨fun _ => none, fun _ => .error .notFound⟩ ["a\nb", "c"] = .ok outcome ∧
      outcome.stdout = String.join (shares.map Share.stdout) ∧
      outcome.stderr "now" =
        "[ERROR] E300 - Illegal character '\n' at 1:2 at 1:2 (column=2, line=1, query=a\nb)\n" ∧
      List.Forall₂ (fun query share => ∃ result,
        Answers ⟨.feedThrough, true, true, false⟩ query result ∧
          TellsText ⟨false, true, .warning⟩ query share result) ["a\nb", "c"] shares) ∧
    ∃ outcome shares,
      run ⟨fun _ => none, fun _ => .error .notFound⟩ ["-q", "a\nb", "c"] = .ok outcome ∧
      outcome.stdout = String.join (shares.map Share.stdout) ∧
      outcome.stderr "now" =
        "error: [E300] Illegal character '\n' at 1:2\n  --> 1:2\n  |\n1 | a\n  |  ^\n" ∧
      List.Forall₂ (fun query share => ∃ result,
        Answers ⟨.feedThrough, true, true, false⟩ query result ∧
          TellsText ⟨false, false, .warning⟩ query share result) ["a\nb", "c"] shares := by
  have loud : Arguments.read ["a\nb", "c"] = .ok (.tokenize { queries := ["a\nb", "c"] }) := by
    decide +kernel
  have quiet : Arguments.read ["-q", "a\nb", "c"] =
      .ok (.tokenize { queries := ["a\nb", "c"], quiet := true }) := by
    decide +kernel
  have logged : (run ⟨fun _ => none, fun _ => .error .notFound⟩ ["a\nb", "c"]).toOption.map
      (·.stderr "now") = some
        "[ERROR] E300 - Illegal character '\n' at 1:2 at 1:2 (column=2, line=1, query=a\nb)\n" := by
    decide +kernel
  have reported : (run ⟨fun _ => none, fun _ => .error .notFound⟩ ["-q", "a\nb", "c"]).toOption.map
      (·.stderr "now") = some
        "error: [E300] Illegal character '\n' at 1:2\n  --> 1:2\n  |\n1 | a\n  |  ^\n" := by
    decide +kernel
  constructor
  · obtain ⟨outcome, _, shares, ran, told, _, _, _, _, each⟩ :=
      @run_text_reports ⟨fun _ => none, fun _ => .error .notFound⟩ _ _ _ _ loud rfl ⟨_, rfl, rfl⟩
        (.alone rfl) (by decide) (by decide)
    rw [ran] at logged
    exact ⟨outcome, shares, ran, told, Option.some.inj logged, each⟩
  · obtain ⟨outcome, _, shares, ran, told, _, _, _, _, each⟩ :=
      @run_text_reports ⟨fun _ => none, fun _ => .error .notFound⟩ _ _ _ _ quiet rfl ⟨_, rfl, rfl⟩
        (.alone rfl) (by decide) (by decide)
    rw [ran] at reported
    exact ⟨outcome, shares, ran, told, Option.some.inj reported, each⟩

end Command

end SearchLex
