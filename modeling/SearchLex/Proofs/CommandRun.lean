import SearchLex.Command.Run
import SearchLex.Proofs.Deliveries
import SearchLex.Proofs.LimitedAnswer
import Mathlib.Data.List.Forall2

/-! Runs of the command. A run sets itself up or gives up without a word on standard output;
once set up, each query adds its own share to what is written, in order, whatever became of
the queries before it. -/

namespace SearchLex

namespace Tokenizer

/-- What the tokenizer answers to a query, whatever log it is given. -/
def Answers (preferences : SearchPreferences) (query : String)
    (result : Except Failure Stream) : Prop :=
  ∀ session, ∃ later, tokenize preferences query session = .ok (result, later)

/-- The tokenizer answers a query with a failure. -/
def Fails (preferences : SearchPreferences) (query : String) : Prop :=
  ∃ failure, Answers preferences query (.error failure)

/-- Every query inside the counters is answered. -/
theorem exists_answers (preferences : SearchPreferences) {query : String}
    (short : query.length ≤ UInt32.size - 2) : ∃ result, Answers preferences query result :=
  exists_answer (.inr short)

theorem Answers.unique {preferences : SearchPreferences} {query : String}
    {first second : Except Failure Stream} (one : Answers preferences query first)
    (other : Answers preferences query second) : first = second := by
  obtain ⟨_, left⟩ := one {}
  obtain ⟨_, right⟩ := other {}
  exact Except.ok.inj ((run_of_tokenize left).symm.trans (run_of_tokenize right))

theorem Answers.not_fails {preferences : SearchPreferences} {query : String} {stream : Stream}
    (answers : Answers preferences query (.ok stream)) : ¬ Fails preferences query := by
  rintro ⟨failure, failed⟩
  cases answers.unique failed

/-- A failure that is answered can be pointed at. -/
theorem Answers.exists_span {preferences : SearchPreferences} {query : String} {failure : Failure}
    (answers : Answers preferences query (.error failure)) : ∃ span, failure.span = .ok span := by
  obtain ⟨_, failed⟩ := answers {}
  exact span_of_tokenize_error failed

end Tokenizer

namespace Command

open Log Tokenizer

/-- Texts written one after another are what was written before and then their join. -/
theorem foldl_append_eq_join {α : Type} (text : α → String) (items : List α) (written : String) :
    items.foldl (fun written item => written ++ text item) written =
      written ++ String.join (items.map text) := by
  induction items generalizing written with
  | nil => simp
  | cons item rest ih =>
    rw [List.foldl_cons, ih, List.map_cons, String.join_cons, String.append_assoc]

theorem stdout_eq_join (outcome : Outcome) :
    outcome.stdout = String.join (outcome.output.map (· ++ "\n")) := by
  have ended : (fun (written line : String) => (written ++ line).push '\n') =
      fun written line => written ++ (line ++ "\n") := by
    funext written line
    rw [String.push_eq_append, String.append_assoc]
    rfl
  rw [Outcome.stdout, ended, foldl_append_eq_join, String.empty_append]

theorem stderr_eq_join (outcome : Outcome) (timestamp : String) :
    outcome.stderr timestamp = String.join (outcome.notices.map (·.text timestamp)) := by
  rw [Outcome.stderr, foldl_append_eq_join, String.empty_append]

/-! ### One query -/

/-- The data of a failure that points at a place, or at none. -/
def placedFailure (failure : Failure) (span : Option Span) : Datum :=
  .record ([("code", .text (Code.ofFailure failure).text), ("message", .text failure.message)] ++
    Datum.optional "span" (span.map Span.datum))

theorem failureDatum_eq {failure : Failure} {span : Option Span}
    (pointed : failure.span = .ok span) :
    failureDatum failure = .ok (placedFailure failure span) := by
  rw [failureDatum, pointed]
  rfl

/-- What a report says first: the code and the message. -/
def headline (failure : Failure) : String :=
  "[" ++ (Code.ofFailure failure).text ++ "] " ++ failure.message

/-- The report of a failure that points at a place, or at none. -/
def placedReport (query : String) (failure : Failure) : Option Span → String
  | some span => Diagnostic.render query span (headline failure)
  | none => "error: " ++ headline failure ++ "\n"

theorem reportText_eq {failure : Failure} {span : Option Span} (query : String)
    (pointed : failure.span = .ok span) :
    reportText query failure = .ok (placedReport query failure span) := by
  rw [reportText, pointed]
  cases span <;> rfl

/-- What one query adds to a run. -/
structure Share where
  output : List String
  notices : List Notice

/-- Shares one after another. -/
def Share.join (shares : List Share) : Share :=
  ⟨shares.flatMap (·.output), shares.flatMap (·.notices)⟩

/-- What standard error shows of the events of a call: its opening and those that close it. -/
def logNotices (configuration : Configuration) (query : String) (closing : List Event) :
    List Notice :=
  ((openingEvents configuration.search query configuration.logging.level ++ closing).flatMap
    configuration.logging.lines).map .log

theorem logNotices_silent {configuration : Configuration}
    (silent : configuration.logging.console = false) (query : String) (closing : List Event) :
    logNotices configuration query closing = [] := by
  simp [logNotices, LoggingPreferences.lines_silent silent]

/-- The share of a query with an answer: its tokens, or its failure on standard output as
JSON, in the log, or as a report. -/
inductive Adds (configuration : Configuration) (format : OutputFormat) (several : Bool)
    (query : String) : Except Failure Stream → Share → Prop where
  | tokens {stream : Stream} {closing : List Event}
      (closes : closingEvents configuration.search query (.ok stream) = .ok closing) :
      Adds configuration format several query (.ok stream)
        ⟨tokenLines format several query stream.tokens,
          logNotices configuration query closing⟩
  | described {failure : Failure} {span : Option Span} {event : Event} (json : format = .json)
      (pointed : failure.span = .ok span)
      (made : failureEvent configuration.search query failure = .ok event) :
      Adds configuration format several query (.error failure)
        ⟨[Json.line (.record [("query", .text query), ("error", placedFailure failure span)])],
          logNotices configuration query [event]⟩
  | logged {failure : Failure} {event : Event} (text : format = .text)
      (console : configuration.logging.console = true)
      (made : failureEvent configuration.search query failure = .ok event) :
      Adds configuration format several query (.error failure)
        ⟨[], logNotices configuration query [event]⟩
  | reported {failure : Failure} {span : Option Span} (text : format = .text)
      (silent : configuration.logging.console = false) (pointed : failure.span = .ok span) :
      Adds configuration format several query (.error failure)
        ⟨[], [.report failure (placedReport query failure span)]⟩

namespace Work

/-- A run that logging is set up for, with no line of the log left to take over. -/
structure Ready (work : Work) (preferences : LoggingPreferences) : Prop where
  logs : work.session.Logs preferences.level preferences.form
  drained : work.session.lines.toList = []

/-- A run that has come further by a share. -/
structure Gains (before after : Work) (share : Share) : Prop where
  output : after.output.toList = before.output.toList ++ share.output
  notices : after.notices.toList = before.notices.toList ++ share.notices

theorem Gains.none (work : Work) : work.Gains work (.join []) :=
  ⟨by simp [Share.join], by simp [Share.join]⟩

theorem Gains.cons {first second third : Work} {share : Share} {shares : List Share}
    (one : first.Gains second share) (others : second.Gains third (.join shares)) :
    first.Gains third (.join (share :: shares)) where
  output := by
    rw [others.output, one.output]
    simp [Share.join]
  notices := by
    rw [others.notices, one.notices]
    simp [Share.join]

/-- Taking over a session of delivered events turns their lines into notices. -/
theorem Ready.absorb {work : Work} {preferences : LoggingPreferences}
    (ready : work.Ready preferences) (events : List Event) :
    (work.absorb (work.session.deliverAll events)).Ready preferences ∧
      work.Gains (work.absorb (work.session.deliverAll events))
        ⟨[], (events.flatMap preferences.lines).map .log⟩ := by
  obtain ⟨later, added⟩ := ready.logs.deliverAll events
  rw [ready.drained, List.nil_append] at added
  exact ⟨⟨later, rfl⟩, by simp [Work.absorb],
    by simp [Work.absorb, added, LoggingPreferences.lines]⟩

theorem Gains.push_output {before after : Work} {notices : List Notice}
    (gains : before.Gains after ⟨[], notices⟩) (lines : List String) (failures : Nat) :
    before.Gains { after with output := after.output ++ lines, failures } ⟨lines, notices⟩ :=
  ⟨by simp [gains.output], gains.notices⟩

/-- How many failures an answer is. -/
def failureCount : Except Failure Stream → Nat
  | .ok _ => 0
  | .error _ => 1

section Query

variable {work : Work} {configuration : Configuration} {query : String} {later : Session}

theorem query_of_tokens {stream : Stream} (format : OutputFormat) (several : Bool)
    (answered : tokenize configuration.search query work.session = .ok (.ok stream, later)) :
    work.query configuration format several query = .ok
      { work.absorb later with
        output := (work.absorb later).output ++
          tokenLines format several query stream.tokens } := by
  rw [Work.query, answered]
  rfl

/-- A failure is counted, and then told by the format's own means. -/
theorem query_of_failure {failure : Failure} {span : Option Span} (format : OutputFormat)
    (several : Bool)
    (answered : tokenize configuration.search query work.session = .ok (.error failure, later))
    (pointed : failure.span = .ok span) (room : work.failures + 1 < UInt32.size / 2) :
    work.query configuration format several query = .ok (match format with
      | .json =>
        { work.absorb later with
          output := (work.absorb later).output ++
            [Json.line (.record [("query", .text query), ("error", placedFailure failure span)])]
          failures := work.failures + 1 }
      | .text =>
        if configuration.logging.console then
          { work.absorb later with failures := work.failures + 1 }
        else
          { work.absorb later with
            notices := (work.absorb later).notices.push
              (.report failure (placedReport query failure span))
            failures := work.failures + 1 }) := by
  have held : (work.absorb later).failures = work.failures := rfl
  have counted : Checked.increment work.failures = .ok (work.failures + 1) := if_pos room
  cases format with
  | json =>
    simp [Work.query, answered, held, counted, failureDatum_eq pointed, bind, Except.bind, pure,
      Except.pure]
  | text =>
    by_cases console : configuration.logging.console
    · simp [Work.query, answered, held, counted, console, bind, Except.bind, pure, Except.pure]
    · simp [Work.query, answered, held, counted, console, reportText_eq query pointed, bind,
        Except.bind, pure, Except.pure]

/-- A query adds its share, and only a failure is counted. -/
theorem Ready.query_adds {result : Except Failure Stream} (format : OutputFormat) (several : Bool)
    (ready : work.Ready configuration.logging)
    (answers : Answers configuration.search query result)
    (room : work.failures + 1 < UInt32.size / 2) :
    ∃ next share, work.query configuration format several query = .ok next ∧
      Adds configuration format several query result share ∧
      next.Ready configuration.logging ∧ work.Gains next share ∧
      next.failures = work.failures + failureCount result := by
  obtain ⟨later, answered⟩ := answers work.session
  obtain ⟨closing, closes, delivered⟩ := deliveries_of_tokenize answered
  obtain ⟨after, gained⟩ := ready.absorb
    (openingEvents configuration.search query work.session.minLevel ++ closing)
  rw [← delivered] at after
  rw [← delivered, ready.logs.minLevel] at gained
  change work.Gains (work.absorb later) ⟨[], logNotices configuration query closing⟩ at gained
  cases result with
  | ok stream =>
    exact ⟨_, _, query_of_tokens format several answered, .tokens closes,
      ⟨after.logs, after.drained⟩, gained.push_output _ _, rfl⟩
  | error failure =>
    obtain ⟨span, pointed⟩ := answers.exists_span
    obtain ⟨event, made, rfl⟩ := failureEvent_of_closingEvents closes
    have done := query_of_failure format several answered pointed room
    cases format with
    | json =>
      exact ⟨_, _, done, .described rfl pointed made, ⟨after.logs, after.drained⟩,
        gained.push_output _ _, rfl⟩
    | text =>
      cases console : configuration.logging.console with
      | true =>
        simp only [console, ↓reduceIte] at done
        exact ⟨_, _, done, .logged rfl console made, ⟨after.logs, after.drained⟩,
          ⟨gained.output, gained.notices⟩, rfl⟩
      | false =>
        simp only [console, Bool.false_eq_true, ↓reduceIte] at done
        refine ⟨_, _, done, .reported rfl console pointed, ⟨after.logs, after.drained⟩,
          ⟨gained.output, ?_⟩, rfl⟩
        rw [Array.toList_push, gained.notices, logNotices_silent console, List.append_nil]

end Query

/-- Queries one after another add their shares in order; the run goes on after a failure. -/
theorem Ready.queries_add {work : Work} {configuration : Configuration} {queries : List String}
    (format : OutputFormat) (several : Bool) (ready : work.Ready configuration.logging)
    (short : ∀ query ∈ queries, query.length ≤ UInt32.size - 2)
    (room : work.failures + queries.length < UInt32.size / 2) :
    ∃ last shares, work.queries configuration format several queries = .ok last ∧
      work.Gains last (.join shares) ∧
      List.Forall₂ (fun query share => ∃ result, Answers configuration.search query result ∧
        Adds configuration format several query result share) queries shares ∧
      (0 < last.failures ↔
        0 < work.failures ∨ ∃ query ∈ queries, Fails configuration.search query) := by
  induction queries generalizing work with
  | nil => exact ⟨work, [], rfl, .none work, .nil, by simp⟩
  | cons query rest ih =>
    rw [List.length_cons] at room
    obtain ⟨result, answers⟩ := exists_answers configuration.search (short query List.mem_cons_self)
    obtain ⟨next, share, done, adds, again, gained, counted⟩ :=
      ready.query_adds format several answers (by omega)
    have small : failureCount result ≤ 1 := by
      cases result with
      | ok stream => exact Nat.zero_le 1
      | error failure => exact Nat.le_refl 1
    have fails : 0 < failureCount result ↔ Fails configuration.search query := by
      cases result with
      | ok stream => exact iff_of_false (Nat.lt_irrefl 0) answers.not_fails
      | error failure => exact iff_of_true Nat.zero_lt_one ⟨failure, answers⟩
    -- The run is ready again even after a failure, so the induction goes on either way; the
    -- room is for one more failure with each query left.
    obtain ⟨last, shares, finished, more, each, count⟩ :=
      ih again (fun other member => short other (List.mem_cons_of_mem query member)) (by omega)
    refine ⟨last, share :: shares, ?_, gained.cons more, .cons ⟨result, answers, adds⟩ each, ?_⟩
    · rw [Work.queries, done]
      exact finished
    · rw [count, counted, List.exists_mem_cons_iff, ← fails, Nat.add_pos_iff_pos_or_pos, or_assoc]

end Work

/-! ### Setting up -/

/-- The ways a run gives up before its first query: a configuration file that cannot be read
or is invalid, a log level that is none, or a query file that cannot be read. -/
inductive SetupFails (surroundings : Surroundings) (arguments : Arguments) : Prop where
  | unreadable {path : String} {cause : ReadError} (given : arguments.config = some path)
      (refused : surroundings.read path = .error cause)
  | invalid {path document : String} {error : Configuration.LoadError}
      (given : arguments.config = some path) (found : surroundings.read path = .ok document)
      (refused : Configuration.ofToml surroundings.environment document = .error error)
  | logLevel {level reason : String} (given : arguments.logLevel = some level)
      (refused : Level.parse level = .error reason)
  | queryFile {path : String} {error : ReadError} (given : arguments.file = some path)
      (refused : surroundings.read path = .error error)

/-- The configuration of a run: that of its file or else its environment, with the options
that override it. -/
def Effective (surroundings : Surroundings) (arguments : Arguments)
    (configuration : Configuration) : Prop :=
  ∃ base, baseConfiguration surroundings arguments = .ok base ∧
    override arguments base = .ok configuration

/-- The queries of a run: its arguments, then the lines of its file that are not empty. -/
inductive Gathers (surroundings : Surroundings) (arguments : Arguments) : List String → Prop where
  | alone (absent : arguments.file = none) : Gathers surroundings arguments arguments.queries
  | withFile {path content : String} (given : arguments.file = some path)
      (found : surroundings.read path = .ok content) :
      Gathers surroundings arguments
        (arguments.queries ++ (Text.lines content).filter fun line => !line.isEmpty)

section Setup

variable {surroundings : Surroundings} {arguments : Arguments} {configuration : Configuration}
  {queries : List String}

theorem collectQueries_eq_ok_iff :
    collectQueries surroundings arguments = .ok queries ↔
      Gathers surroundings arguments queries := by
  constructor
  · intro collected
    rw [collectQueries] at collected
    split at collected
    · rename_i absent
      cases collected
      exact .alone absent
    · rename_i path given
      split at collected
      · rename_i content found
        cases collected
        exact .withFile given found
      · cases collected
  · intro gathers
    cases gathers with
    | alone absent => rw [collectQueries, absent]
    | withFile given found => simp only [collectQueries, given, found]

theorem baseConfiguration_error {error : Configuration.LoadError}
    (refused : baseConfiguration surroundings arguments = .error error) :
    SetupFails surroundings arguments := by
  rw [baseConfiguration] at refused
  split at refused
  · rename_i path given
    cases found : surroundings.read path with
    | error cause => exact .unreadable given found
    | ok document =>
      rw [Configuration.load, found] at refused
      exact .invalid given found refused
  · cases refused

theorem override_error {base : Configuration} {reason : String}
    (refused : override arguments base = .error reason) : SetupFails surroundings arguments := by
  cases given : arguments.logLevel with
  | none => simp [override, given, bind, Except.bind, pure, Except.pure] at refused
  | some level =>
    cases parsed : Level.parse level with
    | error other => exact .logLevel given parsed
    | ok minLevel => simp [override, given, parsed, bind, Except.bind, pure, Except.pure] at refused

theorem collectQueries_error {reason : String}
    (refused : collectQueries surroundings arguments = .error reason) :
    SetupFails surroundings arguments := by
  rw [collectQueries] at refused
  split at refused
  · cases refused
  · rename_i path given
    split at refused
    · cases refused
    · rename_i error unread
      exact .queryFile given unread

/-- A run with a configuration and queries is set up. -/
theorem Effective.not_setupFails (effective : Effective surroundings arguments configuration)
    (gathers : Gathers surroundings arguments queries) : ¬ SetupFails surroundings arguments := by
  obtain ⟨base, loaded, overridden⟩ := effective
  intro fails
  cases fails with
  | unreadable given refused =>
    simp only [baseConfiguration, given, Configuration.load, refused] at loaded
    cases loaded
  | invalid given found refused =>
    simp only [baseConfiguration, given, Configuration.load, found] at loaded
    cases refused.symm.trans loaded
  | logLevel given refused => simp [override, given, refused, bind, Except.bind] at overridden
  | queryFile given refused =>
    have collected := collectQueries_eq_ok_iff.mpr gathers
    simp [collectQueries, given, refused] at collected

/-- The events of setting up: that logging is there, and how many queries will follow. -/
def setupEvents (configuration : Configuration) (count : Nat) : List Event :=
  [(Event.success .loggingInstalled "Global logging initialized").withContexts
      [("min_level", configuration.logging.level.name),
        ("structured", toString configuration.logging.structured)],
    (Event.info "Tokenizing $search queries").withContexts (startContext configuration count)]

/-- What standard error shows of setting up. -/
def setupNotices (configuration : Configuration) (count : Nat) : List Notice :=
  ((setupEvents configuration count).flatMap configuration.logging.lines).map .log

/-- Preferences are installed in a fresh session, which then logs as they say. -/
theorem installPreferences_fresh (preferences : LoggingPreferences) :
    ∃ installed : Session, installed.Logs preferences.level preferences.form ∧
      installed.lines.toList = [] ∧
      ({} : Session).installPreferences preferences = .ok (installed.dispatch
        (.success .loggingInstalled "Global logging initialized")
        [("min_level", preferences.level.name),
          ("structured", toString preferences.structured)]) :=
  ⟨⟨some (.ofPreferences preferences), #[]⟩, ⟨_, rfl, preferences.form_ofPreferences⟩, rfl, rfl⟩

/-- The outcome of a run that was set up: the shares of its queries in order, after what was
logged before, and status one exactly if a query failed. -/
structure Outcome.Covers (outcome : Outcome) (configuration : Configuration)
    (format : OutputFormat) (queries : List String) (shares : List Share) : Prop where
  output : outcome.output = (Share.join shares).output
  notices : outcome.notices =
    setupNotices configuration queries.length ++ (Share.join shares).notices
  each : List.Forall₂ (fun query share => ∃ result, Answers configuration.search query result ∧
    Adds configuration format (1 < queries.length) query result share) queries shares
  status : (outcome.status = 1 ∧ ∃ query ∈ queries, Fails configuration.search query) ∨
    (outcome.status = 0 ∧ ¬ ∃ query ∈ queries, Fails configuration.search query)

theorem Work.status_outcome (work : Work) :
    work.outcome.status = 1 ∧ 0 < work.failures ∨
      work.outcome.status = 0 ∧ ¬ 0 < work.failures := by
  by_cases failed : 0 < work.failures
  · exact .inl ⟨if_pos failed, failed⟩
  · exact .inr ⟨if_neg failed, failed⟩

/-- A run with a configuration tokenizes all its queries. -/
theorem runConfigured_covers (format : OutputFormat)
    (gathers : Gathers surroundings arguments queries) (few : queries.length < UInt32.size / 2)
    (short : ∀ query ∈ queries, query.length ≤ UInt32.size - 2) :
    ∃ outcome shares, runConfigured surroundings arguments format configuration = .ok outcome ∧
      outcome.Covers configuration format queries shares := by
  obtain ⟨fresh, logs, drained, installed⟩ := installPreferences_fresh configuration.logging
  have blank : Work.Ready { session := fresh } configuration.logging := ⟨logs, drained⟩
  -- Absorbing replaces the session, so an idle run may be taken to hold the installed one.
  obtain ⟨set, greeted⟩ := blank.absorb [(Event.success .loggingInstalled
    "Global logging initialized").withContexts [("min_level", configuration.logging.level.name),
      ("structured", toString configuration.logging.structured)]]
  obtain ⟨ready, announced⟩ := set.absorb [(Event.info "Tokenizing $search queries").withContexts
    (startContext configuration queries.length)]
  obtain ⟨last, shares, done, gained, each, counted⟩ :=
    ready.queries_add format (1 < queries.length) short (by simpa [Work.absorb] using few)
  refine ⟨last.outcome, shares, ?_, ?_⟩
  · simp only [runConfigured, installed, collectQueries_eq_ok_iff.mpr gathers]
    exact congrArg (· >>= fun work => pure work.outcome) done
  · refine ⟨?_, ?_, each, ?_⟩
    · rw [Work.outcome, gained.output, announced.output, greeted.output]
      rfl
    · rw [Work.outcome, gained.notices, announced.notices, greeted.notices]
      simp [setupNotices, setupEvents]
    · have failed : 0 < last.failures ↔ ∃ query ∈ queries, Fails configuration.search query := by
        simpa [Work.absorb] using counted
      rw [← failed]
      exact last.status_outcome

/-- A run that is set up covers all its queries. -/
theorem runArguments_covers {format : OutputFormat}
    (understood : OutputFormat.parse (arguments.format.getD "text") = .ok format)
    (effective : Effective surroundings arguments configuration)
    (gathers : Gathers surroundings arguments queries) (few : queries.length < UInt32.size / 2)
    (short : ∀ query ∈ queries, query.length ≤ UInt32.size - 2) :
    ∃ outcome shares, runArguments surroundings arguments = .ok outcome ∧
      outcome.Covers configuration format queries shares := by
  obtain ⟨base, loaded, overridden⟩ := effective
  obtain ⟨outcome, shares, ran, covers⟩ :=
    @runConfigured_covers surroundings arguments configuration queries format gathers few short
  refine ⟨outcome, shares, ?_, covers⟩
  simp only [runArguments, understood, loaded, overridden]
  exact ran

/-- A run that is not set up writes nothing to standard output and has status one, or else it
has a configuration and queries. -/
theorem runArguments_cases {format : OutputFormat}
    (understood : OutputFormat.parse (arguments.format.getD "text") = .ok format) :
    (SetupFails surroundings arguments ∧ ∃ outcome,
      runArguments surroundings arguments = .ok outcome ∧ outcome.output = [] ∧
        outcome.status = 1) ∨
    ∃ configuration queries, Effective surroundings arguments configuration ∧
      Gathers surroundings arguments queries := by
  cases loaded : baseConfiguration surroundings arguments with
  | error error =>
    refine .inl ⟨baseConfiguration_error loaded, ?_⟩
    simp only [runArguments, understood, loaded]
    exact ⟨_, rfl, rfl, rfl⟩
  | ok base =>
    cases overridden : override arguments base with
    | error reason =>
      refine .inl ⟨override_error overridden, ?_⟩
      simp only [runArguments, understood, loaded, overridden]
      exact ⟨_, rfl, rfl, rfl⟩
    | ok configuration =>
      cases collected : collectQueries surroundings arguments with
      | error reason =>
        refine .inl ⟨collectQueries_error collected, ?_⟩
        obtain ⟨_, _, _, installed⟩ := installPreferences_fresh configuration.logging
        simp only [runArguments, understood, loaded, overridden, runConfigured, installed,
          collected]
        exact ⟨_, rfl, rfl, rfl⟩
      | ok queries =>
        exact .inr ⟨configuration, queries, ⟨base, loaded, overridden⟩,
          collectQueries_eq_ok_iff.mp collected⟩

end Setup

end Command

end SearchLex
