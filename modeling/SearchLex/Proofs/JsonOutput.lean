import SearchLex.Proofs.CommandRun
import SearchLex.Proofs.JsonText

/-! The command's output as JSON: one line for each query in order, and on it an object with
the query and either its tokens or its failure. -/

namespace SearchLex

namespace Command

open Log Tokenizer

/-! ### The object of a query -/

theorem portable_tokenDatum (token : PlacedToken) : (tokenDatum token).Portable := by
  have kind : Datum.Portable token.value.kind.datum := .text _
  have literal : Datum.Portable (.text token.value.literal) := .text _
  exact .record (by simp [kind, literal, Span.portable_datum])

theorem portable_placedFailure (failure : Failure) (span : Option Span) :
    (placedFailure failure span).Portable := by
  have code : Datum.Portable (.text (Code.ofFailure failure).text) := .text _
  have message : Datum.Portable (.text failure.message) := .text _
  cases span with
  | none => exact .record (by simp [code, message, Datum.optional])
  | some place => exact .record (by simp [code, message, Datum.optional, place.portable_datum])

/-- Data that tells a token: its kind, its literal and its span. -/
structure TellsToken (token : PlacedToken) (datum : Datum) : Prop where
  kind : (datum.field? "kind").map (Kind.ofDatum .json) = some (.ok token.value.kind)
  literal : datum.field? "literal" = some (.text token.value.literal)
  span : (datum.field? "span").map (Span.ofDatum .json) = some (.ok token.span)

/-- Data that tells a failure: its code, its message, and its span if it points anywhere. -/
structure TellsFailure (failure : Failure) (datum : Datum) : Prop where
  code : datum.field? "code" = some (.text (Code.ofFailure failure).text)
  message : datum.field? "message" = some (.text failure.message)
  span : ∃ span, failure.span = .ok span ∧
    (datum.field? "span").map (Span.ofDatum .json) = span.map .ok

/-- Data that tells an answer: tokens or an error, and never both. -/
inductive TellsAnswer (datum : Datum) : Except Failure Stream → Prop where
  | tokens {stream : Stream} {told : List Datum}
      (member : datum.field? "tokens" = some (.list told))
      (each : List.Forall₂ TellsToken stream.tokens told)
      (alone : datum.field? "error" = none) : TellsAnswer datum (.ok stream)
  | error {failure : Failure} {told : Datum} (member : datum.field? "error" = some told)
      (tells : TellsFailure failure told) (alone : datum.field? "tokens" = none) :
      TellsAnswer datum (.error failure)

/-- A line that is a JSON object with a query and its answer. -/
structure TellsJson (query : String) (result : Except Failure Stream) (line : String) : Prop where
  single : '\n' ∉ line.toList
  object : ∃ datum, Json.read line = some datum ∧ datum.field? "query" = some (.text query) ∧
    TellsAnswer datum result

theorem ofDatum_sorted_kind (kind : Kind) :
    Kind.ofDatum .json (Json.sorted kind.datum) = .ok kind := by
  cases kind <;> rfl

theorem tellsToken (token : PlacedToken) :
    TellsToken token (Json.sorted (tokenDatum token)) where
  kind := by simp [tokenDatum, Json.field?_sorted, List.lookup_cons, ofDatum_sorted_kind]
  literal := by simp [tokenDatum, Json.field?_sorted, List.lookup_cons]
  span := by simp [tokenDatum, Json.field?_sorted, Span.ofDatum_sorted]

theorem tellsFailure {failure : Failure} {span : Option Span} (pointed : failure.span = .ok span) :
    TellsFailure failure (Json.sorted (placedFailure failure span)) where
  code := by
    cases span <;> simp [placedFailure, Datum.optional, Json.field?_sorted, List.lookup_cons]
  message := by
    cases span <;> simp [placedFailure, Datum.optional, Json.field?_sorted, List.lookup_cons]
  span := by
    refine ⟨span, pointed, ?_⟩
    cases span <;>
      simp [placedFailure, Datum.optional, Json.field?_sorted, List.lookup_cons,
        Span.ofDatum_sorted]

/-- The line of a record that tells an answer beside a query. -/
theorem tellsJson_line {query : String} {result : Except Failure Stream} {name : String}
    {member : Datum} (portable : member.Portable) (other : name ≠ "query")
    (tells : TellsAnswer (Json.sorted (.record [("query", .text query), (name, member)])) result) :
    TellsJson query result (Json.line (.record [("query", .text query), (name, member)])) := by
  have whole : Datum.Portable (.record [("query", .text query), (name, member)]) :=
    .record (by simp [Datum.Portable.text, portable])
  refine ⟨Json.lineFeed_not_mem_line whole, _, Json.read_line whole, ?_, tells⟩
  simp [Json.field?_sorted, List.lookup_cons, beq_false_of_ne other.symm]

theorem tellsJson_tokens (query : String) (stream : Stream) :
    TellsJson query (.ok stream) (Json.line (.record
      [("query", .text query), ("tokens", .list (stream.tokens.map tokenDatum))])) := by
  have portable : Datum.Portable (.list (stream.tokens.map tokenDatum)) :=
    .list (by simp [portable_tokenDatum])
  have each : List.Forall₂ TellsToken stream.tokens
      ((stream.tokens.map tokenDatum).map Json.sorted) := by
    rw [List.map_map, List.forall₂_map_right_iff, List.forall₂_same]
    exact fun token _ => tellsToken token
  refine tellsJson_line portable (by decide) (.tokens ?_ each ?_)
  · simp [Json.field?_sorted]
  · simp [Json.field?_sorted, List.lookup_cons]

theorem tellsJson_failure (query : String) {failure : Failure} {span : Option Span}
    (pointed : failure.span = .ok span) :
    TellsJson query (.error failure) (Json.line (.record
      [("query", .text query), ("error", placedFailure failure span)])) := by
  refine tellsJson_line (portable_placedFailure failure span) (by decide)
    (.error ?_ (tellsFailure pointed) ?_)
  · simp [Json.field?_sorted]
  · simp [Json.field?_sorted, List.lookup_cons]

/-- In JSON format every query adds one line, which tells its answer. -/
theorem Adds.json {configuration : Configuration} {several : Bool} {query : String}
    {result : Except Failure Stream} {share : Share}
    (adds : Adds configuration .json several query result share) :
    ∃ line, share.output = [line] ∧ TellsJson query result line := by
  cases adds with
  | tokens closes => exact ⟨_, rfl, tellsJson_tokens query _⟩
  | described json pointed made => exact ⟨_, rfl, tellsJson_failure query pointed⟩
  | logged text | reported text => cases text

/-- The lines of all queries, one for each. -/
theorem lines_of_adds {configuration : Configuration} {several : Bool} {queries : List String}
    {shares : List Share}
    (each : List.Forall₂ (fun query share => ∃ result, Answers configuration.search query result ∧
      Adds configuration .json several query result share) queries shares) :
    List.Forall₂ (fun query line => ∃ result, Answers configuration.search query result ∧
      TellsJson query result line) queries (Share.join shares).output := by
  induction each with
  | nil => exact .nil
  | cons head _ ih =>
    obtain ⟨result, answers, adds⟩ := head
    obtain ⟨line, only, tells⟩ := adds.json
    have joined : ∀ share shares, (Share.join (share :: shares)).output =
        share.output ++ (Share.join shares).output := fun _ _ => List.flatMap_cons
    rw [joined, only]
    exact .cons ⟨result, answers, tells⟩ ih

/-- With JSON output a run that cannot be set up writes nothing and has status one. Any other
run writes one line for each query, the arguments and then the lines of the file, and on it
the query with the tokens or the error that the tokenizer answers under the run's
configuration; its status is one exactly if some query failed. -/
theorem run_json {surroundings : Surroundings} {written : List String} {arguments : Arguments}
    (read : Arguments.read written = .ok (.tokenize arguments))
    (json : OutputFormat.parse (arguments.format.getD "text") = .ok .json)
    (bounded : ∀ queries, Gathers surroundings arguments queries →
      queries.length < UInt32.size / 2 ∧ ∀ query ∈ queries, query.length ≤ UInt32.size - 2) :
    ∃ outcome, run surroundings written = .ok outcome ∧
      (SetupFails surroundings arguments ∧ outcome.stdout = "" ∧ outcome.status = 1 ∨
        ¬ SetupFails surroundings arguments ∧ ∃ configuration queries lines,
          Effective surroundings arguments configuration ∧
          Gathers surroundings arguments queries ∧
          outcome.stdout = String.join (lines.map (· ++ "\n")) ∧
          List.Forall₂ (fun query line => ∃ result,
            Answers configuration.search query result ∧ TellsJson query result line)
            queries lines ∧
          (outcome.status = 1 ∧ (∃ query ∈ queries, Fails configuration.search query) ∨
            outcome.status = 0 ∧ ¬ ∃ query ∈ queries, Fails configuration.search query)) := by
  simp only [run, read]
  rcases runArguments_cases json with
    ⟨fails, outcome, ran, silent, status⟩ | ⟨configuration, queries, effective, gathers⟩
  · refine ⟨outcome, ran, .inl ⟨fails, ?_, status⟩⟩
    rw [Outcome.stdout, silent]
    rfl
  · obtain ⟨few, short⟩ := bounded queries gathers
    obtain ⟨outcome, shares, ran, covers⟩ := runArguments_covers json effective gathers few short
    refine ⟨outcome, ran, .inr ⟨effective.not_setupFails gathers, configuration, queries,
      (Share.join shares).output, effective, gathers, ?_, lines_of_adds covers.each,
      covers.status⟩⟩
    rw [stdout_eq_join, covers.output]

/-- Three queries, one of them with a line feed, two of which fail. -/
theorem run_json_mixed :
    ∃ outcome lines, run ⟨fun _ => none, fun _ => .ok "NOT x\r\n\nopen \"phrase"⟩
        ["--format", "Json", "-f", "q", "a\nb"] = .ok outcome ∧
      outcome.stdout = String.join (lines.map (· ++ "\n")) ∧
      List.Forall₂ (fun query line => ∃ result,
        Answers ⟨.feedThrough, true, true, false⟩ query result ∧ TellsJson query result line)
        ["a\nb", "NOT x", "open \"phrase"] lines ∧ outcome.status = 1 := by
  have gathered : ∀ queries, Gathers ⟨fun _ => none, fun _ => .ok "NOT x\r\n\nopen \"phrase"⟩
      { queries := ["a\nb"], file := some "q", format := some "Json" } queries →
      queries = ["a\nb", "NOT x", "open \"phrase"] := by
    intro queries gathers
    cases gathers with
    | alone absent => cases absent
    | withFile given found =>
      cases found
      rfl
  have bounded : ∀ queries, Gathers ⟨fun _ => none, fun _ => .ok "NOT x\r\n\nopen \"phrase"⟩
      { queries := ["a\nb"], file := some "q", format := some "Json" } queries →
      queries.length < UInt32.size / 2 ∧ ∀ query ∈ queries, query.length ≤ UInt32.size - 2 := by
    intro queries gathers
    rw [gathered queries gathers]
    decide
  have understood : Arguments.read ["--format", "Json", "-f", "q", "a\nb"] = .ok (.tokenize
      { queries := ["a\nb"], file := some "q", format := some "Json" }) := by decide +kernel
  obtain ⟨outcome, ran, ⟨fails, _⟩ | ⟨_, configuration, queries, lines, effective, gathers, told,
    each, status⟩⟩ := run_json understood rfl bounded
  · cases fails with
    | unreadable given => cases given
    | invalid given => cases given
    | logLevel given => cases given
    | queryFile _ refused => cases refused
  · cases gathered queries gathers
    obtain ⟨base, loaded, overridden⟩ := effective
    cases loaded
    cases overridden
    have failed : Fails ⟨.feedThrough, true, true, false⟩ "a\nb" :=
      ⟨_, fun session => tokenize_of_run_error session rfl rfl⟩
    refine ⟨outcome, lines, ran, told, each, ?_⟩
    rcases status with ⟨one, _⟩ | ⟨_, none⟩
    · exact one
    · exact absurd ⟨_, List.mem_cons_self, failed⟩ none

end Command

end SearchLex
