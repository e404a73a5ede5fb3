import SearchLex.Proofs.CommandRun
import SearchLex.Proofs.Fields
import SearchLex.Proofs.UniqueKeys

/-! Layers of configuration. Each preference has its own option of the command, key of a
document, environment variable and built-in value, and the first of them that says anything
decides; what the layers say about the other preferences does not matter. -/

namespace SearchLex

/-- The preferences, one by one. -/
inductive Preference where
  | fallback
  | enforceLimits
  | includePositions
  | logSummary
  | structured
  | console
  | minLevel
  deriving DecidableEq, Repr

namespace Preference

/-- What a preference is set to. -/
abbrev Value : Preference → Type
  | .fallback => Fallback
  | .enforceLimits | .includePositions | .logSummary | .structured | .console => Bool
  | .minLevel => Log.Level

/-- The table of a document that has the preference. -/
def table : Preference → String
  | .fallback | .enforceLimits | .includePositions | .logSummary => "search"
  | .structured | .console | .minLevel => "logging"

/-- The preference's key in its table. -/
def key : Preference → String
  | .fallback => "keyword_fallback"
  | .enforceLimits => "enforce_limits"
  | .includePositions => "include_position_in_errors"
  | .logSummary => "log_token_summary"
  | .structured => "use_structured_logging"
  | .console => "enable_console_logging"
  | .minLevel => "min_log_level"

/-- The preference's environment variable. -/
def variableName : Preference → String
  | .fallback => "ODATA_SEARCH_KEYWORD_FALLBACK"
  | .enforceLimits => "ODATA_SEARCH_ENFORCE_LIMITS"
  | .includePositions => "ODATA_SEARCH_INCLUDE_POSITIONS"
  | .logSummary => "ODATA_SEARCH_LOG_TOKEN_SUMMARY"
  | .structured => "ODATA_SEARCH_LOGGING_USE_STRUCTURED"
  | .console => "ODATA_SEARCH_LOGGING_ENABLE_CONSOLE"
  | .minLevel => "ODATA_SEARCH_LOGGING_MIN_LEVEL"

def builtIn : (preference : Preference) → preference.Value
  | .fallback => .feedThrough
  | .enforceLimits | .includePositions | .console => true
  | .logSummary | .structured => false
  | .minLevel => .warning

/-! ### What each layer says -/

/-- The value an option of the command gives. -/
def option (arguments : Command.Arguments) : (preference : Preference) → Option preference.Value
  | .fallback => if arguments.legacyFallback then some .legacy else none
  | .console => if arguments.quiet then some false else none
  | .minLevel => arguments.logLevel.bind fun name => (Log.Level.parse name).toOption
  | .enforceLimits | .includePositions | .logSummary | .structured => none

def fallbackNamed : String → Option Fallback
  | "feed_through" => some .feedThrough
  | "legacy" => some .legacy
  | _ => none

/-- Documents name levels in small letters. -/
def levelNamed : String → Option Log.Level
  | "error" => some .error
  | "warn" | "warning" => some .warning
  | "info" => some .info
  | "debug" => some .debug
  | _ => none

/-- Data that says nothing: an empty table or array. -/
def saysNothing : Datum → Bool
  | .record [] | .list [] => true
  | _ => false

/-- A named choice in a document: the name, or a table with the name for its only key and
nothing under it. -/
def chosen (named : String → Option α) : Datum → Option α
  | .text name => named name
  | .record [(name, payload)] => if saysNothing payload then named name else none
  | _ => none

def truth : Datum → Option Bool
  | .boolean value => some value
  | _ => none

/-- The value that data in a document stands for. -/
def written : (preference : Preference) → Datum → Option preference.Value
  | .fallback => chosen fallbackNamed
  | .enforceLimits | .includePositions | .logSummary | .structured | .console => truth
  | .minLevel => chosen levelNamed

/-- What a document holds under the preference's key. -/
def setting? (preference : Preference) (document : Datum) : Option Datum :=
  (document.field? preference.table).bind (·.field? preference.key)

/-- The value the text of a variable stands for. -/
def parse : (preference : Preference) → String → Option preference.Value
  | .fallback => fun text => (Fallback.parse text).toOption
  | .enforceLimits | .includePositions | .logSummary | .structured | .console =>
    Environment.parseBool
  | .minLevel => fun text => (Log.Level.parse text).toOption

/-- The value the environment gives, white space around it aside. -/
def ambient (preference : Preference) (environment : Environment) : Option preference.Value :=
  (environment preference.variableName).bind fun text => preference.parse (Text.trim text)

/-- The value of a preference through its layers: the command line, the document, the
environment, and what is built in. -/
def resolve (preference : Preference) (arguments : Command.Arguments) (document : Datum)
    (environment : Environment) : preference.Value :=
  (((preference.option arguments).or ((preference.setting? document).bind preference.written)).or
    (preference.ambient environment)).getD preference.builtIn

/-! ### Preferences of a configuration -/

/-- The value a configuration has for the preference. -/
def of (configuration : Configuration) : (preference : Preference) → preference.Value
  | .fallback => configuration.search.fallback
  | .enforceLimits => configuration.search.enforceLimits
  | .includePositions => configuration.search.includePositions
  | .logSummary => configuration.search.logSummary
  | .structured => configuration.logging.structured
  | .console => configuration.logging.console
  | .minLevel => configuration.logging.minLevel

/-- The configuration with another value for the preference. -/
def set (configuration : Configuration) :
    (preference : Preference) → preference.Value → Configuration
  | .fallback, value => { configuration with search.fallback := value }
  | .enforceLimits, value => { configuration with search.enforceLimits := value }
  | .includePositions, value => { configuration with search.includePositions := value }
  | .logSummary, value => { configuration with search.logSummary := value }
  | .structured, value => { configuration with logging.structured := value }
  | .console, value => { configuration with logging.console := value }
  | .minLevel, value => { configuration with logging.minLevel := value }

/-- How data is decoded as a value of the preference. -/
def decode (format : Format) : (preference : Preference) → Datum → Decoded preference.Value
  | .fallback => Fallback.ofDatum format
  | .enforceLimits | .includePositions | .logSummary | .structured | .console => Decode.boolean
  | .minLevel => Log.Level.ofDatum format

theorem of_set (configuration : Configuration) (preference : Preference)
    (value : preference.Value) : of (set configuration preference value) preference = value := by
  cases preference <;> rfl

/-- Setting a preference changes no other. -/
theorem of_set_of_ne (configuration : Configuration) {preference other : Preference}
    (apart : other ≠ preference) (value : preference.Value) :
    of (set configuration preference value) other = of configuration other := by
  cases preference <;> cases other <;> simp_all [of, set]

/-- Without a document the environment and what is built in decide. -/
theorem of_ofEnvironment (environment : Environment) (preference : Preference) :
    of (.ofEnvironment environment) preference =
      (preference.ambient environment).getD preference.builtIn := by
  cases preference <;> rfl

theorem lookup_fallback_options (name : String) :
    Fallback.options.lookup name = fallbackNamed name := by
  unfold fallbackNamed
  split
  · rfl
  · rfl
  · rename_i first second
    simp [Fallback.options, List.lookup_cons, beq_false_of_ne first, beq_false_of_ne second]

theorem lookup_level_options (name : String) :
    Log.Level.options.lookup name = levelNamed name := by
  unfold levelNamed
  split
  · rfl
  · rfl
  · rfl
  · rfl
  · rfl
  · rename_i first second third fourth fifth
    simp [Log.Level.options, List.lookup_cons, beq_false_of_ne first, beq_false_of_ne second,
      beq_false_of_ne third, beq_false_of_ne fourth, beq_false_of_ne fifth]

/-- A choice is decoded as the choice that the data stands for. -/
theorem toOption_choice {options : List (String × α)} {named : String → Option α}
    (same : ∀ name, options.lookup name = named name) (datum : Datum) :
    (Decode.choice .toml options datum).toOption = chosen named datum := by
  have one (name : String) : (Decode.named options name).toOption = named name := by
    rw [Decode.named, ← same]
    cases options.lookup name <;> rfl
  match datum with
  | .text name => exact one name
  | .record [(name, payload)] =>
    have nothing : (Decode.emptyPayload .toml payload).toOption.isSome = saysNothing payload := by
      match payload with
      | .record [] | .list [] | .record (_ :: _) | .list (_ :: _) | .null | .boolean _
      | .integer _ | .real _ | .text _ | .moment _ => rfl
    rw [chosen, ← nothing, ← one, Decode.choice]
    cases Decode.named options name <;> cases Decode.emptyPayload .toml payload <;> rfl
  | .record [] | .record ((_, _) :: _ :: _) | .list _ | .null | .boolean _ | .integer _ | .real _
  | .moment _ => rfl

/-- Data of a document is decoded as the value it stands for. -/
theorem toOption_decode (preference : Preference) (datum : Datum) :
    (preference.decode .toml datum).toOption = preference.written datum := by
  have truths : (Decode.boolean datum).toOption = truth datum := by cases datum <;> rfl
  cases preference with
  | fallback => exact toOption_choice lookup_fallback_options datum
  | minLevel => exact toOption_choice lookup_level_options datum
  | enforceLimits | includePositions | logSummary | structured | console => exact truths

end Preference

open Preference

/-! ### Tables -/

/-- A table whose fields are taken up as the preferences in it say, where each state is part of
a configuration. -/
structure TakesPreferences (table : String) (format : Format) (place : σ → Configuration)
    (take : σ → String × Datum → Decoded σ) : Prop where
  own {preference : Preference} (state : σ) (datum : Datum) : preference.table = table →
    (take state (preference.key, datum)).map place =
      (preference.decode format datum).map (set (place state) preference)
  strange {field : String × Datum} (state : σ) :
    (∀ preference : Preference, preference.table = table → preference.key ≠ field.1) →
    take state field = .ok state

theorem takesPreferences_search (format : Format) (base : Configuration) :
    TakesPreferences "search" format (fun search => { base with search })
      (SearchPreferences.take format) where
  own {preference} state datum inside := by
    cases preference with
    | fallback =>
      change (Fallback.ofDatum format datum >>= _).map _ = (Fallback.ofDatum format datum).map _
      cases Fallback.ofDatum format datum <;> rfl
    | enforceLimits | includePositions | logSummary =>
      change (Decode.boolean datum >>= _).map _ = (Decode.boolean datum).map _
      cases Decode.boolean datum <;> rfl
    | structured | console | minLevel => exact absurd inside (by decide)
  strange {field} state apart := by
    rw [SearchPreferences.take]
    split
    · rename_i same
      exact absurd same.symm (apart .fallback rfl)
    · rename_i same
      exact absurd same.symm (apart .enforceLimits rfl)
    · rename_i same
      exact absurd same.symm (apart .includePositions rfl)
    · rename_i same
      exact absurd same.symm (apart .logSummary rfl)
    · rfl

theorem takesPreferences_logging (format : Format) (base : Configuration) :
    TakesPreferences "logging" format (fun logging => { base with logging })
      (LoggingPreferences.take format) where
  own {preference} state datum inside := by
    cases preference with
    | structured | console =>
      change (Decode.boolean datum >>= _).map _ = (Decode.boolean datum).map _
      cases Decode.boolean datum <;> rfl
    | minLevel =>
      change (Log.Level.ofDatum format datum >>= _).map _ = (Log.Level.ofDatum format datum).map _
      cases Log.Level.ofDatum format datum <;> rfl
    | fallback | enforceLimits | includePositions | logSummary => exact absurd inside (by decide)
  strange {field} state apart := by
    rw [LoggingPreferences.take]
    split
    · rename_i same
      exact absurd same.symm (apart .structured rfl)
    · rename_i same
      exact absurd same.symm (apart .console rfl)
    · rename_i same
      exact absurd same.symm (apart .minLevel rfl)
    · rfl

namespace TakesPreferences

variable {table : String} {format : Format} {place : σ → Configuration}
  {take : σ → String × Datum → Decoded σ}

/-- Taking up the field of a preference sets it to the decoded value, and nothing else. -/
theorem take_own (takes : TakesPreferences table format place take) {preference : Preference}
    (inside : preference.table = table) {state next : σ} {datum : Datum}
    (taken : take state (preference.key, datum) = .ok next) :
    ∃ value, preference.decode format datum = .ok value ∧
      place next = set (place state) preference value := by
  have same := takes.own state datum inside
  rw [taken] at same
  cases read : preference.decode format datum with
  | error fault =>
    rw [read] at same
    cases same
  | ok value =>
    rw [read] at same
    exact ⟨value, rfl, Except.ok.inj same⟩

theorem reads (takes : TakesPreferences table format place take) {preference : Preference}
    (inside : preference.table = table) :
    Decode.Reads take (fun state => of (place state) preference) preference.key
      (preference.decode format) where
  own {state next datum} taken := by
    obtain ⟨value, read, placed⟩ := takes.take_own inside taken
    rw [read, placed, of_set]
  other {state next field} apart taken := by
    by_cases known : ∃ other : Preference, other.table = table ∧ other.key = field.1
    · obtain ⟨other, beside, named⟩ := known
      have different : preference ≠ other := by
        rintro rfl
        exact apart named.symm
      have own : take state (other.key, field.2) = .ok next := by
        rw [named]
        exact taken
      obtain ⟨value, _, placed⟩ := takes.take_own beside own
      rw [placed, of_set_of_ne _ different]
    · have unchanged := takes.strange state fun other beside named => known ⟨other, beside, named⟩
      rw [taken] at unchanged
      rw [Except.ok.inj unchanged]

/-- A field can be taken up exactly if its data stands for a value of the preference it
names. -/
theorem accepts (takes : TakesPreferences table format place take) (state : σ)
    (field : String × Datum) :
    (∃ next, take state field = .ok next) ↔ ∀ preference : Preference, preference.table = table →
      preference.key = field.1 → ∃ value, preference.decode format field.2 = .ok value := by
  obtain ⟨name, datum⟩ := field
  constructor
  · rintro ⟨next, taken⟩ preference inside rfl
    obtain ⟨value, read, _⟩ := takes.take_own inside taken
    exact ⟨value, read⟩
  · intro decodes
    by_cases known : ∃ other : Preference, other.table = table ∧ other.key = name
    · obtain ⟨other, inside, rfl⟩ := known
      obtain ⟨value, read⟩ := decodes other inside rfl
      have same := takes.own state datum inside
      rw [read] at same
      cases taken : take state (other.key, datum) with
      | error fault =>
        rw [taken] at same
        cases same
      | ok next => exact ⟨next, rfl⟩
    · exact ⟨state, takes.strange state fun other inside named => known ⟨other, inside, named⟩⟩

/-- After the fields of a table, if it is there, each of its preferences has the value decoded
from its own field, or else the one from before. -/
theorem of_section (takes : TakesPreferences table format place take) {preference : Preference}
    (inside : preference.table = table) {read : Datum → Decoded σ} {before after : σ}
    (record : ∀ fields, read (.record fields) = fields.foldlM take before) {part : Option Datum}
    (tables : ∀ datum, part = some datum →
      ∃ fields, datum = .record fields ∧ (fields.map Prod.fst).Nodup)
    (done : part.elim (.ok before) read = .ok after) :
    (part.bind (·.field? preference.key)).elim (.ok (of (place before) preference))
      (preference.decode format) = .ok (of (place after) preference) := by
  cases part with
  | none =>
    cases done
    rfl
  | some datum =>
    obtain ⟨fields, rfl, distinct⟩ := tables datum rfl
    have folded := (takes.reads inside).foldlM ((record fields).symm.trans done)
    rw [Decode.latest_eq_lookup distinct] at folded
    exact folded

end TakesPreferences

/-! ### Documents -/

namespace Configuration

variable {environment : Environment}

/-- What taking up a field of a document can do. -/
theorem take_cases {state next : Configuration} {field : String × Datum}
    (taken : take .toml environment state field = .ok next) :
    (field.1 = "search" ∧ ∃ search,
      SearchPreferences.ofDatum .toml (.ofEnvironment environment) field.2 = .ok search ∧
        next = { state with search }) ∨
    (field.1 = "logging" ∧ ∃ logging,
      LoggingPreferences.ofDatum .toml (.ofEnvironment environment) field.2 = .ok logging ∧
        next = { state with logging }) ∨
    (field.1 ≠ "search" ∧ field.1 ≠ "logging" ∧ next = state) := by
  rw [take] at taken
  split at taken
  · rename_i same
    cases read : SearchPreferences.ofDatum .toml (.ofEnvironment environment) field.2 with
    | error fault =>
      rw [read] at taken
      cases taken
    | ok search =>
      rw [read] at taken
      cases taken
      exact .inl ⟨same, search, rfl, rfl⟩
  · rename_i same
    cases read : LoggingPreferences.ofDatum .toml (.ofEnvironment environment) field.2 with
    | error fault =>
      rw [read] at taken
      cases taken
    | ok logging =>
      rw [read] at taken
      cases taken
      exact .inr (.inl ⟨same, logging, rfl, rfl⟩)
  · rename_i search logging
    cases taken
    exact .inr (.inr ⟨search, logging, rfl⟩)

theorem reads_search (environment : Environment) :
    Decode.Reads (take .toml environment) search "search"
      (SearchPreferences.ofDatum .toml (.ofEnvironment environment)) where
  own taken := by
    rcases take_cases taken with ⟨_, search, read, rfl⟩ | ⟨impossible, _⟩ | ⟨impossible, _⟩
    · exact read
    · exact absurd impossible (show "search" ≠ "logging" by decide)
    · exact absurd rfl impossible
  other apart taken := by
    rcases take_cases taken with ⟨same, _⟩ | ⟨_, logging, _, rfl⟩ | ⟨_, _, rfl⟩
    · exact absurd same apart
    · rfl
    · rfl

theorem reads_logging (environment : Environment) :
    Decode.Reads (take .toml environment) logging "logging"
      (LoggingPreferences.ofDatum .toml (.ofEnvironment environment)) where
  own taken := by
    rcases take_cases taken with ⟨impossible, _⟩ | ⟨_, logging, read, rfl⟩ | ⟨_, impossible, _⟩
    · exact absurd impossible (show "logging" ≠ "search" by decide)
    · exact read
    · exact absurd rfl impossible
  other apart taken := by
    rcases take_cases taken with ⟨_, search, _, rfl⟩ | ⟨same, _⟩ | ⟨_, _, rfl⟩
    · rfl
    · exact absurd same apart
    · rfl

/-- A field of a document can be taken up exactly if a table of preferences under it can be
read. -/
theorem accepts_field (environment : Environment) (state : Configuration)
    (field : String × Datum) :
    (∃ next, take .toml environment state field = .ok next) ↔
      (field.1 = "search" → ∃ search,
        SearchPreferences.ofDatum .toml (.ofEnvironment environment) field.2 = .ok search) ∧
      (field.1 = "logging" → ∃ logging,
        LoggingPreferences.ofDatum .toml (.ofEnvironment environment) field.2 = .ok logging) := by
  rw [take]
  split
  · rename_i same
    cases SearchPreferences.ofDatum .toml (.ofEnvironment environment) field.2 <;>
      simp [same, bind, Except.bind, pure, Except.pure]
  · rename_i same
    cases LoggingPreferences.ofDatum .toml (.ofEnvironment environment) field.2 <;>
      simp [same, bind, Except.bind, pure, Except.pure]
  · rename_i search logging
    exact iff_of_true ⟨state, rfl⟩ ⟨fun same => absurd same search, fun same => absurd same logging⟩

end Configuration

/-- A document that has tables, if anything, for the parts of a configuration, and in them
under the key of each preference, if anything, one of its values. -/
structure Datum.WellTyped (document : Datum) : Prop where
  tables (preference : Preference) {part : Datum} :
    document.field? preference.table = some part → ∃ fields, part = .record fields
  values (preference : Preference) {datum : Datum} :
    preference.setting? document = some datum → (preference.written datum).isSome

/-- Data that stands for no table at all. -/
def Datum.isScalar : Datum → Bool
  | .null | .boolean _ | .integer _ | .real _ | .text _ => true
  | .moment _ | .list _ | .record _ => false

/-- A document with an invalid value: under the key of a preference none of its values, or a
scalar where a table of preferences has to be. -/
inductive Datum.Invalid (document : Datum) : Prop where
  | value {preference : Preference} {datum : Datum}
      (present : preference.setting? document = some datum)
      (unfit : preference.written datum = none)
  | table {preference : Preference} {part : Datum}
      (present : document.field? preference.table = some part) (scalar : part.isScalar)

namespace Preference

theorem exists_decode_iff {preference : Preference} {datum : Datum} :
    (∃ value, preference.decode .toml datum = .ok value) ↔ (preference.written datum).isSome := by
  rw [← toOption_decode]
  cases preference.decode .toml datum <;> simp [Except.toOption]

/-- A value that is decoded if it is there, and as before otherwise, is the one the data
stands for. -/
theorem eq_getD_of_elim_decode {preference : Preference} {found : Option Datum}
    {before after : preference.Value}
    (done : found.elim (.ok before) (preference.decode .toml) = .ok after) :
    after = (found.bind preference.written).getD before := by
  cases found with
  | none =>
    cases done
    rfl
  | some datum =>
    change preference.decode .toml datum = _ at done
    rw [Option.bind_some, ← toOption_decode, done]
    rfl

theorem table_cases (preference : Preference) :
    preference.table = "search" ∨ preference.table = "logging" := by
  cases preference <;> decide

/-- The preferences of a table are those of its part of the configuration. -/
theorem of_replace_search (base configuration : Configuration) {preference : Preference}
    (inside : preference.table = "search") :
    of { base with search := configuration.search } preference = of configuration preference := by
  cases preference with
  | fallback | enforceLimits | includePositions | logSummary => rfl
  | structured | console | minLevel => exact absurd inside (by decide)

theorem of_replace_logging (base configuration : Configuration) {preference : Preference}
    (inside : preference.table = "logging") :
    of { base with logging := configuration.logging } preference = of configuration preference := by
  cases preference with
  | structured | console | minLevel => rfl
  | fallback | enforceLimits | includePositions | logSummary => exact absurd inside (by decide)

end Preference

namespace Configuration

variable {environment : Environment} {fields : List (String × Datum)}

/-- Each preference of a document's configuration is the one its own key stands for, or else
the environment's. -/
theorem of_ofDatum {configuration : Configuration} (keyed : (Datum.record fields).Unambiguous)
    (typed : (Datum.record fields).WellTyped)
    (done : ofDatum .toml environment (.record fields) = .ok configuration)
    (preference : Preference) :
    of configuration preference =
      ((preference.setting? (.record fields)).bind preference.written).getD
        (of (.ofEnvironment environment) preference) := by
  cases keyed with
  | record distinct each =>
    have tables : ∀ datum, fields.lookup preference.table = some datum →
        ∃ inner, datum = .record inner ∧ (inner.map Prod.fst).Nodup := by
      intro datum found
      obtain ⟨inner, rfl⟩ := typed.tables preference found
      cases each _ (Decode.mem_of_lookup found) with
      | record apart _ => exact ⟨inner, rfl, apart⟩
    apply eq_getD_of_elim_decode
    rcases preference.table_cases with inside | inside
    · have read := (reads_search environment).foldlM done
      rw [Decode.latest_eq_lookup distinct, ← inside] at read
      have found := (takesPreferences_search .toml (ofEnvironment environment)).of_section inside
        (fun _ => rfl) tables read
      rw [of_replace_search (ofEnvironment environment) configuration inside] at found
      exact found
    · have read := (reads_logging environment).foldlM done
      rw [Decode.latest_eq_lookup distinct, ← inside] at read
      have found := (takesPreferences_logging .toml (ofEnvironment environment)).of_section inside
        (fun _ => rfl) tables read
      rw [of_replace_logging (ofEnvironment environment) configuration inside] at found
      exact found

/-- A table of preferences can be read exactly if each of its values can. -/
theorem ofDatum_search_iff {defaults : SearchPreferences} :
    (∃ search, SearchPreferences.ofDatum .toml defaults (.record fields) = .ok search) ↔
      ∀ field ∈ fields, ∀ preference : Preference, preference.table = "search" →
        preference.key = field.1 → (preference.written field.2).isSome := by
  simp only [← exists_decode_iff]
  exact Decode.foldlM_ok_iff
    (takesPreferences_search .toml (ofEnvironment fun _ => none)).accepts defaults

theorem ofDatum_logging_iff {defaults : LoggingPreferences} :
    (∃ logging, LoggingPreferences.ofDatum .toml defaults (.record fields) = .ok logging) ↔
      ∀ field ∈ fields, ∀ preference : Preference, preference.table = "logging" →
        preference.key = field.1 → (preference.written field.2).isSome := by
  simp only [← exists_decode_iff]
  exact Decode.foldlM_ok_iff
    (takesPreferences_logging .toml (ofEnvironment fun _ => none)).accepts defaults

/-- A well-typed document has a configuration. -/
theorem exists_ofDatum (environment : Environment) (keyed : (Datum.record fields).Unambiguous)
    (typed : (Datum.record fields).WellTyped) :
    ∃ configuration, ofDatum .toml environment (.record fields) = .ok configuration := by
  apply (Decode.foldlM_ok_iff (accepts_field environment) _).mpr
  rintro ⟨name, part⟩ member
  cases keyed with
  | record distinct each =>
    have found := Decode.lookup_of_mem distinct member
    have shape : ∀ preference : Preference, preference.table = name →
        ∃ inner, part = .record inner := by
      rintro preference rfl
      exact typed.tables preference found
    have fits : ∀ inner, part = .record inner → ∀ field ∈ inner, ∀ preference : Preference,
        preference.table = name → preference.key = field.1 →
          (preference.written field.2).isSome := by
      rintro inner rfl ⟨key, datum⟩ own preference rfl rfl
      cases each _ member with
      | record apart _ =>
        apply typed.values preference
        rw [setting?, Datum.field?, found]
        exact Decode.lookup_of_mem apart own
    constructor
    · rintro rfl
      obtain ⟨inner, rfl⟩ := shape .fallback rfl
      exact ofDatum_search_iff.mpr (fits inner rfl)
    · rintro rfl
      obtain ⟨inner, rfl⟩ := shape .minLevel rfl
      exact ofDatum_logging_iff.mpr (fits inner rfl)

/-- A document with an invalid value has no configuration, whatever the environment. -/
theorem not_ofDatum_of_invalid {document : Datum} (invalid : document.Invalid)
    (environment : Environment) (configuration : Configuration) :
    ofDatum .toml environment document ≠ .ok configuration := by
  intro done
  have read : ∀ {preference : Preference} {part : Datum},
      document.field? preference.table = some part →
        (∃ search, preference.table = "search" ∧
          SearchPreferences.ofDatum .toml (.ofEnvironment environment) part = .ok search) ∨
        (∃ logging, preference.table = "logging" ∧
          LoggingPreferences.ofDatum .toml (.ofEnvironment environment) part = .ok logging) := by
    intro preference part present
    cases document with
    | record fields =>
      obtain ⟨search, logging⟩ := (Decode.foldlM_ok_iff (accepts_field environment) _).mp
        ⟨configuration, done⟩ _ (Decode.mem_of_lookup present)
      rcases preference.table_cases with inside | inside
      · obtain ⟨found, read⟩ := search inside
        exact .inl ⟨found, inside, read⟩
      · obtain ⟨found, read⟩ := logging inside
        exact .inr ⟨found, inside, read⟩
    | null | boolean | integer | real | text | moment | list => cases present
  cases invalid with
  | @value preference datum present unfit =>
    obtain ⟨part, outer, inner⟩ := Option.bind_eq_some_iff.mp present
    cases part with
    | record fields =>
      have member := Decode.mem_of_lookup inner
      have fits : (preference.written datum).isSome := by
        rcases read outer with ⟨search, inside, read⟩ | ⟨logging, inside, read⟩
        · exact ofDatum_search_iff.mp ⟨search, read⟩ _ member preference inside rfl
        · exact ofDatum_logging_iff.mp ⟨logging, read⟩ _ member preference inside rfl
      rw [unfit] at fits
      cases fits
    | null | boolean | integer | real | text | moment | list => cases inner
  | @table preference part present scalar =>
    rcases read present with ⟨search, _, read⟩ | ⟨logging, _, read⟩
    · cases part with
      | null | boolean | integer | real | text => cases read
      | moment | list | record => cases scalar
    · cases part with
      | null | boolean | integer | real | text => cases read
      | moment | list | record => cases scalar

/-- A document with an invalid value is refused as ill-typed. -/
theorem ofToml_of_invalid {text : String} {document : Datum}
    (parsed : Toml.read text = .ok document) (invalid : document.Invalid)
    (environment : Environment) : ∃ fault, ofToml environment text = .error (.illTyped fault) := by
  cases read : ofDatum .toml environment document with
  | ok configuration => exact absurd read (not_ofDatum_of_invalid invalid environment configuration)
  | error fault =>
    refine ⟨fault, ?_⟩
    simp [ofToml, parsed, read, Except.mapError, bind, Except.bind]

end Configuration

namespace Command

open Log

/-- The document that a run takes its configuration from. A run without a file has an empty
one. -/
inductive Consults (surroundings : Surroundings) (arguments : Arguments) : Datum → Prop where
  | nothing (absent : arguments.config = none) : Consults surroundings arguments (.record [])
  | file {path text : String} {document : Datum} (given : arguments.config = some path)
      (found : surroundings.read path = .ok text) (parsed : Toml.read text = .ok document) :
      Consults surroundings arguments document

section Effective

variable {surroundings : Surroundings} {arguments : Arguments} {document : Datum}

theorem Consults.unambiguous (consults : Consults surroundings arguments document) :
    ∃ fields, document = .record fields ∧ document.Unambiguous := by
  cases consults with
  | nothing absent => exact ⟨[], rfl, .record List.nodup_nil (List.forall_mem_nil _)⟩
  | file given found parsed => exact Toml.unambiguous_of_read parsed

/-- The configuration of a well-typed document, each preference with the value of its own key
or else of its own variable. -/
theorem Consults.exists_base (consults : Consults surroundings arguments document)
    (typed : document.WellTyped) :
    ∃ base, baseConfiguration surroundings arguments = .ok base ∧
      ∀ preference : Preference, of base preference =
        ((preference.setting? document).bind preference.written).getD
          (of (.ofEnvironment surroundings.environment) preference) := by
  obtain ⟨fields, rfl, keyed⟩ := consults.unambiguous
  obtain ⟨base, read⟩ := Configuration.exists_ofDatum surroundings.environment keyed typed
  refine ⟨base, ?_, Configuration.of_ofDatum keyed typed read⟩
  cases consults with
  | nothing absent =>
    cases read
    rw [baseConfiguration, absent]
  | file given found parsed =>
    simp [baseConfiguration, given, Configuration.load, found, Configuration.ofToml, parsed, read,
      Except.mapError, bind, Except.bind]

/-- Options replace the values of their own preferences. -/
theorem exists_override (base : Configuration)
    (known : ∀ name, arguments.logLevel = some name → ∃ level, Level.parse name = .ok level) :
    ∃ configuration, override arguments base = .ok configuration ∧
      ∀ preference : Preference, of configuration preference =
        (preference.option arguments).getD (of base preference) := by
  have flag {α : Type} (given : Bool) (value other : α) :
      (if given then value else other) = (if given then some value else none).getD other := by
    cases given <;> rfl
  cases given : arguments.logLevel with
  | none =>
    refine ⟨_, by rw [override, given]; rfl, ?_⟩
    intro preference
    cases preference with
    | fallback | console => exact flag _ _ _
    | enforceLimits | includePositions | logSummary | structured => rfl
    | minLevel => simp [Preference.option, given, of]
  | some name =>
    obtain ⟨level, parsed⟩ := known name given
    refine ⟨_, by rw [override, given]; simp only [parsed]; rfl, ?_⟩
    intro preference
    cases preference with
    | fallback | console => exact flag _ _ _
    | enforceLimits | includePositions | logSummary | structured => rfl
    | minLevel => simp [Preference.option, given, parsed, of, Except.toOption]

theorem rank_moreVerbose (left right : Level) :
    (left.moreVerbose right).rank = max left.rank right.rank := by
  cases left <;> cases right <;> rfl

/-- Logging set up from preferences has their level, raised to the floor. -/
theorem minLevel_installed (preferences : LoggingPreferences) :
    ∃ session, ({} : Session).installPreferences preferences = .ok session ∧
      session.minLevel.rank = max preferences.minLevel.rank Level.warning.rank := by
  obtain ⟨fresh, logs, _, installed⟩ := installPreferences_fresh preferences
  refine ⟨_, installed, ?_⟩
  rw [Session.dispatch, (logs.deliver _).1.minLevel, LoggingPreferences.level, rank_moreVerbose]
  rfl

end Effective

/-- Each preference of a run is that of its own option, else that of its own key in the
document, else that of its own variable, else the built-in one, whatever all of them say about
the other preferences; the log then has the level so found or, if that is more verbose, the
level of warnings. A document with an invalid value is refused in every environment. -/
theorem effective_layered (surroundings : Surroundings) (arguments : Arguments) :
    (∀ document, Consults surroundings arguments document → document.WellTyped →
      (∀ name, arguments.logLevel = some name → ∃ level, Level.parse name = .ok level) →
      ∃ configuration,
        (∀ other, Effective surroundings arguments other ↔ other = configuration) ∧
        (∀ preference : Preference, of configuration preference =
          preference.resolve arguments document surroundings.environment) ∧
        ∃ session, ({} : Session).installPreferences configuration.logging = .ok session ∧
          session.minLevel.rank = max (Preference.minLevel.resolve arguments document
            surroundings.environment).rank Level.warning.rank) ∧
    ∀ text document, Toml.read text = .ok document → document.Invalid → ∀ environment,
      ∃ fault, Configuration.ofToml environment text = .error (.illTyped fault) := by
  constructor
  · intro document consults typed known
    obtain ⟨base, loaded, based⟩ := consults.exists_base typed
    obtain ⟨configuration, overridden, final⟩ := exists_override base known
    have resolved : ∀ preference : Preference, of configuration preference =
        preference.resolve arguments document surroundings.environment := by
      intro preference
      rw [final, based, of_ofEnvironment, Preference.resolve, Option.or_assoc]
      cases preference.option arguments <;>
        cases (preference.setting? document).bind preference.written <;> rfl
    refine ⟨configuration, ?_, resolved, ?_⟩
    · intro other
      constructor
      · rintro ⟨another, read, done⟩
        rw [loaded] at read
        cases read
        rw [overridden] at done
        exact (Except.ok.inj done).symm
      · rintro rfl
        exact ⟨base, loaded, overridden⟩
    · obtain ⟨session, installed, level⟩ := minLevel_installed configuration.logging
      refine ⟨session, installed, ?_⟩
      rw [← resolved]
      exact level
  · intro text document parsed invalid environment
    exact Configuration.ofToml_of_invalid parsed invalid environment

/-- Options, keys, a variable with blanks around it and built-in values, each where a layer
below says otherwise or nothing; and a document that no environment helps. -/
theorem effective_layered_mixed :
    Effective
      ⟨fun name => if name = "ODATA_SEARCH_LOG_TOKEN_SUMMARY" then some " true\n" else some "3",
        fun _ => .ok "[logging]\nmin_log_level = 'error'\n[search]\nenforce_limits = false"⟩
      { config := some "c", legacyFallback := true, quiet := true }
      ⟨⟨.legacy, false, true, true⟩, ⟨false, false, .error⟩⟩ ∧
    (∃ session, ({} : Session).installPreferences ⟨false, false, .error⟩ = .ok session ∧
      session.minLevel.rank = 1) ∧
    ∀ environment, ∃ fault, Configuration.ofToml environment
      "[search]\nkeyword_fallback = 'sometimes'" = .error (.illTyped fault) := by
  have parsed : Toml.read "[logging]\nmin_log_level = 'error'\n[search]\nenforce_limits = false" =
      .ok (.record [("logging", .record [("min_log_level", .text "error")]),
        ("search", .record [("enforce_limits", .boolean false)])]) := by decide +kernel
  have strange : Toml.read "[search]\nkeyword_fallback = 'sometimes'" =
      .ok (.record [("search", .record [("keyword_fallback", .text "sometimes")])]) := by
    decide +kernel
  have typed : Datum.WellTyped (.record [("logging", .record [("min_log_level", .text "error")]),
      ("search", .record [("enforce_limits", .boolean false)])]) := by
    constructor
    · intro preference part found
      cases preference <;> cases found <;> exact ⟨_, rfl⟩
    · intro preference datum found
      cases preference <;> cases found <;> rfl
  obtain ⟨⟨⟨fallback, limits, positions, summary⟩, ⟨structured, console, minLevel⟩⟩, only, each,
    session, installed, level⟩ := (effective_layered
      ⟨fun name => if name = "ODATA_SEARCH_LOG_TOKEN_SUMMARY" then some " true\n" else some "3",
        fun _ => .ok "[logging]\nmin_log_level = 'error'\n[search]\nenforce_limits = false"⟩
      { config := some "c", legacyFallback := true, quiet := true }).1 _
    (.file rfl rfl parsed) typed (by intro name given; cases given)
  obtain rfl : fallback = .legacy := each .fallback
  obtain rfl : limits = false := each .enforceLimits
  obtain rfl : positions = true := each .includePositions
  obtain rfl : summary = true := each .logSummary
  obtain rfl : structured = false := each .structured
  obtain rfl : console = false := each .console
  obtain rfl : minLevel = .error := each .minLevel
  have raised : session.minLevel.rank = 1 := level
  have refused := (effective_layered ⟨fun _ => none, fun _ => .error .notFound⟩ {}).2 _ _ strange
    (@Datum.Invalid.value _ .fallback (.text "sometimes") rfl rfl)
  exact ⟨(only _).mpr rfl, ⟨session, installed, raised⟩, refused⟩

end Command

end SearchLex
