import SearchLex.Proofs.JsonOutput
import SearchLex.Proofs.Layers

/-! Typed values written as data and read again. Positions, spans, kinds and tokens come back
as they were. A configuration does so in all but the spelling of its log level, which is
written as in events and read as in documents. -/

namespace SearchLex

/-! ### Tokens -/

/-- A value that comes back when its data is read, also after the data went through JSON
text. -/
structure Restored (write : α → Datum) (read : Datum → Decoded α) (value : α) : Prop where
  direct : read (write value) = .ok value
  throughText : ∃ datum, Json.read (Json.line (write value)) = some datum ∧
    read datum = .ok value

theorem restored_of_sorted {write : α → Datum} {read : Datum → Decoded α} {value : α}
    (portable : (write value).Portable) (direct : read (write value) = .ok value)
    (sorted : read (Json.sorted (write value)) = .ok value) : Restored write read value :=
  ⟨direct, _, Json.read_line portable, sorted⟩

theorem Position.restored (position : Position) :
    Restored datum (ofDatum .json) position := by
  apply restored_of_sorted position.portable_datum ?_ position.ofDatum_sorted
  simp [ofDatum, datum, Decode.layout, Draft.take, Decode.counter_count, Decode.offset_count,
    Decode.required, bind, Except.bind, pure, Except.pure]

theorem Span.restored (span : Span) : Restored datum (ofDatum .json) span := by
  apply restored_of_sorted span.portable_datum ?_ span.ofDatum_sorted
  simp [ofDatum, datum, Decode.layout, Draft.take, (Position.restored _).direct,
    Decode.required, bind, Except.bind, pure, Except.pure]

theorem Kind.restored (kind : Kind) : Restored datum (ofDatum .json) kind := by
  have portable : kind.datum.Portable := .text kind.name
  have direct : ofDatum .json kind.datum = .ok kind := by cases kind <;> rfl
  exact restored_of_sorted portable direct (Command.ofDatum_sorted_kind kind)

theorem Token.portable_datum (token : Token) : token.datum.Portable :=
  .record (by simp [Datum.Portable.text, Kind.datum])

/-- The fields of a token are in the order of their names. -/
theorem Token.sorted_datum (token : Token) : Json.sorted token.datum = token.datum := by
  rw [datum, Kind.datum, Json.sorted]
  rfl

theorem Token.ofDatum_datum (token : Token) : ofDatum .json token.datum = .ok token := by
  simp [ofDatum, datum, Decode.layout, Draft.take, (Kind.restored _).direct, Decode.text,
    Decode.required, bind, Except.bind, pure, Except.pure]

theorem Token.restored (token : Token) : Restored datum (ofDatum .json) token := by
  apply restored_of_sorted token.portable_datum token.ofDatum_datum
  rw [token.sorted_datum]
  exact token.ofDatum_datum

theorem PlacedToken.restored (token : PlacedToken) : Restored datum (ofDatum .json) token := by
  have portable : (datum token).Portable :=
    .record (by simp [Token.portable_datum, Span.portable_datum])
  have direct : ofDatum .json (datum token) = .ok token := by
    simp [ofDatum, datum, Decode.layout, Draft.take, Token.ofDatum_datum,
      (Span.restored _).direct, Decode.required, bind, Except.bind, pure, Except.pure]
  have ordered : Json.sorted (datum token) = .record
      [("span", Json.sorted token.span.datum), ("value", token.value.datum)] := by
    rw [← token.value.sorted_datum, datum, Json.sorted]
    rfl
  apply restored_of_sorted portable direct
  rw [ordered]
  simp [ofDatum, Decode.layout, Draft.take, Token.ofDatum_datum, Span.ofDatum_sorted,
    Decode.required, bind, Except.bind, pure, Except.pure]

/-- Whatever data a value was read from, the value comes back when it is written and read
again. -/
def Recodes (write : α → Datum) (read : Datum → Decoded α) : Prop :=
  ∀ datum value, read datum = .ok value → Restored write read value

/-- Every token with its place comes back from its data and from its JSON text, with every
number of its span at full range. Any JSON value that reads as a position, a span, a kind or a
token, in whichever form, reads the same after it was written anew. -/
theorem placedToken_roundTrip :
    (∀ token, Restored PlacedToken.datum (PlacedToken.ofDatum .json) token) ∧
    Recodes Position.datum (Position.ofDatum .json) ∧ Recodes Span.datum (Span.ofDatum .json) ∧
    Recodes Kind.datum (Kind.ofDatum .json) ∧ Recodes Token.datum (Token.ofDatum .json) ∧
    Recodes PlacedToken.datum (PlacedToken.ofDatum .json) :=
  ⟨PlacedToken.restored, fun _ position _ => position.restored, fun _ span _ => span.restored,
    fun _ kind _ => kind.restored, fun _ token _ => token.restored,
    fun _ token _ => PlacedToken.restored token⟩

/-- A list for a span, a field too many, a kind as a record of one field and a span that runs
backwards. -/
theorem placedToken_roundTrip_forms :
    PlacedToken.ofDatum .json (.record [("note", .null),
      ("span", .list [.list [.integer 18446744073709551615, .integer 4294967295, .integer 0],
        .record [("column", .integer 2), ("line", .integer 1), ("offset", .integer 1)]]),
      ("value", .record [("kind", .record [("WORD", .null)]), ("literal", .text "a\n")])]) =
        .ok ⟨⟨.word, "a\n"⟩, ⟨⟨18446744073709551615, 4294967295, 0⟩, ⟨1, 1, 2⟩⟩⟩ ∧
    Restored PlacedToken.datum (PlacedToken.ofDatum .json)
      ⟨⟨.word, "a\n"⟩, ⟨⟨18446744073709551615, 4294967295, 0⟩, ⟨1, 1, 2⟩⟩⟩ := by
  have read : PlacedToken.ofDatum .json (.record [("note", .null),
      ("span", .list [.list [.integer 18446744073709551615, .integer 4294967295, .integer 0],
        .record [("column", .integer 2), ("line", .integer 1), ("offset", .integer 1)]]),
      ("value", .record [("kind", .record [("WORD", .null)]), ("literal", .text "a\n")])]) =
        .ok ⟨⟨.word, "a\n"⟩, ⟨⟨18446744073709551615, 4294967295, 0⟩, ⟨1, 1, 2⟩⟩⟩ := by rfl
  exact ⟨read, placedToken_roundTrip.2.2.2.2.2 _ _ read⟩

/-! ### Configurations -/

/-- Data with another value at the end of a path of field names. -/
def Datum.withValue (value : Datum) : List String → Datum → Datum
  | name :: path, .record fields =>
    .record (fields.map fun field =>
      if field.1 = name then (name, withValue value path field.2) else field)
  | [], _ => value
  | _ :: _, datum => datum

/-- The data of a configuration with its log level spelled in another way. -/
def Configuration.respelled (configuration : Configuration) (name : String) : Datum :=
  Datum.withValue (.text name) ["logging", "min_log_level"] configuration.datum

theorem SearchPreferences.ofDatum_datum (format : Format)
    (defaults preferences : SearchPreferences) :
    ofDatum format defaults preferences.datum = .ok preferences := by
  obtain ⟨fallback, _, _, _⟩ := preferences
  cases fallback <;> rfl

/-- Logging preferences are read with whatever level their data has. -/
theorem LoggingPreferences.ofDatum_record (format : Format)
    (defaults preferences : LoggingPreferences) (level : Datum) :
    ofDatum format defaults (.record [("use_structured_logging", .boolean preferences.structured),
      ("enable_console_logging", .boolean preferences.console), ("min_log_level", level)]) =
    (Log.Level.ofDatum format level).map fun minLevel => { preferences with minLevel } := by
  cases read : Log.Level.ofDatum format level <;>
    simp [ofDatum, Decode.layout, take, Decode.boolean, read, Except.map, bind, Except.bind, pure,
      Except.pure]

namespace Configuration

theorem respelled_name (configuration : Configuration) :
    configuration.respelled configuration.logging.minLevel.name = configuration.datum := rfl

/-- A configuration is read from its data with whatever level is spelled there, and with every
other preference as it was; the environment does not matter. -/
theorem ofDatum_respelled (format : Format) (environment : Environment)
    (configuration : Configuration) (name : String) :
    ofDatum format environment (configuration.respelled name) =
      (Decode.named Log.Level.options name).map fun minLevel =>
        { configuration with logging.minLevel := minLevel } := by
  have search := SearchPreferences.ofDatum_datum format (.ofEnvironment environment)
    configuration.search
  have logging := LoggingPreferences.ofDatum_record format (.ofEnvironment environment)
    configuration.logging (.text name)
  have whole : configuration.respelled name = .record [("search", configuration.search.datum),
      ("logging", .record [
        ("use_structured_logging", .boolean configuration.logging.structured),
        ("enable_console_logging", .boolean configuration.logging.console),
        ("min_log_level", .text name)])] := rfl
  rw [Log.Level.ofDatum, Decode.choice] at logging
  rw [whole]
  cases read : Decode.named Log.Level.options name <;>
    simp [ofDatum, Decode.layout, take, search, logging, read, Except.map, bind, Except.bind,
      pure, Except.pure]

/-- Documents know no level by its name in events. -/
theorem named_name (level : Log.Level) :
    Decode.named Log.Level.options level.name =
      .error (.unknownChoice level.name ["error", "warn", "warning", "info", "debug"]) := by
  cases level <;> rfl

/-- The data of a configuration is never read as a configuration, because the level in it is
spelled as in events; with the level under one of its names in documents, and all else as it
was written, it is read as the same configuration in every environment. -/
theorem ofDatum_datum_respelled (format : Format) (environment : Environment)
    (configuration : Configuration) :
    ofDatum format environment configuration.datum =
      .error (.unknownChoice configuration.logging.minLevel.name
        ["error", "warn", "warning", "info", "debug"]) ∧
    ∀ name, Preference.levelNamed name = some configuration.logging.minLevel →
      ofDatum format environment (configuration.respelled name) = .ok configuration := by
  constructor
  · rw [← respelled_name, ofDatum_respelled, named_name]
    rfl
  · intro name names
    rw [ofDatum_respelled, Decode.named, Preference.lookup_level_options, names]
    rfl

/-- Both names of the level of warnings do. -/
theorem ofDatum_datum_respelled_warning :
    ofDatum .toml (fun _ => some "debug")
      (respelled ⟨⟨.legacy, false, true, false⟩, ⟨true, false, .warning⟩⟩ "warn") =
        .ok ⟨⟨.legacy, false, true, false⟩, ⟨true, false, .warning⟩⟩ ∧
    ofDatum .json (fun _ => none)
      (respelled ⟨⟨.legacy, false, true, false⟩, ⟨true, false, .warning⟩⟩ "warning") =
        .ok ⟨⟨.legacy, false, true, false⟩, ⟨true, false, .warning⟩⟩ :=
  ⟨(ofDatum_datum_respelled .toml _ _).2 "warn" rfl,
    (ofDatum_datum_respelled .json _ _).2 "warning" rfl⟩

/-- The configuration that is built in does not come back from its own data. -/
theorem ofDatum_datum_ne :
    ofDatum .json (fun _ => none) (datum ⟨⟨.feedThrough, true, true, false⟩,
      ⟨false, true, .warning⟩⟩) ≠
        .ok ⟨⟨.feedThrough, true, true, false⟩, ⟨false, true, .warning⟩⟩ := by
  intro restored
  cases restored

end Configuration

end SearchLex
