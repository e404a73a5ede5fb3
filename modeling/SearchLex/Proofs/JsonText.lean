import SearchLex.Datum.Json
import SearchLex.Datum.JsonReader
import SearchLex.Proofs.Fields
import SearchLex.Token.Codec
import Mathlib.Data.List.Basic

/-! JSON text of plain data. It lies on one line, and reading it gives the data back with the
fields of each record in the order of their names. -/

namespace SearchLex

/-- Data that JSON text says exactly: texts, truth values and counts of 64 bits, in lists and
records. -/
inductive Datum.Portable : Datum → Prop where
  | null : Portable .null
  | boolean (value : Bool) : Portable (.boolean value)
  | count {number : Nat} (fits : number < UInt64.size) : Portable (.count number)
  | text (value : String) : Portable (.text value)
  | list {elements : List Datum} (each : ∀ element ∈ elements, Portable element) :
      Portable (.list elements)
  | record {fields : List (String × Datum)} (each : ∀ field ∈ fields, Portable field.2) :
      Portable (.record fields)

theorem Datum.of_mem_optional {name : String} {value : Option Datum} {field : String × Datum}
    (member : field ∈ Datum.optional name value) :
    ∃ datum, value = some datum ∧ field = (name, datum) := by
  cases value with
  | none => cases member
  | some datum => exact ⟨datum, rfl, List.mem_singleton.mp member⟩

namespace Json

/-! ### Writing -/

/-- A text between quotation marks. -/
def quotedChars (text : String) : List Char :=
  '"' :: text.toList.flatMap (fun ch => (escaped ch).toList) ++ ['"']

theorem toList_writeText (written text : String) :
    (writeText written text).toList = written.toList ++ quotedChars text := by
  have folded (chars : List Char) (start : String) :
      (chars.foldl (fun written ch => written ++ escaped ch) start).toList =
        start.toList ++ chars.flatMap fun ch => (escaped ch).toList := by
    induction chars generalizing start with
    | nil => simp
    | cons ch rest ih => simp [ih]
  simp [writeText, folded, quotedChars]

/-- The text of a field: its name, and its value after a colon. -/
def fieldChars (field : String × Datum) : List Char :=
  quotedChars field.1 ++ ':' :: (line field.2).toList

/-- Further elements of a list, each after a comma. -/
def moreElements (elements : List Datum) : List Char :=
  elements.flatMap fun element => ',' :: (line element).toList

/-- Further fields of a record, each after a comma. -/
def moreFields (fields : List (String × Datum)) : List Char :=
  fields.flatMap fun field => ',' :: fieldChars field

private theorem line_list (first : Datum) (rest : List Datum) :
    line (.list (first :: rest)) = (writeElements (write ("".push '[') first) rest).push ']' := by
  rw [line, write]

private theorem line_record (name : String) (first : Datum) (rest : List (String × Datum)) :
    line (.record ((name, first) :: rest)) =
      (writeFields (write (writeText ("".push '\x7b') name ++ ":") first) rest).push '\x7d' := by
  rw [line, write]

mutual

/-- What is written already stays as it is. -/
theorem toList_write (written : String) : (datum : Datum) →
    (write written datum).toList = written.toList ++ (line datum).toList
  | .null | .boolean _ | .integer _ => by simp [line, write]
  | .real (.finite ..) | .real (.infinite _) | .real .nan => by simp [line, write]
  | .text _ | .moment _ => by simp [line, write, toList_writeText]
  | .list [] | .record [] => by simp [line, write]
  | .list (first :: rest) => by
    simp [line_list, write, toList_writeElements _ rest, toList_write _ first]
  | .record ((name, first) :: rest) => by
    simp [line_record, write, toList_writeFields _ rest, toList_write _ first, toList_writeText]

theorem toList_writeElements (written : String) : (elements : List Datum) →
    (writeElements written elements).toList = written.toList ++ moreElements elements
  | [] => by simp [writeElements, moreElements]
  | next :: rest => by
    simp [writeElements, toList_writeElements _ rest, toList_write _ next, moreElements]

theorem toList_writeFields (written : String) : (fields : List (String × Datum)) →
    (writeFields written fields).toList = written.toList ++ moreFields fields
  | [] => by simp [writeFields, moreFields]
  | (name, next) :: rest => by
    simp [writeFields, toList_writeFields _ rest, toList_write _ next, toList_writeText,
      moreFields, fieldChars]

end

theorem toList_line_text (value : String) : (line (.text value)).toList = quotedChars value := by
  simp [line, write, toList_writeText]

theorem toList_line_count (number : Nat) :
    (line (.count number)).toList = Nat.toDigits 10 number := by
  have digits : toString (number : Int) = toString number := rfl
  simp [line, write, Datum.count, digits]

theorem toList_line_list (first : Datum) (rest : List Datum) :
    (line (.list (first :: rest))).toList =
      '[' :: ((line first).toList ++ moreElements rest ++ [']']) := by
  simp [line_list, toList_writeElements, toList_write]

theorem toList_line_record (first : String × Datum) (rest : List (String × Datum)) :
    (line (.record (first :: rest))).toList =
      '\x7b' :: (fieldChars first ++ moreFields rest ++ ['\x7d']) := by
  obtain ⟨name, value⟩ := first
  simp [line_record, toList_writeFields, toList_write _ value, toList_writeText, fieldChars]

/-! ### One line -/

@[simp] theorem lineFeed_not_mem_toDigits (number : Nat) : '\n' ∉ Nat.toDigits 10 number := by
  intro feed
  exact absurd (Nat.isDigit_of_mem_toDigits (by decide) (by decide) feed) (by decide)

theorem lineFeed_not_mem_escaped (ch : Char) : '\n' ∉ (escaped ch).toList := by
  have hex : ∀ value < 16, Nat.digitChar value ≠ '\n' := by decide
  simp only [escaped]
  split_ifs with quote backslash bell tab feed form carriage control
  · decide
  · decide
  · decide
  · decide
  · decide
  · decide
  · decide
  · have high := hex (ch.toNat / 16 % 16) (Nat.mod_lt _ (by decide))
    have low := hex (ch.toNat % 16) (Nat.mod_lt _ (by decide))
    simp [hexDigit, high.symm, low.symm]
  · simpa using Ne.symm feed

theorem lineFeed_not_mem_quotedChars (text : String) : '\n' ∉ quotedChars text := by
  simp [quotedChars, lineFeed_not_mem_escaped]

theorem lineFeed_not_mem_fieldChars {field : String × Datum}
    (single : '\n' ∉ (line field.2).toList) : '\n' ∉ fieldChars field := by
  simp [fieldChars, lineFeed_not_mem_quotedChars, single]

/-- Portable data is written on one line. -/
theorem lineFeed_not_mem_line {datum : Datum} (portable : datum.Portable) :
    '\n' ∉ (line datum).toList := by
  induction portable with
  | null => decide
  | boolean value => cases value <;> decide
  | count fits =>
    rw [toList_line_count]
    exact lineFeed_not_mem_toDigits _
  | text value =>
    rw [toList_line_text]
    exact lineFeed_not_mem_quotedChars value
  | @list elements _ ih =>
    cases elements with
    | nil => decide
    | cons first rest =>
      rw [toList_line_list]
      simpa [moreElements] using ih
  | @record fields _ ih =>
    cases fields with
    | nil => decide
    | cons first rest =>
      have each := fun field member => lineFeed_not_mem_fieldChars (ih field member)
      rw [toList_line_record]
      simpa [moreFields] using each

/-! ### Reading back -/

mutual

/-- Data with the fields of every record in the order of their names; of fields with one name
the last stays. -/
def sorted : Datum → Datum
  | .list elements => .list (sortedElements elements)
  | .record fields => .record (sortedFields [] fields)
  | datum => datum

def sortedElements : List Datum → List Datum
  | [] => []
  | element :: rest => sorted element :: sortedElements rest

/-- Fields put in order among those found before. -/
def sortedFields (found : List (String × Datum)) :
    List (String × Datum) → List (String × Datum)
  | [] => found
  | (name, value) :: rest => sortedFields (insertField name (sorted value) found) rest

end

@[simp] theorem sorted_text (value : String) : sorted (.text value) = .text value := by
  rw [sorted]
  all_goals simp

theorem sortedElements_eq_map (elements : List Datum) :
    sortedElements elements = elements.map sorted := by
  induction elements with
  | nil => rfl
  | cons element rest ih => rw [sortedElements, ih, List.map_cons]

@[simp] theorem sorted_list (elements : List Datum) :
    sorted (.list elements) = .list (elements.map sorted) := by
  rw [sorted, sortedElements_eq_map]

/-- A field put in order is found under its name, and the others as before. -/
theorem lookup_insertField (key name : String) (value : Datum) (fields : List (String × Datum)) :
    (insertField name value fields).lookup key =
      if key = name then some value else fields.lookup key := by
  induction fields with
  | nil => exact Decode.lookup_cons key name value []
  | cons field rest ih =>
    obtain ⟨other, held⟩ := field
    rw [insertField, Decode.lookup_cons key other]
    by_cases before : name < other
    · rw [if_pos before, Decode.lookup_cons, Decode.lookup_cons]
    · rw [if_neg before]
      by_cases equal : name = other
      · rw [if_pos equal, Decode.lookup_cons, equal]
        by_cases same : key = other <;> simp [same]
      · rw [if_neg equal, Decode.lookup_cons, ih]
        by_cases same : key = name
        · simp [same, equal]
        · simp [same]

/-- Of the fields of a record put in order, the last with a name is found under it. -/
theorem field?_sorted (name : String) (fields : List (String × Datum)) :
    (sorted (.record fields)).field? name = (fields.reverse.lookup name).map sorted := by
  have found (fields before : List (String × Datum)) :
      (sortedFields before fields).lookup name =
        ((fields.reverse.lookup name).map sorted).or (before.lookup name) := by
    induction fields generalizing before with
    | nil => simp [sortedFields]
    | cons field rest ih =>
      obtain ⟨other, value⟩ := field
      rw [sortedFields, ih, lookup_insertField, List.reverse_cons, List.lookup_append,
        Decode.lookup_cons]
      by_cases same : name = other <;> cases (rest.reverse.lookup name) <;> simp [same]
  simp [sorted, Datum.field?, found]

/-- What may stand after a value: the end, a comma or a closing bracket. -/
def Closes (rest : List Char) : Prop :=
  ∀ ch ∈ rest.head?, ch = ',' ∨ ch = ']' ∨ ch = '\x7d'

theorem skipBlanks_cons {ch : Char}
    (solid : (ch == ' ' || ch == '\t' || ch == '\n' || ch == '\r') = false) (rest : List Char) :
    skipBlanks (ch :: rest) = ch :: rest := by
  simp [skipBlanks, List.dropWhile, solid]

theorem stringBody_quote (text : String) (rest : List Char) :
    stringBody text ('"' :: rest) = some (text, rest) := by
  rw [stringBody, if_pos rfl]

theorem stringBody_escape {ch : Char} {rest : List Char} {length : Nat} (text : String)
    (read : escape rest = some (ch, length)) :
    stringBody text ('\\' :: rest) = stringBody (text.push ch) (rest.drop length) := by
  rw [stringBody, if_neg (by decide), if_pos rfl, read]

private theorem stringBody_letter (text : String) (letter ch : Char) (rest : List Char)
    (read : escape (letter :: rest) = some (ch, 1)) :
    stringBody text ('\\' :: letter :: rest) = stringBody (text.push ch) rest :=
  stringBody_escape text read

/-- An escaped character is read as the character. -/
theorem stringBody_escaped (text : String) (ch : Char) (rest : List Char) :
    stringBody text ((escaped ch).toList ++ rest) = stringBody (text.push ch) rest := by
  have codes : ∀ code < 32, hexUnit ['0', '0', hexDigit (code / 16), hexDigit code] = some code ∧
      Text.charOf code = some (Char.ofNat code) := by decide
  simp only [escaped]
  split_ifs with quote backslash bell tab feed form carriage control
  · subst quote
    exact stringBody_letter text '"' '"' rest rfl
  · subst backslash
    exact stringBody_letter text '\\' '\\' rest rfl
  · subst bell
    exact stringBody_letter text 'b' '\x08' rest rfl
  · subst tab
    exact stringBody_letter text 't' '\t' rest rfl
  · subst feed
    exact stringBody_letter text 'n' '\n' rest rfl
  · subst form
    exact stringBody_letter text 'f' '\x0c' rest rfl
  · subst carriage
    exact stringBody_letter text 'r' '\r' rest rfl
  · obtain ⟨unit, code⟩ := codes ch.toNat control
    have read : escape
        ('u' :: '0' :: '0' :: hexDigit (ch.toNat / 16) :: hexDigit ch.toNat :: rest) =
          some (ch, 5) := by
      have head : hexUnit ('0' :: '0' :: hexDigit (ch.toNat / 16) :: hexDigit ch.toNat :: rest) =
          some ch.toNat := unit
      simp [escape, head, code, show ¬ 0xD800 ≤ ch.toNat by omega]
    simpa using stringBody_escape text read
  · rw [String.toList_singleton, List.singleton_append, stringBody, if_neg quote,
      if_neg backslash, if_neg control]

theorem stringBody_quotedChars (text : String) (rest : List Char) :
    stringBody "" (text.toList.flatMap (fun ch => (escaped ch).toList) ++ '"' :: rest) =
      some (text, rest) := by
  have body (chars : List Char) (start : String) :
      stringBody start (chars.flatMap (fun ch => (escaped ch).toList) ++ '"' :: rest) =
        some (start ++ String.ofList chars, rest) := by
    induction chars generalizing start with
    | nil => simpa using stringBody_quote start rest
    | cons ch more ih =>
      rw [List.flatMap_cons, List.append_assoc, stringBody_escaped, ih, String.ofList_cons,
        ← String.append_assoc, String.push_eq_append]
  simpa using body text.toList ""

private theorem head?_toDigits {number : Nat} (positive : 0 < number) :
    (Nat.toDigits 10 number).head? ≠ some '0' := by
  induction number using Nat.strongRecOn with
  | _ number ih =>
    by_cases small : number < 10
    · have digit : ∀ value < 10, 0 < value → Nat.digitChar value ≠ '0' := by decide
      rw [Nat.toDigits_of_lt_base small]
      simpa using digit number small positive
    · rw [Nat.toDigits_of_base_le (by decide) (by omega), List.head?_append_of_ne_nil]
      · exact ih (number / 10) (by omega) (by omega)
      · exact Nat.toDigits_ne_nil

/-- Nothing that may stand after a value goes on with a number. -/
private theorem Closes.not_number {rest : List Char} (closes : Closes rest) :
    Text.digits rest = ([], rest) ∧ fraction rest = some ([], rest) ∧
      exponent rest = some (none, rest) := by
  cases rest with
  | nil => exact ⟨rfl, rfl, rfl⟩
  | cons ch more =>
    rcases closes ch rfl with rfl | rfl | rfl <;> exact ⟨rfl, rfl, rfl⟩

/-- The digits of a count are read as the count. -/
theorem number_toDigits {count : Nat} {rest : List Char} (fits : count < UInt64.size)
    (closes : Closes rest) :
    number (Nat.toDigits 10 count ++ rest) = some (.count count, rest) := by
  have digit : ∀ ch ∈ Nat.toDigits 10 count, ch.isDigit = true := fun ch =>
    Nat.isDigit_of_mem_toDigits (by decide) (by decide)
  have unsigned : ∀ more, Nat.toDigits 10 count ++ rest ≠ '-' :: more := by
    intro more signed
    obtain ⟨first, others, spelled⟩ := List.exists_cons_of_ne_nil (@Nat.toDigits_ne_nil count 10)
    rw [spelled] at signed digit
    cases signed
    exact absurd (digit '-' (by simp)) (by decide)
  obtain ⟨rests, places, power⟩ := closes.not_number
  have split : Text.digits (Nat.toDigits 10 count ++ rest) = (Nat.toDigits 10 count, rest) := by
    obtain ⟨taken, dropped⟩ := Prod.mk.inj rests
    rw [Text.digits, List.takeWhile_append_of_pos digit, List.dropWhile_append_of_pos digit,
      taken, dropped, List.append_nil]
  have whole : 1 < (Nat.toDigits 10 count).length → (Nat.toDigits 10 count).head? ≠ some '0' := by
    intro long
    rcases Nat.eq_zero_or_pos count with rfl | positive
    · exact absurd long (by decide)
    · exact head?_toDigits positive
  have value : Text.decimalNumber (Nat.toDigits 10 count) = count := Nat.ofDigitChars_ten_toDigits
  simpa [number, split, places, power, value, fits, Datum.count] using whole

/-- Text of which the first character is no blank and does not close a list. -/
def Opens (text : List Char) : Prop :=
  ∃ ch rest, text = ch :: rest ∧ ch ≠ ']' ∧
    (ch == ' ' || ch == '\t' || ch == '\n' || ch == '\r') = false

theorem opens_toDigits (count : Nat) : Opens (Nat.toDigits 10 count) := by
  obtain ⟨first, others, spelled⟩ := List.exists_cons_of_ne_nil (@Nat.toDigits_ne_nil count 10)
  have member : first ∈ Nat.toDigits 10 count := by rw [spelled]; exact List.mem_cons_self
  have digit := Nat.isDigit_of_mem_toDigits (by decide) (by decide) member
  refine ⟨first, others, spelled, ?_, ?_⟩
  · rintro rfl
    exact absurd digit (by decide)
  · apply Bool.eq_false_iff.mpr
    intro blank
    have : first = ' ' ∨ first = '\t' ∨ first = '\n' ∨ first = '\r' := by
      simpa [or_assoc] using blank
    rcases this with rfl | rfl | rfl | rfl <;> exact absurd digit (by decide)

theorem opens_line {datum : Datum} (portable : datum.Portable) : Opens (line datum).toList := by
  cases portable with
  | null => exact ⟨'n', ['u', 'l', 'l'], rfl, by decide, rfl⟩
  | boolean value =>
    cases value with
    | true => exact ⟨'t', ['r', 'u', 'e'], rfl, by decide, rfl⟩
    | false => exact ⟨'f', ['a', 'l', 's', 'e'], rfl, by decide, rfl⟩
  | count fits =>
    rw [toList_line_count]
    exact opens_toDigits _
  | text value =>
    rw [toList_line_text]
    exact ⟨'"', _, rfl, by decide, rfl⟩
  | @list elements =>
    cases elements with
    | nil => exact ⟨'[', [']'], rfl, by decide, rfl⟩
    | cons first rest =>
      rw [toList_line_list]
      exact ⟨'[', _, rfl, by decide, rfl⟩
  | @record fields =>
    cases fields with
    | nil => exact ⟨'\x7b', ['\x7d'], rfl, by decide, rfl⟩
    | cons first rest =>
      rw [toList_line_record]
      exact ⟨'\x7b', _, rfl, by decide, rfl⟩

theorem Opens.skipBlanks_append {text : List Char} (opens : Opens text) (rest : List Char) :
    skipBlanks (text ++ rest) = text ++ rest := by
  obtain ⟨ch, more, rfl, _, solid⟩ := opens
  exact skipBlanks_cons solid (more ++ rest)

/-- Data whose text is read as the sorted data, whatever may stand after it. -/
def ReadBack (datum : Datum) : Prop :=
  ∀ budget rest, Closes rest → (line datum).toList.length ≤ budget →
    value budget ((line datum).toList ++ rest) = some (sorted datum, rest)

theorem elements_readBack {first : Datum} {more : List Datum}
    (each : ∀ element ∈ first :: more, ReadBack element) (found : List Datum) {budget : Nat}
    (rest : List Char) (enough : ((line first).toList ++ moreElements more).length ≤ budget) :
    elements (budget + 1) found ((line first).toList ++ moreElements more ++ ']' :: rest) =
      some (.list (found.reverse ++ (first :: more).map sorted), rest) := by
  rw [List.length_append] at enough
  induction more generalizing first found budget with
  | nil =>
    have read := each first (by simp) budget (']' :: rest) (by simp [Closes]) (by omega)
    simp [elements, moreElements, read, @skipBlanks_cons ']' rfl]
  | cons next more ih =>
    have read := each first (by simp) budget
      (',' :: ((line next).toList ++ moreElements more ++ ']' :: rest)) (by simp [Closes])
      (by omega)
    simp only [moreElements, List.flatMap_cons, List.length_append, List.length_cons] at enough
    obtain ⟨budget, rfl⟩ := Nat.exists_eq_add_one_of_ne_zero (by omega : budget ≠ 0)
    have later : ∀ element ∈ next :: more, ReadBack element :=
      fun element member => each element (List.mem_cons_of_mem first member)
    have others := @ih next later (sorted first :: found) budget
      (by simp only [moreElements]; omega)
    have joined : (line first).toList ++ moreElements (next :: more) ++ ']' :: rest =
        (line first).toList ++ ',' :: ((line next).toList ++ moreElements more ++ ']' :: rest) := by
      simp [moreElements]
    rw [joined, elements, read]
    simpa [@skipBlanks_cons ',' rfl] using others

/-- One field is read as the name and its sorted value, and then what follows it. -/
theorem fields_readBack_first {field : String × Datum} (read : ReadBack field.2)
    (found : List (String × Datum)) {budget : Nat} {rest : List Char} (closes : Closes rest)
    (enough : (fieldChars field).length ≤ budget) :
    fields (budget + 1) found (fieldChars field ++ rest) =
      match skipBlanks rest with
      | ',' :: rest => fields budget (insertField field.1 (sorted field.2) found) rest
      | '\x7d' :: rest => some (.record (insertField field.1 (sorted field.2) found), rest)
      | _ => none := by
  simp only [fieldChars, List.length_append, List.length_cons] at enough
  have value := read budget rest closes (by omega)
  have joined : fieldChars field ++ rest =
      '"' :: (field.1.toList.flatMap (fun ch => (escaped ch).toList) ++
        '"' :: ':' :: ((line field.2).toList ++ rest)) := by
    simp [fieldChars, quotedChars]
  rw [joined, fields, @skipBlanks_cons '"' rfl]
  simp only [stringBody_quotedChars, bind, Option.bind, @skipBlanks_cons ':' rfl, value]
  rfl

theorem fields_readBack {first : String × Datum} {more : List (String × Datum)}
    (each : ∀ field ∈ first :: more, ReadBack field.2) (found : List (String × Datum))
    {budget : Nat} (rest : List Char)
    (enough : (fieldChars first ++ moreFields more).length ≤ budget) :
    fields (budget + 1) found (fieldChars first ++ moreFields more ++ '\x7d' :: rest) =
      some (.record (sortedFields found (first :: more)), rest) := by
  rw [List.length_append] at enough
  induction more generalizing first found budget with
  | nil =>
    have read := fields_readBack_first (each first (by simp)) found
      (by simp [Closes] : Closes ('\x7d' :: rest)) (by omega : _ ≤ budget)
    simp [moreFields, read, @skipBlanks_cons '\x7d' rfl, sortedFields]
  | cons next more ih =>
    have read := fields_readBack_first (each first (by simp)) found
      (by simp [Closes] : Closes (',' :: (fieldChars next ++ moreFields more ++ '\x7d' :: rest)))
      (by omega : _ ≤ budget)
    simp only [moreFields, List.flatMap_cons, List.length_append, List.length_cons] at enough
    obtain ⟨budget, rfl⟩ := Nat.exists_eq_add_one_of_ne_zero (by omega : budget ≠ 0)
    have later : ∀ field ∈ next :: more, ReadBack field.2 :=
      fun field member => each field (List.mem_cons_of_mem first member)
    have others := @ih next later (insertField first.1 (sorted first.2) found) budget
      (by simp only [moreFields]; omega)
    have joined : fieldChars first ++ moreFields (next :: more) ++ '\x7d' :: rest =
        fieldChars first ++ ',' :: (fieldChars next ++ moreFields more ++ '\x7d' :: rest) := by
      simp [moreFields]
    rw [joined, read, @skipBlanks_cons ',' rfl]
    exact others

/-- Text that begins with a digit is read as a number. -/
private theorem value_digit {first : Char} {more : List Char} (digit : first.isDigit = true)
    (solid : skipBlanks (first :: more) = first :: more) (budget : Nat) :
    value (budget + 1) (first :: more) = number (first :: more) := by
  rw [value, solid]
  split
  case h_8 => rfl
  all_goals
    rename_i spelled
    cases spelled
  all_goals exact absurd digit (by decide)

/-- Text after an opening bracket that does not close the list at once holds its elements. -/
private theorem value_bracket {text : List Char} (opens : Opens text) (budget : Nat)
    (rest : List Char) :
    value (budget + 1) ('[' :: (text ++ rest)) = elements budget [] (text ++ rest) := by
  have skipped := opens.skipBlanks_append rest
  obtain ⟨ch, more, rfl, inside, _⟩ := opens
  rw [value, @skipBlanks_cons '[' rfl]
  simp only [skipped]
  split
  · rename_i spelled
    cases spelled
    exact absurd rfl inside
  · rfl

theorem readBack_list {first : Datum} {more : List Datum} (opens : Opens (line first).toList)
    (each : ∀ element ∈ first :: more, ReadBack element) : ReadBack (.list (first :: more)) := by
  rw [ReadBack, toList_line_list]
  rintro (_ | _ | budget) rest closes enough
  · simp at enough
  · simp at enough
  · simp only [List.length_cons, List.length_append] at enough
    have read := @elements_readBack first more each [] budget rest
      (by rw [List.length_append]; omega)
    have joined : '[' :: ((line first).toList ++ moreElements more ++ [']']) ++ rest =
        '[' :: ((line first).toList ++ (moreElements more ++ ']' :: rest)) := by
      simp
    rw [joined, value_bracket opens, ← List.append_assoc, read, sorted_list]
    rfl

theorem readBack_record {first : String × Datum} {more : List (String × Datum)}
    (each : ∀ field ∈ first :: more, ReadBack field.2) : ReadBack (.record (first :: more)) := by
  rw [ReadBack, toList_line_record]
  rintro (_ | _ | budget) rest closes enough
  · simp at enough
  · simp at enough
  · simp only [List.length_cons, List.length_append] at enough
    have read := @fields_readBack first more each [] budget rest
      (by rw [List.length_append]; omega)
    have joined : '\x7b' :: (fieldChars first ++ moreFields more ++ ['\x7d']) ++ rest =
        '\x7b' :: (fieldChars first ++ moreFields more ++ '\x7d' :: rest) := by
      simp
    have quote : ∃ text, fieldChars first ++ moreFields more ++ '\x7d' :: rest = '"' :: text :=
      ⟨_, rfl⟩
    obtain ⟨text, spelled⟩ := quote
    rw [spelled] at read joined
    rw [joined, value, @skipBlanks_cons '\x7b' rfl]
    simpa [@skipBlanks_cons '"' rfl, sorted] using read

/-- The text of portable data is read back as the data with its fields in order. -/
theorem readBack {datum : Datum} (portable : datum.Portable) : ReadBack datum := by
  induction portable with
  | null =>
    rintro (_ | budget) rest closes enough
    · exact absurd enough (by decide)
    · simp [line, write, value, @skipBlanks_cons 'n' rfl, keyword, sorted]
  | boolean value =>
    rintro (_ | budget) rest closes enough
    · cases value <;> exact absurd enough (by decide)
    · cases value with
      | true => simp [line, write, Json.value, @skipBlanks_cons 't' rfl, keyword, sorted]
      | false => simp [line, write, Json.value, @skipBlanks_cons 'f' rfl, keyword, sorted]
  | @count count fits =>
    rw [ReadBack, toList_line_count]
    obtain ⟨first, more, spelled, _, solid⟩ := opens_toDigits count
    rintro (_ | budget) rest closes enough
    · simp [spelled] at enough
    · have member : first ∈ Nat.toDigits 10 count := by rw [spelled]; exact List.mem_cons_self
      have digit := Nat.isDigit_of_mem_toDigits (by decide) (by decide) member
      have read := number_toDigits fits closes
      rw [spelled] at read ⊢
      exact (value_digit digit (skipBlanks_cons solid _) budget).trans read
  | text value =>
    rw [ReadBack, toList_line_text]
    rintro (_ | budget) rest closes enough
    · simp [quotedChars] at enough
    · simp [quotedChars, Json.value, @skipBlanks_cons '"' rfl, stringBody_quotedChars, sorted]
  | @list elements each ih =>
    cases elements with
    | nil =>
      rintro (_ | budget) rest closes enough
      · exact absurd enough (by decide)
      · simp [line, write, value, @skipBlanks_cons '[' rfl, @skipBlanks_cons ']' rfl, sorted,
          sortedElements]
    | cons first more => exact readBack_list (opens_line (each first List.mem_cons_self)) ih
  | @record fields each ih =>
    cases fields with
    | nil =>
      rintro (_ | budget) rest closes enough
      · exact absurd enough (by decide)
      · simp [line, write, value, @skipBlanks_cons '\x7b' rfl, @skipBlanks_cons '\x7d' rfl,
          sorted, sortedFields]
    | cons first more => exact readBack_record ih

/-- Reading the line of portable data gives the data with the fields of its records in the
order of their names. -/
theorem read_line {datum : Datum} (portable : datum.Portable) :
    read (line datum) = some (sorted datum) := by
  have found := readBack portable (2 * (line datum).toList.length + 2) [] (by simp [Closes])
    (by omega)
  rw [List.append_nil] at found
  simp only [read, found]
  rfl

end Json

/-! ### Positions and spans read back -/

theorem Position.portable_datum (position : Position) : position.datum.Portable := by
  have offset : Datum.Portable (.count position.offset.toNat) := .count position.offset.toNat_lt
  have line : Datum.Portable (.count position.line.toNat) :=
    .count (Nat.lt_trans position.line.toNat_lt (by decide))
  have column : Datum.Portable (.count position.column.toNat) :=
    .count (Nat.lt_trans position.column.toNat_lt (by decide))
  exact .record (by simp [offset, line, column])

theorem Span.portable_datum (span : Span) : span.datum.Portable :=
  .record (by simp [Position.portable_datum])

theorem Decode.counter_count (number : UInt32) :
    Decode.counter (.count number.toNat) = .ok number := by
  have fits : number.toNat < UInt32.size := number.toNat_lt
  simp [Decode.counter, Datum.count, fits]

theorem Decode.offset_count (number : UInt64) :
    Decode.offset (.count number.toNat) = .ok number := by
  have fits : number.toNat < UInt64.size := number.toNat_lt
  simp [Decode.offset, Datum.count, fits]

theorem Position.ofDatum_sorted (position : Position) :
    Position.ofDatum .json (Json.sorted position.datum) = .ok position := by
  have ordered : Json.sorted position.datum = .record
      [("column", .count position.column.toNat), ("line", .count position.line.toNat),
        ("offset", .count position.offset.toNat)] := by
    rw [Position.datum, Json.sorted]
    rfl
  rw [ordered]
  simp [Position.ofDatum, Decode.layout, Position.Draft.take, Decode.counter_count,
    Decode.offset_count, Decode.required, bind, Except.bind, pure, Except.pure]

theorem Span.ofDatum_sorted (span : Span) :
    Span.ofDatum .json (Json.sorted span.datum) = .ok span := by
  have ordered : Json.sorted span.datum = .record
      [("end", Json.sorted span.stop.datum), ("start", Json.sorted span.start.datum)] := by
    rw [Span.datum, Json.sorted]
    rfl
  rw [ordered]
  simp [Span.ofDatum, Decode.layout, Span.Draft.take, Position.ofDatum_sorted, Decode.required,
    bind, Except.bind, pure, Except.pure]

end SearchLex
