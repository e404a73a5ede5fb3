import SearchLex.Proofs.Fields
import SearchLex.Toml.Document

/-! Documents without repeated keys. Whatever headers, dotted keys and inline tables a
document mixes, a key goes into a table only once, so no table of the data that is read has
two entries under one key. -/

namespace SearchLex

/-- Data in which no record names a field twice. -/
inductive Datum.Unambiguous : Datum → Prop where
  | null : Unambiguous .null
  | boolean (value : Bool) : Unambiguous (.boolean value)
  | integer (value : Int) : Unambiguous (.integer value)
  | real (value : Binary64) : Unambiguous (.real value)
  | text (value : String) : Unambiguous (.text value)
  | moment (written : String) : Unambiguous (.moment written)
  | list {elements : List Datum} (each : ∀ element ∈ elements, Unambiguous element) :
      Unambiguous (.list elements)
  | record {fields : List (String × Datum)} (distinct : (fields.map Prod.fst).Nodup)
      (each : ∀ field ∈ fields, Unambiguous field.2) : Unambiguous (.record fields)

namespace Toml

theorem elementData_eq_map (elements : List Value) :
    elementData elements = elements.map Value.datum := by
  induction elements with
  | nil => rfl
  | cons element rest ih => rw [elementData, ih, List.map_cons]

theorem entryData_eq_map (entries : Entries) :
    entryData entries = entries.map fun entry => (entry.1, entry.2.datum) := by
  induction entries with
  | nil => rfl
  | cons entry rest ih => rw [entryData, ih, List.map_cons]

theorem rowData_eq_map (rows : List Entries) :
    rowData rows = rows.map fun row => .record (entryData row) := by
  induction rows with
  | nil => rfl
  | cons row rest ih => rw [rowData, ih, List.map_cons]

namespace Value

/-- A value none of whose tables has a key twice. -/
def Keyed (value : Value) : Prop := value.datum.Unambiguous

theorem keyed_array {elements : List Value} (each : ∀ element ∈ elements, element.Keyed) :
    (Value.array elements).Keyed := by
  rw [Keyed, datum, elementData_eq_map]
  apply Datum.Unambiguous.list
  intro datum member
  obtain ⟨element, own, rfl⟩ := List.mem_map.mp member
  exact each element own

end Value

namespace Entries

/-- Entries with distinct keys, and the same inside each of them. -/
def Keyed (entries : Entries) : Prop := (Datum.record (entryData entries)).Unambiguous

theorem keyed_iff {entries : Entries} :
    entries.Keyed ↔ (entries.map Prod.fst).Nodup ∧ ∀ entry ∈ entries, entry.2.Keyed := by
  have keys : (entryData entries).map Prod.fst = entries.map Prod.fst := by
    rw [entryData_eq_map, List.map_map]
    rfl
  constructor
  · intro keyed
    cases keyed with
    | record distinct each =>
      refine ⟨keys ▸ distinct, ?_⟩
      intro entry member
      apply each (entry.1, entry.2.datum)
      rw [entryData_eq_map]
      exact List.mem_map_of_mem member
  · rintro ⟨distinct, each⟩
    apply Datum.Unambiguous.record (keys ▸ distinct)
    intro field member
    rw [entryData_eq_map] at member
    obtain ⟨entry, own, rfl⟩ := List.mem_map.mp member
    exact each entry own

theorem keyed_nil : Keyed [] := keyed_iff.mpr ⟨List.nodup_nil, fun _ member => nomatch member⟩

theorem Keyed.table {entries : Entries} (keyed : entries.Keyed) (form : Form) :
    (Value.table form entries).Keyed := by
  rw [Value.Keyed, Value.datum]
  exact keyed

theorem keyed_of_table {entries : Entries} {form : Form} (keyed : (Value.table form entries).Keyed) :
    entries.Keyed := by
  rw [Value.Keyed, Value.datum] at keyed
  exact keyed

theorem keyed_tables_iff {rows : List Entries} :
    (Value.tables rows).Keyed ↔ ∀ row ∈ rows, row.Keyed := by
  rw [Value.Keyed, Value.datum, rowData_eq_map]
  constructor
  · intro keyed row member
    cases keyed with
    | list each => exact each _ (List.mem_map_of_mem member)
  · intro each
    apply Datum.Unambiguous.list
    intro datum member
    obtain ⟨row, own, rfl⟩ := List.mem_map.mp member
    exact each row own

section Changes

variable {entries : Entries} {key : String} {value : Value}

theorem Keyed.of_lookup (keyed : entries.Keyed) (found : entries.lookup key = some value) :
    value.Keyed := by
  obtain ⟨_, each⟩ := keyed_iff.mp keyed
  exact each (key, value) (Decode.mem_of_lookup found)

/-- A new key may be added at the end. -/
theorem Keyed.concat (keyed : entries.Keyed) (fresh : entries.lookup key = none)
    (inner : value.Keyed) : Keyed (entries ++ [(key, value)]) := by
  obtain ⟨distinct, each⟩ := keyed_iff.mp keyed
  apply keyed_iff.mpr
  constructor
  · rw [List.map_append, List.map_singleton, List.nodup_append]
    refine ⟨distinct, by simp, ?_⟩
    rintro name member other only rfl
    obtain ⟨entry, own, same⟩ := List.mem_map.mp member
    have apart := List.lookup_eq_none_iff.mp fresh entry own
    rw [same, List.mem_singleton.mp only] at apart
    simp at apart
  · intro entry member
    rcases List.mem_append.mp member with old | new
    · exact each entry old
    · cases List.mem_singleton.mp new
      exact inner

/-- Changing the value under a key changes no key. -/
theorem Keyed.replace (keyed : entries.Keyed) (inner : value.Keyed) :
    (entries.replace key value).Keyed := by
  obtain ⟨distinct, each⟩ := keyed_iff.mp keyed
  have keys : (entries.replace key value).map Prod.fst = entries.map Prod.fst := by
    rw [Entries.replace, List.map_map]
    apply List.map_congr_left
    intro entry _
    by_cases same : entry.1 = key
    · simp [same]
    · simp [same]
  refine keyed_iff.mpr ⟨keys ▸ distinct, ?_⟩
  intro entry member
  obtain ⟨old, own, rfl⟩ := List.mem_map.mp member
  by_cases same : old.1 = key
  · rw [if_pos same]
    exact inner
  · rw [if_neg same]
    exact each old own

theorem Keyed.filter (keyed : entries.Keyed) (keep : String × Value → Bool) :
    Keyed (entries.filter keep) := by
  obtain ⟨distinct, each⟩ := keyed_iff.mp keyed
  refine keyed_iff.mpr ⟨(List.filter_sublist.map Prod.fst).nodup distinct, ?_⟩
  intro entry member
  exact each entry (List.mem_filter.mp member).1

end Changes

/-! ### Changes along a path -/

/-- A change that keeps keys distinct keeps them so when it is made at the end of a path,
and what it finds there is as good as what it finds anywhere. -/
theorem Keyed.descend {α : Type} {byDots : Bool} {change : Form → Entries → Option (α × Entries)}
    (good : α → Prop)
    (changes : ∀ form entries found later, entries.Keyed →
      change form entries = some (found, later) → good found ∧ later.Keyed)
    {path : List String} {form : Form} {entries later : Entries} {found : α}
    (keyed : entries.Keyed)
    (done : Entries.descend byDots change path form entries = some (found, later)) :
    good found ∧ later.Keyed := by
  induction path generalizing form entries later found with
  | nil => exact changes form entries found later keyed done
  | cons key path ih =>
    rw [Entries.descend] at done
    split at done
    · rename_i fresh
      obtain ⟨⟨other, inner⟩, below, same⟩ := Option.bind_eq_some_iff.mp done
      cases same
      obtain ⟨fine, made⟩ := ih keyed_nil below
      exact ⟨fine, keyed.concat fresh (made.table _)⟩
    · rename_i form inner present
      split at done
      · cases done
      · obtain ⟨⟨other, changed⟩, below, same⟩ := Option.bind_eq_some_iff.mp done
        cases same
        obtain ⟨fine, made⟩ := ih (keyed_of_table (keyed.of_lookup present)) below
        exact ⟨fine, keyed.replace (made.table _)⟩
    · rename_i rows present
      have each := keyed_tables_iff.mp (keyed.of_lookup present)
      split at done
      · cases done
      · rename_i last final
        obtain ⟨⟨other, changed⟩, below, same⟩ := Option.bind_eq_some_iff.mp done
        cases same
        obtain ⟨fine, made⟩ := ih (each last (List.mem_of_getLast? final)) below
        refine ⟨fine, keyed.replace (keyed_tables_iff.mpr ?_)⟩
        intro row member
        rcases List.mem_append.mp member with old | new
        · exact each row (List.dropLast_subset rows old)
        · cases List.mem_singleton.mp new
          exact made
    · cases done

section Operations

variable {entries later : Entries} {path : List String} {key : String}

theorem Keyed.assign {form : Form} {value : Value} (keyed : entries.Keyed) (inner : value.Keyed)
    (done : entries.assign form path key value = some later) : later.Keyed := by
  obtain ⟨⟨_, changed⟩, below, same⟩ := Option.map_eq_some_iff.mp done
  cases same
  refine (keyed.descend (fun _ => True) ?_ below).2
  intro form entries found later keyed changed
  split at changed
  · cases changed
  · split at changed
    · cases changed
    · rename_i fresh
      cases changed
      exact ⟨trivial, keyed.concat (Option.not_isSome_iff_eq_none.mp fresh) inner⟩

theorem Keyed.putTable {table : Entries} (keyed : entries.Keyed) (inner : table.Keyed)
    (done : entries.putTable path key table = some later) : later.Keyed := by
  obtain ⟨⟨_, changed⟩, below, same⟩ := Option.map_eq_some_iff.mp done
  cases same
  refine (keyed.descend (fun _ => True) ?_ below).2
  intro form entries found later keyed changed
  split at changed
  · rename_i fresh
    cases changed
    exact ⟨trivial, keyed.concat fresh (inner.table _)⟩
  · cases changed

theorem Keyed.putRow {table : Entries} (keyed : entries.Keyed) (inner : table.Keyed)
    (done : entries.putRow path key table = some later) : later.Keyed := by
  obtain ⟨⟨_, changed⟩, below, same⟩ := Option.map_eq_some_iff.mp done
  cases same
  refine (keyed.descend (fun _ => True) ?_ below).2
  intro form entries found later keyed changed
  split at changed
  · rename_i fresh
    cases changed
    refine ⟨trivial, keyed.concat fresh (keyed_tables_iff.mpr ?_)⟩
    intro row member
    cases List.mem_singleton.mp member
    exact inner
  · rename_i rows present
    cases changed
    have each := keyed_tables_iff.mp (keyed.of_lookup present)
    refine ⟨trivial, keyed.replace (keyed_tables_iff.mpr ?_)⟩
    intro row member
    rcases List.mem_append.mp member with old | new
    · exact each row old
    · cases List.mem_singleton.mp new
      exact inner
  · cases changed

/-- A table that is opened again has distinct keys, and so has the document without it. -/
theorem Keyed.reopen {table : Entries} (keyed : entries.Keyed)
    (done : entries.reopen path key = some (table, later)) : table.Keyed ∧ later.Keyed := by
  refine keyed.descend Keyed ?_ done
  intro form entries found later keyed changed
  split at changed
  · cases changed
    exact ⟨keyed_nil, keyed⟩
  · rename_i inner present
    cases changed
    exact ⟨keyed_of_table (keyed.of_lookup present), keyed.filter _⟩
  · cases changed

end Operations

end Entries

/-! ### Reading -/

/-- A reader of values none of which has a table with a key twice. -/
def ReadsKeyed (reader : List Char → Option (Value × List Char)) : Prop :=
  ∀ ⦃chars : List Char⦄ ⦃value : Value⦄ ⦃rest : List Char⦄,
    reader chars = some (value, rest) → value.Keyed

theorem readsKeyed_moment : ReadsKeyed moment := by
  intro chars value rest read
  obtain ⟨later, _, same⟩ := Option.bind_eq_some_iff.mp read
  cases same
  exact Datum.Unambiguous.moment _

theorem keyed_of_fits {number : Int} {value : Value} {rest later : List Char}
    (checked : (if fits number then some (Value.integer number, rest) else none) =
      some (value, later)) : value.Keyed := by
  split at checked
  · cases checked
    exact Datum.Unambiguous.integer number
  · cases checked

theorem readsKeyed_based (base : Nat) : ReadsKeyed (based base) := by
  intro chars value rest read
  obtain ⟨⟨found, later⟩, _, checked⟩ := Option.bind_eq_some_iff.mp read
  exact keyed_of_fits checked

theorem readsKeyed_integer : ReadsKeyed integer := by
  intro chars value rest read
  rw [integer.eq_def] at read
  split at read
  · exact readsKeyed_based 16 read
  · exact readsKeyed_based 8 read
  · exact readsKeyed_based 2 read
  · generalize signed _ = sign at read
    obtain ⟨⟨found, later⟩, _, checked⟩ := Option.bind_eq_some_iff.mp read
    exact keyed_of_fits checked

theorem keyed_of_finite {number : Binary64} {value : Value} {rest later : List Char}
    (checked : (if number = .infinite false then none else some (Value.real number, rest)) =
      some (value, later)) : value.Keyed := by
  split at checked
  · cases checked
  · cases checked
    exact Datum.Unambiguous.real _

theorem readsKeyed_ordinaryReal : ReadsKeyed ordinaryReal := by
  intro chars value rest read
  rw [ordinaryReal] at read
  generalize signed _ = sign at read
  obtain ⟨⟨whole, later⟩, _, read⟩ := Option.bind_eq_some_iff.mp read
  simp only at read
  split at read
  · exact keyed_of_finite read
  · obtain ⟨⟨found, later⟩, _, read⟩ := Option.bind_eq_some_iff.mp read
    simp only at read
    split at read
    · exact keyed_of_finite read
    · exact keyed_of_finite read

theorem readsKeyed_specialReal : ReadsKeyed specialReal := by
  intro chars value rest read
  rw [specialReal] at read
  split at read
  · cases read
    exact Datum.Unambiguous.real _
  · cases read
    exact Datum.Unambiguous.real _
  · cases read

theorem readsKeyed_numeric : ReadsKeyed numeric := by
  intro chars value rest read
  rcases Option.or_eq_some_iff.mp read with real | ⟨_, read⟩
  · rcases Option.or_eq_some_iff.mp real with real | ⟨_, read⟩
    · rcases Option.or_eq_some_iff.mp real with read | ⟨_, read⟩
      · exact readsKeyed_moment read
      · exact readsKeyed_ordinaryReal read
    · exact readsKeyed_specialReal read
  · exact readsKeyed_integer read

theorem ReadsKeyed.elements {element : List Char → Option (Value × List Char)}
    (reads : ReadsKeyed element) {budget : Nat} {found : List Value}
    (each : ∀ value ∈ found, value.Keyed) : ReadsKeyed (elements element budget found) := by
  induction budget generalizing found with
  | zero =>
    intro chars value rest read
    cases read
  | succ budget ih =>
    intro chars value rest read
    rw [Toml.elements] at read
    obtain ⟨solid, _, read⟩ := Option.bind_eq_some_iff.mp read
    split at read
    · cases read
      apply Value.keyed_array
      intro value member
      exact each value (List.mem_reverse.mp member)
    · obtain ⟨⟨next, later⟩, one, read⟩ := Option.bind_eq_some_iff.mp read
      have more : ∀ value ∈ next :: found, value.Keyed :=
        List.forall_mem_cons.mpr ⟨reads one, each⟩
      obtain ⟨solid, _, read⟩ := Option.bind_eq_some_iff.mp read
      split at read
      · exact ih more read
      · cases read
        apply Value.keyed_array
        intro value member
        exact more value (List.mem_reverse.mp member)
      · cases read

theorem ReadsKeyed.assignment {element : List Char → Option (Value × List Char)}
    (reads : ReadsKeyed element) {chars rest : List Char} {name : List String × String}
    {value : Value} (read : assignment element chars = some ((name, value), rest)) :
    value.Keyed := by
  obtain ⟨⟨_, later⟩, _, read⟩ := Option.bind_eq_some_iff.mp read
  obtain ⟨solid, _, read⟩ := Option.bind_eq_some_iff.mp read
  obtain ⟨⟨found, last⟩, one, same⟩ := Option.bind_eq_some_iff.mp read
  cases same
  exact reads one

theorem ReadsKeyed.inlineEntries {element : List Char → Option (Value × List Char)}
    (reads : ReadsKeyed element) {budget : Nat} {found : Entries} (keyed : found.Keyed) :
    ReadsKeyed (inlineEntries element budget found) := by
  induction budget generalizing found with
  | zero =>
    intro chars value rest read
    cases read
  | succ budget ih =>
    intro chars value rest read
    rw [Toml.inlineEntries] at read
    obtain ⟨⟨⟨⟨path, last⟩, next⟩, later⟩, one, read⟩ := Option.bind_eq_some_iff.mp read
    obtain ⟨more, assigned, read⟩ := Option.bind_eq_some_iff.mp read
    have still := keyed.assign (reads.assignment one) assigned
    split at read
    · exact ih still read
    · cases read
      exact still.table _
    · cases read

/-- One level of a value: what is inside it was read with less nesting left. -/
theorem readsKeyed_of_below {depth : Nat}
    (below : ∀ lower, depth = lower + 1 → ReadsKeyed (value lower)) : ReadsKeyed (value depth) := by
  have string_keyed {chars rest : List Char} {value : Value}
      (read : (do let found ← string chars; pure (Value.text found.1, found.2)) =
        some (value, rest)) : value.Keyed := by
    obtain ⟨found, _, same⟩ := Option.bind_eq_some_iff.mp read
    cases same
    exact Datum.Unambiguous.text _
  intro chars value rest read
  rw [Toml.value.eq_def] at read
  simp only at read
  split at read
  · exact string_keyed read
  · exact string_keyed read
  · split at read
    · cases read
    · exact (below _ rfl).elements (List.forall_mem_nil _) read
  · split at read
    · cases read
    · split at read
      · cases read
        exact Entries.keyed_nil.table _
      · exact (below _ rfl).inlineEntries Entries.keyed_nil read
  · cases read
    exact Datum.Unambiguous.boolean true
  · cases read
    exact Datum.Unambiguous.boolean false
  · exact readsKeyed_numeric read

/-- No value that is read has a table with a key twice. -/
theorem readsKeyed_value (depth : Nat) : ReadsKeyed (value depth) := by
  induction depth with
  | zero =>
    apply readsKeyed_of_below
    intro lower impossible
    cases impossible
  | succ depth ih =>
    apply readsKeyed_of_below
    intro lower same
    cases same
    exact ih

namespace Draft

/-- A document so far in which no table has a key twice. -/
structure Keyed (draft : Draft) : Prop where
  root : draft.root.Keyed
  current : draft.current.Keyed

variable {draft later : Draft} {path : List String} {key : String}

theorem Keyed.settle {entries : Entries} (keyed : draft.Keyed)
    (done : draft.settle = some entries) : entries.Keyed := by
  rw [Draft.settle] at done
  split at done
  · cases done
    exact keyed.current
  · exact keyed.root.putRow keyed.current done
  · exact keyed.root.putTable keyed.current done

theorem Keyed.start {doubled : Bool} (keyed : draft.Keyed)
    (done : draft.start path key doubled = some later) : later.Keyed := by
  obtain ⟨root, settled, done⟩ := Option.bind_eq_some_iff.mp done
  have whole := keyed.settle settled
  cases doubled with
  | true =>
    cases done
    exact ⟨whole, Entries.keyed_nil⟩
  | false =>
    obtain ⟨⟨table, rest⟩, reopened, same⟩ := Option.bind_eq_some_iff.mp done
    cases same
    obtain ⟨inner, outer⟩ := whole.reopen reopened
    exact ⟨outer, inner⟩

theorem Keyed.assign {value : Value} (keyed : draft.Keyed) (inner : value.Keyed)
    (done : draft.assign path key value = some later) : later.Keyed := by
  obtain ⟨current, assigned, same⟩ := Option.bind_eq_some_iff.mp done
  cases same
  exact ⟨keyed.root, keyed.current.assign inner assigned⟩

theorem Keyed.header {chars rest : List Char} (keyed : draft.Keyed)
    (read : Toml.header draft chars = some (later, rest)) : later.Keyed := by
  rw [Toml.header.eq_def] at read
  split at read
  · obtain ⟨⟨⟨path, last⟩, _⟩, _, read⟩ := Option.bind_eq_some_iff.mp read
    obtain ⟨_, _, read⟩ := Option.bind_eq_some_iff.mp read
    obtain ⟨_, _, read⟩ := Option.bind_eq_some_iff.mp read
    obtain ⟨next, started, read⟩ := Option.bind_eq_some_iff.mp read
    obtain ⟨_, _, same⟩ := Option.bind_eq_some_iff.mp read
    cases same
    exact keyed.start started
  · obtain ⟨⟨⟨path, last⟩, _⟩, _, read⟩ := Option.bind_eq_some_iff.mp read
    obtain ⟨_, _, read⟩ := Option.bind_eq_some_iff.mp read
    obtain ⟨next, started, read⟩ := Option.bind_eq_some_iff.mp read
    obtain ⟨_, _, same⟩ := Option.bind_eq_some_iff.mp read
    cases same
    exact keyed.start started
  · cases read

/-- One statement keeps the keys of every table distinct. -/
theorem Keyed.statement {chars rest : List Char} (keyed : draft.Keyed)
    (read : statement draft chars = some (later, rest)) : later.Keyed := by
  have blank {read : Option (List Char)}
      (done : (do let rest ← read; pure (draft, rest)) = some (later, rest)) : later.Keyed := by
    obtain ⟨_, _, same⟩ := Option.bind_eq_some_iff.mp done
    cases same
    exact keyed
  rw [Toml.statement.eq_def] at read
  split at read
  · exact keyed.header read
  · exact blank read
  · exact blank read
  · exact blank read
  · obtain ⟨⟨⟨⟨path, last⟩, found⟩, _⟩, one, read⟩ := Option.bind_eq_some_iff.mp read
    obtain ⟨next, assigned, read⟩ := Option.bind_eq_some_iff.mp read
    obtain ⟨_, _, same⟩ := Option.bind_eq_some_iff.mp read
    cases same
    exact keyed.assign ((readsKeyed_value _).assignment one) assigned

theorem Keyed.statements {budget : Nat} {chars : List Char} (keyed : draft.Keyed)
    (read : statements budget draft chars = .ok later) : later.Keyed := by
  induction budget generalizing draft chars with
  | zero =>
    rw [Toml.statements.eq_def] at read
    simp only at read
    split at read
    · cases read
      exact keyed
    · cases read
    · contradiction
  | succ budget ih =>
    rw [Toml.statements.eq_def] at read
    simp only at read
    split at read
    · cases read
      exact keyed
    · contradiction
    · rename_i same _
      cases same
      split at read
      · rename_i one
        exact ih (keyed.statement one) read
      · cases read

end Draft

/-- A document is a record, and no record in it names a field twice. -/
theorem unambiguous_of_read {document : String} {datum : Datum}
    (parsed : read document = .ok datum) : ∃ fields, datum = .record fields ∧ datum.Unambiguous := by
  rw [read] at parsed
  simp only at parsed
  split at parsed
  · cases parsed
  · rename_i draft found
    split at parsed
    · cases parsed
    · rename_i entries settled
      cases parsed
      have blank : Draft.Keyed {} := ⟨Entries.keyed_nil, Entries.keyed_nil⟩
      exact ⟨entryData entries, rfl, ((blank.statements found).settle settled).table .header⟩

end Toml

end SearchLex
