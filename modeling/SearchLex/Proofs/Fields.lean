import SearchLex.Datum.Decode

/-! Records read field by field. Fields are taken up in their order, so a value of the record
is that of the last field under its name, or what it was before if no field has the name. -/

namespace SearchLex.Decode

/-- Taking up a field reads one value of a record under its name, and leaves the value as it
is under every other name. -/
structure Reads (take : σ → String × Datum → Decoded σ) (view : σ → β) (name : String)
    (decode : Datum → Decoded β) : Prop where
  own {state next : σ} {datum : Datum} :
    take state (name, datum) = .ok next → decode datum = .ok (view next)
  other {state next : σ} {field : String × Datum} :
    field.1 ≠ name → take state field = .ok next → view next = view state

theorem lookup_cons (name other : String) (held : α) (rest : List (String × α)) :
    ((other, held) :: rest).lookup name =
      if name = other then some held else rest.lookup name := by
  by_cases same : name = other <;> simp [List.lookup_cons, same, beq_false_of_ne]

/-- The last of some fields under a name. -/
def latest (name : String) (fields : List (String × Datum)) : Option Datum :=
  fields.reverse.lookup name

theorem latest_cons (name : String) (field : String × Datum) (rest : List (String × Datum)) :
    latest name (field :: rest) =
      (latest name rest).or (if field.1 = name then some field.2 else none) := by
  obtain ⟨other, datum⟩ := field
  rw [latest, List.reverse_cons, List.lookup_append, ← latest, lookup_cons, List.lookup_nil]
  simp only [eq_comm]

theorem mem_of_lookup {name : String} {fields : List (String × α)} {datum : α}
    (found : fields.lookup name = some datum) : (name, datum) ∈ fields := by
  obtain ⟨before, after, split, _⟩ := List.lookup_eq_some_iff.mp found
  rw [split]
  exact List.mem_append_right before List.mem_cons_self

/-- Among fields with distinct names each is found under its own. -/
theorem lookup_of_mem {name : String} {fields : List (String × Datum)} {datum : Datum}
    (distinct : (fields.map Prod.fst).Nodup) (member : (name, datum) ∈ fields) :
    fields.lookup name = some datum := by
  induction fields with
  | nil => cases member
  | cons field rest ih =>
    obtain ⟨other, held⟩ := field
    obtain ⟨fresh, others⟩ := List.nodup_cons.mp distinct
    rw [List.lookup_cons]
    rcases List.mem_cons.mp member with same | later
    · cases same
      simp
    · have apart : name ≠ other := by
        rintro rfl
        exact fresh (List.mem_map.mpr ⟨(name, datum), later, rfl⟩)
      simp [beq_false_of_ne apart, ih others later]

/-- Among fields with distinct names the last under a name is the only one. -/
theorem latest_eq_lookup {fields : List (String × Datum)}
    (distinct : (fields.map Prod.fst).Nodup) (name : String) :
    latest name fields = fields.lookup name := by
  induction fields with
  | nil => rfl
  | cons field rest ih =>
    obtain ⟨other, datum⟩ := field
    obtain ⟨fresh, others⟩ := List.nodup_cons.mp distinct
    rw [latest_cons, ih others, List.lookup_cons]
    by_cases same : other = name
    · have absent : rest.lookup name = none := by
        apply List.lookup_eq_none_iff.mpr
        intro later member
        have apart : name ≠ later.1 := by
          rintro rfl
          exact fresh (List.mem_map.mpr ⟨later, member, same.symm⟩)
        simpa using apart
      simp [absent, same]
    · simp [same, beq_false_of_ne (Ne.symm same)]

section Fold

variable {take : σ → String × Datum → Decoded σ} {fields : List (String × Datum)}

/-- After all fields a value is that of the last field under its name, or as it was before. -/
theorem Reads.foldlM {view : σ → β} {name : String} {decode : Datum → Decoded β}
    (reads : Reads take view name decode) {state last : σ}
    (done : fields.foldlM take state = .ok last) :
    (latest name fields).elim (.ok (view state)) decode = .ok (view last) := by
  induction fields generalizing state with
  | nil =>
    cases done
    rfl
  | cons field rest ih =>
    rw [List.foldlM_cons] at done
    cases step : take state field with
    | error fault =>
      rw [step] at done
      cases done
    | ok next =>
      rw [step] at done
      have after := ih done
      rw [latest_cons]
      cases later : latest name rest with
      | some datum =>
        rw [later] at after
        exact after
      | none =>
        rw [later] at after
        by_cases same : field.1 = name
        · have read : decode field.2 = .ok (view next) := by
            apply reads.own
            rw [← same]
            exact step
          rw [if_pos same]
          exact read.trans after
        · rw [if_neg same]
          exact (congrArg Except.ok (reads.other same step).symm).trans after

/-- Fields are taken up to the end exactly if each one can be; what came before a field does
not matter. -/
theorem foldlM_ok_iff {accepted : String × Datum → Prop}
    (each : ∀ state field, (∃ next, take state field = .ok next) ↔ accepted field) (state : σ) :
    (∃ last, fields.foldlM take state = .ok last) ↔ ∀ field ∈ fields, accepted field := by
  induction fields generalizing state with
  | nil => exact iff_of_true ⟨state, rfl⟩ (fun field member => nomatch member)
  | cons field rest ih =>
    rw [List.forall_mem_cons, ← each state field, List.foldlM_cons]
    cases step : take state field with
    | error fault =>
      apply iff_of_false
      · rintro ⟨last, done⟩
        cases done
      · rintro ⟨⟨next, impossible⟩, _⟩
        cases impossible
    | ok next =>
      rw [and_iff_right ⟨next, rfl⟩, ← ih next]
      rfl

end Fold

end SearchLex.Decode
