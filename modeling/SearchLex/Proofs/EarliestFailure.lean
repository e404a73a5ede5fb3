import SearchLex.Proofs.Answer

/-! Where a failure lies. What comes before an illegal character can still be completed,
and nothing that goes on with the character can; a phrase that is never closed lacks
nothing but its quotation mark. -/

namespace SearchLex

namespace Scanner

/-- A failed run fails the same way on every longer text. -/
theorem feedAll_append_error {fallback : Fallback} {enforced : Bool} {scanner : Scanner}
    {left : List Char} {failure : Failure}
    (failed : scanner.feedAll fallback enforced left = .ok (.error failure))
    (right : List Char) :
    scanner.feedAll fallback enforced (left ++ right) = .ok (.error failure) := by
  induction left generalizing scanner with
  | nil => cases failed
  | cons ch rest ih =>
    simp only [List.cons_append, feedAll, bind, Except.bind] at failed ⊢
    split at failed
    · cases failed
    · rename_i outcome fed
      cases outcome with
      | error other => exact failed
      | ok next => exact ih failed

end Scanner

namespace Tokenizer

/-- A query that gives a token stream. -/
def Accepts (preferences : SearchPreferences) (session : Log.Session) (query : String) : Prop :=
  ∃ stream later, tokenize preferences query session = .ok (.ok stream, later)

variable {preferences : SearchPreferences} {session : Log.Session}

/-- A text is accepted when its run ends outside any phrase. -/
theorem accepts_of_readAll {query : String} {last : State}
    (unlimited : preferences.enforceLimits = false) (bound : query.length + 2 ≤ UInt32.size)
    (reached : (State.readAll preferences.fallback .expression .start query.toList).outcome =
      .ok last)
    (outside : last.isPhrase = false) : Accepts preferences session query := by
  obtain ⟨later, answered⟩ := tokenize_unlimited unlimited bound session
  have ended : (State.complete preferences.fallback .expression .start query.toList).outcome =
      .ok () :=
    Step.andThen_outcome_ok.mpr ⟨last, reached, State.settle_of_not_phrase outside _⟩
  simp only [answer, Step.answer, ended, Except.map] at answered
  exact ⟨_, later, answered⟩

/-- A quotation mark closes an open phrase. -/
theorem accepts_of_readAll_phrase {query : String} {literal : Literal}
    (unlimited : preferences.enforceLimits = false) (bound : query.length + 3 ≤ UInt32.size)
    (reached : (State.readAll preferences.fallback .expression .start query.toList).outcome =
      .ok (.phrase literal)) : Accepts preferences session (query ++ "\"") := by
  have closed : (State.readAll preferences.fallback .expression .start
      (query ++ "\"").toList).outcome = .ok .expression := by
    rw [String.toList_append, State.readAll_append]
    exact Step.andThen_outcome_ok.mpr ⟨_, reached, rfl⟩
  exact accepts_of_readAll unlimited (by simp only [String.length_append]; exact bound) closed rfl

/-- Every text the machine can read is completed by nothing or by a quotation mark. -/
theorem accepts_or_accepts_closed {query : String} {last : State}
    (unlimited : preferences.enforceLimits = false) (bound : query.length + 3 ≤ UInt32.size)
    (reached : (State.readAll preferences.fallback .expression .start query.toList).outcome =
      .ok last) :
    Accepts preferences session query ∨ Accepts preferences session (query ++ "\"") := by
  cases phase : last.isPhrase with
  | false => exact .inl (accepts_of_readAll unlimited (by omega) reached phase)
  | true =>
    cases last with
    | phrase literal => exact .inr (accepts_of_readAll_phrase unlimited bound reached)
    | _ => cases phase

/-- No text goes on with a character that was refused, however long it is. -/
theorem not_accepts_of_refused {before : List Char} {ch : Char} {middle : State}
    {failure : Failure} (unlimited : preferences.enforceLimits = false)
    (bound : before.length + 3 ≤ UInt32.size)
    (reached : (State.readAll preferences.fallback .expression .start before).outcome = .ok middle)
    (refused : (middle.move preferences.fallback ch (.after before)).outcome = .error failure)
    {query : String} (more : List Char) (split : query.toList = before ++ ch :: more) :
    ¬ Accepts preferences session query := by
  rintro ⟨stream, later, answered⟩
  have fresh : State.expression.Within ([] : List Char).length := trivial
  have fed := @Scanner.feedAll_of_within preferences.fallback [] .expression #[] (before ++ [ch])
    fresh (by simp only [List.length_append, List.length_nil, List.length_singleton]; omega)
  have stopped : (State.readAll preferences.fallback .expression (.after [])
      (before ++ [ch])).outcome = .error failure := by
    rw [State.readAll_append]
    exact Step.andThen_outcome_error.mpr (.inr ⟨middle, reached,
      Step.andThen_outcome_error.mpr (.inl refused)⟩)
  rw [stopped] at fed
  have whole := Scanner.feedAll_append_error fed more
  rw [List.append_assoc, List.singleton_append, ← split] at whole
  have ran := run_of_tokenize answered
  simp only [run, Scanner.scan, Scanner.checkLength, unlimited, Bool.false_and,
    Bool.false_eq_true, ↓reduceIte, Scanner.initial, bind, Except.bind] at ran
  rw [← Position.after_nil, whole] at ran
  cases ran

/-- Failures are exact and as early as can be. The text before an illegal character is the
beginning of an accepted query and no accepted query goes on with the character; an
unterminated phrase starts where a query could have ended and would be closed by one
quotation mark. The failure's span covers exactly the character it is about. -/
theorem failure_earliest {query : String} {later : Log.Session} {failure : Failure}
    (unlimited : preferences.enforceLimits = false) (bound : query.length + 3 ≤ UInt32.size)
    (failed : tokenize preferences query session = .ok (.error failure, later)) :
    match failure with
    | .illegalCharacter ch place =>
      ∃ before rest, query = before ++ String.singleton ch ++ rest ∧
        Position.start.advanceText before = .ok place ∧
        (∃ span, failure.span = .ok (some span) ∧
          span.slice query = some (String.singleton ch)) ∧
        (Accepts preferences session before ∨ Accepts preferences session (before ++ "\"")) ∧
        ∀ more, ¬ Accepts preferences session (before ++ String.singleton ch ++ more)
    | .unterminatedPhrase place =>
      ∃ before rest, query = before ++ "\"" ++ rest ∧
        Position.start.advanceText before = .ok place ∧
        Accepts preferences session before ∧
        (∀ ch ∈ rest.toList, Alphabet.isQuoted ch) ∧
        (∃ span, failure.span = .ok (some span) ∧ span.slice query = some "\"") ∧
        Accepts preferences session (query ++ "\"")
    | .queryTooLong _ | .tooManyTokens _ => False := by
  have ran := (run_unlimited unlimited (by omega)).symm.trans (run_of_tokenize failed)
  have length : query.toList.length = query.length := String.length_toList
  rcases State.complete_error (answer_eq_error.mp (Except.ok.inj ran)) with
    ⟨before, ch, rest, middle, split, rfl, reached, refused⟩ |
    ⟨before, rest, middle, split, rfl, quoted, reached, outside, literal, last⟩
  · have shorter : before.length + 4 ≤ UInt32.size := by
      rw [split, List.length_append, List.length_cons] at length
      omega
    refine ⟨.ofList before, .ofList rest, ?_, ?_,
      ⟨_, Failure.span_illegalCharacter (by omega) ch, ?_⟩, ?_, ?_⟩
    · apply String.toList_injective
      simpa using split
    · rw [Position.advanceText, String.toList_ofList]
      exact Position.advanceChars_start (by omega)
    · rw [String.singleton_eq_ofList]
      exact Span.slice_ofPiece (by simpa using split) (by omega)
    · apply accepts_or_accepts_closed unlimited (by rw [String.length_ofList]; omega)
      rw [String.toList_ofList]
      exact reached
    · intro more
      apply not_accepts_of_refused unlimited (by omega) reached refused more.toList
      simp
  · have shorter : before.length + 4 ≤ UInt32.size := by
      rw [split, List.length_append, List.length_cons] at length
      omega
    refine ⟨.ofList before, .ofList rest, ?_, ?_, ?_, by simpa using quoted,
      ⟨_, Failure.span_unterminatedPhrase (by omega), ?_⟩, ?_⟩
    · apply String.toList_injective
      simpa using split
    · rw [Position.advanceText, String.toList_ofList]
      exact Position.advanceChars_start (by omega)
    · apply accepts_of_readAll unlimited (by rw [String.length_ofList]; omega) _ outside
      rw [String.toList_ofList]
      exact reached
    · have piece : query.toList = before ++ ['"'] ++ rest := by simpa using split
      exact Span.slice_ofPiece piece (by omega)
    · exact accepts_of_readAll_phrase unlimited bound last

theorem failure_earliest_dropped_newline :
    tokenize ⟨.legacy, false, true, false⟩ "NO\nT -" {} =
        .ok (.error (.illegalCharacter '-' ⟨5, 2, 3⟩), {}) ∧
      ∃ before rest, "NO\nT -" = before ++ String.singleton '-' ++ rest ∧
        Position.start.advanceText before = .ok ⟨5, 2, 3⟩ ∧
        ∀ more, ¬ Accepts ⟨.legacy, false, true, false⟩ {}
          (before ++ String.singleton '-' ++ more) := by
  have failed : tokenize ⟨.legacy, false, true, false⟩ "NO\nT -" {} =
      .ok (.error (.illegalCharacter '-' ⟨5, 2, 3⟩), {}) := rfl
  obtain ⟨before, rest, split, place, _, _, refused⟩ := failure_earliest rfl (by decide) failed
  exact ⟨failed, before, rest, split, place, refused⟩

end Tokenizer

end SearchLex
