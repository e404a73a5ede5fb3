import SearchLex.Proofs.Limits
import SearchLex.Proofs.Reading
import SearchLex.Tokenizer

/-! Answers of the tokenizer. Every failure of a run points at one character of the query,
so reporting it has no fault either, and the tokenizer answers exactly what the machine
without faults does. -/

namespace SearchLex

namespace State

theorem openExpression_error {ch : Char} {place : Position} {failure : Failure}
    (refused : openExpression ch place = .error failure) :
    failure = .illegalCharacter ch place := by
  simp only [openExpression, openTerm] at refused
  repeat (split at refused; · cases refused)
  cases refused
  rfl

private theorem moveWord_error {literal : Literal} {ch : Char} {place : Position}
    {failure : Failure} (refused : (moveWord literal ch place).outcome = .error failure) :
    failure = .illegalCharacter ch place := by
  simp only [moveWord] at refused
  repeat (split at refused; · cases refused)
  cases refused
  rfl

/-- A step fails only by refusing its character. -/
theorem move_error {fallback : Fallback} {state : State} {ch : Char} {place : Position}
    {failure : Failure} (refused : (state.move fallback ch place).outcome = .error failure) :
    failure = .illegalCharacter ch place := by
  cases state with
  | expression => exact openExpression_error refused
  | afterKeyword =>
    simp only [move] at refused
    split at refused
    · cases refused
    · exact openExpression_error refused
  | opening opened =>
    simp only [move] at refused
    split at refused
    · cases refused
      rfl
    · exact openExpression_error refused
  | closing closed => exact openExpression_error refused
  | word literal => exact moveWord_error refused
  | phrase literal =>
    simp only [move, movePhrase] at refused
    repeat (split at refused; · cases refused)
    cases refused
    rfl
  | implicitAnd literal =>
    simp only [move, moveImplicitAnd] at refused
    repeat (split at refused; · cases refused)
    exact openExpression_error refused
  | keyword operator literal held =>
    simp only [move, moveKeyword] at refused
    repeat (split at refused; · cases refused)
    cases fallback with
    | feedThrough => exact moveWord_error refused
    | legacy => cases refused

/-- A run fails by refusing the first character that its state refuses. -/
theorem readAll_error {fallback : Fallback} {state : State} {place : Position}
    {chars : List Char} {failure : Failure}
    (refused : (state.readAll fallback place chars).outcome = .error failure) :
    ∃ before ch rest middle, chars = before ++ ch :: rest ∧
      (state.readAll fallback place before).outcome = .ok middle ∧
      (middle.move fallback ch (place.past before)).outcome = .error failure := by
  induction chars generalizing state place with
  | nil => cases refused
  | cons ch rest ih =>
    rcases Step.andThen_outcome_error.mp refused with now | ⟨next, moved, later⟩
    · exact ⟨[], ch, rest, state, rfl, rfl, now⟩
    · obtain ⟨before, other, tail, middle, split, reached, stopped⟩ := ih later
      refine ⟨ch :: before, other, tail, middle, by rw [split]; rfl, ?_, stopped⟩
      exact Step.andThen_outcome_ok.mpr ⟨next, moved, reached⟩

/-- A state inside the quotation marks of a phrase. -/
def isPhrase : State → Bool
  | .phrase _ => true
  | _ => false

/-- Only an open phrase keeps a query from ending. -/
theorem settle_of_not_phrase {state : State} (outside : state.isPhrase = false)
    (fallback : Fallback) : (state.settle fallback).outcome = .ok () := by
  cases state with
  | phrase literal => cases outside
  | keyword operator literal held =>
    cases fallback with
    | legacy => rfl
    | feedThrough =>
      simp only [settle]
      split <;> rfl
  | expression | afterKeyword | opening place | closing place | word literal
  | implicitAnd literal => rfl

/-- A phrase is open because it was and the character stays inside, or because the
character is the quotation mark that opens it. -/
theorem Transition.to_phrase {fallback : Fallback} {state : State} {ch : Char} {place : Position}
    {emitted : List PlacedToken} {literal : Literal}
    (transition : Transition fallback ch place state emitted (.phrase literal)) :
    (∃ shorter, state = .phrase shorter ∧ Alphabet.isQuoted ch ∧ literal = shorter.push ch) ∨
      state.isPhrase = false ∧ ch = '"' ∧ literal = .ofChar place ch := by
  cases transition with
  | start opens | resume _ opens | retireOpening _ opens | retireClosing opens
  | retireBlanks _ opens =>
    cases opens with
    | phrase own => exact .inr ⟨rfl, own, rfl⟩
  | growPhrase quoted => exact .inl ⟨_, rfl, quoted, rfl⟩
  | word continues | feedThrough _ continues => cases continues

/-- A run that ends inside a phrase either began there and stayed, or read a quotation
mark outside any phrase and has been inside ever since. -/
theorem readAll_phrase {fallback : Fallback} {state : State} {place : Position}
    {chars : List Char} {literal : Literal}
    (reached : (state.readAll fallback place chars).outcome = .ok (.phrase literal)) :
    (∃ shorter, state = .phrase shorter ∧ (∀ ch ∈ chars, Alphabet.isQuoted ch) ∧
      literal.start = shorter.start) ∨
    ∃ before rest middle, chars = before ++ '"' :: rest ∧
      (∀ ch ∈ rest, Alphabet.isQuoted ch) ∧ literal.start = place.past before ∧
      (state.readAll fallback place before).outcome = .ok middle ∧ middle.isPhrase = false := by
  induction chars generalizing state place with
  | nil =>
    cases reached
    exact .inl ⟨literal, rfl, by simp, rfl⟩
  | cons ch rest ih =>
    obtain ⟨next, moved, followed⟩ := Step.andThen_outcome_ok.mp reached
    rcases ih followed with ⟨opened, inside, quoted, start⟩ | ⟨before, tail, middle, split, facts⟩
    · subst inside
      rcases (transition_of_move moved).to_phrase with
        ⟨shorter, inside, own, pushed⟩ | ⟨outside, mark, fresh⟩
      · subst pushed
        exact .inl ⟨shorter, inside, by simpa [own] using quoted, start⟩
      · subst fresh mark
        exact .inr ⟨[], rest, state, rfl, quoted, start, rfl, outside⟩
    · obtain ⟨quoted, start, read, outside⟩ := facts
      refine .inr ⟨ch :: before, tail, middle, by rw [split]; rfl, quoted, start, ?_, outside⟩
      exact Step.andThen_outcome_ok.mpr ⟨next, moved, read⟩

/-- The two ways a query fails without limits: a state refuses a character, or the query
ends inside a phrase. -/
theorem complete_error {fallback : Fallback} {chars : List Char} {failure : Failure}
    (failed : (State.complete fallback .expression .start chars).outcome = .error failure) :
    (∃ before ch rest middle, chars = before ++ ch :: rest ∧
      failure = .illegalCharacter ch (.after before) ∧
      (State.readAll fallback .expression .start before).outcome = .ok middle ∧
      (middle.move fallback ch (.after before)).outcome = .error failure) ∨
    ∃ before rest middle, chars = before ++ '"' :: rest ∧
      failure = .unterminatedPhrase (.after before) ∧ (∀ ch ∈ rest, Alphabet.isQuoted ch) ∧
      (State.readAll fallback .expression .start before).outcome = .ok middle ∧
      middle.isPhrase = false ∧
      ∃ literal, (State.readAll fallback .expression .start chars).outcome =
        .ok (.phrase literal) := by
  rcases Step.andThen_outcome_error.mp failed with refused | ⟨last, reached, ended⟩
  · obtain ⟨before, ch, rest, middle, split, read, stopped⟩ := readAll_error refused
    exact .inl ⟨before, ch, rest, middle, split, move_error stopped, read, stopped⟩
  · cases last with
    | phrase literal =>
      rcases readAll_phrase reached with ⟨_, inside, _⟩ | ⟨before, rest, middle, split, facts⟩
      · cases inside
      · obtain ⟨quoted, start, read, outside⟩ := facts
        cases ended
        exact .inr ⟨before, rest, middle, split, by rw [start]; rfl, quoted, read, outside,
          literal, reached⟩
    | expression | afterKeyword | opening place | closing place | word literal
    | implicitAnd literal | keyword operator literal held =>
      rw [settle_of_not_phrase rfl] at ended
      cases ended

end State

namespace Failure

private theorem single_after {before : List Char} (bound : before.length + 3 ≤ UInt32.size)
    (ch : Char) : Span.single (.after before) ch = .ok (.ofPiece before [ch]) := by
  rw [(Span.single_tracks _ ch).eq_ok (Position.room_after (by omega)), Span.ofPiece,
    Position.after_concat]

/-- An illegal character is what its failure points at. -/
theorem span_illegalCharacter {before : List Char} (bound : before.length + 3 ≤ UInt32.size)
    (ch : Char) :
    (illegalCharacter ch (.after before)).span = .ok (some (.ofPiece before [ch])) := by
  rw [Failure.span, single_after bound]
  rfl

/-- An unterminated phrase points at its quotation mark. -/
theorem span_unterminatedPhrase {before : List Char} (bound : before.length + 3 ≤ UInt32.size) :
    (unterminatedPhrase (.after before)).span = .ok (some (.ofPiece before ['"'])) := by
  rw [Failure.span, single_after bound]
  rfl

end Failure

namespace Tokenizer

/-- What a query without limits is answered. -/
def answer (fallback : Fallback) (query : String) : Except Failure Stream :=
  (State.complete fallback .expression .start query.toList).answer.map .ofTokens

theorem answer_eq_error {fallback : Fallback} {query : String} {failure : Failure} :
    answer fallback query = .error failure ↔
      (State.complete fallback .expression .start query.toList).outcome = .error failure := by
  cases outcome : (State.complete fallback .expression .start query.toList).outcome <;>
    simp [answer, Step.answer, outcome, Except.map]

theorem run_unlimited {preferences : SearchPreferences} {query : String}
    (unlimited : preferences.enforceLimits = false) (bound : query.length + 2 ≤ UInt32.size) :
    run preferences query = .ok (answer preferences.fallback query) := by
  simp only [run, answer, unlimited, Scanner.scan_unlimited preferences.fallback bound]
  cases (State.complete preferences.fallback .expression .start query.toList).answer <;> rfl

/-- A stream holds the tokens of a scan without limits, whether they are enforced or not. -/
theorem scan_of_run {preferences : SearchPreferences} {query : String} {stream : Stream}
    (ran : run preferences query = .ok (.ok stream)) :
    ∃ tokens, stream = .ofTokens tokens ∧
      Scanner.scan preferences.fallback false query = .ok (.ok tokens) := by
  simp only [run, bind, Except.bind] at ran
  split at ran
  · cases ran
  · rename_i result scanned
    cases result with
    | error failure => cases ran
    | ok tokens =>
      cases ran
      exact ⟨tokens, rfl, Scanner.scan_of_limited scanned⟩

/-- A stream is the answer without limits, whether they are enforced or not. -/
theorem answer_of_run {preferences : SearchPreferences} {query : String} {stream : Stream}
    (bound : query.length + 2 ≤ UInt32.size) (ran : run preferences query = .ok (.ok stream)) :
    answer preferences.fallback query = .ok stream := by
  obtain ⟨tokens, rfl, scanned⟩ := scan_of_run ran
  rw [Scanner.scan_unlimited preferences.fallback bound] at scanned
  rw [answer, Except.ok.inj scanned]
  rfl

/-- The tokenizer answers what its run does. -/
theorem run_of_tokenize {preferences : SearchPreferences} {query : String}
    {session later : Log.Session} {result : Except Failure Stream}
    (answered : tokenize preferences query session = .ok (result, later)) :
    run preferences query = .ok result := by
  simp only [tokenize, bind, Except.bind] at answered
  split at answered
  · cases answered
  · rename_i outcome ran
    rw [ran]
    cases outcome with
    | ok stream =>
      simp only [pure, Except.pure] at answered
      split at answered <;> cases answered <;> rfl
    | error failure =>
      simp only at answered
      split at answered <;> cases answered
      rfl

/-- A stream that a run gives is returned, whatever is logged. -/
theorem tokenize_of_run_ok {preferences : SearchPreferences} {query : String}
    {stream : Stream} (session : Log.Session)
    (ran : run preferences query = .ok (.ok stream)) :
    ∃ later, tokenize preferences query session = .ok (.ok stream, later) := by
  simp only [tokenize, ran, bind, Except.bind, pure, Except.pure]
  split <;> exact ⟨_, rfl⟩

/-- A failure that can be pointed at is returned, whatever is logged. -/
theorem tokenize_of_run_error {preferences : SearchPreferences} {query : String}
    {failure : Failure} {span : Option Span} (session : Log.Session)
    (ran : run preferences query = .ok (.error failure)) (pointed : failure.span = .ok span) :
    ∃ later, tokenize preferences query session = .ok (.error failure, later) := by
  simp only [tokenize, ran, failureEvent, pointed, bind, Except.bind, pure, Except.pure]
  cases span with
  | none => exact ⟨_, rfl⟩
  | some place => cases preferences.includePositions <;> exact ⟨_, rfl⟩

/-- A failure that is returned can be pointed at: that was done to log it. -/
theorem span_of_tokenize_error {preferences : SearchPreferences} {query : String}
    {session later : Log.Session} {failure : Failure}
    (failed : tokenize preferences query session = .ok (.error failure, later)) :
    ∃ span, failure.span = .ok span := by
  cases pointed : failure.span with
  | ok span => exact ⟨span, rfl⟩
  | error fault =>
    have ran := run_of_tokenize failed
    simp [tokenize, ran, failureEvent, pointed, bind, Except.bind] at failed

/-- A stream is the answer of the machine without faults, however long the query is. -/
theorem answer_of_tokenize {preferences : SearchPreferences} {query : String}
    {session later : Log.Session} {stream : Stream}
    (answered : tokenize preferences query session = .ok (.ok stream, later)) :
    answer preferences.fallback query = .ok stream := by
  obtain ⟨tokens, rfl, scanned⟩ := scan_of_run (run_of_tokenize answered)
  have same := (Scanner.scan_tracks preferences.fallback query).eq_of_ok scanned
  rw [answer, ← same]
  rfl

/-- A stream holds the tokens of a run of the machine without faults over the whole query. -/
theorem completes_of_tokenize {preferences : SearchPreferences} {query : String}
    {session later : Log.Session} {stream : Stream}
    (answered : tokenize preferences query session = .ok (.ok stream, later)) :
    State.Completes preferences.fallback .expression .start query.toList stream.tokens := by
  obtain ⟨tokens, finished, rfl⟩ := Failure.map_eq_ok (answer_of_tokenize answered)
  exact State.completes_of_answer finished

/-- A failure of a query inside the counters can be pointed at. -/
theorem span_of_answer_error {fallback : Fallback} {query : String} {failure : Failure}
    (bound : query.length + 2 ≤ UInt32.size) (failed : answer fallback query = .error failure) :
    ∃ span, failure.span = .ok span := by
  have inside {before rest : List Char} {ch : Char}
      (split : query.toList = before ++ ch :: rest) : before.length + 3 ≤ UInt32.size := by
    rw [← String.length_toList, split, List.length_append, List.length_cons] at bound
    omega
  rcases State.complete_error (answer_eq_error.mp failed) with
    ⟨before, ch, rest, _, split, rfl, _⟩ | ⟨before, rest, _, split, rfl, _⟩
  · exact ⟨_, Failure.span_illegalCharacter (inside split) ch⟩
  · exact ⟨_, Failure.span_unterminatedPhrase (inside split)⟩

/-- On a query inside the counters the tokenizer without limits always answers. -/
theorem tokenize_unlimited {preferences : SearchPreferences} {query : String}
    (unlimited : preferences.enforceLimits = false) (bound : query.length + 2 ≤ UInt32.size)
    (session : Log.Session) :
    ∃ later, tokenize preferences query session =
      .ok (answer preferences.fallback query, later) := by
  have ran := run_unlimited unlimited bound
  cases result : answer preferences.fallback query with
  | ok stream =>
    rw [result] at ran
    exact tokenize_of_run_ok session ran
  | error failure =>
    rw [result] at ran
    obtain ⟨span, pointed⟩ := span_of_answer_error bound result
    exact tokenize_of_run_error session ran pointed

end Tokenizer

end SearchLex
