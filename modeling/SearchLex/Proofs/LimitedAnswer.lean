import SearchLex.Proofs.Answer

/-! Answers under limits. They are the answers without limits, apart from the limits' own
failures, and with limits no query at all makes the tokenizer fault. -/

namespace SearchLex

namespace Fallback

/-- The most tokens one step retires. A broken keyword that is fed through can retire the
blanks before it and itself. -/
def burst : Fallback → Nat
  | .feedThrough => 2
  | .legacy => 1

theorem one_le_burst (fallback : Fallback) : 1 ≤ fallback.burst := by
  cases fallback <;> decide

end Fallback

namespace State

theorem length_released_le (held : Option Literal) : (released held).length ≤ 1 := by
  cases held with
  | none => exact Nat.zero_le 1
  | some blanks => exact Nat.le_refl 1

theorem Continues.length_emitted_le {literal : Literal} {ch : Char} {place : Position}
    {emitted : List PlacedToken} {next : State}
    (continues : Continues literal ch place emitted next) : emitted.length ≤ 1 := by
  cases continues with
  | grow => exact Nat.zero_le 1
  | close | part => exact Nat.le_refl 1

theorem Transition.length_emitted_le {fallback : Fallback} {ch : Char} {place : Position}
    {state next : State} {emitted : List PlacedToken}
    (transition : Transition fallback ch place state emitted next) :
    emitted.length ≤ fallback.burst := by
  have least := fallback.one_le_burst
  cases transition with
  | start | skip | resume | growPhrase | growBlanks | hold | growKeyword | drop =>
    exact Nat.zero_le _
  | retireOpening | retireClosing | endPhrase | retireBlanks | endKeyword => exact least
  | word continues => exact Nat.le_trans continues.length_emitted_le least
  | @feedThrough operator literal held emitted next mode continues =>
    have word := continues.length_emitted_le
    have blanks := length_released_le held
    subst mode
    rw [List.length_append, Fallback.burst]
    omega

theorem Ends.length_le {fallback : Fallback} {state : State} {tokens : List PlacedToken}
    (ends : Ends fallback state tokens) : tokens.length ≤ fallback.burst := by
  have least := fallback.one_le_burst
  cases ends with
  | expression | afterKeyword | blanks | lost => exact Nat.zero_le _
  | opening | closing | word | operator => exact least
  | broken held mode =>
    have blanks := length_released_le held
    subst mode
    rw [List.length_append, List.length_singleton, Fallback.burst]
    omega

end State

namespace Scanner

open Limits

variable {fallback : Fallback} {scanner : Scanner}

/-- A step adds few tokens. -/
theorem size_of_feed {ch : Char} {next : Scanner}
    (fed : scanner.feed fallback false ch = .ok (.ok next)) :
    next.tokens.size ≤ scanner.tokens.size + fallback.burst := by
  have same := (scanner.feed_tracks fallback ch).eq_of_ok fed
  obtain ⟨state, moved, rfl⟩ := Failure.map_eq_ok same.symm
  have few := (State.transition_of_move moved).length_emitted_le
  rw [← Array.length_toList]
  simpa using few

theorem length_of_close {tokens : List PlacedToken}
    (closed : scanner.close fallback false = .ok (.ok tokens)) :
    tokens.length ≤ scanner.tokens.size + fallback.burst := by
  have same := (scanner.close_tracks fallback).eq_of_ok closed
  obtain ⟨more, answered, rfl⟩ := Failure.map_eq_ok same.symm
  obtain ⟨_, ended, rfl⟩ := Failure.map_eq_ok answered
  simpa using (State.ends_of_settle ended).length_le

/-- A run that goes over the limit does so by the tokens of one step. -/
theorem overflow_bounds {chars : List Char} {count : Nat}
    (fits : scanner.tokens.size ≤ tokenCount)
    (exceeded : scanner.overflow fallback chars = some count) :
    tokenCount < count ∧ count ≤ tokenCount + fallback.burst := by
  induction chars generalizing scanner with
  | nil =>
    rw [overflow_nil fits] at exceeded
    cases exceeded
  | cons ch rest ih =>
    rw [overflow_cons fits] at exceeded
    cases fed : scanner.feed fallback false ch with
    | error fault => simp [fed] at exceeded
    | ok result =>
      cases result with
      | error failure => simp [fed] at exceeded
      | ok next =>
        simp only [fed] at exceeded
        by_cases full : tokenCount < next.tokens.size
        · rw [overflow_of_full full] at exceeded
          cases exceeded
          have grown := size_of_feed fed
          exact ⟨full, by omega⟩
        · exact ih (Nat.not_lt.mp full) exceeded

/-- A run that never goes over the limit ends inside it. -/
theorem size_of_feedAll {chars : List Char} {last : Scanner}
    (under : scanner.overflow fallback chars = none)
    (fed : scanner.feedAll fallback false chars = .ok (.ok last)) :
    last.tokens.size ≤ tokenCount := by
  have whole : chars ∈ chars.inits := (List.mem_inits chars chars).mpr (List.prefix_refl chars)
  have never := List.findSome?_eq_none_iff.mp under chars whole
  simpa [retired, fed] using never

/-- Tokens found without going over the limit on the way are over it by those of the end. -/
theorem length_of_scan {query : String} {tokens : List PlacedToken}
    (under : initial.overflow fallback query.toList = none)
    (scanned : scan fallback false query = .ok (.ok tokens)) :
    tokens.length ≤ tokenCount + fallback.burst := by
  obtain ⟨last, fed, closed⟩ := feedAll_of_scan scanned
  have inside := size_of_feedAll under fed
  have few := length_of_close closed
  omega

end Scanner

namespace Tokenizer

open Limits

variable {preferences : SearchPreferences} {fallback : Fallback} {query : String}

/-- What a query is answered under limits. -/
def limitedAnswer (fallback : Fallback) (query : String) : Except Failure Stream :=
  if queryLength < query.length then .error (.queryTooLong query.length)
  else match Scanner.initial.overflow fallback query.toList with
    | some count => .error (.tooManyTokens count)
    | none => capped Stream.size (answer fallback query)

/-- A query that passes the length limit is far inside the counters. -/
theorem inside_of_not_long (short : ¬ queryLength < query.length) :
    query.length + 2 ≤ UInt32.size := by
  simp only [queryLength, UInt32.size] at short ⊢
  omega

theorem run_limited (limited : preferences.enforceLimits = true) (query : String) :
    run preferences query = .ok (limitedAnswer preferences.fallback query) := by
  simp only [run, limited, Scanner.scan_limited, limitedAnswer]
  by_cases long : queryLength < query.length
  · simp only [if_pos long]
    rfl
  · simp only [if_neg long]
    cases Scanner.initial.overflow preferences.fallback query.toList with
    | some count => rfl
    | none =>
      simp only [Scanner.scan_unlimited preferences.fallback (inside_of_not_long long), answer]
      cases (State.complete preferences.fallback .expression .start query.toList).answer with
      | error failure => rfl
      | ok tokens =>
        by_cases full : tokenCount < tokens.length
        · have large : tokenCount < (Stream.ofTokens tokens).size := full
          simp only [Except.map, capped_full List.length full, capped_full Stream.size large]
          rfl
        · have kept : (Stream.ofTokens tokens).size ≤ tokenCount := Nat.not_lt.mp full
          simp only [Except.map, capped_ok List.length (Nat.not_lt.mp full),
            capped_ok Stream.size kept]
          rfl

/-- Tokens found without limits are few enough to report, if the run did not go over the
limit on the way. -/
theorem size_of_answer {stream : Stream} (short : ¬ queryLength < query.length)
    (under : Scanner.initial.overflow fallback query.toList = none)
    (found : answer fallback query = .ok stream) :
    stream.size ≤ tokenCount + fallback.burst := by
  have scanned := Scanner.scan_unlimited fallback (inside_of_not_long short)
  obtain ⟨tokens, free, rfl⟩ := Failure.map_eq_ok found
  rw [free] at scanned
  exact Scanner.length_of_scan under scanned

/-- The failures under limits: the query is too long, a step went over the token limit, or
the query fails without limits too. -/
theorem limitedAnswer_error {failure : Failure}
    (failed : limitedAnswer fallback query = .error failure) :
    failure = .queryTooLong query.length ∨
      (∃ count, failure = .tooManyTokens count ∧ tokenCount < count ∧
        count ≤ tokenCount + fallback.burst) ∨
      query.length + 2 ≤ UInt32.size ∧ answer fallback query = .error failure := by
  rw [limitedAnswer] at failed
  split at failed
  · cases failed
    exact .inl rfl
  · rename_i short
    split at failed
    · rename_i count exceeded
      cases failed
      exact .inr (.inl ⟨count, rfl, Scanner.overflow_bounds (Nat.zero_le _) exceeded⟩)
    · rename_i under
      cases free : answer fallback query with
      | error other =>
        rw [free] at failed
        cases failed
        exact .inr (.inr ⟨inside_of_not_long short, rfl⟩)
      | ok stream =>
        by_cases full : tokenCount < stream.size
        · rw [free, capped_full Stream.size full] at failed
          cases failed
          exact .inr (.inl ⟨stream.size, rfl, full, size_of_answer short under free⟩)
        · rw [free, capped_ok Stream.size (Nat.not_lt.mp full)] at failed
          cases failed

/-- Under limits the tokenizer always answers. -/
theorem tokenize_limited (limited : preferences.enforceLimits = true) (query : String)
    (session : Log.Session) :
    ∃ later, tokenize preferences query session =
      .ok (limitedAnswer preferences.fallback query, later) := by
  have ran := run_limited limited query
  cases result : limitedAnswer preferences.fallback query with
  | ok stream =>
    rw [result] at ran
    exact tokenize_of_run_ok session ran
  | error failure =>
    rw [result] at ran
    have pointed : ∃ span, failure.span = .ok span := by
      rcases limitedAnswer_error result with rfl | ⟨count, rfl, _⟩ | ⟨inside, free⟩
      · exact ⟨none, rfl⟩
      · exact ⟨none, rfl⟩
      · exact span_of_answer_error inside free
    obtain ⟨span, pointed⟩ := pointed
    exact tokenize_of_run_error session ran pointed

/-- A stream under limits is inside the token limit. -/
theorem size_of_limitedAnswer {stream : Stream}
    (found : limitedAnswer fallback query = .ok stream) : stream.size ≤ tokenCount := by
  rw [limitedAnswer] at found
  split at found
  · cases found
  · split at found
    · cases found
    · exact (capped_eq_ok_iff.mp found).2

/-- Without limits no failure is about the number of tokens. -/
theorem answer_ne_tooManyTokens (count : Nat) :
    answer fallback query ≠ .error (.tooManyTokens count) := by
  intro failed
  rcases State.complete_error (answer_eq_error.mp failed) with
    ⟨_, _, _, _, _, cause, _⟩ | ⟨_, _, _, _, cause, _⟩
  · cases cause
  · cases cause

/-- A number of tokens that is reported is over the limit by the tokens of one step. -/
theorem count_of_limitedAnswer {count : Nat}
    (failed : limitedAnswer fallback query = .error (.tooManyTokens count)) :
    tokenCount < count ∧ count ≤ tokenCount + fallback.burst := by
  rcases limitedAnswer_error failed with long | ⟨own, same, bounds⟩ | ⟨_, free⟩
  · cases long
  · cases same
    exact bounds
  · exact absurd free (answer_ne_tooManyTokens count)

/-- The tokenizer under limits by the tokenizer without them. A query over the length limit is
refused with its number of characters. Otherwise, if some beginning of it that is read
without a failure retires too many tokens, the number at the shortest one is reported, even
where the rest of the query would fail. Otherwise the answer is that without limits, and
too many tokens of a whole query are reported as well. -/
theorem tokenize_eq_capped (limited : preferences.enforceLimits = true) (query : String)
    (session : Log.Session) :
    ∃ result later, tokenize preferences query session = .ok (result, later) ∧
      (if queryLength < query.length then result = .error (.queryTooLong query.length)
        else match Scanner.initial.overflow preferences.fallback query.toList with
          | some count => result = .error (.tooManyTokens count)
          | none => ∃ free other,
              tokenize { preferences with enforceLimits := false } query session =
                .ok (free, other) ∧
              result = capped Stream.size free) ∧
      (∀ stream, result = .ok stream → stream.size ≤ tokenCount) ∧
      ∀ count, result = .error (.tooManyTokens count) →
        count = tokenCount + 1 ∨
          preferences.fallback = .feedThrough ∧ count = tokenCount + 2 := by
  obtain ⟨later, answered⟩ := tokenize_limited limited query session
  refine ⟨_, later, answered, ?_, fun stream => size_of_limitedAnswer, ?_⟩
  · rw [limitedAnswer]
    by_cases long : queryLength < query.length
    · rw [if_pos long, if_pos long]
    · rw [if_neg long, if_neg long]
      cases Scanner.initial.overflow preferences.fallback query.toList with
      | some count => rfl
      | none =>
        obtain ⟨other, free⟩ := @tokenize_unlimited { preferences with enforceLimits := false }
          query rfl (inside_of_not_long long) session
        exact ⟨_, other, free, rfl⟩
  · intro count failed
    obtain ⟨many, few⟩ := count_of_limitedAnswer failed
    cases mode : preferences.fallback with
    | legacy =>
      rw [mode, Fallback.burst] at few
      exact .inl (by omega)
    | feedThrough =>
      rw [mode, Fallback.burst] at few
      rcases Nat.lt_or_ge (tokenCount + 1) count with more | less
      · exact .inr ⟨rfl, by omega⟩
      · exact .inl (by omega)

private theorem complete_closings (fallback : Fallback) (closed place : Position) (count : Nat) :
    ∃ tokens, ((State.closing closed).complete fallback place (.replicate count ')')).answer =
        .ok tokens ∧ tokens.length = count + 1 := by
  induction count generalizing closed place with
  | zero => exact ⟨_, rfl, rfl⟩
  | succ count ih =>
    obtain ⟨tokens, answered, length⟩ := ih place (place.next ')')
    have moved : (State.closing closed).move fallback ')' place =
        .next (.closing place) [(Literal.ofChar closed ')').placed .closing] := rfl
    refine ⟨(Literal.ofChar closed ')').placed .closing :: tokens, ?_, by simp [length]⟩
    rw [List.replicate_succ, State.complete_cons, moved, Step.next_andThen, Step.answer_after,
      answered]
    rfl

private theorem answer_closings (fallback : Fallback) (count : Nat) :
    ∃ stream, answer fallback (.ofList (.replicate (count + 1) ')')) = .ok stream ∧
      stream.size = count + 1 := by
  obtain ⟨tokens, answered, length⟩ := complete_closings fallback .start (.next .start ')') count
  have moved : State.expression.move fallback ')' .start = .next (.closing .start) := rfl
  refine ⟨.ofTokens tokens, ?_, length⟩
  rw [answer, String.toList_ofList, List.replicate_succ, State.complete_cons, moved,
    Step.next_andThen, Step.after_nil, answered]
  rfl

theorem tokenize_eq_capped_refused :
    (∃ later, tokenize ⟨.legacy, true, true, false⟩
        (.ofList (.replicate (queryLength + 1) 'é')) {} =
        .ok (.error (.queryTooLong (queryLength + 1)), later)) ∧
      ∃ later, tokenize ⟨.legacy, true, true, false⟩
        (.ofList (.replicate (tokenCount + 1) ')')) {} =
        .ok (.error (.tooManyTokens (tokenCount + 1)), later) := by
  have letters : ∀ query : String, query.length = queryLength + 1 →
      ∃ later, tokenize ⟨.legacy, true, true, false⟩ query {} =
        .ok (.error (.queryTooLong (queryLength + 1)), later) := by
    intro query length
    obtain ⟨result, later, answered, shape, _⟩ :=
      @tokenize_eq_capped ⟨.legacy, true, true, false⟩ rfl query {}
    rw [length, if_pos (Nat.lt_succ_self _)] at shape
    exact ⟨later, shape ▸ answered⟩
  have closings : ∀ query stream, query.length ≤ queryLength →
      answer .legacy query = .ok stream → stream.size = tokenCount + 1 →
      ∃ later, tokenize ⟨.legacy, true, true, false⟩ query {} =
        .ok (.error (.tooManyTokens (tokenCount + 1)), later) := by
    intro query stream short found size
    obtain ⟨result, later, answered, shape, _, counted⟩ :=
      @tokenize_eq_capped ⟨.legacy, true, true, false⟩ rfl query {}
    have refused : ∃ count, result = .error (.tooManyTokens count) := by
      rw [if_neg (Nat.not_lt.mpr short)] at shape
      split at shape
      · exact ⟨_, shape⟩
      · obtain ⟨free, other, unlimited, capping⟩ := shape
        have ran := (run_unlimited rfl (inside_of_not_long (Nat.not_lt.mpr short))).symm.trans
          (run_of_tokenize unlimited)
        have full : tokenCount < stream.size := by
          rw [size]
          exact Nat.lt_succ_self _
        exact ⟨stream.size, by rw [capping, ← Except.ok.inj ran, found, capped_full _ full]⟩
    obtain ⟨count, failed⟩ := refused
    have least : count = tokenCount + 1 := (counted count failed).resolve_right (by simp)
    rw [failed, least] at answered
    exact ⟨later, answered⟩
  obtain ⟨stream, found, size⟩ := answer_closings .legacy tokenCount
  exact ⟨letters _ (by rw [String.length_ofList, List.length_replicate]),
    closings _ stream (by rw [String.length_ofList, List.length_replicate]; decide) found size⟩

/-- Every query that fits is answered, and the log has no part in the answer. -/
theorem exists_answer {preferences : SearchPreferences} {query : String}
    (fits : preferences.enforceLimits = true ∨ query.length ≤ UInt32.size - 2) :
    ∃ result, ∀ session, ∃ later, tokenize preferences query session = .ok (result, later) := by
  cases limited : preferences.enforceLimits with
  | true => exact ⟨_, tokenize_limited limited query⟩
  | false =>
    rw [limited] at fits
    have short := fits.resolve_left (by decide)
    exact ⟨_, tokenize_unlimited limited (Nat.add_le_of_le_sub (by decide) short)⟩

/-- The tokenizer never faults under limits, and never without them on a query inside the
counters: no position or span it computes overflows, that of a failure it logs included, and
no span is built back to front. -/
theorem tokenize_total {preferences : SearchPreferences} {query : String}
    (fits : preferences.enforceLimits = true ∨ query.length ≤ UInt32.size - 2)
    (session : Log.Session) :
    ∃ result later, tokenize preferences query session = .ok (result, later) := by
  obtain ⟨result, answers⟩ := exists_answer fits
  obtain ⟨later, answered⟩ := answers session
  exact ⟨result, later, answered⟩

theorem tokenize_total_long :
    (∃ result later, tokenize ⟨.legacy, true, true, true⟩
        (.ofList (.replicate UInt32.size '\n')) {} = .ok (result, later)) ∧
      ∃ result later, tokenize ⟨.legacy, false, true, true⟩
        (.ofList (.replicate (UInt32.size - 2) ' ')) {} = .ok (result, later) :=
  ⟨tokenize_total (.inl rfl) {},
    tokenize_total (.inr (by rw [String.length_ofList, List.length_replicate])) {}⟩

end Tokenizer

end SearchLex
