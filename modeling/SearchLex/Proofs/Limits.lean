import Mathlib.Data.List.Infix
import SearchLex.Proofs.Places
import SearchLex.Scan.Run

/-! What the limits do to a run. They never change a step: a run under them is the run without
them, cut off where it first holds too many tokens. -/

namespace SearchLex

namespace Text

theorem length_le_byteCount (chars : List Char) : chars.length ≤ byteCount chars := by
  induction chars with
  | nil => exact Nat.le_refl 0
  | cons ch rest ih =>
    have width := ch.utf8Size_pos
    simp only [List.length_cons, byteCount]
    omega

theorem length_le_utf8ByteSize (text : String) : text.length ≤ text.utf8ByteSize := by
  rw [utf8ByteSize_eq, ← String.length_toList]
  exact length_le_byteCount text.toList

end Text

namespace Limits

/-- A result under the token limit, when it holds so many tokens. -/
def capped (count : α → Nat) (result : Except Failure α) : Except Failure α :=
  result.bind fun value =>
    if tokenCount < count value then .error (.tooManyTokens (count value)) else .ok value

variable {count : α → Nat} {result : Except Failure α} {value : α}

theorem capped_ok (count : α → Nat) (fits : count value ≤ tokenCount) :
    capped count (.ok value) = .ok value :=
  if_neg (Nat.not_lt.mpr fits)

theorem capped_full (count : α → Nat) (full : tokenCount < count value) :
    capped count (.ok value) = .error (.tooManyTokens (count value)) :=
  if_pos full

/-- A capped result goes well when the result does and fits. -/
theorem capped_eq_ok_iff : capped count result = .ok value ↔
    result = .ok value ∧ count value ≤ tokenCount := by
  constructor
  · intro kept
    cases result with
    | error failure => cases kept
    | ok own =>
      by_cases full : tokenCount < count own
      · rw [capped_full count full] at kept
        cases kept
      · rw [capped_ok count (Nat.not_lt.mp full)] at kept
        cases kept
        exact ⟨rfl, Nat.not_lt.mp full⟩
  · rintro ⟨rfl, fits⟩
    exact capped_ok count fits

end Limits

namespace Scanner

open Limits

/-- How many tokens are retired once some characters are read without a failure. No limit is
enforced. -/
def retired (fallback : Fallback) (scanner : Scanner) (chars : List Char) : Option Nat :=
  match scanner.feedAll fallback false chars with
  | .ok (.ok last) => some last.tokens.size
  | .ok (.error _) | .error _ => none

/-- The number of tokens after the shortest beginning of a text that retires more than the
limit allows, if there is one. -/
def overflow (fallback : Fallback) (scanner : Scanner) (chars : List Char) : Option Nat :=
  chars.inits.findSome? fun before => (scanner.retired fallback before).filter (tokenCount < ·)

/-- The length limit is one on characters: no query has fewer bytes. -/
theorem checkLength_enforced (query : String) :
    checkLength true query =
      if queryLength < query.length then .error (.queryTooLong query.length) else .ok () := by
  have bytes := Text.length_le_utf8ByteSize query
  by_cases long : queryLength < query.length
  · have longer : queryLength < query.utf8ByteSize := Nat.lt_of_lt_of_le long bytes
    simp [checkLength, long, longer]
  · simp [checkLength, long]

/-- What passes the token limit is what the cap lets through. -/
private theorem checkTokenCount_enforced (count : α → Nat) {value : α}
    {tokens : Array PlacedToken} (counted : count value = tokens.size) :
    ((checkTokenCount true tokens).map fun _ => value) = capped count (.ok value) := by
  by_cases full : tokenCount < tokens.size
  · rw [capped_full count (counted.symm ▸ full)]
    simp [checkTokenCount, full, counted, Except.map]
  · rw [capped_ok count (counted.symm ▸ Nat.not_lt.mp full)]
    simp [checkTokenCount, full, Except.map]

/-- A step under limits is the step without them, its tokens counted afterwards. -/
theorem feed_limited (fallback : Fallback) (scanner : Scanner) (ch : Char) :
    scanner.feed fallback true ch =
      (scanner.feed fallback false ch).map (capped (·.tokens.size)) := by
  simp only [feed, bind, Except.bind, checkTokenCount_unlimited]
  cases scanner.state.step fallback ch scanner.place with
  | error fault => rfl
  | ok step =>
    obtain ⟨emitted, outcome⟩ := step
    cases outcome with
    | error failure => rfl
    | ok state =>
      cases scanner.place.advance ch with
      | error fault => rfl
      | ok place =>
        have passed := checkTokenCount_enforced (fun next : Scanner => next.tokens.size)
          (rfl : (Scanner.mk state place (scanner.tokens ++ emitted)).tokens.size = _)
        simp only [Except.map, pure, Except.pure]
        rw [← passed]
        cases checkTokenCount true (scanner.tokens ++ emitted) <;> rfl

theorem close_limited (fallback : Fallback) (scanner : Scanner) :
    scanner.close fallback true = (scanner.close fallback false).map (capped List.length) := by
  simp only [close, bind, Except.bind, checkTokenCount_unlimited]
  cases scanner.state.finish fallback with
  | error fault => rfl
  | ok step =>
    obtain ⟨emitted, outcome⟩ := step
    cases outcome with
    | error failure => rfl
    | ok done =>
      have passed := checkTokenCount_enforced List.length
        (Array.length_toList : (scanner.tokens ++ emitted).toList.length = _)
      simp only [Except.map, pure, Except.pure]
      rw [← passed]
      cases checkTokenCount true (scanner.tokens ++ emitted) <;> rfl

variable {fallback : Fallback} {scanner : Scanner}

/-- A scanner that already holds too many tokens is over the limit before it reads on. -/
theorem overflow_of_full (full : tokenCount < scanner.tokens.size) (chars : List Char) :
    scanner.overflow fallback chars = some scanner.tokens.size := by
  have now : (scanner.retired fallback []).filter (tokenCount < ·) = some scanner.tokens.size := by
    simp [retired, feedAll, full]
  cases chars with
  | nil => simp only [overflow, List.inits, List.findSome?_cons, now]
  | cons ch rest => simp only [overflow, List.inits, List.findSome?_cons, now]

theorem overflow_nil (fits : scanner.tokens.size ≤ tokenCount) :
    scanner.overflow fallback [] = none := by
  simp [overflow, retired, feedAll, fits]

theorem retired_cons (ch : Char) (rest : List Char) :
    scanner.retired fallback (ch :: rest) =
      match scanner.feed fallback false ch with
      | .ok (.ok next) => next.retired fallback rest
      | .ok (.error _) | .error _ => none := by
  simp only [retired, feedAll]
  cases scanner.feed fallback false ch with
  | error fault => rfl
  | ok result => cases result <;> rfl

/-- A scanner inside the limit goes over it after its next character or not at all. -/
theorem overflow_cons (fits : scanner.tokens.size ≤ tokenCount) (ch : Char) (rest : List Char) :
    scanner.overflow fallback (ch :: rest) =
      match scanner.feed fallback false ch with
      | .ok (.ok next) => next.overflow fallback rest
      | .ok (.error _) | .error _ => none := by
  have now : (scanner.retired fallback []).filter (tokenCount < ·) = none := by
    simp [retired, feedAll, fits]
  simp only [overflow, List.inits_cons, List.findSome?_cons, now, List.findSome?_map,
    Function.comp_def, retired_cons]
  cases scanner.feed fallback false ch with
  | error fault => simp
  | ok result => cases result <;> simp

/-- A run under limits stops where it first holds too many tokens and is otherwise the run
without them. -/
theorem feedAll_limited (fits : scanner.tokens.size ≤ tokenCount) (chars : List Char) :
    scanner.feedAll fallback true chars =
      match scanner.overflow fallback chars with
      | some count => .ok (.error (.tooManyTokens count))
      | none => scanner.feedAll fallback false chars := by
  induction chars generalizing scanner with
  | nil =>
    rw [overflow_nil fits]
    rfl
  | cons ch rest ih =>
    rw [overflow_cons fits]
    simp only [feedAll, feed_limited]
    cases scanner.feed fallback false ch with
    | error fault => rfl
    | ok result =>
      cases result with
      | error failure => rfl
      | ok next =>
        by_cases full : tokenCount < next.tokens.size
        · simp only [Except.map, capped_full (fun next : Scanner => next.tokens.size) full, bind,
            Except.bind, overflow_of_full full]
          rfl
        · have kept := Nat.not_lt.mp full
          simp only [Except.map, capped_ok (fun next : Scanner => next.tokens.size) kept, bind,
            Except.bind]
          exact ih kept

/-- What limits make of a scan: a query over the length limit is refused at once; a run that
comes to hold too many tokens ends there; every other answer is that without limits, its
tokens counted. -/
theorem scan_limited (fallback : Fallback) (query : String) :
    scan fallback true query =
      if queryLength < query.length then .ok (.error (.queryTooLong query.length))
      else match initial.overflow fallback query.toList with
        | some count => .ok (.error (.tooManyTokens count))
        | none => (scan fallback false query).map (capped List.length) := by
  have fits : initial.tokens.size ≤ tokenCount := Nat.zero_le _
  simp only [scan, checkLength_enforced, feedAll_limited fits]
  by_cases long : queryLength < query.length
  · simp only [if_pos long]
    rfl
  · simp only [if_neg long]
    cases initial.overflow fallback query.toList with
    | some count => rfl
    | none =>
      simp only [checkLength, Bool.false_and, Bool.false_eq_true, ↓reduceIte, bind, Except.bind]
      cases initial.feedAll fallback false query.toList with
      | error fault => rfl
      | ok result =>
        cases result with
        | error failure => rfl
        | ok last => exact close_limited fallback last

/-- Limits only take answers away: tokens found under them are found without them. -/
theorem scan_of_limited {fallback : Fallback} {enforced : Bool} {query : String}
    {tokens : List PlacedToken} (scanned : scan fallback enforced query = .ok (.ok tokens)) :
    scan fallback false query = .ok (.ok tokens) := by
  cases enforced with
  | false => exact scanned
  | true =>
    rw [scan_limited] at scanned
    split at scanned
    · cases scanned
    · split at scanned
      · cases scanned
      · cases free : scan fallback false query with
        | error fault =>
          rw [free] at scanned
          cases scanned
        | ok result =>
          rw [free] at scanned
          obtain ⟨rfl, _⟩ := capped_eq_ok_iff.mp (Except.ok.inj scanned)
          rfl

end Scanner

end SearchLex
