import SearchLex.Proofs.Accounting
import SearchLex.Proofs.WellFormed

/-! Spans of tokens when broken keywords lose the character that breaks them. A span is as long
as the literal of its token. It lies where the token was read if no character is missing inside
the literal; otherwise it falls short of the last character by the bytes of the missing one. -/

namespace SearchLex

/-! ### Positions of an accepted query -/

/-- A run that goes well moves its place over all it reads. -/
theorem Scanner.advanceChars_of_feedAll {fallback : Fallback} {enforced : Bool}
    {scanner last : Scanner} {chars : List Char}
    (fed : scanner.feedAll fallback enforced chars = .ok (.ok last)) :
    scanner.place.advanceChars chars = .ok last.place := by
  induction chars generalizing scanner with
  | nil =>
    cases fed
    rfl
  | cons ch rest ih =>
    obtain ⟨next, first, later⟩ := feed_of_feedAll fed
    obtain ⟨_, _, _, moved, _⟩ := step_of_feed first
    rw [Position.advanceChars_cons, moved]
    exact ih later

/-- However long an accepted query is, its positions are counted without a fault. -/
theorem Tokenizer.passes_of_tokenize {preferences : SearchPreferences} {query : String}
    {session later : Log.Session} {stream : Stream}
    (answered : tokenize preferences query session = .ok (.ok stream, later)) :
    Position.Passes query.toList := by
  obtain ⟨tokens, _, scanned⟩ := scan_of_run (run_of_tokenize answered)
  obtain ⟨last, fed, _⟩ := Scanner.feedAll_of_scan scanned
  exact ⟨last.place, Scanner.advanceChars_of_feedAll fed⟩

/-! ### Spans are as long as literals -/

/-- A token whose span is as long as its literal. -/
def PlacedToken.Covers (token : PlacedToken) : Prop :=
  token.span.stop = token.span.start.past token.value.literal.toList

theorem Literal.covers_placed (literal : Literal) (kind : Kind) :
    PlacedToken.Covers (literal.placed kind) := rfl

namespace State

variable {fallback : Fallback} {state next : State} {literal : Literal} {ch : Char}
  {place : Position} {emitted tokens : List PlacedToken}

theorem covers_released (held : Option Literal) :
    ∀ token ∈ released held, PlacedToken.Covers token := by
  intro token member
  obtain ⟨blanks, _, rfl⟩ := List.mem_map.mp member
  exact blanks.covers_placed .and

theorem Continues.covers (continues : Continues literal ch place emitted next) :
    ∀ token ∈ emitted, PlacedToken.Covers token := by
  cases continues with
  | grow => exact List.forall_mem_nil _
  | close | part => exact List.forall_mem_singleton.mpr (literal.covers_placed .word)

theorem Transition.covers (transition : Transition fallback ch place state emitted next) :
    ∀ token ∈ emitted, PlacedToken.Covers token := by
  cases transition with
  | start | skip | resume | growPhrase | growBlanks | hold | growKeyword | drop =>
    exact List.forall_mem_nil _
  | retireOpening | retireClosing | endPhrase | retireBlanks | endKeyword =>
    exact List.forall_mem_singleton.mpr (Literal.covers_placed ..)
  | word continues => exact continues.covers
  | @feedThrough _ _ held _ _ _ continues =>
    exact List.forall_mem_append.mpr ⟨covers_released held, continues.covers⟩

theorem Ends.covers (ends : Ends fallback state tokens) :
    ∀ token ∈ tokens, PlacedToken.Covers token := by
  cases ends with
  | expression | afterKeyword | blanks | lost => exact List.forall_mem_nil _
  | opening | closing | word | operator =>
    exact List.forall_mem_singleton.mpr (Literal.covers_placed ..)
  | broken held =>
    refine List.forall_mem_append.mpr ⟨covers_released held, ?_⟩
    exact List.forall_mem_singleton.mpr (Literal.covers_placed ..)

theorem Completes.covers {chars : List Char}
    (completes : Completes fallback state place chars tokens) :
    ∀ token ∈ tokens, PlacedToken.Covers token := by
  induction completes with
  | done place ends => exact ends.covers
  | step transition further ih => exact List.forall_mem_append.mpr ⟨transition.covers, ih⟩

end State

/-! ### Spans and the text they were read from -/

/-- Where the span of a token ends, by the text after `before` that the token was read from. -/
inductive PlacedToken.Stops (query : String) (token : PlacedToken) (before : List Char) :
    List Char → Prop where
  /-- Nothing is missing inside the literal: the span ends behind its last character. After
  letters of a keyword alone, the character that broke it off may follow. -/
  | covered (lost : List Char)
      (few : lost = [] ∨ token.value.kind = .word ∧ lost.length = 1 ∧
        ∃ keyword : Keyword, token.value.literal.toList <+: keyword.letters)
      (stop : Position.start.advanceText (.ofList (before ++ token.value.literal.toList)) =
        .ok token.span.stop)
      (slice : token.span.slice query = some token.value.literal) :
      Stops query token before (token.value.literal.toList ++ lost)
  /-- A character is missing inside the literal: the span ends too early by its bytes. -/
  | short {keyword : Keyword} {begun rest : List Char} {dropped : Char} {stop : Position}
      (word : token.value.kind = .word) (literal : token.value.literal.toList = begun ++ rest)
      (nonempty : begun ≠ []) (further : rest ≠ []) (letters : begun <+: keyword.letters)
      (unexpected : ¬ begun ++ [dropped] <+: keyword.letters)
      (last : Position.start.advanceText (.ofList (before ++ (begun ++ dropped :: rest))) = .ok stop)
      (early : token.span.stop.offset.toNat + dropped.utf8Size = stop.offset.toNat) :
      Stops query token before (begun ++ dropped :: rest)

/-- A token whose span begins where it was read and ends as it may. -/
structure PlacedToken.Located (query : String) (token : PlacedToken) (extent : Extent) : Prop where
  start : Position.start.advanceText (.ofList extent.before) = .ok token.span.start
  stops : token.Stops query extent.before extent.text

namespace PlacedToken

variable {query : String} {token : PlacedToken} {before : List Char} {extent : Extent}

theorem stops_covered (passes : Position.Passes query.toList) (covers : token.Covers)
    (begins : token.span.start = .after before) {lost : List Char}
    (few : lost = [] ∨ token.value.kind = .word ∧ lost.length = 1 ∧
      ∃ keyword : Keyword, token.value.literal.toList <+: keyword.letters)
    (inside : before ++ (token.value.literal.toList ++ lost) <+: query.toList) :
    token.Stops query before (token.value.literal.toList ++ lost) := by
  obtain ⟨rest, split⟩ := inside
  have whole : query.toList = before ++ token.value.literal.toList ++ (lost ++ rest) := by
    rw [← split]
    simp
  have own := passes.of_prefix ⟨lost ++ rest, whole.symm⟩
  have ends : token.span.stop = .after (before ++ token.value.literal.toList) := by
    rw [covers, begins, Position.after_append]
  have placed : token.span = .ofPiece before token.value.literal.toList := by
    rw [Span.ofPiece, ← begins, ← ends]
  refine .covered lost few ?_ ?_
  · rw [Position.advanceText, String.toList_ofList, ends, own.advanceChars]
  · rw [placed, Span.slice_of_passes whole own, String.ofList_toList]

theorem stops_short (passes : Position.Passes query.toList) (covers : token.Covers)
    (begins : token.span.start = .after before) {keyword : Keyword} {begun rest : List Char}
    {dropped : Char} (word : token.value.kind = .word)
    (literal : token.value.literal.toList = begun ++ rest) (nonempty : begun ≠ [])
    (further : rest ≠ []) (letters : begun <+: keyword.letters)
    (unexpected : ¬ begun ++ [dropped] <+: keyword.letters)
    (inside : before ++ (begun ++ dropped :: rest) <+: query.toList) :
    token.Stops query before (begun ++ dropped :: rest) := by
  have own := passes.of_prefix inside
  have start := (own.of_prefix (List.prefix_append before _)).toNat_offset
  have room := own.byteCount_lt
  have bytes : Text.byteCount (before ++ (begun ++ dropped :: rest)) =
      Text.byteCount before + Text.byteCount (begun ++ rest) + dropped.utf8Size := by
    simp only [Text.byteCount_append, Text.byteCount]
    omega
  have last : Position.start.advanceText (.ofList (before ++ (begun ++ dropped :: rest))) =
      .ok (.after (before ++ (begun ++ dropped :: rest))) := by
    rw [Position.advanceText, String.toList_ofList, own.advanceChars]
  refine .short word literal nonempty further letters unexpected last ?_
  rw [covers, begins, literal, Position.toNat_offset_past_of_lt (by omega), start,
    own.toNat_offset, bytes]

theorem Assigned.located (assigned : token.Assigned extent) (covers : token.Covers)
    (passes : Position.Passes query.toList)
    (inside : extent.before ++ extent.text <+: query.toList) : token.Located query extent := by
  obtain ⟨before, text⟩ := extent
  obtain ⟨begins, spelled⟩ := assigned
  have opens : before <+: query.toList := (List.prefix_append before text).trans inside
  refine ⟨?_, ?_⟩
  · rw [Position.advanceText, String.toList_ofList, begins, (passes.of_prefix opens).advanceChars]
  · cases spelled with
    | whole same =>
      subst same
      have stops := stops_covered passes covers begins (.inl rfl) (by simpa using inside)
      rwa [List.append_nil] at stops
    | @broken keyword begun rest dropped word same nonempty letters unexpected =>
      cases rest with
      | nil =>
        -- The character that broke the keyword off was the last one read for the word.
        rw [List.append_nil] at same
        subst same
        exact stops_covered passes covers begins (.inr ⟨word, rfl, keyword, letters⟩) inside
      | cons =>
        exact stops_short passes covers begins word same nonempty (by simp) letters unexpected
          inside

theorem located_all {tokens : List PlacedToken} {extents : List Extent}
    (assigned : List.Forall₂ Assigned tokens extents) (covers : ∀ token ∈ tokens, token.Covers)
    (passes : Position.Passes query.toList)
    (inside : ∀ extent ∈ extents, extent.before ++ extent.text <+: query.toList) :
    List.Forall₂ (Located query) tokens extents := by
  induction assigned with
  | nil => exact .nil
  | cons own _ ih =>
    obtain ⟨ownCovers, othersCover⟩ := List.forall_mem_cons.mp covers
    obtain ⟨ownInside, othersInside⟩ := List.forall_mem_cons.mp inside
    exact .cons (own.located ownCovers passes ownInside) (ih othersCover othersInside)

end PlacedToken

/-- The spans of a query that is accepted with broken keywords losing a character, along the
extents that account for it. -/
theorem Tokenizer.tokenize_located {preferences : SearchPreferences} {query : String}
    {session later : Log.Session} {stream : Stream} (mode : preferences.fallback = .legacy)
    (answered : tokenize preferences query session = .ok (.ok stream, later)) :
    ∃ extents, Extent.Account [] stream.tokens extents query.toList ∧
      List.Forall₂ (PlacedToken.Located query) stream.tokens extents := by
  have completes := completes_of_tokenize answered
  rw [mode] at completes
  have holds : State.expression.Holds [] [] := .expression
  obtain ⟨extents, account⟩ := completes.account rfl holds
  have passes := passes_of_tokenize answered
  exact ⟨extents, account,
    PlacedToken.located_all account.assigned completes.covers passes account.inside⟩

theorem Tokenizer.tokenize_located_broken :
    ∃ stream, tokenize ⟨.legacy, true, true, false⟩ "Nike NOx" {} = .ok (.ok stream, {}) ∧
      stream.tokens = [
        ⟨⟨.word, "Nke"⟩, ⟨⟨0, 1, 1⟩, ⟨3, 1, 4⟩⟩⟩, ⟨⟨.and, " "⟩, ⟨⟨4, 1, 5⟩, ⟨5, 1, 6⟩⟩⟩,
        ⟨⟨.word, "NO"⟩, ⟨⟨5, 1, 6⟩, ⟨7, 1, 8⟩⟩⟩] ∧
      ∃ extents, Extent.Account [] stream.tokens extents "Nike NOx".toList ∧
        List.Forall₂ (PlacedToken.Located "Nike NOx") stream.tokens extents := by
  refine ⟨_, rfl, rfl, ?_⟩
  exact @tokenize_located ⟨.legacy, true, true, false⟩ _ {} {} _ rfl rfl

/-- The span of a word that lacks a character ends too early: before the last character of the
word, or inside a character. -/
theorem Tokenizer.legacy_span_short :
    (∃ stream token, tokenize ⟨.legacy, true, true, false⟩ "Nike" {} = .ok (.ok stream, {}) ∧
      stream.tokens = [token] ∧ token.value = ⟨.word, "Nke"⟩ ∧
      Position.start.advanceText "Nike" = .ok ⟨4, 1, 5⟩ ∧ token.span.stop = ⟨3, 1, 4⟩ ∧
      token.span.slice "Nike" = some "Nik") ∧
    ∃ stream token, tokenize ⟨.legacy, true, true, false⟩ "Néa" {} = .ok (.ok stream, {}) ∧
      stream.tokens = [token] ∧ token.value = ⟨.word, "Na"⟩ ∧ token.span.slice "Néa" = none := by
  refine ⟨⟨_, _, rfl, rfl, rfl, rfl, rfl, ?_⟩, ⟨_, _, rfl, rfl, rfl, ?_⟩⟩ <;> decide

end SearchLex
