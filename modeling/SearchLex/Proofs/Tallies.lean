import SearchLex.Proofs.Phrases

/-! What the counts of a stream count. Each of them is the number of tokens of one category, and
every token has one. If no character of the query is lost, the parentheses and the phrases can be
counted in its text as well: only a closing parenthesis can stand inside a phrase. -/

namespace SearchLex

/-! ### Counts and tokens -/

namespace Counts

/-- Counts that are those of some tokens, by category and altogether. -/
structure Tallies (counts : Counts) (tokens : List PlacedToken) : Prop where
  total : counts.total = tokens.length
  words : counts.words = tokens.countP (·.value.kind == .word)
  phrases : counts.phrases = tokens.countP (·.value.kind == .phrase)
  explicitOperators : counts.explicitOperators = tokens.countP (·.value.isExplicitOperator)
  implicitAnds : counts.implicitAnds = tokens.countP (·.value.isImplicitAnd)
  openings : counts.openings = tokens.countP (·.value.kind == .opening)
  closings : counts.closings = tokens.countP (·.value.kind == .closing)
  /-- Every token is of one category. -/
  whole : counts.total = counts.words + counts.phrases + counts.explicitOperators +
    counts.implicitAnds + counts.openings + counts.closings

/-- A token counts once altogether and once in its category. -/
theorem add_eq (counts : Counts) (token : Token) :
    counts.add token =
      { total := counts.total + 1
        words := counts.words + (token.kind == .word).toNat
        phrases := counts.phrases + (token.kind == .phrase).toNat
        explicitOperators := counts.explicitOperators + token.isExplicitOperator.toNat
        implicitAnds := counts.implicitAnds + token.isImplicitAnd.toNat
        openings := counts.openings + (token.kind == .opening).toNat
        closings := counts.closings + (token.kind == .closing).toNat } := by
  obtain ⟨kind, literal⟩ := token
  cases kind with
  | opening | closing | word | phrase | or | not => rfl
  | and =>
    rw [add]
    cases implicit : Token.isImplicitAnd ⟨.and, literal⟩ <;>
      simp [Token.isExplicitOperator, Kind.isOperator, implicit]

theorem categories_eq_one (token : Token) :
    (token.kind == .word).toNat + (token.kind == .phrase).toNat +
      token.isExplicitOperator.toNat + token.isImplicitAnd.toNat +
      (token.kind == .opening).toNat + (token.kind == .closing).toNat = 1 := by
  obtain ⟨kind, literal⟩ := token
  cases kind with
  | opening | closing | word | phrase | or | not => rfl
  | and =>
    rw [Token.isExplicitOperator]
    cases Token.isImplicitAnd ⟨.and, literal⟩ <;> rfl

theorem Tallies.add {counts : Counts} {tokens : List PlacedToken} (tallies : counts.Tallies tokens)
    (token : PlacedToken) : (counts.add token.value).Tallies (tokens ++ [token]) := by
  have further (category : PlacedToken → Bool) :
      (tokens ++ [token]).countP category = tokens.countP category + (category token).toNat := by
    rw [List.countP_append, List.countP_singleton]
    cases category token <;> rfl
  rw [add_eq]
  constructor
  case total => rw [tallies.total, List.length_append, List.length_singleton]
  case words => rw [tallies.words, further]
  case phrases => rw [tallies.phrases, further]
  case explicitOperators => rw [tallies.explicitOperators, further]
  case implicitAnds => rw [tallies.implicitAnds, further]
  case openings => rw [tallies.openings, further]
  case closings => rw [tallies.closings, further]
  case whole =>
    have whole := tallies.whole
    have one := categories_eq_one token.value
    simp only
    omega

/-- The counts of tokens are counted one token after another. -/
theorem tallies_ofTokens (tokens : List PlacedToken) : (ofTokens tokens).Tallies tokens := by
  have run : ∀ (counts : Counts) (before : List PlacedToken), counts.Tallies before →
      (tokens.foldl (fun counts token => counts.add token.value) counts).Tallies
        (before ++ tokens) := by
    induction tokens with
    | nil =>
      intro counts before tallies
      simpa using tallies
    | cons token rest ih =>
      intro counts before tallies
      have further := ih _ _ (tallies.add token)
      rw [List.append_assoc] at further
      exact further
  exact run {} [] ⟨rfl, rfl, rfl, rfl, rfl, rfl, rfl, rfl⟩

end Counts

/-! ### Characters of literals -/

/-- How often a character stands in the literals of tokens. -/
def PlacedToken.occurrences (ch : Char) (tokens : List PlacedToken) : Nat :=
  (tokens.flatMap fun token => token.value.literal.toList).count ch

theorem PlacedToken.occurrences_cons (ch : Char) (token : PlacedToken) (rest : List PlacedToken) :
    occurrences ch (token :: rest) =
      token.value.literal.toList.count ch + occurrences ch rest := by
  rw [occurrences, List.flatMap_cons, List.count_append, occurrences]

/-- How often parentheses and quotation marks stand in the literal of a token. Closing
parentheses may also stand inside a phrase. -/
structure Token.Marked (token : Token) : Prop where
  openings : token.literal.toList.count '(' = if token.kind = .opening then 1 else 0
  quotes : token.literal.toList.count '"' = if token.kind = .phrase then 2 else 0
  closings : token.kind ≠ .phrase →
    token.literal.toList.count ')' = if token.kind = .closing then 1 else 0

/-- Outside the phrases a mark is a token of its own: operators, words and blanks hold none. -/
theorem Token.marked_of_wellFormed {token : Token} (valid : token.WellFormed)
    (other : token.kind ≠ .phrase) : token.Marked := by
  obtain ⟨kind, literal⟩ := token
  cases kind with
  | opening | closing | or | not =>
    cases valid
    exact ⟨rfl, rfl, fun _ => rfl⟩
  | and =>
    rcases valid with written | run
    · cases written
      exact ⟨rfl, rfl, fun _ => rfl⟩
    · have absent {ch : Char} := @Alphabet.count_eq_zero _ _ ch run.2
      exact ⟨absent rfl, absent rfl, fun _ => absent rfl⟩
  | word =>
    have absent {ch : Char} := @Alphabet.count_eq_zero _ _ ch valid.2
    exact ⟨absent rfl, absent rfl, fun _ => absent rfl⟩
  | phrase => exact absurd rfl other

theorem PlacedToken.PhraseOf.marked {token : PlacedToken} {text before inner : List Char}
    (phraseOf : token.PhraseOf text before inner) : token.value.Marked := by
  obtain ⟨rfl, quoted, _⟩ := phraseOf
  have openings : inner.count '(' = 0 := Alphabet.count_eq_zero quoted rfl
  have quotes : inner.count '"' = 0 := Alphabet.count_eq_zero quoted rfl
  constructor
  case openings => simp [Cut.placed, Cut.token, openings]
  case quotes => simp [Cut.placed, Cut.token, quotes]
  case closings => exact fun other => absurd rfl other

/-- Tokens of such literals hold as many parentheses and pairs of quotation marks as there are
tokens for them. -/
theorem PlacedToken.occurrences_of_marked {tokens : List PlacedToken}
    (marked : ∀ token ∈ tokens, token.value.Marked) :
    occurrences '(' tokens = tokens.countP (·.value.kind == .opening) ∧
    occurrences '"' tokens = 2 * tokens.countP (·.value.kind == .phrase) ∧
    occurrences ')' tokens = tokens.countP (·.value.kind == .closing) +
      occurrences ')' (tokens.filter (·.value.kind == .phrase)) := by
  induction tokens with
  | nil => exact ⟨rfl, rfl, rfl⟩
  | cons token rest ih =>
    obtain ⟨own, others⟩ := List.forall_mem_cons.mp marked
    obtain ⟨openings, quotes, closings⟩ := ih others
    simp only [occurrences_cons, List.countP_cons, beq_iff_eq]
    refine ⟨?_, ?_, ?_⟩
    · rw [own.openings, openings, Nat.add_comm]
    · rw [own.quotes, quotes]
      split <;> omega
    -- A phrase adds what it holds to both sides, any other token what its kind says.
    · by_cases phrase : token.value.kind = .phrase
      · rw [List.filter_cons_of_pos (by simpa using phrase), occurrences_cons, closings, phrase,
          if_neg (by decide)]
        omega
      · rw [List.filter_cons_of_neg (by simpa using phrase), own.closings phrase, closings]
        omega

/-- Between extents there are blanks only, so any other character is counted inside them. -/
theorem Extent.Along.count_eq {before text : List Char} {extents : List Extent}
    (along : Along before extents text) {ch : Char} (solid : Alphabet.isBlank ch = false) :
    text.count ch = (extents.flatMap Extent.text).count ch := by
  induction along with
  | done blank => exact Alphabet.count_eq_zero blank solid
  | next blank nonempty further ih =>
    rw [List.flatMap_cons, List.count_append, List.count_append, List.count_append,
      Alphabet.count_eq_zero blank solid, ih, Nat.zero_add]

namespace Tokenizer

variable {preferences : SearchPreferences} {query : String} {session later : Log.Session}
  {stream : Stream}

theorem marked_of_tokenize
    (answered : tokenize preferences query session = .ok (.ok stream, later)) :
    ∀ token ∈ stream.tokens, token.value.Marked := by
  intro token member
  by_cases phrase : token.value.kind = .phrase
  · obtain ⟨before, inner, phraseOf, _⟩ := phraseOf_of_tokenize answered member phrase
    exact phraseOf.marked
  · exact Token.marked_of_wellFormed ((retires_of_tokenize answered).1 token member) phrase

/-- If no character is lost, every character but a blank is found in the literals as often as in
the query. -/
theorem count_eq_occurrences (mode : preferences.fallback = .feedThrough)
    (answered : tokenize preferences query session = .ok (.ok stream, later)) {ch : Char}
    (solid : Alphabet.isBlank ch = false) :
    query.toList.count ch = PlacedToken.occurrences ch stream.tokens := by
  obtain ⟨cuts, found, tokens⟩ := lex_of_tokenize mode answered
  obtain ⟨lexemes, joined, chained, rfl⟩ := Reference.lex_eq_ok_iff.mp found
  have laid := chained.laid
  rw [joined] at laid
  rw [laid.along.count_eq solid, PlacedToken.occurrences, tokens, List.flatMap_map,
    List.flatMap_map]
  simp only [Cut.placed, Cut.token, Cut.extent, String.toList_ofList]

/-- The counts of a stream are the numbers of its tokens by category, and every token is in one
of them. For a query that is accepted when broken keywords are fed through, the parentheses and
pairs of quotation marks are as many as in its text, where closing parentheses inside phrases do
not count; so the balance is that of the parentheses outside the phrases. -/
theorem counts_agree :
    (∀ stream : Stream, stream.counts.Tallies stream.tokens) ∧
    ∀ (preferences : SearchPreferences) (query : String) (session later : Log.Session)
      (stream : Stream), preferences.fallback = .feedThrough →
      tokenize preferences query session = .ok (.ok stream, later) →
      let inside := PlacedToken.occurrences ')' (stream.tokens.filter (·.value.kind == .phrase))
      stream.counts.openings = query.toList.count '(' ∧
      2 * stream.counts.phrases = query.toList.count '"' ∧
      stream.counts.closings + inside = query.toList.count ')' ∧
      stream.counts.balance =
        query.toList.count '(' - (query.toList.count ')' - inside : Int) := by
  have counted (stream : Stream) : stream.counts.Tallies stream.tokens :=
    Counts.tallies_ofTokens stream.tokens
  refine ⟨counted, ?_⟩
  intro preferences query session later stream mode answered inside
  obtain ⟨openings, quotes, closings⟩ :=
    PlacedToken.occurrences_of_marked (marked_of_tokenize answered)
  rw [← (counted stream).openings, ← count_eq_occurrences mode answered rfl] at openings
  rw [← (counted stream).phrases, ← count_eq_occurrences mode answered rfl] at quotes
  rw [← (counted stream).closings, ← count_eq_occurrences mode answered rfl] at closings
  refine ⟨openings.symm, quotes.symm, closings.symm, ?_⟩
  rw [Counts.balance, openings, closings]
  change _ = (stream.counts.openings : Int) - ((stream.counts.closings + inside : Nat) - inside)
  omega

theorem counts_agree_phrase :
    ∃ stream, tokenize ⟨.feedThrough, true, true, false⟩ "(\"b )\" c))" {} = .ok (.ok stream, {}) ∧
      stream.counts.Tallies stream.tokens ∧ stream.counts.openings = 1 ∧
      2 * stream.counts.phrases = 2 ∧ stream.counts.closings + 1 = 3 ∧
      stream.counts.balance = 1 - (3 - 1) := by
  obtain ⟨counted, inText⟩ := counts_agree
  obtain ⟨openings, quotes, closings, balance⟩ :=
    inText ⟨.feedThrough, true, true, false⟩ "(\"b )\" c))" {} {} _ rfl rfl
  exact ⟨_, rfl, counted _, openings, quotes, closings, balance⟩

end Tokenizer

end SearchLex
