import SearchLex.Proofs.Shortfall

/-! Phrases and the text they were read from. A phrase is a piece of the query from a quotation
mark to the next one, and holds only characters that a phrase may hold. Nothing asks for one of
them: two quotation marks side by side are a phrase that says nothing. -/

namespace SearchLex

/-- A phrase that stands in a text after `before`: quotation marks around `inner`. -/
structure PlacedToken.PhraseOf (token : PlacedToken) (text before inner : List Char) : Prop where
  placed : token = Cut.placed ⟨.phrase, before, '"' :: inner ++ ['"']⟩
  quoted : ∀ ch ∈ inner, Alphabet.isQuoted ch = true
  within : before ++ ('"' :: inner ++ ['"']) <+: text

theorem Token.phraseText_quoted (before inner : List Char) :
    (Cut.token ⟨.phrase, before, '"' :: inner ++ ['"']⟩).phraseText =
      some (String.ofList inner) := by
  simp [phraseText, Cut.token, unquoted]

theorem Token.kind_of_phraseText {token : Token} {inner : String}
    (told : token.phraseText = some inner) : token.kind = .phrase := by
  rw [phraseText] at told
  split at told
  · assumption
  · cases told

theorem Keyword.kind_not_phrase (operator : Keyword) : operator.kind ≠ .phrase := by
  cases operator <;> exact nofun

namespace State

variable {fallback : Fallback} {state next : State} {literal : Literal} {ch : Char}
  {place : Position} {emitted tokens : List PlacedToken} {before chars : List Char}

/-! ### Where phrases come from -/

theorem released_not_phrase (held : Option Literal) :
    ∀ token ∈ released held, token.value.kind ≠ .phrase := by
  intro token member
  obtain ⟨blanks, _, rfl⟩ := List.mem_map.mp member
  exact nofun

theorem Continues.not_phrase (continues : Continues literal ch place emitted next) :
    ∀ token ∈ emitted, token.value.kind ≠ .phrase := by
  cases continues with
  | grow => exact List.forall_mem_nil _
  | close | part => exact List.forall_mem_singleton.mpr nofun

/-- A step retires a phrase only by the quotation mark that ends it. -/
theorem Transition.of_phrase (transition : Transition fallback ch place state emitted next)
    {token : PlacedToken} (member : token ∈ emitted) (phrase : token.value.kind = .phrase) :
    ∃ literal, state = .phrase literal ∧ ch = '"' ∧
      token = (literal.push ch).placed .phrase := by
  cases transition with
  | start | skip | resume | growPhrase | growBlanks | hold | growKeyword | drop => cases member
  | endPhrase own => exact ⟨_, rfl, own, List.mem_singleton.mp member⟩
  | retireOpening | retireClosing | retireBlanks =>
    rw [List.mem_singleton.mp member] at phrase
    cases phrase
  | @endKeyword operator =>
    rw [List.mem_singleton.mp member] at phrase
    exact absurd phrase operator.kind_not_phrase
  | word continues => exact absurd phrase (continues.not_phrase token member)
  | @feedThrough _ _ held _ _ _ continues =>
    rcases List.mem_append.mp member with blanks | own
    · exact absurd phrase (released_not_phrase held token blanks)
    · exact absurd phrase (continues.not_phrase token own)

/-- The end of a query retires no phrase. -/
theorem Ends.not_phrase (ends : Ends fallback state tokens) :
    ∀ token ∈ tokens, token.value.kind ≠ .phrase := by
  cases ends with
  | expression | afterKeyword | blanks | lost => exact List.forall_mem_nil _
  | opening | closing | word => exact List.forall_mem_singleton.mpr nofun
  | @operator operator => exact List.forall_mem_singleton.mpr operator.kind_not_phrase
  | broken held =>
    exact List.forall_mem_append.mpr
      ⟨released_not_phrase held, List.forall_mem_singleton.mpr nofun⟩

/-- An open phrase holds the end of the text before, from a quotation mark on. -/
def Quotes (before : List Char) (state : State) : Prop :=
  ∀ literal, state = .phrase literal → ∃ earlier inner, before = earlier ++ '"' :: inner ∧
    literal = .ofRun (.after earlier) ('"' :: inner) ∧ ∀ ch ∈ inner, Alphabet.isQuoted ch = true

theorem Transition.quotes (transition : Transition fallback ch (.after before) state emitted next)
    (quotes : state.Quotes before) : next.Quotes (before ++ [ch]) := by
  intro literal inside
  subst inside
  rcases transition.to_phrase with ⟨shorter, inside, own, rfl⟩ | ⟨_, rfl, rfl⟩
  · obtain ⟨earlier, inner, rfl, rfl, quoted⟩ := quotes shorter inside
    refine ⟨earlier, inner ++ [ch], by simp, ?_, ?_⟩
    · rw [Literal.push_ofRun, List.cons_append]
    · exact List.forall_mem_append.mpr ⟨quoted, List.forall_mem_singleton.mpr own⟩
  · exact ⟨before, [], rfl, Literal.ofChar_eq _ _, List.forall_mem_nil _⟩

/-- In a run, every phrase is a piece of the text from a quotation mark to the next one. If no
character is lost on the way, the marks before it come in pairs. -/
theorem Completes.phraseOf (completes : Completes fallback state place chars tokens)
    (standing : place = .after before) (quotes : state.Quotes before)
    (follows : fallback = .feedThrough → state.Follows before) {token : PlacedToken}
    (member : token ∈ tokens) (phrase : token.value.kind = .phrase) :
    ∃ earlier inner, token.PhraseOf (before ++ chars) earlier inner ∧
      (fallback = .feedThrough → earlier.count '"' % 2 = 0) := by
  induction completes generalizing before with
  | done place ends => exact absurd phrase (ends.not_phrase token member)
  | @step state next place ch rest emitted tokens transition further ih =>
    subst standing
    rcases List.mem_append.mp member with own | later
    · obtain ⟨literal, inside, rfl, rfl⟩ := transition.of_phrase own phrase
      obtain ⟨earlier, inner, rfl, rfl, quoted⟩ := quotes literal inside
      refine ⟨earlier, inner, ⟨?_, quoted, ?_⟩, ?_⟩
      · rw [Literal.push_ofRun, Literal.placed_ofRun]
      · exact ⟨rest, by simp⟩
      · intro mode
        have odd := follows mode
        rw [inside, Follows, List.count_append, List.count_cons_self,
          Alphabet.count_eq_zero quoted rfl] at odd
        omega
    · have regrouped : before ++ ch :: rest = before ++ [ch] ++ rest := by simp
      rw [regrouped]
      refine ih (Position.after_concat before ch).symm (transition.quotes quotes) ?_ later
      intro mode
      subst mode
      exact transition.follows (follows rfl)

/-! ### Phrases that say nothing -/

/-- Outside the phrases a quotation mark opens one, unless it is lost. -/
theorem Transition.of_mark (transition : Transition .feedThrough '"' place state emitted next)
    (outside : state.isPhrase = false) : next = .phrase (.ofChar place '"') := by
  cases transition with
  | start opens | resume _ opens | retireOpening _ opens | retireClosing opens
  | retireBlanks _ opens =>
    cases opens with
    | phrase => rfl
    | opening own | closing own | negation own => cases own
    | blanks own | word own => cases own
  | skip blank | growBlanks blank | endKeyword _ blank => cases blank
  | growPhrase | endPhrase => cases outside
  | @hold literal operator connective begins => cases operator <;> cases begins
  | growKeyword expected => cases Keyword.isWord_of_expects expected
  | drop mode => cases mode
  | word continues | feedThrough _ continues =>
    cases continues with
    | grow own | close own | part own => cases own

theorem Follows.not_phrase (follows : state.Follows before) (even : before.count '"' % 2 = 0) :
    state.isPhrase = false := by
  cases state with
  | phrase literal =>
    have odd : before.count '"' % 2 = 1 := follows
    omega
  | expression | afterKeyword | opening | closing | word | implicitAnd | keyword => rfl

/-- Where a phrase is opened and closed at once, a run that loses no character retires it. -/
theorem Completes.exists_empty (completes : Completes .feedThrough state place chars tokens)
    (follows : state.Follows before) {more rest : List Char}
    (split : chars = more ++ '"' :: '"' :: rest) (even : (before ++ more).count '"' % 2 = 0) :
    ∃ token ∈ tokens, token.value = ⟨.phrase, "\"\""⟩ := by
  induction completes generalizing before more with
  | done => simp at split
  | @step state next place ch others emitted tokens transition further ih =>
    cases more with
    | nil =>
      obtain ⟨rfl, rfl⟩ := List.cons.inj split
      rw [List.append_nil] at even
      obtain rfl := transition.of_mark (follows.not_phrase even)
      -- The first mark has opened a phrase, which the second can only close.
      cases further with
      | @step _ _ _ _ _ second _ closing _ =>
        refine ⟨((Literal.ofChar place '"').push '"').placed .phrase, ?_, rfl⟩
        cases closing with
        | growPhrase quoted => cases quoted
        | endPhrase => simp
    | cons first more =>
      obtain ⟨rfl, rfl⟩ := List.cons.inj split
      rw [← List.singleton_append, ← List.append_assoc] at even
      obtain ⟨token, member, empty⟩ := ih (transition.follows follows) rfl even
      exact ⟨token, List.mem_append_right emitted member, empty⟩

end State

namespace Tokenizer

variable {preferences : SearchPreferences} {query : String} {session later : Log.Session}
  {stream : Stream}

/-- A phrase of an accepted query, with the text it was read from. -/
theorem phraseOf_of_tokenize
    (answered : tokenize preferences query session = .ok (.ok stream, later))
    {token : PlacedToken} (member : token ∈ stream.tokens) (phrase : token.value.kind = .phrase) :
    ∃ before inner, token.PhraseOf query.toList before inner ∧
      (preferences.fallback = .feedThrough → before.count '"' % 2 = 0) := by
  have fresh : State.expression.Quotes [] := by
    intro literal impossible
    cases impossible
  have free : State.expression.Follows [] := ⟨rfl, rfl⟩
  exact (completes_of_tokenize answered).phraseOf rfl fresh (fun _ => free) member phrase

/-- In an accepted query that loses no character, a phrase says nothing exactly if a quotation
mark that opens a phrase has the next one right behind it. -/
theorem exists_empty_phrase_iff (mode : preferences.fallback = .feedThrough)
    (answered : tokenize preferences query session = .ok (.ok stream, later)) :
    (∃ token ∈ stream.tokens, token.value.phraseText = some "") ↔
      ∃ before rest, query.toList = before ++ '"' :: '"' :: rest ∧ before.count '"' % 2 = 0 := by
  constructor
  · rintro ⟨token, member, empty⟩
    obtain ⟨before, inner, phraseOf, even⟩ :=
      phraseOf_of_tokenize answered member (Token.kind_of_phraseText empty)
    obtain ⟨rest, split⟩ := phraseOf.within
    rw [phraseOf.placed, Cut.placed, Token.phraseText_quoted] at empty
    obtain rfl : inner = [] := String.ofList_inj.mp (Option.some.inj empty)
    exact ⟨before, rest, by simp [← split], even mode⟩
  · rintro ⟨before, rest, split, even⟩
    have completes := completes_of_tokenize answered
    rw [mode] at completes
    have free : State.expression.Follows [] := ⟨rfl, rfl⟩
    obtain ⟨token, member, empty⟩ := completes.exists_empty free split even
    exact ⟨token, member, by rw [empty]; rfl⟩

/-- A phrase of an accepted query is the piece under its span: a quotation mark, characters that
a phrase may hold, and the next quotation mark. It says what stands between the two, which is
nothing exactly if its span is two quotation marks. When broken keywords are fed through, there
is such a phrase exactly if an opening mark has another right behind it. -/
theorem tokenize_phrases
    (answered : tokenize preferences query session = .ok (.ok stream, later)) :
    (∀ token ∈ stream.tokens, token.value.kind = .phrase → ∃ before inner rest : String,
      query = before ++ ("\"" ++ inner ++ "\"") ++ rest ∧
      Position.start.advanceText before = .ok token.span.start ∧
      token.span.slice query = some ("\"" ++ inner ++ "\"") ∧
      (∀ ch ∈ inner.toList, Alphabet.isQuoted ch = true) ∧
      token.value.phraseText = some inner ∧
      (inner = "" ↔ token.span.slice query = some "\"\"")) ∧
    (preferences.fallback = .feedThrough →
      ((∃ token ∈ stream.tokens, token.value.phraseText = some "") ↔
        ∃ before rest, query.toList = before ++ '"' :: '"' :: rest ∧
          before.count '"' % 2 = 0)) := by
  refine ⟨?_, fun mode => exists_empty_phrase_iff mode answered⟩
  intro token member phrase
  obtain ⟨before, inner, ⟨rfl, quoted, rest, split⟩, _⟩ :=
    phraseOf_of_tokenize answered member phrase
  have passes := passes_of_tokenize answered
  have own := passes.of_prefix ⟨rest, split⟩
  have marks : String.ofList ('"' :: inner ++ ['"']) = "\"" ++ String.ofList inner ++ "\"" := by
    apply String.toList_inj.mp
    simp
  have slice := Span.slice_of_passes split.symm own
  rw [marks] at slice
  refine ⟨String.ofList before, String.ofList inner, String.ofList rest, ?_, ?_, slice, ?_,
    Token.phraseText_quoted before inner, ?_⟩
  · rw [← marks, ← String.ofList_append, ← String.ofList_append, split, String.ofList_toList]
  · rw [Position.advanceText, String.toList_ofList]
    exact (own.of_prefix (List.prefix_append ..)).advanceChars
  · rwa [String.toList_ofList]
  · rw [Cut.placed, slice, Option.some.injEq]
    constructor
    · rintro empty
      rw [empty]
      rfl
    · intro same
      have chars := congrArg String.toList same
      simpa using chars

theorem tokenize_phrases_adjacent :
    ∃ stream, tokenize ⟨.feedThrough, true, true, false⟩ "\"b )\"\"\"" {} =
        .ok (.ok stream, {}) ∧
      stream.tokens.map (·.value) = [⟨.phrase, "\"b )\""⟩, ⟨.phrase, "\"\""⟩] ∧
      (∃ token ∈ stream.tokens, token.value.phraseText = some "") ∧
      ∀ token ∈ stream.tokens, ∃ inner : String, token.value.phraseText = some inner ∧
        (inner = "" ↔ token.span.slice "\"b )\"\"\"" = some "\"\"") := by
  obtain ⟨each, empty⟩ := @tokenize_phrases ⟨.feedThrough, true, true, false⟩ "\"b )\"\"\"" {} {}
    _ rfl
  refine ⟨_, rfl, rfl, (empty rfl).mpr ⟨"\"b )\"".toList, [], rfl, rfl⟩, ?_⟩
  intro token member
  have phrase : token.value.kind = .phrase := by
    rcases List.mem_cons.mp member with rfl | other
    · rfl
    · rw [List.mem_singleton.mp other]
  obtain ⟨_, inner, _, _, _, _, _, text, saysNothing⟩ := each token member phrase
  exact ⟨inner, text, saysNothing⟩

/-- Two quotation marks are a query of one phrase that says nothing, in both modes. -/
theorem empty_phrase_accepted :
    (∃ stream token, tokenize ⟨.feedThrough, true, true, false⟩ "\"\"" {} =
        .ok (.ok stream, {}) ∧ stream.tokens = [token] ∧ token.value.kind = .phrase ∧
      token.value.phraseText = some "") ∧
    ∃ stream token, tokenize ⟨.legacy, true, true, false⟩ "\"\"" {} =
        .ok (.ok stream, {}) ∧ stream.tokens = [token] ∧ token.value.kind = .phrase ∧
      token.value.phraseText = some "" :=
  ⟨⟨_, _, rfl, rfl, rfl, rfl⟩, ⟨_, _, rfl, rfl, rfl, rfl⟩⟩

end Tokenizer

end SearchLex
