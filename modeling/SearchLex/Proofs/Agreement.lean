import SearchLex.Proofs.Refinement

/-! Where the two fallbacks agree. They differ only in what becomes of a keyword that breaks
off, and the text of a query tells whether one does: as long as none does, both take the same
steps, whatever comes of the query. -/

namespace SearchLex

/-- Letters that stand in a text after `before`, outside the phrases, and are as many as can
be. Outside the phrases the quotation marks before them come in pairs. -/
structure LetterRun (before run rest : List Char) : Prop where
  outside : before.count '"' % 2 = 0
  nonempty : run ≠ []
  letters : ∀ ch ∈ run, Alphabet.isWord ch = true
  starts : before.getLast?.any Alphabet.isWord = false
  stops : rest.head?.any Alphabet.isWord = false

/-- Letters that are a whole keyword before a blank, if they begin like one that may stand
there: NOT anywhere, AND and OR right after a blank. -/
def Keyword.Whole (before run rest : List Char) : Prop :=
  ∀ keyword : Keyword, run.head? = keyword.letters.head? →
    keyword = .not ∨ before.getLast?.any Alphabet.isBlank = true →
    run = keyword.letters ∧ rest.head?.any Alphabet.isBlank = true

/-- A text in which no keyword breaks off. -/
def Unbroken (text : List Char) : Prop :=
  ∀ before run rest, text = before ++ run ++ rest → LetterRun before run rest →
    Keyword.Whole before run rest

section Decidable

variable (before run rest : List Char)

instance : Decidable (LetterRun before run rest) :=
  decidable_of_iff (before.count '"' % 2 = 0 ∧ run ≠ [] ∧ run.all Alphabet.isWord = true ∧
      before.getLast?.any Alphabet.isWord = false ∧ rest.head?.any Alphabet.isWord = false) <| by
    rw [List.all_eq_true]
    constructor
    · rintro ⟨outside, nonempty, letters, starts, stops⟩
      exact ⟨outside, nonempty, letters, starts, stops⟩
    · rintro ⟨outside, nonempty, letters, starts, stops⟩
      exact ⟨outside, nonempty, letters, starts, stops⟩

instance : Decidable (Keyword.Whole before run rest) :=
  decidable_of_iff (∀ keyword ∈ Keyword.all, run.head? = keyword.letters.head? →
      keyword = .not ∨ before.getLast?.any Alphabet.isBlank = true →
      run = keyword.letters ∧ rest.head?.any Alphabet.isBlank = true) <| by
    constructor
    · intro listed keyword
      exact listed keyword (by cases keyword <;> decide)
    · intro whole keyword _
      exact whole keyword

/-- The parts of a text are found by where they begin and how long they are. -/
instance (text : List Char) : Decidable (Unbroken text) :=
  decidable_of_iff (∀ start ≤ text.length, ∀ count ≤ text.length,
      LetterRun (text.take start) ((text.drop start).take count) ((text.drop start).drop count) →
      Keyword.Whole (text.take start) ((text.drop start).take count)
        ((text.drop start).drop count)) <| by
    constructor
    · rintro checked before run rest rfl letters
      have found := checked before.length (by simp) run.length (by simp; omega)
      simp only [List.append_assoc, List.take_left, List.drop_left] at found
      exact found letters
    · intro unbroken start _ count _
      exact unbroken _ _ _ (by simp)

end Decidable

namespace Keyword

theorem isWord_of_mem_letters {keyword : Keyword} {ch : Char} (member : ch ∈ keyword.letters) :
    Alphabet.isWord ch = true := by
  obtain ⟨index, expected⟩ := List.getElem?_of_mem member
  exact isWord_of_expects expected

end Keyword

/-- Characters of a class hold none from outside it. -/
theorem Alphabet.count_eq_zero {keep : Char → Bool} {chars : List Char} {ch : Char}
    (kept : ∀ ch ∈ chars, keep ch = true) (outside : keep ch = false) : chars.count ch = 0 := by
  apply List.count_eq_zero.mpr
  intro member
  have inside := kept ch member
  rw [outside] at inside
  cases inside

namespace State

/-- Where letters may begin: outside the phrases and not right after other letters. -/
structure Free (before : List Char) : Prop where
  outside : before.count '"' % 2 = 0
  ends : before.getLast?.any Alphabet.isWord = false

/-- A state that may stand after a text. Inside a phrase the quotation marks before it are not
in pairs; a keyword is the end of the text and began where it may. -/
def Follows (before : List Char) : State → Prop
  | .expression | .afterKeyword | .opening _ | .closing _ => Free before
  | .implicitAnd _ => Free before ∧ before.getLast?.any Alphabet.isBlank = true
  | .word _ => before.count '"' % 2 = 0
  | .phrase _ => before.count '"' % 2 = 1
  | .keyword operator literal _ => ∃ earlier, before = earlier ++ literal.text.toList ∧
      Free earlier ∧ (operator = .not ∨ earlier.getLast?.any Alphabet.isBlank = true) ∧
      literal.text.toList ≠ [] ∧ literal.text.toList <+: operator.letters

variable {before : List Char} {ch : Char} {place : Position}

private theorem count_concat (other : ch ≠ '"') (before : List Char) :
    (before ++ [ch]).count '"' = before.count '"' := by
  simp [other]

theorem Free.concat (outside : before.count '"' % 2 = 0) (other : ch ≠ '"')
    (apart : Alphabet.isWord ch = false) : Free (before ++ [ch]) where
  outside := by rw [count_concat other, outside]
  ends := by simpa using apart

/-- After blanks letters may begin, AND and OR among them. -/
theorem Free.concat_blank (outside : before.count '"' % 2 = 0)
    (blank : Alphabet.isBlank ch = true) :
    Free (before ++ [ch]) ∧ (before ++ [ch]).getLast?.any Alphabet.isBlank = true := by
  have other := Alphabet.ne_of_isBlank blank (by decide : Alphabet.isBlank '"' = false)
  exact ⟨.concat outside other (Alphabet.isWord_of_isBlank blank), by simpa using blank⟩

theorem Opens.follows {next : State} (opens : Opens ch place next) (free : Free before) :
    next.Follows (before ++ [ch]) := by
  obtain ⟨outside, ends⟩ := free
  cases opens with
  | opening own | closing own =>
    subst own
    exact .concat outside (by decide) (by decide)
  | blanks blank => exact Free.concat_blank outside blank
  | negation own =>
    subst own
    exact ⟨before, by simp [Literal.ofChar], ⟨outside, ends⟩, .inl rfl, by simp [Literal.ofChar],
      by simp [Literal.ofChar, Keyword.letters]⟩
  | phrase own =>
    subst own
    simp only [Follows, List.count_append, List.count_singleton_self]
    omega
  | word letter =>
    rw [Follows, count_concat (Alphabet.ne_of_isWord letter (by decide)), outside]

theorem Continues.follows {literal : Literal} {emitted : List PlacedToken} {next : State}
    (continues : Continues literal ch place emitted next) (outside : before.count '"' % 2 = 0) :
    next.Follows (before ++ [ch]) := by
  cases continues with
  | grow letter => rw [Follows, count_concat (Alphabet.ne_of_isWord letter (by decide)), outside]
  | close own =>
    subst own
    exact .concat outside (by decide) (by decide)
  | part blank => exact Free.concat_blank outside blank

/-- A keyword state is outside the phrases. -/
theorem Follows.keyword_outside {operator : Keyword} {literal : Literal} {held : Option Literal}
    (follows : (State.keyword operator literal held).Follows before) :
    before.count '"' % 2 = 0 := by
  obtain ⟨earlier, rfl, free, _, _, letters⟩ := follows
  have word : ∀ ch ∈ literal.text.toList, Alphabet.isWord ch = true := fun ch member =>
    Keyword.isWord_of_mem_letters (letters.subset member)
  rw [List.count_append, Alphabet.count_eq_zero word rfl]
  exact free.outside

/-- A step that loses no character leads to a state that may stand after it. -/
theorem Transition.follows {state next : State} {emitted : List PlacedToken}
    (transition : Transition .feedThrough ch place state emitted next)
    (follows : state.Follows before) : next.Follows (before ++ [ch]) := by
  cases transition with
  | start opens | resume _ opens | retireOpening _ opens | retireClosing opens =>
    exact opens.follows follows
  | retireBlanks _ opens => exact opens.follows follows.1
  | skip blank =>
    have free : Free before := follows
    exact (Free.concat_blank free.outside blank).1
  | word continues => exact continues.follows follows
  | feedThrough _ continues => exact continues.follows follows.keyword_outside
  | drop mode => cases mode
  | growBlanks blank => exact Free.concat_blank follows.1.outside blank
  | growPhrase quoted =>
    have other : ch ≠ '"' := by
      rintro rfl
      cases quoted
    rw [Follows, count_concat other]
    exact follows
  | endPhrase own =>
    subst own
    have inside : before.count '"' % 2 = 1 := follows
    refine ⟨?_, by simp; decide⟩
    simp only [List.count_append, List.count_singleton_self]
    omega
  | hold connective begins =>
    obtain ⟨letters, whole⟩ := List.head?_eq_some_iff.mp begins
    exact ⟨before, by simp [Literal.ofChar], follows.1, .inr follows.2, by simp [Literal.ofChar],
      letters, by simp [Literal.ofChar, whole]⟩
  | growKeyword expected =>
    obtain ⟨earlier, rfl, free, usable, _, letters⟩ := follows
    rw [← String.length_toList] at expected
    refine ⟨earlier, by simp [Literal.push], free, usable, by simp [Literal.push], ?_⟩
    simpa [Literal.push] using Keyword.expects_eq_some letters expected
  | endKeyword _ blank => exact (Free.concat_blank follows.keyword_outside blank).1

/-- Where no keyword breaks off, the rest of one that has begun comes next and a blank after
it. -/
theorem Follows.keyword_rest {operator : Keyword} {literal : Literal} {held : Option Literal}
    {chars : List Char} (follows : (State.keyword operator literal held).Follows before)
    (unbroken : Unbroken (before ++ chars)) :
    ∃ run rest, chars = run ++ rest ∧ literal.text.toList ++ run = operator.letters ∧
      rest.head?.any Alphabet.isBlank = true := by
  obtain ⟨earlier, rfl, free, usable, nonempty, letters⟩ := follows
  have whole := List.takeWhile_append_dropWhile (p := Alphabet.isWord) (l := chars)
  have begins : (literal.text.toList ++ chars.takeWhile Alphabet.isWord).head? =
      operator.letters.head? := by
    obtain ⟨ch, more, own⟩ := List.exists_cons_of_ne_nil nonempty
    obtain ⟨others, spelled⟩ := letters
    rw [← spelled, own]
    rfl
  have run : LetterRun earlier (literal.text.toList ++ chars.takeWhile Alphabet.isWord)
      (chars.dropWhile Alphabet.isWord) := by
    refine ⟨free.outside, by simp [nonempty], ?_, free.ends, ?_⟩
    · intro ch member
      rcases List.mem_append.mp member with own | later
      · exact Keyword.isWord_of_mem_letters (letters.subset own)
      · exact List.all_eq_true.mp List.all_takeWhile ch later
    · have stopped := List.head?_dropWhile_not Alphabet.isWord chars
      cases dropped : (chars.dropWhile Alphabet.isWord).head? with
      | none => rfl
      | some ch => simpa [dropped] using stopped
  obtain ⟨spelled, ends⟩ := unbroken _ _ _ (by simp [whole]) run operator begins usable
  exact ⟨_, _, whole.symm, spelled, ends⟩

/-- Where no keyword breaks off, the two fallbacks take the same step. -/
theorem step_agrees {state : State} {rest : List Char} (follows : state.Follows before)
    (unbroken : Unbroken (before ++ ch :: rest)) (place : Position) :
    state.step .legacy ch place = state.step .feedThrough ch place := by
  cases state with
  | keyword operator literal held =>
    obtain ⟨run, tail, split, spelled, ends⟩ := follows.keyword_rest unbroken
    -- Either the keyword is whole and a blank comes, or its next letter does.
    cases run with
    | nil =>
      rw [List.append_nil] at spelled
      rw [List.nil_append] at split
      subst split
      have whole : operator.expects literal.text.length = none := by
        rw [← String.length_toList]
        exact (Keyword.expects_eq_none (spelled ▸ List.prefix_refl _)).mpr spelled
      have blank : Alphabet.isBlank ch = true := ends
      simp only [step, stepKeyword, whole, reduceCtorEq, ↓reduceIte, true_and, blank]
    | cons letter more =>
      cases split
      have expected : operator.expects literal.text.length = some ch := by
        rw [← String.length_toList]
        apply Keyword.expects_of_prefix
        exact ⟨more, by rw [← spelled, List.append_assoc, List.singleton_append]⟩
      simp only [step, stepKeyword, if_pos expected]
  | expression | afterKeyword | opening opened | closing closed | word literal | phrase literal
  | implicitAnd literal => rfl

/-- Where no keyword breaks off, the two fallbacks end a query alike. -/
theorem finish_agrees {state : State} (follows : state.Follows before)
    (unbroken : Unbroken before) : state.finish .legacy = state.finish .feedThrough := by
  cases state with
  | keyword operator literal held =>
    rw [← List.append_nil before] at unbroken
    obtain ⟨run, tail, split, _, ends⟩ := follows.keyword_rest unbroken
    obtain ⟨_, rfl⟩ := List.append_eq_nil_iff.mp split.symm
    cases ends
  | expression | afterKeyword | opening opened | closing closed | word literal | phrase literal
  | implicitAnd literal => rfl

end State

namespace Scanner

variable {scanner : Scanner} {before : List Char}

/-- A step of the scanner, with limits or without, is a transition of its state. -/
theorem transition_of_feed {fallback : Fallback} {enforced : Bool} {ch : Char} {next : Scanner}
    (fed : scanner.feed fallback enforced ch = .ok (.ok next)) :
    ∃ emitted, State.Transition fallback ch scanner.place scanner.state emitted next.state := by
  obtain ⟨step, stepped, consumed, _⟩ := step_of_feed fed
  rw [(scanner.state.step_tracks fallback ch scanner.place).eq_of_ok stepped] at consumed
  exact ⟨_, State.transition_of_move consumed⟩

theorem feed_agrees {ch : Char} {rest : List Char} (enforced : Bool)
    (follows : scanner.state.Follows before) (unbroken : Unbroken (before ++ ch :: rest)) :
    scanner.feed .legacy enforced ch = scanner.feed .feedThrough enforced ch := by
  rw [feed, feed, State.step_agrees follows unbroken]

theorem close_agrees (enforced : Bool) (follows : scanner.state.Follows before)
    (unbroken : Unbroken before) :
    scanner.close .legacy enforced = scanner.close .feedThrough enforced := by
  rw [close, close, State.finish_agrees follows unbroken]

/-- A run that loses no character leads to a state that may stand after it. -/
theorem follows_of_feedAll {enforced : Bool} {chars : List Char} {last : Scanner}
    (follows : scanner.state.Follows before)
    (fed : scanner.feedAll .feedThrough enforced chars = .ok (.ok last)) :
    last.state.Follows (before ++ chars) := by
  induction chars generalizing scanner before with
  | nil =>
    cases fed
    rw [List.append_nil]
    exact follows
  | cons ch rest ih =>
    obtain ⟨next, first, later⟩ := feed_of_feedAll fed
    obtain ⟨_, transition⟩ := transition_of_feed first
    simpa using ih (transition.follows follows) later

/-- Where no keyword breaks off, the two fallbacks make the same run. -/
theorem feedAll_agrees {chars : List Char} (enforced : Bool)
    (follows : scanner.state.Follows before) (unbroken : Unbroken (before ++ chars)) :
    scanner.feedAll .legacy enforced chars = scanner.feedAll .feedThrough enforced chars := by
  induction chars generalizing scanner before with
  | nil => rfl
  | cons ch rest ih =>
    simp only [feedAll, feed_agrees enforced follows unbroken]
    cases fed : scanner.feed .feedThrough enforced ch with
    | error fault => rfl
    | ok result =>
      cases result with
      | error failure => rfl
      | ok next =>
        obtain ⟨_, transition⟩ := transition_of_feed fed
        exact ih (transition.follows follows) (by simpa using unbroken)

/-- Where no keyword breaks off, the two fallbacks scan a query alike: the same tokens, failure
or fault, under limits or not. -/
theorem scan_agrees {query : String} (unbroken : Unbroken query.toList) (enforced : Bool) :
    scan .legacy enforced query = scan .feedThrough enforced query := by
  have start : initial.state.Follows [] := ⟨rfl, rfl⟩
  have same : initial.feedAll .legacy enforced query.toList =
      initial.feedAll .feedThrough enforced query.toList := feedAll_agrees enforced start unbroken
  simp only [scan, same]
  cases checkLength enforced query with
  | error failure => rfl
  | ok _ =>
    cases fed : initial.feedAll .feedThrough enforced query.toList with
    | error fault => rfl
    | ok result =>
      cases result with
      | error failure => rfl
      | ok last => exact close_agrees enforced (follows_of_feedAll start fed) unbroken

end Scanner

namespace Tokenizer

/-- On a query in which no keyword breaks off, what is answered when broken keywords are fed
through is answered when they lose a character too: the same tokens with the same spans, or
the same failure. -/
theorem tokenize_agrees {preferences : SearchPreferences} {query : String}
    {session later : Log.Session} {result : Except Failure Stream}
    (unbroken : Unbroken query.toList)
    (answered : tokenize { preferences with fallback := .feedThrough } query session =
      .ok (result, later)) :
    ∃ other, tokenize { preferences with fallback := .legacy } query session =
      .ok (result, other) := by
  have ran : run { preferences with fallback := .legacy } query = .ok result := by
    rw [← run_of_tokenize answered, run, run, Scanner.scan_agrees unbroken]
  cases result with
  | ok stream => exact tokenize_of_run_ok session ran
  | error failure =>
    obtain ⟨span, pointed⟩ := span_of_tokenize_error answered
    exact tokenize_of_run_error session ran pointed

theorem tokenize_agrees_negated_phrase :
    Unbroken "ON AND NOT \"NO\"(b".toList ∧
      ∃ stream, tokenize ⟨.feedThrough, false, true, false⟩ "ON AND NOT \"NO\"(b" {} =
          .ok (.ok stream, {}) ∧
        stream.tokens.map (·.value) = [⟨.word, "ON"⟩, ⟨.and, "AND"⟩, ⟨.not, "NOT"⟩,
          ⟨.phrase, "\"NO\""⟩, ⟨.opening, "("⟩, ⟨.word, "b"⟩] ∧
        ∃ other, tokenize ⟨.legacy, false, true, false⟩ "ON AND NOT \"NO\"(b" {} =
          .ok (.ok stream, other) := by
  have unbroken : Unbroken "ON AND NOT \"NO\"(b".toList := by decide +kernel
  refine ⟨unbroken, _, rfl, rfl, ?_⟩
  exact @tokenize_agrees ⟨.feedThrough, false, true, false⟩ _ {} {} _ unbroken rfl

end Tokenizer

end SearchLex
