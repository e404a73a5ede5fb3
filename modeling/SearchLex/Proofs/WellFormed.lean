import SearchLex.Proofs.Adjacency
import SearchLex.Proofs.Agreement

/-! The shape of what the scanner holds and retires. What a state holds is spelled as its
name says, along every run and in both modes; so the literal of a token alone tells whether
it is an AND that was never written, and what a phrase says. -/

namespace SearchLex

/-- A text of one character of a class or more, and of nothing else. -/
def Alphabet.Run (keep : Char → Bool) (text : String) : Prop :=
  text ≠ "" ∧ ∀ ch ∈ text.toList, keep ch = true

namespace Alphabet

variable {keep : Char → Bool} {text : String} {ch : Char}

theorem push_ne_empty (text : String) (ch : Char) : text.push ch ≠ "" := by
  intro empty
  simpa using congrArg String.length empty

theorem run_singleton (kept : keep ch = true) : Run keep (String.singleton ch) :=
  ⟨push_ne_empty "" ch, by simpa using kept⟩

theorem Run.push (run : Run keep text) (kept : keep ch = true) : Run keep (text.push ch) := by
  refine ⟨push_ne_empty text ch, ?_⟩
  rw [String.toList_push]
  exact List.forall_mem_append.mpr ⟨run.2, List.forall_mem_singleton.mpr kept⟩

/-- Blanks do not spell a keyword. -/
theorem Run.ne_and (run : Run isBlank text) : text ≠ "AND" := by
  rintro rfl
  have blank := run.2 'A' (by decide)
  revert blank
  decide

end Alphabet

/-- A token whose literal is one that its kind can have. -/
def Token.WellFormed (token : Token) : Prop :=
  match token.kind with
  | .opening => token.literal = "("
  | .closing => token.literal = ")"
  | .and => token.literal = "AND" ∨ Alphabet.Run Alphabet.isBlank token.literal
  | .or => token.literal = "OR"
  | .not => token.literal = "NOT"
  | .word => Alphabet.Run Alphabet.isWord token.literal
  | .phrase => ∃ inner, token.phraseText = some inner ∧ '"' ∉ inner.toList

/-- A text in quotation marks is a phrase of what stands between them. -/
theorem Token.wellFormed_phrase {literal : String} {inner : List Char}
    (spelled : literal.toList = '"' :: inner) (quoted : ∀ ch ∈ inner, Alphabet.isQuoted ch = true) :
    Token.WellFormed ⟨.phrase, literal.push '"'⟩ := by
  refine ⟨String.ofList inner, ?_, ?_⟩
  · simp [phraseText, unquoted, spelled]
  · intro mark
    rw [String.toList_ofList] at mark
    have inside := quoted '"' mark
    revert inside
    decide

namespace State

/-- A state that holds what its name says. -/
def WellFormed : State → Prop
  | .expression | .afterKeyword | .opening _ | .closing _ => True
  | .word literal => Alphabet.Run Alphabet.isWord literal.text
  | .phrase literal =>
    ∃ inner, literal.text.toList = '"' :: inner ∧ ∀ ch ∈ inner, Alphabet.isQuoted ch = true
  | .implicitAnd literal => Alphabet.Run Alphabet.isBlank literal.text
  | .keyword operator literal held =>
    (literal.text ≠ "" ∧ literal.text.toList <+: operator.letters) ∧
      (held.isSome = true ↔ operator = .and ∨ operator = .or) ∧
      ∀ blanks ∈ held, Alphabet.Run Alphabet.isBlank blanks.text

/-- The blanks a state keeps as the AND they may become. -/
def blankBuffer? : State → Option Literal
  | .implicitAnd literal => some literal
  | .keyword _ _ held => held
  | _ => none

/-- A token that is the blanks of a state, retired as an AND. -/
def Releases (state : State) (token : PlacedToken) : Prop :=
  ∃ blanks, state.blankBuffer? = some blanks ∧ token.value = ⟨.and, blanks.text⟩ ∧
    token.span.start = blanks.start

/-- A token that a state may retire: its literal is one its kind can have, and tells whether
the token is the blanks of the state. -/
structure MayRetire (state : State) (token : PlacedToken) : Prop where
  wellFormed : token.value.WellFormed
  implicit : token.value.isImplicitAnd = true ↔ state.Releases token

variable {fallback : Fallback} {state next : State} {literal : Literal} {ch : Char}
  {place : Position}

theorem WellFormed.run_blankBuffer (valid : state.WellFormed) {blanks : Literal}
    (kept : state.blankBuffer? = some blanks) : Alphabet.Run Alphabet.isBlank blanks.text := by
  cases state with
  | implicitAnd literal =>
    cases kept
    exact valid
  | keyword operator literal held => exact valid.2.2 blanks kept
  | expression | afterKeyword | opening place | closing place | word literal
  | phrase literal => cases kept

/-- The first letters of a keyword make a word. -/
theorem WellFormed.run_keyword {operator : Keyword} {held : Option Literal}
    (valid : (State.keyword operator literal held).WellFormed) :
    Alphabet.Run Alphabet.isWord literal.text := by
  obtain ⟨⟨nonempty, begun⟩, _⟩ := valid
  exact ⟨nonempty, fun ch member => Keyword.isWord_of_mem_letters (begun.subset member)⟩

theorem mayRetire_of_kind {token : PlacedToken} (other : token.value.kind ≠ .and)
    (valid : token.value.WellFormed) : state.MayRetire token := by
  refine ⟨valid, ?_, ?_⟩
  · intro implicit
    simp [Token.isImplicitAnd, other] at implicit
  · rintro ⟨blanks, _, own, _⟩
    exact absurd (congrArg Token.kind own) other

theorem mayRetire_word (run : Alphabet.Run Alphabet.isWord literal.text) :
    state.MayRetire (literal.placed .word) :=
  mayRetire_of_kind nofun run

theorem mayRetire_phrase {inner : List Char} (spelled : literal.text.toList = '"' :: inner)
    (quoted : ∀ ch ∈ inner, Alphabet.isQuoted ch = true) :
    state.MayRetire ((literal.push '"').placed .phrase) :=
  mayRetire_of_kind nofun (Token.wellFormed_phrase spelled quoted)

theorem mayRetire_parenthesis {kind : Kind}
    (own : kind = .opening ∧ ch = '(' ∨ kind = .closing ∧ ch = ')') :
    state.MayRetire ((Literal.ofChar place ch).placed kind) := by
  rcases own with ⟨rfl, rfl⟩ | ⟨rfl, rfl⟩
  · exact mayRetire_of_kind nofun rfl
  · exact mayRetire_of_kind nofun rfl

theorem mayRetire_blanks (valid : state.WellFormed) (kept : state.blankBuffer? = some literal) :
    state.MayRetire (literal.placed .and) := by
  have run := valid.run_blankBuffer kept
  refine ⟨.inr run, fun _ => ⟨literal, kept, rfl, rfl⟩, fun _ => ?_⟩
  simpa [Token.isImplicitAnd, Literal.placed] using run.ne_and

/-- An operator is retired with the letters of its keyword, and blanks have none. -/
theorem mayRetire_operator {operator : Keyword} {held : Option Literal}
    (valid : (State.keyword operator literal held).WellFormed)
    (whole : operator.expects literal.text.length = none) :
    (State.keyword operator literal held).MayRetire (literal.placed operator.kind) := by
  have explicit := isImplicitAnd_of_whole valid.1.2 whole
  rw [← String.length_toList] at whole
  have spelled : literal.text = operator.text := by
    rw [Keyword.text, ← (Keyword.expects_eq_none valid.1.2).mp whole, String.ofList_toList]
  refine ⟨?_, by simp [explicit], ?_⟩
  · rw [Literal.placed, spelled]
    cases operator with
    | not | or => exact (rfl : (_ : String) = _)
    | and => exact .inl rfl
  · rintro ⟨blanks, kept, own, _⟩
    have run := valid.run_blankBuffer kept
    have same : literal.text = blanks.text := congrArg Token.literal own
    have kind : operator.kind = .and := congrArg Token.kind own
    cases operator with
    | and => exact absurd (same.symm.trans spelled) run.ne_and
    | not | or => cases kind

theorem mayRetire_released {operator : Keyword} {held : Option Literal}
    (valid : (State.keyword operator literal held).WellFormed) :
    ∀ token ∈ released held, (State.keyword operator literal held).MayRetire token := by
  intro token member
  obtain ⟨blanks, kept, rfl⟩ := List.mem_map.mp member
  exact mayRetire_blanks valid (Option.mem_toList.mp kept)

theorem Opens.wellFormed (opens : Opens ch place next) : next.WellFormed := by
  cases opens with
  | opening | closing => trivial
  | blanks blank => exact Alphabet.run_singleton blank
  | word letter => exact Alphabet.run_singleton letter
  | phrase own => exact ⟨[], by simp [Literal.ofChar, own], by simp⟩
  | negation own =>
    refine ⟨⟨Alphabet.push_ne_empty "" ch, ?_⟩, by simp, by simp⟩
    simp [Literal.ofChar, own, Keyword.letters]

theorem Continues.wellFormed {emitted : List PlacedToken}
    (run : Alphabet.Run Alphabet.isWord literal.text)
    (continues : Continues literal ch place emitted next) :
    next.WellFormed ∧ ∀ token ∈ emitted, state.MayRetire token := by
  cases continues with
  | grow letter => exact ⟨run.push letter, by simp⟩
  | close => exact ⟨trivial, by simpa using mayRetire_word run⟩
  | part blank => exact ⟨Alphabet.run_singleton blank, by simpa using mayRetire_word run⟩

/-- A transition from a well-formed state retires tokens that the state may retire, and leads
to a well-formed state. -/
theorem Transition.wellFormed {emitted : List PlacedToken}
    (transition : Transition fallback ch place state emitted next) (valid : state.WellFormed) :
    next.WellFormed ∧ ∀ token ∈ emitted, state.MayRetire token := by
  cases transition with
  | start opens | resume _ opens => exact ⟨opens.wellFormed, by simp⟩
  | skip => exact ⟨trivial, by simp⟩
  | retireOpening _ opens =>
    exact ⟨opens.wellFormed, by simpa using mayRetire_parenthesis (.inl ⟨rfl, rfl⟩)⟩
  | retireClosing opens =>
    exact ⟨opens.wellFormed, by simpa using mayRetire_parenthesis (.inr ⟨rfl, rfl⟩)⟩
  | word continues => exact continues.wellFormed valid
  | growPhrase quoted =>
    obtain ⟨inner, spelled, inside⟩ := valid
    refine ⟨⟨inner ++ [ch], by simp [Literal.push, spelled], ?_⟩, by simp⟩
    exact List.forall_mem_append.mpr ⟨inside, List.forall_mem_singleton.mpr quoted⟩
  | @endPhrase literal own =>
    obtain ⟨inner, spelled, inside⟩ := valid
    subst own
    exact ⟨trivial, by simpa using mayRetire_phrase spelled inside⟩
  | growBlanks blank => exact ⟨Alphabet.Run.push valid blank, by simp⟩
  | @hold blanks operator connective begins =>
    obtain ⟨letters, whole⟩ := List.head?_eq_some_iff.mp begins
    refine ⟨⟨⟨Alphabet.push_ne_empty "" ch, letters, ?_⟩, ?_, ?_⟩, by simp⟩
    · simp [Literal.ofChar, whole]
    · cases operator with
      | not => exact absurd rfl connective
      | and | or => simp
    · intro held own
      cases own
      exact valid
  | retireBlanks _ opens =>
    exact ⟨opens.wellFormed, by simpa using mayRetire_blanks valid rfl⟩
  | growKeyword expected =>
    obtain ⟨⟨_, begun⟩, held⟩ := valid
    rw [← String.length_toList] at expected
    refine ⟨⟨⟨Alphabet.push_ne_empty _ ch, ?_⟩, held⟩, by simp⟩
    simpa [Literal.push] using Keyword.expects_eq_some begun expected
  | endKeyword whole => exact ⟨trivial, by simpa using mayRetire_operator valid whole⟩
  | feedThrough _ continues =>
    obtain ⟨later, own⟩ := continues.wellFormed valid.run_keyword
    exact ⟨later, List.forall_mem_append.mpr ⟨mayRetire_released valid, own⟩⟩
  | drop => exact ⟨valid.run_keyword, by simp⟩

theorem Ends.mayRetire {tokens : List PlacedToken} (ends : Ends fallback state tokens)
    (valid : state.WellFormed) : ∀ token ∈ tokens, state.MayRetire token := by
  cases ends with
  | expression | afterKeyword | blanks | lost => simp
  | opening => simpa using mayRetire_parenthesis (.inl ⟨rfl, rfl⟩)
  | closing => simpa using mayRetire_parenthesis (.inr ⟨rfl, rfl⟩)
  | word => simpa using mayRetire_word valid
  | operator _ _ whole => simpa using mayRetire_operator valid whole
  | broken =>
    refine List.forall_mem_append.mpr ⟨mayRetire_released valid, ?_⟩
    simpa using mayRetire_word valid.run_keyword

/-- Characters consumed one after the other from the start of a query, each at any place: the
state they lead to, and the tokens retired on the way, each after the state that retired it. -/
inductive Reaches (fallback : Fallback) :
    List Char → State → List (State × PlacedToken) → Prop where
  | start : Reaches fallback [] .expression []
  | step {chars : List Char} {state next : State} {retired : List (State × PlacedToken)}
      {step : Step State} (ch : Char) (place : Position)
      (reaches : Reaches fallback chars state retired)
      (stepped : state.step fallback ch place = .ok step) (consumed : step.outcome = .ok next) :
      Reaches fallback (chars ++ [ch]) next (retired ++ step.emitted.map (state, ·))

/-- A whole query consumed and ended: all the tokens retired, each after the state that
retired it. -/
inductive Retires (fallback : Fallback) : List Char → List (State × PlacedToken) → Prop where
  | finish {chars : List Char} {last : State} {retired : List (State × PlacedToken)}
      {step : Step Unit} (reaches : Reaches fallback chars last retired)
      (finished : last.finish fallback = .ok step) (accepted : step.outcome = .ok ()) :
      Retires fallback chars (retired ++ step.emitted.map (last, ·))

/-- Every state a run leads to is well-formed, and so is every token retired on the way. -/
theorem Reaches.wellFormed {chars : List Char} {retired : List (State × PlacedToken)}
    (reaches : Reaches fallback chars state retired) :
    state.WellFormed ∧ ∀ entry ∈ retired, entry.1.MayRetire entry.2 := by
  induction reaches with
  | start => exact ⟨trivial, by simp⟩
  | @step chars state next retired step ch place _ stepped consumed ih =>
    obtain rfl := (state.step_tracks fallback ch place).eq_of_ok stepped
    obtain ⟨later, own⟩ := (transition_of_move consumed).wellFormed ih.1
    refine ⟨later, List.forall_mem_append.mpr ⟨ih.2, ?_⟩⟩
    exact List.forall_mem_map.mpr own

theorem Retires.mayRetire {chars : List Char} {retired : List (State × PlacedToken)}
    (retires : Retires fallback chars retired) : ∀ entry ∈ retired, entry.1.MayRetire entry.2 := by
  cases retires with
  | @finish last earlier step reaches finished accepted =>
    obtain ⟨valid, before⟩ := reaches.wellFormed
    obtain rfl := (last.finish_tracks fallback).eq_of_ok finished
    refine List.forall_mem_append.mpr ⟨before, ?_⟩
    exact List.forall_mem_map.mpr ((ends_of_settle accepted).mayRetire valid)

end State

namespace Scanner

variable {fallback : Fallback} {enforced : Bool} {scanner : Scanner}

theorem reaches_of_feedAll {before chars : List Char} {retired : List (State × PlacedToken)}
    {last : Scanner} (reaches : State.Reaches fallback before scanner.state retired)
    (kept : scanner.tokens.toList = retired.map Prod.snd)
    (fed : scanner.feedAll fallback enforced chars = .ok (.ok last)) :
    ∃ more, State.Reaches fallback (before ++ chars) last.state more ∧
      last.tokens.toList = more.map Prod.snd := by
  induction chars generalizing scanner before retired with
  | nil =>
    cases fed
    exact ⟨retired, by rwa [List.append_nil], kept⟩
  | cons ch rest ih =>
    obtain ⟨next, first, later⟩ := feed_of_feedAll fed
    obtain ⟨step, stepped, consumed, _, grown⟩ := step_of_feed first
    have further := reaches.step ch scanner.place stepped consumed
    have held : next.tokens.toList =
        (retired ++ step.emitted.map (scanner.state, ·)).map Prod.snd := by
      simp [grown, kept, Function.comp_def]
    simpa using ih further held later

/-- The tokens of a scan are those its states retire. -/
theorem retires_of_scan {query : String} {tokens : List PlacedToken}
    (scanned : scan fallback enforced query = .ok (.ok tokens)) :
    ∃ retired, State.Retires fallback query.toList retired ∧ tokens = retired.map Prod.snd := by
  obtain ⟨last, fed, closed⟩ := feedAll_of_scan scanned
  obtain ⟨earlier, reaches, kept⟩ := reaches_of_feedAll .start rfl fed
  simp only [close, bind, Except.bind, pure, Except.pure] at closed
  split at closed
  · cases closed
  · rename_i step finished
    split at closed
    · cases closed
    · rename_i accepted
      split at closed
      · cases closed
      · cases closed
        exact ⟨_, .finish reaches finished accepted, by simp [kept, Function.comp_def]⟩

end Scanner

namespace Tokenizer

/-- The tokens of an accepted query are those its states retire, and their literals are those
their kinds can have. -/
theorem retires_of_tokenize {preferences : SearchPreferences} {query : String}
    {session later : Log.Session} {stream : Stream}
    (answered : tokenize preferences query session = .ok (.ok stream, later)) :
    (∀ token ∈ stream.tokens, token.value.WellFormed) ∧
      ∃ retired, State.Retires preferences.fallback query.toList retired ∧
        stream.tokens = retired.map Prod.snd := by
  obtain ⟨tokens, rfl, scanned⟩ := scan_of_run (run_of_tokenize answered)
  obtain ⟨retired, retires, rfl⟩ := Scanner.retires_of_scan scanned
  refine ⟨?_, retired, retires, rfl⟩
  exact List.forall_mem_map.mpr fun entry member => (retires.mayRetire entry member).wellFormed

/-- Whatever characters the scanner has consumed, what its state holds is spelled as the state
says; so the literals of an accepted query are those their kinds can have, and a token reads as
an implicit AND exactly if the state that retired it did so with its blanks. -/
theorem tokenize_wellFormed (preferences : SearchPreferences) :
    (∀ chars state retired, State.Reaches preferences.fallback chars state retired →
      state.WellFormed) ∧
    ∀ query session stream later, tokenize preferences query session = .ok (.ok stream, later) →
      (∀ token ∈ stream.tokens, token.value.WellFormed) ∧
      ∃ retired, State.Retires preferences.fallback query.toList retired ∧
        stream.tokens = retired.map Prod.snd ∧
        ∀ entry ∈ retired, entry.2.value.isImplicitAnd = true ↔ entry.1.Releases entry.2 := by
  refine ⟨fun chars state retired reaches => reaches.wellFormed.1, ?_⟩
  intro query session stream later answered
  obtain ⟨wellFormed, retired, retires, same⟩ := retires_of_tokenize answered
  exact ⟨wellFormed, retired, retires, same,
    fun entry member => (retires.mayRetire entry member).implicit⟩

theorem tokenize_wellFormed_broken_keyword :
    (State.keyword .not (.ofChar .start 'N') none).WellFormed ∧
    ∃ stream, tokenize ⟨.feedThrough, true, true, false⟩ "NO \"b )\" ANT" {} =
        .ok (.ok stream, {}) ∧
      stream.tokens.map (·.value) = [⟨.word, "NO"⟩, ⟨.and, " "⟩, ⟨.phrase, "\"b )\""⟩,
        ⟨.and, " "⟩, ⟨.word, "ANT"⟩] ∧
      (∀ token ∈ stream.tokens, token.value.WellFormed) ∧
      ∃ retired, State.Retires .feedThrough "NO \"b )\" ANT".toList retired ∧
        stream.tokens = retired.map Prod.snd ∧
        ∀ entry ∈ retired, entry.2.value.isImplicitAnd = true ↔ entry.1.Releases entry.2 := by
  obtain ⟨states, tokens⟩ := tokenize_wellFormed ⟨.feedThrough, true, true, false⟩
  have reaches : State.Reaches .feedThrough ['N'] (.keyword .not (.ofChar .start 'N') none) [] :=
    .step 'N' .start .start rfl rfl
  exact ⟨states _ _ _ reaches, _, rfl, rfl, tokens _ {} _ {} rfl⟩

end Tokenizer

end SearchLex
