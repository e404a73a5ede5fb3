import SearchLex.Proofs.Places
import SearchLex.Scan.Run

/-! The scanner without faults. Its steps are the steps of the scanner with every span and
place taken as it wraps around; on a query that is short enough for the counters the two
agree, so later modules reason about this one. -/

namespace SearchLex

namespace Literal

/-- The finished token, its span taken as it wraps around. -/
def placed (literal : Literal) (kind : Kind) : PlacedToken :=
  ⟨⟨kind, literal.text⟩, ⟨literal.start, literal.start.past literal.text.toList⟩⟩

/-- A literal that began somewhere in the first so many characters of a query and is not
longer than what was read since. -/
def Within (count : Nat) (literal : Literal) : Prop :=
  ∃ before, literal.start = .after before ∧ before.length + literal.text.length ≤ count

theorem Within.mono {less more : Nat} {literal : Literal} (within : literal.Within less)
    (bound : less ≤ more) : literal.Within more := by
  obtain ⟨before, start, length⟩ := within
  exact ⟨before, start, Nat.le_trans length bound⟩

theorem within_ofChar (before : List Char) (ch : Char) :
    (ofChar (.after before) ch).Within (before.length + 1) :=
  ⟨before, rfl, by simp [ofChar]⟩

theorem Within.push {count : Nat} {literal : Literal} (within : literal.Within count)
    (ch : Char) : (literal.push ch).Within (count + 1) := by
  obtain ⟨before, start, length⟩ := within
  exact ⟨before, start, by simp only [Literal.push, String.length_push]; omega⟩

/-- A literal whose text the counters can pass over. -/
def Fits (literal : Literal) : Prop := literal.start.Room literal.text.toList.length

theorem Within.fits {count : Nat} {literal : Literal} (within : literal.Within count)
    (bound : count + 2 ≤ UInt32.size) : literal.Fits := by
  obtain ⟨before, start, length⟩ := within
  rw [Fits, start, String.length_toList]
  exact Position.room_after (by omega)

theorem token_tracks (literal : Literal) (kind : Kind) :
    Checked.Tracks literal.Fits (literal.token kind) (literal.placed kind) :=
  (Span.covering_tracks literal.start literal.text).bind (.ok _ _)

end Literal

/-- What a function makes of a result comes from a result that went well. -/
theorem Failure.map_eq_ok {result : Except Failure α} {function : α → β} {value : β}
    (mapped : result.map function = .ok value) :
    ∃ own, result = .ok own ∧ function own = value := by
  cases result with
  | error failure => cases mapped
  | ok own => exact ⟨own, rfl, Except.ok.inj mapped⟩

namespace Step

/-- One step and then what its outcome leads to; a failure ends it. -/
def andThen (step : Step α) (next : α → Step β) : Step β :=
  match step.outcome with
  | .error failure => .fail failure step.emitted
  | .ok value => (next value).after step.emitted

/-- The token list of a run, or why it has none. -/
def answer (step : Step Unit) : Except Failure (List PlacedToken) :=
  step.outcome.map fun _ => step.emitted

theorem after_nil (step : Step α) : step.after [] = step := rfl

theorem after_after (first second : List PlacedToken) (step : Step α) :
    (step.after second).after first = step.after (first ++ second) := by
  simp [after, List.append_assoc]

theorem next_andThen (value : α) (emitted : List PlacedToken) (next : α → Step β) :
    (Step.next value emitted).andThen next = (next value).after emitted := rfl

theorem fail_andThen (failure : Failure) (emitted : List PlacedToken) (next : α → Step β) :
    (Step.fail failure emitted).andThen next = .fail failure emitted := rfl

theorem after_andThen (emitted : List PlacedToken) (step : Step α) (next : α → Step β) :
    (step.after emitted).andThen next = (step.andThen next).after emitted := by
  obtain ⟨own, outcome⟩ := step
  cases outcome with
  | error failure => rfl
  | ok value => exact (after_after emitted own (next value)).symm

theorem andThen_assoc (step : Step α) (second : α → Step β) (third : β → Step γ) :
    (step.andThen second).andThen third =
      step.andThen fun value => (second value).andThen third := by
  obtain ⟨own, outcome⟩ := step
  cases outcome with
  | error failure => rfl
  | ok value => exact after_andThen own (second value) third

/-- Two steps go well when both do. -/
theorem andThen_outcome_ok {step : Step α} {next : α → Step β} {value : β} :
    (step.andThen next).outcome = .ok value ↔
      ∃ middle, step.outcome = .ok middle ∧ (next middle).outcome = .ok value := by
  obtain ⟨own, outcome⟩ := step
  cases outcome with
  | error failure => simp [andThen, fail]
  | ok middle => simp [andThen, after]

/-- Two steps fail where the first of them does. -/
theorem andThen_outcome_error {step : Step α} {next : α → Step β} {failure : Failure} :
    (step.andThen next).outcome = .error failure ↔
      step.outcome = .error failure ∨
        ∃ middle, step.outcome = .ok middle ∧ (next middle).outcome = .error failure := by
  obtain ⟨own, outcome⟩ := step
  cases outcome with
  | error failure => simp [andThen, fail]
  | ok middle => simp [andThen, after]

@[simp] theorem answer_after (emitted : List PlacedToken) (step : Step Unit) :
    (step.after emitted).answer = step.answer.map (emitted ++ ·) := by
  obtain ⟨own, outcome⟩ := step
  cases outcome <;> rfl

@[simp] theorem answer_next (emitted : List PlacedToken) :
    (Step.next () emitted).answer = .ok emitted := rfl

@[simp] theorem answer_fail (failure : Failure) (emitted : List PlacedToken) :
    (Step.fail failure emitted).answer = .error failure := rfl

/-- The tokens of two steps are those of the first and then those of the second. -/
theorem answer_andThen_eq_ok {step : Step α} {next : α → Step Unit} {tokens : List PlacedToken}
    (answered : (step.andThen next).answer = .ok tokens) :
    ∃ value more, step.outcome = .ok value ∧ (next value).answer = .ok more ∧
      step.emitted ++ more = tokens := by
  obtain ⟨own, outcome⟩ := step
  cases outcome with
  | error failure => cases answered
  | ok value =>
    obtain ⟨more, finished, joined⟩ := Failure.map_eq_ok ((answer_after own _).symm.trans answered)
    exact ⟨value, more, rfl, finished, joined⟩

end Step

namespace State

/-- A character after the letters of a word. -/
def moveWord (literal : Literal) (ch : Char) (place : Position) : Step State :=
  if Alphabet.isWord ch then .next (.word (literal.push ch))
  else if ch = ')' then .next (.closing place) [literal.placed .word]
  else if Alphabet.isBlank ch then
    .next (.implicitAnd (.ofChar place ch)) [literal.placed .word]
  else .fail (.illegalCharacter ch place)

/-- A character between the quotation marks of a phrase. -/
def movePhrase (literal : Literal) (ch : Char) (place : Position) : Step State :=
  if Alphabet.isQuoted ch then .next (.phrase (literal.push ch))
  else if ch = '"' then .next .expression [(literal.push ch).placed .phrase]
  else .fail (.illegalCharacter ch place)

/-- A character after blanks that may become an AND. -/
def moveImplicitAnd (literal : Literal) (ch : Char) (place : Position) : Step State :=
  if Alphabet.isBlank ch then .next (.implicitAnd (literal.push ch))
  else if ch = 'O' then .next (.keyword .or (.ofChar place ch) (some literal))
  else if ch = 'A' then .next (.keyword .and (.ofChar place ch) (some literal))
  else ⟨[literal.placed .and], openExpression ch place⟩

/-- The AND of blanks that were held back, if there were any. -/
def released (held : Option Literal) : List PlacedToken :=
  held.toList.map (·.placed .and)

/-- A character after the first letters of a keyword. -/
def moveKeyword (fallback : Fallback) (operator : Keyword) (literal : Literal)
    (held : Option Literal) (ch : Char) (place : Position) : Step State :=
  if operator.expects literal.text.length = some ch then
    .next (.keyword operator (literal.push ch) held)
  else if operator.expects literal.text.length = none ∧ Alphabet.isBlank ch then
    .next .afterKeyword [literal.placed operator.kind]
  else
    match fallback with
    | .feedThrough => (moveWord literal ch place).after (released held)
    | .legacy => .next (.word literal)

/-- What a character at a place does to a state. -/
def move (fallback : Fallback) (state : State) (ch : Char) (place : Position) : Step State :=
  match state with
  | .expression => ⟨[], openExpression ch place⟩
  | .afterKeyword =>
    if Alphabet.isBlank ch then .next .afterKeyword else ⟨[], openExpression ch place⟩
  | .opening opened =>
    if Alphabet.isBlank ch then
      .fail (.illegalCharacter ch place) [(Literal.ofChar opened '(').placed .opening]
    else ⟨[(Literal.ofChar opened '(').placed .opening], openExpression ch place⟩
  | .closing closed => ⟨[(Literal.ofChar closed ')').placed .closing], openExpression ch place⟩
  | .word literal => moveWord literal ch place
  | .phrase literal => movePhrase literal ch place
  | .implicitAnd literal => moveImplicitAnd literal ch place
  | .keyword operator literal held => moveKeyword fallback operator literal held ch place

/-- What the end of the query does to a state. -/
def settle (fallback : Fallback) (state : State) : Step Unit :=
  match state with
  | .expression | .afterKeyword | .implicitAnd _ => .next ()
  | .opening place => .next () [(Literal.ofChar place '(').placed .opening]
  | .closing place => .next () [(Literal.ofChar place ')').placed .closing]
  | .word literal => .next () [literal.placed .word]
  | .phrase literal => .fail (.unterminatedPhrase literal.start)
  | .keyword operator literal held =>
    match fallback with
    | .legacy => .next ()
    | .feedThrough =>
      if operator.expects literal.text.length = none then
        .next () [literal.placed operator.kind]
      else .next () (released held ++ [literal.placed .word])

/-- The state after a run of characters and the tokens retired on the way. -/
def readAll (fallback : Fallback) (state : State) (place : Position) :
    List Char → Step State
  | [] => .next state
  | ch :: rest =>
    (state.move fallback ch place).andThen fun next =>
      next.readAll fallback (place.next ch) rest

/-- A run of characters and the end of the query. -/
def complete (fallback : Fallback) (state : State) (place : Position) (chars : List Char) :
    Step Unit :=
  (state.readAll fallback place chars).andThen (settle fallback)

theorem readAll_cons (fallback : Fallback) (state : State) (place : Position) (ch : Char)
    (rest : List Char) :
    state.readAll fallback place (ch :: rest) =
      (state.move fallback ch place).andThen fun next =>
        next.readAll fallback (place.next ch) rest := rfl

theorem readAll_append (fallback : Fallback) (state : State) (place : Position)
    (left right : List Char) :
    state.readAll fallback place (left ++ right) =
      (state.readAll fallback place left).andThen fun next =>
        next.readAll fallback (place.past left) right := by
  induction left generalizing state place with
  | nil => rfl
  | cons ch rest ih =>
    rw [List.cons_append, readAll_cons, readAll_cons, Step.andThen_assoc]
    simp only [ih, Position.past_cons]

theorem complete_nil (fallback : Fallback) (state : State) (place : Position) :
    state.complete fallback place [] = state.settle fallback := rfl

theorem complete_cons (fallback : Fallback) (state : State) (place : Position) (ch : Char)
    (rest : List Char) :
    state.complete fallback place (ch :: rest) =
      (state.move fallback ch place).andThen fun next =>
        next.complete fallback (place.next ch) rest :=
  Step.andThen_assoc ..

/-- The states a character opens where an expression may start. -/
inductive Opens (ch : Char) (place : Position) : State → Prop where
  | opening (own : ch = '(') : Opens ch place (.opening place)
  | closing (own : ch = ')') : Opens ch place (.closing place)
  | blanks (blank : Alphabet.isBlank ch = true) : Opens ch place (.implicitAnd (.ofChar place ch))
  | negation (own : ch = 'N') : Opens ch place (.keyword .not (.ofChar place ch) none)
  | phrase (own : ch = '"') : Opens ch place (.phrase (.ofChar place ch))
  | word (letter : Alphabet.isWord ch = true) : Opens ch place (.word (.ofChar place ch))

/-- How a word goes on with a character: the tokens it retires and the state after it. -/
inductive Continues (literal : Literal) (ch : Char) (place : Position) :
    List PlacedToken → State → Prop where
  | grow (letter : Alphabet.isWord ch = true) :
      Continues literal ch place [] (.word (literal.push ch))
  | close (own : ch = ')') : Continues literal ch place [literal.placed .word] (.closing place)
  | part (blank : Alphabet.isBlank ch = true) :
      Continues literal ch place [literal.placed .word] (.implicitAnd (.ofChar place ch))

/-- The transitions of the scanner, with the tokens each retires. -/
inductive Transition (fallback : Fallback) (ch : Char) (place : Position) :
    State → List PlacedToken → State → Prop where
  | start {next : State} (opens : Opens ch place next) :
      Transition fallback ch place .expression [] next
  | skip (blank : Alphabet.isBlank ch = true) :
      Transition fallback ch place .afterKeyword [] .afterKeyword
  | resume {next : State} (solid : Alphabet.isBlank ch = false) (opens : Opens ch place next) :
      Transition fallback ch place .afterKeyword [] next
  | retireOpening {opened : Position} {next : State} (solid : Alphabet.isBlank ch = false)
      (opens : Opens ch place next) :
      Transition fallback ch place (.opening opened) [(Literal.ofChar opened '(').placed .opening]
        next
  | retireClosing {closed : Position} {next : State} (opens : Opens ch place next) :
      Transition fallback ch place (.closing closed) [(Literal.ofChar closed ')').placed .closing]
        next
  | word {literal : Literal} {emitted : List PlacedToken} {next : State}
      (continues : Continues literal ch place emitted next) :
      Transition fallback ch place (.word literal) emitted next
  | growPhrase {literal : Literal} (quoted : Alphabet.isQuoted ch = true) :
      Transition fallback ch place (.phrase literal) [] (.phrase (literal.push ch))
  | endPhrase {literal : Literal} (own : ch = '"') :
      Transition fallback ch place (.phrase literal) [(literal.push ch).placed .phrase] .expression
  | growBlanks {literal : Literal} (blank : Alphabet.isBlank ch = true) :
      Transition fallback ch place (.implicitAnd literal) [] (.implicitAnd (literal.push ch))
  /-- AND or OR may begin, so the blanks wait. -/
  | hold {literal : Literal} {operator : Keyword} (connective : operator ≠ .not)
      (begins : operator.letters.head? = some ch) :
      Transition fallback ch place (.implicitAnd literal) []
        (.keyword operator (.ofChar place ch) (some literal))
  | retireBlanks {literal : Literal} {next : State} (solid : Alphabet.isBlank ch = false)
      (opens : Opens ch place next) :
      Transition fallback ch place (.implicitAnd literal) [literal.placed .and] next
  | growKeyword {operator : Keyword} {literal : Literal} {held : Option Literal}
      (expected : operator.expects literal.text.length = some ch) :
      Transition fallback ch place (.keyword operator literal held) []
        (.keyword operator (literal.push ch) held)
  | endKeyword {operator : Keyword} {literal : Literal} {held : Option Literal}
      (whole : operator.expects literal.text.length = none)
      (blank : Alphabet.isBlank ch = true) :
      Transition fallback ch place (.keyword operator literal held)
        [literal.placed operator.kind] .afterKeyword
  /-- The keyword was a word, and the character goes on with it. -/
  | feedThrough {operator : Keyword} {literal : Literal} {held : Option Literal}
      {emitted : List PlacedToken} {next : State} (mode : fallback = .feedThrough)
      (continues : Continues literal ch place emitted next)
      (unexpected : operator.expects literal.text.length ≠ some ch)
      (unended : operator.expects literal.text.length = none → Alphabet.isBlank ch = false) :
      Transition fallback ch place (.keyword operator literal held) (released held ++ emitted) next
  /-- The keyword was a word, and the character and the held blanks are lost. -/
  | drop {operator : Keyword} {literal : Literal} {held : Option Literal}
      (mode : fallback = .legacy)
      (unexpected : operator.expects literal.text.length ≠ some ch)
      (unended : operator.expects literal.text.length = none → Alphabet.isBlank ch = false) :
      Transition fallback ch place (.keyword operator literal held) [] (.word literal)

theorem opens_of_openExpression {ch : Char} {place : Position} {next : State}
    (opened : openExpression ch place = .ok next) : Opens ch place next := by
  simp only [openExpression, openTerm] at opened
  split at opened
  · rename_i own
    cases opened
    exact .opening own
  · split at opened
    · rename_i own
      cases opened
      exact .closing own
    · split at opened
      · rename_i blank
        cases opened
        exact .blanks blank
      · split at opened
        · rename_i own
          cases opened
          exact .negation own
        · split at opened
          · rename_i own
            cases opened
            exact .phrase own
          · split at opened
            · rename_i letter
              cases opened
              exact .word letter
            · cases opened

theorem continues_of_moveWord {literal : Literal} {ch : Char} {place : Position} {next : State}
    (moved : (moveWord literal ch place).outcome = .ok next) :
    Continues literal ch place (moveWord literal ch place).emitted next := by
  simp only [moveWord] at moved ⊢
  split at moved
  · rename_i letter
    cases moved
    rw [if_pos letter]
    exact .grow letter
  · rename_i other
    rw [if_neg other]
    split at moved
    · rename_i own
      cases moved
      rw [if_pos own]
      exact .close own
    · rename_i unclosed
      rw [if_neg unclosed]
      split at moved
      · rename_i blank
        cases moved
        rw [if_pos blank]
        exact .part blank
      · cases moved

/-- A step that goes well is one of the transitions. -/
theorem transition_of_move {fallback : Fallback} {state : State} {ch : Char} {place : Position}
    {next : State} (moved : (state.move fallback ch place).outcome = .ok next) :
    Transition fallback ch place state (state.move fallback ch place).emitted next := by
  cases state with
  | expression => exact .start (opens_of_openExpression moved)
  | afterKeyword =>
    by_cases blank : Alphabet.isBlank ch = true
    · rw [move, if_pos blank] at moved ⊢
      cases moved
      exact .skip blank
    · rw [move, if_neg blank] at moved ⊢
      exact .resume (by simpa using blank) (opens_of_openExpression moved)
  | opening opened =>
    by_cases blank : Alphabet.isBlank ch = true
    · rw [move, if_pos blank] at moved
      cases moved
    · rw [move, if_neg blank] at moved ⊢
      exact .retireOpening (by simpa using blank) (opens_of_openExpression moved)
  | closing closed => exact .retireClosing (opens_of_openExpression moved)
  | word literal => exact .word (continues_of_moveWord moved)
  | phrase literal =>
    by_cases quoted : Alphabet.isQuoted ch = true
    · rw [move, movePhrase, if_pos quoted] at moved ⊢
      cases moved
      exact .growPhrase quoted
    · rw [move, movePhrase, if_neg quoted] at moved ⊢
      by_cases own : ch = '"'
      · rw [if_pos own] at moved ⊢
        cases moved
        exact .endPhrase own
      · rw [if_neg own] at moved
        cases moved
  | implicitAnd literal =>
    by_cases blank : Alphabet.isBlank ch = true
    · rw [move, moveImplicitAnd, if_pos blank] at moved ⊢
      cases moved
      exact .growBlanks blank
    · rw [move, moveImplicitAnd, if_neg blank] at moved ⊢
      by_cases letter : ch = 'O'
      · rw [if_pos letter] at moved ⊢
        cases moved
        exact .hold (by decide) (by rw [letter]; rfl)
      · rw [if_neg letter] at moved ⊢
        by_cases letter : ch = 'A'
        · rw [if_pos letter] at moved ⊢
          cases moved
          exact .hold (by decide) (by rw [letter]; rfl)
        · rw [if_neg letter] at moved ⊢
          exact .retireBlanks (by simpa using blank) (opens_of_openExpression moved)
  | keyword operator literal held =>
    by_cases expected : operator.expects literal.text.length = some ch
    · simp only [move, moveKeyword, if_pos expected] at moved ⊢
      cases moved
      exact .growKeyword expected
    · simp only [move, moveKeyword, if_neg expected] at moved ⊢
      by_cases ended : operator.expects literal.text.length = none ∧ Alphabet.isBlank ch = true
      · rw [if_pos ended] at moved ⊢
        cases moved
        exact .endKeyword ended.1 ended.2
      · rw [if_neg ended] at moved ⊢
        have unended : operator.expects literal.text.length = none →
            Alphabet.isBlank ch = false := fun whole => by simpa [whole] using ended
        cases fallback with
        | feedThrough => exact .feedThrough rfl (continues_of_moveWord moved) expected unended
        | legacy =>
          cases moved
          exact .drop rfl expected unended

/-- The states a query may end in, with the tokens its end retires. -/
inductive Ends (fallback : Fallback) : State → List PlacedToken → Prop where
  | expression : Ends fallback .expression []
  | afterKeyword : Ends fallback .afterKeyword []
  | blanks (literal : Literal) : Ends fallback (.implicitAnd literal) []
  | opening (place : Position) :
      Ends fallback (.opening place) [(Literal.ofChar place '(').placed .opening]
  | closing (place : Position) :
      Ends fallback (.closing place) [(Literal.ofChar place ')').placed .closing]
  | word (literal : Literal) : Ends fallback (.word literal) [literal.placed .word]
  | operator {operator : Keyword} {literal : Literal} (held : Option Literal)
      (mode : fallback = .feedThrough) (whole : operator.expects literal.text.length = none) :
      Ends fallback (.keyword operator literal held) [literal.placed operator.kind]
  | broken {operator : Keyword} {literal : Literal} (held : Option Literal)
      (mode : fallback = .feedThrough) (unended : operator.expects literal.text.length ≠ none) :
      Ends fallback (.keyword operator literal held) (released held ++ [literal.placed .word])
  | lost (operator : Keyword) (literal : Literal) (held : Option Literal)
      (mode : fallback = .legacy) : Ends fallback (.keyword operator literal held) []

theorem ends_of_settle {fallback : Fallback} {state : State}
    (settled : (state.settle fallback).outcome = .ok ()) :
    Ends fallback state (state.settle fallback).emitted := by
  cases state with
  | expression => exact .expression
  | afterKeyword => exact .afterKeyword
  | opening place => exact .opening place
  | closing place => exact .closing place
  | word literal => exact .word literal
  | phrase literal => cases settled
  | implicitAnd literal => exact .blanks literal
  | keyword operator literal held =>
    cases fallback with
    | legacy => exact .lost operator literal held rfl
    | feedThrough =>
      simp only [settle]
      split
      · rename_i whole
        exact .operator held rfl whole
      · rename_i unended
        exact .broken held rfl unended

/-- A run of characters and the end of the query, transition by transition, with all the
tokens retired. -/
inductive Completes (fallback : Fallback) :
    State → Position → List Char → List PlacedToken → Prop where
  | done {state : State} {tokens : List PlacedToken} (place : Position)
      (ends : Ends fallback state tokens) : Completes fallback state place [] tokens
  | step {state next : State} {place : Position} {ch : Char} {rest : List Char}
      {emitted tokens : List PlacedToken}
      (transition : Transition fallback ch place state emitted next)
      (further : Completes fallback next (place.next ch) rest tokens) :
      Completes fallback state place (ch :: rest) (emitted ++ tokens)

theorem completes_of_answer {fallback : Fallback} {state : State} {place : Position}
    {chars : List Char} {tokens : List PlacedToken}
    (answered : (state.complete fallback place chars).answer = .ok tokens) :
    Completes fallback state place chars tokens := by
  induction chars generalizing state place tokens with
  | nil =>
    obtain ⟨_, settled, rfl⟩ := Failure.map_eq_ok answered
    exact .done place (ends_of_settle settled)
  | cons ch rest ih =>
    rw [complete_cons] at answered
    obtain ⟨next, more, moved, finished, rfl⟩ := Step.answer_andThen_eq_ok answered
    exact .step (transition_of_move moved) (ih finished)

/-- Every literal and parenthesis a state holds lies within the first so many characters. -/
def Within (count : Nat) : State → Prop
  | .expression | .afterKeyword => True
  | .opening place => (Literal.ofChar place '(').Within count
  | .closing place => (Literal.ofChar place ')').Within count
  | .word literal | .phrase literal | .implicitAnd literal => literal.Within count
  | .keyword _ literal held => literal.Within count ∧ ∀ blanks ∈ held, blanks.Within count

/-- A state whose literals lie so early in a query that the counters have room for some more
characters. -/
def Room (state : State) (count : Nat) : Prop :=
  ∃ read, state.Within read ∧ read + count + 2 ≤ UInt32.size

private theorem parenthesis_tracks (kind : Kind) (ch : Char) (place : Position) :
    Checked.Tracks (Literal.ofChar place ch).Fits (parenthesis kind ch place)
      ((Literal.ofChar place ch).placed kind) := by
  have single := (Span.single_tracks place ch).mono
    fun fits : (Literal.ofChar place ch).Fits => by simpa [Literal.Fits, Literal.ofChar] using fits
  have spelled : (Literal.ofChar place ch).placed kind =
      ⟨⟨kind, String.singleton ch⟩, ⟨place, place.next ch⟩⟩ := by
    simp [Literal.ofChar, Literal.placed]
  rw [spelled]
  exact single.bind (.ok _ _)

private theorem stepWord_tracks (literal : Literal) (ch : Char) (place : Position) :
    Checked.Tracks literal.Fits (stepWord literal ch place) (moveWord literal ch place) := by
  have token := literal.token_tracks .word
  simp only [stepWord, moveWord]
  split
  · exact .ok _ _
  · split
    · exact token.bind (.ok _ _)
    · split
      · exact token.bind (.ok _ _)
      · exact .ok _ _

private theorem stepPhrase_tracks (literal : Literal) (ch : Char) (place : Position) :
    Checked.Tracks (literal.push ch).Fits (stepPhrase literal ch place)
      (movePhrase literal ch place) := by
  simp only [stepPhrase, movePhrase]
  split
  · exact .ok _ _
  · split
    · exact ((literal.push ch).token_tracks .phrase).bind (.ok _ _)
    · exact .ok _ _

private theorem stepImplicitAnd_tracks (literal : Literal) (ch : Char) (place : Position) :
    Checked.Tracks literal.Fits (stepImplicitAnd literal ch place)
      (moveImplicitAnd literal ch place) := by
  simp only [stepImplicitAnd, moveImplicitAnd]
  split
  · exact .ok _ _
  · split
    · exact .ok _ _
    · split
      · exact .ok _ _
      · exact (literal.token_tracks .and).bind (.ok _ _)

private theorem releaseHeld_tracks (held : Option Literal) :
    Checked.Tracks (∀ blanks ∈ held, blanks.Fits) (releaseHeld held) (released held) := by
  cases held with
  | none => exact .ok _ _
  | some blanks =>
    have token := (blanks.token_tracks .and).mono
      fun fits : ∀ own ∈ some blanks, own.Fits => fits blanks rfl
    exact token.bind (.ok _ _)

private theorem stepKeyword_tracks (fallback : Fallback) (operator : Keyword) (literal : Literal)
    (held : Option Literal) (ch : Char) (place : Position) :
    Checked.Tracks (literal.Fits ∧ ∀ blanks ∈ held, blanks.Fits)
      (stepKeyword fallback operator literal held ch place)
      (moveKeyword fallback operator literal held ch place) := by
  simp only [stepKeyword, moveKeyword]
  split
  · exact .ok _ _
  · split
    · exact ((literal.token_tracks operator.kind).mono And.left).bind (.ok _ _)
    · cases fallback with
      | legacy => exact .ok _ _
      | feedThrough =>
        refine .bind ((releaseHeld_tracks held).mono And.right) ?_
        exact .bind ((stepWord_tracks literal ch place).mono And.left) (.ok _ _)

/-- A state has room for what it holds. -/
private theorem fits_of_room {literal : Literal} (count : Nat)
    (room : ∃ read, literal.Within read ∧ read + count + 2 ≤ UInt32.size) : literal.Fits := by
  obtain ⟨read, within, bound⟩ := room
  exact within.fits (by omega)

private theorem push_fits_of_room {literal : Literal}
    (room : ∃ read, literal.Within read ∧ read + 1 + 2 ≤ UInt32.size) (ch : Char) :
    (literal.push ch).Fits := by
  obtain ⟨read, within, bound⟩ := room
  exact (within.push ch).fits bound

private theorem keyword_fits_of_room {operator : Keyword} {literal : Literal}
    {held : Option Literal} {count : Nat}
    (room : (State.keyword operator literal held).Room count) :
    literal.Fits ∧ ∀ blanks ∈ held, blanks.Fits := by
  obtain ⟨read, ⟨within, others⟩, bound⟩ := room
  refine ⟨within.fits (by omega), ?_⟩
  intro blanks member
  exact (others blanks member).fits (by omega)

/-- A step is that of the machine without faults, unless there is no room for its
character. -/
theorem step_tracks (fallback : Fallback) (state : State) (ch : Char) (place : Position) :
    Checked.Tracks (state.Room 1) (state.step fallback ch place)
      (state.move fallback ch place) := by
  cases state with
  | expression => exact .ok _ _
  | afterKeyword =>
    simp only [step, move]
    split <;> exact .ok _ _
  | opening opened =>
    have token := parenthesis_tracks .opening '(' opened
    simp only [step, move]
    split
    · exact .bind (token.mono (fits_of_room 1)) (.ok _ _)
    · exact .bind (token.mono (fits_of_room 1)) (.ok _ _)
  | closing closed =>
    exact .bind ((parenthesis_tracks .closing ')' closed).mono (fits_of_room 1)) (.ok _ _)
  | word literal => exact (stepWord_tracks literal ch place).mono (fits_of_room 1)
  | phrase literal =>
    exact (stepPhrase_tracks literal ch place).mono fun room => push_fits_of_room room ch
  | implicitAnd literal => exact (stepImplicitAnd_tracks literal ch place).mono (fits_of_room 1)
  | keyword operator literal held =>
    exact (stepKeyword_tracks fallback operator literal held ch place).mono keyword_fits_of_room

/-- The end of a query is that of the machine without faults, unless there is no room for
it. -/
theorem finish_tracks (fallback : Fallback) (state : State) :
    Checked.Tracks (state.Room 0) (state.finish fallback) (state.settle fallback) := by
  cases state with
  | expression | afterKeyword | implicitAnd literal | phrase literal => exact .ok _ _
  | opening place =>
    exact .bind ((parenthesis_tracks .opening '(' place).mono (fits_of_room 0)) (.ok _ _)
  | closing place =>
    exact .bind ((parenthesis_tracks .closing ')' place).mono (fits_of_room 0)) (.ok _ _)
  | word literal => exact .bind ((literal.token_tracks .word).mono (fits_of_room 0)) (.ok _ _)
  | keyword operator literal held =>
    have token (kind : Kind) := (literal.token_tracks kind).mono
      fun room : (State.keyword operator literal held).Room 0 => (keyword_fits_of_room room).1
    cases fallback with
    | legacy => exact .ok _ _
    | feedThrough =>
      simp only [finish, settle]
      split
      · exact .bind (token operator.kind) (.ok _ _)
      · have released := (releaseHeld_tracks held).mono
          fun room : (State.keyword operator literal held).Room 0 => (keyword_fits_of_room room).2
        exact .bind released (.bind (token .word) (.ok _ _))

private theorem Opens.within {before : List Char} {ch : Char} {next : State}
    (opens : Opens ch (.after before) next) : next.Within (before.length + 1) := by
  have fresh := Literal.within_ofChar before
  cases opens with
  | opening => exact fresh '('
  | closing => exact fresh ')'
  | blanks | phrase | word => exact fresh ch
  | negation => exact ⟨fresh ch, by simp⟩

private theorem Continues.within {before : List Char} {literal : Literal} {ch : Char}
    {emitted : List PlacedToken} {next : State} (within : literal.Within before.length)
    (continues : Continues literal ch (.after before) emitted next) :
    next.Within (before.length + 1) := by
  cases continues with
  | grow => exact within.push ch
  | close => exact Literal.within_ofChar before ')'
  | part => exact Literal.within_ofChar before ch

/-- A step keeps what a state holds within the characters read. -/
theorem move_within {fallback : Fallback} {before : List Char} {state : State} {ch : Char}
    {next : State} (within : state.Within before.length)
    (moved : (state.move fallback ch (.after before)).outcome = .ok next) :
    next.Within (before.length + 1) := by
  have grown := Nat.le_succ before.length
  obtain ⟨emitted, transition⟩ : ∃ emitted,
      Transition fallback ch (.after before) state emitted next := ⟨_, transition_of_move moved⟩
  cases transition with
  | start opens | resume _ opens | retireOpening _ opens | retireClosing opens
  | retireBlanks _ opens => exact opens.within
  | skip | endPhrase | endKeyword => trivial
  | word continues => exact continues.within within
  | growPhrase | growBlanks => exact Literal.Within.push within ch
  | hold =>
    refine ⟨Literal.within_ofChar before ch, ?_⟩
    intro blanks member
    cases member
    exact Literal.Within.mono within grown
  | growKeyword =>
    exact ⟨within.1.push ch, fun blanks member => (within.2 blanks member).mono grown⟩
  | feedThrough _ continues => exact continues.within within.1
  | drop => exact within.1.mono grown

/-- A run keeps what a state holds within the characters read. -/
theorem readAll_within {fallback : Fallback} {before chars : List Char} {state last : State}
    (within : state.Within before.length)
    (reached : (state.readAll fallback (.after before) chars).outcome = .ok last) :
    last.Within (before.length + chars.length) := by
  induction chars generalizing before state with
  | nil =>
    cases reached
    exact within
  | cons ch rest ih =>
    obtain ⟨next, moved, followed⟩ := Step.andThen_outcome_ok.mp reached
    have kept : next.Within (before ++ [ch]).length := by
      simpa using move_within within moved
    rw [← Position.after_concat] at followed
    have final := ih kept followed
    simpa [Nat.add_assoc, Nat.add_comm 1] using final

end State

namespace Scanner

/-- A scanner between two characters of a query, with room for some more. -/
def Room (scanner : Scanner) (count : Nat) : Prop :=
  ∃ before, scanner.place = .after before ∧ scanner.state.Within before.length ∧
    before.length + count + 2 ≤ UInt32.size

theorem Room.mono {scanner : Scanner} {less more : Nat} (room : scanner.Room more)
    (bound : less ≤ more) : scanner.Room less := by
  obtain ⟨before, place, within, enough⟩ := room
  exact ⟨before, place, within, by omega⟩

theorem Room.state {scanner : Scanner} {count : Nat} (room : scanner.Room count) :
    scanner.state.Room count := by
  obtain ⟨before, _, within, bound⟩ := room
  exact ⟨before.length, within, bound⟩

theorem Room.place {scanner : Scanner} {count : Nat} (room : scanner.Room count) :
    scanner.place.Room count := by
  obtain ⟨before, place, _, bound⟩ := room
  rw [place]
  exact Position.room_after bound

theorem feed_tracks (fallback : Fallback) (scanner : Scanner) (ch : Char) :
    Checked.Tracks (scanner.Room 1) (scanner.feed fallback false ch)
      ((scanner.state.move fallback ch scanner.place).outcome.map fun next =>
        ⟨next, scanner.place.next ch,
          scanner.tokens ++ (scanner.state.move fallback ch scanner.place).emitted⟩) := by
  have stepped := scanner.state.step_tracks fallback ch scanner.place
  refine .bind (stepped.mono Room.state) ?_
  cases (scanner.state.move fallback ch scanner.place).outcome with
  | error failure => exact .ok _ _
  | ok next =>
    have advanced := scanner.place.advance_tracks ch
    simp only [checkTokenCount_unlimited]
    exact .bind (advanced.mono Room.place) (.ok _ _)

/-- A step that goes well leaves room for one character less. -/
theorem Room.move {fallback : Fallback} {scanner : Scanner} {ch : Char} {next : State}
    {count : Nat} {tokens : Array PlacedToken} (room : scanner.Room (count + 1))
    (moved : (scanner.state.move fallback ch scanner.place).outcome = .ok next) :
    Room ⟨next, scanner.place.next ch, tokens⟩ count := by
  obtain ⟨before, place, within, bound⟩ := room
  rw [place] at moved
  refine ⟨before ++ [ch], ?_, ?_, ?_⟩
  · rw [Position.after_concat, place]
  · simpa using State.move_within within moved
  · simp only [List.length_append, List.length_singleton]
    omega

/-- A run without limits is that of the machine without faults, unless there is no room for
its characters. -/
theorem feedAll_tracks (fallback : Fallback) (scanner : Scanner) (chars : List Char) :
    Checked.Tracks (scanner.Room chars.length) (scanner.feedAll fallback false chars)
      ((scanner.state.readAll fallback scanner.place chars).outcome.map fun last =>
        ⟨last, scanner.place.past chars,
          scanner.tokens ++ (scanner.state.readAll fallback scanner.place chars).emitted⟩) := by
  induction chars generalizing scanner with
  | nil =>
    refine .inl ?_
    simp [feedAll, State.readAll, Step.next, Except.map]
  | cons ch rest ih =>
    have fed := scanner.feed_tracks fallback ch
    rw [State.readAll_cons, Step.andThen]
    refine .bind (fed.mono fun room => room.mono (by simp)) ?_
    cases moved : (scanner.state.move fallback ch scanner.place).outcome with
    | error failure => exact .ok _ _
    | ok next =>
      have later := (ih ⟨next, scanner.place.next ch,
        scanner.tokens ++ (scanner.state.move fallback ch scanner.place).emitted⟩).mono
          fun room : scanner.Room (ch :: rest).length => room.move moved
      have joined (own more : List PlacedToken) :
          scanner.tokens ++ own ++ more = scanner.tokens ++ (own ++ more) := by
        apply Array.ext'
        simp
      simp only [joined] at later
      exact later

theorem close_tracks (fallback : Fallback) (scanner : Scanner) :
    Checked.Tracks (scanner.state.Room 0) (scanner.close fallback false)
      ((scanner.state.settle fallback).answer.map (scanner.tokens.toList ++ ·)) := by
  refine .bind (scanner.state.finish_tracks fallback) ?_
  rw [Step.answer]
  cases (scanner.state.settle fallback).outcome with
  | error failure => exact .ok _ _
  | ok done =>
    refine .inl ?_
    simp [checkTokenCount_unlimited, Except.map, pure, Except.pure]

/-- Scanning without limits gives the answer of the machine without faults, unless the query
lies outside the counters. -/
theorem scan_tracks (fallback : Fallback) (query : String) :
    Checked.Tracks (query.length + 2 ≤ UInt32.size) (scan fallback false query)
      (State.complete fallback .expression .start query.toList).answer := by
  rw [← String.length_toList]
  have fed := feedAll_tracks fallback ⟨.expression, .start, #[]⟩ query.toList
  simp only [scan, checkLength, Bool.false_and, Bool.false_eq_true, ↓reduceIte]
  rw [State.complete, Step.andThen]
  refine .bind (fed.mono fun bound => ⟨[], rfl, trivial, by simpa using bound⟩) ?_
  cases reached : (State.readAll fallback .expression .start query.toList).outcome with
  | error failure => exact .ok _ _
  | ok last =>
    have fresh : State.expression.Within ([] : List Char).length := trivial
    have within : last.Within query.toList.length := by
      simpa using State.readAll_within fresh reached
    have closed := close_tracks fallback ⟨last, Position.start.past query.toList,
      (#[] : Array PlacedToken) ++
        (State.readAll fallback .expression .start query.toList).emitted⟩
    have answer := closed.mono fun bound => ⟨query.toList.length, within, bound⟩
    simpa [Except.map] using answer

/-- The scanner a run without limits leads to. -/
theorem feedAll_of_within {fallback : Fallback} {before : List Char} {state : State}
    (tokens : Array PlacedToken) (chars : List Char) (within : state.Within before.length)
    (bound : before.length + chars.length + 2 ≤ UInt32.size) :
    feedAll fallback false ⟨state, .after before, tokens⟩ chars =
      .ok ((state.readAll fallback (.after before) chars).outcome.map fun last =>
        ⟨last, .after (before ++ chars),
          tokens ++ (state.readAll fallback (.after before) chars).emitted⟩) := by
  have fed := feedAll_tracks fallback ⟨state, .after before, tokens⟩ chars
  rw [Position.after_append]
  exact fed.eq_ok ⟨before, rfl, within, bound⟩

/-- On a query inside the counters, scanning without limits has no fault and gives the
answer of the machine without faults. -/
theorem scan_unlimited (fallback : Fallback) {query : String}
    (bound : query.length + 2 ≤ UInt32.size) :
    scan fallback false query =
      .ok (State.complete fallback .expression .start query.toList).answer :=
  (scan_tracks fallback query).eq_ok bound

section Runs

variable {fallback : Fallback} {enforced : Bool} {scanner next : Scanner} {ch : Char}

/-- A step of the scanner that goes well is one of its state, and its place moves on. -/
theorem step_of_feed (fed : scanner.feed fallback enforced ch = .ok (.ok next)) :
    ∃ step, scanner.state.step fallback ch scanner.place = .ok step ∧
      step.outcome = .ok next.state ∧ scanner.place.advance ch = .ok next.place ∧
      next.tokens = scanner.tokens ++ step.emitted := by
  simp only [feed, bind, Except.bind, pure, Except.pure] at fed
  split at fed
  · cases fed
  · rename_i step stepped
    refine ⟨step, stepped, ?_⟩
    split at fed
    · cases fed
    · rename_i state consumed
      split at fed
      · cases fed
      · rename_i place moved
        split at fed
        · cases fed
        · cases fed
          exact ⟨consumed, moved, rfl⟩

/-- A run that goes well begins with a step that does. -/
theorem feed_of_feedAll {rest : List Char} {last : Scanner}
    (fed : scanner.feedAll fallback enforced (ch :: rest) = .ok (.ok last)) :
    ∃ next, scanner.feed fallback enforced ch = .ok (.ok next) ∧
      next.feedAll fallback enforced rest = .ok (.ok last) := by
  simp only [feedAll, bind, Except.bind] at fed
  split at fed
  · cases fed
  · rename_i result first
    cases result with
    | error failure => cases fed
    | ok next => exact ⟨next, first, fed⟩

/-- A scan that finds tokens is a run over the query and its end. -/
theorem feedAll_of_scan {query : String} {tokens : List PlacedToken}
    (scanned : scan fallback enforced query = .ok (.ok tokens)) :
    ∃ last, initial.feedAll fallback enforced query.toList = .ok (.ok last) ∧
      last.close fallback enforced = .ok (.ok tokens) := by
  simp only [scan, bind, Except.bind, pure, Except.pure] at scanned
  split at scanned
  · cases scanned
  · split at scanned
    · cases scanned
    · rename_i result fed
      cases result with
      | error failure => cases scanned
      | ok last => exact ⟨last, fed, scanned⟩

end Runs

end Scanner

end SearchLex
