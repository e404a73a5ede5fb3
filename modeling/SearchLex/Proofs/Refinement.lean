import SearchLex.Proofs.Answer
import SearchLex.Proofs.Reference

/-! The scanner that feeds broken keywords through is the lexer of two passes. It reads one
character at a time, so the comparison is made where a lexeme ends: there the state says
what the two passes know, apart from the tokens the scanner has yet to retire. -/

namespace SearchLex

namespace Literal

/-- The literal of a run of characters. -/
def ofRun (start : Position) (run : List Char) : Literal := ⟨start, String.ofList run⟩

theorem ofChar_eq (start : Position) (ch : Char) : ofChar start ch = ofRun start [ch] := by
  rw [ofChar, String.singleton_eq_ofList, ofRun]

theorem push_ofRun (start : Position) (run : List Char) (ch : Char) :
    (ofRun start run).push ch = ofRun start (run ++ [ch]) := by
  simp [push, ofRun]

theorem length_ofRun (start : Position) (run : List Char) :
    (ofRun start run).text.length = run.length := by
  simp [ofRun]

theorem placed_ofRun (before run : List Char) (kind : Kind) :
    (ofRun (.after before) run).placed kind = (Cut.mk kind before run).placed := by
  simp [ofRun, placed, Cut.placed, Cut.token, Span.ofPiece, Position.after_append]

end Literal

namespace Keyword

/-- The letter expected after matched letters is the one that goes on with them. -/
theorem expects_eq_some {keyword : Keyword} {matched : List Char} {ch : Char}
    (begun : matched <+: keyword.letters) (expected : keyword.expects matched.length = some ch) :
    matched ++ [ch] <+: keyword.letters := by
  obtain ⟨more, whole⟩ := begun
  rw [expects, ← whole, List.getElem?_append_right (Nat.le_refl _), Nat.sub_self] at expected
  cases more with
  | nil => cases expected
  | cons letter rest =>
    cases expected
    exact ⟨rest, by rw [← whole, List.append_assoc, List.singleton_append]⟩

/-- The letter that goes on with matched letters is the one expected after them. -/
theorem expects_of_prefix {keyword : Keyword} {matched : List Char} {ch : Char}
    (begun : matched ++ [ch] <+: keyword.letters) : keyword.expects matched.length = some ch := by
  obtain ⟨more, whole⟩ := begun
  rw [expects, ← whole]
  simp

/-- No letter is expected after all of them. -/
theorem expects_eq_none {keyword : Keyword} {matched : List Char}
    (begun : matched <+: keyword.letters) :
    keyword.expects matched.length = none ↔ matched = keyword.letters := by
  obtain ⟨more, whole⟩ := begun
  rw [expects, ← whole, List.getElem?_append_right (Nat.le_refl _), Nat.sub_self]
  cases more <;> simp

theorem expects_ofRun_letters (keyword : Keyword) (start : Position) :
    keyword.expects (Literal.ofRun start keyword.letters).text.length = none := by
  rw [Literal.length_ofRun]
  exact (expects_eq_none (List.prefix_refl _)).mpr rfl

/-- Keywords are spelled with letters. -/
theorem isWord_of_expects {keyword : Keyword} {count : Nat} {ch : Char}
    (expected : keyword.expects count = some ch) : Alphabet.isWord ch = true := by
  have member := List.mem_of_getElem? expected
  cases keyword <;> simp [letters] at member <;> rcases member with rfl | rfl | rfl <;> decide

end Keyword

namespace State

/-- A state that keeps growing reads a whole run. -/
theorem complete_run {fallback : Fallback} {keep : Char → Bool} (grow : List Char → State)
    (grows : ∀ own ch place, keep ch = true →
      (grow own).move fallback ch place = .next (grow (own ++ [ch])))
    (own tail : List Char) (place : Position) {run : List Char} (kept : ∀ ch ∈ run, keep ch) :
    (grow own).complete fallback place (run ++ tail) =
      (grow (own ++ run)).complete fallback (place.past run) tail := by
  induction run generalizing own place with
  | nil => simp
  | cons ch rest ih =>
    rw [List.cons_append, complete_cons, grows own ch place (kept ch (by simp)),
      Step.next_andThen, Step.after_nil,
      ih (own ++ [ch]) (place.next ch) fun other member => kept other (by simp [member])]
    simp

theorem complete_word_run (fallback : Fallback) (start : Position) (own tail : List Char)
    (place : Position) {run : List Char} (letters : ∀ ch ∈ run, Alphabet.isWord ch) :
    (State.word (.ofRun start own)).complete fallback place (run ++ tail) =
      (State.word (.ofRun start (own ++ run))).complete fallback (place.past run) tail := by
  apply complete_run (fun own => .word (.ofRun start own)) _ own tail place letters
  intro own ch place word
  simp [move, moveWord, word, Literal.push_ofRun]

theorem complete_phrase_run (fallback : Fallback) (start : Position) (own tail : List Char)
    (place : Position) {run : List Char} (quoted : ∀ ch ∈ run, Alphabet.isQuoted ch) :
    (State.phrase (.ofRun start own)).complete fallback place (run ++ tail) =
      (State.phrase (.ofRun start (own ++ run))).complete fallback (place.past run) tail := by
  apply complete_run (fun own => .phrase (.ofRun start own)) _ own tail place quoted
  intro own ch place inside
  simp [move, movePhrase, inside, Literal.push_ofRun]

theorem complete_blank_run (fallback : Fallback) (start : Position) (own tail : List Char)
    (place : Position) {run : List Char} (blanks : ∀ ch ∈ run, Alphabet.isBlank ch) :
    (State.implicitAnd (.ofRun start own)).complete fallback place (run ++ tail) =
      (State.implicitAnd (.ofRun start (own ++ run))).complete fallback (place.past run) tail := by
  apply complete_run (fun own => .implicitAnd (.ofRun start own)) _ own tail place blanks
  intro own ch place blank
  simp [move, moveImplicitAnd, blank, Literal.push_ofRun]

theorem complete_spaced_run (fallback : Fallback) (tail : List Char) (place : Position)
    {run : List Char} (blanks : ∀ ch ∈ run, Alphabet.isBlank ch) :
    State.afterKeyword.complete fallback place (run ++ tail) =
      State.afterKeyword.complete fallback (place.past run) tail := by
  apply complete_run (fun _ => .afterKeyword) _ [] tail place blanks
  intro own ch place blank
  simp [move, blank]

/-- Whether letters before this text stand alone: nothing follows, or a blank does. -/
def endsLetters : List Char → Bool
  | [] => true
  | ch :: _ => Alphabet.isBlank ch

/-- A keyword that breaks off is a word, after the AND it held back. -/
theorem complete_keyword_broken {operator : Keyword} {own tail : List Char}
    (start place : Position) (held : Option Literal) (begun : own <+: operator.letters)
    (stops : ∀ ch ∈ tail.head?, Alphabet.isWord ch = false)
    (broken : ¬ (own = operator.letters ∧ endsLetters tail)) :
    (State.keyword operator (.ofRun start own) held).complete .feedThrough place tail =
      ((State.word (.ofRun start own)).complete .feedThrough place tail).after
        (released held) := by
  have length := Literal.length_ofRun start own
  cases tail with
  | nil =>
    have unfinished : operator.expects own.length ≠ none := by
      intro whole
      exact broken ⟨(Keyword.expects_eq_none begun).mp whole, rfl⟩
    rw [complete_nil, complete_nil]
    simp [settle, length, unfinished, Step.after, Step.next]
  | cons ch rest =>
    have other : operator.expects own.length ≠ some ch := by
      intro expected
      have word := Keyword.isWord_of_expects expected
      rw [stops ch rfl] at word
      cases word
    have notEnded : ¬ (operator.expects own.length = none ∧ Alphabet.isBlank ch = true) := by
      rintro ⟨whole, blank⟩
      exact broken ⟨(Keyword.expects_eq_none begun).mp whole, blank⟩
    rw [complete_cons, complete_cons, ← Step.after_andThen]
    simp only [move, moveKeyword, length, if_neg other, if_neg notEnded]

/-- A keyword reads on as long as its letters come. -/
theorem complete_keyword_whole {operator : Keyword} {own run : List Char}
    (start place : Position) (held : Option Literal) (tail : List Char)
    (whole : own ++ run = operator.letters) :
    (State.keyword operator (.ofRun start own) held).complete .feedThrough place (run ++ tail) =
      (State.keyword operator (.ofRun start operator.letters) held).complete .feedThrough
        (place.past run) tail := by
  induction run generalizing own place with
  | nil => simp [← whole]
  | cons ch rest ih =>
    have expected : operator.expects (Literal.ofRun start own).text.length = some ch := by
      simp [Literal.ofRun, Keyword.expects, ← whole]
    rw [List.cons_append, complete_cons]
    simp only [move, moveKeyword, if_pos expected, Literal.push_ofRun, Step.next_andThen,
      Step.after_nil]
    exact ih (place.next ch) (by simpa using whole)

/-- Letters after the beginning of a keyword that do not make it an operator. -/
theorem complete_keyword_run {operator : Keyword} {own run tail : List Char}
    (start place : Position) (held : Option Literal) (begun : own <+: operator.letters)
    (letters : ∀ ch ∈ run, Alphabet.isWord ch)
    (stops : ∀ ch ∈ tail.head?, Alphabet.isWord ch = false)
    (broken : ¬ (own ++ run = operator.letters ∧ endsLetters tail)) :
    (State.keyword operator (.ofRun start own) held).complete .feedThrough place (run ++ tail) =
      ((State.word (.ofRun start (own ++ run))).complete .feedThrough (place.past run) tail).after
        (released held) := by
  induction run generalizing own place with
  | nil =>
    rw [List.append_nil] at broken ⊢
    exact complete_keyword_broken start place held begun stops broken
  | cons ch rest ih =>
    have word : Alphabet.isWord ch = true := letters ch (by simp)
    have others : ∀ other ∈ rest, Alphabet.isWord other := fun other member =>
      letters other (by simp [member])
    have length := Literal.length_ofRun start own
    rw [List.cons_append, complete_cons]
    by_cases expected : operator.expects own.length = some ch
    · simp only [move, moveKeyword, length, if_pos expected, Literal.push_ofRun,
        Step.next_andThen, Step.after_nil]
      have longer := Keyword.expects_eq_some begun expected
      rw [ih (place.next ch) longer others (by simpa using broken)]
      simp
    · have notBlank : ¬ (operator.expects own.length = none ∧ Alphabet.isBlank ch = true) := by
        simp [Alphabet.isBlank_of_isWord word]
      simp only [move, moveKeyword, length, if_neg expected, if_neg notBlank, moveWord, if_pos word,
        Literal.push_ofRun, Step.after_andThen, Step.next_andThen, Step.after_nil]
      rw [complete_word_run _ _ _ _ _ others]
      simp

end State

/-- Where the scanner stands when a lexeme has ended: its state, the tokens it has yet to
retire, the lexeme and the context of the second pass. -/
inductive Stands : State → List PlacedToken → Option Lexeme → Context → Prop where
  | start : Stands .expression [] none .plain
  | quoted (inner : List Char) : Stands .expression [] (some (.quoted inner)) .plain
  | opening (place : Position) :
      Stands (.opening place) [(Literal.ofChar place '(').placed .opening] (some .opening) .plain
  | closing (place : Position) :
      Stands (.closing place) [(Literal.ofChar place ')').placed .closing] (some .closing) .plain
  | word (literal : Literal) (text : List Char) :
      Stands (.word literal) [literal.placed .word] (some (.letters text)) .plain
  | operator (keyword : Keyword) (start : Position) (held : Option Literal) (text : List Char) :
      Stands (.keyword keyword (.ofRun start keyword.letters) held)
        [(Literal.ofRun start keyword.letters).placed keyword.kind] (some (.letters text)) .operator
  | pending (before text : List Char) :
      Stands (.implicitAnd (.ofRun (.after before) text)) [] (some (.blanks text))
        (.pending before text)
  | spaced (text : List Char) : Stands .afterKeyword [] (some (.blanks text)) .plain

namespace Stands

variable {state : State} {owed : List PlacedToken} {previous : Option Lexeme} {context : Context}

/-- Whether the lexeme before is letters. -/
def afterLetters : Option Lexeme → Bool
  | some (.letters _) => true
  | _ => false

/-- What opens an expression or a term retires all that was kept back. -/
theorem move_eq (stands : Stands state owed previous context)
    (apart : afterLetters previous = false) {ch : Char} (solid : Alphabet.isBlank ch = false)
    (held : context.isPending = true → ch ≠ 'O' ∧ ch ≠ 'A') (place : Position) :
    state.move .feedThrough ch place =
      ⟨owed ++ context.release.map Cut.placed, State.openExpression ch place⟩ := by
  cases stands with
  | start | quoted inner | closing closed => rfl
  | opening opened => simp [State.move, solid, Context.release]
  | word literal text => cases apart
  | operator keyword start blanks text => cases apart
  | pending before text =>
    obtain ⟨notOr, notAnd⟩ := held rfl
    simp [State.move, State.moveImplicitAnd, solid, notOr, notAnd, Context.release,
      Literal.placed_ofRun]
  | spaced text => simp [State.move, solid, Context.release]

/-- The end of the query retires what was kept back, apart from pending blanks. -/
theorem settle_eq (stands : Stands state owed previous context) :
    state.settle .feedThrough = .next () owed := by
  cases stands with
  | operator keyword start held text =>
    have whole := keyword.expects_ofRun_letters start
    simp [State.settle, whole]
  | start | quoted | opening | closing | word | pending | spaced => rfl

end Stands

/-- A keyword that was opened by the first of some letters ends as an operator or as a
word. -/
theorem State.complete_opened_keyword {operator : Keyword} {ch : Char} {run tail : List Char}
    (place : Position) (held : Option Literal) (begins : operator.letters.head? = some ch)
    (letters : ∀ other ∈ run, Alphabet.isWord other)
    (stops : ∀ other ∈ tail.head?, Alphabet.isWord other = false) :
    (State.keyword operator (.ofChar place ch) held).complete .feedThrough (place.next ch)
        (run ++ tail) =
      if ch :: run = operator.letters ∧ endsLetters tail then
        (State.keyword operator (.ofRun place operator.letters) held).complete .feedThrough
          (place.past (ch :: run)) tail
      else
        ((State.word (.ofRun place (ch :: run))).complete .feedThrough
          (place.past (ch :: run)) tail).after (released held) := by
  rw [Literal.ofChar_eq]
  split
  · rename_i whole
    exact complete_keyword_whole place (place.next ch) held tail whole.1
  · rename_i broken
    have begun : [ch] <+: operator.letters := by
      obtain ⟨more, whole⟩ := List.head?_eq_some_iff.mp begins
      exact ⟨more, whole.symm⟩
    exact complete_keyword_run place (place.next ch) held begun letters stops broken

namespace Stands

variable {state : State} {owed : List PlacedToken} {previous : Option Lexeme} {context : Context}

/-- What a character that opens an expression or a term leads to. -/
theorem complete_opened (stands : Stands state owed previous context)
    (apart : afterLetters previous = false) {ch : Char} (solid : Alphabet.isBlank ch = false)
    (held : context.isPending = true → ch ≠ 'O' ∧ ch ≠ 'A') {place : Position} {next : State}
    (opened : State.openExpression ch place = .ok next) (rest : List Char) :
    state.complete .feedThrough place (ch :: rest) =
      (next.complete .feedThrough (place.next ch) rest).after
        (owed ++ context.release.map Cut.placed) := by
  rw [State.complete_cons, stands.move_eq apart solid held, opened]
  rfl

/-- The scanner reads a lexeme: it ends standing where the second pass does, and the tokens
it retired and the ones it still keeps are those the second pass has added. -/
def Reads (state : State) (owed : List PlacedToken) (context : Context) (before : List Char)
    (lexeme : Lexeme) (tail : List Char) : Prop :=
  ∃ next kept emitted,
    Stands next kept (some lexeme)
      (context.judge before lexeme (State.endsLetters tail)).2 ∧
    emitted ++ kept =
      owed ++ (context.judge before lexeme (State.endsLetters tail)).1.map Cut.placed ∧
    state.complete .feedThrough (.after before) (lexeme.text ++ tail) =
      (next.complete .feedThrough (.after (before ++ lexeme.text)) tail).after emitted

theorem reads_opening (stands : Stands state owed previous context)
    (apart : afterLetters previous = false) (before tail : List Char) :
    Reads state owed context before .opening tail := by
  refine ⟨_, _, owed ++ context.release.map Cut.placed, .opening (.after before), ?_, ?_⟩
  · simp [Context.judge, Literal.ofChar_eq, Literal.placed_ofRun, Lexeme.text]
  · rw [Lexeme.text, Position.after_concat]
    exact stands.complete_opened apart (by decide) (fun _ => by decide) rfl tail

theorem reads_closing (stands : Stands state owed previous context)
    (free : context ≠ .operator) (before tail : List Char) :
    Reads state owed context before .closing tail := by
  refine ⟨_, _, owed ++ context.release.map Cut.placed, .closing (.after before), ?_, ?_⟩
  · simp [Context.judge, Literal.ofChar_eq, Literal.placed_ofRun, Lexeme.text]
  · rw [Lexeme.text, Position.after_concat]
    cases letters : afterLetters previous with
    | false => exact stands.complete_opened letters (by decide) (fun _ => by decide) rfl tail
    | true =>
      cases stands with
      | word literal text =>
        rw [List.singleton_append, State.complete_cons]
        rfl
      | operator => exact absurd rfl free
      | _ => cases letters

/-- A quotation mark opens a phrase and the characters inside it are read. -/
theorem complete_quote (stands : Stands state owed previous context)
    (apart : afterLetters previous = false) (place : Position) {inner : List Char}
    (quoted : ∀ ch ∈ inner, Alphabet.isQuoted ch) (rest : List Char) :
    state.complete .feedThrough place ('"' :: (inner ++ rest)) =
      ((State.phrase (.ofRun place ('"' :: inner))).complete .feedThrough
        (place.past ('"' :: inner)) rest).after (owed ++ context.release.map Cut.placed) := by
  have opened : State.openExpression '"' place = .ok (.phrase (.ofRun place ['"'])) := by
    rw [← Literal.ofChar_eq]
    rfl
  rw [stands.complete_opened apart (by decide) (fun _ => by decide) opened,
    State.complete_phrase_run _ _ _ _ _ quoted]
  rfl

theorem reads_quoted (stands : Stands state owed previous context)
    (apart : afterLetters previous = false) {inner : List Char}
    (quoted : ∀ ch ∈ inner, Alphabet.isQuoted ch) (before tail : List Char) :
    Reads state owed context before (.quoted inner) tail := by
  refine ⟨_, _, owed ++ context.release.map Cut.placed ++
    [(Cut.mk .phrase before ('"' :: inner ++ ['"'])).placed], .quoted inner, ?_, ?_⟩
  · simp [Context.judge, Lexeme.text]
  · have split : (Lexeme.quoted inner).text ++ tail = '"' :: (inner ++ ('"' :: tail)) := by
      simp [Lexeme.text]
    have closed (place : Position) :
        (State.phrase (.ofRun (.after before) ('"' :: inner))).move .feedThrough '"' place =
          .next .expression [(Cut.mk .phrase before ('"' :: inner ++ ['"'])).placed] := by
      rw [State.move, State.movePhrase, if_neg (by decide), if_pos rfl, Literal.push_ofRun,
        Literal.placed_ofRun]
    rw [split, stands.complete_quote apart _ quoted, State.complete_cons, closed,
      Step.next_andThen, Step.after_after, Lexeme.text, Position.after_append, Position.past_append]
    rfl

/-- A blank begins a run that is pending, unless it follows an operator. -/
theorem move_blank (stands : Stands state owed previous context) {ch : Char}
    (blank : Alphabet.isBlank ch = true)
    (admitted : ∀ last ∈ previous, last.refuses ch = false ∧ last.continues ch = false)
    (place : Position) :
    state.move .feedThrough ch place =
      .next (if context = .operator then .afterKeyword else .implicitAnd (.ofChar place ch))
        owed := by
  have opens : State.openExpression ch place = .ok (.implicitAnd (.ofChar place ch)) := by
    have other {special : Char} := @Alphabet.ne_of_isBlank ch special blank
    rw [State.openExpression, if_neg (other (by decide)), if_neg (other (by decide)), if_pos blank]
  cases stands with
  | start | quoted inner | closing closed =>
    rw [State.move, opens]
    rfl
  | opening opened =>
    have refused := (admitted _ rfl).1
    rw [Lexeme.refuses, blank] at refused
    cases refused
  | word literal text =>
    rw [State.move, State.moveWord, if_neg (by simp [Alphabet.isWord_of_isBlank blank]),
      if_neg (Alphabet.ne_of_isBlank blank (by decide)), if_pos blank]
    rfl
  | operator keyword start held text =>
    have whole := keyword.expects_ofRun_letters start
    rw [State.move, State.moveKeyword, if_neg (by simp [whole]), if_pos ⟨whole, blank⟩]
    rfl
  | pending before text =>
    have continued := (admitted _ rfl).2
    rw [Lexeme.continues, blank] at continued
    cases continued
  | spaced text =>
    have continued := (admitted _ rfl).2
    rw [Lexeme.continues, blank] at continued
    cases continued

theorem reads_blanks (stands : Stands state owed previous context) {ch : Char}
    {run : List Char} (blanks : ∀ other ∈ ch :: run, Alphabet.isBlank other)
    (admitted : ∀ last ∈ previous, last.refuses ch = false ∧ last.continues ch = false)
    (before tail : List Char) : Reads state owed context before (.blanks (ch :: run)) tail := by
  have moved := stands.move_blank (blanks ch (by simp)) admitted (.after before)
  have others : ∀ other ∈ run, Alphabet.isBlank other := fun other member =>
    blanks other (by simp [member])
  by_cases operator : context = .operator
  · refine ⟨.afterKeyword, [], owed, ?_, by simp [Context.judge], ?_⟩
    · rw [Context.judge, if_pos operator]
      exact .spaced _
    · rw [Lexeme.text, List.cons_append, State.complete_cons, moved, if_pos operator,
        Step.next_andThen, State.complete_spaced_run _ _ _ others, Position.after_append]
      rfl
  · refine ⟨.implicitAnd (.ofRun (.after before) (ch :: run)), [], owed, ?_,
      by simp [Context.judge], ?_⟩
    · rw [Context.judge, if_neg operator]
      exact .pending before _
    · rw [Lexeme.text, List.cons_append, State.complete_cons, moved, if_neg operator,
        Step.next_andThen, Literal.ofChar_eq, State.complete_blank_run _ _ _ _ _ others,
        Position.after_append]
      rfl

/-- Letters whose first has opened a keyword. The blanks held back are retired at once
before NOT, and with the word if the keyword breaks off. -/
theorem reads_keyword (keyword : Keyword) {ch : Char} {run before tail : List Char}
    {held : Option Literal} {emitted : List PlacedToken}
    (begins : keyword.letters.head? = some ch)
    (usable : keyword = .not ∨ context.isPending = true)
    (letters : ∀ other ∈ run, Alphabet.isWord other)
    (stops : ∀ other ∈ tail.head?, Alphabet.isWord other = false)
    (opened : state.complete .feedThrough (.after before) (ch :: (run ++ tail)) =
      ((State.keyword keyword (.ofChar (.after before) ch) held).complete .feedThrough
        ((Position.after before).next ch) (run ++ tail)).after emitted)
    (atOnce : emitted =
      owed ++ (if keyword = .not then context.release else []).map Cut.placed)
    (inAll : emitted ++ State.released held = owed ++ context.release.map Cut.placed) :
    Reads state owed context before (.letters (ch :: run)) tail := by
  rw [State.complete_opened_keyword _ held begins letters stops] at opened
  have spelled := Context.operator?_of_head run begins usable
  by_cases whole : ch :: run = keyword.letters ∧ State.endsLetters tail = true
  · rw [if_pos whole.1] at spelled
    rw [if_pos whole] at opened
    rw [Reads, whole.2, Context.judge_operator before spelled]
    refine ⟨_, _, emitted, .operator keyword (.after before) held _, ?_, ?_⟩
    · rw [atOnce, Literal.placed_ofRun, whole.1]
      simp
    · rw [Lexeme.text, List.cons_append, opened, Position.after_append]
  · have plain : State.endsLetters tail = true → context.operator? (ch :: run) = none := by
      intro ends
      rw [spelled, if_neg fun same => whole ⟨same, ends⟩]
    rw [if_neg whole, Step.after_after] at opened
    rw [Reads, Context.judge_word before plain]
    refine ⟨_, _, emitted ++ State.released held, .word (.ofRun (.after before) (ch :: run)) _,
      ?_, ?_⟩
    · rw [inAll, Literal.placed_ofRun]
      simp
    · rw [Lexeme.text, List.cons_append, opened, Position.after_append]

/-- Letters whose first begins no keyword that can stand here. -/
theorem reads_word (stands : Stands state owed previous context)
    (apart : afterLetters previous = false) {ch : Char} {run : List Char}
    (notNot : ch ≠ 'N') (others : context.isPending = true → ch ≠ 'O' ∧ ch ≠ 'A')
    (letters : ∀ other ∈ ch :: run, Alphabet.isWord other) (before tail : List Char) :
    Reads state owed context before (.letters (ch :: run)) tail := by
  have word : Alphabet.isWord ch = true := letters ch (by simp)
  have solid := Alphabet.isBlank_of_isWord word
  have other {special : Char} := @Alphabet.ne_of_isWord ch special word
  have opened : State.openExpression ch (.after before) =
      .ok (.word (.ofRun (.after before) [ch])) := by
    rw [State.openExpression, if_neg (other (by decide)), if_neg (other (by decide)),
      if_neg (by simp [solid]), State.openTerm, if_neg notNot, if_neg (other (by decide)),
      if_pos word, Literal.ofChar_eq]
  have plain : State.endsLetters tail = true → context.operator? (ch :: run) = none :=
    fun _ => Context.operator?_eq_none run notNot others
  rw [Reads, Context.judge_word before plain]
  refine ⟨_, _, owed ++ context.release.map Cut.placed,
    .word (.ofRun (.after before) (ch :: run)) _, ?_, ?_⟩
  · rw [Literal.placed_ofRun]
    simp
  · rw [Lexeme.text, List.cons_append, stands.complete_opened apart solid others opened,
      State.complete_word_run _ _ _ _ _ fun other member => letters other (by simp [member]),
      Position.after_append]
    rfl

theorem reads_letters (stands : Stands state owed previous context)
    (apart : afterLetters previous = false) {ch : Char} {run tail : List Char}
    (letters : ∀ other ∈ ch :: run, Alphabet.isWord other)
    (stops : ∀ other ∈ tail.head?, Alphabet.isWord other = false) (before : List Char) :
    Reads state owed context before (.letters (ch :: run)) tail := by
  have others : ∀ other ∈ run, Alphabet.isWord other := fun other member =>
    letters other (by simp [member])
  by_cases negation : ch = 'N'
  · subst negation
    have opened : State.openExpression 'N' (.after before) =
        .ok (.keyword .not (.ofChar (.after before) 'N') none) := rfl
    exact reads_keyword .not rfl (.inl rfl) others stops
      (stands.complete_opened apart (by decide) (fun _ => by decide) opened _) rfl
      (by simp [State.released])
  · by_cases connective : context.isPending = true ∧ (ch = 'O' ∨ ch = 'A')
    · obtain ⟨waiting, head⟩ := connective
      cases stands with
      | pending earlier blanks =>
        have inAll : [] ++ State.released (some (.ofRun (.after earlier) blanks)) =
            [] ++ (Context.pending earlier blanks).release.map Cut.placed := by
          simp [State.released, Context.release, Literal.placed_ofRun]
        rcases head with rfl | rfl
        · exact reads_keyword .or rfl (.inr rfl) others stops (State.complete_cons ..) rfl inAll
        · exact reads_keyword .and rfl (.inr rfl) others stops (State.complete_cons ..) rfl inAll
      | _ => cases waiting
    · refine stands.reads_word apart negation (fun waiting => ?_) letters before tail
      constructor
      · exact fun same => connective ⟨waiting, .inl same⟩
      · exact fun same => connective ⟨waiting, .inr same⟩

/-- Nothing but blanks and a closing parenthesis may stand right after letters. -/
theorem apart_of_admits {lexeme : Lexeme} {ch : Char} (begins : lexeme.text.head? = some ch)
    (admitted : ∀ last ∈ previous, last.Admits lexeme)
    (special : ch = '(' ∨ ch = '"' ∨ Alphabet.isWord ch = true) :
    afterLetters previous = false := by
  cases previous with
  | none => rfl
  | some last =>
    cases last with
    | letters text =>
      obtain ⟨allowed, ended⟩ := admitted _ rfl ch begins
      rcases special with rfl | rfl | word
      · cases allowed
      · cases allowed
      · rw [Lexeme.continues, word] at ended
        cases ended
    | _ => rfl

/-- The scanner reads every lexeme that may stand here. -/
theorem reads (stands : Stands state owed previous context) {lexeme : Lexeme}
    {tail : List Char} (formed : lexeme.WellFormed)
    (admitted : ∀ last ∈ previous, last.Admits lexeme) (stops : lexeme.Stops tail)
    (ends : context = .operator → State.endsLetters (lexeme.text ++ tail) = true)
    (before : List Char) : Reads state owed context before lexeme tail := by
  cases lexeme with
  | opening => exact stands.reads_opening (apart_of_admits rfl admitted (.inl rfl)) before tail
  | closing =>
    refine stands.reads_closing (fun operator => ?_) before tail
    cases ends operator
  | quoted inner =>
    exact stands.reads_quoted (apart_of_admits rfl admitted (.inr (.inl rfl))) formed before tail
  | letters text =>
    obtain ⟨nonempty, letters⟩ := formed
    obtain ⟨ch, run, rfl⟩ := List.exists_cons_of_ne_nil nonempty
    have apart := apart_of_admits rfl admitted (.inr (.inr (letters ch (by simp))))
    exact stands.reads_letters apart letters stops before
  | blanks text =>
    obtain ⟨nonempty, blanks⟩ := formed
    obtain ⟨ch, run, rfl⟩ := List.exists_cons_of_ne_nil nonempty
    exact stands.reads_blanks blanks (fun last member => admitted last member ch rfl) before tail

end Stands

namespace Rejection

/-- The failure of a text that has no lexemes. -/
def failure : Rejection → Failure
  | .illegal before ch => .illegalCharacter ch (.after before)
  | .unterminated before => .unterminatedPhrase (.after before)

end Rejection

namespace Lexeme

/-- Letters stand alone before lexemes when they do before the text of these. -/
theorem endLetters_of_split {before tail : List Char} {previous : Option Lexeme}
    {lexemes : List Lexeme} (whole : split before previous tail = .ok lexemes) :
    endLetters lexemes = State.endsLetters tail := by
  cases tail with
  | nil =>
    rw [split] at whole
    cases whole
    rfl
  | cons ch rest =>
    obtain ⟨_, lexeme, more, others, found, _, rfl⟩ := split_cons_eq_ok whole
    obtain ⟨own, formed, _⟩ := first_spec found
    cases lexeme with
    | opening | closing | quoted inner =>
      cases own
      rfl
    | letters text =>
      obtain ⟨start, run, rfl⟩ := List.exists_cons_of_ne_nil formed.1
      cases own
      exact (Alphabet.isBlank_of_isWord (formed.2 ch (by simp))).symm
    | blanks text =>
      obtain ⟨start, run, rfl⟩ := List.exists_cons_of_ne_nil formed.1
      cases own
      exact (formed.2 ch (by simp)).symm

end Lexeme

namespace Context

/-- Letters are judged an operator only where they stand alone. -/
theorem ends_of_judge {context : Context} {before : List Char} {lexeme : Lexeme} {ends : Bool}
    (judged : (context.judge before lexeme ends).2 = .operator) : ends = true := by
  cases lexeme with
  | opening | closing | quoted inner => cases judged
  | blanks text =>
    simp only [judge] at judged
    split at judged <;> cases judged
  | letters text =>
    simp only [judge] at judged
    split at judged
    · rfl
    · rfl
    · cases judged

end Context

namespace Stands

variable {state : State} {owed : List PlacedToken} {previous : Option Lexeme} {context : Context}

/-- The scanner refuses what the lexeme before refuses. -/
theorem answer_of_refused (stands : Stands state owed previous context) {ch : Char}
    {rest : List Char} (refused : previous.any (·.refuses ch) = true)
    (ends : context = .operator → State.endsLetters (ch :: rest) = true) (place : Position) :
    (state.complete .feedThrough place (ch :: rest)).answer =
      .error (.illegalCharacter ch place) := by
  rw [State.complete_cons]
  cases stands with
  | start | quoted | closing | pending | spaced => cases refused
  | opening opened =>
    have blank : Alphabet.isBlank ch = true := refused
    rw [State.move, if_pos blank]
    rfl
  | word literal text =>
    have special : ch = '(' ∨ ch = '"' := by simpa [Lexeme.refuses] using refused
    rcases special with rfl | rfl <;> rfl
  | operator keyword start held text =>
    have special : ch = '(' ∨ ch = '"' := by simpa [Lexeme.refuses] using refused
    rcases special with rfl | rfl <;> cases ends rfl

/-- The scanner refuses a character that begins no lexeme. -/
theorem answer_of_unfit (stands : Stands state owed previous context) {ch : Char}
    {rest : List Char} (special : ch ≠ '(' ∧ ch ≠ ')' ∧ ch ≠ '"')
    (notWord : Alphabet.isWord ch = false) (solid : Alphabet.isBlank ch = false)
    (ends : context = .operator → State.endsLetters (ch :: rest) = true) (place : Position) :
    (state.complete .feedThrough place (ch :: rest)).answer =
      .error (.illegalCharacter ch place) := by
  obtain ⟨notOpening, notClosing, notQuote⟩ := special
  have notLetter {letter : Char} (word : Alphabet.isWord letter = true) : ch ≠ letter :=
    (Alphabet.ne_of_isWord word notWord).symm
  have refused : State.openExpression ch place = .error (.illegalCharacter ch place) := by
    rw [State.openExpression, if_neg notOpening, if_neg notClosing, if_neg (by simp [solid]),
      State.openTerm, if_neg (notLetter (by decide)), if_neg notQuote, if_neg (by simp [notWord])]
  rw [State.complete_cons]
  cases letters : afterLetters previous with
  | false =>
    rw [stands.move_eq letters solid
      (fun _ => ⟨notLetter (by decide), notLetter (by decide)⟩), refused]
    rfl
  | true =>
    cases stands with
    | word literal text =>
      rw [State.move, State.moveWord, if_neg (by simp [notWord]), if_neg notClosing,
        if_neg (by simp [solid])]
      rfl
    | operator keyword start held text =>
      have blank : Alphabet.isBlank ch = true := ends rfl
      rw [solid] at blank
      cases blank
    | _ => cases letters

/-- The scanner fails in a quoted run where the first pass does. -/
theorem answer_of_unclosed (stands : Stands state owed previous context)
    (apart : afterLetters previous = false) {before rest : List Char} {rejection : Rejection}
    (found : Lexeme.first before '"' rest = .error rejection) :
    (state.complete .feedThrough (.after before) ('"' :: rest)).answer =
      .error rejection.failure := by
  have whole := List.takeWhile_append_dropWhile (p := Alphabet.isQuoted) (l := rest)
  have quoted : ∀ ch ∈ rest.takeWhile Alphabet.isQuoted, Alphabet.isQuoted ch :=
    List.all_eq_true.mp List.all_takeWhile
  rw [← whole, stands.complete_quote apart _ quoted, Step.answer_after]
  simp only [Lexeme.first, reduceIte, Char.reduceEq] at found
  cases dropped : rest.dropWhile Alphabet.isQuoted with
  | nil =>
    rw [dropped] at found
    cases found
    rfl
  | cons stop more =>
    have outside : Alphabet.isQuoted stop = false := by
      have stopped := List.head?_dropWhile_not Alphabet.isQuoted rest
      simpa [dropped] using stopped
    rw [dropped] at found
    by_cases mark : stop = '"'
    · simp [mark] at found
    · simp only [if_neg mark] at found
      cases found
      rw [State.complete_cons, State.move, State.movePhrase, if_neg (by simp [outside]),
        if_neg mark]
      simp [Step.fail_andThen, Rejection.failure, Position.after_append, Except.map]

/-- The scanner fails at the lexeme where the first pass does. -/
theorem answer_of_first_error (stands : Stands state owed previous context) {ch : Char}
    {before rest : List Char} {rejection : Rejection}
    (allowed : previous.any (·.refuses ch) = false)
    (found : Lexeme.first before ch rest = .error rejection)
    (ends : context = .operator → State.endsLetters (ch :: rest) = true) :
    (state.complete .feedThrough (.after before) (ch :: rest)).answer =
      .error rejection.failure := by
  by_cases quote : ch = '"'
  · subst quote
    refine stands.answer_of_unclosed ?_ found
    cases previous with
    | none => rfl
    | some last =>
      cases last with
      | letters text => cases allowed
      | _ => rfl
  · simp only [Lexeme.first, if_neg quote] at found
    split at found
    · cases found
    · split at found
      · cases found
      · split at found
        · cases found
        · split at found
          · cases found
          · rename_i notOpening notClosing notWord solid
            cases found
            exact stands.answer_of_unfit ⟨notOpening, notClosing, quote⟩
              (by simpa using notWord) (by simpa using solid) ends (.after before)

/-- From wherever a lexeme has ended, the scanner gives what the two passes give for the
rest of the text, after the tokens it has yet to retire. -/
theorem answer_eq (stands : Stands state owed previous context) {before chars : List Char}
    (stops : ∀ last ∈ previous, last.Stops chars)
    (ends : context = .operator → State.endsLetters chars = true) :
    (state.complete .feedThrough (.after before) chars).answer =
      match Lexeme.split before previous chars with
      | .ok lexemes => .ok (owed ++ (Lexeme.classify context before lexemes).map Cut.placed)
      | .error rejection => .error rejection.failure := by
  induction before, previous, chars using Lexeme.split.induct generalizing state owed context with
  | case1 before previous =>
    rw [State.complete_nil, stands.settle_eq, Lexeme.split]
    simp [Lexeme.classify]
  | case2 before previous ch rest refused =>
    rw [Lexeme.split_of_refused refused]
    exact stands.answer_of_refused refused ends (.after before)
  | case3 before previous ch rest allowed rejection found =>
    have allowed : previous.any (·.refuses ch) = false := by simpa using allowed
    rw [Lexeme.split_of_first_error allowed found]
    exact stands.answer_of_first_error allowed found ends
  | case4 before previous ch rest allowed lexeme tail found shorter ih =>
    have allowed : previous.any (·.refuses ch) = false := by simpa using allowed
    obtain ⟨own, formed, ended⟩ := Lexeme.first_spec found
    have admitted := Lexeme.admits_of_first found allowed stops
    obtain ⟨next, kept, emitted, stood, tokens, read⟩ :=
      stands.reads formed admitted ended (fun operator => own ▸ ends operator) before
    have further := ih stood (by rintro last ⟨⟩; exact ended) Context.ends_of_judge
    rw [Lexeme.split_of_first allowed found, own, read, Step.answer_after, further]
    cases whole : Lexeme.split (before ++ lexeme.text) (some lexeme) tail with
    | error rejection => rfl
    | ok more =>
      simp only [Except.map, Lexeme.classify, Lexeme.endLetters_of_split whole, List.map_append]
      rw [← List.append_assoc, tokens, List.append_assoc]

end Stands

namespace Tokenizer

/-- Feeding broken keywords through gives the tokens of the two passes with their spans, or
the failure of the first. -/
theorem answer_feedThrough (query : String) :
    answer .feedThrough query =
      match Reference.lex query with
      | .ok cuts => .ok (.ofTokens (cuts.map Cut.placed))
      | .error rejection => .error rejection.failure := by
  have agreed := @Stands.answer_eq _ _ _ _ .start [] query.toList (by simp) (by simp)
  rw [Position.after_nil] at agreed
  rw [answer, agreed, Reference.lex]
  cases Lexeme.split [] none query.toList <;> rfl

/-- What the two passes find is what the tokenizer answers. -/
theorem tokenize_of_lex {preferences : SearchPreferences} {query : String} {cuts : List Cut}
    (mode : preferences.fallback = .feedThrough) (unlimited : preferences.enforceLimits = false)
    (bound : query.length + 2 ≤ UInt32.size) (found : Reference.lex query = .ok cuts)
    (session : Log.Session) :
    ∃ later, tokenize preferences query session =
      .ok (.ok (.ofTokens (cuts.map Cut.placed)), later) := by
  obtain ⟨later, answered⟩ := tokenize_unlimited unlimited bound session
  rw [mode, answer_feedThrough, found] at answered
  exact ⟨later, answered⟩

/-- A rejection of the first pass is the failure of the tokenizer. -/
theorem tokenize_of_lex_error {preferences : SearchPreferences} {query : String}
    {rejection : Rejection} (mode : preferences.fallback = .feedThrough)
    (unlimited : preferences.enforceLimits = false) (bound : query.length + 2 ≤ UInt32.size)
    (failed : Reference.lex query = .error rejection) (session : Log.Session) :
    ∃ later, tokenize preferences query session = .ok (.error rejection.failure, later) := by
  obtain ⟨later, answered⟩ := tokenize_unlimited unlimited bound session
  rw [mode, answer_feedThrough, failed] at answered
  exact ⟨later, answered⟩

/-- The tokens of an accepted query are those the two passes find. -/
theorem lex_of_tokenize {preferences : SearchPreferences} {query : String}
    {session later : Log.Session} {stream : Stream} (mode : preferences.fallback = .feedThrough)
    (answered : tokenize preferences query session = .ok (.ok stream, later)) :
    ∃ cuts, Reference.lex query = .ok cuts ∧ stream.tokens = cuts.map Cut.placed := by
  have free := answer_of_tokenize answered
  rw [mode, answer_feedThrough] at free
  cases found : Reference.lex query with
  | error rejection =>
    rw [found] at free
    cases free
  | ok cuts =>
    rw [found] at free
    cases free
    exact ⟨cuts, rfl, rfl⟩

/-- A query that fails has no lexemes. -/
theorem lex_of_tokenize_error {preferences : SearchPreferences} {query : String}
    {session later : Log.Session} {failure : Failure}
    (mode : preferences.fallback = .feedThrough) (unlimited : preferences.enforceLimits = false)
    (bound : query.length + 2 ≤ UInt32.size)
    (failed : tokenize preferences query session = .ok (.error failure, later)) :
    ∃ rejection, Reference.lex query = .error rejection ∧ failure = rejection.failure := by
  cases found : Reference.lex query with
  | ok cuts =>
    obtain ⟨_, answered⟩ := tokenize_of_lex mode unlimited bound found session
    rw [answered] at failed
    cases failed
  | error rejection =>
    obtain ⟨_, answered⟩ := tokenize_of_lex_error mode unlimited bound found session
    rw [answered] at failed
    cases failed
    exact ⟨rejection, rfl, rfl⟩

/-- The tokenizer is the lexer of two passes: the same kinds and literals, or the same
failure at the same character. -/
theorem tokenize_eq_reference {preferences : SearchPreferences} {query : String}
    (mode : preferences.fallback = .feedThrough) (unlimited : preferences.enforceLimits = false)
    (bound : query.length + 2 ≤ UInt32.size) (session : Log.Session) :
    match Reference.lex query with
    | .ok cuts => ∃ stream later, tokenize preferences query session = .ok (.ok stream, later) ∧
        stream.tokens.map (·.value) = cuts.map Cut.token
    | .error (.illegal before ch) => ∃ place later,
        Position.start.advanceChars before = .ok place ∧
        tokenize preferences query session = .ok (.error (.illegalCharacter ch place), later)
    | .error (.unterminated before) => ∃ place later,
        Position.start.advanceChars before = .ok place ∧
        tokenize preferences query session = .ok (.error (.unterminatedPhrase place), later) := by
  obtain ⟨later, answered⟩ := tokenize_unlimited unlimited bound session
  have agreed := answer_feedThrough query
  rw [mode, agreed] at answered
  cases found : Reference.lex query with
  | ok cuts =>
    rw [found] at answered
    refine ⟨_, later, answered, ?_⟩
    simp [Stream.ofTokens, Cut.placed]
  | error rejection =>
    have inside : rejection.before.length + 2 ≤ UInt32.size := by
      have failed := Reference.split_of_lex_error found
      have shorter := (Lexeme.before_of_split_error failed).length_le
      rw [List.nil_append, String.length_toList] at shorter
      omega
    rw [found] at answered
    cases rejection with
    | illegal before ch => exact ⟨_, later, Position.advanceChars_start inside, answered⟩
    | unterminated before => exact ⟨_, later, Position.advanceChars_start inside, answered⟩

theorem tokenize_eq_reference_broken_keyword :
    ∃ stream later, tokenize ⟨.feedThrough, false, true, false⟩ "a ANT AND NOT b" {} =
        .ok (.ok stream, later) ∧
      stream.tokens.map (·.value) = [⟨.word, "a"⟩, ⟨.and, " "⟩, ⟨.word, "ANT"⟩, ⟨.and, "AND"⟩,
        ⟨.not, "NOT"⟩, ⟨.word, "b"⟩] := by
  have chained : Lexeme.Chained none [.letters ['a'], .blanks [' '], .letters "ANT".toList,
      .blanks [' '], .letters "AND".toList, .blanks [' '], .letters "NOT".toList, .blanks [' '],
      .letters ['b']] := by
    simp [Lexeme.Chained, Lexeme.WellFormed, Lexeme.Admits, Lexeme.text, Lexeme.refuses,
      Lexeme.continues]
    decide
  have found := (@Reference.lex_eq_ok_iff "a ANT AND NOT b" _).mpr ⟨_, by rfl, chained, rfl⟩
  have same := @tokenize_eq_reference ⟨.feedThrough, false, true, false⟩ "a ANT AND NOT b" rfl rfl
    (by decide) {}
  rw [found] at same
  exact same

end Tokenizer

end SearchLex
