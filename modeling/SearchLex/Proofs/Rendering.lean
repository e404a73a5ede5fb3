import SearchLex.Proofs.Coverage
import SearchLex.Proofs.Grammar

/-! Tokens written down again. All that is lost of a query is how its written operators were
spaced; with one space for these blanks the tokens come back, since nothing else in the text
changes its neighbours. -/

namespace SearchLex

/-- How a token is written down: a written AND or OR between spaces, NOT before a space, every
other token as it stood in the query. -/
def Token.rendering (token : Token) : List Char :=
  match token.kind with
  | .and => if token.isImplicitAnd then token.literal.toList
      else ' ' :: Keyword.and.letters ++ [' ']
  | .or => ' ' :: Keyword.or.letters ++ [' ']
  | .not => Keyword.not.letters ++ [' ']
  | .opening | .closing | .word | .phrase => token.literal.toList

/-- Tokens written down one after the other. -/
def Token.render (tokens : List Token) : String := .ofList (tokens.flatMap rendering)

section Rendering

variable {before text : List Char}

theorem Cut.rendering_implicit (blank : ∀ ch ∈ text, Alphabet.isBlank ch) :
    (Cut.token ⟨.and, before, text⟩).rendering = text := by
  have implicit := @Context.isImplicitAnd_of_blank before text blank
  simp only [Cut.token] at implicit ⊢
  simp [Token.rendering, implicit]

theorem Token.rendering_solid {kind : Kind} (loose : kind.isOperator = false) :
    Token.rendering ⟨kind, .ofList text⟩ = text := by
  cases kind with
  | opening | closing | word | phrase => exact String.toList_ofList
  | and | or | not => cases loose

theorem Keyword.rendering_not :
    Token.rendering ⟨Keyword.not.kind, Keyword.not.text⟩ = Keyword.not.letters ++ [' '] := rfl

theorem Keyword.rendering_connective {keyword : Keyword} (connective : keyword ≠ .not) :
    Token.rendering ⟨keyword.kind, keyword.text⟩ = ' ' :: keyword.letters ++ [' '] := by
  cases keyword with
  | not => exact absurd rfl connective
  | and | or => rfl

end Rendering

namespace Grammar.Blanks

/-- The one blank that is written beside an operator. -/
def space : Blanks := ⟨[' '], by simp, List.all_eq_true.mp rfl⟩

end Grammar.Blanks

open Grammar (Blanks)

namespace Lexeme

/-- Lexemes that may stand after another one, that are the text of tokens as they are written
down, and that give these tokens. -/
structure Spells (last : Option Lexeme) (lexemes : List Lexeme) (tokens : List Token) : Prop where
  chained : Chained last lexemes
  text : join lexemes = tokens.flatMap Token.rendering
  gives : Gives .plain lexemes tokens

/-- Letters that run up to no blanks and not to the end run up to a closing parenthesis. -/
theorem closing_of_endLetters {text : List Char} {lexemes : List Lexeme}
    (chained : Chained (some (.letters text)) lexemes) (stands : endLetters lexemes = false) :
    ∃ rest, lexemes = .closing :: rest := by
  cases lexemes with
  | nil => cases stands
  | cons lexeme rest =>
    obtain ⟨formed, admitted, _⟩ := chained
    have apart := admitted _ rfl
    cases lexeme with
    | closing => exact ⟨rest, rfl⟩
    | blanks blanks => cases stands
    | opening => cases (apart '(' rfl).1
    | quoted inner => cases (apart '"' rfl).1
    | letters others =>
      obtain ⟨ch, more, own⟩ := List.exists_cons_of_ne_nil formed.1
      have letter := formed.2 ch (by simp [own])
      have other := (apart ch (by simp [Lexeme.text, own])).2
      rw [continues, letter] at other
      cases other

theorem endLetters_of_closing {previous : Option Lexeme} {lexemes : List Lexeme}
    {chars : List Char} (chained : Chained previous lexemes)
    (begins : join lexemes = ')' :: chars) : endLetters lexemes = false := by
  cases lexemes with
  | nil => cases begins
  | cons lexeme rest =>
    cases lexeme with
    | opening | closing | quoted inner | letters text => rfl
    | blanks text =>
      obtain ⟨ch, more, own⟩ := List.exists_cons_of_ne_nil chained.1.1
      have blank := chained.1.2 ch (by simp [own])
      rw [join_cons, Lexeme.text, own] at begins
      cases (List.cons.inj begins).1
      cases blank

end Lexeme

/-- Where the tokens that are left of some lexemes are written down: the context of these, the
lexeme before them and the last one written. After an operator that is a space, whatever
blanks there were; blanks that are pending are not yet written. -/
inductive Resumes : Context → Option Lexeme → Option Lexeme → Prop where
  | adjacent {previous : Option Lexeme} (solid : ∀ text, previous ≠ some (.blanks text)) :
      Resumes .plain previous previous
  | operator (previous : Option Lexeme) : Resumes .operator previous (some (.blanks [' ']))
  | spaced (text : List Char) : Resumes .plain (some (.blanks text)) (some (.blanks [' ']))
  | pending {last : Option Lexeme} (before : List Char) (run : Blanks)
      (closed : ∀ own ∈ last, own.closes = true) :
      Resumes (.pending before run.text) (some (.blanks run.text)) last

namespace Resumes

variable {context : Context} {previous last : Option Lexeme} {lexeme : Lexeme}
  {rest : List Lexeme} {tail : List Token}

/-- What begins with a lexeme that is not blanks is written after the AND that was pending. -/
theorem spells (resumes : Resumes context previous last) (settled : context ≠ .operator)
    (solid : ∀ text, lexeme ≠ .blanks text) (formed : lexeme.WellFormed)
    (admitted : ∀ own ∈ previous, own.Admits lexeme) (further : Lexeme.Chained (some lexeme) rest)
    (text : Lexeme.join (lexeme :: rest) = tail.flatMap Token.rendering)
    (gives : ∀ other : Context, other.isPending = context.isPending →
      Lexeme.Gives other (lexeme :: rest) (other.release.map Cut.token ++ tail)) :
    ∃ written, Lexeme.Spells last written (context.release.map Cut.token ++ tail) := by
  cases resumes with
  | adjacent => exact ⟨lexeme :: rest, ⟨formed, admitted, further⟩, text, gives .plain rfl⟩
  | operator => exact absurd rfl settled
  | spaced blanks =>
    refine ⟨lexeme :: rest, ⟨formed, ?_, further⟩, text, gives .plain rfl⟩
    rintro _ ⟨⟩
    exact Lexeme.admits_of_opens rfl formed solid
  | pending before run closed =>
    refine ⟨.blanks run.text :: lexeme :: rest, ⟨run.wellFormed, ?_, formed, admitted, further⟩,
      ?_, Lexeme.gives_pending fun other => gives (.pending other run.text) rfl⟩
    · intro own member
      exact Lexeme.admits_blanks (closed own member) run.wellFormed
    · have implicit := @Cut.rendering_implicit before run.text run.blank
      rw [Lexeme.join_cons, text]
      simp [Context.release, implicit, Lexeme.text]

/-- A lexeme that is a token by itself and no operator. -/
theorem spells_solid {kind : Kind} (resumes : Resumes context previous last)
    (settled : context ≠ .operator) (loose : kind.isOperator = false)
    (solid : ∀ text, lexeme ≠ .blanks text) (formed : lexeme.WellFormed)
    (admitted : ∀ own ∈ previous, own.Admits lexeme)
    (further : Lexeme.Spells (some lexeme) rest tail)
    (judged : ∀ other : Context, other.isPending = context.isPending → ∀ before,
      other.judge before lexeme (Lexeme.endLetters rest) =
        (other.release ++ [⟨kind, before, lexeme.text⟩], .plain)) :
    ∃ written, Lexeme.Spells last written
      (context.release.map Cut.token ++ ⟨kind, .ofList lexeme.text⟩ :: tail) := by
  refine resumes.spells settled solid formed admitted further.chained ?_ ?_
  · simp [Token.rendering_solid loose, further.text]
  · intro other same
    exact Lexeme.gives_solid (judged other same) further.gives

/-- A keyword that can stand here. The space after it is written with it; AND and OR have one
before them in place of the blanks that were pending. -/
theorem spells_keyword {keyword : Keyword} (resumes : Resumes context previous last)
    (settled : context ≠ .operator) (usable : keyword = .not ∨ context.isPending = true)
    (formed : Lexeme.WellFormed (.letters keyword.letters))
    (admitted : ∀ own ∈ previous, own.Admits (.letters keyword.letters))
    (further : Lexeme.Spells (some (.blanks [' '])) rest tail) :
    ∃ written, Lexeme.Spells last written
      ((if keyword = .not then context.release.map Cut.token else []) ++
        ⟨keyword.kind, keyword.text⟩ :: tail) := by
  by_cases negation : keyword = .not
  · subst negation
    refine @spells _ _ _ _ (.blanks [' '] :: rest) _ resumes settled (by simp) formed admitted
      (Blanks.space.chained rfl further.chained) ?_ ?_
    · simp [Lexeme.text, Keyword.rendering_not, further.text]
    · intro other _
      exact Lexeme.gives_keyword .not (.inl rfl) rfl (Lexeme.gives_spaced further.gives)
  · have pending := usable.resolve_left negation
    cases resumes with
    | adjacent | operator | spaced => cases pending
    | pending before run closed =>
      have keyworded := Blanks.space.chained_keyword keyword
        (fun own (member : own ∈ some (Lexeme.blanks [' '])) => by cases member; rfl)
        further.chained
      refine ⟨.blanks [' '] :: .letters keyword.letters :: .blanks [' '] :: rest,
        ⟨Blanks.space.wellFormed, ?_, keyworded⟩, ?_, ?_⟩
      · intro own member
        exact Lexeme.admits_blanks (closed own member) Blanks.space.wellFormed
      · simp [negation, Lexeme.text, Keyword.rendering_connective negation, further.text]
      · rw [if_neg negation]
        exact Lexeme.gives_connective negation further.gives

end Resumes

namespace Lexeme

/-- The tokens of lexemes, written down, are theirs again. The induction is over the lexemes;
`Resumes` is what it carries from one token to the next. -/
theorem spells_classify {context : Context} {previous last : Option Lexeme}
    {lexemes : List Lexeme} (resumes : Resumes context previous last)
    (chained : Chained previous lexemes)
    (ends : context = .operator → endLetters lexemes = true) (before : List Char) :
    ∃ written, Spells last written ((classify context before lexemes).map Cut.token) := by
  induction lexemes generalizing context previous last before with
  | nil => exact ⟨[], trivial, rfl, fun _ => rfl⟩
  | cons lexeme rest ih =>
    obtain ⟨formed, admitted, further⟩ := chained
    have settled (solid : endLetters (lexeme :: rest) = false) : context ≠ .operator := by
      intro operator
      rw [ends operator] at solid
      cases solid
    have later (solid : ∀ text, lexeme ≠ .blanks text) :=
      ih (.adjacent (by simpa using solid)) further (by simp) (before ++ lexeme.text)
    cases lexeme with
    | opening | closing | quoted inner =>
      obtain ⟨written, spelled⟩ := later (by simp)
      have whole := resumes.spells_solid (settled rfl) rfl (by simp) formed admitted spelled
        (fun _ _ _ => rfl)
      simpa [classify, Context.judge, Cut.token] using whole
    | blanks text =>
      cases resumes with
      | adjacent =>
        apply ih (.pending before ⟨text, formed.1, formed.2⟩ ?_) further (by simp)
        intro own member
        exact closes_of_admits_blanks formed (admitted own member)
      | operator => exact ih (.spaced text) further (by simp) (before ++ text)
      | spaced | pending => cases closes_of_admits_blanks formed (admitted _ rfl)
    | letters text =>
      rcases context.operator_or_word text (endLetters rest) with ⟨stops, keyword, spelled⟩ | plain
      · obtain ⟨rfl, usable⟩ := Context.operator?_eq_some_iff.mp spelled
        obtain ⟨written, others⟩ := ih (.operator _) further (fun _ => stops)
          (before ++ keyword.letters)
        have whole := resumes.spells_keyword (settled rfl) usable formed admitted others
        rw [classify, stops, Context.judge_operator before spelled]
        by_cases negation : keyword = .not <;>
          simpa [negation, Cut.token, Keyword.text, Lexeme.text] using whole
      · obtain ⟨written, spelled⟩ := later (by simp)
        -- A word that spells an operator was kept from being one by a closing parenthesis, which
        -- is written as it stands, or by its context.
        have stands : endLetters rest = false → endLetters written = false := by
          intro inside
          obtain ⟨more, rfl⟩ := closing_of_endLetters further inside
          have mark : Token.rendering ⟨.closing, .ofList [')']⟩ = [')'] := Token.rendering_solid rfl
          apply endLetters_of_closing spelled.chained
          simpa [classify, Context.judge, Context.release, Cut.token, Lexeme.text, mark] using
            spelled.text
        have judged : ∀ other : Context, other.isPending = context.isPending → ∀ before,
            other.judge before (.letters text) (endLetters written) =
              (other.release ++ [⟨.word, before, text⟩], .plain) := by
          intro other same before
          apply Context.judge_word
          intro alone
          rw [Context.operator?_congr same]
          apply plain
          cases inside : endLetters rest with
          | true => rfl
          | false => exact (stands inside).symm.trans alone
        have whole :=
          resumes.spells_solid (settled rfl) rfl (by simp) formed admitted spelled judged
        simpa [classify, Context.judge_word before plain, Cut.token, Lexeme.text] using whole

end Lexeme

/-- The two passes find in the rendering of a query's tokens these tokens again. -/
theorem Reference.lex_render {query : String} {cuts : List Cut} (found : lex query = .ok cuts) :
    ∃ others, lex (Token.render (cuts.map Cut.token)) = .ok others ∧
      others.map Cut.token = cuts.map Cut.token := by
  obtain ⟨lexemes, _, chained, rfl⟩ := lex_eq_ok_iff.mp found
  obtain ⟨written, spelled⟩ :=
    Lexeme.spells_classify (.adjacent (by simp)) chained (by simp) []
  refine ⟨_, lex_eq_ok_iff.mpr ⟨written, ?_, spelled.chained, rfl⟩, spelled.gives []⟩
  rw [Token.render, String.toList_ofList, spelled.text]

namespace Tokenizer

/-- The tokens of an accepted query, written down with single spaces at the written operators,
are a query with the same tokens. -/
theorem tokenize_render {preferences : SearchPreferences} {query : String}
    {session later : Log.Session} {stream : Stream} (mode : preferences.fallback = .feedThrough)
    (unlimited : preferences.enforceLimits = false)
    (accepted : tokenize preferences query session = .ok (.ok stream, later))
    (bound : (Token.render (stream.tokens.map (·.value))).length + 2 ≤ UInt32.size)
    (fresh : Log.Session) :
    ∃ again log, tokenize preferences (Token.render (stream.tokens.map (·.value))) fresh =
        .ok (.ok again, log) ∧
      again.tokens.map (·.value) = stream.tokens.map (·.value) := by
  obtain ⟨cuts, found, tokens⟩ := lex_of_tokenize mode accepted
  have values (cuts : List Cut) : (cuts.map Cut.placed).map (·.value) = cuts.map Cut.token := by
    rw [List.map_map]
    rfl
  rw [tokens, values] at bound ⊢
  obtain ⟨others, lexed, same⟩ := Reference.lex_render found
  obtain ⟨log, answered⟩ := tokenize_of_lex mode unlimited bound lexed fresh
  exact ⟨_, log, answered, (values others).trans same⟩

theorem tokenize_render_words_like_operators :
    ∃ stream again log,
      tokenize ⟨.feedThrough, false, true, false⟩ "AND \tAND\tNOT (OR)\tNOT" {} =
        .ok (.ok stream, {}) ∧
      Token.render (stream.tokens.map (·.value)) = "AND AND NOT (OR)\tNOT " ∧
      tokenize ⟨.feedThrough, false, true, false⟩ (Token.render (stream.tokens.map (·.value))) {} =
        .ok (.ok again, log) ∧
      again.tokens.map (·.value) = [⟨.word, "AND"⟩, ⟨.and, "AND"⟩, ⟨.not, "NOT"⟩, ⟨.opening, "("⟩,
        ⟨.word, "OR"⟩, ⟨.closing, ")"⟩, ⟨.and, "\t"⟩, ⟨.not, "NOT"⟩] := by
  have accepted : tokenize ⟨.feedThrough, false, true, false⟩ "AND \tAND\tNOT (OR)\tNOT" {} =
    .ok (.ok _, {}) := rfl
  obtain ⟨again, log, answered, same⟩ := @tokenize_render ⟨.feedThrough, false, true, false⟩ _
    {} {} _ rfl rfl accepted (by decide) {}
  exact ⟨_, again, log, accepted, rfl, answered, same⟩

end Tokenizer

end SearchLex
