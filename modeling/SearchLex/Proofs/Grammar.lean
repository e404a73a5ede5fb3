import SearchLex.Proofs.Refinement

/-! The grammar of search expressions, without optional blanks inside parentheses. Every
expression can be written down, and the tokens of its text are its terminals. -/

namespace SearchLex.Grammar

/-- The blanks that have to stand between two parts of an expression. -/
structure Blanks where
  text : List Char
  nonempty : text ≠ []
  blank : ∀ ch ∈ text, Alphabet.isBlank ch

/-- Letters and digits that spell no operator. -/
structure Word where
  text : List Char
  nonempty : text ≠ []
  word : ∀ ch ∈ text, Alphabet.isWord ch
  plain : ∀ keyword : Keyword, text ≠ keyword.letters

/-- What stands between quotation marks. -/
structure Phrase where
  inner : List Char
  nonempty : inner ≠ []
  quoted : ∀ ch ∈ inner, Alphabet.isQuoted ch

inductive Operand where
  | word (word : Word)
  | phrase (phrase : Phrase)

/-- An operand, or NOT, blanks and an operand. -/
structure Term where
  negation : Option Blanks
  operand : Operand

/-- What joins two parts: OR or AND between blanks, or blanks alone. -/
inductive Link where
  | or (left right : Blanks)
  | and (left right : Blanks)
  | implicit (blanks : Blanks)

/-- A term or an expression in parentheses, alone or joined to a further expression. -/
inductive Expression where
  | term (head : Term)
  | group (inner : Expression)
  | termWith (head : Term) (link : Link) (rest : Expression)
  | groupWith (inner : Expression) (link : Link) (rest : Expression)

namespace Operand

def chars : Operand → List Char
  | .word own => own.text
  | .phrase own => '"' :: own.inner ++ ['"']

def terminal (operand : Operand) : Token :=
  match operand with
  | .word _ => ⟨.word, .ofList operand.chars⟩
  | .phrase _ => ⟨.phrase, .ofList operand.chars⟩

end Operand

namespace Term

def chars (term : Term) : List Char :=
  match term.negation with
  | none => term.operand.chars
  | some blanks => "NOT".toList ++ blanks.text ++ term.operand.chars

def terminals (term : Term) : List Token :=
  match term.negation with
  | none => [term.operand.terminal]
  | some _ => [⟨.not, "NOT"⟩, term.operand.terminal]

end Term

namespace Link

def chars : Link → List Char
  | .or left right => left.text ++ "OR".toList ++ right.text
  | .and left right => left.text ++ "AND".toList ++ right.text
  | .implicit blanks => blanks.text

/-- An AND that is left out is a token too: its literal is the blanks. -/
def terminals : Link → List Token
  | .or _ _ => [⟨.or, "OR"⟩]
  | .and _ _ => [⟨.and, "AND"⟩]
  | .implicit blanks => [⟨.and, .ofList blanks.text⟩]

end Link

namespace Expression

def chars : Expression → List Char
  | .term head => head.chars
  | .group inner => '(' :: inner.chars ++ [')']
  | .termWith head link rest => head.chars ++ link.chars ++ rest.chars
  | .groupWith inner link rest => '(' :: inner.chars ++ [')'] ++ link.chars ++ rest.chars

/-- The text of an expression. -/
def print (expression : Expression) : String := .ofList expression.chars

/-- The tokens an expression is made of, in order. -/
def terminals : Expression → List Token
  | .term head => head.terminals
  | .group inner => ⟨.opening, "("⟩ :: inner.terminals ++ [⟨.closing, ")"⟩]
  | .termWith head link rest => head.terminals ++ link.terminals ++ rest.terminals
  | .groupWith inner link rest =>
    ⟨.opening, "("⟩ :: inner.terminals ++ [⟨.closing, ")"⟩] ++ link.terminals ++ rest.terminals

end Expression

end SearchLex.Grammar

namespace SearchLex.Lexeme

/-- Lexemes after which an operand is expected. -/
def opens : Lexeme → Bool
  | .opening | .blanks _ => true
  | .closing | .quoted _ | .letters _ => false

/-- Lexemes that can end an operand. -/
def closes : Lexeme → Bool
  | .closing | .quoted _ | .letters _ => true
  | .opening | .blanks _ => false

private theorem head_not_blank {lexeme : Lexeme} (formed : lexeme.WellFormed)
    (solid : ∀ text, lexeme ≠ .blanks text) :
    ∀ ch ∈ lexeme.text.head?, Alphabet.isBlank ch = false := by
  intro ch begins
  cases lexeme with
  | opening | closing | quoted inner =>
    cases begins
    decide
  | letters text => exact Alphabet.isBlank_of_isWord (formed.2 ch (List.mem_of_head? begins))
  | blanks text => exact absurd rfl (solid text)

theorem admits_of_opens {last lexeme : Lexeme} (opened : last.opens = true)
    (formed : lexeme.WellFormed) (solid : ∀ text, lexeme ≠ .blanks text) :
    last.Admits lexeme := by
  intro ch begins
  have head := head_not_blank formed solid ch begins
  cases last with
  | opening | blanks text => simp [refuses, continues, head]
  | closing | quoted inner | letters text => cases opened

theorem admits_closing {last : Lexeme} (closed : last.closes = true) : last.Admits .closing := by
  intro ch begins
  cases begins
  cases last with
  | closing | quoted inner | letters text => exact ⟨by rfl, by rfl⟩
  | opening | blanks text => cases closed

theorem admits_blanks {last : Lexeme} {text : List Char} (closed : last.closes = true)
    (formed : WellFormed (.blanks text)) : last.Admits (.blanks text) := by
  intro ch begins
  have blank := formed.2 ch (List.mem_of_head? begins)
  cases last with
  | closing | quoted inner => exact ⟨rfl, rfl⟩
  | letters own =>
    have notOpening := Alphabet.ne_of_isBlank blank (by decide : Alphabet.isBlank '(' = false)
    have notQuote := Alphabet.ne_of_isBlank blank (by decide : Alphabet.isBlank '"' = false)
    exact ⟨by simp [refuses, notOpening, notQuote], Alphabet.isWord_of_isBlank blank⟩
  | opening | blanks own => cases closed

/-- Blanks stand only where an operand ended. -/
theorem closes_of_admits_blanks {last : Lexeme} {text : List Char}
    (formed : WellFormed (.blanks text)) (admitted : last.Admits (.blanks text)) :
    last.closes = true := by
  obtain ⟨ch, more, own⟩ := List.exists_cons_of_ne_nil formed.1
  have blank : Alphabet.isBlank ch = true := formed.2 ch (by simp [own])
  obtain ⟨allowed, apart⟩ := admitted ch (by simp [Lexeme.text, own])
  cases last with
  | closing | quoted inner | letters text => rfl
  | opening =>
    rw [refuses, blank] at allowed
    cases allowed
  | blanks others =>
    rw [continues, blank] at apart
    cases apart

/-- The tokens that lexemes give, wherever they stand. -/
def Gives (context : Context) (lexemes : List Lexeme) (tokens : List Token) : Prop :=
  ∀ before, (classify context before lexemes).map Cut.token = tokens

section Gives

variable {context : Context} {rest : List Lexeme} {tail : List Token}

/-- A lexeme that is a token by itself. -/
theorem gives_solid {lexeme : Lexeme} {kind : Kind}
    (judged : ∀ before, context.judge before lexeme (endLetters rest) =
      (context.release ++ [⟨kind, before, lexeme.text⟩], .plain))
    (further : Gives .plain rest tail) :
    Gives context (lexeme :: rest)
      (context.release.map Cut.token ++ ⟨kind, .ofList lexeme.text⟩ :: tail) := by
  intro before
  have later := further (before ++ lexeme.text)
  simp [classify, judged, later, Cut.token]

theorem gives_keyword (keyword : Keyword) (usable : keyword = .not ∨ context.isPending = true)
    (stops : endLetters rest = true) (further : Gives .operator rest tail) :
    Gives context (.letters keyword.letters :: rest)
      ((if keyword = .not then context.release.map Cut.token else []) ++
        ⟨keyword.kind, keyword.text⟩ :: tail) := by
  intro before
  have spelled := Context.operator?_eq_some_iff.mpr ⟨rfl, usable⟩
  have later := further (before ++ keyword.letters)
  rw [classify, stops, Context.judge_operator before spelled]
  by_cases negation : keyword = .not <;>
    simp [negation, Lexeme.text, Cut.token, Keyword.text] at later ⊢ <;> exact later

theorem gives_pending {text : List Char}
    (further : ∀ before, Gives (.pending before text) rest tail) :
    Gives .plain (.blanks text :: rest) tail := by
  intro before
  exact further before (before ++ text)

theorem gives_spaced {text : List Char} (further : Gives .plain rest tail) :
    Gives .operator (.blanks text :: rest) tail := by
  intro before
  exact further (before ++ text)

/-- A written AND or OR takes the blanks on both sides of it. -/
theorem gives_connective {keyword : Keyword} (connective : keyword ≠ .not)
    {left right : List Char} (further : Gives .plain rest tail) :
    Gives .plain (.blanks left :: .letters keyword.letters :: .blanks right :: rest)
      (⟨keyword.kind, keyword.text⟩ :: tail) := by
  apply gives_pending
  intro before
  have spaced : Gives .operator (.blanks right :: rest) tail := gives_spaced further
  have written := @gives_keyword (.pending before left) _ _ keyword (.inr rfl) rfl spaced
  rw [if_neg connective, List.nil_append] at written
  exact written

end Gives

end SearchLex.Lexeme

namespace SearchLex.Grammar

/-- Lexemes that can stand wherever an operand is expected and always give the same tokens,
after the AND that the blanks before them may stand for. -/
structure Constituent (lexemes : List Lexeme) (terminals : List Token) : Prop where
  chained : ∀ {previous : Option Lexeme} {following : List Lexeme},
    (∀ last ∈ previous, last.opens = true) →
    (∀ last : Lexeme, last.closes = true → Lexeme.Chained (some last) following) →
    Lexeme.Chained previous (lexemes ++ following)
  gives : ∀ {following : List Lexeme} {tail : List Token}, Lexeme.Gives .plain following tail →
    ∀ context : Context, Lexeme.Gives context (lexemes ++ following)
      (context.release.map Cut.token ++ (terminals ++ tail))

namespace Operand

def lexeme : Operand → Lexeme
  | .word own => .letters own.text
  | .phrase own => .quoted own.inner

theorem text_lexeme (operand : Operand) : operand.lexeme.text = operand.chars := by
  cases operand <;> rfl

theorem wellFormed_lexeme (operand : Operand) : operand.lexeme.WellFormed := by
  cases operand with
  | word own => exact ⟨own.nonempty, own.word⟩
  | phrase own => exact own.quoted

theorem constituent (operand : Operand) : Constituent [operand.lexeme] [operand.terminal] where
  chained := by
    intro previous following opened further
    have solid : ∀ text, operand.lexeme ≠ .blanks text := by
      cases operand <;> simp [lexeme]
    have closed : operand.lexeme.closes = true := by
      cases operand <;> rfl
    refine ⟨operand.wellFormed_lexeme, ?_, further _ closed⟩
    intro last member
    exact Lexeme.admits_of_opens (opened last member) operand.wellFormed_lexeme solid
  gives := by
    intro following tail further context
    cases operand with
    | word own =>
      have plain : context.operator? own.text = none := by
        apply Option.eq_none_iff_forall_ne_some.mpr
        intro keyword spelled
        exact own.plain keyword (Context.operator?_eq_some_iff.mp spelled).1
      exact Lexeme.gives_solid (fun before => Context.judge_word before fun _ => plain) further
    | phrase own => exact Lexeme.gives_solid (fun _ => rfl) further

end Operand

namespace Blanks

variable {following : List Lexeme}

theorem wellFormed (blanks : Blanks) : Lexeme.WellFormed (.blanks blanks.text) :=
  ⟨blanks.nonempty, blanks.blank⟩

/-- Blanks can follow an operand. -/
theorem chained (blanks : Blanks) {last : Lexeme} (closed : last.closes = true)
    (further : Lexeme.Chained (some (.blanks blanks.text)) following) :
    Lexeme.Chained (some last) (.blanks blanks.text :: following) := by
  refine ⟨blanks.wellFormed, ?_, further⟩
  rintro _ ⟨⟩
  exact Lexeme.admits_blanks closed blanks.wellFormed

/-- A keyword and blanks can stand where an operand is expected. -/
theorem chained_keyword (blanks : Blanks) (keyword : Keyword) {previous : Option Lexeme}
    (opened : ∀ last ∈ previous, last.opens = true)
    (further : Lexeme.Chained (some (.blanks blanks.text)) following) :
    Lexeme.Chained previous (.letters keyword.letters :: .blanks blanks.text :: following) := by
  have formed : Lexeme.WellFormed (.letters keyword.letters) := by
    cases keyword <;> exact ⟨by simp [Keyword.letters], List.all_eq_true.mp rfl⟩
  refine ⟨formed, ?_, blanks.chained rfl further⟩
  intro last member
  exact Lexeme.admits_of_opens (opened last member) formed (by simp)

end Blanks

namespace Link

def lexemes : Link → List Lexeme
  | .or left right => [.blanks left.text, .letters Keyword.or.letters, .blanks right.text]
  | .and left right => [.blanks left.text, .letters Keyword.and.letters, .blanks right.text]
  | .implicit blanks => [.blanks blanks.text]

theorem join_lexemes (link : Link) : Lexeme.join link.lexemes = link.chars := by
  cases link <;> simp [lexemes, chars, Lexeme.text, Keyword.letters]

/-- A link can stand between an operand and lexemes that follow blanks. -/
theorem chained (link : Link) {last : Lexeme} {following : List Lexeme}
    (closed : last.closes = true)
    (further : ∀ text, Lexeme.Chained (some (.blanks text)) following) :
    Lexeme.Chained (some last) (link.lexemes ++ following) := by
  cases link with
  | or left right =>
    exact left.chained closed (right.chained_keyword .or (by simp [Lexeme.opens]) (further _))
  | and left right =>
    exact left.chained closed (right.chained_keyword .and (by simp [Lexeme.opens]) (further _))
  | implicit blanks => exact blanks.chained closed (further _)

/-- A link gives its terminals. Blanks alone stay pending until the lexemes after them
release the AND. -/
theorem gives (link : Link) {following : List Lexeme} {tail : List Token}
    (further : ∀ context : Context,
      Lexeme.Gives context following (context.release.map Cut.token ++ tail)) :
    Lexeme.Gives .plain (link.lexemes ++ following) (link.terminals ++ tail) := by
  cases link with
  | or left right => exact @Lexeme.gives_connective _ _ .or (by decide) _ _ (further .plain)
  | and left right => exact @Lexeme.gives_connective _ _ .and (by decide) _ _ (further .plain)
  | implicit blanks =>
    apply Lexeme.gives_pending
    intro before
    exact further (.pending before blanks.text)

end Link

namespace Constituent

variable {lexemes others : List Lexeme} {terminals more : List Token}

theorem negate (constituent : Constituent lexemes terminals) (blanks : Blanks) :
    Constituent (.letters Keyword.not.letters :: .blanks blanks.text :: lexemes)
      (⟨.not, "NOT"⟩ :: terminals) where
  chained := by
    intro previous following opened further
    apply blanks.chained_keyword .not opened
    exact constituent.chained (by simp [Lexeme.opens]) further
  gives := by
    intro following tail further context
    apply Lexeme.gives_keyword .not (.inl rfl) rfl
    exact Lexeme.gives_spaced (constituent.gives further .plain)

theorem group (constituent : Constituent lexemes terminals) :
    Constituent (.opening :: lexemes ++ [.closing])
      (⟨.opening, "("⟩ :: terminals ++ [⟨.closing, ")"⟩]) where
  chained := by
    intro previous following opened further
    have closed : ∀ last : Lexeme, last.closes = true →
        Lexeme.Chained (some last) (.closing :: following) := by
      intro last ends
      refine ⟨trivial, ?_, further .closing rfl⟩
      rintro _ ⟨⟩
      exact Lexeme.admits_closing ends
    have inner : Lexeme.Chained (some .opening) (lexemes ++ .closing :: following) :=
      constituent.chained (by simp [Lexeme.opens]) closed
    rw [List.cons_append, List.cons_append, List.append_assoc]
    refine ⟨trivial, ?_, inner⟩
    intro last member
    exact Lexeme.admits_of_opens (opened last member) trivial (by simp)
  gives := by
    intro following tail further context
    have closing := @Lexeme.gives_solid .plain _ _ .closing .closing (fun _ => rfl) further
    have inner := constituent.gives closing .plain
    have whole := @Lexeme.gives_solid context _ _ .opening .opening (fun _ => rfl) inner
    simpa [Lexeme.text, Context.release] using whole

theorem link (first : Constituent lexemes terminals) (link : Link)
    (second : Constituent others more) :
    Constituent (lexemes ++ link.lexemes ++ others) (terminals ++ link.terminals ++ more) where
  chained := by
    intro previous following opened further
    rw [List.append_assoc, List.append_assoc]
    apply first.chained opened
    intro last closed
    apply link.chained closed
    intro text
    exact second.chained (by simp [Lexeme.opens]) further
  gives := by
    intro following tail further context
    have joined := first.gives (link.gives fun other => second.gives further other) context
    simpa [List.append_assoc] using joined

end Constituent

namespace Term

def lexemes (term : Term) : List Lexeme :=
  match term.negation with
  | none => [term.operand.lexeme]
  | some blanks => [.letters Keyword.not.letters, .blanks blanks.text, term.operand.lexeme]

theorem join_lexemes (term : Term) : Lexeme.join term.lexemes = term.chars := by
  have operand := term.operand.text_lexeme
  cases negation : term.negation with
  | none => simp [lexemes, chars, negation, operand]
  | some blanks =>
    have spelled : Lexeme.text (.letters Keyword.not.letters) = "NOT".toList := rfl
    have spaced : Lexeme.text (.blanks blanks.text) = blanks.text := rfl
    simp [lexemes, chars, negation, operand, spelled, spaced]

theorem constituent (term : Term) : Constituent term.lexemes term.terminals := by
  rw [lexemes, terminals]
  cases term.negation with
  | none => exact term.operand.constituent
  | some blanks => exact term.operand.constituent.negate blanks

end Term

namespace Expression

def lexemes : Expression → List Lexeme
  | .term head => head.lexemes
  | .group inner => .opening :: inner.lexemes ++ [.closing]
  | .termWith head link rest => head.lexemes ++ link.lexemes ++ rest.lexemes
  | .groupWith inner link rest =>
    .opening :: inner.lexemes ++ [.closing] ++ link.lexemes ++ rest.lexemes

theorem join_lexemes (expression : Expression) :
    Lexeme.join expression.lexemes = expression.chars := by
  induction expression with
  | term head => exact head.join_lexemes
  | group inner ih => simp [lexemes, chars, Lexeme.join_append, ih, Lexeme.text]
  | termWith head link rest ih =>
    simp [lexemes, chars, Lexeme.join_append, ih, head.join_lexemes, link.join_lexemes]
  | groupWith inner link rest inside further =>
    simp [lexemes, chars, Lexeme.join_append, inside, further, link.join_lexemes, Lexeme.text]

/-- The induction follows the grammar: each of its rules keeps constituents. -/
theorem constituent (expression : Expression) :
    Constituent expression.lexemes expression.terminals := by
  induction expression with
  | term head => exact head.constituent
  | group inner ih => exact ih.group
  | termWith head link rest ih => exact head.constituent.link link ih
  | groupWith inner link rest inside further => exact inside.group.link link further

/-- The two passes find the terminals in the text of an expression. -/
theorem lex_print (expression : Expression) :
    ∃ cuts, Reference.lex expression.print = .ok cuts ∧
      cuts.map Cut.token = expression.terminals := by
  have whole := expression.constituent
  have chained := @whole.chained none [] (by simp) (fun _ _ => trivial)
  have gives := whole.gives (fun _ => rfl : Lexeme.Gives .plain [] []) .plain []
  simp only [List.append_nil] at chained gives
  refine ⟨_, Reference.lex_eq_ok_iff.mpr ⟨expression.lexemes, ?_, chained, rfl⟩, gives⟩
  rw [print, String.toList_ofList, join_lexemes]

end Expression

end SearchLex.Grammar

/-- Every expression of the grammar is accepted, and its tokens are its terminals in order. -/
theorem SearchLex.Tokenizer.tokenize_print {preferences : SearchPreferences}
    (mode : preferences.fallback = .feedThrough) (unlimited : preferences.enforceLimits = false)
    (expression : Grammar.Expression) (bound : expression.print.length + 2 ≤ UInt32.size)
    (session : Log.Session) :
    ∃ stream later, tokenize preferences expression.print session = .ok (.ok stream, later) ∧
      stream.tokens.map (·.value) = expression.terminals := by
  obtain ⟨later, answered⟩ := tokenize_unlimited unlimited bound session
  obtain ⟨cuts, found, terminals⟩ := expression.lex_print
  rw [mode, answer_feedThrough, found] at answered
  refine ⟨_, later, answered, ?_⟩
  rw [← terminals]
  simp [Stream.ofTokens, Cut.placed]

theorem SearchLex.Tokenizer.tokenize_print_nested :
    ∃ expression : Grammar.Expression,
      expression.print = "(ANT OR NOT \"b c)\")\tNOTE" ∧
      expression.terminals = [⟨.opening, "("⟩, ⟨.word, "ANT"⟩, ⟨.or, "OR"⟩, ⟨.not, "NOT"⟩,
        ⟨.phrase, "\"b c)\""⟩, ⟨.closing, ")"⟩, ⟨.and, "\t"⟩, ⟨.word, "NOTE"⟩] ∧
      ∃ stream later, tokenize ⟨.feedThrough, false, true, false⟩ expression.print {} =
          .ok (.ok stream, later) ∧
        stream.tokens.map (·.value) = expression.terminals := by
  let space : Grammar.Blanks := ⟨[' '], by simp, List.all_eq_true.mp rfl⟩
  let tab : Grammar.Blanks := ⟨['\t'], by simp, List.all_eq_true.mp rfl⟩
  let ant : Grammar.Word := ⟨['A', 'N', 'T'], by simp, List.all_eq_true.mp rfl,
    by intro keyword; cases keyword <;> simp [Keyword.letters]⟩
  let note : Grammar.Word := ⟨['N', 'O', 'T', 'E'], by simp, List.all_eq_true.mp rfl,
    by intro keyword; cases keyword <;> simp [Keyword.letters]⟩
  let phrase : Grammar.Phrase := ⟨['b', ' ', 'c', ')'], by simp, List.all_eq_true.mp rfl⟩
  refine ⟨.groupWith (.termWith ⟨none, .word ant⟩ (.or space space)
    (.term ⟨some space, .phrase phrase⟩)) (.implicit tab) (.term ⟨none, .word note⟩), rfl, rfl, ?_⟩
  exact tokenize_print rfl rfl _ (by decide) {}
