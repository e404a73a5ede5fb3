import Mathlib.Data.List.Forall2
import SearchLex.Proofs.Coverage
import SearchLex.Proofs.Grammar

/-! Queries that differ only in their blanks outside the phrases. Which blanks stand between
two parts of a query, and how many, matters for nothing but the AND they may stand for. -/

namespace SearchLex

open Grammar (Blanks)

/-- Two texts, after `before` and after `after`, that differ only in the blanks outside the
phrases: each longest run of them in the first stands against some blanks in the second. The
last list has these runs, each with what replaces it. -/
inductive Respaced : List Char → List Char → List Char → List Char → List (Extent × Extent) → Prop
    where
  | done (before after : List Char) : Respaced before after [] [] []
  | solid {before after chars others : List Char} {replaced : List (Extent × Extent)} (ch : Char)
      (outside : Alphabet.isBlank ch = false) (unquoted : ch ≠ '"')
      (further : Respaced (before ++ [ch]) (after ++ [ch]) chars others replaced) :
      Respaced before after (ch :: chars) (ch :: others) replaced
  | phrase {before after chars others : List Char} {replaced : List (Extent × Extent)}
      (inner : List Char) (unquoted : '"' ∉ inner)
      (further : Respaced (before ++ ('"' :: inner ++ ['"'])) (after ++ ('"' :: inner ++ ['"']))
        chars others replaced) :
      Respaced before after ('"' :: inner ++ ['"'] ++ chars) ('"' :: inner ++ ['"'] ++ others)
        replaced
  | blanks {before after chars others : List Char} {replaced : List (Extent × Extent)}
      (run other : Blanks) (longest : ∀ ch ∈ chars.head?, Alphabet.isBlank ch = false)
      (further : Respaced (before ++ run.text) (after ++ other.text) chars others replaced) :
      Respaced before after (run.text ++ chars) (other.text ++ others)
        ((⟨before, run.text⟩, ⟨after, other.text⟩) :: replaced)

/-- A text begins with one run of characters of a sort and no other that cannot be made
longer. -/
private theorem longest_unique {keep : Char → Bool} {left right tail rest : List Char}
    (same : left ++ tail = right ++ rest) (kept : ∀ ch ∈ left, keep ch)
    (stops : ∀ ch ∈ tail.head?, keep ch = false) (alike : ∀ ch ∈ right, keep ch)
    (ends : ∀ ch ∈ rest.head?, keep ch = false) : left = right ∧ tail = rest := by
  have first := Lexeme.takeWhile_append left tail kept stops
  have second := Lexeme.takeWhile_append right rest alike ends
  rw [same, second.1, second.2] at first
  exact ⟨first.1.symm, first.2.symm⟩

namespace Respaced

variable {before after chars others : List Char} {replaced : List (Extent × Extent)}

/-- The first character of a text tells what the text begins with. -/
theorem of_cons {ch : Char} (respaced : Respaced before after (ch :: chars) others replaced) :
    (Alphabet.isBlank ch = false ∧ ch ≠ '"' ∧ ∃ rest, others = ch :: rest ∧
      Respaced (before ++ [ch]) (after ++ [ch]) chars rest replaced) ∨
    (ch = '"' ∧ ∃ inner tail rest, '"' ∉ inner ∧ chars = inner ++ '"' :: tail ∧
      others = '"' :: inner ++ ['"'] ++ rest ∧
      Respaced (before ++ ('"' :: inner ++ ['"'])) (after ++ ('"' :: inner ++ ['"'])) tail rest
        replaced) ∨
    (Alphabet.isBlank ch = true ∧ ∃ (run other : Blanks) (tail rest : List Char)
      (more : List (Extent × Extent)), ch :: chars = run.text ++ tail ∧
      (∀ next ∈ tail.head?, Alphabet.isBlank next = false) ∧ others = other.text ++ rest ∧
      replaced = (⟨before, run.text⟩, ⟨after, other.text⟩) :: more ∧
      Respaced (before ++ run.text) (after ++ other.text) tail rest more) := by
  generalize whole : ch :: chars = text at respaced
  cases respaced with
  | done => cases whole
  | solid _ outside unquoted further =>
    cases whole
    exact .inl ⟨outside, unquoted, _, rfl, further⟩
  | phrase inner unquoted further =>
    simp only [List.cons_append, List.append_assoc, List.nil_append, List.cons.injEq] at whole
    exact .inr (.inl ⟨whole.1, inner, _, _, unquoted, whole.2, rfl, further⟩)
  | blanks run other longest further =>
    obtain ⟨head, tail, own⟩ := List.exists_cons_of_ne_nil run.nonempty
    have same : ch = head := by
      rw [own] at whole
      exact (List.cons.inj whole).1
    have blank : Alphabet.isBlank ch = true := run.blank ch (by simp [own, same])
    exact .inr (.inr ⟨blank, run, other, _, _, _, rfl, longest, rfl, rfl, further⟩)

/-- What is neither blank nor a quotation mark stands in both texts. -/
theorem of_solid {run : List Char} (solid : ∀ ch ∈ run, Alphabet.isBlank ch = false ∧ ch ≠ '"')
    (respaced : Respaced before after (run ++ chars) others replaced) :
    ∃ rest, others = run ++ rest ∧ Respaced (before ++ run) (after ++ run) chars rest replaced := by
  induction run generalizing before after others with
  | nil => exact ⟨others, rfl, by simpa using respaced⟩
  | cons ch more ih =>
    obtain ⟨outside, unquoted⟩ := solid ch (by simp)
    rcases respaced.of_cons with ⟨_, _, rest, rfl, further⟩ | ⟨quote, _⟩ | ⟨blank, _⟩
    · obtain ⟨rest, rfl, later⟩ := ih (fun other member => solid other (by simp [member])) further
      exact ⟨rest, rfl, by simpa using later⟩
    · exact absurd quote unquoted
    · rw [outside] at blank
      cases blank

/-- A phrase stands in both texts. -/
theorem of_phrase {inner : List Char} (unquoted : '"' ∉ inner)
    (respaced : Respaced before after ('"' :: inner ++ ['"'] ++ chars) others replaced) :
    ∃ rest, others = '"' :: inner ++ ['"'] ++ rest ∧
      Respaced (before ++ ('"' :: inner ++ ['"'])) (after ++ ('"' :: inner ++ ['"'])) chars rest
        replaced := by
  rcases respaced.of_cons with ⟨_, other, _⟩ |
    ⟨_, found, tail, rest, closed, whole, rfl, further⟩ | ⟨blank, _⟩
  · exact absurd rfl other
  · have same : inner ++ '"' :: chars = found ++ '"' :: tail := by simpa using whole
    have apart {run : List Char} (free : '"' ∉ run) : ∀ ch ∈ run, (ch != '"') = true := by
      intro ch member
      rw [bne_iff_ne]
      exact ne_of_mem_of_not_mem member free
    obtain ⟨rfl, rest⟩ := longest_unique same (apart unquoted) (by simp) (apart closed) (by simp)
    cases rest
    exact ⟨_, rfl, further⟩
  · cases blank

/-- A longest run of blanks stands against other blanks. -/
theorem of_blanks {run : Blanks} (longest : ∀ ch ∈ chars.head?, Alphabet.isBlank ch = false)
    (respaced : Respaced before after (run.text ++ chars) others replaced) :
    ∃ (other : Blanks) (rest : List Char) (more : List (Extent × Extent)),
      others = other.text ++ rest ∧
      replaced = (⟨before, run.text⟩, ⟨after, other.text⟩) :: more ∧
      Respaced (before ++ run.text) (after ++ other.text) chars rest more := by
  obtain ⟨ch, letters, own⟩ := List.exists_cons_of_ne_nil run.nonempty
  have blank : Alphabet.isBlank ch = true := run.blank ch (by simp [own])
  have begins : run.text ++ chars = ch :: (letters ++ chars) := by rw [own, List.cons_append]
  rw [begins] at respaced
  rcases respaced.of_cons with ⟨outside, _⟩ | ⟨rfl, _⟩ |
    ⟨_, found, other, tail, rest, more, whole, ends, rfl, rfl, further⟩
  · rw [blank] at outside
    cases outside
  · cases blank
  · rw [← begins] at whole
    obtain ⟨same, rfl⟩ := longest_unique whole run.blank longest found.blank ends
    rw [← same] at further ⊢
    exact ⟨other, rest, more, rfl, rfl, further⟩

end Respaced

namespace Lexeme

/-- Lexemes that differ only in the text of the blanks among them. -/
inductive Respaced : List Char → List Char → List Lexeme → List Lexeme →
    List (Extent × Extent) → Prop where
  | done (before after : List Char) : Respaced before after [] [] []
  | solid {before after : List Char} {rest others : List Lexeme}
      {replaced : List (Extent × Extent)} {lexeme : Lexeme}
      (solid : ∀ text, lexeme ≠ .blanks text)
      (further : Respaced (before ++ lexeme.text) (after ++ lexeme.text) rest others replaced) :
      Respaced before after (lexeme :: rest) (lexeme :: others) replaced
  | blanks {before after : List Char} {rest others : List Lexeme}
      {replaced : List (Extent × Extent)} (run other : Blanks)
      (further : Respaced (before ++ run.text) (after ++ other.text) rest others replaced) :
      Respaced before after (.blanks run.text :: rest) (.blanks other.text :: others)
        ((⟨before, run.text⟩, ⟨after, other.text⟩) :: replaced)

/-- The lexemes of a text are found again where only its blanks are others. -/
theorem respaced_of_join {previous : Option Lexeme} {lexemes : List Lexeme}
    {before after chars : List Char} {replaced : List (Extent × Extent)}
    (chained : Chained previous lexemes)
    (respaced : SearchLex.Respaced before after (join lexemes) chars replaced) :
    ∃ others, join others = chars ∧ Respaced before after lexemes others replaced := by
  induction lexemes generalizing previous before after chars replaced with
  | nil =>
    generalize empty : join [] = text at respaced
    cases respaced with
    | done => exact ⟨[], rfl, .done _ _⟩
    | solid | phrase => cases empty
    | blanks run => exact absurd (List.append_eq_nil_iff.mp empty.symm).1 run.nonempty
  | cons lexeme rest ih =>
    obtain ⟨formed, _, further⟩ := chained
    rw [join_cons] at respaced
    have retire (solid : ∀ text, lexeme ≠ .blanks text) {tail : List Char}
        (respaced : SearchLex.Respaced (before ++ lexeme.text) (after ++ lexeme.text) (join rest)
          tail replaced) :
        ∃ others, join others = lexeme.text ++ tail ∧
          Respaced before after (lexeme :: rest) others replaced := by
      obtain ⟨others, rfl, later⟩ := ih further respaced
      exact ⟨lexeme :: others, rfl, .solid solid later⟩
    cases lexeme with
    | opening | closing =>
      obtain ⟨tail, rfl, later⟩ := respaced.of_solid (by simp [text]; decide)
      exact retire (by simp) later
    | letters own =>
      have solid : ∀ ch ∈ own, Alphabet.isBlank ch = false ∧ ch ≠ '"' := by
        intro ch member
        have letter := formed.2 ch member
        exact ⟨Alphabet.isBlank_of_isWord letter, Alphabet.ne_of_isWord letter (by decide)⟩
      obtain ⟨tail, rfl, later⟩ := respaced.of_solid solid
      exact retire (by simp) later
    | quoted inner =>
      have unquoted : '"' ∉ inner := by
        intro member
        cases formed '"' member
      obtain ⟨tail, rfl, later⟩ := respaced.of_phrase unquoted
      exact retire (by simp) later
    | blanks own =>
      have longest := stops_join further
      obtain ⟨other, tail, more, rfl, rfl, later⟩ :=
        @Respaced.of_blanks _ _ _ _ _ ⟨own, formed.1, formed.2⟩ longest respaced
      obtain ⟨others, rfl, moved⟩ := ih further later
      exact ⟨.blanks other.text :: others, rfl, .blanks ⟨own, formed.1, formed.2⟩ other moved⟩

namespace Respaced

variable {before after : List Char} {lexemes others : List Lexeme}
  {replaced : List (Extent × Extent)}

/-- Where one lexeme may stand after another, so it may when the blanks are others. -/
theorem chained {previous other : Option Lexeme}
    (respaced : Respaced before after lexemes others replaced) (chained : Chained previous lexemes)
    (alike : ∀ last ∈ other, ∃ own ∈ previous, ∀ lexeme, own.Admits lexeme → last.Admits lexeme) :
    Chained other others := by
  induction respaced generalizing previous other with
  | done => trivial
  | solid _ _ ih =>
    obtain ⟨formed, admitted, later⟩ := chained
    refine ⟨formed, ?_, ih later ?_⟩
    · intro last member
      obtain ⟨own, held, same⟩ := alike last member
      exact same _ (admitted own held)
    · rintro _ ⟨⟩
      exact ⟨_, rfl, fun _ admitted => admitted⟩
  | blanks run blanks _ ih =>
    obtain ⟨formed, admitted, later⟩ := chained
    refine ⟨blanks.wellFormed, ?_, ih later ?_⟩
    · intro last member
      obtain ⟨own, held, same⟩ := alike last member
      have closed := closes_of_admits_blanks formed (admitted own held)
      exact same _ (admits_blanks closed blanks.wellFormed)
    · -- What may follow blanks does not depend on how many they are.
      rintro _ ⟨⟩
      exact ⟨_, rfl, fun _ admitted => admitted⟩

theorem endLetters_eq (respaced : Respaced before after lexemes others replaced) :
    endLetters others = endLetters lexemes := by
  cases respaced with
  | done | blanks => rfl
  | @solid _ _ _ _ _ lexeme => cases lexeme <;> rfl

end Respaced

end Lexeme

/-- A cut and the one in its place when the blanks are others: an AND that is itself blanks
has those that replace them, every other cut has the same text. -/
inductive Cut.Respaced (replaced : List (Extent × Extent)) : Cut → Cut → Prop where
  | same {kind : Kind} {before after text : List Char}
      (explicit : (Cut.token ⟨kind, before, text⟩).isImplicitAnd = false) :
      Respaced replaced ⟨kind, before, text⟩ ⟨kind, after, text⟩
  | implicit {run other : Extent} (member : (run, other) ∈ replaced)
      (blank : ∀ ch ∈ run.text, Alphabet.isBlank ch) :
      Respaced replaced ⟨.and, run.before, run.text⟩ ⟨.and, other.before, other.text⟩

namespace Context

/-- Contexts that differ only in the blanks that are pending. -/
inductive Respaced (replaced : List (Extent × Extent)) : Context → Context → Prop where
  | plain : Respaced replaced .plain .plain
  | operator : Respaced replaced .operator .operator
  | pending {run other : Extent} (member : (run, other) ∈ replaced)
      (blank : ∀ ch ∈ run.text, Alphabet.isBlank ch) :
      Respaced replaced (.pending run.before run.text) (.pending other.before other.text)

namespace Respaced

variable {replaced : List (Extent × Extent)} {context other : Context}

theorem operator?_eq (respaced : Respaced replaced context other) (letters : List Char) :
    other.operator? letters = context.operator? letters := by
  cases respaced <;> rfl

theorem release (respaced : Respaced replaced context other) :
    List.Forall₂ (Cut.Respaced replaced) context.release other.release := by
  cases respaced with
  | plain | operator => exact .nil
  | pending member blank => exact .cons (.implicit member blank) .nil

/-- A cut that is no implicit AND stands after the same AND, if one was pending. -/
theorem release_same {kind : Kind} {before after text : List Char}
    (respaced : Respaced replaced context other)
    (explicit : (Cut.token ⟨kind, before, text⟩).isImplicitAnd = false) :
    List.Forall₂ (Cut.Respaced replaced) (context.release ++ [⟨kind, before, text⟩])
      (other.release ++ [⟨kind, after, text⟩]) :=
  List.rel_append respaced.release (.cons (.same explicit) .nil)

/-- A lexeme that is not blanks is understood alike. -/
theorem judge_solid {lexeme : Lexeme} (respaced : Respaced replaced context other)
    (solid : ∀ text, lexeme ≠ .blanks text) (before after : List Char) (ends : Bool) :
    List.Forall₂ (Cut.Respaced replaced) (context.judge before lexeme ends).1
        (other.judge after lexeme ends).1 ∧
      Respaced replaced (context.judge before lexeme ends).2 (other.judge after lexeme ends).2 := by
  cases lexeme with
  | opening | closing | quoted inner => exact ⟨respaced.release_same rfl, .plain⟩
  | letters text =>
    have same := respaced.operator?_eq text
    rcases context.operator_or_word text ends with ⟨rfl, keyword, spelled⟩ | plain
    · obtain ⟨rfl, _⟩ := operator?_eq_some_iff.mp spelled
      rw [judge_operator before spelled, judge_operator after (same.trans spelled)]
      refine ⟨?_, .operator⟩
      have explicit :
          (Cut.token ⟨keyword.kind, before, keyword.letters⟩).isImplicitAnd = false := by
        cases keyword <;> rfl
      split
      · exact respaced.release_same explicit
      · exact .cons (.same explicit) .nil
    · rw [judge_word before plain, judge_word after fun stops => same.trans (plain stops)]
      exact ⟨respaced.release_same rfl, .plain⟩
  | blanks text => exact absurd rfl (solid text)

/-- Blanks that are pending afterwards are so in both texts. -/
theorem judge_blanks {before after : List Char} {run blanks : Blanks}
    (respaced : Respaced replaced context other)
    (member : (⟨before, run.text⟩, ⟨after, blanks.text⟩) ∈ replaced) (ends : Bool) :
    (context.judge before (.blanks run.text) ends).1 = [] ∧
      (other.judge after (.blanks blanks.text) ends).1 = [] ∧
      Respaced replaced (context.judge before (.blanks run.text) ends).2
        (other.judge after (.blanks blanks.text) ends).2 := by
  cases respaced with
  | plain => exact ⟨rfl, rfl, .pending member run.blank⟩
  | operator => exact ⟨rfl, rfl, .plain⟩
  | pending => exact ⟨rfl, rfl, .pending member run.blank⟩

end Respaced

end Context

/-- The tokens of lexemes differ only in those that are blanks. -/
theorem Lexeme.Respaced.classify {before after : List Char} {lexemes others : List Lexeme}
    {replaced all : List (Extent × Extent)} {context other : Context}
    (respaced : Lexeme.Respaced before after lexemes others replaced) (within : replaced ⊆ all)
    (contexts : Context.Respaced all context other) :
    List.Forall₂ (Cut.Respaced all) (Lexeme.classify context before lexemes)
      (Lexeme.classify other after others) := by
  induction respaced generalizing context other with
  | done => exact .nil
  | solid solid further ih =>
    obtain ⟨cuts, next⟩ := contexts.judge_solid solid _ _ _
    rw [Lexeme.classify, Lexeme.classify, further.endLetters_eq]
    exact List.rel_append cuts (ih within next)
  | @blanks _ _ rest _ _ run blanks further ih =>
    obtain ⟨none, nothing, next⟩ :=
      contexts.judge_blanks (within List.mem_cons_self) (Lexeme.endLetters rest)
    rw [Lexeme.classify, Lexeme.classify, further.endLetters_eq]
    simp only [none, nothing, List.nil_append]
    exact ih (fun _ member => within (List.mem_cons_of_mem _ member)) next

/-- Where only the blanks are others, the two passes find the same cuts but for these. -/
theorem Reference.lex_respaced {query other : String} {replaced : List (Extent × Extent)}
    {cuts : List Cut} (respaced : Respaced [] [] query.toList other.toList replaced)
    (found : lex query = .ok cuts) :
    ∃ others, lex other = .ok others ∧ List.Forall₂ (Cut.Respaced replaced) cuts others := by
  obtain ⟨lexemes, joined, chained, rfl⟩ := lex_eq_ok_iff.mp found
  rw [← joined] at respaced
  obtain ⟨others, spelled, alike⟩ := Lexeme.respaced_of_join chained respaced
  refine ⟨_, lex_eq_ok_iff.mpr ⟨others, spelled, ?_, rfl⟩, ?_⟩
  · exact alike.chained chained (by simp)
  · exact alike.classify (List.Subset.refl _) .plain

/-- A token that is the text of an extent and lies there. -/
structure Extent.Bears (extent : Extent) (token : PlacedToken) : Prop where
  literal : token.value.literal = String.ofList extent.text
  span : token.span = .ofPiece extent.before extent.text

/-- A token and the one in its place when the blanks are others. The kinds are the same; so
are the literals, but an implicit AND has the blanks that replace its own. -/
structure PlacedToken.Respaced (replaced : List (Extent × Extent)) (token other : PlacedToken) :
    Prop where
  kind : other.value.kind = token.value.kind
  literal : token.value.isImplicitAnd = false → other.value.literal = token.value.literal
  blanks : token.value.isImplicitAnd = true →
    ∃ pair ∈ replaced, pair.1.Bears token ∧ pair.2.Bears other

theorem Cut.Respaced.placed {replaced : List (Extent × Extent)} {cut other : Cut}
    (respaced : cut.Respaced replaced other) :
    cut.placed.Respaced replaced other.placed := by
  cases respaced with
  | same explicit =>
    refine ⟨rfl, fun _ => rfl, ?_⟩
    intro implicit
    cases explicit.symm.trans implicit
  | @implicit run other member blank =>
    have implicit := @Context.isImplicitAnd_of_blank run.before run.text blank
    refine ⟨rfl, ?_, ?_⟩
    · intro explicit
      cases explicit.symm.trans implicit
    · intro _
      exact ⟨(run, other), member, ⟨rfl, rfl⟩, ⟨rfl, rfl⟩⟩

namespace Tokenizer

/-- Blanks are as good as other blanks. A query that is accepted is accepted too with others
outside its phrases, and then the tokens have the same kinds and literals, except for an AND
that is itself blanks. -/
theorem tokenize_respaced {preferences : SearchPreferences} {query other : String}
    {session later : Log.Session} {stream : Stream} {replaced : List (Extent × Extent)}
    (mode : preferences.fallback = .feedThrough) (unlimited : preferences.enforceLimits = false)
    (bound : other.length + 2 ≤ UInt32.size)
    (respaced : Respaced [] [] query.toList other.toList replaced)
    (accepted : tokenize preferences query session = .ok (.ok stream, later))
    (fresh : Log.Session) :
    ∃ again log, tokenize preferences other fresh = .ok (.ok again, log) ∧
      List.Forall₂ (PlacedToken.Respaced replaced) stream.tokens again.tokens := by
  obtain ⟨cuts, found, tokens⟩ := lex_of_tokenize mode accepted
  obtain ⟨others, lexed, alike⟩ := Reference.lex_respaced respaced found
  obtain ⟨log, answered⟩ := tokenize_of_lex mode unlimited bound lexed fresh
  refine ⟨_, log, answered, ?_⟩
  rw [tokens, Stream.ofTokens, List.forall₂_map_left_iff, List.forall₂_map_right_iff]
  exact alike.imp fun _ _ pair => pair.placed

theorem tokenize_respaced_phrase :
    ∃ replaced stream again log,
      Respaced [] [] "a OR\t\"x y\" b\t".toList "a\tOR  \"x y\"\t b  ".toList replaced ∧
      replaced.map (·.2.text) = [['\t'], [' ', ' '], ['\t', ' '], [' ', ' ']] ∧
      tokenize ⟨.feedThrough, false, true, false⟩ "a OR\t\"x y\" b\t" {} = .ok (.ok stream, {}) ∧
      stream.tokens.map (·.value) = [⟨.word, "a"⟩, ⟨.or, "OR"⟩, ⟨.phrase, "\"x y\""⟩, ⟨.and, " "⟩,
        ⟨.word, "b"⟩] ∧
      tokenize ⟨.feedThrough, false, true, false⟩ "a\tOR  \"x y\"\t b  " {} =
        .ok (.ok again, log) ∧
      List.Forall₂ (PlacedToken.Respaced replaced) stream.tokens again.tokens := by
  let space : Blanks := ⟨[' '], by simp, List.all_eq_true.mp rfl⟩
  let spaces : Blanks := ⟨[' ', ' '], by simp, List.all_eq_true.mp rfl⟩
  let tab : Blanks := ⟨['\t'], by simp, List.all_eq_true.mp rfl⟩
  let both : Blanks := ⟨['\t', ' '], by simp, List.all_eq_true.mp rfl⟩
  have respaced : Respaced [] [] "a OR\t\"x y\" b\t".toList "a\tOR  \"x y\"\t b  ".toList
      [(⟨['a'], [' ']⟩, ⟨['a'], ['\t']⟩),
        (⟨"a OR".toList, ['\t']⟩, ⟨"a\tOR".toList, [' ', ' ']⟩),
        (⟨"a OR\t\"x y\"".toList, [' ']⟩, ⟨"a\tOR  \"x y\"".toList, ['\t', ' ']⟩),
        (⟨"a OR\t\"x y\" b".toList, ['\t']⟩, ⟨"a\tOR  \"x y\"\t b".toList, [' ', ' ']⟩)] := by
    refine .solid 'a' rfl (by decide) ?_
    refine .blanks space tab (by rintro _ ⟨⟩; rfl) ?_
    refine .solid 'O' rfl (by decide) (.solid 'R' rfl (by decide) ?_)
    refine .blanks tab spaces (by rintro _ ⟨⟩; rfl) ?_
    refine .phrase ['x', ' ', 'y'] (by decide) ?_
    refine .blanks space both (by rintro _ ⟨⟩; rfl) ?_
    refine .solid 'b' rfl (by decide) ?_
    exact .blanks tab spaces (by simp) (.done _ _)
  obtain ⟨again, log, answered, alike⟩ := @tokenize_respaced ⟨.feedThrough, false, true, false⟩ _ _
    {} {} _ _ rfl rfl (by decide) respaced rfl {}
  exact ⟨_, _, again, log, respaced, rfl, rfl, rfl, answered, alike⟩

end Tokenizer

end SearchLex
