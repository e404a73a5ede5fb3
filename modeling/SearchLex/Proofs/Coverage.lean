import SearchLex.Proofs.Refinement

/-! How the tokens of a query lie in its text. Between two tokens there is text only where
an operator was written, and that text is blank; everything else is under some span. -/

namespace SearchLex

/-- A piece of a query: the text before it and its own text. -/
structure Extent where
  before : List Char
  text : List Char
  deriving DecidableEq, Repr

namespace Extent

/-- Extents that lie in order along the text after `before`, with blanks between them. -/
inductive Along : List Char → List Extent → List Char → Prop where
  | done {before gap : List Char} (blank : ∀ ch ∈ gap, Alphabet.isBlank ch) : Along before [] gap
  | next {before gap text rest : List Char} {extents : List Extent}
      (blank : ∀ ch ∈ gap, Alphabet.isBlank ch) (nonempty : text ≠ [])
      (further : Along (before ++ gap ++ text) extents rest) :
      Along before (⟨before ++ gap, text⟩ :: extents) (gap ++ text ++ rest)

namespace Along

variable {before text : List Char} {extents : List Extent}

/-- An extent stands in the text where it says. -/
theorem of_mem (along : Along before extents text) {extent : Extent} (member : extent ∈ extents) :
    before <+: extent.before ∧ extent.text ≠ [] ∧
      extent.before ++ extent.text <+: before ++ text := by
  induction along with
  | done => cases member
  | @next before gap own rest extents blank nonempty further ih =>
    have whole : before ++ (gap ++ own ++ rest) = before ++ gap ++ own ++ rest := by simp
    rw [whole]
    rcases List.mem_cons.mp member with rfl | member
    · exact ⟨List.prefix_append .., nonempty, List.prefix_append ..⟩
    · obtain ⟨ordered, filled, within⟩ := ih member
      have ahead : before <+: before ++ gap ++ own := by simp [List.append_assoc]
      exact ⟨ahead.trans ordered, filled, within⟩

/-- Each extent ends before the next ones begin. -/
theorem pairwise (along : Along before extents text) :
    extents.Pairwise fun left right => left.before ++ left.text <+: right.before := by
  induction along with
  | done => exact .nil
  | next blank nonempty further ih =>
    exact .cons (fun later member => (further.of_mem member).1) ih

/-- A character of two texts is in the first or in the second. -/
private theorem split_append {first second left right : List Char} {ch : Char}
    (split : first ++ second = left ++ ch :: right) :
    (∃ more, first = left ++ ch :: more) ∨ ∃ more, left = first ++ more ∧
      second = more ++ ch :: right := by
  rcases List.append_eq_append_iff.mp split with later | ⟨inner, own, rest⟩
  · exact .inr later
  · cases inner with
    | nil => exact .inr ⟨[], by simpa using own.symm, by simpa using rest.symm⟩
    | cons other more =>
      cases rest
      exact .inl ⟨more, own⟩

/-- A character of the text is a blank or in an extent. -/
theorem blank_or_covered (along : Along before extents text) {left right : List Char}
    {ch : Char} (split : text = left ++ ch :: right) :
    Alphabet.isBlank ch = true ∨ ∃ extent ∈ extents, extent.before <+: before ++ left ∧
      before ++ left ++ [ch] <+: extent.before ++ extent.text := by
  induction along generalizing left with
  | done blank => exact .inl (blank ch (by simp [split]))
  | @next before gap own rest extents blank nonempty further ih =>
    rcases split_append split with ⟨more, covered⟩ | ⟨more, rfl, tail⟩
    · rcases split_append covered with ⟨others, inside⟩ | ⟨inner, rfl, inside⟩
      · exact .inl (blank ch (by simp [inside]))
      · exact .inr ⟨_, List.mem_cons_self, by simp, by simp [inside]⟩
    · rcases ih tail with own | ⟨extent, member, starts, stops⟩
      · exact .inl own
      · exact .inr ⟨extent, List.mem_cons_of_mem _ member, by simpa using starts,
          by simpa using stops⟩

end Along

end Extent

namespace Token

/-- An operator that was written as a keyword. -/
def isExplicitOperator (token : Token) : Bool := token.kind.isOperator && !token.isImplicitAnd

/-- A written AND or OR. -/
def isConnective (token : Token) : Bool := token.isExplicitOperator && token.kind != .not

end Token

namespace Cut

/-- Where the text of a cut stands. -/
def extent (cut : Cut) : Extent := ⟨cut.before, cut.text⟩

/-- Cuts that lie in order along the text after `before`, with blank gaps between them.
There is a gap before a cut if it is a written AND or OR, or if the one before it is a
written operator (`spaced`), and only then. -/
inductive Laid : List Char → Bool → List Cut → List Char → Prop where
  | done {before gap : List Char} {spaced : Bool} (blank : ∀ ch ∈ gap, Alphabet.isBlank ch) :
      Laid before spaced [] gap
  | cut {before gap rest : List Char} {spaced : Bool} {cut : Cut} {cuts : List Cut}
      (blank : ∀ ch ∈ gap, Alphabet.isBlank ch) (nonempty : cut.text ≠ [])
      (place : cut.before = before ++ gap)
      (spacing : gap ≠ [] ↔ cut.token.isConnective = true ∨ spaced = true)
      (further : Laid (cut.before ++ cut.text) cut.token.isExplicitOperator cuts rest) :
      Laid before spaced (cut :: cuts) (gap ++ cut.text ++ rest)

end Cut

namespace Keyword

theorem isExplicitOperator_cut (keyword : Keyword) (before : List Char) :
    (Cut.token ⟨keyword.kind, before, keyword.letters⟩).isExplicitOperator = true := by
  cases keyword <;> rfl

theorem isConnective_cut (keyword : Keyword) (before : List Char) :
    (Cut.token ⟨keyword.kind, before, keyword.letters⟩).isConnective = (keyword != .not) := by
  cases keyword <;> rfl

theorem letters_ne_nil (keyword : Keyword) : keyword.letters ≠ [] := by
  cases keyword <;> simp [letters]

end Keyword

namespace Context

/-- What a context remembers of the text since the last token: the blanks there and whether
that token is a written operator. -/
inductive Since : Context → List Char → List Char → Bool → Prop where
  | adjacent (done : List Char) : Since .plain done [] false
  | operator (done : List Char) : Since .operator done [] true
  | spaced (done : List Char) {gap : List Char} (nonempty : gap ≠ [])
      (blank : ∀ ch ∈ gap, Alphabet.isBlank ch) : Since .plain done gap true
  | pending (done : List Char) {gap : List Char} (nonempty : gap ≠ [])
      (blank : ∀ ch ∈ gap, Alphabet.isBlank ch) : Since (.pending done gap) done gap false

theorem isImplicitAnd_of_blank {before blanks : List Char}
    (blank : ∀ ch ∈ blanks, Alphabet.isBlank ch) :
    (Cut.token ⟨.and, before, blanks⟩).isImplicitAnd = true := by
  have unlike : blanks ≠ ['A', 'N', 'D'] := by
    rintro rfl
    exact absurd (blank 'A' (by simp)) (by decide)
  have different : String.ofList blanks ≠ "AND" := by
    intro same
    exact unlike (String.ofList_inj.mp (same.trans (by rfl)))
  simpa [Token.isImplicitAnd, Cut.token] using different

namespace Since

variable {context : Context} {done gap rest : List Char} {spaced : Bool} {cuts : List Cut}

/-- A cut that is no connective is laid after the AND that was pending, if there was one. -/
theorem laid_release {cut : Cut} (since : Since context done gap spaced)
    (settled : context ≠ .operator) (place : cut.before = done ++ gap) (nonempty : cut.text ≠ [])
    (loose : cut.token.isConnective = false)
    (further : Cut.Laid (cut.before ++ cut.text) cut.token.isExplicitOperator cuts rest) :
    Cut.Laid done spaced (context.release ++ cut :: cuts) (gap ++ cut.text ++ rest) := by
  cases since with
  | adjacent => exact .cut (by simp) nonempty place (by simp [loose]) further
  | operator => exact absurd rfl settled
  | spaced _ filled blank => exact .cut blank nonempty place (by simp [filled]) further
  | pending _ filled blank =>
    have implicit := @isImplicitAnd_of_blank done gap blank
    have last : Cut.Laid (done ++ gap) false (cut :: cuts) ([] ++ cut.text ++ rest) :=
      .cut (by simp) nonempty (by simpa using place) (by simp [loose]) further
    have first : Cut.Laid done false (⟨.and, done, gap⟩ :: cut :: cuts)
        ([] ++ gap ++ ([] ++ cut.text ++ rest)) := by
      refine .cut (by simp) filled (by simp) ?_ ?_
      · simp [Token.isConnective, Token.isExplicitOperator, implicit]
      · simpa [Token.isExplicitOperator, implicit] using last
    simpa [release] using first

theorem blank (since : Since context done gap spaced) : ∀ ch ∈ gap, Alphabet.isBlank ch := by
  cases since with
  | adjacent | operator => simp
  | spaced _ _ blank | pending _ _ blank => exact blank

/-- A lexeme that is a token by itself and no operator. -/
theorem laid_solid {kind : Kind} {text : List Char} (since : Since context done gap spaced)
    (settled : context ≠ .operator) (loose : kind.isOperator = false) (nonempty : text ≠ [])
    (further : Cut.Laid (done ++ gap ++ text) false cuts rest) :
    Cut.Laid done spaced (context.release ++ ⟨kind, done ++ gap, text⟩ :: cuts)
      (gap ++ text ++ rest) := by
  refine since.laid_release settled rfl nonempty ?_ ?_
  · simp [Token.isConnective, Token.isExplicitOperator, Cut.token, loose]
  · simpa [Token.isExplicitOperator, Cut.token, loose] using further

/-- A keyword that can stand here. Pending blanks are an AND before NOT and the gap before
AND and OR. -/
theorem laid_keyword {keyword : Keyword} (since : Since context done gap spaced)
    (settled : context ≠ .operator) (usable : keyword = .not ∨ context.isPending = true)
    (further : Cut.Laid (done ++ gap ++ keyword.letters) true cuts rest) :
    Cut.Laid done spaced
      ((if keyword = .not then context.release else []) ++
        ⟨keyword.kind, done ++ gap, keyword.letters⟩ :: cuts)
      (gap ++ keyword.letters ++ rest) := by
  have connective := keyword.isConnective_cut (done ++ gap)
  rw [← keyword.isExplicitOperator_cut (done ++ gap)] at further
  by_cases negation : keyword = .not
  · subst negation
    exact since.laid_release settled rfl Keyword.not.letters_ne_nil connective further
  · have pending := usable.resolve_left negation
    cases since with
    | adjacent | operator | spaced => cases pending
    | pending _ nonempty blank =>
      rw [if_neg negation, List.nil_append]
      refine .cut blank keyword.letters_ne_nil rfl ?_ further
      simp [nonempty, connective, negation]

end Since

end Context

namespace Lexeme

/-- Blanks are one lexeme: none can follow others. -/
private theorem gap_eq_nil_of_blanks {gap text : List Char} {previous : Option Lexeme}
    (formed : WellFormed (.blanks text)) (admitted : ∀ last ∈ previous, last.Admits (.blanks text))
    (held : gap ≠ [] → ∃ blanks, previous = some (.blanks blanks)) : gap = [] := by
  by_cases empty : gap = []
  · exact empty
  · obtain ⟨blanks, rfl⟩ := held empty
    obtain ⟨ch, more, own⟩ := List.exists_cons_of_ne_nil formed.1
    have apart := (admitted _ rfl ch (by simp [Lexeme.text, own])).2
    have blank : Alphabet.isBlank ch = true := formed.2 ch (by simp [own])
    rw [continues, blank] at apart
    cases apart

/-- The tokens of lexemes lie along their text. The induction is over the lexemes; `Since`
is what it carries from one token to the next. -/
theorem laid_classify {context : Context} {done gap : List Char} {spaced : Bool}
    {previous : Option Lexeme} {lexemes : List Lexeme}
    (since : Context.Since context done gap spaced) (chained : Chained previous lexemes)
    (held : gap ≠ [] → ∃ blanks, previous = some (.blanks blanks))
    (ends : context = .operator → endLetters lexemes = true) :
    Cut.Laid done spaced (classify context (done ++ gap) lexemes) (gap ++ join lexemes) := by
  induction lexemes generalizing context done gap spaced previous with
  | nil =>
    rw [join_nil, List.append_nil]
    exact .done since.blank
  | cons lexeme rest ih =>
    obtain ⟨formed, admitted, further⟩ := chained
    rw [join_cons, ← List.append_assoc]
    have settled (solid : endLetters (lexeme :: rest) = false) : context ≠ .operator := by
      intro operator
      rw [ends operator] at solid
      cases solid
    have later := ih (.adjacent (done ++ gap ++ lexeme.text)) further (by simp) (by simp)
    rw [List.append_nil, List.nil_append] at later
    have retire (kind : Kind) (solid : endLetters (lexeme :: rest) = false)
        (loose : kind.isOperator = false) :=
      since.laid_solid (settled solid) loose (text_ne_nil formed) later
    cases lexeme with
    | opening => simpa [classify, Context.judge] using retire .opening rfl rfl
    | closing => simpa [classify, Context.judge] using retire .closing rfl rfl
    | quoted inner => simpa [classify, Context.judge] using retire .phrase rfl rfl
    | blanks text =>
      have own : Lexeme.text (.blanks text) = text := rfl
      obtain rfl := gap_eq_nil_of_blanks formed admitted held
      cases since with
      | adjacent =>
        have later := ih (.pending done formed.1 formed.2) further (fun _ => ⟨text, rfl⟩) (by simp)
        simpa [classify, Context.judge, own] using later
      | operator =>
        have later := ih (.spaced done formed.1 formed.2) further (fun _ => ⟨text, rfl⟩) (by simp)
        simpa [classify, Context.judge, own] using later
      | spaced _ nonempty | pending _ nonempty => exact absurd rfl nonempty
    | letters text =>
      have own : Lexeme.text (.letters text) = text := rfl
      rcases context.operator_or_word text (endLetters rest) with ⟨stops, keyword, spelled⟩ | plain
      · obtain ⟨rfl, usable⟩ := Context.operator?_eq_some_iff.mp spelled
        have later := ih (.operator (done ++ gap ++ keyword.letters)) further (by simp)
          (fun _ => stops)
        rw [List.append_nil, List.nil_append] at later
        rw [classify, stops, Context.judge_operator (done ++ gap) spelled, own, List.append_assoc]
        exact since.laid_keyword (settled rfl) usable later
      · have judged := Context.judge_word (done ++ gap) plain
        simpa [classify, judged, own] using retire .word rfl rfl

end Lexeme

namespace Cut

/-- The text up to the end of some cuts, which lie after `before`. -/
def reached (before : List Char) (cuts : List Cut) : List Char :=
  (cuts.getLast?.map fun cut => cut.before ++ cut.text).getD before

/-- Whether the last of some cuts is a written operator. -/
def endsInOperator (spaced : Bool) (cuts : List Cut) : Bool :=
  (cuts.getLast?.map (·.token.isExplicitOperator)).getD spaced

namespace Laid

variable {before text : List Char} {spaced : Bool} {cuts : List Cut}

/-- The texts of cuts lie along the text. -/
theorem along (laid : Laid before spaced cuts text) :
    Extent.Along before (cuts.map extent) text := by
  induction laid with
  | done blank => exact .done blank
  | cut blank nonempty place spacing further ih =>
    rw [place] at ih
    rw [List.map_cons, extent, place]
    exact .next blank nonempty ih

/-- A cut stands in the text where it says. -/
theorem of_mem (laid : Laid before spaced cuts text) {cut : Cut} (member : cut ∈ cuts) :
    before <+: cut.before ∧ cut.text ≠ [] ∧ cut.before ++ cut.text <+: before ++ text :=
  laid.along.of_mem (List.mem_map_of_mem member)

/-- Each cut ends before the next ones begin. -/
theorem pairwise (laid : Laid before spaced cuts text) :
    cuts.Pairwise fun left right => left.before ++ left.text <+: right.before :=
  List.pairwise_map.mp laid.along.pairwise

/-- A character of the text is a blank or under a cut. -/
theorem blank_or_covered (laid : Laid before spaced cuts text) {left right : List Char}
    {ch : Char} (split : text = left ++ ch :: right) :
    Alphabet.isBlank ch = true ∨ ∃ cut ∈ cuts, cut.before <+: before ++ left ∧
      before ++ left ++ [ch] <+: cut.before ++ cut.text := by
  rcases laid.along.blank_or_covered split with blank | ⟨extent, listed, covered⟩
  · exact .inl blank
  · obtain ⟨cut, member, rfl⟩ := List.mem_map.mp listed
    exact .inr ⟨cut, member, covered⟩

/-- There is a gap before a cut exactly where an operator asks for it. -/
theorem gap_iff (laid : Laid before spaced cuts text) {earlier later : List Cut} {cut : Cut}
    (split : cuts = earlier ++ cut :: later) :
    reached before earlier <+: cut.before ∧
      (reached before earlier ≠ cut.before ↔
        cut.token.isConnective = true ∨ endsInOperator spaced earlier = true) := by
  induction laid generalizing earlier with
  | done => simp at split
  | @cut before gap rest spaced first cuts blank nonempty place spacing further ih =>
    cases earlier with
    | nil =>
      cases split
      refine ⟨by simp [reached, place], ?_⟩
      rw [reached, endsInOperator, place]
      simpa using spacing
    | cons head earlier =>
      cases split
      simpa [reached, endsInOperator, List.getLast?_cons] using ih rfl

end Laid

end Cut

namespace Alphabet

private theorem ascii_of_isWord {ch : Char} (word : isWord ch = true) :
    ch.toNat < 128 ∧ ch ≠ '\n' := by
  refine ⟨?_, ne_of_isWord word (by decide)⟩
  have alphanumeric : (ch.isUpper || ch.isLower || ch.isDigit) = true := word
  simp only [Bool.or_eq_true] at alphanumeric
  rcases alphanumeric with (upper | lower) | digit
  · have most : ch.val ≤ 'Z'.val := (of_decide_eq_true upper).2
    exact Nat.lt_of_le_of_lt most (by decide)
  · have most : ch.val ≤ 'z'.val := of_decide_eq_true (Bool.and_eq_true_iff.mp lower).2
    exact Nat.lt_of_le_of_lt most (by decide)
  · have most : ch.val ≤ '9'.val := of_decide_eq_true (Bool.and_eq_true_iff.mp digit).2
    exact Nat.lt_of_le_of_lt most (by decide)

theorem ascii_of_isQuoted {ch : Char} (quoted : isQuoted ch = true) :
    ch.toNat < 128 ∧ ch ≠ '\n' := by
  simp only [isQuoted, isPhrase, Bool.or_eq_true, beq_iff_eq, List.contains_iff_mem] at quoted
  rcases quoted with ((word | symbol) | blank) | rfl
  · exact ascii_of_isWord word
  · have symbols : phraseSymbols.all (fun ch => ch.toNat < 128 ∧ ch ≠ '\n') = true := rfl
    exact of_decide_eq_true (List.all_eq_true.mp symbols ch symbol)
  · rcases isBlank_iff.mp blank with rfl | rfl <;> decide
  · decide

end Alphabet

namespace Lexeme

theorem ascii_of_wellFormed {lexeme : Lexeme} (formed : lexeme.WellFormed) :
    ∀ ch ∈ lexeme.text, ch.toNat < 128 ∧ ch ≠ '\n' := by
  intro ch member
  cases lexeme with
  | opening | closing =>
    cases List.mem_singleton.mp member
    decide
  | quoted inner =>
    simp only [text, List.cons_append, List.mem_cons, List.mem_append, List.not_mem_nil,
      or_false] at member
    rcases member with rfl | inside | rfl
    · decide
    · exact Alphabet.ascii_of_isQuoted (formed ch inside)
    · decide
  | letters text =>
    have word := formed.2 ch member
    exact Alphabet.ascii_of_isQuoted (by simp [Alphabet.isQuoted, Alphabet.isPhrase, word])
  | blanks text =>
    exact Alphabet.ascii_of_isQuoted (by simp [Alphabet.isQuoted, formed.2 ch member])

/-- A text that splits into lexemes is ASCII on one line. -/
theorem ascii_join {previous : Option Lexeme} {lexemes : List Lexeme}
    (chained : Chained previous lexemes) : ∀ ch ∈ join lexemes, ch.toNat < 128 ∧ ch ≠ '\n' := by
  induction lexemes generalizing previous with
  | nil => simp
  | cons lexeme rest ih =>
    obtain ⟨formed, _, further⟩ := chained
    intro ch member
    rcases List.mem_append.mp (join_cons lexeme rest ▸ member) with own | later
    · exact ascii_of_wellFormed formed ch own
    · exact ih further ch later

/-- Blanks alone are no tokens. -/
theorem classify_of_blank {lexemes : List Lexeme} (chained : Chained none lexemes)
    (blank : ∀ ch ∈ join lexemes, Alphabet.isBlank ch) : classify .plain [] lexemes = [] := by
  have own := split_eq_ok_iff.mpr ⟨rfl, chained⟩
  cases chars : join lexemes with
  | nil =>
    rw [chars, split] at own
    cases own
    rfl
  | cons ch rest =>
    have alone : Chained none [.blanks (join lexemes)] :=
      ⟨⟨by simp [chars], blank⟩, by simp, trivial⟩
    have other := split_eq_ok_iff.mpr ⟨List.append_nil _, alone⟩
    rw [show Lexeme.text (.blanks (join lexemes)) = join lexemes from rfl, own] at other
    rw [Except.ok.inj other]
    rfl

end Lexeme

/-- The position where the text after some tokens begins. -/
def Coverage.reached (tokens : List PlacedToken) : Position :=
  (tokens.getLast?.map (·.span.stop)).getD .start

/-- Whether the last of some tokens is a written operator. -/
def Coverage.endsInOperator (tokens : List PlacedToken) : Bool :=
  tokens.getLast?.any (·.value.isExplicitOperator)

/-- How the tokens of a query lie in it. -/
structure Coverage (query : String) (tokens : List PlacedToken) : Prop where
  /-- A token is a piece of the query, and its span holds the positions before and after
  that piece. -/
  placed : ∀ token ∈ tokens, ∃ before rest : String,
    query = before ++ token.value.literal ++ rest ∧
    Position.start.advanceText before = .ok token.span.start ∧
    Position.start.advanceText (before ++ token.value.literal) = .ok token.span.stop ∧
    token.span.slice query = some token.value.literal
  nonempty : ∀ token ∈ tokens, token.span.start.offset < token.span.stop.offset
  increasing : tokens.Pairwise fun left right => left.span.start.offset < right.span.start.offset
  disjoint : tokens.Pairwise fun left right => left.span.stop.offset ≤ right.span.start.offset
  /-- What is under no span is blank. -/
  blank : ∀ before ch rest, query.toList = before ++ ch :: rest →
    (∀ token ∈ tokens, Text.byteCount before < token.span.start.offset.toNat ∨
      token.span.stop.offset.toNat ≤ Text.byteCount before) → Alphabet.isBlank ch = true
  /-- Text between tokens stands before a written AND or OR and after a written operator,
  and nowhere else. -/
  gap_iff : ∀ earlier token later, tokens = earlier ++ token :: later →
    ((Coverage.reached earlier).offset < token.span.start.offset ↔
      token.value.isConnective = true ∨ Coverage.endsInOperator earlier = true)
  /-- A written operator that does not end the query has text after it. -/
  gap_after : ∀ earlier token later, tokens = earlier ++ token :: later →
    token.value.isExplicitOperator = true →
    token.span.stop.offset.toNat = query.utf8ByteSize ∨ token.span.stop.offset.toNat <
      (later.head?.map (·.span.start.offset.toNat)).getD query.utf8ByteSize
  allBlank : (∀ ch ∈ query.toList, Alphabet.isBlank ch) → tokens = []
  ascii : ∀ ch ∈ query.toList, ch.toNat < 128 ∧ ch ≠ '\n'
  columns : ∀ token ∈ tokens, token.span.start.line = 1 ∧
    token.span.start.column.toNat = token.span.start.offset.toNat + 1

namespace Cut

theorem reached_placed (cuts : List Cut) :
    Coverage.reached (cuts.map placed) = .after (reached [] cuts) := by
  rw [Coverage.reached, reached, List.getLast?_map]
  cases cuts.getLast? <;> rfl

theorem endsInOperator_placed (cuts : List Cut) :
    Coverage.endsInOperator (cuts.map placed) = endsInOperator false cuts := by
  rw [Coverage.endsInOperator, endsInOperator, List.getLast?_map]
  cases cuts.getLast? <;> rfl

/-- The span of a cut holds the positions before and after its text. -/
theorem placed_of_prefix {cut : Cut} {query : String}
    (within : cut.before ++ cut.text <+: query.toList) (bound : query.length + 2 ≤ UInt32.size) :
    ∃ before rest : String, query = before ++ cut.placed.value.literal ++ rest ∧
      Position.start.advanceText before = .ok cut.placed.span.start ∧
      Position.start.advanceText (before ++ cut.placed.value.literal) = .ok cut.placed.span.stop ∧
      cut.placed.span.slice query = some cut.placed.value.literal := by
  obtain ⟨rest, split⟩ := within
  have length : query.length = cut.before.length + cut.text.length + rest.length := by
    rw [← String.length_toList, ← split, List.length_append, List.length_append]
  refine ⟨String.ofList cut.before, String.ofList rest, ?_, ?_, ?_,
    Span.slice_ofPiece split.symm bound⟩
  · rw [placed, token, ← String.ofList_append, ← String.ofList_append, split,
      String.ofList_toList]
  · rw [Position.advanceText, String.toList_ofList]
    exact Position.advanceChars_start (by omega)
  · rw [Position.advanceText, placed, token, ← String.ofList_append, String.toList_ofList]
    exact Position.advanceChars_start (by rw [List.length_append]; omega)

namespace Laid

variable {query : String} {cuts : List Cut}

/-- A cut lies inside the query. -/
theorem within (laid : Laid [] false cuts query.toList) {cut : Cut} (member : cut ∈ cuts) :
    cut.before ++ cut.text <+: query.toList :=
  (laid.of_mem member).2.2

/-- Where a cut begins and ends is inside the counters. -/
theorem bound_of_mem (laid : Laid [] false cuts query.toList)
    (bound : query.length + 2 ≤ UInt32.size) {cut : Cut} (member : cut ∈ cuts) :
    cut.before.length + 2 ≤ UInt32.size ∧ (cut.before ++ cut.text).length + 2 ≤ UInt32.size := by
  have shorter := (laid.within member).length_le
  rw [String.length_toList] at shorter
  have whole : (cut.before ++ cut.text).length = cut.before.length + cut.text.length :=
    List.length_append
  constructor <;> omega

theorem nonempty_placed (laid : Laid [] false cuts query.toList)
    (bound : query.length + 2 ≤ UInt32.size) :
    ∀ token ∈ cuts.map placed, token.span.start.offset < token.span.stop.offset := by
  intro token listed
  obtain ⟨cut, member, rfl⟩ := List.mem_map.mp listed
  have filled := (laid.of_mem member).2.1
  have ends := (laid.bound_of_mem bound member).2
  apply (Position.offset_after_lt_iff_of_prefix (List.prefix_append ..) ends).mpr
  simpa using filled

theorem disjoint_placed (laid : Laid [] false cuts query.toList)
    (bound : query.length + 2 ≤ UInt32.size) :
    (cuts.map placed).Pairwise fun left right =>
      left.span.stop.offset ≤ right.span.start.offset := by
  rw [List.pairwise_map]
  refine laid.pairwise.imp_of_mem ?_
  intro left right _ member ordered
  exact Position.offset_after_le_of_prefix ordered (laid.bound_of_mem bound member).1

/-- A character under no span is blank. -/
theorem blank_of_uncovered (laid : Laid [] false cuts query.toList)
    (bound : query.length + 2 ≤ UInt32.size) {before rest : List Char} {ch : Char}
    (split : query.toList = before ++ ch :: rest)
    (outside : ∀ token ∈ cuts.map placed, Text.byteCount before < token.span.start.offset.toNat ∨
      token.span.stop.offset.toNat ≤ Text.byteCount before) : Alphabet.isBlank ch = true := by
  rcases laid.blank_or_covered split with blank | ⟨cut, member, starts, stops⟩
  · exact blank
  · obtain ⟨first, last⟩ := laid.bound_of_mem bound member
    have start : cut.placed.span.start.offset.toNat = Text.byteCount cut.before :=
      Position.toNat_offset_after first
    have stop : cut.placed.span.stop.offset.toNat = Text.byteCount (cut.before ++ cut.text) :=
      Position.toNat_offset_after last
    have least := Text.byteCount_le_of_prefix starts
    have most := Text.byteCount_le_of_prefix stops
    have width := ch.utf8Size_pos
    simp only [List.nil_append, Text.byteCount_append, Text.byteCount] at least most stop
    rcases outside cut.placed (List.mem_map_of_mem member) with less | more <;> omega

/-- Gaps between tokens are gaps between cuts. -/
theorem gap_iff_placed (laid : Laid [] false cuts query.toList)
    (bound : query.length + 2 ≤ UInt32.size) (earlier : List PlacedToken) (token : PlacedToken)
    (later : List PlacedToken) (split : cuts.map placed = earlier ++ token :: later) :
    (Coverage.reached earlier).offset < token.span.start.offset ↔
      token.value.isConnective = true ∨ Coverage.endsInOperator earlier = true := by
  obtain ⟨first, others, rfl, rfl, tail⟩ := List.map_eq_append_iff.mp split
  obtain ⟨cut, more, rfl, rfl, rfl⟩ := List.map_eq_cons_iff.mp tail
  obtain ⟨ordered, spacing⟩ := laid.gap_iff rfl
  have starts := (laid.bound_of_mem bound (List.mem_append_right first List.mem_cons_self)).1
  rw [reached_placed, endsInOperator_placed]
  exact (Position.offset_after_lt_iff_of_prefix ordered starts).trans spacing

/-- What follows a written operator is the end of the query or a gap. -/
theorem gap_after_placed (laid : Laid [] false cuts query.toList)
    (bound : query.length + 2 ≤ UInt32.size) (earlier : List PlacedToken) (token : PlacedToken)
    (later : List PlacedToken) (split : cuts.map placed = earlier ++ token :: later)
    (explicit : token.value.isExplicitOperator = true) :
    token.span.stop.offset.toNat = query.utf8ByteSize ∨ token.span.stop.offset.toNat <
      (later.head?.map (·.span.start.offset.toNat)).getD query.utf8ByteSize := by
  cases later with
  | nil =>
    have listed : token ∈ cuts.map placed := by simp [split]
    obtain ⟨cut, member, rfl⟩ := List.mem_map.mp listed
    have stop : cut.placed.span.stop.offset.toNat = Text.byteCount (cut.before ++ cut.text) :=
      Position.toNat_offset_after (laid.bound_of_mem bound member).2
    have inside := Text.byteCount_le_of_prefix (laid.within member)
    rw [← Text.utf8ByteSize_eq, ← stop] at inside
    exact Nat.eq_or_lt_of_le inside
  | cons next more =>
    have regrouped : cuts.map placed = (earlier ++ [token]) ++ next :: more := by simp [split]
    have spacing := laid.gap_iff_placed bound (earlier ++ [token]) next more regrouped
    have operator : Coverage.endsInOperator (earlier ++ [token]) = true := by
      simp [Coverage.endsInOperator, explicit]
    have gap := spacing.mpr (.inr operator)
    refine .inr ?_
    simpa [Coverage.reached, UInt64.lt_iff_toNat_lt] using gap

theorem columns_placed (laid : Laid [] false cuts query.toList)
    (bound : query.length + 2 ≤ UInt32.size)
    (ascii : ∀ ch ∈ query.toList, ch.toNat < 128 ∧ ch ≠ '\n') :
    ∀ token ∈ cuts.map placed, token.span.start.line = 1 ∧
      token.span.start.column.toNat = token.span.start.offset.toNat + 1 := by
  intro token listed
  obtain ⟨cut, member, rfl⟩ := List.mem_map.mp listed
  refine Position.after_of_plain ?_ (laid.bound_of_mem bound member).1
  intro ch own
  have start : cut.before <+: query.toList := (List.prefix_append ..).trans (laid.within member)
  exact Position.plain_of_ascii ascii ch (start.subset own)

/-- Cuts that lie along a query have spans that cover it. -/
theorem coverage (laid : Laid [] false cuts query.toList)
    (bound : query.length + 2 ≤ UInt32.size)
    (ascii : ∀ ch ∈ query.toList, ch.toNat < 128 ∧ ch ≠ '\n')
    (allBlank : (∀ ch ∈ query.toList, Alphabet.isBlank ch) → cuts = []) :
    Coverage query (cuts.map placed) where
  placed := by
    intro token listed
    obtain ⟨cut, member, rfl⟩ := List.mem_map.mp listed
    exact placed_of_prefix (laid.within member) bound
  nonempty := laid.nonempty_placed bound
  increasing := by
    refine (laid.disjoint_placed bound).imp_of_mem ?_
    intro left right member _ ordered
    exact UInt64.lt_of_lt_of_le (laid.nonempty_placed bound left member) ordered
  disjoint := laid.disjoint_placed bound
  blank := by
    intro before ch rest split outside
    exact laid.blank_of_uncovered bound split outside
  gap_iff := laid.gap_iff_placed bound
  gap_after := laid.gap_after_placed bound
  allBlank := by
    intro blank
    rw [allBlank blank, List.map_nil]
  ascii := ascii
  columns := laid.columns_placed bound ascii

end Laid

end Cut

/-- The cuts of lexemes from the start of a text lie along it. -/
theorem Lexeme.Chained.laid {lexemes : List Lexeme} (chained : Chained none lexemes) :
    Cut.Laid [] false (classify .plain [] lexemes) (join lexemes) := by
  have laid := laid_classify (.adjacent []) chained (by simp) (by simp)
  rwa [List.append_nil, List.nil_append] at laid

/-- The cuts of a query lie along it, and it is ASCII on one line. -/
theorem Reference.coverage_of_lex {query : String} {cuts : List Cut}
    (found : Reference.lex query = .ok cuts) (bound : query.length + 2 ≤ UInt32.size) :
    Coverage query (cuts.map Cut.placed) := by
  obtain ⟨lexemes, joined, chained, rfl⟩ := Reference.lex_eq_ok_iff.mp found
  have laid := chained.laid
  rw [joined] at laid
  apply laid.coverage bound
  · rw [← joined]
    exact Lexeme.ascii_join chained
  · rw [← joined]
    exact Lexeme.classify_of_blank chained

/-- The tokens of a query that is accepted when broken keywords are fed through: their spans
are exact, and all between them is blank and there because of an operator. -/
theorem Tokenizer.tokenize_coverage {preferences : SearchPreferences} {query : String}
    {session later : Log.Session} {stream : Stream}
    (mode : preferences.fallback = .feedThrough) (bound : query.length + 2 ≤ UInt32.size)
    (answered : tokenize preferences query session = .ok (.ok stream, later)) :
    Coverage query stream.tokens := by
  have free := answer_of_run bound (run_of_tokenize answered)
  rw [mode, answer_feedThrough] at free
  cases found : Reference.lex query with
  | error rejection =>
    rw [found] at free
    cases free
  | ok cuts =>
    rw [found] at free
    cases free
    exact Reference.coverage_of_lex found bound

theorem Tokenizer.tokenize_coverage_negated :
    ∃ stream, tokenize ⟨.feedThrough, true, true, false⟩ "a OR NOT (b\tc" {} =
        .ok (.ok stream, {}) ∧
      stream.tokens = [
        ⟨⟨.word, "a"⟩, ⟨⟨0, 1, 1⟩, ⟨1, 1, 2⟩⟩⟩, ⟨⟨.or, "OR"⟩, ⟨⟨2, 1, 3⟩, ⟨4, 1, 5⟩⟩⟩,
        ⟨⟨.not, "NOT"⟩, ⟨⟨5, 1, 6⟩, ⟨8, 1, 9⟩⟩⟩, ⟨⟨.opening, "("⟩, ⟨⟨9, 1, 10⟩, ⟨10, 1, 11⟩⟩⟩,
        ⟨⟨.word, "b"⟩, ⟨⟨10, 1, 11⟩, ⟨11, 1, 12⟩⟩⟩, ⟨⟨.and, "\t"⟩, ⟨⟨11, 1, 12⟩, ⟨12, 1, 13⟩⟩⟩,
        ⟨⟨.word, "c"⟩, ⟨⟨12, 1, 13⟩, ⟨13, 1, 14⟩⟩⟩] ∧
      Coverage "a OR NOT (b\tc" stream.tokens := by
  refine ⟨_, rfl, rfl, ?_⟩
  exact @tokenize_coverage ⟨.feedThrough, true, true, false⟩ _ {} {} _ rfl (by decide) rfl

end SearchLex
