import Mathlib.Data.List.Forall2
import SearchLex.Proofs.Coverage

/-! Queries written one after the other. Right after a parenthesis or a phrase everything is
as at the start of a query, so what follows is read as it would be alone: it gives the same
tokens, or fails at the same character, only further along. -/

namespace SearchLex

namespace Rejection

/-- The rejection of a text that stands behind another one. -/
def behind (earlier : List Char) : Rejection → Rejection
  | .illegal before ch => .illegal (earlier ++ before) ch
  | .unterminated before => .unterminated (earlier ++ before)

end Rejection

/-- The cut of a text that stands behind another one. -/
def Cut.behind (earlier : List Char) (cut : Cut) : Cut :=
  { cut with before := earlier ++ cut.before }

namespace Context

/-- The context in a text that stands behind another one. -/
def behind (earlier : List Char) : Context → Context
  | .pending before blanks => .pending (earlier ++ before) blanks
  | .plain => .plain
  | .operator => .operator

theorem operator?_behind (earlier : List Char) (context : Context) (letters : List Char) :
    (context.behind earlier).operator? letters = context.operator? letters := by
  cases context <;> rfl

theorem release_behind (earlier : List Char) (context : Context) :
    (context.behind earlier).release = context.release.map (Cut.behind earlier) := by
  cases context <;> rfl

/-- A lexeme is judged alike wherever the text stands. -/
theorem judge_behind (earlier before : List Char) (context : Context) (lexeme : Lexeme)
    (ends : Bool) :
    (context.behind earlier).judge (earlier ++ before) lexeme ends =
      ((context.judge before lexeme ends).1.map (Cut.behind earlier),
        (context.judge before lexeme ends).2.behind earlier) := by
  cases lexeme with
  | opening | closing | quoted inner =>
    simp only [judge, release_behind, List.map_append]
    rfl
  | blanks text =>
    cases context <;> rfl
  | letters text =>
    simp only [judge, release_behind, operator?_behind]
    split <;> simp only [List.map_append] <;> rfl

end Context

namespace Lexeme

theorem first_behind (earlier before : List Char) (ch : Char) (rest : List Char) :
    first (earlier ++ before) ch rest =
      (first before ch rest).mapError (Rejection.behind earlier) := by
  simp only [first]
  split
  · rfl
  · split
    · rfl
    · split
      · split
        · rfl
        · split
          · rfl
          · simp [Except.mapError, Rejection.behind]
      · split
        · rfl
        · split <;> rfl

/-- A text splits alike wherever it stands. -/
theorem split_behind (earlier before : List Char) (previous : Option Lexeme)
    (chars : List Char) :
    split (earlier ++ before) previous chars =
      (split before previous chars).mapError (Rejection.behind earlier) := by
  induction before, previous, chars using split.induct with
  | case1 before previous =>
    rw [split, split]
    rfl
  | case2 before previous ch rest refused =>
    rw [split_of_refused refused, split_of_refused refused]
    rfl
  | case3 before previous ch rest allowed rejection found =>
    have allowed : previous.any (·.refuses ch) = false := by simpa using allowed
    have moved := first_behind earlier before ch rest
    rw [found] at moved
    rw [split_of_first_error allowed found, split_of_first_error allowed moved]
    rfl
  | case4 before previous ch rest allowed lexeme tail found shorter ih =>
    have allowed : previous.any (·.refuses ch) = false := by simpa using allowed
    have moved := first_behind earlier before ch rest
    rw [found] at moved
    rw [split_of_first allowed found, split_of_first allowed moved, List.append_assoc, ih]
    cases split (before ++ lexeme.text) (some lexeme) tail <;> rfl

/-- A lexeme that refuses nothing in front of a text leaves it as it would be alone. -/
theorem split_of_allowed {last : Option Lexeme} {chars : List Char}
    (allowed : ∀ ch ∈ chars.head?, last.any (·.refuses ch) = false) (before : List Char) :
    split before last chars = split before none chars := by
  cases chars with
  | nil => rw [split, split]
  | cons ch rest =>
    have free : last.any (·.refuses ch) = false := allowed ch rfl
    cases found : first before ch rest with
    | error rejection =>
      rw [split_of_first_error free found, split_of_first_error rfl found]
    | ok pair =>
      obtain ⟨lexeme, tail⟩ := pair
      rw [split_of_first free found, split_of_first rfl found]

/-- The cuts of lexemes are the same wherever the text stands. -/
theorem classify_behind (earlier before : List Char) (context : Context)
    (lexemes : List Lexeme) :
    classify (context.behind earlier) (earlier ++ before) lexemes =
      (classify context before lexemes).map (Cut.behind earlier) := by
  induction lexemes generalizing context before with
  | nil => rfl
  | cons lexeme rest ih =>
    simp only [classify, Context.judge_behind, List.map_append, List.append_assoc, ih]

/-- Parentheses and quoted runs carry their own end; letters and blanks go on until
something else comes. -/
def isDelimited : Lexeme → Bool
  | .opening | .closing | .quoted _ => true
  | .letters _ | .blanks _ => false

theorem stops_of_isDelimited {lexeme : Lexeme} (delimited : lexeme.isDelimited = true)
    (rest : List Char) : lexeme.Stops rest := by
  intro ch _
  cases lexeme with
  | opening | closing | quoted inner => rfl
  | letters text | blanks text => cases delimited

/-- A delimited lexeme is judged without a look at what follows and leaves nothing pending. -/
theorem judge_of_isDelimited {lexeme : Lexeme} (delimited : lexeme.isDelimited = true)
    (context : Context) (before : List Char) (ends other : Bool) :
    context.judge before lexeme ends = context.judge before lexeme other ∧
      (context.judge before lexeme ends).2 = .plain := by
  cases lexeme with
  | opening | closing | quoted inner => exact ⟨rfl, rfl⟩
  | letters text | blanks text => cases delimited

/-- After a delimited lexeme the second pass starts afresh. -/
theorem classify_append {context : Context} {lexemes : List Lexeme}
    (delimited : ∀ last ∈ lexemes.getLast?, last.isDelimited = true)
    (fresh : lexemes = [] → context = .plain) (before : List Char) (more : List Lexeme) :
    classify context before (lexemes ++ more) =
      classify context before lexemes ++ classify .plain (before ++ join lexemes) more := by
  induction lexemes generalizing context before with
  | nil =>
    rw [fresh rfl]
    simp [classify]
  | cons lexeme rest ih =>
    have ends : ∀ last ∈ rest.getLast?, last.isDelimited = true := by
      intro last member
      exact delimited last (by simp [List.getLast?_cons, Option.mem_def.mp member])
    rw [List.cons_append, classify, classify, join_cons]
    cases rest with
    | nil =>
      obtain ⟨same, plain⟩ := judge_of_isDelimited (delimited lexeme rfl) context before
        (endLetters ([] ++ more)) (endLetters [])
      simp only [← same, plain, ih ends fun _ => rfl, List.append_assoc]
    | cons next others =>
      have looked : endLetters (next :: others ++ more) = endLetters (next :: others) := by
        cases next <;> rfl
      simp only [looked, ih ends (by simp), List.append_assoc]

/-- The text of lexemes ends as the last of them does. -/
theorem getLast?_join {previous : Option Lexeme} {lexemes : List Lexeme} {last : Lexeme}
    (chained : Chained previous lexemes) (member : last ∈ lexemes.getLast?) :
    (join lexemes).getLast? = last.text.getLast? := by
  obtain ⟨front, rfl⟩ := List.getLast?_eq_some_iff.mp member
  have formed := wellFormed_of_chained chained (List.mem_append_right front List.mem_cons_self)
  rw [join_append, List.getLast?_append_of_ne_nil]
  · simp
  · simpa using text_ne_nil formed

end Lexeme

namespace Tokenizer

/-- Queries of which the second is read after the first as it would be alone: the first is
empty or ends with a closing parenthesis or a quotation mark, or it ends with an opening
parenthesis and no blank follows. -/
def Joins (left right : String) : Prop :=
  left = "" ∨ left.toList.getLast? = some ')' ∨ left.toList.getLast? = some '"' ∨
    left.toList.getLast? = some '(' ∧ ∀ ch ∈ right.toList.head?, Alphabet.isBlank ch = false

/-- What a query that is not empty ends with where another one joins it. -/
theorem Joins.last {left right : String} (joins : Joins left right) {ch : Char}
    (ends : left.toList.getLast? = some ch) :
    ch = ')' ∨ ch = '"' ∨
      ch = '(' ∧ ∀ other ∈ right.toList.head?, Alphabet.isBlank other = false := by
  rcases joins with rfl | closing | quote | ⟨opening, follows⟩
  · cases ends
  · rw [closing] at ends
    cases ends
    exact .inl rfl
  · rw [quote] at ends
    cases ends
    exact .inr (.inl rfl)
  · rw [opening] at ends
    cases ends
    exact .inr (.inr ⟨rfl, follows⟩)

/-- Neither letters nor blanks come last where another query joins. -/
theorem Joins.not_run {left right : String} (joins : Joins left right) {ch : Char}
    (ends : left.toList.getLast? = some ch) :
    Alphabet.isWord ch = false ∧ Alphabet.isBlank ch = false := by
  rcases joins.last ends with rfl | rfl | ⟨rfl, _⟩ <;> exact ⟨rfl, rfl⟩

/-- The lexemes of the first query end with a delimited one that refuses nothing of the
second. -/
theorem Joins.delimited {left right : String} {lexemes : List Lexeme} {last : Lexeme}
    (joins : Joins left right) (chained : Lexeme.Chained none lexemes)
    (joined : Lexeme.join lexemes = left.toList) (member : last ∈ lexemes.getLast?) :
    last.isDelimited = true ∧ ∀ ch ∈ right.toList.head?, last.refuses ch = false := by
  have formed := Lexeme.wellFormed_of_chained chained (List.mem_of_getLast? member)
  have ends := Lexeme.getLast?_join chained member
  rw [joined] at ends
  cases last with
  | closing | quoted inner => exact ⟨rfl, fun _ _ => rfl⟩
  | opening =>
    refine ⟨rfl, ?_⟩
    rcases joins.last ends with other | other | ⟨_, follows⟩
    · cases other
    · cases other
    · exact follows
  | letters text =>
    have spelled := List.getLast?_eq_some_getLast formed.1
    have word := formed.2 _ (List.getLast_mem formed.1)
    rw [(joins.not_run (ends.trans spelled)).1] at word
    cases word
  | blanks text =>
    have spelled := List.getLast?_eq_some_getLast formed.1
    have blank := formed.2 _ (List.getLast_mem formed.1)
    rw [(joins.not_run (ends.trans spelled)).2] at blank
    cases blank

end Tokenizer

/-- The two passes over joined queries: those of the first, then those of the second further
along. -/
theorem Reference.lex_append {left right : String} {cuts : List Cut}
    (joins : Tokenizer.Joins left right) (found : lex left = .ok cuts) :
    lex (left ++ right) = match lex right with
      | .ok more => .ok (cuts ++ more.map (Cut.behind left.toList))
      | .error rejection => .error (rejection.behind left.toList) := by
  obtain ⟨lexemes, joined, chained, rfl⟩ := lex_eq_ok_iff.mp found
  have delimited : ∀ last ∈ lexemes.getLast?, last.isDelimited = true :=
    fun last member => (joins.delimited chained joined member).1
  have stops : ∀ last ∈ lexemes.getLast?, last.Stops right.toList :=
    fun last member => Lexeme.stops_of_isDelimited (delimited last member) right.toList
  have allowed : ∀ ch ∈ right.toList.head?,
      (lexemes.getLast?.or none).any (·.refuses ch) = false := by
    intro ch begins
    cases ending : lexemes.getLast? with
    | none => rfl
    | some last => exact (joins.delimited chained joined ending).2 ch begins
  have cut := Lexeme.split_append [] chained stops
  have moved := Lexeme.split_behind left.toList [] none right.toList
  rw [List.append_nil] at moved
  rw [List.nil_append, joined, Lexeme.split_of_allowed allowed, moved] at cut
  rw [lex, lex, String.toList_append, cut]
  cases Lexeme.split [] none right.toList with
  | error rejection => rfl
  | ok more =>
    have fresh := Lexeme.classify_append delimited
      (fun _ => rfl : _ → Context.plain = .plain) [] more
    have further := Lexeme.classify_behind left.toList [] .plain more
    rw [List.append_nil] at further
    rw [List.nil_append, joined] at fresh
    simp only [Except.mapError, Except.map, fresh, ← further]
    rfl

namespace Position

/-- A place that lies so many bytes further along the same line. -/
structure Shifted (count : Nat) (place moved : Position) : Prop where
  offset : moved.offset.toNat = place.offset.toNat + count
  line : moved.line = place.line
  column : moved.column.toNat = place.column.toNat + count

/-- Plain text in front of a text moves its places along the line. -/
theorem shifted_after {earlier before : List Char} (plain : Plain (earlier ++ before))
    (bound : (earlier ++ before).length + 2 ≤ UInt32.size) :
    (after before).Shifted (Text.byteCount earlier) (after (earlier ++ before)) := by
  have alone : Plain before := fun ch member => plain ch (List.mem_append_right _ member)
  have shorter : before.length + 2 ≤ UInt32.size := by
    rw [List.length_append] at bound
    omega
  obtain ⟨line, column⟩ := after_of_plain alone shorter
  obtain ⟨movedLine, movedColumn⟩ := after_of_plain plain bound
  have bytes := toNat_offset_after bound
  rw [Text.byteCount_append, ← toNat_offset_after shorter] at bytes
  constructor
  · omega
  · rw [line, movedLine]
  · omega

end Position

/-- A token that lies further along. -/
structure PlacedToken.Shifted (count : Nat) (token moved : PlacedToken) : Prop where
  value : moved.value = token.value
  start : token.span.start.Shifted count moved.span.start
  stop : token.span.stop.Shifted count moved.span.stop

/-- A failure at a place further along. -/
inductive Failure.Shifted (count : Nat) : Failure → Failure → Prop where
  | illegalCharacter (ch : Char) {place moved : Position} (shifted : place.Shifted count moved) :
      Shifted count (.illegalCharacter ch place) (.illegalCharacter ch moved)
  | unterminatedPhrase {place moved : Position} (shifted : place.Shifted count moved) :
      Shifted count (.unterminatedPhrase place) (.unterminatedPhrase moved)

theorem Cut.shifted_behind {earlier : List Char} {cut : Cut}
    (plain : Position.Plain (earlier ++ (cut.before ++ cut.text)))
    (bound : (earlier ++ (cut.before ++ cut.text)).length + 2 ≤ UInt32.size) :
    cut.placed.Shifted (Text.byteCount earlier) (cut.behind earlier).placed := by
  have stop := Position.shifted_after plain bound
  rw [← List.append_assoc] at plain bound stop
  have start : (Position.after cut.before).Shifted (Text.byteCount earlier)
      (.after (earlier ++ cut.before)) := by
    apply Position.shifted_after
    · exact fun ch member => plain ch (List.mem_append_left _ member)
    · rw [List.length_append] at bound
      omega
  exact ⟨rfl, start, stop⟩

theorem Rejection.shifted_behind {earlier : List Char} {rejection : Rejection}
    (plain : Position.Plain (earlier ++ rejection.before))
    (bound : (earlier ++ rejection.before).length + 2 ≤ UInt32.size) :
    rejection.failure.Shifted (Text.byteCount earlier) (rejection.behind earlier).failure := by
  have shifted := Position.shifted_after plain bound
  cases rejection with
  | illegal before ch => exact .illegalCharacter ch shifted
  | unterminated before => exact .unterminatedPhrase shifted

namespace Lexeme

/-- What was read before the character that a rejection is about is plain text, whatever the
rest of the query holds. -/
theorem plain_of_split_error {before chars : List Char} {previous : Option Lexeme}
    {rejection : Rejection} (plain : Position.Plain before)
    (failed : split before previous chars = .error rejection) :
    Position.Plain rejection.before := by
  induction before, previous, chars using split.induct with
  | case1 before previous =>
    rw [split] at failed
    cases failed
  | case2 before previous ch rest refused =>
    rw [split_of_refused refused] at failed
    cases failed
    exact plain
  | case3 before previous ch rest allowed other found =>
    rw [split_of_first_error (by simpa using allowed) found] at failed
    cases failed
    obtain ⟨read, own, _, quoted⟩ := before_of_first_error found
    have ascii : Position.Plain read := by
      apply Position.plain_of_ascii
      intro ch member
      rcases quoted ch member with rfl | inner
      · decide
      · exact Alphabet.ascii_of_isQuoted inner
    rw [own]
    exact List.forall_mem_append.mpr ⟨plain, ascii⟩
  | case4 before previous ch rest allowed lexeme tail found shorter ih =>
    have formed := (first_spec found).2.1
    have ascii := Position.plain_of_ascii (ascii_of_wellFormed formed)
    rw [split_of_first (by simpa using allowed) found] at failed
    apply ih (List.forall_mem_append.mpr ⟨plain, ascii⟩)
    cases further : split (before ++ lexeme.text) (some lexeme) tail with
    | error other =>
      rw [further] at failed
      cases failed
      rfl
    | ok more =>
      rw [further] at failed
      cases failed

end Lexeme

namespace Reference

/-- A query with lexemes is plain text, and so are the beginnings that its cuts lie in. -/
theorem plain_of_lex {query : String} {cuts : List Cut} (found : lex query = .ok cuts) :
    Position.Plain query.toList ∧ ∀ cut ∈ cuts, cut.before ++ cut.text <+: query.toList := by
  obtain ⟨lexemes, joined, chained, rfl⟩ := lex_eq_ok_iff.mp found
  have laid := Lexeme.laid_classify (.adjacent []) chained (by simp) (by simp)
  simp only [List.append_nil, List.nil_append, joined] at laid
  refine ⟨?_, fun cut member => laid.within member⟩
  rw [← joined]
  exact Position.plain_of_ascii (Lexeme.ascii_join chained)

end Reference

namespace Tokenizer

/-- Joined queries, the first of them accepted. If the second is accepted as well, the whole
gives the tokens of both, those of the second shifted by the bytes of the first; if the
second fails, the whole fails in the same way, shifted too. -/
theorem tokenize_append {preferences : SearchPreferences} {left right : String}
    {session later : Log.Session} {first : Stream} (mode : preferences.fallback = .feedThrough)
    (unlimited : preferences.enforceLimits = false)
    (bound : (left ++ right).length + 2 ≤ UInt32.size) (joins : Joins left right)
    (accepted : tokenize preferences left session = .ok (.ok first, later))
    (other : Log.Session) :
    (∀ second log, tokenize preferences right other = .ok (.ok second, log) →
      ∃ whole moved log, tokenize preferences (left ++ right) other = .ok (.ok whole, log) ∧
        whole.tokens = first.tokens ++ moved ∧
        List.Forall₂ (PlacedToken.Shifted left.utf8ByteSize) second.tokens moved) ∧
    ∀ failure log, tokenize preferences right other = .ok (.error failure, log) →
      ∃ moved log, tokenize preferences (left ++ right) other = .ok (.error moved, log) ∧
        failure.Shifted left.utf8ByteSize moved := by
  obtain ⟨cuts, found, tokens⟩ := lex_of_tokenize mode accepted
  have whole := Reference.lex_append joins found
  have earlier := (Reference.plain_of_lex found).1
  have lengths : left.toList.length + right.toList.length + 2 ≤ UInt32.size := by
    rw [String.length_toList, String.length_toList, ← String.length_append]
    exact bound
  rw [Text.utf8ByteSize_eq]
  constructor
  · intro second _ answered
    obtain ⟨more, own, placed⟩ := lex_of_tokenize mode answered
    obtain ⟨plain, within⟩ := Reference.plain_of_lex own
    rw [own] at whole
    obtain ⟨log, both⟩ := tokenize_of_lex mode unlimited bound whole other
    refine ⟨_, (more.map (Cut.behind left.toList)).map Cut.placed, log, both, ?_, ?_⟩
    · rw [tokens]
      simp [Stream.ofTokens]
    · rw [placed, List.forall₂_map_left_iff, List.forall₂_map_right_iff,
        List.forall₂_map_right_iff, List.forall₂_same]
      intro cut member
      have inside := within cut member
      have shorter := inside.length_le
      apply Cut.shifted_behind
      · exact List.forall_mem_append.mpr ⟨earlier, fun ch own => plain ch (inside.subset own)⟩
      · rw [List.length_append]
        omega
  · intro failure _ failed
    have alone : right.length + 2 ≤ UInt32.size := by
      rw [← String.length_toList]
      omega
    obtain ⟨rejection, own, rfl⟩ := lex_of_tokenize_error mode unlimited alone failed
    rw [own] at whole
    obtain ⟨log, both⟩ := tokenize_of_lex_error mode unlimited bound whole other
    refine ⟨_, log, both, ?_⟩
    have split := Reference.split_of_lex_error own
    have plain := Lexeme.plain_of_split_error (by simp [Position.Plain]) split
    have shorter := (Lexeme.before_of_split_error split).length_le
    apply Rejection.shifted_behind
    · exact List.forall_mem_append.mpr ⟨earlier, plain⟩
    · rw [List.nil_append] at shorter
      rw [List.length_append]
      omega

theorem tokenize_append_broken_keyword :
    (∃ first whole moved log,
      tokenize ⟨.feedThrough, false, true, false⟩ "a (NOT)" {} = .ok (.ok first, {}) ∧
      tokenize ⟨.feedThrough, false, true, false⟩ ("a (NOT)" ++ " OR b") {} =
        .ok (.ok whole, log) ∧
      whole.tokens = first.tokens ++ moved ∧
      List.Forall₂ (PlacedToken.Shifted 7) [⟨⟨.or, "OR"⟩, ⟨⟨1, 1, 2⟩, ⟨3, 1, 4⟩⟩⟩,
        ⟨⟨.word, "b"⟩, ⟨⟨4, 1, 5⟩, ⟨5, 1, 6⟩⟩⟩] moved) ∧
    ∃ moved log,
      tokenize ⟨.feedThrough, false, true, false⟩ ("a (NOT)" ++ "b\né") {} =
        .ok (.error moved, log) ∧
      (Failure.illegalCharacter '\n' ⟨1, 1, 2⟩).Shifted 7 moved := by
  have accepted : tokenize ⟨.feedThrough, false, true, false⟩ "a (NOT)" {} = .ok (.ok _, {}) := rfl
  constructor
  · obtain ⟨success, _⟩ := @tokenize_append ⟨.feedThrough, false, true, false⟩ "a (NOT)" " OR b"
      {} {} _ rfl rfl (by decide) (.inr (.inl rfl)) accepted {}
    obtain ⟨whole, moved, log, both, tokens, shifted⟩ := success _ {} rfl
    exact ⟨_, whole, moved, log, accepted, both, tokens, shifted⟩
  · obtain ⟨_, failure⟩ := @tokenize_append ⟨.feedThrough, false, true, false⟩ "a (NOT)" "b\né"
      {} {} _ rfl rfl (by decide) (.inr (.inl rfl)) accepted {}
    exact failure _ {} rfl

end Tokenizer

end SearchLex
