import SearchLex.Alphabet

/-! Lexemes of a query: parentheses, quoted runs, and the longest runs of letters and of
blanks. Splitting a text into lexemes looks at no more than the character where the next
one begins and the lexeme before it. -/

namespace SearchLex

namespace Alphabet

theorem isBlank_iff {ch : Char} : isBlank ch = true ↔ ch = ' ' ∨ ch = '\t' := by
  simp [isBlank]

theorem isWord_of_isBlank {ch : Char} (blank : isBlank ch = true) : isWord ch = false := by
  rcases isBlank_iff.mp blank with rfl | rfl <;> decide

theorem isBlank_of_isWord {ch : Char} (word : isWord ch = true) : isBlank ch = false := by
  cases blank : isBlank ch with
  | false => rfl
  | true => rw [isWord_of_isBlank blank] at word; cases word

theorem ne_of_isWord {ch other : Char} (word : isWord ch = true) (outside : isWord other = false) :
    ch ≠ other := by
  rintro rfl
  rw [outside] at word
  cases word

theorem ne_of_isBlank {ch other : Char} (blank : isBlank ch = true)
    (outside : isBlank other = false) : ch ≠ other := by
  rintro rfl
  rw [outside] at blank
  cases blank

end Alphabet

/-- The pieces a query is cut into before any of them is understood. -/
inductive Lexeme where
  | opening
  | closing
  /-- What stands between two quotation marks. -/
  | quoted (inner : List Char)
  | letters (text : List Char)
  | blanks (text : List Char)
  deriving DecidableEq, Repr

/-- Why a text has no lexemes: what was read before, and the character that fits nothing
or the quotation mark that is never matched. -/
inductive Rejection where
  | illegal (before : List Char) (ch : Char)
  | unterminated (before : List Char)
  deriving DecidableEq, Repr

/-- What was read before the character that a rejection is about. -/
def Rejection.before : Rejection → List Char
  | .illegal before _ | .unterminated before => before

namespace Lexeme

/-- The query text of a lexeme. -/
def text : Lexeme → List Char
  | .opening => ['(']
  | .closing => [')']
  | .quoted inner => '"' :: inner ++ ['"']
  | .letters text | .blanks text => text

/-- Whether a character may not stand right after a lexeme: a blank after an opening
parenthesis, an opening parenthesis or a quotation mark after letters. -/
def refuses : Lexeme → Char → Bool
  | .opening, ch => Alphabet.isBlank ch
  | .letters _, ch => ch == '(' || ch == '"'
  | _, _ => false

/-- The lexeme that a character begins, and what is left after it. -/
def first (before : List Char) (ch : Char) (rest : List Char) :
    Except Rejection (Lexeme × List Char) :=
  if ch = '(' then .ok (.opening, rest)
  else if ch = ')' then .ok (.closing, rest)
  else if ch = '"' then
    match rest.dropWhile Alphabet.isQuoted with
    | [] => .error (.unterminated before)
    | stop :: tail =>
      if stop = '"' then .ok (.quoted (rest.takeWhile Alphabet.isQuoted), tail)
      else .error (.illegal (before ++ '"' :: rest.takeWhile Alphabet.isQuoted) stop)
  else if Alphabet.isWord ch then
    .ok (.letters (ch :: rest.takeWhile Alphabet.isWord), rest.dropWhile Alphabet.isWord)
  else if Alphabet.isBlank ch then
    .ok (.blanks (ch :: rest.takeWhile Alphabet.isBlank), rest.dropWhile Alphabet.isBlank)
  else .error (.illegal before ch)

/-- A lexeme with the characters its kind asks for. -/
def WellFormed : Lexeme → Prop
  | .opening | .closing => True
  | .quoted inner => ∀ ch ∈ inner, Alphabet.isQuoted ch
  | .letters text => text ≠ [] ∧ ∀ ch ∈ text, Alphabet.isWord ch
  | .blanks text => text ≠ [] ∧ ∀ ch ∈ text, Alphabet.isBlank ch

/-- Whether a character would make a run longer. -/
def continues : Lexeme → Char → Bool
  | .letters _, ch => Alphabet.isWord ch
  | .blanks _, ch => Alphabet.isBlank ch
  | _, _ => false

/-- A lexeme that ends where the rest of the text begins. -/
def Stops (lexeme : Lexeme) (rest : List Char) : Prop :=
  ∀ ch ∈ rest.head?, lexeme.continues ch = false

theorem text_ne_nil {lexeme : Lexeme} (formed : lexeme.WellFormed) : lexeme.text ≠ [] := by
  cases lexeme with
  | opening | closing | quoted inner => simp [text]
  | letters text | blanks text => exact formed.1

private theorem head?_dropWhile (keep : Char → Bool) (chars : List Char) :
    ∀ ch ∈ (chars.dropWhile keep).head?, keep ch = false := by
  intro ch member
  have stopped := List.head?_dropWhile_not keep chars
  rw [Option.mem_def.mp member] at stopped
  simpa using stopped

private theorem forall_mem_takeWhile (keep : Char → Bool) (chars : List Char) :
    ∀ ch ∈ chars.takeWhile keep, keep ch :=
  List.all_eq_true.mp List.all_takeWhile

/-- What reading one lexeme finds: a whole one, and nothing is lost. -/
theorem first_spec {before rest tail : List Char} {ch : Char} {lexeme : Lexeme}
    (found : first before ch rest = .ok (lexeme, tail)) :
    ch :: rest = lexeme.text ++ tail ∧ lexeme.WellFormed ∧ lexeme.Stops tail := by
  simp only [first] at found
  split at found
  · rename_i own
    cases found
    exact ⟨by simp [text, own], trivial, fun _ _ => rfl⟩
  · split at found
    · rename_i own
      cases found
      exact ⟨by simp [text, own], trivial, fun _ _ => rfl⟩
    · split at found
      · rename_i own
        split at found
        · cases found
        · rename_i stop more dropped
          split at found
          · rename_i mark
            cases found
            refine ⟨?_, forall_mem_takeWhile Alphabet.isQuoted rest, fun _ _ => rfl⟩
            have whole := List.takeWhile_append_dropWhile (p := Alphabet.isQuoted) (l := rest)
            rw [dropped, mark] at whole
            simp [text, own, whole]
          · cases found
      · split at found
        · rename_i own
          cases found
          refine ⟨by simp [text], ⟨by simp, ?_⟩, head?_dropWhile Alphabet.isWord rest⟩
          simpa [own] using forall_mem_takeWhile Alphabet.isWord rest
        · split at found
          · rename_i own
            cases found
            refine ⟨by simp [text], ⟨by simp, ?_⟩, head?_dropWhile Alphabet.isBlank rest⟩
            simpa [own] using forall_mem_takeWhile Alphabet.isBlank rest
          · cases found

/-- A lexeme takes at least the character it begins with. -/
theorem length_of_first {before rest tail : List Char} {ch : Char} {lexeme : Lexeme}
    (found : first before ch rest = .ok (lexeme, tail)) : tail.length ≤ rest.length := by
  obtain ⟨whole, formed, _⟩ := first_spec found
  have taken := List.length_pos_iff.mpr (text_ne_nil formed)
  have lengths := congrArg List.length whole
  rw [List.length_cons, List.length_append] at lengths
  omega

/-- The lexemes of a text, given what was read before it and the lexeme that came last. -/
def split (before : List Char) (previous : Option Lexeme) :
    List Char → Except Rejection (List Lexeme)
  | [] => .ok []
  | ch :: rest =>
    if previous.any (·.refuses ch) then .error (.illegal before ch)
    else
      match found : first before ch rest with
      | .error rejection => .error rejection
      | .ok (lexeme, tail) =>
        have : tail.length ≤ rest.length := length_of_first found
        (split (before ++ lexeme.text) (some lexeme) tail).map (lexeme :: ·)
termination_by chars => chars.length

theorem split_of_refused {before rest : List Char} {previous : Option Lexeme} {ch : Char}
    (refused : previous.any (·.refuses ch) = true) :
    split before previous (ch :: rest) = .error (.illegal before ch) := by
  rw [split, if_pos refused]

theorem split_of_first_error {before rest : List Char} {previous : Option Lexeme} {ch : Char}
    {rejection : Rejection} (allowed : previous.any (·.refuses ch) = false)
    (found : first before ch rest = .error rejection) :
    split before previous (ch :: rest) = .error rejection := by
  rw [split, if_neg (by simp [allowed])]
  split
  · rename_i same
    rw [found] at same
    cases same
    rfl
  · rename_i same
    rw [found] at same
    cases same

theorem split_of_first {before rest tail : List Char} {previous : Option Lexeme} {ch : Char}
    {lexeme : Lexeme} (allowed : previous.any (·.refuses ch) = false)
    (found : first before ch rest = .ok (lexeme, tail)) :
    split before previous (ch :: rest) =
      (split (before ++ lexeme.text) (some lexeme) tail).map (lexeme :: ·) := by
  rw [split, if_neg (by simp [allowed])]
  split
  · rename_i same
    rw [found] at same
    cases same
  · rename_i same
    rw [found] at same
    cases same
    rfl

theorem takeWhile_append {keep : Char → Bool} (run tail : List Char)
    (kept : ∀ ch ∈ run, keep ch) (stops : ∀ ch ∈ tail.head?, keep ch = false) :
    (run ++ tail).takeWhile keep = run ∧ (run ++ tail).dropWhile keep = tail := by
  rw [List.takeWhile_append_of_pos kept, List.dropWhile_append_of_pos kept]
  cases tail with
  | nil => simp
  | cons ch rest => simp [stops ch rfl]

/-- A whole lexeme is found where its text stands. -/
theorem first_of_text {before rest tail : List Char} {ch : Char} {lexeme : Lexeme}
    (formed : lexeme.WellFormed) (stops : lexeme.Stops tail) (own : lexeme.text = ch :: rest) :
    first before ch (rest ++ tail) = .ok (lexeme, tail) := by
  cases lexeme with
  | opening | closing =>
    cases own
    rfl
  | quoted inner =>
    cases own
    obtain ⟨taken, dropped⟩ := takeWhile_append inner ('"' :: tail) formed (by simp; decide)
    simp [first, taken, dropped]
  | letters text =>
    cases own
    have word : Alphabet.isWord ch = true := formed.2 ch (by simp)
    obtain ⟨taken, dropped⟩ := takeWhile_append rest tail
      (fun other member => formed.2 other (by simp [member])) stops
    have other {special : Char} := @Alphabet.ne_of_isWord ch special word
    simp [first, word, taken, dropped, other (by decide : Alphabet.isWord '(' = false),
      other (by decide : Alphabet.isWord ')' = false),
      other (by decide : Alphabet.isWord '"' = false)]
  | blanks text =>
    cases own
    have blank : Alphabet.isBlank ch = true := formed.2 ch (by simp)
    obtain ⟨taken, dropped⟩ := takeWhile_append rest tail
      (fun other member => formed.2 other (by simp [member])) stops
    have other {special : Char} := @Alphabet.ne_of_isBlank ch special blank
    simp [first, blank, taken, dropped, Alphabet.isWord_of_isBlank blank,
      other (by decide : Alphabet.isBlank '(' = false),
      other (by decide : Alphabet.isBlank ')' = false),
      other (by decide : Alphabet.isBlank '"' = false)]

/-- A lexeme that may stand right after another. -/
def Admits (previous lexeme : Lexeme) : Prop :=
  ∀ ch ∈ lexeme.text.head?, previous.refuses ch = false ∧ previous.continues ch = false

/-- Whole lexemes, each of which may stand right after the one before it. -/
def Chained : Option Lexeme → List Lexeme → Prop
  | _, [] => True
  | previous, lexeme :: rest =>
    lexeme.WellFormed ∧ (∀ last ∈ previous, last.Admits lexeme) ∧ Chained (some lexeme) rest

theorem wellFormed_of_chained {previous : Option Lexeme} {lexemes : List Lexeme}
    (chained : Chained previous lexemes) {lexeme : Lexeme} (member : lexeme ∈ lexemes) :
    lexeme.WellFormed := by
  induction lexemes generalizing previous with
  | nil => cases member
  | cons first rest ih =>
    obtain ⟨formed, _, further⟩ := chained
    rcases List.mem_cons.mp member with rfl | later
    · exact formed
    · exact ih further later

/-- The query text of lexemes. -/
def join (lexemes : List Lexeme) : List Char := lexemes.flatMap text

@[simp] theorem join_nil : join [] = [] := rfl

@[simp] theorem join_cons (lexeme : Lexeme) (rest : List Lexeme) :
    join (lexeme :: rest) = lexeme.text ++ join rest := List.flatMap_cons

theorem join_append (left right : List Lexeme) : join (left ++ right) = join left ++ join right :=
  List.flatMap_append

theorem stops_join {previous : Lexeme} {lexemes : List Lexeme}
    (chained : Chained (some previous) lexemes) : previous.Stops (join lexemes) := by
  cases lexemes with
  | nil => simp [Stops]
  | cons lexeme rest =>
    obtain ⟨formed, admitted, _⟩ := chained
    obtain ⟨ch, more, own⟩ := List.exists_cons_of_ne_nil (text_ne_nil formed)
    intro other member
    have same : ch = other := by simpa [own] using member
    subst same
    exact (admitted previous rfl ch (by simp [own])).2

/-- Lexemes in front of a text are found again, and the text splits after the last of them. -/
theorem split_append {previous : Option Lexeme} {lexemes : List Lexeme} {rest : List Char}
    (before : List Char) (chained : Chained previous lexemes)
    (stops : ∀ last ∈ lexemes.getLast?, last.Stops rest) :
    split before previous (join lexemes ++ rest) =
      (split (before ++ join lexemes) (lexemes.getLast?.or previous) rest).map (lexemes ++ ·) := by
  induction lexemes generalizing before previous with
  | nil =>
    simp only [join_nil, List.nil_append, List.append_nil, List.getLast?_nil, Option.none_or]
    cases split before previous rest <;> rfl
  | cons lexeme more ih =>
    obtain ⟨formed, admitted, further⟩ := chained
    obtain ⟨ch, letters, own⟩ := List.exists_cons_of_ne_nil (text_ne_nil formed)
    have allowed : previous.any (·.refuses ch) = false := by
      cases previous with
      | none => rfl
      | some last => exact (admitted last rfl ch (by simp [own])).1
    have ends : lexeme.Stops (join more ++ rest) := by
      cases more with
      | nil => exact stops lexeme rfl
      | cons next others =>
        obtain ⟨other, _, begins⟩ := List.exists_cons_of_ne_nil (text_ne_nil further.1)
        have start := stops_join further other (by simp [begins])
        simpa [Stops, begins] using start
    have later := ih (before ++ lexeme.text) further fun last member =>
      stops last (by simp [List.getLast?_cons, Option.mem_def.mp member])
    have latest : (lexeme :: more).getLast?.or previous = more.getLast?.or (some lexeme) := by
      rw [List.getLast?_cons]
      cases more.getLast? <;> rfl
    rw [join_cons, List.append_assoc, own, List.cons_append,
      split_of_first allowed (first_of_text formed ends own), later, latest, ← own,
      List.append_assoc]
    cases split (before ++ (lexeme.text ++ join more)) (more.getLast?.or (some lexeme)) rest <;> rfl

/-- Writing lexemes down and splitting the text gives them back. -/
theorem split_join {previous : Option Lexeme} {lexemes : List Lexeme} (before : List Char)
    (chained : Chained previous lexemes) : split before previous (join lexemes) = .ok lexemes := by
  have alone := @split_append previous lexemes [] before chained fun _ _ _ none => nomatch none
  rw [List.append_nil, split] at alone
  simpa [Except.map] using alone

/-- How a text that is not empty splits: one lexeme is found and the rest splits after it. -/
theorem split_cons_eq_ok {before rest : List Char} {previous : Option Lexeme} {ch : Char}
    {lexemes : List Lexeme} (whole : split before previous (ch :: rest) = .ok lexemes) :
    previous.any (·.refuses ch) = false ∧ ∃ lexeme tail more,
      first before ch rest = .ok (lexeme, tail) ∧
      split (before ++ lexeme.text) (some lexeme) tail = .ok more ∧ lexemes = lexeme :: more := by
  cases refused : previous.any (·.refuses ch) with
  | true =>
    rw [split_of_refused refused] at whole
    cases whole
  | false =>
    cases found : first before ch rest with
    | error rejection =>
      rw [split_of_first_error refused found] at whole
      cases whole
    | ok pair =>
      obtain ⟨lexeme, tail⟩ := pair
      rw [split_of_first refused found] at whole
      cases further : split (before ++ lexeme.text) (some lexeme) tail with
      | error rejection =>
        rw [further] at whole
        cases whole
      | ok more =>
        rw [further] at whole
        cases whole
        exact ⟨rfl, lexeme, tail, more, rfl, further, rfl⟩

/-- A lexeme that is found where its first character is allowed may stand there. -/
theorem admits_of_first {before rest tail : List Char} {previous : Option Lexeme} {ch : Char}
    {lexeme : Lexeme} (found : first before ch rest = .ok (lexeme, tail))
    (allowed : previous.any (·.refuses ch) = false)
    (stops : ∀ last ∈ previous, last.Stops (ch :: rest)) :
    ∀ last ∈ previous, last.Admits lexeme := by
  obtain ⟨own, formed, _⟩ := first_spec found
  obtain ⟨start, letters, text⟩ := List.exists_cons_of_ne_nil (text_ne_nil formed)
  intro last member other begins
  have head : other = ch := by
    rw [text, List.cons_append] at own
    rw [text] at begins
    cases own
    exact (Option.some.inj begins).symm
  subst head
  cases member
  exact ⟨allowed, stops last rfl other rfl⟩

/-- A text that splits is the text of its lexemes, and these are chained. -/
theorem split_spec {before chars : List Char} {previous : Option Lexeme}
    {lexemes : List Lexeme} (whole : split before previous chars = .ok lexemes)
    (stops : ∀ last ∈ previous, last.Stops chars) :
    chars = join lexemes ∧ Chained previous lexemes := by
  induction lexemes generalizing before previous chars with
  | nil =>
    cases chars with
    | nil => exact ⟨rfl, trivial⟩
    | cons ch rest =>
      obtain ⟨_, _, _, _, _, _, none⟩ := split_cons_eq_ok whole
      cases none
  | cons lexeme more ih =>
    cases chars with
    | nil =>
      rw [split] at whole
      cases whole
    | cons ch rest =>
      obtain ⟨allowed, found, tail, others, first, further, same⟩ := split_cons_eq_ok whole
      cases same
      obtain ⟨own, formed, ends⟩ := first_spec first
      obtain ⟨joined, chained⟩ := ih further (by rintro last ⟨⟩; exact ends)
      exact ⟨by rw [join_cons, ← joined, own], formed, admits_of_first first allowed stops, chained⟩

/-- What was read before the character that no lexeme fits: nothing, or a quotation mark and
what may follow it. -/
theorem before_of_first_error {before rest : List Char} {ch : Char} {rejection : Rejection}
    (found : first before ch rest = .error rejection) :
    ∃ read, rejection.before = before ++ read ∧ read <+: ch :: rest ∧
      ∀ other ∈ read, other = '"' ∨ Alphabet.isQuoted other = true := by
  have here : ∃ read, before = before ++ read ∧ read <+: ch :: rest ∧
      ∀ other ∈ read, other = '"' ∨ Alphabet.isQuoted other = true :=
    ⟨[], by simp, List.nil_prefix, by simp⟩
  simp only [first] at found
  split at found
  · cases found
  · split at found
    · cases found
    · split at found
      · rename_i mark
        split at found
        · cases found
          exact here
        · split at found
          · cases found
          · cases found
            refine ⟨'"' :: rest.takeWhile Alphabet.isQuoted, rfl, ?_, ?_⟩
            · rw [mark, List.cons_prefix_cons]
              exact ⟨rfl, List.takeWhile_prefix _⟩
            · intro other member
              rcases List.mem_cons.mp member with own | inner
              · exact .inl own
              · exact .inr (forall_mem_takeWhile Alphabet.isQuoted rest other inner)
      · split at found
        · cases found
        · split at found
          · cases found
          · cases found
            exact here

/-- A rejection is about a place in the text. -/
theorem before_of_split_error {before chars : List Char} {previous : Option Lexeme}
    {rejection : Rejection} (failed : split before previous chars = .error rejection) :
    rejection.before <+: before ++ chars := by
  induction before, previous, chars using split.induct with
  | case1 before previous =>
    rw [split] at failed
    cases failed
  | case2 before previous ch rest refused =>
    rw [split_of_refused refused] at failed
    cases failed
    exact List.prefix_append ..
  | case3 before previous ch rest allowed other found =>
    rw [split_of_first_error (by simpa using allowed) found] at failed
    cases failed
    obtain ⟨read, own, begins, _⟩ := before_of_first_error found
    rw [own, List.prefix_append_right_inj]
    exact begins
  | case4 before previous ch rest allowed lexeme tail found shorter ih =>
    rw [split_of_first (by simpa using allowed) found] at failed
    rw [(first_spec found).1, ← List.append_assoc]
    apply ih
    cases further : split (before ++ lexeme.text) (some lexeme) tail with
    | error other =>
      rw [further] at failed
      cases failed
      rfl
    | ok more =>
      rw [further] at failed
      cases failed

/-- Splitting a query finds exactly the chained lexemes that spell it. -/
theorem split_eq_ok_iff {chars : List Char} {lexemes : List Lexeme} :
    split [] none chars = .ok lexemes ↔ join lexemes = chars ∧ Chained none lexemes := by
  constructor
  · intro whole
    obtain ⟨joined, chained⟩ := split_spec whole (by simp)
    exact ⟨joined.symm, chained⟩
  · rintro ⟨rfl, chained⟩
    exact split_join [] chained

end Lexeme

end SearchLex
