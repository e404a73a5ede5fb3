import SearchLex.Proofs.Coverage

/-! Where every character of a query goes when broken keywords lose the character that breaks
them. Each token has an extent of the query; a word may lack one character of its own, and
what no extent holds is blank, apart from a keyword left open at the end. -/

namespace SearchLex

/-- How a token is spelled by the text it was read from. A word that began like a keyword
lacks the character that broke the keyword off. -/
inductive Token.SpelledBy (token : Token) : List Char → Prop where
  | whole {text : List Char} (same : token.literal.toList = text) : SpelledBy token text
  | broken {keyword : Keyword} {begun rest : List Char} {dropped : Char}
      (word : token.kind = .word) (same : token.literal.toList = begun ++ rest)
      (nonempty : begun ≠ []) (letters : begun <+: keyword.letters)
      (unexpected : ¬ begun ++ [dropped] <+: keyword.letters)
      (unended : begun = keyword.letters → Alphabet.isBlank dropped = false) :
      SpelledBy token (begun ++ dropped :: rest)

/-- A word goes on with the text it is read from. -/
theorem Token.SpelledBy.push {literal : String} {text : List Char}
    (spelled : Token.SpelledBy ⟨.word, literal⟩ text) (ch : Char) :
    Token.SpelledBy ⟨.word, literal.push ch⟩ (text ++ [ch]) := by
  cases spelled with
  | whole same => exact .whole (by simp [← same])
  | broken word same nonempty letters unexpected unended =>
    rw [List.append_assoc, List.cons_append]
    refine .broken rfl ?_ nonempty letters unexpected unended
    rw [String.toList_push, ← List.append_assoc]
    exact congrArg (· ++ [ch]) same

/-- A token begins where its extent does and is spelled by it. -/
def PlacedToken.Assigned (token : PlacedToken) (extent : Extent) : Prop :=
  token.span.start = .after extent.before ∧ token.value.SpelledBy extent.text

theorem Literal.assigned_ofRun (before run : List Char) (kind : Kind) :
    PlacedToken.Assigned ((ofRun (.after before) run).placed kind) ⟨before, run⟩ :=
  ⟨rfl, .whole (by simp [ofRun, placed])⟩

/-- Extents of tokens that account for the text after `done`: all of it lies along them but
the letters of a keyword left open at the end. -/
structure Extent.Account (done : List Char) (tokens : List PlacedToken) (extents : List Extent)
    (text : List Char) : Prop where
  assigned : List.Forall₂ PlacedToken.Assigned tokens extents
  along : ∃ body tail keyword, text = body ++ tail ∧ tail <+: Keyword.letters keyword ∧
    Extent.Along done extents body

namespace Extent.Account

variable {done gap own : List Char}

theorem blanks (blank : ∀ ch ∈ gap, Alphabet.isBlank ch) : Account done [] [] gap :=
  ⟨.nil, gap, [], .not, by simp, List.nil_prefix, .done blank⟩

theorem unfinished {keyword : Keyword} (blank : ∀ ch ∈ gap, Alphabet.isBlank ch)
    (letters : own <+: keyword.letters) : Account done [] [] (gap ++ own) :=
  ⟨.nil, gap, own, keyword, rfl, letters, .done blank⟩

theorem next {token : PlacedToken} {tokens : List PlacedToken} {extents : List Extent}
    {rest : List Char} (blank : ∀ ch ∈ gap, Alphabet.isBlank ch) (nonempty : own ≠ [])
    (assigned : token.Assigned ⟨done ++ gap, own⟩)
    (further : Account (done ++ gap ++ own) tokens extents rest) :
    Account done (token :: tokens) (⟨done ++ gap, own⟩ :: extents) (gap ++ own ++ rest) := by
  obtain ⟨others, body, tail, keyword, rfl, letters, along⟩ := further
  exact ⟨.cons assigned others, gap ++ own ++ body, tail, keyword, by simp, letters,
    .next blank nonempty along⟩

theorem last {token : PlacedToken} (blank : ∀ ch ∈ gap, Alphabet.isBlank ch)
    (nonempty : own ≠ []) (assigned : token.Assigned ⟨done ++ gap, own⟩) :
    Account done [token] [⟨done ++ gap, own⟩] (gap ++ own) := by
  simpa using next blank nonempty assigned (@blanks (done ++ gap ++ own) [] (by simp))

end Extent.Account

namespace State

/-- What a state has read since the last token ended: blanks that no token holds, and the text
of its own token. -/
inductive Holds (done : List Char) : State → List Char → Prop where
  | expression : Holds done .expression []
  | afterKeyword {gap : List Char} (blank : ∀ ch ∈ gap, Alphabet.isBlank ch) :
      Holds done .afterKeyword gap
  | opening {gap : List Char} (blank : ∀ ch ∈ gap, Alphabet.isBlank ch) :
      Holds done (.opening (.after (done ++ gap))) (gap ++ ['('])
  | closing {gap : List Char} (blank : ∀ ch ∈ gap, Alphabet.isBlank ch) :
      Holds done (.closing (.after (done ++ gap))) (gap ++ [')'])
  | word {gap text : List Char} {literal : String} (blank : ∀ ch ∈ gap, Alphabet.isBlank ch)
      (nonempty : text ≠ []) (spelled : Token.SpelledBy ⟨.word, literal⟩ text) :
      Holds done (.word ⟨.after (done ++ gap), literal⟩) (gap ++ text)
  | phrase {gap text : List Char} (blank : ∀ ch ∈ gap, Alphabet.isBlank ch) :
      Holds done (.phrase (.ofRun (.after (done ++ gap)) text)) (gap ++ text)
  | blanks {gap : List Char} (blank : ∀ ch ∈ gap, Alphabet.isBlank ch) (nonempty : gap ≠ []) :
      Holds done (.implicitAnd (.ofRun (.after done) gap)) gap
  | keyword {operator : Keyword} {gap begun : List Char} (held : Option Literal)
      (blank : ∀ ch ∈ gap, Alphabet.isBlank ch) (nonempty : begun ≠ [])
      (letters : begun <+: operator.letters) :
      Holds done (.keyword operator (.ofRun (.after (done ++ gap)) begun) held) (gap ++ begun)

/-- What a step leaves after `done`: a state that holds the text, or a token with its extent
and a state that holds the rest. -/
inductive Leaves (done : List Char) : List PlacedToken → State → List Char → Prop where
  | keep {next : State} {text : List Char} (holds : next.Holds done text) : Leaves done [] next text
  | retire {token : PlacedToken} {next : State} {gap own more : List Char}
      (blank : ∀ ch ∈ gap, Alphabet.isBlank ch) (nonempty : own ≠ [])
      (assigned : token.Assigned ⟨done ++ gap, own⟩)
      (holds : next.Holds (done ++ gap ++ own) more) :
      Leaves done [token] next (gap ++ own ++ more)

/-- A character opens a state that holds it. Blanks open one only right after a token. -/
theorem Opens.holds {done gap : List Char} {ch : Char} {next : State}
    (opens : Opens ch (.after (done ++ gap)) next) (blank : ∀ ch ∈ gap, Alphabet.isBlank ch)
    (adjacent : Alphabet.isBlank ch = true → gap = []) : next.Holds done (gap ++ [ch]) := by
  cases opens with
  | opening own =>
    subst own
    exact .opening blank
  | closing own =>
    subst own
    exact .closing blank
  | blanks own =>
    obtain rfl := adjacent own
    rw [List.append_nil, Literal.ofChar_eq]
    exact .blanks (by simpa using own) (by simp)
  | negation own =>
    rw [Literal.ofChar_eq]
    exact .keyword none blank (by simp) (by simp [own, Keyword.letters])
  | phrase =>
    rw [Literal.ofChar_eq]
    exact .phrase blank
  | word => exact .word blank (by simp) (.whole (by simp))

theorem Opens.holds_fresh {done : List Char} {ch : Char} {next : State}
    (opens : Opens ch (.after done) next) : next.Holds done [ch] := by
  rw [← List.append_nil done] at opens
  exact opens.holds (by simp) fun _ => rfl

theorem Continues.leaves {done gap text : List Char} {literal : String} {ch : Char}
    {emitted : List PlacedToken} {next : State}
    (continues : Continues ⟨.after (done ++ gap), literal⟩ ch (.after (done ++ (gap ++ text)))
      emitted next)
    (blank : ∀ ch ∈ gap, Alphabet.isBlank ch) (nonempty : text ≠ [])
    (spelled : Token.SpelledBy ⟨.word, literal⟩ text) :
    Leaves done emitted next (gap ++ text ++ [ch]) := by
  rw [← List.append_assoc] at continues
  cases continues with
  | grow =>
    rw [List.append_assoc]
    exact .keep (.word blank (by simp) (spelled.push ch))
  | close own =>
    subst own
    refine .retire blank nonempty ⟨rfl, spelled⟩ ?_
    simpa using @Holds.closing (done ++ gap ++ text) [] (by simp)
  | part own =>
    refine .retire blank nonempty ⟨rfl, spelled⟩ ?_
    rw [Literal.ofChar_eq]
    exact .blanks (by simpa using own) (by simp)

/-- A step that may lose a character leaves every other one in a token or in its state. -/
theorem Transition.leaves {done text : List Char} {state next : State} {ch : Char}
    {emitted : List PlacedToken}
    (transition : Transition .legacy ch (.after (done ++ text)) state emitted next)
    (holds : state.Holds done text) : Leaves done emitted next (text ++ [ch]) := by
  cases transition with
  | start opens =>
    cases holds
    exact .keep (opens.holds (by simp) fun _ => rfl)
  | skip own =>
    cases holds with
    | afterKeyword blank =>
      have longer := List.forall_mem_append.mpr ⟨blank, List.forall_mem_singleton.mpr own⟩
      exact .keep (.afterKeyword longer)
  | resume solid opens =>
    cases holds with
    | afterKeyword blank => exact .keep (opens.holds blank (by simp [solid]))
  | retireOpening _ opens | retireClosing opens =>
    cases holds
    rename_i gap blank
    rw [← List.append_assoc] at opens
    rw [Literal.ofChar_eq]
    exact .retire blank (by simp) (Literal.assigned_ofRun ..) opens.holds_fresh
  | word continues =>
    cases holds with
    | word blank nonempty spelled => exact continues.leaves blank nonempty spelled
  | growPhrase =>
    cases holds with
    | phrase blank =>
      rw [Literal.push_ofRun, List.append_assoc]
      exact .keep (.phrase blank)
  | endPhrase =>
    cases holds with
    | @phrase gap own blank =>
      rw [Literal.push_ofRun, List.append_assoc, ← List.append_nil (gap ++ (own ++ [ch]))]
      exact .retire blank (by simp) (Literal.assigned_ofRun ..) .expression
  | growBlanks own =>
    cases holds with
    | blanks blank =>
      rw [Literal.push_ofRun]
      have longer := List.forall_mem_append.mpr ⟨blank, List.forall_mem_singleton.mpr own⟩
      exact .keep (.blanks longer (by simp))
  | hold connective begins =>
    -- The blanks are the gap before the keyword from here on, also if it breaks off.
    cases holds with
    | blanks blank =>
      obtain ⟨letters, whole⟩ := List.head?_eq_some_iff.mp begins
      rw [Literal.ofChar_eq]
      exact .keep (.keyword _ blank (by simp) ⟨letters, whole.symm⟩)
  | retireBlanks solid opens =>
    cases holds with
    | blanks blank nonempty =>
      have assigned := Literal.assigned_ofRun done text .and
      exact @Leaves.retire done _ next [] text [ch] (by simp) nonempty (by simpa using assigned)
        (by simpa using opens.holds_fresh)
  | growKeyword expected =>
    cases holds with
    | keyword held blank nonempty letters =>
      rw [Literal.length_ofRun] at expected
      rw [Literal.push_ofRun, List.append_assoc]
      exact .keep (.keyword _ blank (by simp) (Keyword.expects_eq_some letters expected))
  | endKeyword whole own =>
    cases holds with
    | keyword held blank nonempty letters =>
      refine .retire blank nonempty (Literal.assigned_ofRun ..) (.afterKeyword ?_)
      simpa using own
  | feedThrough mode => cases mode
  | drop mode unexpected unended =>
    -- The character goes to the extent of the word and not to its literal.
    cases holds with
    | keyword held blank nonempty letters =>
      rw [Literal.length_ofRun] at unexpected unended
      rw [List.append_assoc]
      refine .keep (.word blank (by simp) (.broken rfl ?_ nonempty letters ?_ ?_))
      · simp
      · exact fun expected => unexpected (Keyword.expects_of_prefix expected)
      · exact fun whole => unended ((Keyword.expects_eq_none letters).mpr whole)

theorem Ends.account {done text : List Char} {state : State} {tokens : List PlacedToken}
    (ends : Ends .legacy state tokens) (holds : state.Holds done text) :
    ∃ extents, Extent.Account done tokens extents text := by
  cases ends with
  | expression =>
    cases holds
    exact ⟨[], .blanks (by simp)⟩
  | afterKeyword =>
    cases holds with
    | afterKeyword blank => exact ⟨[], .blanks blank⟩
  | blanks =>
    -- These blanks end the query, so no AND comes of them.
    cases holds with
    | blanks blank => exact ⟨[], .blanks blank⟩
  | opening | closing =>
    cases holds
    rename_i gap blank
    rw [Literal.ofChar_eq]
    exact ⟨_, .last blank (by simp) (Literal.assigned_ofRun ..)⟩
  | word =>
    cases holds with
    | word blank nonempty spelled => exact ⟨_, .last blank nonempty ⟨rfl, spelled⟩⟩
  | operator _ mode | broken _ mode => cases mode
  | lost =>
    cases holds with
    | keyword held blank nonempty letters => exact ⟨[], .unfinished blank letters⟩

/-- A run that may lose characters accounts for what its state held and all it read. -/
theorem Completes.account {done text chars : List Char} {state : State} {place : Position}
    {tokens : List PlacedToken} (completes : Completes .legacy state place chars tokens)
    (standing : place = .after (done ++ text)) (holds : state.Holds done text) :
    ∃ extents, Extent.Account done tokens extents (text ++ chars) := by
  induction completes generalizing done text with
  | done place ends =>
    rw [List.append_nil]
    exact ends.account holds
  | @step state next place ch rest emitted tokens transition further ih =>
    subst standing
    have leaves := transition.leaves holds
    have moved := Position.after_concat (done ++ text) ch
    have regrouped : text ++ ch :: rest = text ++ [ch] ++ rest := by simp
    rw [List.append_assoc] at moved
    rw [regrouped]
    generalize text ++ [ch] = reading at leaves moved ⊢
    cases leaves with
    | keep holds => exact ih moved.symm holds
    | @retire token _ gap own more blank nonempty assigned holds =>
      obtain ⟨extents, account⟩ := ih (by rw [← moved]; simp only [List.append_assoc]) holds
      rw [List.append_assoc (gap ++ own)]
      exact ⟨_, .next blank nonempty assigned account⟩

end State

/-- Extents of a query, one for each token, that account for all of its characters. -/
structure Accounting (query : String) (tokens : List PlacedToken) (extents : List Extent) :
    Prop where
  /-- A token begins at the position of its extent and is spelled by it. -/
  assigned : List.Forall₂ (fun token extent =>
    Position.start.advanceText (.ofList extent.before) = .ok token.span.start ∧
      token.value.SpelledBy extent.text) tokens extents
  pieces : ∀ extent ∈ extents, extent.text ≠ [] ∧
    extent.before ++ extent.text <+: query.toList
  /-- An extent ends before the next ones begin. -/
  disjoint : extents.Pairwise fun left right => left.before ++ left.text <+: right.before
  /-- What no extent holds is blank, up to the letters of a keyword left open at the end. -/
  accounted : ∃ body tail keyword, query.toList = body ++ tail ∧ tail <+: Keyword.letters keyword ∧
    (∀ extent ∈ extents, extent.before ++ extent.text <+: body) ∧
    ∀ before ch rest, body = before ++ ch :: rest →
      Alphabet.isBlank ch = true ∨ ∃ extent ∈ extents, extent.before <+: before ∧
        before ++ [ch] <+: extent.before ++ extent.text

namespace Extent.Account

variable {query : String} {tokens : List PlacedToken} {extents : List Extent}

/-- Extents lie in the query. -/
theorem inside (account : Account [] tokens extents query.toList) :
    ∀ extent ∈ extents, extent.before ++ extent.text <+: query.toList := by
  obtain ⟨_, body, tail, _, whole, _, along⟩ := account
  intro extent member
  have within : extent.before ++ extent.text <+: body := (along.of_mem member).2.2
  rw [whole]
  exact within.trans (List.prefix_append ..)

/-- On a query inside the counters, extents begin where their tokens say. -/
theorem assigned_start (bound : query.length + 2 ≤ UInt32.size)
    (inside : ∀ extent ∈ extents, extent.before ++ extent.text <+: query.toList)
    (assigned : List.Forall₂ PlacedToken.Assigned tokens extents) :
    List.Forall₂ (fun token extent =>
      Position.start.advanceText (.ofList extent.before) = .ok token.span.start ∧
        token.value.SpelledBy extent.text) tokens extents := by
  induction assigned with
  | nil => exact .nil
  | @cons token extent tokens extents own others ih =>
    have within := (inside extent List.mem_cons_self).length_le
    rw [List.length_append, String.length_toList] at within
    refine .cons ⟨?_, own.2⟩ (ih fun other member => inside other (List.mem_cons_of_mem _ member))
    rw [Position.advanceText, String.toList_ofList, own.1]
    exact Position.advanceChars_start (by omega)

theorem accounting (account : Account [] tokens extents query.toList)
    (bound : query.length + 2 ≤ UInt32.size) : Accounting query tokens extents := by
  have inside := account.inside
  obtain ⟨assigned, body, tail, keyword, whole, letters, along⟩ := account
  have within : ∀ extent ∈ extents, extent.before ++ extent.text <+: body :=
    fun extent member => (along.of_mem member).2.2
  refine ⟨assigned_start bound inside assigned, ?_, along.pairwise, ?_⟩
  · intro extent member
    exact ⟨(along.of_mem member).2.1, inside extent member⟩
  · refine ⟨body, tail, keyword, whole, letters, within, ?_⟩
    intro before ch rest split
    exact along.blank_or_covered split

end Extent.Account

/-- The tokens of a query that is accepted with broken keywords losing a character: their
extents account for every character of it. -/
theorem Tokenizer.tokenize_accounting {preferences : SearchPreferences} {query : String}
    {session later : Log.Session} {stream : Stream} (mode : preferences.fallback = .legacy)
    (bound : query.length ≤ UInt32.size - 2)
    (answered : tokenize preferences query session = .ok (.ok stream, later)) :
    ∃ extents, Accounting query stream.tokens extents := by
  have completes := completes_of_tokenize answered
  rw [mode] at completes
  have holds : State.expression.Holds [] [] := .expression
  obtain ⟨extents, account⟩ := completes.account rfl holds
  exact ⟨extents, account.accounting (Nat.add_le_of_le_sub (by decide) bound)⟩

theorem Tokenizer.tokenize_accounting_dropped :
    ∃ stream, tokenize ⟨.legacy, true, true, false⟩ "Néa OR(b AN" {} = .ok (.ok stream, {}) ∧
      stream.tokens = [
        ⟨⟨.word, "Na"⟩, ⟨⟨0, 1, 1⟩, ⟨2, 1, 3⟩⟩⟩, ⟨⟨.word, "ORb"⟩, ⟨⟨5, 1, 5⟩, ⟨8, 1, 8⟩⟩⟩] ∧
      ∃ extents, Accounting "Néa OR(b AN" stream.tokens extents := by
  refine ⟨_, rfl, rfl, ?_⟩
  exact @tokenize_accounting ⟨.legacy, true, true, false⟩ _ {} {} _ rfl (by decide) rfl

end SearchLex
