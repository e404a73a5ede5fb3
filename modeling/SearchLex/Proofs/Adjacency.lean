import SearchLex.Proofs.Refinement

/-! Which tokens stand next to each other. What a state may retire depends on the token
retired last, however many characters ago that was, so the scanner is followed together
with the kind of that token. -/

namespace SearchLex

namespace Kind

/-- Whether a kind may come right after another one, or first in a query. An AND or OR comes
first only where blanks do (`indented`), and a word after a word only where the AND between
them was lost. -/
def follows (fallback : Fallback) (indented : Bool) (previous : Option Kind) : Kind → Bool
  | .and | .or =>
    match previous with
    | none => indented
    | some last => last == .word || last == .phrase || last == .closing
  | .not | .opening | .phrase => previous != some .word
  | .word => previous != some .word || fallback == .legacy
  | .closing => true

/-- The last of some kinds, or the one before them. -/
def latest (previous : Option Kind) : List Kind → Option Kind
  | [] => previous
  | kind :: rest => latest (some kind) rest

/-- Kinds each of which may follow the one before it. -/
def Ordered (fallback : Fallback) (indented : Bool) (previous : Option Kind) : List Kind → Prop
  | [] => True
  | kind :: rest =>
    follows fallback indented previous kind = true ∧ Ordered fallback indented (some kind) rest

theorem latest_append (previous : Option Kind) (left right : List Kind) :
    latest previous (left ++ right) = latest (latest previous left) right := by
  induction left generalizing previous with
  | nil => rfl
  | cons kind rest ih => exact ih (some kind)

theorem ordered_append {fallback : Fallback} {indented : Bool} {previous : Option Kind}
    {left right : List Kind} :
    Ordered fallback indented previous (left ++ right) ↔
      Ordered fallback indented previous left ∧
        Ordered fallback indented (latest previous left) right := by
  induction left generalizing previous with
  | nil => simp [Ordered, latest]
  | cons kind rest ih => simp [Ordered, latest, ih, and_assoc]

/-- AND and OR stand in the same places. -/
theorem follows_connective {kind : Kind} (connective : kind = .and ∨ kind = .or)
    (fallback : Fallback) (indented : Bool) (previous : Option Kind) :
    kind.follows fallback indented previous = Kind.and.follows fallback indented previous := by
  rcases connective with rfl | rfl <;> rfl

theorem follows_word_iff {kind : Kind} {fallback : Fallback} {indented : Bool} :
    kind.follows fallback indented (some .word) = true ↔
      kind = .and ∨ kind = .or ∨ kind = .closing ∨ fallback = .legacy ∧ kind = .word := by
  cases kind <;> simp [follows]

end Kind

theorem Keyword.kind_connective {operator : Keyword} (connective : operator ≠ .not) :
    operator.kind = .and ∨ operator.kind = .or := by
  cases operator with
  | not => exact absurd rfl connective
  | and => exact .inl rfl
  | or => exact .inr rfl

/-- The kinds of some tokens. -/
def PlacedToken.kinds (tokens : List PlacedToken) : List Kind := tokens.map (·.value.kind)

namespace State

open PlacedToken (kinds)

/-- A state that may stand after a token of the kind `previous`, or at the start. The token
it holds may follow that one, and blanks are held back before AND and OR only. -/
def Adjoins (fallback : Fallback) (indented : Bool) (previous : Option Kind) : State → Prop
  | .expression => previous = some .phrase
  | .afterKeyword => ∃ operator : Keyword, previous = some operator.kind
  | .opening _ => Kind.opening.follows fallback indented previous = true
  | .closing _ => True
  | .word _ => Kind.word.follows fallback indented previous = true
  | .phrase _ => Kind.phrase.follows fallback indented previous = true
  | .implicitAnd _ => Kind.and.follows fallback indented previous = true
  | .keyword operator _ held =>
    operator.kind.follows fallback indented previous = true ∧ (held = none ↔ operator = .not)

variable {fallback : Fallback} {indented : Bool} {previous : Option Kind}

/-- A character opens a state that may stand here, unless a word was retired last. -/
theorem Opens.adjoins {ch : Char} {place : Position} {next : State} (opens : Opens ch place next)
    (apart : previous ≠ some .word)
    (blanks : Alphabet.isBlank ch = true → Kind.and.follows fallback indented previous = true) :
    next.Adjoins fallback indented previous := by
  cases opens with
  | opening | phrase => simpa [Adjoins, Kind.follows] using apart
  | closing => trivial
  | blanks blank => exact blanks blank
  | negation => simpa [Adjoins, Kind.follows, Keyword.kind] using apart
  | word => simp [Adjoins, Kind.follows, apart]

theorem Continues.adjoins {literal : Literal} {ch : Char} {place : Position}
    {emitted : List PlacedToken} {next : State}
    (continues : Continues literal ch place emitted next)
    (word : Kind.word.follows fallback indented previous = true) :
    Kind.Ordered fallback indented previous (kinds emitted) ∧
      next.Adjoins fallback indented (Kind.latest previous (kinds emitted)) := by
  cases continues with
  | grow => exact ⟨trivial, word⟩
  | close => exact ⟨⟨word, trivial⟩, trivial⟩
  | part => exact ⟨⟨word, trivial⟩, rfl⟩

/-- A word may stand where a keyword broke off, after the AND that was held back. -/
theorem released_adjoins {operator : Keyword} {literal : Literal} {held : Option Literal}
    (stands : (State.keyword operator literal held).Adjoins fallback indented previous) :
    Kind.Ordered fallback indented previous (kinds (released held)) ∧
      Kind.word.follows fallback indented
        (Kind.latest previous (kinds (released held))) = true := by
  obtain ⟨follows, loose⟩ := stands
  cases held with
  | none =>
    rw [loose.mp rfl] at follows
    have word : Kind.word.follows fallback indented previous = true :=
      Bool.or_eq_true_iff.mpr (.inl follows)
    exact ⟨trivial, word⟩
  | some blanks =>
    have connective : operator ≠ .not := fun negation => by cases loose.mpr negation
    rw [Kind.follows_connective (Keyword.kind_connective connective)] at follows
    exact ⟨⟨follows, trivial⟩, rfl⟩

/-- A transition retires tokens in order and leads to a state that may stand after them. -/
theorem Transition.adjoins {state next : State} {ch : Char} {place : Position}
    {emitted : List PlacedToken} (transition : Transition fallback ch place state emitted next)
    (stands : state.Adjoins fallback indented previous) :
    Kind.Ordered fallback indented previous (kinds emitted) ∧
      next.Adjoins fallback indented (Kind.latest previous (kinds emitted)) := by
  cases transition with
  | start opens =>
    cases stands
    exact ⟨trivial, opens.adjoins (by decide) fun _ => rfl⟩
  | skip => exact ⟨trivial, stands⟩
  | resume solid opens =>
    obtain ⟨operator, rfl⟩ := stands
    exact ⟨trivial, opens.adjoins (by cases operator <;> decide) (by simp [solid])⟩
  | retireOpening solid opens =>
    have later : next.Adjoins fallback indented (some .opening) :=
      opens.adjoins (by decide) (by simp [solid])
    exact ⟨⟨stands, trivial⟩, later⟩
  | retireClosing opens =>
    have later : next.Adjoins fallback indented (some .closing) :=
      opens.adjoins (by decide) fun _ => rfl
    exact ⟨⟨rfl, trivial⟩, later⟩
  | word continues => exact continues.adjoins stands
  | growPhrase | growBlanks | growKeyword => exact ⟨trivial, stands⟩
  | endPhrase => exact ⟨⟨stands, trivial⟩, rfl⟩
  | hold connective =>
    refine ⟨trivial, ?_, by simp [connective]⟩
    rw [Kind.follows_connective (Keyword.kind_connective connective)]
    exact stands
  | retireBlanks solid opens =>
    have later : next.Adjoins fallback indented (some .and) :=
      opens.adjoins (by decide) (by simp [solid])
    exact ⟨⟨stands, trivial⟩, later⟩
  | @endKeyword operator => exact ⟨⟨stands.1, trivial⟩, operator, rfl⟩
  | feedThrough mode continues =>
    obtain ⟨released, word⟩ := released_adjoins stands
    obtain ⟨ordered, later⟩ := continues.adjoins word
    rw [kinds, List.map_append, Kind.latest_append]
    exact ⟨Kind.ordered_append.mpr ⟨released, ordered⟩, later⟩
  | drop mode =>
    -- The held AND is lost, so the word may come to stand right after another one.
    exact ⟨trivial, by simp [Adjoins, Kind.follows, mode]⟩

theorem Ends.ordered {state : State} {tokens : List PlacedToken} (ends : Ends fallback state tokens)
    (stands : state.Adjoins fallback indented previous) :
    Kind.Ordered fallback indented previous (kinds tokens) := by
  cases ends with
  | expression | afterKeyword | blanks | lost => trivial
  | opening | word => exact ⟨stands, trivial⟩
  | closing => exact ⟨rfl, trivial⟩
  | operator => exact ⟨stands.1, trivial⟩
  | broken =>
    obtain ⟨released, word⟩ := released_adjoins stands
    rw [kinds, List.map_append]
    exact Kind.ordered_append.mpr ⟨released, word, trivial⟩

/-- A run retires tokens in order. -/
theorem Completes.ordered {state : State} {place : Position} {chars : List Char}
    {tokens : List PlacedToken} (completes : Completes fallback state place chars tokens)
    (stands : state.Adjoins fallback indented previous) :
    Kind.Ordered fallback indented previous (kinds tokens) := by
  induction completes generalizing previous with
  | done place ends => exact ends.ordered stands
  | step transition further ih =>
    obtain ⟨ordered, later⟩ := transition.adjoins stands
    rw [kinds, List.map_append]
    exact Kind.ordered_append.mpr ⟨ordered, ih later⟩

/-- The tokens of a whole query are in order. Only its first character can be a blank that
no token precedes. -/
theorem Completes.ordered_start {place : Position} {chars : List Char} {tokens : List PlacedToken}
    (completes : Completes fallback .expression place chars tokens) :
    Kind.Ordered fallback (chars.head?.any Alphabet.isBlank) none (kinds tokens) := by
  cases completes with
  | done place ends =>
    cases ends
    trivial
  | step transition further =>
    cases transition with
    | start opens => exact further.ordered (opens.adjoins (by decide) fun blank => blank)

/-- The text that a state takes for blanks is blank, and what it takes for the beginning of a
keyword begins it. -/
def Spells : State → Prop
  | .implicitAnd literal => ∀ ch ∈ literal.text.toList, Alphabet.isBlank ch = true
  | .keyword operator literal _ => literal.text.toList <+: operator.letters
  | _ => True

theorem Opens.spells {ch : Char} {place : Position} {next : State}
    (opens : Opens ch place next) : next.Spells := by
  cases opens with
  | blanks blank => simpa [Spells, Literal.ofChar] using blank
  | negation own => simp [Spells, Literal.ofChar, own, Keyword.letters]
  | opening | closing | phrase | word => trivial

theorem Continues.spells {literal : Literal} {ch : Char} {place : Position}
    {emitted : List PlacedToken} {next : State}
    (continues : Continues literal ch place emitted next) : next.Spells := by
  cases continues with
  | grow | close => trivial
  | part blank => simpa [Spells, Literal.ofChar] using blank

theorem Transition.spells {state next : State} {ch : Char} {place : Position}
    {emitted : List PlacedToken} (transition : Transition fallback ch place state emitted next)
    (spells : state.Spells) : next.Spells := by
  cases transition with
  | start opens | resume _ opens | retireOpening _ opens | retireClosing opens
  | retireBlanks _ opens => exact opens.spells
  | word continues | feedThrough _ continues => exact continues.spells
  | skip | growPhrase | endPhrase | endKeyword | drop => trivial
  | growBlanks blank =>
    rw [Spells, Literal.push, String.toList_push]
    exact List.forall_mem_append.mpr ⟨spells, List.forall_mem_singleton.mpr blank⟩
  | @hold literal operator connective begins =>
    obtain ⟨letters, whole⟩ := List.head?_eq_some_iff.mp begins
    exact ⟨letters, by simp [Literal.ofChar, whole]⟩
  | growKeyword expected =>
    rw [← String.length_toList] at expected
    simpa [Spells, Literal.push] using Keyword.expects_eq_some spells expected

/-- A state whose token is retired sooner or later if the query is accepted. -/
def isBound : State → Bool
  | .opening _ | .closing _ | .word _ | .phrase _ => true
  | _ => false

theorem Completes.ne_nil {state : State} {place : Position} {chars : List Char}
    {tokens : List PlacedToken} (completes : Completes fallback state place chars tokens)
    (bound : state.isBound = true) : tokens ≠ [] := by
  induction completes with
  | done place ends =>
    cases ends with
    | opening | closing | word => simp
    | expression | afterKeyword | blanks | operator | broken | lost => cases bound
  | step transition further ih =>
    cases transition with
    | retireOpening | retireClosing | endPhrase => simp
    | word continues =>
      cases continues with
      | grow => exact ih rfl
      | close | part => simp
    | growPhrase => exact ih rfl
    | start | skip | resume | growBlanks | hold | retireBlanks | growKeyword | endKeyword
    | feedThrough | drop => cases bound

/-- Letters that begin a keyword retire nothing only if they are lost at the end of the query,
before anything breaks them off. -/
theorem Completes.lost {operator : Keyword} {literal : Literal} {held : Option Literal}
    {place : Position} {chars : List Char}
    (completes : Completes fallback (.keyword operator literal held) place chars [])
    (spells : literal.text.toList <+: operator.letters) :
    fallback = .legacy ∧ literal.text.toList ++ chars <+: operator.letters := by
  generalize owned : State.keyword operator literal held = state at completes
  generalize silent : ([] : List PlacedToken) = tokens at completes
  induction completes generalizing literal with
  | done place ends =>
    subst owned
    cases ends with
    | lost _ _ _ mode => exact ⟨mode, by simpa using spells⟩
    | operator => cases silent
    | broken => simp at silent
  | step transition further ih =>
    subst owned
    obtain ⟨quiet, rfl⟩ := List.append_eq_nil_iff.mp silent.symm
    cases transition with
    | growKeyword expected =>
      rw [← String.length_toList] at expected
      have more := Keyword.expects_eq_some spells expected
      simpa [Literal.push] using ih (by simpa [Literal.push] using more) rfl rfl
    | endKeyword => cases quiet
    | feedThrough _ continues =>
      cases continues with
      | grow => exact absurd rfl (further.ne_nil rfl)
      | close | part => simp at quiet
    | drop => exact absurd rfl (further.ne_nil rfl)

/-- The blanks that a state holds as the AND they may become. -/
def blanks : State → List Char
  | .implicitAnd literal => literal.text.toList
  | _ => []

theorem Transition.blanks_suffix {state next : State} {ch : Char} {place : Position}
    {emitted : List PlacedToken} (transition : Transition fallback ch place state emitted next) :
    next.blanks <:+ state.blanks ++ [ch] := by
  cases next with
  | implicitAnd literal =>
    cases transition with
    | start opens | resume _ opens | retireOpening _ opens | retireClosing opens
    | retireBlanks _ opens =>
      cases opens
      simp [blanks, Literal.ofChar]
    | word continues | feedThrough _ continues =>
      cases continues
      simp [blanks, Literal.ofChar]
    | growBlanks => simp [blanks, Literal.push]
  | expression | afterKeyword | opening place | closing place | word literal | phrase literal
  | keyword operator literal held => exact List.nil_suffix

/-- A keyword that ended is no AND of blanks. -/
theorem isImplicitAnd_of_whole {operator : Keyword} {literal : Literal}
    (spells : literal.text.toList <+: operator.letters)
    (whole : operator.expects literal.text.length = none) :
    (literal.placed operator.kind).value.isImplicitAnd = false := by
  rw [← String.length_toList] at whole
  have spelled : literal.text = operator.text := by
    rw [Keyword.text, ← (Keyword.expects_eq_none spells).mp whole, String.ofList_toList]
  rw [Literal.placed, spelled]
  cases operator <;> rfl

theorem Ends.getLast_not_implicit {state : State} {tokens : List PlacedToken}
    (ends : Ends fallback state tokens) (spells : state.Spells) :
    ∀ token ∈ tokens.getLast?, token.value.isImplicitAnd = false := by
  intro token last
  cases ends with
  | expression | afterKeyword | blanks | lost => cases last
  | opening | closing | word =>
    cases last
    rfl
  | operator held mode whole =>
    cases last
    exact isImplicitAnd_of_whole spells whole
  | broken =>
    rw [List.getLast?_concat] at last
    cases last
    rfl

/-- An implicit AND that a transition retires last, with nothing after it in the whole query,
is that of blanks before the letters of a negation that was lost. -/
theorem Transition.lost {state next : State} {ch : Char} {place : Position} {rest : List Char}
    {emitted : List PlacedToken} {token : PlacedToken}
    (transition : Transition fallback ch place state emitted next) (spells : state.Spells)
    (further : Completes fallback next (place.next ch) rest [])
    (last : emitted.getLast? = some token) (implicit : token.value.isImplicitAnd = true) :
    fallback = .legacy ∧ state.blanks = token.value.literal.toList ∧
      (∀ own ∈ token.value.literal.toList, Alphabet.isBlank own = true) ∧
      ch :: rest <+: Keyword.not.letters := by
  cases transition with
  | start | skip | resume | growPhrase | growBlanks | hold | growKeyword | drop => cases last
  | retireOpening | retireClosing | endPhrase =>
    cases last
    cases implicit
  | word continues =>
    cases continues with
    | grow => cases last
    | close | part =>
      cases last
      cases implicit
  | endKeyword whole =>
    cases last
    exact absurd implicit (Bool.eq_false_iff.mp (isImplicitAnd_of_whole spells whole))
  | feedThrough _ continues =>
    cases continues with
    | grow => exact absurd rfl (further.ne_nil rfl)
    | close | part =>
      rw [List.getLast?_concat] at last
      cases last
      cases implicit
  | retireBlanks solid opens =>
    cases last
    cases opens with
    | opening | closing | phrase | word => exact absurd rfl (further.ne_nil rfl)
    | blanks blank =>
      rw [solid] at blank
      cases blank
    | negation own =>
      obtain ⟨mode, begun⟩ := further.lost (by simp [Literal.ofChar, own, Keyword.letters])
      exact ⟨mode, rfl, spells, by simpa [Literal.ofChar] using begun⟩

/-- A query that ends with an implicit AND ends with its blanks and the letters of a negation
that was lost. -/
theorem Completes.trailing {state : State} {place : Position} {chars : List Char}
    {tokens : List PlacedToken} {token : PlacedToken}
    (completes : Completes fallback state place chars tokens) (spells : state.Spells)
    (last : tokens.getLast? = some token) (implicit : token.value.isImplicitAnd = true) :
    fallback = .legacy ∧ (∀ ch ∈ token.value.literal.toList, Alphabet.isBlank ch = true) ∧
      ∃ before begun, begun ≠ [] ∧ begun <+: Keyword.not.letters ∧
      state.blanks ++ chars = before ++ token.value.literal.toList ++ begun := by
  induction completes with
  | done place ends =>
    rw [ends.getLast_not_implicit spells token last] at implicit
    cases implicit
  | @step state next place ch rest emitted tokens transition further ih =>
    rw [List.getLast?_append] at last
    cases ending : tokens.getLast? with
    | none =>
      -- The AND is of this step, and the rest of the query retires nothing.
      obtain rfl := List.getLast?_eq_none_iff.mp ending
      obtain ⟨mode, own, blank, begun⟩ := transition.lost spells further last implicit
      exact ⟨mode, blank, [], ch :: rest, by simp, begun, by rw [own, List.nil_append]⟩
    | some other =>
      rw [ending] at last
      cases last
      obtain ⟨mode, blank, before, begun, nonempty, letters, split⟩ :=
        ih (transition.spells spells) ending
      obtain ⟨front, own⟩ := transition.blanks_suffix
      refine ⟨mode, blank, front ++ before, begun, nonempty, letters, ?_⟩
      calc state.blanks ++ ch :: rest
        _ = front ++ (next.blanks ++ rest) := by
          rw [← List.append_assoc front, own, List.append_assoc, List.singleton_append]
        _ = front ++ before ++ token.value.literal.toList ++ begun := by
          rw [split]
          simp only [List.append_assoc]

end State

/-- Which tokens of a query stand next to each other. -/
structure Adjacency (fallback : Fallback) (query : String) (tokens : List PlacedToken) : Prop where
  /-- AND and OR come first only in a query that begins with a blank. -/
  first : ∀ token later, tokens = token :: later →
    token.value.kind = .and ∨ token.value.kind = .or →
    ∃ ch rest, query.toList = ch :: rest ∧ Alphabet.isBlank ch = true
  /-- AND and OR come after a term or a closing parenthesis. -/
  connective : ∀ earlier left right later, tokens = earlier ++ left :: right :: later →
    right.value.kind = .and ∨ right.value.kind = .or →
    left.value.kind = .word ∨ left.value.kind = .phrase ∨ left.value.kind = .closing
  negation : ∀ earlier left right later, tokens = earlier ++ left :: right :: later →
    right.value.kind = .not → left.value.kind ≠ .word
  /-- Words stand side by side only where the AND between them was lost. -/
  afterWord : ∀ earlier left right later, tokens = earlier ++ left :: right :: later →
    left.value.kind = .word →
    right.value.kind = .and ∨ right.value.kind = .or ∨ right.value.kind = .closing ∨
      fallback = .legacy ∧ right.value.kind = .word
  /-- An implicit AND is last only if its blanks stand before the letters of a negation that
  was lost. -/
  last : ∀ earlier token, tokens = earlier ++ [token] → token.value.isImplicitAnd = true →
    fallback = .legacy ∧ (∀ ch ∈ token.value.literal.toList, Alphabet.isBlank ch = true) ∧
      ∃ before begun, begun ∈ ["N", "NO", "NOT"] ∧ query = before ++ token.value.literal ++ begun

namespace Keyword

theorem text_of_prefix_not {begun : List Char} (nonempty : begun ≠ [])
    (letters : begun <+: Keyword.not.letters) : String.ofList begun ∈ ["N", "NO", "NOT"] := by
  simp only [Keyword.letters, List.prefix_cons_iff, List.prefix_nil] at letters
  rcases letters with rfl | ⟨_, rfl, rfl | ⟨_, rfl, rfl | ⟨_, rfl, rfl⟩⟩⟩
  · exact absurd rfl nonempty
  · decide
  · decide
  · decide

end Keyword

namespace State.Completes

variable {fallback : Fallback} {query : String} {tokens : List PlacedToken}

theorem follows_of_split {place : Position} {chars : List Char}
    (completes : Completes fallback .expression place chars tokens)
    {earlier later : List PlacedToken} {left right : PlacedToken}
    (split : tokens = earlier ++ left :: right :: later) :
    right.value.kind.follows fallback (chars.head?.any Alphabet.isBlank)
      (some left.value.kind) = true := by
  have ordered := completes.ordered_start
  rw [split, PlacedToken.kinds, List.map_append] at ordered
  exact (Kind.ordered_append.mp ordered).2.2.1

/-- The tokens of a run over a whole query stand next to each other as listed. -/
theorem adjacency (completes : Completes fallback .expression .start query.toList tokens) :
    Adjacency fallback query tokens where
  first := by
    intro token later split connective
    have ordered := completes.ordered_start
    rw [split] at ordered
    have blank := ordered.1
    rw [Kind.follows_connective connective] at blank
    cases chars : query.toList with
    | nil =>
      rw [chars] at blank
      cases blank
    | cons ch rest =>
      rw [chars] at blank
      exact ⟨ch, rest, rfl, blank⟩
  connective := by
    intro earlier left right later split connective
    have follows := completes.follows_of_split split
    rw [Kind.follows_connective connective] at follows
    simpa [Kind.follows, or_assoc] using follows
  negation := by
    intro earlier left right later split negation
    have follows := completes.follows_of_split split
    simpa [negation, Kind.follows] using follows
  afterWord := by
    intro earlier left right later split word
    have follows := completes.follows_of_split split
    rw [word] at follows
    exact Kind.follows_word_iff.mp follows
  last := by
    intro earlier token split implicit
    have ending : tokens.getLast? = some token := by rw [split, List.getLast?_concat]
    obtain ⟨mode, blank, before, begun, nonempty, letters, whole⟩ :=
      completes.trailing trivial ending implicit
    have spelled := Keyword.text_of_prefix_not nonempty letters
    refine ⟨mode, blank, .ofList before, .ofList begun, spelled, ?_⟩
    have texts := congrArg String.ofList whole
    simpa [State.blanks, String.append_assoc] using texts

end State.Completes

/-- The tokens of an accepted query: what may come right before an AND, an OR or a NOT and
right after a word, and how an implicit AND can come last. -/
theorem Tokenizer.tokenize_adjacency {preferences : SearchPreferences} {query : String}
    {session later : Log.Session} {stream : Stream}
    (answered : tokenize preferences query session = .ok (.ok stream, later)) :
    Adjacency preferences.fallback query stream.tokens :=
  (completes_of_tokenize answered).adjacency

theorem Tokenizer.tokenize_adjacency_lost_negation :
    ∃ stream, tokenize ⟨.legacy, true, true, false⟩ "a ABc NO" {} = .ok (.ok stream, {}) ∧
      stream.tokens.map (·.value) = [⟨.word, "a"⟩, ⟨.word, "Ac"⟩, ⟨.and, " "⟩] ∧
      Adjacency .legacy "a ABc NO" stream.tokens := by
  refine ⟨_, rfl, rfl, ?_⟩
  exact @tokenize_adjacency ⟨.legacy, true, true, false⟩ _ {} {} _ rfl

end SearchLex
