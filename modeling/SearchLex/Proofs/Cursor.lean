import SearchLex.Token.Stream

/-! A stream under the moves of a parser. Whatever is read, refused or taken back, the stream
stays a list of tokens with a position in it: what is ahead is the list without the tokens that
are read, and each move is decided by the token ahead alone. Looking ahead sees every token that
is there, but faults at a distance that leads out of the 64-bit numbers. -/

namespace SearchLex.Stream

/-- What a parser does to a stream. -/
inductive Move where
  | advance
  | advanceIf (kind : Kind)
  | expect (kind : Kind)
  /-- Goes to a checkpoint, whether or not it was ever taken from the stream. -/
  | restore (checkpoint : Nat)

/-- The stream after a move. -/
def after (stream : Stream) : Move → Stream
  | .advance => stream.next.2
  | .advanceIf kind => (stream.advanceIf kind).2
  | .expect kind => (stream.expect kind).2
  | .restore checkpoint => stream.restore checkpoint

/-- The stream after moves, one after another. -/
def afterAll (stream : Stream) (moves : List Move) : Stream := moves.foldl after stream

/-- The stream with one token more read. -/
def passed (stream : Stream) : Stream := { stream with position := stream.position + 1 }

variable {stream : Stream} {token : PlacedToken} {rest : List PlacedToken} {kind : Kind}

/-! ### What a stream shows -/

theorem current_eq_head? (stream : Stream) : stream.current = stream.remaining.head? := by
  rw [current, remaining, List.head?_drop]

theorem atEnd_iff (stream : Stream) : stream.atEnd = true ↔ stream.remaining = [] := by
  rw [atEnd, decide_eq_true_iff, remaining, List.drop_eq_nil_iff, size]

/-- A token is ahead exactly before the end. -/
theorem position_lt_iff (stream : Stream) :
    stream.position < stream.size ↔ stream.remaining ≠ [] := by
  rw [remaining, ne_eq, List.drop_eq_nil_iff, size, Nat.not_le]

theorem remaining_passed (ahead : stream.remaining = token :: rest) :
    stream.passed.remaining = rest := by
  have shorter : stream.passed.remaining = stream.remaining.tail := List.tail_drop.symm
  rw [shorter, ahead, List.tail_cons]

/-! ### What a move does -/

theorem advance_of_ahead (ahead : stream.remaining ≠ []) : stream.advance = stream.passed :=
  if_pos (stream.position_lt_iff.mpr ahead)

theorem next_of_ended (ended : stream.remaining = []) : stream.next = (none, stream) := by
  have stays : stream.advance = stream :=
    if_neg fun before => stream.position_lt_iff.mp before ended
  rw [next, stays, current_eq_head?, ended, List.head?_nil]

/-- A move over the token ahead gives the token behind it. -/
theorem next_of_ahead (ahead : stream.remaining = token :: rest) :
    stream.next = (rest.head?, stream.passed) := by
  have moves : stream.advance = stream.passed := advance_of_ahead (by simp [ahead])
  rw [next, moves, current_eq_head?, remaining_passed ahead]

theorem expect_of_ended (ended : stream.remaining = []) (kind : Kind) :
    stream.expect kind = (.error (.ended kind), stream) := by
  rw [expect, current_eq_head?, ended]
  rfl

theorem expect_of_kind (ahead : stream.remaining = token :: rest)
    (same : token.value.kind = kind) : stream.expect kind = (.ok token, stream.passed) := by
  have moves : stream.advance = stream.passed := advance_of_ahead (by simp [ahead])
  simp only [expect, current_eq_head?, ahead, List.head?_cons, same, moves, ↓reduceIte]

theorem expect_of_other (ahead : stream.remaining = token :: rest)
    (other : token.value.kind ≠ kind) :
    stream.expect kind = (.error (.unexpected kind token.value.kind token.span), stream) := by
  simp only [expect, current_eq_head?, ahead, List.head?_cons, other, ↓reduceIte]

/-- A tentative move is an expectation whose token and complaint are thrown away. -/
theorem advanceIf_eq_expect (stream : Stream) (kind : Kind) :
    stream.advanceIf kind = ((stream.expect kind).1.isOk, (stream.expect kind).2) := by
  cases ahead : stream.remaining with
  | nil =>
    rw [expect_of_ended ahead]
    simp [advanceIf, check, current_eq_head?, ahead, Except.isOk, Except.toBool]
  | cons token rest =>
    by_cases same : token.value.kind = kind
    · have moves : stream.advance = stream.passed := advance_of_ahead (by simp [ahead])
      rw [expect_of_kind ahead same]
      simp [advanceIf, check, current_eq_head?, ahead, same, moves, Except.isOk, Except.toBool]
    · rw [expect_of_other ahead same]
      simp [advanceIf, check, current_eq_head?, ahead, same, Except.isOk, Except.toBool]

/-! ### What moves preserve -/

/-- A stream that reads a list of tokens and has not left it. -/
structure Reads (stream : Stream) (tokens : List PlacedToken) : Prop where
  tokens_eq : stream.tokens = tokens
  position_le : stream.position ≤ stream.size

variable {tokens : List PlacedToken}

theorem Reads.passed (reads : stream.Reads tokens) (ahead : stream.remaining = token :: rest) :
    stream.passed.Reads tokens :=
  ⟨reads.tokens_eq, stream.position_lt_iff.mpr (by simp [ahead])⟩

theorem Reads.restore (reads : stream.Reads tokens) (checkpoint : Nat) :
    (stream.restore checkpoint).Reads tokens :=
  ⟨reads.tokens_eq, Nat.min_le_right ..⟩

theorem Reads.expect (reads : stream.Reads tokens) (kind : Kind) :
    (stream.expect kind).2.Reads tokens := by
  cases ahead : stream.remaining with
  | nil => rwa [expect_of_ended ahead]
  | cons token rest =>
    by_cases same : token.value.kind = kind
    · rw [expect_of_kind ahead same]
      exact reads.passed ahead
    · rwa [expect_of_other ahead same]

/-- No move changes the tokens or leaves them. -/
theorem Reads.after (reads : stream.Reads tokens) (move : Move) :
    (stream.after move).Reads tokens := by
  cases move with
  | advance =>
    rw [Stream.after]
    cases ahead : stream.remaining with
    | nil => rwa [next_of_ended ahead]
    | cons token rest =>
      rw [next_of_ahead ahead]
      exact reads.passed ahead
  | advanceIf kind =>
    rw [Stream.after, advanceIf_eq_expect]
    exact reads.expect kind
  | expect kind => exact reads.expect kind
  | restore checkpoint => exact reads.restore checkpoint

theorem Reads.afterAll (reads : stream.Reads tokens) (moves : List Move) :
    (stream.afterAll moves).Reads tokens := by
  induction moves generalizing stream with
  | nil => exact reads
  | cons move rest ih => exact ih (reads.after move)

theorem reads_ofTokens (tokens : List PlacedToken) : (ofTokens tokens).Reads tokens :=
  ⟨rfl, Nat.zero_le _⟩

/-- A checkpoint of a list leads back to what was ahead there. A number past the end leads to
the end, where nothing is. -/
theorem Reads.remaining_restore (reads : stream.Reads tokens) (checkpoint : Nat) :
    (stream.restore checkpoint).remaining = tokens.drop checkpoint := by
  rw [remaining, Stream.restore, size, reads.tokens_eq]
  rcases Nat.le_total checkpoint tokens.length with inside | outside
  · rw [Nat.min_eq_left inside]
  · rw [Nat.min_eq_right outside, List.drop_length, List.drop_of_length_le outside]

/-- A stream that is a list of tokens with a position: what it shows and what each move does
follows from the tokens ahead. -/
structure Refines (stream : Stream) (tokens : List PlacedToken) : Prop extends
    stream.Reads tokens where
  remaining_eq : stream.remaining = tokens.drop stream.position
  current_eq : stream.current = stream.remaining.head?
  atEnd : stream.atEnd = true ↔ stream.remaining = []
  next_ended : stream.remaining = [] → stream.next = (none, stream)
  next_ahead : ∀ token rest, stream.remaining = token :: rest →
    stream.next = (rest.head?, stream.passed) ∧ stream.passed.remaining = rest
  expect_ok_iff : ∀ kind token, (stream.expect kind).1 = .ok token ↔
    stream.remaining.head? = some token ∧ token.value.kind = kind
  expect_ok : ∀ kind token, (stream.expect kind).1 = .ok token →
    (stream.expect kind).2 = stream.passed
  /-- A refusal tells the token ahead, or that there is none. -/
  expect_error : ∀ kind mismatch, (stream.expect kind).1 = .error mismatch →
    (stream.expect kind).2 = stream ∧ mismatch = stream.remaining.head?.elim (.ended kind)
      fun token => .unexpected kind token.value.kind token.span
  advanceIf_iff : ∀ kind, (stream.advanceIf kind).1 = true ↔
    ∃ token, stream.remaining.head? = some token ∧ token.value.kind = kind
  advanceIf_moves : ∀ kind, (stream.advanceIf kind).2 =
    if (stream.advanceIf kind).1 then stream.passed else stream
  restore : ∀ checkpoint, (stream.restore checkpoint).position = min checkpoint tokens.length ∧
    (stream.restore checkpoint).remaining = tokens.drop checkpoint

/-- An expectation and a tentative move go by the kind of the token ahead. -/
theorem expect_cases (stream : Stream) (kind : Kind) :
    (∃ token, stream.remaining.head? = some token ∧ token.value.kind = kind ∧
      stream.expect kind = (.ok token, stream.passed) ∧
      stream.advanceIf kind = (true, stream.passed)) ∨
    (∀ token, stream.remaining.head? = some token → token.value.kind ≠ kind) ∧
      stream.expect kind = (.error (stream.remaining.head?.elim (.ended kind)
        fun token => .unexpected kind token.value.kind token.span), stream) ∧
      stream.advanceIf kind = (false, stream) := by
  rw [advanceIf_eq_expect]
  cases ahead : stream.remaining with
  | nil =>
    rw [expect_of_ended ahead]
    exact .inr ⟨by simp, rfl, rfl⟩
  | cons token rest =>
    by_cases same : token.value.kind = kind
    · rw [expect_of_kind ahead same]
      exact .inl ⟨token, rfl, same, rfl, rfl⟩
    · rw [expect_of_other ahead same]
      refine .inr ⟨?_, rfl, rfl⟩
      intro other first
      cases first
      exact same

theorem Reads.refines (reads : stream.Reads tokens) : stream.Refines tokens where
  toReads := reads
  remaining_eq := by rw [remaining, reads.tokens_eq]
  current_eq := stream.current_eq_head?
  atEnd := stream.atEnd_iff
  next_ended := next_of_ended
  next_ahead _ _ ahead := ⟨next_of_ahead ahead, remaining_passed ahead⟩
  expect_ok_iff kind token := by
    rcases stream.expect_cases kind with ⟨first, ahead, same, read, _⟩ | ⟨other, refused, _⟩
    · rw [read, ahead]
      constructor
      · rintro ⟨⟩
        exact ⟨rfl, same⟩
      · rintro ⟨⟨⟩, _⟩
        rfl
    · rw [refused]
      constructor
      · rintro ⟨⟩
      · rintro ⟨ahead, same⟩
        exact absurd same (other token ahead)
  expect_ok kind token read := by
    rcases stream.expect_cases kind with ⟨_, _, _, whole, _⟩ | ⟨_, refused, _⟩
    · rw [whole]
    · rw [refused] at read
      cases read
  expect_error kind mismatch refused := by
    rcases stream.expect_cases kind with ⟨_, _, _, read, _⟩ | ⟨_, whole, _⟩
    · rw [read] at refused
      cases refused
    · rw [whole] at refused ⊢
      exact ⟨rfl, (Except.error.inj refused).symm⟩
  advanceIf_iff kind := by
    rcases stream.expect_cases kind with ⟨token, ahead, same, _, moved⟩ | ⟨other, _, stayed⟩
    · rw [moved]
      exact ⟨fun _ => ⟨token, ahead, same⟩, fun _ => rfl⟩
    · rw [stayed]
      constructor
      · rintro ⟨⟩
      · rintro ⟨token, ahead, same⟩
        exact absurd same (other token ahead)
  advanceIf_moves kind := by
    rcases stream.expect_cases kind with ⟨_, _, _, _, moved⟩ | ⟨_, _, stayed⟩
    · rw [moved]
      rfl
    · rw [stayed]
      rfl
  restore checkpoint := by
    refine ⟨?_, reads.remaining_restore checkpoint⟩
    rw [Stream.restore, size, reads.tokens_eq]

/-- Whatever moves a parser makes from the start of a list of tokens, the stream is still that
list with a position, and a checkpoint taken there leads back to what was ahead, whatever moves
come in between. -/
theorem afterAll_refines (tokens : List PlacedToken) (moves : List Move) :
    let stream := (ofTokens tokens).afterAll moves
    stream.Refines tokens ∧ ∀ later : List Move,
      ((stream.afterAll later).restore stream.position).remaining = stream.remaining := by
  intro stream
  have reads : stream.Reads tokens := (reads_ofTokens tokens).afterAll moves
  refine ⟨reads.refines, ?_⟩
  intro later
  have again := (reads.afterAll later).remaining_restore stream.position
  rw [again, remaining, reads.tokens_eq]

/-! ### Looking ahead -/

theorem peekAhead_eq (stream : Stream) (distance : UInt64) :
    stream.peekAhead distance =
      if stream.position + distance.toNat < UInt64.size then
        .ok stream.remaining[distance.toNat]?
      else .error .additionOverflow := by
  rw [peekAhead, remaining, List.getElem?_drop]

/-- What is ahead at a distance lies inside the list. -/
theorem Reads.position_add_lt (reads : stream.Reads tokens) {distance : Nat}
    (ahead : stream.remaining[distance]? = some token) :
    stream.position + distance < tokens.length := by
  obtain ⟨inside, _⟩ := List.getElem?_eq_some_iff.mp ahead
  rw [remaining, List.length_drop, reads.tokens_eq] at inside
  omega

/-- Whatever moves a parser makes, looking ahead finds the token at any distance where there is
one. Where there is none it says so, unless the position and the distance add up to more than a
64-bit number: then it faults. -/
theorem afterAll_peekAhead {tokens : List PlacedToken} (fits : tokens.length ≤ UInt64.size)
    (moves : List Move) (distance : UInt64) :
    let stream := (ofTokens tokens).afterAll moves
    (∀ token, stream.remaining[distance.toNat]? = some token →
      stream.peekAhead distance = .ok (some token)) ∧
    (stream.remaining[distance.toNat]? = none →
      stream.peekAhead distance =
        if stream.position + distance.toNat < UInt64.size then .ok none
        else .error .additionOverflow) := by
  intro stream
  have reads : stream.Reads tokens := (reads_ofTokens tokens).afterAll moves
  constructor
  · intro token ahead
    have inside := Nat.lt_of_lt_of_le (reads.position_add_lt ahead) fits
    rw [peekAhead_eq, if_pos inside, ahead]
  · intro none
    rw [peekAhead_eq, none]

theorem afterAll_peekAhead_second :
    let tokens : List PlacedToken := [⟨⟨.not, "NOT"⟩, default⟩, ⟨⟨.word, "a"⟩, default⟩]
    let stream := (ofTokens tokens).afterAll [.expect .not, .restore 7, .restore 1]
    tokens.length ≤ UInt64.size ∧ stream.peekAhead 0 = .ok (some ⟨⟨.word, "a"⟩, default⟩) ∧
      stream.peekAhead 18446744073709551614 = .ok none := by
  intro tokens stream
  have fits : tokens.length ≤ UInt64.size := by decide
  obtain ⟨near, _⟩ := afterAll_peekAhead fits [.expect .not, .restore 7, .restore 1] 0
  obtain ⟨_, far⟩ := afterAll_peekAhead fits [.expect .not, .restore 7, .restore 1]
    18446744073709551614
  refine ⟨fits, near _ rfl, ?_⟩
  rw [far (List.getElem?_eq_none (by decide)), if_pos (by decide)]

/-- Behind the first token, the largest distance faults: no token is there, and its place has no
64-bit number. -/
theorem peekAhead_overflows :
    ∃ stream, stream = (ofTokens [⟨⟨.word, "a"⟩, default⟩]).afterAll [.advance] ∧
      stream.remaining = [] ∧
      stream.peekAhead 18446744073709551615 = .error .additionOverflow :=
  ⟨_, rfl, rfl, rfl⟩

end SearchLex.Stream
