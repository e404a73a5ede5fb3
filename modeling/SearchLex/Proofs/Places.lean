import SearchLex.Proofs.Counters

/-! Positions as functions of the text before them. As long as a text is short enough for
the counters, moving a position over it never faults, and the position is determined by
the text alone. -/

namespace SearchLex.Checked

/-- A computation that gives the value, or else has a fault for want of room. -/
def Tracks (room : Prop) (checked : Checked α) (value : α) : Prop :=
  checked = .ok value ∨ ¬ room ∧ ∃ fault, checked = .error fault

namespace Tracks

variable {room : Prop} {checked : Checked α} {value : α}

theorem ok (room : Prop) (value : α) : Tracks room (.ok value) value := .inl rfl

theorem eq_ok (tracks : Tracks room checked value) (enough : room) : checked = .ok value :=
  tracks.resolve_right fun short => short.1 enough

/-- What comes out without a fault is the value, room or not. -/
theorem eq_of_ok (tracks : Tracks room checked value) {result : α}
    (answered : checked = .ok result) : result = value := by
  rcases tracks with same | ⟨_, fault, failed⟩
  · rw [answered] at same
    exact Except.ok.inj same
  · rw [answered] at failed
    cases failed

theorem mono {less : Prop} (tracks : Tracks room checked value) (enough : less → room) :
    Tracks less checked value := by
  rcases tracks with same | ⟨short, failed⟩
  · exact .inl same
  · exact .inr ⟨fun holds => short (enough holds), failed⟩

theorem bind {next : α → Checked β} {final : β} (first : Tracks room checked value)
    (second : Tracks room (next value) final) : Tracks room (checked >>= next) final := by
  rcases first with rfl | ⟨short, fault, rfl⟩
  · exact second
  · exact .inr ⟨short, fault, rfl⟩

end Tracks

theorem add64_tracks (base : UInt64) (count : Nat) :
    Tracks (base.toNat + count < UInt64.size) (add64 base count) (base + .ofNat count) := by
  by_cases fits : base.toNat + count < UInt64.size
  · refine .inl ?_
    rw [add64_eq_ok fits, UInt64.ofNat_add, UInt64.ofNat_toNat]
  · exact .inr ⟨fits, .additionOverflow, if_neg fits⟩

theorem add32_tracks (base : UInt32) (count : Nat) :
    Tracks (base.toNat + count < UInt32.size) (add32 base count) (base + .ofNat count) := by
  by_cases fits : base.toNat + count < UInt32.size
  · refine .inl ?_
    rw [add32_eq_ok fits, UInt32.ofNat_add, UInt32.ofNat_toNat]
  · exact .inr ⟨fits, .additionOverflow, if_neg fits⟩

end SearchLex.Checked

namespace SearchLex.Position

/-- The position after a character, with counters that wrap around. -/
def next (position : Position) (ch : Char) : Position :=
  if ch = '\n' then ⟨position.offset + .ofNat ch.utf8Size, position.line + 1, 1⟩
  else ⟨position.offset + .ofNat ch.utf8Size, position.line, position.column + 1⟩

/-- The position after a run of characters, with counters that wrap around. -/
def past (position : Position) (chars : List Char) : Position := chars.foldl next position

/-- The position of what follows a text that opens the query. -/
def after (before : List Char) : Position := start.past before

@[simp] theorem past_nil (position : Position) : position.past [] = position := rfl

@[simp] theorem past_cons (position : Position) (ch : Char) (rest : List Char) :
    position.past (ch :: rest) = (position.next ch).past rest := rfl

theorem past_append (position : Position) (left right : List Char) :
    position.past (left ++ right) = (position.past left).past right :=
  List.foldl_append

@[simp] theorem after_nil : after [] = start := rfl

theorem after_append (left right : List Char) :
    after (left ++ right) = (after left).past right :=
  past_append start left right

theorem after_concat (before : List Char) (ch : Char) :
    after (before ++ [ch]) = (after before).next ch :=
  after_append before [ch]

/-- A position whose counters do not overflow on the next so many characters, whichever
they are. A line feed sets the column back, so the bound on the count is its own. -/
structure Room (position : Position) (count : Nat) : Prop where
  offset : position.offset.toNat + 4 * count < UInt64.size
  line : position.line.toNat + count < UInt32.size
  column : position.column.toNat + count < UInt32.size
  reset : count + 1 < UInt32.size

theorem Room.mono {position : Position} {less more : Nat} (room : position.Room more)
    (bound : less ≤ more) : position.Room less := by
  obtain ⟨offset, line, column, reset⟩ := room
  constructor <;> omega

theorem room_start {count : Nat} (bound : count + 2 ≤ UInt32.size) : start.Room count := by
  simp only [UInt32.size] at bound
  constructor <;>
    simp only [start, UInt32.size, UInt64.size, UInt64.toNat_zero, UInt32.toNat_one] <;> omega

private theorem toNat_add_of_room {position : Position} {count : Nat} (ch : Char)
    (room : position.Room (count + 1)) :
    (position.offset + .ofNat ch.utf8Size).toNat = position.offset.toNat + ch.utf8Size := by
  have width := ch.utf8Size_le_four
  have bound := room.offset
  simp only [UInt64.size] at bound
  rw [UInt64.toNat_add, UInt64.toNat_ofNat', Nat.mod_eq_of_lt (by omega : ch.utf8Size < _),
    Nat.mod_eq_of_lt (by omega)]

theorem Room.next {position : Position} {count : Nat} (room : position.Room (count + 1))
    (ch : Char) : (position.next ch).Room count := by
  have offset := toNat_add_of_room ch room
  have width := ch.utf8Size_le_four
  obtain ⟨offsetBound, lineBound, columnBound, resetBound⟩ := room
  simp only [UInt32.size] at lineBound columnBound resetBound
  have line : (position.line + 1).toNat = position.line.toNat + 1 := by
    rw [UInt32.toNat_add, UInt32.toNat_one, Nat.mod_eq_of_lt (by omega)]
  have column : (position.column + 1).toNat = position.column.toNat + 1 := by
    rw [UInt32.toNat_add, UInt32.toNat_one, Nat.mod_eq_of_lt (by omega)]
  by_cases feed : ch = '\n'
  · simp only [Position.next, feed, ↓reduceIte] at offset ⊢
    subst feed
    constructor <;> simp only [UInt32.size, offset, line, UInt32.toNat_one] <;> omega
  · simp only [Position.next, feed, ↓reduceIte]
    constructor <;> simp only [UInt32.size, offset, column] <;> omega

theorem Room.past {position : Position} {count : Nat} (chars : List Char)
    (room : position.Room (chars.length + count)) : (position.past chars).Room count := by
  induction chars generalizing position with
  | nil => simpa using room
  | cons ch rest ih =>
    rw [past_cons]
    apply ih
    apply Room.next
    exact room.mono (by simp only [List.length_cons]; omega)

theorem room_after {before : List Char} {count : Nat}
    (bound : before.length + count + 2 ≤ UInt32.size) : (after before).Room count :=
  (room_start bound).past before

/-- A move inside the room of a position is the wrapping move. -/
theorem advance_tracks (position : Position) (ch : Char) :
    Checked.Tracks (position.Room 1) (position.advance ch) (position.next ch) := by
  have width := ch.utf8Size_le_four
  have offset := (Checked.add64_tracks position.offset ch.utf8Size).mono
    fun room : position.Room 1 => by have := room.offset; omega
  by_cases feed : ch = '\n'
  · have line := (Checked.add32_tracks position.line 1).mono fun room : position.Room 1 => room.line
    simp only [advance, next, feed, ↓reduceIte] at offset ⊢
    exact offset.bind (line.bind (.ok _ _))
  · have column := (Checked.add32_tracks position.column 1).mono
      fun room : position.Room 1 => room.column
    simp only [advance, next, feed, ↓reduceIte]
    exact offset.bind (column.bind (.ok _ _))

theorem advanceChars_tracks (position : Position) (chars : List Char) :
    Checked.Tracks (position.Room chars.length) (position.advanceChars chars)
      (position.past chars) := by
  induction chars generalizing position with
  | nil => exact .ok _ _
  | cons ch rest ih =>
    rw [advanceChars_cons, past_cons]
    have first := (position.advance_tracks ch).mono
      fun room : position.Room (ch :: rest).length => room.mono (by simp)
    exact first.bind ((ih (position.next ch)).mono fun room => room.next ch)

/-- The positions of a query: the text before them fixes them. -/
theorem advanceChars_start {before : List Char} (bound : before.length + 2 ≤ UInt32.size) :
    start.advanceChars before = .ok (after before) :=
  (advanceChars_tracks start before).eq_ok (room_start bound)

/-- Offsets count bytes, wrapping around with them. -/
theorem offset_past (position : Position) (chars : List Char) :
    (position.past chars).offset = position.offset + .ofNat (Text.byteCount chars) := by
  induction chars generalizing position with
  | nil => exact (UInt64.add_zero _).symm
  | cons ch rest ih =>
    have moved : (position.next ch).offset = position.offset + .ofNat ch.utf8Size := by
      rw [next]
      split <;> rfl
    rw [past_cons, ih, moved, Text.byteCount, UInt64.ofNat_add, UInt64.add_assoc]

theorem toNat_offset_past_of_lt {position : Position} {chars : List Char}
    (fits : position.offset.toNat + Text.byteCount chars < UInt64.size) :
    (position.past chars).offset.toNat = position.offset.toNat + Text.byteCount chars := by
  simp only [UInt64.size] at fits
  rw [offset_past, UInt64.toNat_add, UInt64.toNat_ofNat',
    Nat.mod_eq_of_lt (by omega : Text.byteCount chars < _), Nat.mod_eq_of_lt (by omega)]

/-- Inside the room of a position nothing wraps around: the counters are those of the text. -/
theorem counters_past {position : Position} {chars : List Char}
    (room : position.Room chars.length) :
    (position.past chars).counters = position.counters.past chars :=
  counters_of_advanceChars ((position.advanceChars_tracks chars).eq_ok room)

theorem toNat_offset_past {position : Position} {chars : List Char}
    (room : position.Room chars.length) :
    (position.past chars).offset.toNat = position.offset.toNat + Text.byteCount chars :=
  congrArg Counters.offset (counters_past room)

theorem toNat_offset_after {before : List Char} (bound : before.length + 2 ≤ UInt32.size) :
    (after before).offset.toNat = Text.byteCount before := by
  rw [after, toNat_offset_past (room_start bound)]
  exact Nat.zero_add _

/-- A text that may open a query: the counters pass over it without a fault. -/
def Passes (chars : List Char) : Prop := ∃ last, start.advanceChars chars = .ok last

theorem passes_of_bound {chars : List Char} (bound : chars.length + 2 ≤ UInt32.size) :
    Passes chars :=
  ⟨after chars, advanceChars_start bound⟩

theorem Passes.advanceChars {chars : List Char} (passes : Passes chars) :
    start.advanceChars chars = .ok (after chars) := by
  obtain ⟨last, moved⟩ := passes
  rw [moved, (advanceChars_tracks start chars).eq_of_ok moved, after]

theorem Passes.of_prefix {before chars : List Char} (passes : Passes chars)
    (opens : before <+: chars) : Passes before := by
  obtain ⟨rest, rfl⟩ := opens
  obtain ⟨last, moved⟩ := passes
  rw [advanceChars_append] at moved
  cases first : start.advanceChars before with
  | error fault =>
    rw [first] at moved
    cases moved
  | ok middle => exact ⟨middle, first⟩

theorem Passes.byteCount_lt {chars : List Char} (passes : Passes chars) :
    start.offset.toNat + Text.byteCount chars < UInt64.size := by
  obtain ⟨last, moved⟩ := passes
  have offset : last.offset.toNat = start.offset.toNat + Text.byteCount chars :=
    congrArg Counters.offset (counters_of_advanceChars moved)
  rw [← offset]
  exact last.offset.toNat_lt_size

/-- Offsets that were counted without a fault are the bytes of the text before them. -/
theorem Passes.toNat_offset {chars : List Char} (passes : Passes chars) :
    (after chars).offset.toNat = Text.byteCount chars := by
  rw [after, toNat_offset_past_of_lt passes.byteCount_lt]
  exact Nat.zero_add _

/-- Lines count line feeds. -/
theorem toNat_line_past {position : Position} {chars : List Char}
    (room : position.Room chars.length) :
    (position.past chars).line.toNat = position.line.toNat + chars.count '\n' :=
  congrArg Counters.line (counters_past room)

/-- Text on one line in which a character is a byte. -/
def Plain (chars : List Char) : Prop := ∀ ch ∈ chars, ch.utf8Size = 1 ∧ ch ≠ '\n'

theorem plain_of_ascii {chars : List Char} (ascii : ∀ ch ∈ chars, ch.toNat < 128 ∧ ch ≠ '\n') :
    Plain chars := by
  intro ch member
  obtain ⟨small, single⟩ := ascii ch member
  refine ⟨Char.utf8Size_eq_one_iff.mpr ?_, single⟩
  rw [UInt32.le_iff_toNat_le]
  exact Nat.le_of_lt_succ small

theorem byteCount_of_plain {chars : List Char} (plain : Plain chars) :
    Text.byteCount chars = chars.length := by
  induction chars with
  | nil => rfl
  | cons ch rest ih =>
    have width := (plain ch (by simp)).1
    have others := ih fun other member => plain other (by simp [member])
    rw [Text.byteCount, width, others, List.length_cons, Nat.add_comm]

theorem line_past_of_single {chars : List Char} (position : Position) (single : '\n' ∉ chars) :
    (position.past chars).line = position.line := by
  induction chars generalizing position with
  | nil => rfl
  | cons ch rest ih =>
    have own : ch ≠ '\n' := fun feed => single (feed ▸ List.mem_cons_self)
    have others : '\n' ∉ rest := fun feed => single (List.mem_cons_of_mem ch feed)
    rw [past_cons, ih (position.next ch) others, next, if_neg own]

/-- Columns count the characters of a line. -/
theorem toNat_column_past {position : Position} {chars : List Char}
    (room : position.Room chars.length) (single : '\n' ∉ chars) :
    (position.past chars).column.toNat = position.column.toNat + chars.length := by
  have column : (position.past chars).column.toNat = (position.counters.past chars).column :=
    congrArg Counters.column (counters_past room)
  rw [column, Counters.column_past_single _ single]
  rfl

/-- In plain text the column is the offset, counted from one. -/
theorem after_of_plain {before : List Char} (plain : Plain before)
    (bound : before.length + 2 ≤ UInt32.size) :
    (after before).line = 1 ∧ (after before).column.toNat = (after before).offset.toNat + 1 := by
  have single : '\n' ∉ before := fun feed => (plain '\n' feed).2 rfl
  refine ⟨start.line_past_of_single single, ?_⟩
  rw [toNat_offset_after bound, byteCount_of_plain plain, after,
    toNat_column_past (room_start bound) single, Nat.add_comm]
  rfl

end SearchLex.Position

namespace SearchLex.Text

theorem dropBytes_append (left right : List Char) :
    dropBytes (byteCount left) (left ++ right) = some right := by
  induction left with
  | nil => simp [byteCount, dropBytes]
  | cons ch rest ih =>
    obtain ⟨more, width⟩ : ∃ more, ch.utf8Size + byteCount rest = more + 1 :=
      ⟨_, (Nat.succ_pred (Nat.pos_iff_ne_zero.mp (by have := ch.utf8Size_pos; omega))).symm⟩
    rw [byteCount, width, List.cons_append, dropBytes, if_pos (by omega), ← width,
      Nat.add_sub_cancel_left, ih]

theorem takeBytes_append (left right : List Char) :
    takeBytes (byteCount left) (left ++ right) = some left := by
  induction left with
  | nil => simp [byteCount, takeBytes]
  | cons ch rest ih =>
    obtain ⟨more, width⟩ : ∃ more, ch.utf8Size + byteCount rest = more + 1 :=
      ⟨_, (Nat.succ_pred (Nat.pos_iff_ne_zero.mp (by have := ch.utf8Size_pos; omega))).symm⟩
    rw [byteCount, width, List.cons_append, takeBytes, if_pos (by omega), ← width,
      Nat.add_sub_cancel_left, ih, Option.map_some]

/-- The bytes of a piece of a text are that piece. -/
theorem slice_of_split {text : String} {before piece rest : List Char}
    (split : text.toList = before ++ piece ++ rest) :
    slice text (byteCount before) (byteCount (before ++ piece)) = some (String.ofList piece) := by
  have bytes : byteCount (before ++ piece) = byteCount before + byteCount piece :=
    byteCount_append before piece
  rw [slice, if_pos (by omega), split, List.append_assoc, dropBytes_append, bytes,
    Nat.add_sub_cancel_left, Option.bind_some, takeBytes_append, Option.map_some]

theorem byteCount_le_of_prefix {left right : List Char} (ordered : left <+: right) :
    byteCount left ≤ byteCount right := by
  obtain ⟨more, rfl⟩ := ordered
  rw [byteCount_append]
  exact Nat.le_add_right ..

/-- A text has fewer bytes than one it begins, unless it is the whole of it. -/
theorem byteCount_lt_iff_of_prefix {left right : List Char} (ordered : left <+: right) :
    byteCount left < byteCount right ↔ left ≠ right := by
  constructor
  · rintro less rfl
    exact Nat.lt_irrefl _ less
  · obtain ⟨more, rfl⟩ := ordered
    intro different
    have longer : more ≠ [] := by
      rintro rfl
      exact different (List.append_nil left).symm
    have taken := byteCount_pos longer
    rw [byteCount_append]
    omega

end SearchLex.Text

namespace SearchLex.Position

/-- Offsets grow along a text. -/
theorem offset_after_le_of_prefix {left right : List Char} (ordered : left <+: right)
    (bound : right.length + 2 ≤ UInt32.size) : (after left).offset ≤ (after right).offset := by
  have shorter := ordered.length_le
  rw [UInt64.le_iff_toNat_le, toNat_offset_after (by omega), toNat_offset_after bound]
  exact Text.byteCount_le_of_prefix ordered

theorem offset_after_lt_iff_of_prefix {left right : List Char} (ordered : left <+: right)
    (bound : right.length + 2 ≤ UInt32.size) :
    (after left).offset < (after right).offset ↔ left ≠ right := by
  have shorter := ordered.length_le
  rw [UInt64.lt_iff_toNat_lt, toNat_offset_after (by omega), toNat_offset_after bound]
  exact Text.byteCount_lt_iff_of_prefix ordered

end SearchLex.Position

namespace SearchLex.Span

theorem between_tracks (start : Position) (chars : List Char) :
    Checked.Tracks (start.Room chars.length) (between start (start.past chars))
      ⟨start, start.past chars⟩ := by
  by_cases ordered : start.offset ≤ (start.past chars).offset
  · exact .inl (if_pos ordered)
  · refine .inr ⟨fun room => ordered ?_, .reversedSpan, if_neg ordered⟩
    rw [UInt64.le_iff_toNat_le, Position.toNat_offset_past room]
    exact Nat.le_add_right ..

theorem covering_tracks (start : Position) (text : String) :
    Checked.Tracks (start.Room text.toList.length) (covering start text)
      ⟨start, start.past text.toList⟩ :=
  (start.advanceChars_tracks text.toList).bind (between_tracks start text.toList)

theorem single_tracks (start : Position) (ch : Char) :
    Checked.Tracks (start.Room 1) (single start ch) ⟨start, start.next ch⟩ :=
  (start.advance_tracks ch).bind (between_tracks start [ch])

/-- The span of a piece of a query. -/
def ofPiece (before piece : List Char) : Span := ⟨.after before, .after (before ++ piece)⟩

theorem slice_of_passes {query : String} {before piece rest : List Char}
    (split : query.toList = before ++ piece ++ rest)
    (passes : Position.Passes (before ++ piece)) :
    (ofPiece before piece).slice query = some (String.ofList piece) := by
  have start := (passes.of_prefix (List.prefix_append before piece)).toNat_offset
  rw [slice, ofPiece, start, passes.toNat_offset]
  exact Text.slice_of_split split

theorem slice_ofPiece {query : String} {before piece rest : List Char}
    (split : query.toList = before ++ piece ++ rest)
    (bound : query.length + 2 ≤ UInt32.size) :
    (ofPiece before piece).slice query = some (String.ofList piece) := by
  rw [← String.length_toList] at bound
  have passes := Position.passes_of_bound bound
  exact slice_of_passes split (passes.of_prefix ⟨rest, split.symm⟩)

end SearchLex.Span
