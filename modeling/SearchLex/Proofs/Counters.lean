import SearchLex.Span

/-! The counters of a position after a text, in closed form. They are told by the text as a
whole: its bytes, its line feeds and the characters after the last of them. Moving a position over
a text faults exactly if some beginning of the text takes a counter out of its width, also where a
later line feed sets the column back; otherwise it ends at these counters. -/

namespace SearchLex.Text

theorem byteCount_pos {chars : List Char} (nonempty : chars ≠ []) : 0 < byteCount chars := by
  cases chars with
  | nil => exact absurd rfl nonempty
  | cons ch rest =>
    have width := ch.utf8Size_pos
    simp only [byteCount]
    omega

theorem utf8ByteSize_eq (text : String) : text.utf8ByteSize = byteCount text.toList := by
  have counted (chars : List Char) : (String.ofList chars).utf8ByteSize = byteCount chars := by
    induction chars with
    | nil => rfl
    | cons ch rest ih =>
      rw [String.ofList_cons, String.utf8ByteSize_append, String.utf8ByteSize_singleton, ih,
        byteCount]
  rw [← counted, String.ofList_toList]

/-- The characters after the last line feed of a text. -/
def lastLine (chars : List Char) : List Char := (chars.reverse.takeWhile (· ≠ '\n')).reverse

theorem exists_last_feed {chars : List Char} (feed : '\n' ∈ chars) :
    ∃ before line, chars = before ++ '\n' :: line ∧ '\n' ∉ line := by
  obtain ⟨line, before, reversed, single⟩ := List.eq_append_cons_of_mem (List.mem_reverse.mpr feed)
  refine ⟨before.reverse, line.reverse, ?_, by simpa using single⟩
  rw [← List.reverse_reverse chars, reversed]
  simp

/-- Text on one line makes the last line longer. -/
theorem lastLine_append_single (before : List Char) {line : List Char} (single : '\n' ∉ line) :
    lastLine (before ++ line) = lastLine before ++ line := by
  have kept : ∀ ch ∈ line.reverse, decide (ch ≠ '\n') = true := by
    intro ch member
    exact decide_eq_true (ne_of_mem_of_not_mem (List.mem_reverse.mp member) single)
  rw [lastLine, List.reverse_append, List.takeWhile_append_of_pos kept, List.reverse_append,
    List.reverse_reverse, lastLine]

theorem lastLine_append_feed (before : List Char) {line : List Char} (single : '\n' ∉ line) :
    lastLine (before ++ '\n' :: line) = line := by
  rw [List.append_cons, lastLine_append_single _ single]
  simp [lastLine]

/-- What stands before a text with a line feed does not change its last line. -/
theorem lastLine_append_of_mem (before : List Char) {chars : List Char} (feed : '\n' ∈ chars) :
    lastLine (before ++ chars) = lastLine chars := by
  obtain ⟨earlier, line, rfl, single⟩ := exists_last_feed feed
  rw [← List.append_assoc, lastLine_append_feed _ single, lastLine_append_feed _ single]

end SearchLex.Text

namespace SearchLex.Checked

/-- A checked sum is the sum, or faults for not fitting. -/
theorem add64_cases (base : UInt64) (count : Nat) :
    (∃ sum, add64 base count = .ok sum ∧ sum.toNat = base.toNat + count) ∨
      add64 base count = .error .additionOverflow ∧ UInt64.size ≤ base.toNat + count := by
  by_cases fits : base.toNat + count < UInt64.size
  · exact .inl ⟨_, add64_eq_ok fits, UInt64.toNat_ofNat_of_lt fits⟩
  · exact .inr ⟨if_neg fits, Nat.le_of_not_lt fits⟩

theorem add32_cases (base : UInt32) (count : Nat) :
    (∃ sum, add32 base count = .ok sum ∧ sum.toNat = base.toNat + count) ∨
      add32 base count = .error .additionOverflow ∧ UInt32.size ≤ base.toNat + count := by
  by_cases fits : base.toNat + count < UInt32.size
  · exact .inl ⟨_, add32_eq_ok fits, UInt32.toNat_ofNat_of_lt fits⟩
  · exact .inr ⟨if_neg fits, Nat.le_of_not_lt fits⟩

end SearchLex.Checked

namespace SearchLex.Position

/-- The counters of a position as numbers without a bound. -/
@[ext] structure Counters where
  offset : Nat
  line : Nat
  column : Nat
  deriving DecidableEq, Repr

def counters (position : Position) : Counters :=
  ⟨position.offset.toNat, position.line.toNat, position.column.toNat⟩

namespace Counters

/-- The counters after a text, told by the text as a whole. -/
def past (counters : Counters) (chars : List Char) : Counters where
  offset := counters.offset + Text.byteCount chars
  line := counters.line + chars.count '\n'
  column :=
    if '\n' ∈ chars then 1 + (Text.lastLine chars).length
    else counters.column + chars.length

/-- Some counter is more than a position can hold. -/
def Overflows (counters : Counters) : Prop :=
  UInt64.size ≤ counters.offset ∨ UInt32.size ≤ counters.line ∨ UInt32.size ≤ counters.column

instance (counters : Counters) : Decidable counters.Overflows :=
  inferInstanceAs (Decidable (_ ∨ _ ∨ _))

variable (counters : Counters)

@[simp] theorem past_nil : counters.past [] = counters := by
  simp [past, Text.byteCount]

theorem past_feed :
    counters.past ['\n'] = ⟨counters.offset + '\n'.utf8Size, counters.line + 1, 1⟩ := by
  simp [past, Text.byteCount, Text.lastLine]

theorem past_letter {ch : Char} (other : ch ≠ '\n') :
    counters.past [ch] = ⟨counters.offset + ch.utf8Size, counters.line, counters.column + 1⟩ := by
  simp [past, Text.byteCount, other, other.symm]

theorem column_past_single {chars : List Char} (single : '\n' ∉ chars) :
    (counters.past chars).column = counters.column + chars.length :=
  if_neg single

theorem column_past_feed (before : List Char) {line : List Char} (single : '\n' ∉ line) :
    (counters.past (before ++ '\n' :: line)).column = 1 + line.length := by
  have feed : '\n' ∈ before ++ '\n' :: line := by simp
  rw [past, if_pos feed, Text.lastLine_append_feed before single]

/-- Counting over two texts is counting over one and then the other. -/
theorem past_append (left right : List Char) :
    counters.past (left ++ right) = (counters.past left).past right := by
  ext
  · simp only [past, Text.byteCount_append, Nat.add_assoc]
  · simp only [past, List.count_append, Nat.add_assoc]
  · by_cases later : '\n' ∈ right
    · simp [past, later, Text.lastLine_append_of_mem left later]
    · by_cases earlier : '\n' ∈ left
      · simp [past, later, earlier, Text.lastLine_append_single left later, Nat.add_assoc]
      · simp [past, later, earlier, Nat.add_assoc]

end Counters

theorem counters_not_overflows (position : Position) : ¬ position.counters.Overflows := by
  have offset := position.offset.toNat_lt_size
  have line := position.line.toNat_lt_size
  have column := position.column.toNat_lt_size
  simp only [Counters.Overflows, counters]
  omega

/-- A move over a character counts it, or faults for a counter that does not hold it. -/
theorem advance_cases (position : Position) (ch : Char) :
    (∃ next, position.advance ch = .ok next ∧ next.counters = position.counters.past [ch]) ∨
      position.advance ch = .error .additionOverflow ∧ (position.counters.past [ch]).Overflows := by
  rcases Checked.add64_cases position.offset ch.utf8Size with ⟨offset, added, sum⟩ | ⟨full, large⟩
  · by_cases feed : ch = '\n'
    · subst feed
      rw [Counters.past_feed]
      rcases Checked.add32_cases position.line 1 with ⟨line, counted, count⟩ | ⟨full, large⟩
      · refine .inl ⟨⟨offset, line, 1⟩, ?_, ?_⟩
        · simp only [advance, added, counted]
          rfl
        · rw [counters, sum, count]
          rfl
      · refine .inr ⟨?_, .inr (.inl large)⟩
        simp only [advance, added, full]
        rfl
    · rw [Counters.past_letter _ feed]
      rcases Checked.add32_cases position.column 1 with ⟨column, counted, count⟩ | ⟨full, large⟩
      · refine .inl ⟨⟨offset, position.line, column⟩, ?_, ?_⟩
        · simp only [advance, added, feed, counted]
          rfl
        · rw [counters, sum, count]
          rfl
      · refine .inr ⟨?_, .inr (.inr large)⟩
        simp only [advance, added, feed, full]
        rfl
  · refine .inr ⟨?_, .inl large⟩
    rw [advance, full]
    rfl

/-- A move over a text counts it as a whole, or faults at some beginning of it. -/
theorem advanceChars_cases (position : Position) (chars : List Char) :
    (∃ last, position.advanceChars chars = .ok last ∧
      last.counters = position.counters.past chars ∧
      ∀ before, before <+: chars → ¬ (position.counters.past before).Overflows) ∨
    position.advanceChars chars = .error .additionOverflow ∧
      ∃ before, before <+: chars ∧ (position.counters.past before).Overflows := by
  induction chars generalizing position with
  | nil =>
    refine .inl ⟨position, rfl, by simp, ?_⟩
    intro before opens
    rw [List.prefix_nil.mp opens, Counters.past_nil]
    exact position.counters_not_overflows
  | cons ch rest ih =>
    rw [advanceChars_cons]
    rcases position.advance_cases ch with ⟨next, moved, counted⟩ | ⟨failed, overflow⟩
    · -- The beginnings of the rest, counted from the next position, are those of the whole.
      have shifted (more : List Char) :
          position.counters.past (ch :: more) = next.counters.past more := by
        rw [counted, ← Counters.past_append, List.singleton_append]
      rw [moved, shifted]
      rcases ih next with ⟨last, passed, same, fits⟩ | ⟨failed, before, opens, overflow⟩
      · refine .inl ⟨last, passed, same, ?_⟩
        intro before opens
        cases before with
        | nil =>
          rw [Counters.past_nil]
          exact position.counters_not_overflows
        | cons first more =>
          obtain ⟨rfl, further⟩ := List.cons_prefix_cons.mp opens
          rw [shifted]
          exact fits more further
      · refine .inr ⟨failed, ch :: before, List.cons_prefix_cons.mpr ⟨rfl, opens⟩, ?_⟩
        rw [shifted]
        exact overflow
    · refine .inr ⟨?_, [ch], List.cons_prefix_cons.mpr ⟨rfl, List.nil_prefix⟩, overflow⟩
      rw [failed]
      rfl

theorem counters_of_advanceChars {position last : Position} {chars : List Char}
    (moved : position.advanceChars chars = .ok last) :
    last.counters = position.counters.past chars := by
  rcases position.advanceChars_cases chars with ⟨other, passed, counted, _⟩ | ⟨failed, _⟩
  · rw [moved] at passed
    rw [Except.ok.inj passed, counted]
  · rw [moved] at failed
    cases failed

theorem order_of_offset_lt {left right : Position} (less : left.offset < right.offset) :
    right.order left = .gt := by
  rw [order, Std.compare_eq_gt.mpr less]
  rfl

end SearchLex.Position

namespace SearchLex.Span

theorem covering_of_advanceText {start stop : Position} {text : String}
    (moved : start.advanceText text = .ok stop) (forward : start.offset ≤ stop.offset) :
    covering start text = .ok ⟨start, stop⟩ := by
  rw [covering, moved]
  exact if_pos forward

/-- The length of a span that does not run backwards is the distance between its ends. -/
theorem length_of_le {start stop : Position} (forward : start.offset ≤ stop.offset) :
    ∃ bytes, length ⟨start, stop⟩ = .ok bytes ∧
      bytes.toNat = stop.offset.toNat - start.offset.toNat :=
  ⟨_, if_pos forward, UInt64.toNat_sub_of_le _ _ forward⟩

end SearchLex.Span

namespace SearchLex.Position

/-- A position that a text leads to from another one. -/
structure Reaches (position : Position) (text : String) (last : Position) : Prop where
  offset : last.offset.toNat = position.offset.toNat + text.utf8ByteSize
  line : last.line.toNat = position.line.toNat + text.toList.count '\n'
  column_single : '\n' ∉ text.toList →
    last.column.toNat = position.column.toNat + text.length
  /-- The characters after the last line feed are counted from one again. -/
  column_feed : ∀ before line, text.toList = before ++ '\n' :: line → '\n' ∉ line →
    last.column.toNat = 1 + line.length
  later : text ≠ "" → last.order position = .gt
  covered : Span.covering position text = .ok ⟨position, last⟩
  length : ∃ bytes, Span.length ⟨position, last⟩ = .ok bytes ∧ bytes.toNat = text.utf8ByteSize

theorem reaches_of_advanceText {position last : Position} {text : String}
    (moved : position.advanceText text = .ok last) : position.Reaches text last := by
  have counted := counters_of_advanceChars moved
  have bytes := Text.utf8ByteSize_eq text
  have offset : last.offset.toNat = position.offset.toNat + Text.byteCount text.toList :=
    congrArg Counters.offset counted
  have column : last.column.toNat = (position.counters.past text.toList).column :=
    congrArg Counters.column counted
  have forward : position.offset ≤ last.offset := UInt64.le_iff_toNat_le.mpr (by omega)
  refine ⟨by omega, congrArg Counters.line counted, ?_, ?_, ?_, ?_, ?_⟩
  · intro single
    rw [column, Counters.column_past_single _ single, String.length_toList]
    rfl
  · intro before line split single
    rw [column, split, Counters.column_past_feed _ before single]
  · intro nonempty
    have taken : 0 < Text.byteCount text.toList := Text.byteCount_pos (by simpa using nonempty)
    exact order_of_offset_lt (UInt64.lt_iff_toNat_lt.mpr (by omega))
  · exact Span.covering_of_advanceText moved forward
  · obtain ⟨length, measured, distance⟩ := Span.length_of_le forward
    exact ⟨length, measured, by omega⟩

/-- Moving any position over any text, in closed form. It faults exactly if some beginning of the
text takes a counter above what it can hold; otherwise the text as a whole tells where it ends. -/
theorem advanceText_counters (position : Position) (text : String) :
    (position.advanceText text = .error .additionOverflow ↔
      ∃ before, before <+: text.toList ∧ (position.counters.past before).Overflows) ∧
    ((∀ before, before <+: text.toList → ¬ (position.counters.past before).Overflows) →
      ∃ last, position.advanceText text = .ok last ∧ position.Reaches text last) := by
  rcases position.advanceChars_cases text.toList with
    ⟨last, moved, _, fits⟩ | ⟨failed, before, opens, overflow⟩
  · refine ⟨⟨?_, ?_⟩, fun _ => ⟨last, moved, reaches_of_advanceText moved⟩⟩
    · intro failed
      rw [advanceText, moved] at failed
      cases failed
    · rintro ⟨before, opens, overflow⟩
      exact absurd overflow (fits before opens)
  · refine ⟨⟨fun _ => ⟨before, opens, overflow⟩, fun _ => failed⟩, ?_⟩
    intro fits
    exact absurd overflow (fits before opens)

/-- Near the ends of all counters: a line feed comes in time for the column, or one character too
late, although the whole of the text would fit. -/
theorem advanceText_counters_extreme :
    (∃ last, advanceText ⟨18446744073709551610, 4294967294, 4294967294⟩ "é\nab" = .ok last ∧
      Reaches ⟨18446744073709551610, 4294967294, 4294967294⟩ "é\nab" last ∧
      last = ⟨18446744073709551615, 4294967295, 3⟩) ∧
    advanceText ⟨0, 1, 4294967294⟩ "ab\n" = .error .additionOverflow ∧
    ¬ ((counters ⟨0, 1, 4294967294⟩).past "ab\n".toList).Overflows := by
  refine ⟨?_, ?_, by decide⟩
  · have moved : advanceText ⟨18446744073709551610, 4294967294, 4294967294⟩ "é\nab" =
        .ok ⟨18446744073709551615, 4294967295, 3⟩ := rfl
    obtain ⟨faults, reaches⟩ :=
      advanceText_counters ⟨18446744073709551610, 4294967294, 4294967294⟩ "é\nab"
    obtain ⟨last, passed, reached⟩ := reaches fun before opens overflow => by
      have failed := faults.mpr ⟨before, opens, overflow⟩
      rw [moved] at failed
      cases failed
    refine ⟨last, passed, reached, ?_⟩
    rw [moved] at passed
    exact (Except.ok.inj passed).symm
  · obtain ⟨faults, _⟩ := advanceText_counters ⟨0, 1, 4294967294⟩ "ab\n"
    exact faults.mpr ⟨['a', 'b'], ⟨['\n'], rfl⟩, by decide⟩

end SearchLex.Position
