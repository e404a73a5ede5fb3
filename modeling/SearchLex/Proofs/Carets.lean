import SearchLex.Diagnostic
import SearchLex.Proofs.LogLines
import SearchLex.Proofs.Places

/-! Carets of diagnostics. A report on one character of a source shows the line that the
character stands on, and its one caret stands under that character. Positions count the line
feeds before the character, and the lines of a text are what its line feeds part, so that both
mean the same line. -/

namespace SearchLex

namespace Text

/-! ### Lines of a text -/

private theorem piecesAfter_append (current before rest : List Char) :
    piecesAfter current [] (before ++ '\n' :: rest) =
      piecesAfter current [] before ++ pieces rest := by
  induction before generalizing current with
  | nil =>
    simp only [List.nil_append, piecesAfter, ↓reduceIte]
    exact piecesAfter_eq [] [current.reverse] rest
  | cons ch more ih =>
    rw [List.cons_append, piecesAfter, piecesAfter]
    by_cases feed : ch = '\n'
    · rw [if_pos feed, if_pos feed, piecesAfter_eq, ih, piecesAfter_eq [] [current.reverse] more,
        List.append_assoc]
    · rw [if_neg feed, if_neg feed, ih]

/-- A line feed parts the pieces before it from those after it. -/
theorem pieces_append (before rest : List Char) :
    pieces (before ++ '\n' :: rest) = pieces before ++ pieces rest :=
  piecesAfter_append [] before rest

private theorem piecesAfter_of_single (current : List Char) {line : List Char}
    (single : '\n' ∉ line) : piecesAfter current [] line = [current.reverse ++ line] := by
  induction line generalizing current with
  | nil => simp [piecesAfter]
  | cons ch rest ih =>
    have own : ch ≠ '\n' := fun feed => single (feed ▸ List.mem_cons_self)
    have others : '\n' ∉ rest := fun feed => single (List.mem_cons_of_mem ch feed)
    rw [piecesAfter, if_neg own, ih (ch :: current) others]
    simp

theorem pieces_of_single {line : List Char} (single : '\n' ∉ line) : pieces line = [line] :=
  piecesAfter_of_single [] single

private theorem length_piecesAfter (current chars : List Char) :
    (piecesAfter current [] chars).length = chars.count '\n' + 1 := by
  induction chars generalizing current with
  | nil => rfl
  | cons ch rest ih =>
    rw [piecesAfter]
    by_cases feed : ch = '\n'
    · rw [if_pos feed, piecesAfter_eq, List.length_append, ih, feed, List.count_cons_self]
      simp only [List.length_reverse, List.length_singleton]
      omega
    · rw [if_neg feed, ih, List.count_cons_of_ne feed]

theorem length_pieces (chars : List Char) : (pieces chars).length = chars.count '\n' + 1 :=
  length_piecesAfter [] chars

theorem pieces_ne_nil (chars : List Char) : pieces chars ≠ [] := by
  intro none
  have count := length_pieces chars
  rw [none] at count
  cases count

/-- Only the last piece may be no line. -/
theorem closeLines_append (first : List (List Char)) {second : List (List Char)}
    (nonempty : second ≠ []) :
    closeLines (first ++ second) = first.map stripReturn ++ closeLines second := by
  rw [closeLines, closeLines, List.dropLast_append_of_ne_nil nonempty,
    List.getLast?_append_of_ne_nil first nonempty, List.map_append, List.append_assoc]

/-- How a text goes on after one of its lines. A carriage return before the line feed is no
part of the line. -/
inductive LineEnd (line : List Char) : List Char → Prop where
  | last : LineEnd line []
  | feed (kept : line.getLast? ≠ some '\r') (later : List Char) : LineEnd line ('\n' :: later)
  | returnFeed (later : List Char) : LineEnd line ('\r' :: '\n' :: later)

theorem stripReturn_of_kept {line : List Char} (kept : line.getLast? ≠ some '\r') :
    stripReturn line = line :=
  if_neg kept

theorem stripReturn_concat (line : List Char) : stripReturn (line ++ ['\r']) = line := by
  simp [stripReturn]

/-- A text that opens with a line has that line first. -/
theorem head?_closeLines {line following : List Char} (nonempty : line ≠ [])
    (single : '\n' ∉ line) (ending : LineEnd line following) :
    (closeLines (pieces (line ++ following))).head? = some line := by
  cases ending with
  | last =>
    rw [List.append_nil, pieces_of_single single]
    simp [closeLines, nonempty]
  | feed kept later =>
    rw [pieces_append, closeLines_append _ (pieces_ne_nil later), pieces_of_single single]
    simp [stripReturn_of_kept kept]
  | returnFeed later =>
    have returned : '\n' ∉ line ++ ['\r'] := by simp [single]
    have regrouped : line ++ '\r' :: '\n' :: later = line ++ ['\r'] ++ '\n' :: later := by simp
    rw [regrouped, pieces_append, closeLines_append _ (pieces_ne_nil later),
      pieces_of_single returned]
    simp [stripReturn_concat]

/-- The line around a character: what stands on it before the character and after it. -/
structure LineAround (before : List Char) (ch : Char) (rest left right : List Char) : Prop where
  single : '\n' ∉ left ++ ch :: right
  /-- The line begins with the text or after a line feed. -/
  begins : ∃ earlier, before = earlier ++ left ∧
    (earlier = [] ∨ ∃ done, earlier = done ++ ['\n'])
  ends : ∃ following, rest = right ++ following ∧ LineEnd (left ++ ch :: right) following

theorem exists_line_start (before : List Char) :
    ∃ earlier left, before = earlier ++ left ∧ '\n' ∉ left ∧
      (earlier = [] ∨ ∃ done, earlier = done ++ ['\n']) := by
  by_cases feed : '\n' ∈ before
  · obtain ⟨done, left, split, single⟩ := exists_last_feed feed
    exact ⟨done ++ ['\n'], left, by simpa using split, single, .inr ⟨done, rfl⟩⟩
  · exact ⟨[], before, rfl, feed, .inl rfl⟩

theorem exists_line_end (left : List Char) {ch : Char} (unreturned : ch ≠ '\r')
    (rest : List Char) :
    ∃ right following, rest = right ++ following ∧ '\n' ∉ right ∧
      LineEnd (left ++ ch :: right) following := by
  by_cases feed : '\n' ∈ rest
  · obtain ⟨right, later, split, single⟩ := List.eq_append_cons_of_mem feed
    by_cases returned : (left ++ ch :: right).getLast? = some '\r'
    · -- The character itself is no carriage return, so that one stands after it.
      rcases List.eq_nil_or_concat' right with rfl | ⟨shorter, last, rfl⟩
      · rw [List.getLast?_concat] at returned
        exact absurd (Option.some.inj returned) unreturned
      · rw [← List.cons_append, ← List.append_assoc, List.getLast?_concat] at returned
        obtain rfl := Option.some.inj returned
        refine ⟨shorter, '\r' :: '\n' :: later, by simpa using split, ?_, .returnFeed later⟩
        intro earlier
        exact single (List.mem_append_left _ earlier)
    · exact ⟨right, '\n' :: later, split, single, .feed returned later⟩
  · exact ⟨rest, [], by simp, feed, .last⟩

theorem exists_lineAround (before : List Char) {ch : Char} (unfed : ch ≠ '\n')
    (unreturned : ch ≠ '\r') (rest : List Char) :
    ∃ left right, LineAround before ch rest left right := by
  obtain ⟨earlier, left, start, leftSingle, begins⟩ := exists_line_start before
  obtain ⟨right, following, stop, rightSingle, ending⟩ := exists_line_end left unreturned rest
  refine ⟨left, right, ?_, ⟨earlier, start, begins⟩, ⟨following, stop, ending⟩⟩
  simp only [List.mem_append, List.mem_cons, not_or]
  exact ⟨leftSingle, fun same => unfed same.symm, rightSingle⟩

variable {before rest left right : List Char} {ch : Char}

/-- The line around a character comes after as many lines as there are line feeds before the
character. -/
theorem LineAround.getElem?_lines (around : LineAround before ch rest left right) {text : String}
    (split : text.toList = before ++ ch :: rest) :
    (lines text)[before.count '\n']? = some (.ofList (left ++ ch :: right)) := by
  obtain ⟨single, ⟨earlier, rfl, begins⟩, following, rfl, ending⟩ := around
  have leftSingle : '\n' ∉ left := fun feed => single (List.mem_append_left _ feed)
  have first := head?_closeLines (by simp) single ending
  have regrouped : text.toList = earlier ++ (left ++ ch :: right ++ following) := by
    rw [split]
    simp
  rw [lines, regrouped, List.getElem?_map, List.count_append,
    List.count_eq_zero_of_not_mem leftSingle, Nat.add_zero]
  rcases begins with rfl | ⟨done, rfl⟩
  · rw [List.nil_append, List.count_nil, ← List.head?_eq_getElem?, first, Option.map_some]
  · have index : (done ++ ['\n']).count '\n' = ((pieces done).map stripReturn).length := by
      rw [List.length_map, length_pieces, List.count_append, List.count_singleton_self]
    rw [index, List.append_assoc, List.singleton_append, pieces_append,
      closeLines_append _ (pieces_ne_nil _), List.getElem?_append_right (Nat.le_refl _),
      Nat.sub_self, ← List.head?_eq_getElem?, first, Option.map_some]

end Text

namespace Position

variable {before rest left right : List Char} {ch : Char}

/-- The line of a position is that of the lines of the text. -/
theorem toNat_line_after (bound : before.length + 2 ≤ UInt32.size) :
    (after before).line.toNat = before.count '\n' + 1 := by
  rw [after, toNat_line_past (room_start bound), Nat.add_comm]
  rfl

/-- The column of a position counts the characters before it on its line. -/
theorem toNat_column_after (around : Text.LineAround before ch rest left right)
    (bound : before.length + 2 ≤ UInt32.size) :
    (after before).column.toNat = left.length + 1 := by
  obtain ⟨single, ⟨earlier, rfl, begins⟩, _⟩ := around
  have leftSingle : '\n' ∉ left := fun feed => single (List.mem_append_left _ feed)
  have first : (after earlier).column = 1 := by
    rcases begins with rfl | ⟨done, rfl⟩
    · rfl
    · rw [after_concat]
      rfl
  rw [List.length_append] at bound
  rw [after_append, toNat_column_past (room_after bound) leftSingle, first, Nat.add_comm]
  rfl

end Position

namespace Diagnostic

/-! ### The rows of a report -/

theorem toList_repeated (count : Nat) (ch : Char) :
    (repeated count ch).toList = List.replicate count ch := by
  rw [repeated, String.toList_ofList]

theorem lineFeed_not_mem_repeated (count : Nat) {ch : Char} (other : ch ≠ '\n') :
    '\n' ∉ (repeated count ch).toList := by
  rw [toList_repeated]
  intro feed
  exact other (List.eq_of_mem_replicate feed).symm

/-- What a report says in its five rows. -/
structure Report where
  heading : String
  location : String
  gutter : String
  shown : String
  marker : String

def Report.rows (report : Report) : List String :=
  [report.heading, report.location, report.gutter, report.shown, report.marker]

/-- A report that points at a character of a source: it tells the message and the place, shows
the line around the character behind its number, and has one caret, under the character. -/
structure Report.PointsAt (report : Report) (source : String) (before : List Char) (ch : Char)
    (rest : List Char) (place : Position) (message : String) : Prop where
  heading_eq : report.heading = "error: " ++ message
  location_eq : report.location = "  --> " ++ place.text
  gutter_eq : report.gutter = repeated (toString (before.count '\n' + 1)).length ' ' ++ " |"
  single : ∀ row ∈ report.rows, '\n' ∉ row.toList
  shows : ∃ left right line, Text.LineAround before ch rest left right ∧
    line = String.ofList (left ++ ch :: right) ∧
    (Text.lines source)[before.count '\n']? = some line ∧
    report.shown = toString (before.count '\n' + 1) ++ " | " ++ line
  one_caret : report.marker.toList.count '^' = 1
  aligned : ∀ index : Nat, report.marker.toList[index]? = some '^' →
    report.shown.toList[index]? = some ch

/-- The report on a character that stands behind so many others on a line of a number. -/
def reportOn (message : String) (place : Position) (number : String) (left right : List Char)
    (ch : Char) : Report where
  heading := "error: " ++ message
  location := "  --> " ++ place.text
  gutter := repeated number.length ' ' ++ " |"
  shown := number ++ " | " ++ .ofList (left ++ ch :: right)
  marker := repeated number.length ' ' ++ " | " ++ repeated left.length ' ' ++ repeated 1 '^'

/-- A caret behind blanks stands under the character that is behind as many others. -/
theorem getElem?_of_caret {blanks others right : List Char} {ch : Char} {index : Nat}
    (blank : '^' ∉ blanks) (even : others.length = blanks.length)
    (caret : (blanks ++ ['^'])[index]? = some '^') : (others ++ ch :: right)[index]? = some ch := by
  have place : index = others.length := by
    rw [List.getElem?_append] at caret
    split at caret
    · exact absurd (List.mem_of_getElem? caret) blank
    · obtain ⟨inside, _⟩ := List.getElem?_eq_some_iff.mp caret
      rw [List.length_singleton] at inside
      omega
  rw [place, List.getElem?_append_right (Nat.le_refl _), Nat.sub_self, List.getElem?_cons_zero]

variable {source message : String} {before rest left right : List Char} {ch : Char}

theorem lineFeed_not_mem_rows (place : Position) (number : Nat) (single : '\n' ∉ message.toList)
    (line : '\n' ∉ left ++ ch :: right) :
    ∀ row ∈ (reportOn message place (toString number) left right ch).rows,
      '\n' ∉ row.toList := by
  have blanks (count : Nat) := lineFeed_not_mem_repeated count (by decide : ' ' ≠ '\n')
  have caret := lineFeed_not_mem_repeated 1 (by decide : '^' ≠ '\n')
  simp only [Report.rows, reportOn, List.forall_mem_cons, List.not_mem_nil, IsEmpty.forall_iff,
    implies_true, String.toList_append, String.toList_ofList, List.mem_append, not_or, and_true]
  simp only [List.mem_append, not_or] at line
  simp [single, line, blanks, caret]

theorem pointsAt_reportOn (around : Text.LineAround before ch rest left right)
    (split : source.toList = before ++ ch :: rest) (single : '\n' ∉ message.toList)
    (place : Position) :
    (reportOn message place (toString (before.count '\n' + 1)) left right ch).PointsAt source
      before ch rest place message where
  heading_eq := rfl
  location_eq := rfl
  gutter_eq := rfl
  single := lineFeed_not_mem_rows place _ single around.single
  shows := ⟨left, right, _, around, rfl, around.getElem?_lines split, rfl⟩
  one_caret := by
    simp only [reportOn, String.toList_append, toList_repeated, List.count_append,
      List.count_replicate]
    rfl
  aligned index caret := by
    simp only [reportOn, String.toList_append, toList_repeated, String.toList_ofList,
      ← List.append_assoc] at caret ⊢
    refine getElem?_of_caret ?_ ?_ caret
    · simp
    · simp only [List.length_append, List.length_replicate, String.length_toList]

/-- A character that ends no line has a marker of one caret. -/
theorem width_single {place : Position} (source : String) (room : place.Room 1)
    (unfed : ch ≠ '\n') : width source ⟨place, place.next ch⟩ = 1 := by
  have single : '\n' ∉ [ch] := by simpa using unfed.symm
  have line : (place.next ch).line = place.line := place.line_past_of_single single
  have column : (place.next ch).column.toNat = place.column.toNat + 1 :=
    Position.toNat_column_past room single
  rw [width, if_pos line.symm, column, Nat.add_sub_cancel_left]
  rfl

/-- The rows of the report on a character. -/
theorem rows_single (around : Text.LineAround before ch rest left right)
    (split : source.toList = before ++ ch :: rest) (unfed : ch ≠ '\n')
    (bound : before.length + 3 ≤ UInt32.size) (message : String) :
    rows source ⟨.after before, (Position.after before).next ch⟩ message =
      (reportOn message (.after before) (toString (before.count '\n' + 1)) left right ch).rows := by
  have line : (Position.after before).line.toNat = before.count '\n' + 1 :=
    Position.toNat_line_after (by omega)
  have column := Position.toNat_column_after around (by omega)
  have shown : sourceLine source ⟨.after before, (Position.after before).next ch⟩ =
      .ofList (left ++ ch :: right) := by
    rw [sourceLine, line, Nat.add_sub_cancel, around.getElem?_lines split, Option.getD_some]
  have blanks : indent ⟨.after before, (Position.after before).next ch⟩ = left.length := by
    rw [indent, column, Nat.add_sub_cancel]
  have room : (Position.after before).Room 1 := Position.room_after bound
  have carets := width_single source room unfed
  simp only [rows, line, shown, blanks, carets, Report.rows, reportOn]

/-- A report on one character of a source, wherever it stands, is five lines. They show the line
of the source that the character stands on, and exactly one caret, which is under it. -/
theorem render_pointsAt (split : source.toList = before ++ ch :: rest)
    (bound : source.length ≤ UInt32.size - 2) (unfed : ch ≠ '\n') (unreturned : ch ≠ '\r')
    (single : '\n' ∉ message.toList) :
    ∃ (place : Position) (span : Span) (report : Report),
      Position.start.advanceText (.ofList before) = .ok place ∧
      Span.single place ch = .ok span ∧
      render source span message = String.join (report.rows.map (· ++ "\n")) ∧
      report.PointsAt source before ch rest place message := by
  have length : source.length = before.length + rest.length + 1 := by
    rw [← String.length_toList, split, List.length_append, List.length_cons, Nat.add_assoc]
  have inside : before.length + 3 ≤ UInt32.size := by
    simp only [UInt32.size] at bound ⊢
    omega
  obtain ⟨left, right, around⟩ := Text.exists_lineAround before unfed unreturned rest
  refine ⟨.after before, ⟨.after before, (Position.after before).next ch⟩,
    reportOn message (.after before) (toString (before.count '\n' + 1)) left right ch, ?_, ?_, ?_,
    pointsAt_reportOn around split single _⟩
  · rw [Position.advanceText, String.toList_ofList]
    exact Position.advanceChars_start (by omega)
  · exact (Span.single_tracks (.after before) ch).eq_ok (Position.room_after inside)
  · rw [render, rows_single around split unfed inside]

theorem render_pointsAt_second_line :
    render "a\r\nbé!\r\nc" ⟨⟨6, 2, 3⟩, ⟨7, 2, 4⟩⟩ "no" =
        "error: no\n  --> 2:3\n  |\n2 | bé!\n  |   ^\n" ∧
      ∃ (place : Position) (span : Span) (report : Report),
        Position.start.advanceText "a\r\nbé" = .ok place ∧
        Span.single place '!' = .ok span ∧
        render "a\r\nbé!\r\nc" span "no" = String.join (report.rows.map (· ++ "\n")) ∧
        report.PointsAt "a\r\nbé!\r\nc" ['a', '\r', '\n', 'b', 'é'] '!' ['\r', '\n', 'c'] place
          "no" :=
  ⟨by decide +kernel, render_pointsAt rfl (by decide) (by decide) (by decide) (by decide)⟩

end Diagnostic

end SearchLex
