import SourcePress.Proofs.SuppliedLines

/-!
# Comments stay comments

The text of a comment is the caller's, and nothing about it is checked.  It may have dollar signs,
empty lines, and line ends of two sorts; if one of its characters came to stand outside of a comment
line, it would be read as code.

That this cannot happen has two reasons.  A line of the text is an argument of its statement and not
part of the template, so nothing in it is taken for a directive, and it always renders
(`Comment.writeStatement_of_mem_lines`).  And a line has no newline in it
(`Text.newline_notMem_of_mem_lines`), so that cutting what was written at its newlines finds the same
lines again (`Text.segments_terminated`): each of them begins with the indentation and two slashes,
and what is left of it is a line of the text.  A carriage return that is not part of a line end stays
in its line.
-/

namespace SourcePress

/-! ## Lines of a text -/

namespace Text

/-- A piece of text before a newline, without a carriage return at its end. -/
def withoutReturn (cs : List Char) : List Char :=
  if cs.getLast? = some '\r' then cs.dropLast else cs

/-- The lines that the pieces between newlines make up.  The last piece has no newline behind it: it
keeps a carriage return, and counts only if it is not empty. -/
def linesOfPieces (pieces : List (List Char)) : List (List Char) :=
  pieces.dropLast.map withoutReturn ++ pieces.getLast?.toList.filter (!·.isEmpty)

theorem withoutReturn_cons {c : Char} {cs : List Char} (h : c = '\r' → cs ≠ []) :
    withoutReturn (c :: cs) = c :: withoutReturn cs := by
  cases cs with
  | nil =>
    have hc : c ≠ '\r' := fun e => h e rfl
    simp [withoutReturn, hc]
  | cons d rest =>
    rw [withoutReturn, withoutReturn, List.getLast?_cons_cons, List.dropLast_cons_cons]
    split
    · rfl
    · rfl

theorem linesOfPieces_cons (piece : List Char) {more : List (List Char)} (h : more ≠ []) :
    linesOfPieces (piece :: more) = withoutReturn piece :: linesOfPieces more := by
  obtain ⟨next, others, rfl⟩ := List.exists_cons_of_ne_nil h
  rfl

/-- Only a separator can stand behind an empty first piece. -/
theorem exists_of_segments_eq_nil_cons {sep : Char} {cs next : List Char} {more : List (List Char)}
    (h : segments sep cs = [] :: next :: more) : ∃ rest, cs = sep :: rest := by
  cases cs with
  | nil => simp at h
  | cons c rest =>
    by_cases hc : c = sep
    · exact ⟨rest, by rw [hc]⟩
    · obtain ⟨piece, others, hrest⟩ := List.exists_cons_of_ne_nil (segments_ne_nil sep rest)
      rw [segments_cons_of_ne hc hrest] at h
      cases h

/-- **The lines of a text are found by cutting it at its newlines.** -/
theorem lines_eq_linesOfPieces (cs : List Char) :
    lines cs = linesOfPieces (segments '\n' cs) := by
  fun_induction lines cs with
  | case1 => rfl
  | case2 rest ih =>
    rw [segments_cons_sep, linesOfPieces_cons [] (segments_ne_nil '\n' rest), ← ih]
    rfl
  | case3 rest ih =>
    have hcut : segments '\n' ('\r' :: '\n' :: rest) = ['\r'] :: segments '\n' rest :=
      segments_append_sep '\n' ['\r'] rest
    rw [hcut, linesOfPieces_cons ['\r'] (segments_ne_nil '\n' rest), ← ih]
    rfl
  | case4 c rest hnewline hreturn hnone ih =>
    rw [lines_eq_nil_iff.mp hnone, segments_cons_of_ne hnewline (segments_nil '\n')]
    rfl
  | case5 c rest hnewline hreturn line more hlines ih =>
    obtain ⟨piece, others, hcut⟩ := List.exists_cons_of_ne_nil (segments_ne_nil '\n' rest)
    rw [hlines, hcut] at ih
    rw [segments_cons_of_ne hnewline hcut]
    cases others with
    | nil =>
      -- the rest has no newline, and is its only line
      have hpiece : line :: more = [piece].filter (!·.isEmpty) := ih
      cases piece with
      | nil => cases hpiece
      | cons d piece =>
        cases hpiece
        rfl
    | cons next others =>
      have hnext : next :: others ≠ [] := List.cons_ne_nil next others
      have hcarriage : c = '\r' → piece ≠ [] := by
        rintro hc rfl
        obtain ⟨rest', hrest⟩ := exists_of_segments_eq_nil_cons hcut
        exact hreturn rest' hc hrest
      rw [linesOfPieces_cons piece hnext] at ih
      rw [linesOfPieces_cons (c :: piece) hnext, withoutReturn_cons hcarriage]
      injection ih with hline hmore
      rw [hline, hmore]

theorem newline_notMem_of_mem_lines {cs line : List Char} (h : line ∈ lines cs) : '\n' ∉ line := by
  fun_induction lines cs generalizing line with
  | case1 => exact absurd h List.not_mem_nil
  | case2 rest ih =>
    rcases List.mem_cons.mp h with rfl | h
    · exact List.not_mem_nil
    · exact ih h
  | case3 rest ih =>
    rcases List.mem_cons.mp h with rfl | h
    · exact List.not_mem_nil
    · exact ih h
  | case4 c rest hnewline hreturn hnone ih =>
    rw [List.mem_singleton.mp h, List.mem_singleton]
    exact Ne.symm hnewline
  | case5 c rest hnewline hreturn first more hlines ih =>
    rw [hlines] at ih
    rcases List.mem_cons.mp h with rfl | h
    · rw [List.mem_cons, not_or]
      exact ⟨Ne.symm hnewline, ih (List.mem_cons_self ..)⟩
    · exact ih (List.mem_cons_of_mem _ h)

/-- Lines that each end with a separator are found again by cutting at it, and what is behind them
is cut on its own. -/
theorem segments_terminated {sep : Char} {ls : List (List Char)} (h : ∀ l ∈ ls, sep ∉ l)
    (rest : List Char) :
    segments sep (ls.flatMap (· ++ [sep]) ++ rest) = ls ++ segments sep rest := by
  induction ls with
  | nil => rfl
  | cons l more ih =>
    obtain ⟨hl, hmore⟩ := List.forall_mem_cons.mp h
    rw [List.flatMap_cons, List.append_assoc, List.append_assoc, List.singleton_append,
      segments_append_sep, segments_of_notMem hl, ih hmore]
    rfl

end Text

/-! ## What is written for a comment -/

theorem Indent.newline_notMem_margin (i : Indent) (depth : Nat) :
    '\n' ∉ (i.margin depth).toList := by
  have hfill : '\n' ≠ i.fill := by
    cases i with
    | tab => exact (by decide : '\n' ≠ '\t')
    | spaces width => exact (by decide : '\n' ≠ ' ')
  rw [margin, String.toList_ofList, List.mem_replicate]
  exact fun h => hfill h.2

namespace Comment

/-- **One line.**  It is written at the depth of the writer, whatever its characters are, and only
the text and the number of statements change. -/
theorem writeStatement_of_mem_lines {c : Comment} {l : String} (hl : l ∈ c.lines) (w : Writer) :
    Writer.writeStatement (lineStatement l) w = .ok () { w with
      buffer := w.buffer ++ (w.indent.margin w.depth ++ marked l ++ "\n")
      written := w.written + 1 } := by
  have hmem : lineStatement l ∈ c.statements := List.mem_map_of_mem hl
  obtain ⟨hbefore, hafter⟩ := c.before_after_of_mem_statements _ hmem
  have hstep := Layout.step_of_level hbefore hafter w.depth
  obtain ⟨ps, hpieces⟩ :=
    Statement.renderError?_eq_none_iff.mp (c.renderError?_of_mem_statements _ hmem)
  have hregistry : (w.advance w.depth w.depth ps).registry = w.registry := by
    rw [Writer.registry_advance hpieces, Statement.needs, refs_of_mem_statements hmem]
    rfl
  have hbuffer : (w.advance w.depth w.depth ps).buffer =
      w.buffer ++ (w.indent.margin w.depth ++ marked l ++ "\n") := by
    rw [Writer.buffer_advance hpieces, substitute_lineStatement, line_marked]
  rw [Writer.writeStatement_of_pieces hstep hpieces, ← hbuffer, ← hregistry]
  rfl

/-- Lines of a comment, one after the other. -/
theorem writeFrom_of_mem_lines {c : Comment} (index : Nat) {ls : List String}
    (hls : ∀ l ∈ ls, l ∈ c.lines) (w : Writer) :
    Writer.writeFrom index (ls.map lineStatement) w = .ok () { w with
      buffer := w.buffer ++
        String.join (ls.map fun l => w.indent.margin w.depth ++ marked l ++ "\n")
      written := w.written + ls.length } := by
  induction ls generalizing index w with
  | nil => simp
  | cons l rest ih =>
    obtain ⟨hl, hrest⟩ := List.forall_mem_cons.mp hls
    refine Writer.writeFrom_cons_eq_ok_iff.mpr ⟨_, writeStatement_of_mem_lines hl w, ?_⟩
    rw [ih (index + 1) hrest]
    dsimp only
    rw [List.map_cons, String.join_cons, List.length_cons, @String.append_assoc w.buffer,
      Nat.add_assoc, Nat.add_comm 1]

/-! ## Reading a comment back -/

/-- What stands behind the marker in a line of a comment, if it has one. -/
def unmarked : List Char → Option (List Char)
  | ['/', '/'] => some []
  | '/' :: '/' :: ' ' :: rest => some rest
  | _ => none

/-- What stands in a line behind the indentation and the marker, if it has both. -/
def stripped (margin : String) (line : List Char) : Option (List Char) :=
  (margin.toList.isPrefixOf? line).bind unmarked

theorem unmarked_marked (l : String) : unmarked (marked l).toList = some l.toList := by
  by_cases hl : l = ""
  · rw [marked, if_pos hl, hl]
    rfl
  · rw [marked, if_neg hl, String.toList_append]
    rfl

theorem isPrefixOf?_append (front rest : List Char) :
    front.isPrefixOf? (front ++ rest) = some rest := by
  induction front with
  | nil => simp [List.isPrefixOf?]
  | cons c front ih => simp [List.isPrefixOf?, ih]

theorem stripped_line (margin l : String) :
    stripped margin (margin ++ marked l).toList = some l.toList := by
  rw [stripped, String.toList_append, isPrefixOf?_append, Option.bind_some, unmarked_marked]

theorem newline_notMem_of_mem_lines {c : Comment} {l : String} (h : l ∈ c.lines) :
    '\n' ∉ l.toList := by
  obtain ⟨cs, hcs, rfl⟩ := List.mem_map.mp h
  rw [String.toList_ofList]
  exact Text.newline_notMem_of_mem_lines hcs

theorem newline_notMem_marked {l : String} (h : '\n' ∉ l.toList) : '\n' ∉ (marked l).toList := by
  unfold marked
  split
  · decide
  · rw [String.toList_append, List.mem_append, not_or]
    exact ⟨by decide, h⟩

/-- The lines of the text of a comment, without the newlines. -/
def printedLines (c : Comment) (indent : Indent) (depth : Nat) : List (List Char) :=
  c.lines.map fun l => (indent.margin depth ++ marked l).toList

theorem toList_printed (c : Comment) (indent : Indent) (depth : Nat) :
    (c.printed indent depth).toList = (c.printedLines indent depth).flatMap (· ++ ['\n']) := by
  rw [printed, printedLines, String.toList_join, List.flatMap_map, List.flatMap_map]
  refine List.flatMap_congr fun l _ => ?_
  rw [String.toList_append]
  rfl

theorem newline_notMem_of_mem_printedLines (c : Comment) (indent : Indent) (depth : Nat) :
    ∀ line ∈ c.printedLines indent depth, '\n' ∉ line := by
  refine List.forall_mem_map.mpr fun l hl => ?_
  rw [String.toList_append, List.mem_append, not_or]
  exact ⟨indent.newline_notMem_margin depth,
    newline_notMem_marked (newline_notMem_of_mem_lines hl)⟩

/-- The lines that are found in the text of a comment. -/
theorem segments_printed (c : Comment) (indent : Indent) (depth : Nat) :
    Text.segments '\n' (c.printed indent depth).toList =
      c.lines.map (fun l => (indent.margin depth ++ marked l).toList) ++ [[]] := by
  have hsegments := Text.segments_terminated (c.newline_notMem_of_mem_printedLines indent depth) []
  rw [List.append_nil] at hsegments
  rw [toList_printed, hsegments]
  rfl

theorem lines_eq_nil_iff_isEmpty (c : Comment) : c.lines = [] ↔ c.isEmpty = true := by
  rw [lines, List.map_eq_nil_iff, Text.lines_eq_nil_iff, isEmpty, String.isEmpty_iff,
    String.toList_eq_nil_iff]

theorem printed_eq_empty_iff (c : Comment) (indent : Indent) (depth : Nat) :
    c.printed indent depth = "" ↔ c.isEmpty = true := by
  rw [← c.lines_eq_nil_iff_isEmpty]
  refine ⟨fun h => ?_, fun h => by rw [printed, h]; rfl⟩
  -- an empty text has one empty piece, and so no line in front of it
  have hsegments := c.segments_printed indent depth
  rw [h] at hsegments
  have hnone : c.lines.map (fun l => (indent.margin depth ++ marked l).toList) = [] :=
    List.append_cancel_right hsegments.symm
  exact List.map_eq_nil_iff.mp hnone

/-- **A comment stays a comment.**  Writing it always succeeds, and changes nothing in the writer but
its text and the number of statements.  The text added consists of as many lines as the comment has,
each ended by a newline; all of them begin with the indentation and two slashes, and without these
they are the lines of the comment's text: the pieces between its newlines, without the carriage
returns before these. -/
theorem written_as_comment_lines (c : Comment) (w : Writer) :
    Writer.writeBlock c.statements w = .ok () { w with
        buffer := w.buffer ++ c.printed w.indent w.depth
        written := w.written + c.lines.length } ∧
      Text.segments '\n' (c.printed w.indent w.depth).toList =
        c.lines.map (fun l => (w.indent.margin w.depth ++ marked l).toList) ++ [[]] ∧
      (∀ line ∈ (Text.segments '\n' (c.printed w.indent w.depth).toList).dropLast,
        (w.indent.margin w.depth ++ "//").toList <+: line) ∧
      (Text.segments '\n' (c.printed w.indent w.depth).toList).dropLast.map
          (stripped (w.indent.margin w.depth)) =
        (Text.linesOfPieces (Text.segments '\n' c.text.toList)).map some ∧
      c.lines = (Text.linesOfPieces (Text.segments '\n' c.text.toList)).map String.ofList ∧
      (c.printed w.indent w.depth = "" ↔ c.isEmpty = true) := by
  have hsegments := c.segments_printed w.indent w.depth
  refine ⟨writeFrom_of_mem_lines 0 (fun _ hl => hl) w, hsegments, ?_, ?_, ?_,
    c.printed_eq_empty_iff w.indent w.depth⟩
  · rw [hsegments, List.dropLast_concat]
    refine List.forall_mem_map.mpr fun l _ => ?_
    obtain ⟨rest, hrest⟩ := slashes_marked l
    refine ⟨rest.toList, ?_⟩
    rw [hrest, ← String.append_assoc, ← String.toList_append]
  · rw [hsegments, List.dropLast_concat, ← Text.lines_eq_linesOfPieces, List.map_map, lines,
      List.map_map]
    refine List.map_congr_left fun cs _ => ?_
    rw [Function.comp_apply, Function.comp_apply, stripped_line, String.toList_ofList]
  · rw [← Text.lines_eq_linesOfPieces]
    rfl

example : (⟨"tide\r\n\n$Q ebb\r"⟩ : Comment).printed .tab 1 =
    "\t// tide\n\t//\n\t// $Q ebb\r\n" := by
  decide

end Comment

end SourcePress
