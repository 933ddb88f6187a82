/-!
# Segments and lines of a text

`segments sep` cuts a text at every occurrence of a separator.  There is always at least one
segment, and joining the segments by the separator gives the text back.

`lines` cuts a text into lines.  A line ends at a newline, and a carriage return right before the
newline belongs to the line's end.  The last line needs no newline: a final newline starts no
further line, and a carriage return at the very end of the text is part of its line.
-/

namespace SourcePress.Text

/-! ## Segments -/

/-- The pieces between the occurrences of `sep`, the empty ones included. -/
def segments (sep : Char) : List Char → List (List Char)
  | [] => [[]]
  | c :: rest =>
    if c = sep then [] :: segments sep rest
    else match segments sep rest with
      | [] => [[c]]
      | s :: more => (c :: s) :: more

@[simp] theorem segments_nil (sep : Char) : segments sep [] = [[]] := rfl

@[simp] theorem segments_cons_sep (sep : Char) (rest : List Char) :
    segments sep (sep :: rest) = [] :: segments sep rest := by
  simp [segments]

theorem segments_ne_nil (sep : Char) : ∀ cs : List Char, segments sep cs ≠ []
  | [] => by simp
  | c :: rest => by
    rw [segments]
    split
    · simp
    · split <;> simp

/-- A character other than the separator joins the first segment. -/
theorem segments_cons_of_ne {sep c : Char} (h : c ≠ sep) {rest s : List Char}
    {more : List (List Char)} (hs : segments sep rest = s :: more) :
    segments sep (c :: rest) = (c :: s) :: more := by
  simp [segments, h, hs]

/-- A text without the separator is its only segment. -/
theorem segments_of_notMem {sep : Char} : ∀ {cs : List Char}, sep ∉ cs → segments sep cs = [cs]
  | [], _ => rfl
  | c :: rest, h => by
    have hc : c ≠ sep := fun e => h (by simp [e])
    exact segments_cons_of_ne hc (segments_of_notMem fun hm => h (List.mem_cons_of_mem _ hm))

/-- Cutting at a separator in the middle cuts both sides on their own. -/
theorem segments_append_sep (sep : Char) (front back : List Char) :
    segments sep (front ++ sep :: back) = segments sep front ++ segments sep back := by
  induction front with
  | nil => simp
  | cons c rest ih =>
    by_cases h : c = sep
    · subst h
      simp [ih]
    · obtain ⟨s, more, hs⟩ := List.exists_cons_of_ne_nil (segments_ne_nil sep rest)
      rw [List.cons_append, segments_cons_of_ne h hs, List.cons_append]
      exact segments_cons_of_ne h (by rw [ih, hs, List.cons_append])

/-! ## Lines -/

/-- The lines of a text, without their ends. -/
def lines : List Char → List (List Char)
  | [] => []
  | '\n' :: rest => [] :: lines rest
  | '\r' :: '\n' :: rest => [] :: lines rest
  | c :: rest =>
    match lines rest with
    | [] => [[c]]
    | line :: more => (c :: line) :: more

@[simp] theorem lines_nil : lines [] = [] := rfl

@[simp] theorem lines_newline (rest : List Char) : lines ('\n' :: rest) = [] :: lines rest := by
  rw [lines]

@[simp] theorem lines_return_newline (rest : List Char) :
    lines ('\r' :: '\n' :: rest) = [] :: lines rest := by
  rw [lines]

/-- Only the empty text has no lines. -/
theorem lines_eq_nil_iff {cs : List Char} : lines cs = [] ↔ cs = [] := by
  refine ⟨fun h => ?_, fun h => h ▸ rfl⟩
  fun_cases lines cs with
  | case1 => rfl
  | case2 => simp at h
  | case3 => simp at h
  | case4 c rest h₁ h₂ h₃ => rw [lines] at h <;> simp_all
  | case5 c rest h₁ h₂ line more h₃ => rw [lines] at h <;> simp_all

end SourcePress.Text
