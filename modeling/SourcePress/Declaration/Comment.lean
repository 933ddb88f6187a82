import SourcePress.Statement
import SourcePress.Text.Segments

/-!
# Comments

A comment is a text; each of its lines is printed behind two slashes.  The text is an argument of the
statement and not part of its template, so nothing in it is ever taken for a directive.
-/

namespace SourcePress

/-- A comment above a declaration, or on its own. -/
structure Comment where
  text : String := ""
deriving DecidableEq, Repr

namespace Comment

/-- Is there no text? -/
def isEmpty (c : Comment) : Bool := c.text.isEmpty

/-- The lines of the text. -/
def lines (c : Comment) : List String := (Text.lines c.text.toList).map String.ofList

/-- The statement of one line of a comment. -/
def lineStatement (line : String) : Statement :=
  if line.isEmpty then { template := "//" } else { template := "// $L", args := [.literal line] }

/-- A statement for each line. -/
def statements (c : Comment) : List Statement := c.lines.map lineStatement

/-- A comment refers to no types. -/
theorem refs_of_mem_statements {c : Comment} {s : Statement} (hs : s ∈ c.statements) :
    s.refs = [] := by
  obtain ⟨line, -, rfl⟩ := List.mem_map.mp hs
  unfold lineStatement
  split <;> rfl

end Comment

end SourcePress
