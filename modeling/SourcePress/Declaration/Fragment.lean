import SourcePress.Statement

/-!
# Fragments and attachment

A `Fragment` is a plain list of statements.  The imports of its type arguments are collected by
themselves; imports that no argument mentions can be added.

`attach` puts blocks of statements behind one another.  Between two neighbours that both have
statements stands exactly one blank line, and blocks without statements leave no trace.
-/

namespace SourcePress

/-- A list of statements, with imports that its arguments do not mention. -/
structure Fragment where
  statements : List Statement := []
  /-- The imports that were added by hand. -/
  added : ImportSet := .empty
deriving DecidableEq, Repr

namespace Fragment

/-- The imports of a fragment: those of its arguments, then those added by hand. -/
def imports (f : Fragment) : ImportSet := (ImportSet.ofStatements f.statements).merge f.added

/-- Add imports that no argument mentions. -/
def addImports (f : Fragment) (imports : ImportSet) : Fragment :=
  { f with added := f.added.merge imports }

end Fragment

namespace Statement

/-- Put a block behind the statements so far, with a blank line between two that are not empty. -/
def attachOne (statements block : List Statement) : List Statement :=
  match statements, block with
  | statements, [] => statements
  | [], block => block
  | statements, block => statements ++ blank :: block

/-- Put blocks behind the statements of a parent. -/
def attach (parent : List Statement) (blocks : List (List Statement)) : List Statement :=
  blocks.foldl attachOne parent

@[simp] theorem attachOne_nil (statements : List Statement) :
    attachOne statements [] = statements := by
  cases statements <;> rfl

@[simp] theorem nil_attachOne (block : List Statement) : attachOne [] block = block := by
  cases block <;> rfl

theorem attachOne_of_ne_nil {statements block : List Statement} (hs : statements ≠ [])
    (hb : block ≠ []) : attachOne statements block = statements ++ blank :: block := by
  cases statements <;> cases block <;> simp_all [attachOne]

end Statement

namespace ImportSet

/-- Merge the imports of attached blocks into those of their parent. -/
def attach (parent : ImportSet) (blocks : List ImportSet) : ImportSet := blocks.foldl merge parent

end ImportSet

end SourcePress
