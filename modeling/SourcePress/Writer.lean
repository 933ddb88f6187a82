import SourcePress.Config.Basic
import SourcePress.Layout
import SourcePress.Template

/-!
# The writer

A `Writer` prints one unit.  It holds the text so far, the current depth, the registry of the packages
that the text refers to, and the number of statements written.

Writing a statement takes its first step of indentation, prints its line at the depth reached, and
takes the second step.  A statement that cannot be written leaves the writer as it was: both steps
are tried, and the template is filled, before anything is changed.  A block of statements stops at
the first statement that fails; the statements before it stay written, and the error says which one
it was.

An empty line is written without indentation, so blank lines stay blank.
-/

namespace SourcePress

/-- The state of printing a unit. -/
structure Writer where
  depth : Nat := 0
  indent : Indent := .tab
  buffer : String := ""
  registry : Registry := {}
  /-- The number of statements written so far. -/
  written : Nat := 0
deriving DecidableEq, Repr

/-- A printed unit: its text, and the packages that the text needs. -/
structure Rendered where
  code : String
  imports : List Import
deriving DecidableEq, Repr

namespace Writer

/-- A step of writing: it may fail, and leaves a writer behind in either case. -/
abbrev Write := EStateM Error Writer

/-- The writer at the start of a unit. -/
def ofConfig (config : Config) : Writer :=
  { indent := config.indent, registry := Registry.ofHome config.home }

instance : Inhabited Writer := ⟨ofConfig {}⟩

/-- The line of `code` at a depth: indented, unless it is empty. -/
def line (indent : Indent) (depth : Nat) (code : String) : String :=
  if code.isEmpty then "" else indent.margin depth ++ code

/-- Write code at the current depth, without ending the line. -/
def writeCode (w : Writer) (code : String) : Writer :=
  { w with buffer := w.buffer ++ line w.indent w.depth code }

/-- Write one statement. -/
def writeStatement (s : Statement) : Write Unit := fun w =>
  match Layout.step w.depth s with
  | .error e => .error e w
  | .ok (level, next) =>
    match Template.render s.template s.args w.registry with
    | .error e r => .error e { w with registry := r }
    | .ok code r =>
      let w' := { w with depth := level, registry := r }.writeCode code
      .ok () { w' with buffer := w'.buffer ++ "\n", depth := next, written := w.written + 1 }

/-- Write statements, the first of which has number `index` in its block. -/
def writeFrom (index : Nat) : List Statement → Write Unit
  | [] => fun w => .ok () w
  | s :: rest => fun w =>
    match writeStatement s w with
    | .error e w' => .error (.statement index e) w'
    | .ok () w' => writeFrom (index + 1) rest w'

/-- Write the statements of a block in order. -/
def writeBlock (statements : List Statement) : Write Unit := writeFrom 0 statements

/-- The printed unit. -/
def finish (w : Writer) : Rendered := ⟨w.buffer, w.registry.imports⟩

/-- The text of a block of statements on its own. -/
def renderBlock (statements : List Statement) : Except Error String :=
  match writeBlock statements {} with
  | .error e _ => .error e
  | .ok () w => .ok w.buffer

@[simp] theorem line_empty (indent : Indent) (depth : Nat) : line indent depth "" = "" := rfl

@[simp] theorem writeFrom_nil (index : Nat) (w : Writer) : writeFrom index [] w = .ok () w := rfl

end Writer

end SourcePress
