import SourcePress.Declaration.Binding
import SourcePress.Declaration.Callable
import SourcePress.Declaration.TypeDecl

/-!
# Declarations

What a source file consists of.  Whatever its kind, a declaration has statements, which are what is
printed, and imports, which are what the statements need.
-/

namespace SourcePress

/-- A piece of a source file. -/
inductive Declaration where
  | fragment (f : Fragment)
  | comment (c : Comment)
  | func (f : Func)
  | method (m : Method)
  | struct (s : Struct)
  | interface (i : Interface)
  | definition (d : Definition)
  | binding (v : Variable)
  | group (g : Group)
deriving DecidableEq, Repr

namespace Declaration

/-- The statements that are printed for a declaration. -/
def statements : Declaration → List Statement
  | .fragment f => f.statements
  | .comment c => c.statements
  | .func f => f.statements
  | .method m => m.statements
  | .struct s => s.statements
  | .interface i => i.statements
  | .definition d => d.statements
  | .binding v => v.statements
  | .group g => g.statements

/-- The imports that the statements need, each path once. -/
def imports : Declaration → ImportSet
  | .fragment f => f.imports
  | .comment _ => .empty
  | .func f => f.imports
  | .method m => m.imports
  | .struct s => s.imports
  | .interface i => i.imports
  | .definition d => d.imports
  | .binding v => v.imports
  | .group g => g.imports

/-- The declarations that have statements, as lists of statements. -/
def blocks (ds : List Declaration) : List (List Statement) :=
  (ds.map statements).filter (!·.isEmpty)

end Declaration

end SourcePress
