import SourcePress.Declaration.Basic
import SourcePress.FileTree
import SourcePress.Writer

/-!
# Source files

A `SourceFile` is the name of a package and the declarations in it.  Printing goes in two passes,
because the import section stands above the declarations and is only known after them.  `renderBody`
prints the declarations with one blank line between two of them, and gives their text with the
imports that the text needs; declarations without statements are left out.  `render` puts the header
in front: the comment, the package clause and the imports, sorted by path.

`save` prints a file and puts it into a file tree, under the file's name with the ending `.go`.
-/

namespace SourcePress

/-- A source file. -/
structure SourceFile where
  /-- The name in the package clause. -/
  package : String
  /-- The path of the package itself. -/
  importPath : Option String := none
  /-- The name of the file without its ending. -/
  fileName : String := package
  comment : Comment := {}
  indent : Indent := .tab
  declarations : List Declaration := []
deriving DecidableEq, Repr

namespace SourceFile

open Writer (Write)

/-- The blocks of the file's declarations. -/
def blocks (f : SourceFile) : List (List Statement) := Declaration.blocks f.declarations

/-- Write blocks with one blank line between two of them. -/
def writeBlocks : List (List Statement) → Write Unit
  | [] => pure ()
  | [block] => Writer.writeBlock block
  | block :: rest => do
    Writer.writeBlock block
    Writer.writeStatement Statement.blank
    writeBlocks rest

/-- The writer at the start of the declarations. -/
def bodyWriter (f : SourceFile) : Writer := Writer.ofConfig ⟨f.indent, f.importPath⟩

/-- The text of the declarations, and the imports that it needs. -/
def renderBody (f : SourceFile) : Except Error Rendered :=
  match writeBlocks f.blocks f.bodyWriter with
  | .error e _ => .error e
  | .ok () w => .ok w.finish

/-- The line of an import. -/
def importLine (i : Import) : String :=
  match i.asName with
  | some name => name ++ " \"" ++ i.path ++ "\""
  | none => "\"" ++ i.path ++ "\""

/-- The import section: nothing, a single line, or the imports between parentheses. -/
def importSection : List Import → List Statement
  | [] => []
  | [only] => [.blank, { template := "import $L", args := [.literal (importLine only)] }]
  | imports =>
    .blank :: .opening "import (" ::
      imports.map (fun i => { template := "$L", args := [.literal (importLine i)] })
      ++ [.closing ")"]

/-- The imports in the order of their paths. -/
def sortImports (imports : List Import) : List Import :=
  imports.mergeSort fun a b => Text.atMost a.path.toList b.path.toList

/-- Write the header of the file. -/
def writeHeader (f : SourceFile) (imports : List Import) : Write Unit := do
  Writer.writeBlock f.comment.statements
  Writer.writeStatement { template := "package $L", args := [.literal f.package] }
  (importSection imports).forM Writer.writeStatement

/-- The text of the header. -/
def header (f : SourceFile) (imports : List Import) : Except Error String :=
  match f.writeHeader imports (Writer.ofConfig ⟨f.indent, none⟩) with
  | .error e _ => .error e
  | .ok () w => .ok w.buffer

/-- The text of the file. -/
def render (f : SourceFile) : Except Error String := do
  let body ← f.renderBody
  let header ← f.header (sortImports body.imports)
  return if body.code.isEmpty then header else header ++ "\n" ++ body.code

/-- Why a file is not saved: it cannot be printed, or the file tree cannot hold it. -/
inductive SaveError where
  | render (e : Error)
  | storage
deriving DecidableEq, Repr

/-- Print the file and save it in a directory.  Nothing is changed if it cannot be printed.  The
result is the path as it was put together, and where the file stands. -/
def save (f : SourceFile) (directory : String) :
    EStateM SaveError FileTree (String × List String) := fun t =>
  match f.render with
  | .error e => .error (.render e) t
  | .ok contents =>
    let path := joinPath directory (f.fileName ++ ".go")
    match FileTree.save path contents t with
    | .error _ t => .error .storage t
    | .ok place t => .ok (String.ofList (trimPath path.toList), place) t

end SourceFile

end SourcePress
