import SourcePress.Declaration.Comment

/-!
# Functions and methods

A `Func` is a comment, a signature and a body.  Its signature is one statement, built by joining the
statements of its parts: the name, the parameters in parentheses, and the results, which need
parentheses unless there is a single one without a name.

A `Method` is a function with a receiver in front of its name.

Both are built by the same steps (`Func.Step`), which add a parameter, a result, a line of the body
and so on.
-/

namespace SourcePress

/-- A parameter or a result. -/
structure Parameter where
  /-- Empty if the parameter has no name. -/
  name : String
  type : TypeRef
  variadic : Bool := false
deriving DecidableEq, Repr

namespace Parameter

/-- The text of a parameter as a statement: its name, the dots if it is variadic, and its type. -/
def statement (p : Parameter) : Statement :=
  let name : Statement :=
    if p.name.isEmpty then {} else { template := "$L ", args := [.literal p.name] }
  let dots : Statement := if p.variadic then { template := "..." } else {}
  name ++ dots ++ { template := "$T", args := [.type p.type] }

/-- The parameters behind one another, separated by commas. -/
def listing : List Parameter → Statement
  | [] => {}
  | [p] => p.statement
  | p :: rest => p.statement ++ { template := ", " } ++ listing rest

end Parameter

/-- A function: its signature, and the statements of its body. -/
structure Func where
  name : String
  comment : Comment := {}
  params : List Parameter := []
  results : List Parameter := []
  body : List Statement := []
deriving DecidableEq, Repr

namespace Func

/-- A step of building a function. -/
inductive Step where
  | comment (text : String)
  | param (name : String) (type : TypeRef)
  | variadic (name : String) (type : TypeRef)
  | result (name : String) (type : TypeRef)
  | statement (s : Statement)
  | statements (ss : List Statement)
  /-- Open a block in the body: a brace is put behind the statement. -/
  | blockStart (header : Statement)
  /-- Close the innermost block of the body. -/
  | blockEnd
deriving DecidableEq, Repr

/-- The line that opens a block behind a header.  The header's own step after it is dropped. -/
def blockHeader (header : Statement) : Statement := header ++ Statement.opening " \x7b"

/-- Take a step. -/
def apply (f : Func) : Step → Func
  | .comment text => { f with comment := ⟨text⟩ }
  | .param name type => { f with params := f.params ++ [{ name, type }] }
  | .variadic name type => { f with params := f.params ++ [{ name, type, variadic := true }] }
  | .result name type => { f with results := f.results ++ [{ name, type }] }
  | .statement s => { f with body := f.body ++ [s] }
  | .statements ss => { f with body := f.body ++ ss }
  | .blockStart header => { f with body := f.body ++ [blockHeader header] }
  | .blockEnd => { f with body := f.body ++ [Statement.closing "\x7d"] }

/-- Take steps one after the other. -/
def applyAll (f : Func) (steps : List Step) : Func := steps.foldl apply f

/-- The results of a signature with what stands around them. -/
def resultPart : List Parameter → Statement
  | [] => {}
  | [only] =>
    if only.name.isEmpty then { template := " " } ++ only.statement
    else { template := " (" } ++ only.statement ++ { template := ")" }
  | results => { template := " (" } ++ Parameter.listing results ++ { template := ")" }

/-- The signature: name, parameters, results. -/
def signature (f : Func) : Statement :=
  { template := "$L(", args := [.literal f.name] } ++ Parameter.listing f.params
    ++ { template := ")" } ++ resultPart f.results

/-- The imports that the signature needs. -/
def signatureImports (f : Func) : ImportSet :=
  ImportSet.ofList ((f.params ++ f.results).flatMap fun p => p.type.imports.toList)

/-- The statements of the declaration, with `header` in front of the signature. -/
def declaration (f : Func) (header : Statement) : List Statement :=
  f.comment.statements ++ (header ++ f.signature ++ Statement.opening " \x7b") :: f.body
    ++ [Statement.closing "\x7d"]

/-- The statements of the function. -/
def statements (f : Func) : List Statement := f.declaration { template := "func " }

/-- The imports of the function: those of its body, then those of its signature. -/
def imports (f : Func) : ImportSet := (ImportSet.ofStatements f.body).merge f.signatureImports

end Func

/-- A function with a receiver. -/
structure Method where
  func : Func
  receiverName : String
  receiver : TypeRef
deriving DecidableEq, Repr

namespace Method

/-- A method without parameters, results and body. -/
def ofName (name receiverName : String) (receiver : TypeRef) : Method :=
  ⟨{ name }, receiverName, receiver⟩

/-- Take a step of building the function. -/
def apply (m : Method) (step : Func.Step) : Method := { m with func := m.func.apply step }

/-- Take steps one after the other. -/
def applyAll (m : Method) (steps : List Func.Step) : Method := steps.foldl apply m

/-- The receiver in front of the signature. -/
def header (m : Method) : Statement :=
  { template := "func ($L $T) ", args := [.literal m.receiverName, .type m.receiver] }

/-- The statements of the method. -/
def statements (m : Method) : List Statement := m.func.declaration m.header

/-- The imports of the method: those of the receiver, then those of the function. -/
def imports (m : Method) : ImportSet := m.receiver.imports.merge m.func.imports

end Method

end SourcePress
