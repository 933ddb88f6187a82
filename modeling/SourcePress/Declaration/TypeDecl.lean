import SourcePress.Declaration.Callable
import SourcePress.Declaration.Fragment

/-!
# Declarations of types

Three kinds of declarations introduce the name of a type: a `Struct` with its fields and the methods
attached to it, an `Interface` with its embedded interfaces and the signatures of its methods, and a
`Definition` over an underlying type.

A declared type can be referred to in the unit that declares it.  The reference is its name alone and
needs no import.
-/

namespace SourcePress

/-- A field of a struct. -/
structure Field where
  /-- Empty if the field is embedded. -/
  name : String
  type : TypeRef
  tag : Option String := none
deriving DecidableEq, Repr

namespace Field

/-- The line of a field: its name, its type, and its tag between backquotes. -/
def statement (f : Field) : Statement :=
  let name : Statement :=
    if f.name.isEmpty then {} else { template := "$L ", args := [.literal f.name] }
  let tag : Statement :=
    match f.tag with
    | none => {}
    | some tag => { template := " `$L`", args := [.literal tag] }
  name ++ { template := "$T", args := [.type f.type] } ++ tag

end Field

/-- A struct with its methods. -/
structure Struct where
  name : String
  comment : Comment := {}
  fields : List Field := []
  methods : List Method := []
deriving DecidableEq, Repr

namespace Struct

/-- The struct as a type. -/
def ref (s : Struct) : TypeRef := .declared s.name

/-- A pointer to the struct. -/
def pointer (s : Struct) : TypeRef := .pointer s.ref

/-- The receiver of a method of the struct. -/
def receiver (s : Struct) (isPointer : Bool) : TypeRef := if isPointer then s.pointer else s.ref

/-- A method of the struct around a function.  It is not attached yet. -/
def methodOf (s : Struct) (receiverName : String) (isPointer : Bool) (func : Func) : Method :=
  ⟨func, receiverName, s.receiver isPointer⟩

/-- Add a field. -/
def addField (s : Struct) (field : Field) : Struct := { s with fields := s.fields ++ [field] }

/-- Embed a type: a field without a name. -/
def embed (s : Struct) (type : TypeRef) : Struct := s.addField { name := "", type }

/-- Attach a method, to be printed behind the struct. -/
def attachMethod (s : Struct) (m : Method) : Struct := { s with methods := s.methods ++ [m] }

/-- The statements of the struct without its methods. -/
def declaration (s : Struct) : List Statement :=
  s.comment.statements ++
    match s.fields with
    | [] => [{ template := "type $L struct\x7b\x7d", args := [.literal s.name] }]
    | fields =>
      { template := "type $L struct \x7b", args := [.literal s.name], after := 1 }
        :: fields.map Field.statement ++ [Statement.closing "\x7d"]

/-- The statements of the struct and of its methods. -/
def statements (s : Struct) : List Statement :=
  Statement.attach s.declaration (s.methods.map Method.statements)

/-- The imports of the struct: those of its fields, then those of its methods. -/
def imports (s : Struct) : ImportSet :=
  (ImportSet.ofList (s.fields.flatMap fun f => f.type.imports.toList)).attach
    (s.methods.map Method.imports)

end Struct

/-- An interface. -/
structure Interface where
  name : String
  comment : Comment := {}
  embedded : List TypeRef := []
  /-- The methods.  Of each one only the comment and the signature are printed. -/
  methods : List Func := []
deriving DecidableEq, Repr

namespace Interface

/-- The interface as a type. -/
def ref (i : Interface) : TypeRef := .declared i.name

/-- Add a method. -/
def addMethod (i : Interface) (m : Func) : Interface := { i with methods := i.methods ++ [m] }

/-- Embed an interface. -/
def embed (i : Interface) (type : TypeRef) : Interface :=
  { i with embedded := i.embedded ++ [type] }

/-- The lines between the braces: the embedded interfaces, then the methods. -/
def members (i : Interface) : List Statement :=
  i.embedded.map (fun t => { template := "$T", args := [.type t] })
    ++ i.methods.flatMap fun m => m.comment.statements ++ [m.signature]

/-- The statements of the interface. -/
def statements (i : Interface) : List Statement :=
  i.comment.statements ++
    match i.embedded, i.methods with
    | [], [] => [{ template := "type $L interface\x7b\x7d", args := [.literal i.name] }]
    | _, _ =>
      { template := "type $L interface \x7b", args := [.literal i.name], after := 1 }
        :: i.members ++ [Statement.closing "\x7d"]

/-- The imports of the interface: those of the embedded interfaces, then those of the signatures. -/
def imports (i : Interface) : ImportSet :=
  (ImportSet.ofList (i.embedded.flatMap fun t => t.imports.toList)).attach
    (i.methods.map Func.signatureImports)

end Interface

/-- A named type over an underlying type. -/
structure Definition where
  name : String
  underlying : TypeRef
  comment : Comment := {}
deriving DecidableEq, Repr

namespace Definition

/-- The defined type. -/
def ref (d : Definition) : TypeRef := .declared d.name

/-- The statements of the definition. -/
def statements (d : Definition) : List Statement :=
  d.comment.statements
    ++ [{ template := "type $L $T", args := [.literal d.name, .type d.underlying] }]

/-- The imports of the definition. -/
def imports (d : Definition) : ImportSet := d.underlying.imports

end Definition

end SourcePress
