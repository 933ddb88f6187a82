import SourcePress.Decimal.Binary
import SourcePress.TypeRef

/-!
# Statements

A `Statement` is the unit of printing: one line, given by a template and its arguments, together with
two steps of indentation.  The first is taken before the line is written, so that a closing line
stands out; the second after it, so that the lines behind an opening line are indented.

An argument is a `Value`: a literal text, or a reference to a type.
-/

namespace SourcePress

/-- An argument of a template. -/
inductive Value where
  /-- A text that is put in as it is. -/
  | literal (text : String)
  /-- A reference to a type. -/
  | type (ref : TypeRef)
deriving DecidableEq, Repr

namespace Value

/-- The literal of a truth value. -/
def ofBool (b : Bool) : Value := .literal (if b then "true" else "false")

/-- The literal of a character. -/
def ofChar (c : Char) : Value := .literal c.toString

/-- The literal of an integer. -/
def ofInt (n : Int) : Value := .literal (toString n)

/-- The literal of a floating-point number, given by its bits. -/
def ofBinary (format : BinaryFormat) (bits : Nat) : Value := .literal (format.text bits)

/-- The reference, if the argument is one. -/
def ref? : Value → Option TypeRef
  | .literal _ => none
  | .type ref => some ref

/-- Is the argument a reference to a type? -/
def isType (v : Value) : Bool := v.ref?.isSome

end Value

/-- One line of text to be printed. -/
structure Statement where
  template : String := ""
  args : List Value := []
  /-- The step of indentation before the line. -/
  before : Int := 0
  /-- The step of indentation after the line. -/
  after : Int := 0
deriving DecidableEq, Repr

namespace Statement

/-- The empty line. -/
def blank : Statement := {}

/-- A line that opens a block: what follows is one level deeper. -/
def opening (template : String) : Statement := { template, after := 1 }

/-- A line that closes a block: it stands one level less deep. -/
def closing (template : String) : Statement := { template, before := -1 }

/-- Put two statements on one line: the step before is that of the first, the step after that of the
second. -/
def append (s t : Statement) : Statement :=
  { template := s.template ++ t.template
    args := s.args ++ t.args
    before := s.before
    after := t.after }

instance : Append Statement := ⟨append⟩

/-- Add arguments at the end. -/
def addArgs (s : Statement) (values : List Value) : Statement := { s with args := s.args ++ values }

/-- Does the statement write an empty line? -/
def isBlank (s : Statement) : Bool := s.template.isEmpty && s.args.isEmpty

/-- The number of directives in a template that take an argument, on characters.  A dollar sign
always takes the character behind it along. -/
def countDirectives : List Char → Nat
  | '$' :: c :: rest => (if c = 'L' ∨ c = 'T' then 1 else 0) + countDirectives rest
  | _ :: rest => countDirectives rest
  | [] => 0

/-- The number of directives of the statement that take an argument. -/
def directiveCount (s : Statement) : Nat := countDirectives s.template.toList

/-- The references among the arguments. -/
def refs (s : Statement) : List TypeRef := s.args.filterMap Value.ref?

@[simp] theorem template_append (s t : Statement) : (s ++ t).template = s.template ++ t.template :=
  rfl

@[simp] theorem args_append (s t : Statement) : (s ++ t).args = s.args ++ t.args := rfl

@[simp] theorem before_append (s t : Statement) : (s ++ t).before = s.before := rfl

@[simp] theorem after_append (s t : Statement) : (s ++ t).after = t.after := rfl

end Statement

/-- The imports that the references of a list of types need, in order. -/
def ImportSet.ofRefs (refs : List TypeRef) : ImportSet :=
  refs.foldl (fun s t => s.merge t.imports) ImportSet.empty

/-- The imports that the type arguments of a list of statements need, in order. -/
def ImportSet.ofStatements (statements : List Statement) : ImportSet :=
  ImportSet.ofRefs (statements.flatMap Statement.refs)

end SourcePress
