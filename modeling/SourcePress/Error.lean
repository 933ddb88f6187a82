/-!
# Errors

Everything that can go wrong while source text is put together is a mistake of the caller, and an
`Error` names its cause.  The cause is data: a template fault knows the index or the offset it is
about, an indentation underflow knows the depth and the step.  The wording is in one place,
`Error.message`, next to the short code and the advice that go with each cause.

An error that arises inside a block of statements is wrapped once, with the position of the
statement it belongs to.  `Error.rootCause` takes such wrappers off again.
-/

namespace SourcePress

/-- What a directive of a template asks for. -/
inductive ArgumentKind where
  | literal
  | type
deriving DecidableEq, Repr

/-- The kind of argument in words. -/
def ArgumentKind.describe : ArgumentKind → String
  | .literal => "a literal"
  | .type => "a type reference"

/-- Why a template and its arguments do not fit together. -/
inductive TemplateFault where
  /-- The directive that wants argument number `index` finds no argument left. -/
  | missingArgument (index : Nat)
  /-- The template ended after `used` of the `supplied` arguments. -/
  | unusedArguments (used supplied : Nat)
  /-- A dollar sign, `offset` bytes into the template, is followed by no known directive. -/
  | unknownDirective (directive : Option Char) (offset : Nat)
  /-- Argument number `index` is not of the kind its directive asks for. -/
  | wrongKind (index : Nat) (expected : ArgumentKind)
deriving DecidableEq, Repr

/-- Why a text is refused as an import path or as the name of a type. -/
inductive ReferenceFault where
  | emptyPath
  | blankInPath (path : String)
  | emptySegment (path : String)
  | emptyName
  | badStart (name : String)
  | badCharacter (name : String)
deriving DecidableEq, Repr

/-- The causes of failure. -/
inductive Error where
  /-- The template `text` does not fit its arguments. -/
  | template (text : String) (fault : TemplateFault)
  /-- A path or a name was refused. -/
  | reference (fault : ReferenceFault)
  /-- A step of `delta` levels from `depth` would lead below zero. -/
  | indentUnderflow (depth : Nat) (delta : Int)
  /-- Statement number `index` of a block failed for the reason `source`. -/
  | statement (index : Nat) (source : Error)
  /-- The text of a configuration was refused. -/
  | config
deriving DecidableEq, Repr

namespace TemplateFault

/-- The wording of a template fault, for the template `text`. -/
def message (text : String) : TemplateFault → String
  | .missingArgument index =>
    "template '" ++ text ++ "' has no argument for directive #" ++ toString index
  | .unusedArguments used supplied =>
    "template '" ++ text ++ "' used " ++ toString used ++ " of " ++ toString supplied ++ " arguments"
  | .unknownDirective directive offset =>
    "unknown directive '$" ++ (directive.map Char.toString).getD "" ++ "' at offset "
      ++ toString offset ++ " in template '" ++ text ++ "'"
  | .wrongKind index expected =>
    "argument #" ++ toString index ++ " of template '" ++ text ++ "' is not " ++ expected.describe

/-- The short code of a template fault. -/
def code : TemplateFault → String
  | .missingArgument _ => "poet::argument_count"
  | .unusedArguments _ _ => "poet::unused_arguments"
  | .unknownDirective _ _ => "poet::unknown_directive"
  | .wrongKind _ _ => "poet::type_mismatch"

/-- Advice on a template fault, where there is some. -/
def help? : TemplateFault → Option String
  | .missingArgument _ => some "supply one argument per `$L`/`$T` directive"
  | .unusedArguments _ _ => some "remove the extra arguments or add the missing directives"
  | .unknownDirective _ _ => some "supported directives are `$L`, `$T` and `$$`"
  | .wrongKind _ _ => none

end TemplateFault

/-- The wording of a reference fault. -/
def ReferenceFault.message : ReferenceFault → String
  | .emptyPath => "import path is empty"
  | .blankInPath path => "import path '" ++ path ++ "' contains whitespace"
  | .emptySegment path => "import path '" ++ path ++ "' has an empty segment"
  | .emptyName => "type name is empty"
  | .badStart name => "type name '" ++ name ++ "' must start with a letter or underscore"
  | .badCharacter name => "type name '" ++ name ++ "' is not an identifier"

namespace Error

/-- The wording of an error. -/
def message : Error → String
  | .template text fault => fault.message text
  | .reference fault => "invalid reference: " ++ fault.message
  | .indentUnderflow depth delta =>
    "indentation would drop below zero (depth " ++ toString depth ++ ", delta "
      ++ toString delta ++ ")"
  | .statement index _ => "failed to render statement #" ++ toString index
  | .config => "failed to parse render configuration"

/-- The short code of an error. -/
def code : Error → String
  | .template _ fault => fault.code
  | .reference _ => "poet::invalid_reference"
  | .indentUnderflow _ _ => "poet::indent_underflow"
  | .statement _ _ => "poet::statement"
  | .config => "poet::config"

/-- Advice on an error, where there is some. -/
def help? : Error → Option String
  | .template _ fault => fault.help?
  | .indentUnderflow _ _ =>
    some "every `afterIndent: +1` must be paired with a later `beforeIndent: -1`"
  | _ => none

/-- The error under all positions it was wrapped with. -/
def rootCause : Error → Error
  | .statement _ source => source.rootCause
  | e => e

/-- Is the error a position around another error? -/
def isStatement : Error → Bool
  | .statement _ _ => true
  | _ => false

@[simp] theorem rootCause_statement (index : Nat) (source : Error) :
    (Error.statement index source).rootCause = source.rootCause := rfl

/-- An error without a position is its own root cause. -/
theorem rootCause_of_not_isStatement {e : Error} (h : e.isStatement = false) : e.rootCause = e := by
  cases e <;> simp_all [isStatement, rootCause]

/-- No root cause carries a position. -/
theorem isStatement_rootCause (e : Error) : e.rootCause.isStatement = false := by
  induction e with
  | statement index source ih => exact ih
  | _ => rfl

end Error

end SourcePress
