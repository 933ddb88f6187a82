import SourcePress.Statement

/-!
# Templates

A template is a text with directives: `$L` stands for the text of a literal argument, `$T` for a
reference to a type, and `$$` for a dollar sign.  Nothing else may follow a dollar sign.

Rendering has three stages.  `Template.items` reads the text as a sequence of plain characters and
directives.  `Template.fill` matches the directives with the arguments, from left to right, and stops
at the first fault; its result is a sequence of pieces that need no argument any more.  `render` then
registers the imports of all references, in order, and only after that prints the pieces, so that a
reference is printed with its final token wherever it stands.

A fault leaves the registry as it was, because nothing is registered before all directives have
found their arguments.
-/

namespace SourcePress

namespace Template

/-- What a template is read as: a plain character, or a dollar sign with the character behind it, if
the template does not end there. -/
inductive Item where
  | plain (c : Char)
  | directive (c : Option Char)
deriving DecidableEq, Repr

/-- The items of a template. -/
def items : List Char → List Item
  | [] => []
  | ['$'] => [.directive none]
  | '$' :: c :: rest => .directive (some c) :: items rest
  | c :: rest => .plain c :: items rest

/-- The number of bytes that an item takes in the template. -/
def Item.size : Item → Nat
  | .plain c => c.utf8Size
  | .directive none => 1
  | .directive (some c) => 1 + c.utf8Size

/-- A part of the printed text. -/
inductive Piece where
  | text (s : String)
  | ref (t : TypeRef)
deriving DecidableEq, Repr

namespace Piece

/-- The text of a piece under the tokens of a registry. -/
def print (r : Registry) : Piece → String
  | .text s => s
  | .ref t => t.text r

/-- The imports that a piece needs. -/
def imports : Piece → List Import
  | .text _ => []
  | .ref t => t.imports.toList

end Piece

/-- Match the directives with the arguments.  `index` arguments have been used and `offset` bytes
read before these items. -/
def fill : List Item → List Value → (index offset : Nat) → Except TemplateFault (List Piece)
  | [], [], _, _ => .ok []
  | [], args@(_ :: _), index, _ => .error (.unusedArguments index (index + args.length))
  | .plain c :: rest, args, index, offset =>
    (fill rest args index (offset + c.utf8Size)).map (.text c.toString :: ·)
  | .directive (some '$') :: rest, args, index, offset =>
    (fill rest args index (offset + 2)).map (.text "$" :: ·)
  | .directive (some 'L') :: rest, .literal s :: args, index, offset =>
    (fill rest args (index + 1) (offset + 2)).map (.text s :: ·)
  | .directive (some 'L') :: _, .type _ :: _, index, _ => .error (.wrongKind index .literal)
  | .directive (some 'L') :: _, [], index, _ => .error (.missingArgument index)
  | .directive (some 'T') :: rest, .type t :: args, index, offset =>
    (fill rest args (index + 1) (offset + 2)).map (.ref t :: ·)
  | .directive (some 'T') :: _, .literal _ :: _, index, _ => .error (.wrongKind index .type)
  | .directive (some 'T') :: _, [], index, _ => .error (.missingArgument index)
  | .directive c :: _, _, _, offset => .error (.unknownDirective c offset)

/-- The pieces of a template with its arguments. -/
def pieces (template : String) (args : List Value) : Except TemplateFault (List Piece) :=
  fill (items template.toList) args 0 0

/-- The text of a sequence of pieces. -/
def print (r : Registry) (ps : List Piece) : String := String.join (ps.map (Piece.print r))

/-- Print a template with its arguments, registering the imports of every reference. -/
def render (template : String) (args : List Value) : EStateM Error Registry String := fun r =>
  match pieces template args with
  | .error fault => .error (.template template fault) r
  | .ok ps =>
    let r' := r.registerAll (ps.flatMap Piece.imports)
    .ok (print r' ps) r'

@[simp] theorem print_nil (r : Registry) : print r [] = "" := by
  simp [print]

@[simp] theorem print_cons (r : Registry) (p : Piece) (ps : List Piece) :
    print r (p :: ps) = p.print r ++ print r ps := by
  simp [print]

@[simp] theorem print_append (r : Registry) (ps qs : List Piece) :
    print r (ps ++ qs) = print r ps ++ print r qs := by
  simp [print]

@[simp] theorem items_nil : items [] = [] := rfl

theorem items_dollar (c : Char) (rest : List Char) :
    items ('$' :: c :: rest) = .directive (some c) :: items rest := by
  rw [items]

theorem items_plain {c : Char} (h : c ≠ '$') (rest : List Char) :
    items (c :: rest) = .plain c :: items rest := by
  rw [items]
  · intro hc
    exact absurd hc h
  · intro _ _ hc
    exact absurd hc h

/-- A fault leaves the registry as it was. -/
theorem render_of_fault {template : String} {args : List Value} {fault : TemplateFault}
    (h : pieces template args = .error fault) (r : Registry) :
    render template args r = .error (.template template fault) r := by
  simp [render, h]

/-- Without a fault the imports are registered first, and the text is printed under the result. -/
theorem render_of_pieces {template : String} {args : List Value} {ps : List Piece}
    (h : pieces template args = .ok ps) (r : Registry) :
    render template args r =
      .ok (print (r.registerAll (ps.flatMap Piece.imports)) ps)
        (r.registerAll (ps.flatMap Piece.imports)) := by
  simp [render, h]

end Template

end SourcePress
