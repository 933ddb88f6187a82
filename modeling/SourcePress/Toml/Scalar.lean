import SourcePress.Text.Segments

/-!
# Texts and whole numbers

The four forms of quoted texts and the four bases of whole numbers, read from the front of a list of
characters.  Every reader gives the value and what is left, or nothing if the characters do not have
the form.

Texts over several lines drop a line end right behind the opening quotes.  In the form with double
quotes a backslash at the end of a line takes the blanks and line ends behind it away.  Up to two
quotes may stand right before the closing ones.
-/

namespace SourcePress.Toml

/-- What a reader gives: a value and the characters behind it. -/
abbrev Reading (α : Type) := Option (α × List Char)

/-- A blank inside a line. -/
def isInlineBlank (c : Char) : Bool := c == ' ' || c == '\t'

/-- May the character stand for itself in a text or a comment?  All but the control characters may,
and the tab may too. -/
def isTextChar (c : Char) : Bool := c == '\t' || (0x20 ≤ c.toNat && c.toNat != 0x7f)

/-- Do the characters start with the end of a line? -/
def startsNewline : List Char → Bool
  | '\n' :: _ => true
  | '\r' :: '\n' :: _ => true
  | _ => false

/-- Drop the end of a line from the front, if there is one. -/
def dropNewline : List Char → List Char
  | '\n' :: rest => rest
  | '\r' :: '\n' :: rest => rest
  | cs => cs

/-- Drop blanks and line ends from the front. -/
def dropBlankLines : List Char → List Char
  | '\r' :: '\n' :: rest => dropBlankLines rest
  | c :: rest => if isInlineBlank c || c == '\n' then dropBlankLines rest else c :: rest
  | [] => []

/-! ## Escapes -/

/-- The value of a digit in bases up to sixteen. -/
def digitValue? (base : Nat) (c : Char) : Option Nat :=
  let value? :=
    if c.isDigit then some (c.toNat - '0'.toNat)
    else if c.isLower then some (c.toNat - 'a'.toNat + 10)
    else if c.isUpper then some (c.toNat - 'A'.toNat + 10)
    else none
  value?.filter (· < base)

/-- The number that digits stand for. -/
def digitsValue? (base : Nat) (digits : List Char) : Option Nat :=
  digits.foldl (fun n? c => do return (← n?) * base + (← digitValue? base c)) (some 0)

/-- The character whose code point is given by `count` hexadecimal digits. -/
def readCodePoint (count : Nat) (cs : List Char) : Reading Char :=
  match digitsValue? 16 (cs.take count) with
  | some n => if count ≤ cs.length ∧ n.isValidChar then some (Char.ofNat n, cs.drop count) else none
  | none => none

/-- The character that an escape stands for, read from behind the backslash. -/
def readEscape : List Char → Reading Char
  | 'b' :: rest => some ('\x08', rest)
  | 't' :: rest => some ('\t', rest)
  | 'n' :: rest => some ('\n', rest)
  | 'f' :: rest => some ('\x0c', rest)
  | 'r' :: rest => some ('\r', rest)
  | 'e' :: rest => some ('\x1b', rest)
  | '"' :: rest => some ('"', rest)
  | '\\' :: rest => some ('\\', rest)
  | 'x' :: rest => readCodePoint 2 rest
  | 'u' :: rest => readCodePoint 4 rest
  | 'U' :: rest => readCodePoint 8 rest
  | _ => none

/-! ## Texts -/

/-- Put a character in front of a text that was read. -/
def pushFront (c : Char) (reading : Reading (List Char)) : Reading (List Char) :=
  reading.map fun (text, rest) => (c :: text, rest)

/-- A text in single quotes, read from behind the opening one. -/
def readLiteral : List Char → Reading (List Char)
  | [] => none
  | '\'' :: rest => some ([], rest)
  | c :: rest => if isTextChar c then pushFront c (readLiteral rest) else none

/-- A text in double quotes, read from behind the opening one.  At most `fuel` characters are
read. -/
def readBasic : (fuel : Nat) → List Char → Reading (List Char)
  | 0, _ => none
  | _, [] => none
  | _, '"' :: rest => some ([], rest)
  | fuel + 1, '\\' :: rest =>
    match readEscape rest with
    | some (c, rest) => pushFront c (readBasic fuel rest)
    | none => none
  | fuel + 1, c :: rest => if isTextChar c then pushFront c (readBasic fuel rest) else none

/-- Quotes inside a text over several lines: fewer than three belong to the text, three to five end it
with up to two of them belonging to it, and more cannot stand there. -/
def closeQuotes (quote : Char) (cs : List Char) : Option (List Char × Bool × List Char) :=
  let run := cs.takeWhile (· == quote)
  let rest := cs.dropWhile (· == quote)
  if run.length < 3 then some (run, false, rest)
  else if run.length ≤ 5 then some (run.drop 3, true, rest)
  else none

/-- A text over several lines, read from behind the opening quotes and the line end there.  With
`escapes` a backslash has its meaning, otherwise it stands for itself.  At most `fuel` steps are
taken. -/
def readBlock (quote : Char) (escapes : Bool) : (fuel : Nat) → List Char → Reading (List Char)
  | 0, _ => none
  | _, [] => none
  | fuel + 1, c :: rest =>
    if c = quote then
      match closeQuotes quote (c :: rest) with
      | some (quotes, true, rest) => some (quotes, rest)
      | some (quotes, false, rest) =>
        (readBlock quote escapes fuel rest).map fun (text, rest) => (quotes ++ text, rest)
      | none => none
    else if c = '\\' && escapes then
      if startsNewline (rest.dropWhile isInlineBlank) then
        readBlock quote escapes fuel (dropBlankLines rest)
      else match readEscape rest with
        | some (c, rest) => pushFront c (readBlock quote escapes fuel rest)
        | none => none
    else if isTextChar c || startsNewline (c :: rest) then
      pushFront c (readBlock quote escapes fuel rest)
    else none

/-- A quoted text of any of the four forms.  At most `fuel` characters are read. -/
def readText (fuel : Nat) : List Char → Reading String
  | '"' :: '"' :: '"' :: rest =>
    (readBlock '"' true fuel (dropNewline rest)).map fun (text, rest) => (String.ofList text, rest)
  | '\'' :: '\'' :: '\'' :: rest =>
    (readBlock '\'' false fuel (dropNewline rest)).map
      fun (text, rest) => (String.ofList text, rest)
  | '"' :: rest => (readBasic fuel rest).map fun (text, rest) => (String.ofList text, rest)
  | '\'' :: rest => (readLiteral rest).map fun (text, rest) => (String.ofList text, rest)
  | _ => none

/-! ## Whole numbers -/

/-- A number in a base.  Underscores may stand between digits. -/
def naturalOf? (base : Nat) (cs : List Char) : Option Nat := do
  let groups := Text.segments '_' cs
  guard (groups.all (!·.isEmpty))
  digitsValue? base groups.flatten

/-- A number in base ten, which has no leading zeros. -/
def decimalOf? : List Char → Option Nat
  | '0' :: _ :: _ => none
  | cs => naturalOf? 10 cs

/-- A whole number: in base ten with or without a sign, or in base sixteen, eight or two. -/
def wholeOf? : List Char → Option Int
  | '0' :: 'x' :: cs => (naturalOf? 16 cs).map Int.ofNat
  | '0' :: 'o' :: cs => (naturalOf? 8 cs).map Int.ofNat
  | '0' :: 'b' :: cs => (naturalOf? 2 cs).map Int.ofNat
  | '+' :: cs => (decimalOf? cs).map Int.ofNat
  | '-' :: cs => (decimalOf? cs).map fun n => -Int.ofNat n
  | cs => (decimalOf? cs).map Int.ofNat

/-- May the character stand in a bare key? -/
def isBareChar (c : Char) : Bool := c.isAlphanum || c == '_' || c == '-'

/-- A whole number at the front. -/
def readWhole (cs : List Char) : Reading Int :=
  let isNumberChar := fun c => isBareChar c || c == '+'
  (wholeOf? (cs.takeWhile isNumberChar)).map fun n => (n, cs.dropWhile isNumberChar)

end SourcePress.Toml
