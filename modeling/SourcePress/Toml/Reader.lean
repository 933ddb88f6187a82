import SourcePress.Toml.Scalar
import SourcePress.Toml.Table

/-!
# Reading a document of settings

`Table.ofText?` reads a TOML document.  A document is a sequence of lines, each a header of a table or
a key with its value, with blank lines and comments in between.  A value is a text, a whole number, an
empty list or a table between braces; a document with a value of any other kind holds no settings and
is refused, as is one that is not well formed.

Outside of brackets and braces a key and its value stand on one line.  Between them, line ends and
comments may stand wherever blanks may.

A reader has read a character before it calls itself again, by way of at most one other reader.  So
twice the length of the document bounds the depth of the recursion.  The bound is computed once and
handed down as `fuel`.
-/

namespace SourcePress.Toml

/-! ## Blanks, comments and keys -/

/-- Skip blanks, line ends and comments.  Inside a comment only characters of texts may stand. -/
def skipGap (inComment : Bool) : List Char → Option (List Char)
  | [] => some []
  | '\n' :: rest => skipGap false rest
  | '\r' :: '\n' :: rest => skipGap false rest
  | c :: rest =>
    if inComment then if isTextChar c then skipGap true rest else none
    else if c == '#' then skipGap true rest
    else if isInlineBlank c then skipGap false rest
    else some (c :: rest)

/-- Does nothing but blanks and a comment stand on the rest of the line? -/
def endsLine (cs : List Char) : Bool :=
  match cs.dropWhile isInlineBlank with
  | [] => true
  | '#' :: _ => true
  | cs => startsNewline cs

/-- A single key: bare, or a text in one line. -/
def readKey (fuel : Nat) : List Char → Reading String
  | '"' :: rest => (readBasic fuel rest).map fun (text, rest) => (String.ofList text, rest)
  | '\'' :: rest => (readLiteral rest).map fun (text, rest) => (String.ofList text, rest)
  | cs =>
    match cs.takeWhile isBareChar with
    | [] => none
    | key => some (String.ofList key, cs.dropWhile isBareChar)

/-- A key with its dots.  The blanks around it and around its dots are skipped. -/
def readDottedKey : (fuel : Nat) → List Char → Reading (List String)
  | 0, _ => none
  | fuel + 1, cs =>
    match readKey fuel (cs.dropWhile isInlineBlank) with
    | none => none
    | some (key, rest) =>
      match rest.dropWhile isInlineBlank with
      | '.' :: rest => (readDottedKey fuel rest).map fun (keys, rest) => (key :: keys, rest)
      | rest => some ([key], rest)

/-! ## Values -/

mutual

/-- Read a value. -/
def readValue (fuel : Nat) (cs : List Char) : Reading Entry :=
  match fuel with
  | 0 => none
  | fuel + 1 =>
    match cs with
    | '\x7b' :: rest =>
      match skipGap false rest with
      | some ('\x7d' :: rest) => some (.table .inline [], rest)
      | some rest => readMembers fuel [] rest
      | none => none
    | '[' :: rest =>
      match skipGap false rest with
      | some (']' :: rest) => some (.emptyList, rest)
      | _ => none
    | cs =>
      match readText fuel cs with
      | some (s, rest) => some (.text s, rest)
      | none => (readWhole cs).map fun (n, rest) => (.whole n, rest)

/-- Read the members of a table between braces behind those of `t`, up to the closing brace.  They are
separated by commas, and a comma may stand behind the last one. -/
def readMembers (fuel : Nat) (t : Table) (cs : List Char) : Reading Entry :=
  match fuel with
  | 0 => none
  | fuel + 1 =>
    match readDottedKey fuel cs with
    | none => none
    | some (keys, rest) =>
      match skipGap false rest with
      | some ('=' :: rest) =>
        match (skipGap false rest).bind (readValue fuel) with
        | none => none
        | some (entry, rest) =>
          match t.assign keys entry, skipGap false rest with
          | some t, some ('\x7d' :: rest) => some (.table .inline t, rest)
          | some t, some (',' :: rest) =>
            match skipGap false rest with
            | some ('\x7d' :: rest) => some (.table .inline t, rest)
            | some rest => readMembers fuel t rest
            | none => none
          | _, _ => none
      | _ => none

end

/-! ## Lines -/

/-- The path in the header of a table, read from behind the opening bracket. -/
def readHeader (fuel : Nat) (cs : List Char) : Reading (List String) :=
  match readDottedKey fuel cs with
  | some (path, ']' :: rest) => some (path, rest)
  | _ => none

/-- A key with its value on a line. -/
def readSetting (fuel : Nat) (cs : List Char) : Reading (List String × Entry) :=
  match readDottedKey fuel cs with
  | some (keys, '=' :: rest) =>
    (readValue fuel (rest.dropWhile isInlineBlank)).map fun (entry, rest) => ((keys, entry), rest)
  | _ => none

/-- Read lines into a table.  Keys are defined below the table of the last header, whose path is
`base`. -/
def readLines : (fuel : Nat) → (base : List String) → Table → List Char → Option Table
  | 0, _, _, _ => none
  | fuel + 1, base, t, cs =>
    match skipGap false cs with
    | none => none
    | some [] => some t
    | some ('[' :: rest) =>
      match readHeader fuel rest with
      | none => none
      | some (path, rest) =>
        match t.openTable path, endsLine rest with
        | some t, true => readLines fuel path t rest
        | _, _ => none
    | some cs =>
      match readSetting fuel cs with
      | none => none
      | some ((keys, entry), rest) =>
        match t.within (Table.assign keys entry) base, endsLine rest with
        | some t, true => readLines fuel base t rest
        | _, _ => none

/-- Drop a byte order mark from the front. -/
def dropByteOrderMark : List Char → List Char
  | '\ufeff' :: rest => rest
  | cs => cs

/-- The table that a document defines. -/
def Table.ofText? (source : String) : Option Table :=
  let cs := dropByteOrderMark source.toList
  readLines (2 * cs.length + 2) [] [] cs

end SourcePress.Toml
