import SourcePress.Text.Character
import SourcePress.Text.Segments

/-!
# Tokens

Inside printed text a package is named by a short token.  `defaultToken` derives one from the path:
the last segment, or the one before it if the last is a major version such as `v2`; without a
version suffix such as `.v1`; every character that cannot stand in an identifier replaced by an
underscore; and an underscore in front of a leading digit.
-/

namespace SourcePress

namespace Token

/-- Is the segment a major version: a `v` and at least one decimal digit, nothing else? -/
def isMajorVersion : List Char → Bool
  | 'v' :: digits => !digits.isEmpty && digits.all Char.isDigit
  | _ => false

/-- The segment that names the package: the last, or the one before a trailing major version. -/
def namingSegment (path : List Char) : List Char :=
  match (Text.segments '/' path).reverse with
  | [] => path
  | last :: before => if isMajorVersion last then before.headD last else last

/-- The segment without a version suffix `.v1`.  A suffix that is the whole segment stays. -/
def dropVersion (segment : List Char) : List Char :=
  let fromEnd := segment.reverse
  match fromEnd.takeWhile Char.isDigit, fromEnd.dropWhile Char.isDigit with
  | _ :: _, 'v' :: '.' :: c :: rest => (c :: rest).reverse
  | _, _ => segment

/-- A character as it appears in a token. -/
def clean (c : Char) : Char := if Text.isWordChar c then c else '_'

/-- Put an underscore in front of a leading decimal digit. -/
def guardDigit : List Char → List Char
  | [] => []
  | c :: rest => if c.isDigit then '_' :: c :: rest else c :: rest

/-- The token of a path, on characters. -/
def derive (path : List Char) : List Char :=
  guardDigit ((dropVersion (namingSegment path)).map clean)

@[simp] theorem isWordChar_clean (c : Char) : Text.isWordChar (clean c) = true := by
  unfold clean
  split
  · assumption
  · exact Text.isWordChar_underscore

theorem clean_of_isWordChar {c : Char} (h : Text.isWordChar c = true) : clean c = c := by
  simp [clean, h]

end Token

/-- The token that a path suggests for its package. -/
def defaultToken (path : String) : String := String.ofList (Token.derive path.toList)

@[simp] theorem toList_defaultToken (path : String) :
    (defaultToken path).toList = Token.derive path.toList := by
  simp [defaultToken]

end SourcePress
