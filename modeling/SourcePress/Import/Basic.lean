import SourcePress.Error
import SourcePress.Import.Token
import SourcePress.Text.Character
import SourcePress.Text.Segments

/-!
# Imports

An `Import` is a package that printed text depends on: its path, and the name the caller would like
to see it under, if any.  Two imports of one path are the same package, whatever name they ask for.

A path is a non-empty text without blanks whose segments, cut at the slashes, are non-empty.  The
proof that its path is such a text is part of every import, so whoever holds one need not check
again.
-/

namespace SourcePress

/-- What is wrong with a path: the first of the three rules that it breaks. -/
def pathFault? (path : String) : Option ReferenceFault :=
  if path.toList = [] then some .emptyPath
  else if path.toList.any Text.isBlank then some (.blankInPath path)
  else if (Text.segments '/' path.toList).any List.isEmpty then some (.emptySegment path)
  else none

/-- A package that printed text depends on. -/
@[ext]
structure Import where
  /-- The path that identifies the package. -/
  path : String
  /-- The name to print the package under, if the caller asks for one. -/
  asName : Option String := none
  /-- The path obeys the rules of paths. -/
  valid : pathFault? path = none
deriving DecidableEq, Repr

namespace Import

/-- The import of a path that asks for no name. -/
def ofPath (path : String) : Except Error Import :=
  match h : pathFault? path with
  | none => .ok { path, valid := h }
  | some fault => .error (.reference fault)

/-- Ask for a name. -/
def withName (i : Import) (name : String) : Import := { i with asName := some name }

/-- The token that the path alone suggests. -/
def defaultToken (i : Import) : String := SourcePress.defaultToken i.path

/-- The token that this import would like to be printed with. -/
def preferredToken (i : Import) : String := i.asName.getD i.defaultToken

@[simp] theorem path_withName (i : Import) (name : String) : (i.withName name).path = i.path := rfl

@[simp] theorem preferredToken_withName (i : Import) (name : String) :
    (i.withName name).preferredToken = name := rfl

/-- A path is accepted exactly when it has no fault, and then it is kept as it is. -/
theorem ofPath_eq_ok_iff {path : String} {i : Import} :
    ofPath path = .ok i ↔ i.path = path ∧ i.asName = none := by
  unfold ofPath
  split
  · constructor
    · intro h
      cases h
      exact ⟨rfl, rfl⟩
    · rintro ⟨rfl, h⟩
      cases i
      simp_all
  · next fault h =>
    constructor
    · intro h'
      cases h'
    · rintro ⟨rfl, -⟩
      rw [i.valid] at h
      cases h

end Import

end SourcePress
