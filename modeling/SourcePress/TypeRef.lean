import SourcePress.Import.Registry

/-!
# References to types

A `TypeRef` is what a type argument of a template stands for.  Its leaves are named types, which may
belong to a package; names that the unit declares itself; and references that the caller describes by
a path, a name and a set of imports.  Pointers, slices and maps are built on top.

A reference has two readings.  `TypeRef.text` is what is printed for it, under the tokens of a
registry; `TypeRef.imports` are the packages that must be registered for the text to make sense.
-/

namespace SourcePress

/-- What is wrong with the name of a type: the first rule of identifiers that it breaks. -/
def nameFault? (name : String) : Option ReferenceFault :=
  match name.toList with
  | [] => some .emptyName
  | c :: rest =>
    if !Text.isWordStart c then some (.badStart name)
    else if !rest.all Text.isWordChar then some (.badCharacter name)
    else none

/-- A name has no fault exactly when it is an identifier. -/
theorem nameFault?_eq_none_iff {name : String} :
    nameFault? name = none ↔ Text.isWord name.toList = true := by
  unfold nameFault?
  cases name.toList with
  | nil => simp [Text.isWord]
  | cons c rest =>
    simp only [Text.isWord, Bool.and_eq_true]
    cases hc : Text.isWordStart c <;> cases hr : rest.all Text.isWordChar <;> simp

/-- The types that are declared in advance. -/
inductive Builtin where
  | bool | int | int32 | int64 | uint | uint8 | uint64 | float32 | float64
  | string | byte | rune | error | any
deriving DecidableEq, Repr

namespace Builtin

/-- The name of a type that is declared in advance. -/
def name : Builtin → String
  | bool => "bool"
  | int => "int"
  | int32 => "int32"
  | int64 => "int64"
  | uint => "uint"
  | uint8 => "uint8"
  | uint64 => "uint64"
  | float32 => "float32"
  | float64 => "float64"
  | string => "string"
  | byte => "byte"
  | rune => "rune"
  | error => "error"
  | any => "any"

/-- All types that are declared in advance. -/
def all : List Builtin :=
  [bool, int, int32, int64, uint, uint8, uint64, float32, float64, string, byte, rune, error, any]

/-- The type of a given name. -/
def ofName? (name : String) : Option Builtin := all.find? (·.name = name)

theorem nameFault?_name (b : Builtin) : nameFault? b.name = none := by
  cases b <;> decide +kernel

end Builtin

/-- A type that is referred to by a name: of a package, or of the unit itself if there is none. -/
@[ext]
structure TypeName where
  package : Option Import
  name : String
  /-- The name is an identifier. -/
  valid : nameFault? name = none
deriving DecidableEq, Repr

namespace TypeName

/-- A type that is declared in advance. -/
def builtin (b : Builtin) : TypeName := ⟨none, b.name, b.nameFault?_name⟩

/-- A type of the unit itself. -/
def ofLocal (name : String) : Except Error TypeName :=
  match h : nameFault? name with
  | none => .ok ⟨none, name, h⟩
  | some fault => .error (.reference fault)

/-- A type of the package at `path`.  The name is checked before the path. -/
def ofPackage (path name : String) : Except Error TypeName :=
  match h : nameFault? name with
  | none => (Import.ofPath path).map fun i => ⟨some i, name, h⟩
  | some fault => .error (.reference fault)

/-- Ask for a name of the package.  A type of the unit itself has no package to name. -/
def withPackageName (t : TypeName) (name : String) : TypeName :=
  { t with package := t.package.map (·.withName name) }

end TypeName

/-- A reference to a type. -/
inductive TypeRef where
  /-- A named type. -/
  | named (name : TypeName)
  /-- A name that the unit declares, taken as it is. -/
  | declared (name : String)
  | pointer (inner : TypeRef)
  | slice (element : TypeRef)
  | map (key value : TypeRef)
  /-- A reference described by the caller: the name of a package's member, and the packages that
  referring to it needs.  The path is not checked. -/
  | described (path name : String) (needs : ImportSet)
deriving DecidableEq, Repr

namespace TypeRef

/-- The text of a reference under the tokens of a registry. -/
def text (r : Registry) : TypeRef → String
  | .named t =>
    match t.package with
    | some i => r.qualify i.path t.name
    | none => t.name
  | .declared name => name
  | .pointer inner => "*" ++ inner.text r
  | .slice element => "[]" ++ element.text r
  | .map key value => "map[" ++ key.text r ++ "]" ++ value.text r
  | .described path name _ => r.qualify path name

/-- The packages that a reference needs. -/
def imports : TypeRef → ImportSet
  | .named t => ImportSet.ofList t.package.toList
  | .declared _ => ImportSet.empty
  | .pointer inner => inner.imports
  | .slice element => element.imports
  | .map key value => key.imports.merge value.imports
  | .described _ _ needs => needs

/-- A pointer to a pointer and so on, `n` times. -/
def pointers (n : Nat) (t : TypeRef) : TypeRef := Nat.repeat pointer n t

/-- A slice of slices and so on, `n` times. -/
def slices (n : Nat) (t : TypeRef) : TypeRef := Nat.repeat slice n t

end TypeRef

end SourcePress
