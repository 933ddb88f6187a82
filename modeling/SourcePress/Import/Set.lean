import SourcePress.Import.Basic

/-!
# Sets of imports

An `ImportSet` holds imports in the order in which they came, at most one for each path: inserting a
path that is already there changes nothing, and `insert` says so.  The first import of a path
therefore decides which name is asked for.  Sets of nested pieces of text are joined by `merge`
without ever repeating an entry.

Two sets hold the same imports (`sameImports`) when they have the same paths with the same names
asked for; the order does not matter for that.
-/

namespace SourcePress

/-- Imports in order of insertion, with pairwise distinct paths. -/
structure ImportSet where
  /-- The imports in order. -/
  toList : List Import
  /-- No path occurs twice. -/
  nodup : (toList.map Import.path).Nodup
deriving DecidableEq, Repr

namespace ImportSet

/-- The set without imports. -/
def empty : ImportSet := ⟨[], by simp⟩

instance : Inhabited ImportSet := ⟨empty⟩

/-- The paths of the set in order. -/
def paths (s : ImportSet) : List String := s.toList.map Import.path

/-- The number of imports. -/
def size (s : ImportSet) : Nat := s.toList.length

/-- Is the set empty? -/
def isEmpty (s : ImportSet) : Bool := s.toList.isEmpty

/-- The import of a path. -/
def get? (s : ImportSet) (path : String) : Option Import := s.toList.find? (·.path = path)

/-- Is the path in the set? -/
def contains (s : ImportSet) (path : String) : Bool := s.paths.contains path

/-- Add an import at the end, unless its path is there already.  The first component says whether
it was added. -/
def insert (s : ImportSet) (i : Import) : Bool × ImportSet :=
  if h : i.path ∈ s.paths then (false, s)
  else (true, ⟨s.toList ++ [i], by
    simpa [List.nodup_append, s.nodup] using fun a ha e => h (List.mem_map.mpr ⟨a, ha, e⟩)⟩)

/-- Insert the imports of a list one after the other. -/
def extend (s : ImportSet) (imports : List Import) : ImportSet :=
  imports.foldl (fun s i => (s.insert i).2) s

/-- The set of the imports of a list. -/
def ofList (imports : List Import) : ImportSet := empty.extend imports

/-- Insert the imports of another set after those of this one. -/
def merge (s t : ImportSet) : ImportSet := s.extend t.toList

/-- Do the two sets have the same paths, with the same names asked for? -/
def sameImports (s t : ImportSet) : Bool :=
  s.size == t.size && s.toList.all fun i => t.get? i.path == some i

@[simp] theorem toList_empty : empty.toList = [] := rfl

@[simp] theorem extend_nil (s : ImportSet) : s.extend [] = s := rfl

@[simp] theorem extend_cons (s : ImportSet) (i : Import) (rest : List Import) :
    s.extend (i :: rest) = (s.insert i).2.extend rest := rfl

theorem extend_append (s : ImportSet) (xs ys : List Import) :
    s.extend (xs ++ ys) = (s.extend xs).extend ys := List.foldl_append

/-- An import is added exactly if its path is new. -/
theorem insert_fst (s : ImportSet) (i : Import) : (s.insert i).1 = !s.contains i.path := by
  by_cases h : i.path ∈ s.paths <;> simp [insert, contains, h]

/-- What an insertion does to the list of imports. -/
theorem toList_insert (s : ImportSet) (i : Import) :
    (s.insert i).2.toList = if i.path ∈ s.paths then s.toList else s.toList ++ [i] := by
  unfold insert
  split <;> rfl

theorem insert_of_mem {s : ImportSet} {i : Import} (h : i.path ∈ s.paths) :
    s.insert i = (false, s) := by
  simp [insert, h]

end ImportSet

end SourcePress
