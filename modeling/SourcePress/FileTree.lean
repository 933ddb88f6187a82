import SourcePress.Text.Order
import SourcePress.Text.Segments

/-!
# File trees

A `FileTree` is a directory with all that is below it: folders, and files with their contents.  Both
are named by the list of names that leads to them from the top.  A file is saved at a path, and the
folders on the way are made as needed; that fails where a file stands in the place of a folder or the
reverse, and where a name or a whole path cannot be one.

A path may lead above the top.  Places there are named by the steps up and the names that follow.
-/

namespace SourcePress

/-- Folders, and files with their contents, below a directory. -/
structure FileTree where
  folders : List (List String) := []
  files : List (List String × String) := []
deriving DecidableEq, Repr

namespace FileTree

/-- The file tree cannot hold what was asked for. -/
inductive Fault where
  | unusable
deriving DecidableEq, Repr

/-- A change of a file tree.  What was changed before a fault stays changed. -/
abbrev Change := EStateM Fault FileTree

/-- The most bytes that a name may have. -/
def nameLimit : Nat := 255

/-- The most bytes that a path may have. -/
def pathLimit : Nat := 4095

/-- The contents of a file. -/
def read? (t : FileTree) (path : List String) : Option String := t.files.lookup path

/-- Is there a folder at the path?  The top is one, and so are those above it. -/
def isFolder (t : FileTree) (path : List String) : Bool :=
  path.all (· = "..") || t.folders.contains path

/-- The folder above a folder. -/
def above (here : List String) : List String :=
  if here.all (· = "..") then here ++ [".."] else here.dropLast

/-- Does the name lead from a folder to itself? -/
def staysHere (name : String) : Bool := name = "" || name = "."

/-- Go from the folder `here` to the folder called `name` in it, and make it if it is missing. -/
def enter (here : List String) (name : String) : Change (List String) := fun t =>
  if staysHere name then .ok here t
  else if name = ".." then .ok (above here) t
  else
    let path := here ++ [name]
    if nameLimit < name.utf8ByteSize ∨ (t.read? path).isSome then .error .unusable t
    else if t.isFolder path then .ok path t
    else .ok path { t with folders := t.folders ++ [path] }

/-- Go along names from the folder `here`, and make the folders that are missing. -/
def enterAll (here : List String) : List String → Change (List String)
  | [] => fun t => .ok here t
  | name :: rest => fun t =>
    match enter here name t with
    | .error fault t => .error fault t
    | .ok here t => enterAll here rest t

/-- Give the file called `name` in the folder `here` new contents. -/
def put (here : List String) (name contents : String) : Change Unit := fun t =>
  let path := here ++ [name]
  if nameLimit < name.utf8ByteSize ∨ t.isFolder path then .error .unusable t
  else .ok () { t with files := t.files.filter (·.1 ≠ path) ++ [(path, contents)] }

/-- Can the text be handed over as a path? -/
def isPath (text : String) : Bool := text.utf8ByteSize ≤ pathLimit && !text.contains '\x00'

/-- The names that lead to the folder of a file.  Those at the end that lead nowhere else are left out,
so they do not count for the length of the folder's path. -/
def folderNames (names : List String) : List String :=
  (names.dropLast.reverse.dropWhile staysHere).reverse

/-- Save a file at a path, making the folders on the way.  The result is where it stands. -/
def save (path contents : String) : Change (List String) := fun t =>
  let names := (Text.segments '/' path.toList).map String.ofList
  let name := names.getLast?.getD ""
  let folder := folderNames names
  if !isPath ("/".intercalate folder) then .error .unusable t
  else match enterAll [] folder t with
    | .error fault t => .error fault t
    | .ok here t =>
      if !isPath path then .error .unusable t
      else match put here name contents t with
        | .error fault t => .error fault t
        | .ok () t => .ok (here ++ [name]) t

/-- A name that leads to the same folder changes nothing. -/
theorem enter_of_staysHere {name : String} (h : staysHere name) (here : List String) (t : FileTree) :
    enter here name t = .ok here t := by
  simp [enter, h]

/-- Names at the end that lead nowhere else change nothing. -/
theorem enterAll_append_of_staysHere {idle : List String} (h : ∀ name ∈ idle, staysHere name)
    (names : List String) (here : List String) (t : FileTree) :
    enterAll here (names ++ idle) t = enterAll here names t := by
  induction names generalizing here t with
  | nil =>
    induction idle with
    | nil => rfl
    | cons name rest ih =>
      have hname : staysHere name := h name List.mem_cons_self
      have hrest : ∀ name ∈ rest, staysHere name := fun n hn => h n (List.mem_cons_of_mem name hn)
      simp only [List.nil_append, enterAll, enter_of_staysHere hname]
      exact ih hrest
  | cons name rest ih =>
    simp only [List.cons_append, enterAll]
    cases enter here name t with
    | error fault t => rfl
    | ok here t => exact ih here t

/-- The names of the folder lead where all names before the last one lead. -/
theorem enterAll_folderNames (names here : List String) (t : FileTree) :
    enterAll here (folderNames names) t = enterAll here names.dropLast t := by
  have hsplit : folderNames names ++ (names.dropLast.reverse.takeWhile staysHere).reverse
      = names.dropLast := by
    rw [folderNames, ← List.reverse_append, List.takeWhile_append_dropWhile, List.reverse_reverse]
  have hidle : ∀ name ∈ (names.dropLast.reverse.takeWhile staysHere).reverse, staysHere name := by
    intro name hname
    exact List.all_eq_true.mp List.all_takeWhile name (List.mem_reverse.mp hname)
  rw [← enterAll_append_of_staysHere hidle, hsplit]

/-- The paths of all files below the top, in the order of their bytes. -/
def filePaths (t : FileTree) : List String :=
  ((t.files.map Prod.fst).filter (·.head? ≠ some "..")).map ("/".intercalate ·) |>.mergeSort
    fun a b => Text.atMost a.toList b.toList

end FileTree

/-- A path inside a directory: the name itself if it starts at the top, otherwise the name behind the
directory and a slash. -/
def joinPath (directory name : String) : String :=
  if name.startsWith "/" ∨ directory.isEmpty then name
  else if directory.endsWith "/" then directory ++ name
  else directory ++ "/" ++ name

/-- A path without the slashes and the steps to the same folder at its front. -/
def trimPath : List Char → List Char
  | '/' :: rest => trimPath rest
  | '.' :: '/' :: rest => trimPath rest
  | cs => cs

end SourcePress
