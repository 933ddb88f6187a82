import SourcePress.Declaration.Comment
import SourcePress.Declaration.Fragment

/-!
# Variables and constants

A `Variable` binds a name of a type to a value, or to none; it may be constant.  Its value is a
fragment: the first statement goes on the line of the name, the others follow.

A `Group` collects variables between parentheses, the constants in one section and the others in a
second one.  Inside a group the keyword is not repeated, so a member is marked when it is pushed.
-/

namespace SourcePress

/-- A variable or a constant. -/
structure Variable where
  name : String
  type : TypeRef
  comment : Comment := {}
  constant : Bool := false
  /-- Inside a group the keyword is left out. -/
  inGroup : Bool := false
  value : Fragment := {}
deriving DecidableEq, Repr

namespace Variable

/-- The keyword in front of the name, with the blank behind it. -/
def keyword (v : Variable) : String :=
  if v.inGroup then "" else if v.constant then "const " else "var "

/-- Give the variable a value. -/
def withValue (v : Variable) (value : Fragment) : Variable := { v with value }

/-- The keyword, the name and the type. -/
def header (v : Variable) : Statement :=
  { template := "$L$L $T", args := [.literal v.keyword, .literal v.name, .type v.type] }

/-- The statements of the variable. -/
def statements (v : Variable) : List Statement :=
  v.comment.statements ++
    match v.value.statements with
    | [] => [v.header]
    | first :: rest => (v.header ++ { template := " = " } ++ first) :: rest

/-- The imports of the variable: those of its type, then those of its value. -/
def imports (v : Variable) : ImportSet := v.type.imports.merge v.value.imports

end Variable

/-- Variables that are declared together. -/
structure Group where
  members : List Variable := []
deriving DecidableEq, Repr

namespace Group

/-- Add a variable and mark it as a member. -/
def push (g : Group) (v : Variable) : Group := ⟨g.members ++ [{ v with inGroup := true }]⟩

/-- Add a variable with a value. -/
def declareVar (g : Group) (name : String) (type : TypeRef) (value : Statement) : Group :=
  g.push { name, type, value := { statements := [value] } }

/-- Add a constant with a value. -/
def declareConst (g : Group) (name : String) (type : TypeRef) (value : Statement) : Group :=
  g.push { name, type, constant := true, value := { statements := [value] } }

/-- The group of the variables of a list. -/
def ofList (members : List Variable) : Group := members.foldl push {}

/-- Does the group have no members? -/
def isEmpty (g : Group) : Bool := g.members.isEmpty

/-- The members that are constant. -/
def constants (g : Group) : List Variable := g.members.filter (·.constant)

/-- The members that are not constant. -/
def nonconstants (g : Group) : List Variable := g.members.filter (!·.constant)

/-- The statements of one section. -/
def sectionOf (keyword : String) : List Variable → List Statement
  | [] => []
  | members =>
    { template := "$L (", args := [.literal keyword], after := 1 }
      :: members.flatMap Variable.statements ++ [Statement.closing ")"]

/-- The statements of the group: the constants, then the variables. -/
def statements (g : Group) : List Statement :=
  Statement.attachOne (sectionOf "const" g.constants) (sectionOf "var" g.nonconstants)

/-- The imports of the group, in the order in which its members were added. -/
def imports (g : Group) : ImportSet := ImportSet.empty.attach (g.members.map Variable.imports)

end Group

end SourcePress
