import SourcePress.Proofs.Signatures

/-!
# Groups by kind

A group takes constants and variables in any order, one at a time or from a list, and prints them in
two sections.  This file says what is left of the order.

A `Group.History` is everything that was done to build a group.  Whichever way a variable came in, it
is marked as a member (`members_group`), and so it is printed without its keyword
(`Variable.losesKeyword`): the literal that holds the keyword is empty, and nothing else about its
statements changes.  The statements of the group are those of the constants and those of the other
variables, each kind in the order in which it came (`statements_group`).  Which constant came before
which variable can no longer be told from them.  It can be told from the imports, which are collected
in the order of all members; but their paths are the same (`mem_paths_imports_iff`).
-/

namespace SourcePress

/-! ## Members without keywords -/

namespace Variable

/-- The variable as a member of a group. -/
def marked (v : Variable) : Variable := { v with inGroup := true }

/-- The line that declares the variable, with the first statement of its value if there is one. -/
def line (v : Variable) : Statement :=
  match v.value.statements with
  | [] => v.header
  | first :: _ => v.header ++ { template := " = " } ++ first

theorem statements_eq_line (v : Variable) :
    v.statements = v.comment.statements ++ v.line :: v.value.statements.tail := by
  rw [statements, line]
  cases v.value.statements with
  | nil => rfl
  | cons first rest => rfl

theorem text_header (v : Variable) (name : TypeRef → String) :
    v.header.text name = v.keyword ++ (v.name ++ (" " ++ name v.type)) := by
  simp [header, Statement.text, Template.substitute]

/-- The keyword is all that the texts of the two lines differ by. -/
theorem text_line (v : Variable) (name : TypeRef → String) :
    v.line.text name = v.keyword ++ v.marked.line.text name := by
  have hheader : v.header.text name = v.keyword ++ v.marked.header.text name := by
    rw [text_header, text_header]
    exact congrArg _ (String.empty_append ..).symm
  have hvalue : v.marked.value = v.value := rfl
  rw [line, line, hvalue]
  cases v.value.statements with
  | nil => exact hheader
  | cons first rest =>
    rw [Statement.text_append v.renderError?_header_equals,
      Statement.text_append v.renderError?_header,
      Statement.text_append v.marked.renderError?_header_equals,
      Statement.text_append v.marked.renderError?_header, hheader]
    simp only [String.append_assoc]

/-- What becomes of a variable in a group. -/
structure LosesKeyword (v : Variable) : Prop where
  /-- On its own it has the lines of its comment, the line that declares it, and the rest of its
  value. -/
  own : v.statements = v.comment.statements ++ v.line :: v.value.statements.tail
  /-- As a member it has the same lines, except for the one that declares it. -/
  member : v.marked.statements = v.comment.statements ++ v.marked.line :: v.value.statements.tail
  /-- The keyword is the first argument of that line, and is missing in the line of the member. -/
  args_eq : v.line.args = .literal v.keyword :: v.line.args.tail
  line_eq : v.marked.line = { v.line with args := .literal "" :: v.line.args.tail }
  text_eq : ∀ name, v.line.text name = v.keyword ++ v.marked.line.text name
  /-- Outside of groups there is a keyword, which depends on the kind. -/
  keyword_eq : v.inGroup = false → v.keyword = if v.constant then "const " else "var "

theorem losesKeyword (v : Variable) : v.LosesKeyword where
  own := v.statements_eq_line
  member := v.marked.statements_eq_line
  args_eq := by
    rw [line]
    cases v.value.statements with
    | nil => rfl
    | cons first rest => rfl
  line_eq := by
    have hvalue : v.marked.value = v.value := rfl
    rw [line, line, hvalue]
    cases v.value.statements with
    | nil => rfl
    | cons first rest => rfl
  text_eq := v.text_line
  keyword_eq := by
    intro h
    rw [keyword, h]
    rfl

end Variable

/-! ## Histories -/

namespace Group

/-- A way to add a variable to a group. -/
inductive Step where
  | push (v : Variable)
  | declareVar (name : String) (type : TypeRef) (value : Statement)
  | declareConst (name : String) (type : TypeRef) (value : Statement)
deriving DecidableEq, Repr

/-- Take a step. -/
def apply (g : Group) : Step → Group
  | .push v => g.push v
  | .declareVar name type value => g.declareVar name type value
  | .declareConst name type value => g.declareConst name type value

/-- The variable that a step adds, before it is marked. -/
def Step.added : Step → Variable
  | .push v => v
  | .declareVar name type value => { name, type, value := { statements := [value] } }
  | .declareConst name type value =>
    { name, type, constant := true, value := { statements := [value] } }

/-- How a group was built: from a list of variables, which may be empty, and then step by step. -/
structure History where
  start : List Variable := []
  steps : List Step := []
deriving DecidableEq, Repr

namespace History

/-- The group that was built. -/
def group (h : History) : Group := h.steps.foldl apply (ofList h.start)

/-- All variables that were added, as the caller gave them. -/
def supplied (h : History) : List Variable := h.start ++ h.steps.map Step.added

/-- The constants, in the order in which they were added. -/
def constants (h : History) : List Variable := h.supplied.filter (·.constant)

/-- The variables that are not constant, in the order in which they were added. -/
def nonconstants (h : History) : List Variable := h.supplied.filter (!·.constant)

end History

/-- **Every way to add a variable marks it.** -/
theorem members_apply (g : Group) (step : Step) :
    (g.apply step).members = g.members ++ [step.added.marked] := by
  cases step with
  | push v => rfl
  | declareVar name type value => rfl
  | declareConst name type value => rfl

theorem members_foldl_apply (g : Group) (steps : List Step) :
    (steps.foldl apply g).members = g.members ++ steps.map fun step => step.added.marked := by
  induction steps generalizing g with
  | nil => exact (List.append_nil _).symm
  | cons step rest ih =>
    rw [List.foldl_cons, ih, members_apply, List.append_assoc]
    rfl

/-- A list is added variable by variable. -/
theorem ofList_eq_foldl (members : List Variable) :
    ofList members = (members.map Step.push).foldl apply {} := by
  rw [List.foldl_map]
  rfl

theorem members_ofList (members : List Variable) :
    (ofList members).members = members.map Variable.marked := by
  rw [ofList_eq_foldl, members_foldl_apply, List.map_map]
  rfl

namespace History

theorem members_group (h : History) : h.group.members = h.supplied.map Variable.marked := by
  rw [group, members_foldl_apply, members_ofList, supplied, List.map_append, List.map_map]
  rfl

theorem constants_group (h : History) : h.group.constants = h.constants.map Variable.marked := by
  rw [Group.constants, members_group, List.filter_map]
  rfl

theorem nonconstants_group (h : History) :
    h.group.nonconstants = h.nonconstants.map Variable.marked := by
  rw [Group.nonconstants, members_group, List.filter_map]
  rfl

end History

/-! ## Sections -/

/-- The line that opens a section. -/
def sectionHead (keyword : String) : Statement :=
  { template := "$L (", args := [.literal keyword], after := 1 }

theorem text_sectionHead (keyword : String) (name : TypeRef → String) :
    (sectionHead keyword).text name = keyword ++ " (" := by
  simp [sectionHead, Statement.text, Template.substitute]

/-- A section with members: the statements that each of them has in a group, between parentheses. -/
def enclosed (keyword : String) (members : List Variable) : List Statement :=
  sectionHead keyword :: members.flatMap (·.marked.statements) ++ [Statement.closing ")"]

/-- The sections of both kinds.  A kind without members has no section, and a blank line stands
between two sections. -/
def sections : (constants nonconstants : List Variable) → List Statement
  | [], [] => []
  | [], v :: vs => enclosed "var" (v :: vs)
  | c :: cs, [] => enclosed "const" (c :: cs)
  | c :: cs, v :: vs => enclosed "const" (c :: cs) ++ .blank :: enclosed "var" (v :: vs)

theorem sectionOf_map_marked {members : List Variable} (h : members ≠ []) (keyword : String) :
    sectionOf keyword (members.map Variable.marked) = enclosed keyword members := by
  cases members with
  | nil => exact absurd rfl h
  | cons v rest =>
    show sectionHead keyword :: ((v :: rest).map Variable.marked).flatMap Variable.statements
      ++ [Statement.closing ")"] = _
    rw [List.flatMap_map]
    rfl

theorem attachOne_sections (constants nonconstants : List Variable) :
    Statement.attachOne (sectionOf "const" (constants.map Variable.marked))
      (sectionOf "var" (nonconstants.map Variable.marked)) = sections constants nonconstants := by
  match constants, nonconstants with
  | [], [] => rfl
  | [], v :: vs =>
    rw [sectionOf_map_marked (List.cons_ne_nil v vs)]
    exact Statement.nil_attachOne _
  | c :: cs, [] =>
    rw [sectionOf_map_marked (List.cons_ne_nil c cs)]
    exact Statement.attachOne_nil _
  | c :: cs, v :: vs =>
    rw [sectionOf_map_marked (List.cons_ne_nil c cs), sectionOf_map_marked (List.cons_ne_nil v vs)]
    exact Statement.attachOne_of_ne_nil (List.cons_ne_nil _ _) (List.cons_ne_nil _ _)

namespace History

/-- **The statements of a group are its two sections.** -/
theorem statements_group (h : History) :
    h.group.statements = sections h.constants h.nonconstants := by
  rw [Group.statements, constants_group, nonconstants_group, attachOne_sections]

end History

/-- The paths of a group's imports are those that its members need, of whatever kind. -/
theorem mem_paths_imports_iff {g : Group} {path : String} :
    path ∈ g.imports.paths ↔ ∃ v ∈ g.constants ++ g.nonconstants, path ∈ v.imports.paths := by
  have hempty : path ∉ ImportSet.empty.paths := List.not_mem_nil
  have hkinds (v : Variable) : v ∈ g.constants ++ g.nonconstants ↔ v ∈ g.members :=
    (List.filter_append_perm (·.constant) g.members).mem_iff
  rw [imports, ImportSet.mem_paths_attach_map, or_iff_right hempty]
  simp only [hkinds]

/-- **A group is determined by its constants and its other variables**, each in their order.  It has
one section for each kind that has members, and a blank line between two sections.  A section has the
statements of its members, each without its keyword, in the order in which they were added.  So two
groups into which the same constants and the same other variables were put, but in another order of
the two kinds, have the same statements, and print the same text or fail with the same error; and
their imports have the same paths. -/
theorem kinds_determine_group :
    (∀ h : History, h.group.statements = sections h.constants h.nonconstants) ∧
    (∀ keyword name, (sectionHead keyword).text name = keyword ++ " (") ∧
    (∀ v : Variable, v.LosesKeyword) ∧
    ∀ h h' : History, h.constants.map Variable.marked = h'.constants.map Variable.marked →
      h.nonconstants.map Variable.marked = h'.nonconstants.map Variable.marked →
        h.group.statements = h'.group.statements ∧
        Writer.renderBlock h.group.statements = Writer.renderBlock h'.group.statements ∧
        ∀ path, path ∈ h.group.imports.paths ↔ path ∈ h'.group.imports.paths := by
  refine ⟨History.statements_group, text_sectionHead, Variable.losesKeyword, ?_⟩
  intro h h' hconstants hnonconstants
  rw [← History.constants_group, ← History.constants_group] at hconstants
  rw [← History.nonconstants_group, ← History.nonconstants_group] at hnonconstants
  have hstatements : h.group.statements = h'.group.statements := by
    rw [statements, statements, hconstants, hnonconstants]
  refine ⟨hstatements, by rw [hstatements], fun path => ?_⟩
  rw [mem_paths_imports_iff, mem_paths_imports_iff, hconstants, hnonconstants]

/-- The type of a constant, in a package of its own. -/
def constantType : TypeRef :=
  .named ⟨some ⟨"sea/tide", none, by decide +kernel⟩, "Mark", by decide +kernel⟩

/-- The type of a variable, in another package. -/
def variableType : TypeRef :=
  .named ⟨some ⟨"sea/clock", none, by decide +kernel⟩, "Hour", by decide +kernel⟩

/-- A constant from a list, and then a variable and another constant. -/
def constantFirst : History where
  start := [{ name := "Low", type := constantType, comment := ⟨"at the pier"⟩, constant := true }]
  steps := [
    .declareVar "now" variableType { template := "$L", args := [.literal "0"] },
    .declareConst "High" (.declared "int") { template := "2" }]

/-- The same variables with the variable first, and one of the constants marked beforehand. -/
def variableFirst : History where
  steps := [
    .push { name := "now"
            type := variableType
            value := { statements := [{ template := "$L", args := [.literal "0"] }] } },
    .push { name := "Low"
            type := constantType
            comment := ⟨"at the pier"⟩
            constant := true
            inGroup := true },
    .declareConst "High" (.declared "int") { template := "2" }]

theorem constantFirst_and_variableFirst :
    constantFirst.supplied.map Variable.name = ["Low", "now", "High"] ∧
      variableFirst.supplied.map Variable.name = ["now", "Low", "High"] ∧
      constantFirst.group.statements = variableFirst.group.statements ∧
      Writer.renderBlock constantFirst.group.statements = .ok ("const (\n\t// at the pier\n" ++
        "\tLow tide.Mark\n\tHigh int = 2\n)\n\nvar (\n\tnow clock.Hour = 0\n)\n") ∧
      constantFirst.group.imports.paths = ["sea/tide", "sea/clock"] ∧
      variableFirst.group.imports.paths = ["sea/clock", "sea/tide"] ∧
      ∀ path, path ∈ constantFirst.group.imports.paths ↔
        path ∈ variableFirst.group.imports.paths := by
  have hsame := kinds_determine_group.2.2.2 constantFirst variableFirst (by decide +kernel)
    (by decide +kernel)
  exact ⟨rfl, rfl, hsame.1, by decide +kernel, by decide +kernel, by decide +kernel, hsame.2.2⟩

end Group

end SourcePress
