import SourcePress.Proofs.Balance

/-!
# Who a line comes from

A declaration prints lines of its own, and statements that its caller supplied: the bodies of
functions and methods, and the values of variables.  The first statement of a value does not get a
line for itself, it stands behind the name of its variable.  A `Line` says of a line which of the
three it is, and carries the proof that whatever the declaration itself puts there renders.

Names, comments, tags and types are arguments in the declaration's own lines and never parts of a
template, so these proofs hold for all texts and all types; nothing in a name is taken for a
directive.  What remains are the supplied statements.  If the lists they come from are balanced, a
declaration is printed exactly when each of them renders on its own, and otherwise the error has the
position of the line with the first one that does not (`printed_unless_supplied_fails`).
-/

namespace SourcePress

/-! ## Lines -/

/-- A line of a declaration, with its origin. -/
inductive Line where
  /-- A line of the declaration itself. -/
  | own (s : Statement) (renders : s.renderError? = none)
  /-- A statement that the caller supplied. -/
  | supplied (s : Statement)
  /-- A statement that the caller supplied, behind a text of the declaration itself. -/
  | joined (front : Statement) (renders : front.renderError? = none) (s : Statement)

namespace Line

/-- What is printed. -/
def statement : Line → Statement
  | own s _ => s
  | supplied s => s
  | joined front _ s => front ++ s

/-- The statement on the line that the caller supplied, if there is one. -/
def supplied? : Line → Option Statement
  | own _ _ => none
  | supplied s => some s
  | joined _ _ s => some s

/-- **A line renders unless the caller's statement on it does not.** -/
theorem renderError?_statement_eq_none_iff (l : Line) :
    l.statement.renderError? = none ↔ ∀ s, l.supplied? = some s → s.renderError? = none := by
  cases l with
  | own s renders => simp [statement, supplied?, renders]
  | supplied s => simp [statement, supplied?]
  | joined front renders s =>
    rw [statement, Statement.renderError?_append_eq_none_iff renders]
    simp [supplied?]

/-- The empty line between two blocks. -/
def blank : Line := own .blank Statement.renderError?_blank

/-- The lines print the statements, and those that the caller supplied are in this order among
them. -/
structure Print (lines : List Line) (statements caller : List Statement) : Prop where
  statements_eq : lines.map statement = statements
  supplied_eq : lines.filterMap supplied? = caller

theorem Print.append {ls ls' : List Line} {xs xs' caller caller' : List Statement}
    (h : Print ls xs caller) (h' : Print ls' xs' caller') :
    Print (ls ++ ls') (xs ++ xs') (caller ++ caller') := by
  refine ⟨?_, ?_⟩
  · rw [List.map_append, h.statements_eq, h'.statements_eq]
  · rw [List.filterMap_append, h.supplied_eq, h'.supplied_eq]

theorem Print.flatMap {α : Type} {lines : α → List Line} {statements caller : α → List Statement}
    (h : ∀ x, Print (lines x) (statements x) (caller x)) (xs : List α) :
    Print (xs.flatMap lines) (xs.flatMap statements) (xs.flatMap caller) := by
  induction xs with
  | nil => exact ⟨rfl, rfl⟩
  | cons x rest ih =>
    rw [List.flatMap_cons, List.flatMap_cons, List.flatMap_cons]
    exact (h x).append ih

/-- A list that the caller supplied. -/
theorem print_supplied (xs : List Statement) : Print (xs.map supplied) xs xs := by
  refine ⟨?_, ?_⟩
  · rw [List.map_map]
    exact List.map_id xs
  · rw [List.filterMap_map]
    exact List.filterMap_some

/-- A list that is the declaration's own. -/
theorem print_own (xs : List Statement) (renders : ∀ s ∈ xs, s.renderError? = none) :
    Print (xs.pmap own renders) xs [] := by
  refine ⟨?_, ?_⟩
  · rw [List.map_pmap]
    exact (List.pmap_eq_map renders).trans (List.map_id xs)
  · refine List.filterMap_eq_nil_iff.mpr fun l hl => ?_
    obtain ⟨s, hs, rfl⟩ := List.mem_pmap.mp hl
    rfl

/-- Lines between an opening and a closing line of the declaration itself. -/
theorem Print.enclosed {opening closing : Statement} {ls : List Line} {xs caller : List Statement}
    (h : Print ls xs caller) (hopening : opening.renderError? = none)
    (hclosing : closing.renderError? = none) :
    Print (own opening hopening :: ls ++ [own closing hclosing]) (opening :: xs ++ [closing])
      caller := by
  refine ⟨?_, ?_⟩
  · rw [List.map_append, List.map_cons, h.statements_eq]
    rfl
  · rw [List.filterMap_append, List.filterMap_cons]
    show ls.filterMap supplied? ++ [] = caller
    rw [List.append_nil, h.supplied_eq]

/-- A block in front of others, with a blank line behind it where one is due. -/
theorem Print.separate_cons {ls : List Line} {lss : List (List Line)}
    {xs caller caller' : List Statement} {xss : List (List Statement)} (h : Print ls xs caller)
    (hrest : Print (separate blank lss) (separate .blank xss) caller') :
    Print (separate blank (ls :: lss)) (separate .blank (xs :: xss)) (caller ++ caller') := by
  by_cases hls : ls = []
  · have hxs : xs = [] := by rw [← h.statements_eq, hls, List.map_nil]
    have hcaller : caller = [] := by rw [← h.supplied_eq, hls, List.filterMap_nil]
    rw [hls, hxs, hcaller, separate_nil_cons, separate_nil_cons, List.nil_append]
    exact hrest
  · have hxs : xs ≠ [] := by
      rw [← h.statements_eq]
      exact mt List.map_eq_nil_iff.mp hls
    by_cases hlast : separate blank lss = []
    · have hxss : separate Statement.blank xss = [] := by
        rw [← hrest.statements_eq, hlast, List.map_nil]
      have hcaller' : caller' = [] := by rw [← hrest.supplied_eq, hlast, List.filterMap_nil]
      rw [separate_cons_of_eq_nil hlast, separate_cons_of_eq_nil hxss, hcaller', List.append_nil]
      exact h
    · have hxss : separate Statement.blank xss ≠ [] := by
        rw [← hrest.statements_eq]
        exact mt List.map_eq_nil_iff.mp hlast
      have hblank : Print (blank :: separate blank lss) (.blank :: separate .blank xss) caller' :=
        ⟨congrArg (Statement.blank :: ·) hrest.statements_eq, hrest.supplied_eq⟩
      rw [separate_cons_of_ne_nil hls hlast, separate_cons_of_ne_nil hxs hxss]
      exact h.append hblank

/-- Blocks of lines with a blank line between two of them. -/
theorem Print.separate_map {α : Type} {lines : α → List Line}
    {statements caller : α → List Statement}
    (h : ∀ x, Print (lines x) (statements x) (caller x)) (xs : List α) :
    Print (separate blank (xs.map lines)) (separate .blank (xs.map statements))
      (xs.flatMap caller) := by
  induction xs with
  | nil => exact ⟨rfl, rfl⟩
  | cons x rest ih =>
    rw [List.map_cons, List.map_cons, List.flatMap_cons]
    exact (h x).separate_cons ih

end Line

/-! ## The declaration's own texts render -/

open Statement (renderError?_of_accepts renderError?_append)

theorem Comment.renderError?_of_mem_statements (c : Comment) :
    ∀ s ∈ c.statements, s.renderError? = none := by
  intro s hs
  obtain ⟨line, -, rfl⟩ := List.mem_map.mp hs
  unfold lineStatement
  split
  · exact renderError?_of_accepts [] (by decide) rfl
  · exact renderError?_of_accepts [.literal] (by decide) rfl

theorem Statement.renderError?_closing_brace : (closing "\x7d").renderError? = none :=
  renderError?_of_accepts [] (by decide) rfl

/-- The name of a parameter or of a field, unless it is empty. -/
theorem Statement.renderError?_optionalName (name : String) :
    (if name.isEmpty then {} else { template := "$L ", args := [.literal name] } :
      Statement).renderError? = none := by
  split
  · exact renderError?_blank
  · exact renderError?_of_accepts [.literal] (by decide) rfl

theorem Statement.renderError?_dots (variadic : Bool) :
    (if variadic then { template := "..." } else {} : Statement).renderError? = none := by
  split
  · exact renderError?_of_accepts [] (by decide) rfl
  · exact renderError?_blank

theorem Parameter.renderError?_statement (p : Parameter) : p.statement.renderError? = none := by
  have htype : ({ template := "$T", args := [.type p.type] } : Statement).renderError? = none :=
    renderError?_of_accepts [.type] (by decide) rfl
  have hfront := renderError?_append (Statement.renderError?_optionalName p.name)
    (Statement.renderError?_dots p.variadic)
  exact renderError?_append hfront htype

theorem Parameter.renderError?_listing (ps : List Parameter) :
    (listing ps).renderError? = none := by
  induction ps using listing.induct with
  | case1 => exact Statement.renderError?_blank
  | case2 p => exact p.renderError?_statement
  | case3 p rest hrest ih =>
    have hcomma : ({ template := ", " } : Statement).renderError? = none :=
      renderError?_of_accepts [] (by decide) rfl
    rw [listing.eq_3 p rest hrest]
    exact renderError?_append (renderError?_append p.renderError?_statement hcomma) ih

theorem Func.renderError?_resultPart (results : List Parameter) :
    (resultPart results).renderError? = none := by
  have hopen : ({ template := " (" } : Statement).renderError? = none :=
    renderError?_of_accepts [] (by decide) rfl
  have hclose : ({ template := ")" } : Statement).renderError? = none :=
    renderError?_of_accepts [] (by decide) rfl
  match results with
  | [] => exact Statement.renderError?_blank
  | [only] =>
    have honly := only.renderError?_statement
    rw [resultPart]
    split
    · exact renderError?_append (renderError?_of_accepts [] (by decide) rfl) honly
    · exact renderError?_append (renderError?_append hopen honly) hclose
  | p :: q :: rest =>
    have hlisting := Parameter.renderError?_listing (p :: q :: rest)
    exact renderError?_append (renderError?_append hopen hlisting) hclose

theorem Func.renderError?_signature (f : Func) : f.signature.renderError? = none := by
  have hname : ({ template := "$L(", args := [.literal f.name] } : Statement).renderError? = none :=
    renderError?_of_accepts [.literal] (by decide) rfl
  have hclose : ({ template := ")" } : Statement).renderError? = none :=
    renderError?_of_accepts [] (by decide) rfl
  have hparams := Parameter.renderError?_listing f.params
  have hresults := Func.renderError?_resultPart f.results
  exact renderError?_append (renderError?_append (renderError?_append hname hparams) hclose) hresults

theorem Func.renderError?_keyword : ({ template := "func " } : Statement).renderError? = none :=
  renderError?_of_accepts [] (by decide) rfl

theorem Method.renderError?_header (m : Method) : m.header.renderError? = none :=
  renderError?_of_accepts [.literal, .type] (by decide) rfl

theorem Field.renderError?_statement (f : Field) : f.statement.renderError? = none := by
  have htype : ({ template := "$T", args := [.type f.type] } : Statement).renderError? = none :=
    renderError?_of_accepts [.type] (by decide) rfl
  have hfront := renderError?_append (Statement.renderError?_optionalName f.name) htype
  refine renderError?_append hfront ?_
  split
  · exact Statement.renderError?_blank
  · exact renderError?_of_accepts [.literal] (by decide) rfl

theorem Variable.renderError?_header (v : Variable) : v.header.renderError? = none :=
  renderError?_of_accepts [.literal, .literal, .type] (by decide) rfl

theorem Struct.renderError?_of_mem_declaration (s : Struct) :
    ∀ line ∈ s.declaration, line.renderError? = none := by
  refine List.forall_mem_append.mpr ⟨s.comment.renderError?_of_mem_statements, ?_⟩
  cases s.fields with
  | nil => exact List.forall_mem_singleton.mpr (renderError?_of_accepts [.literal] (by decide) rfl)
  | cons field rest =>
    refine List.forall_mem_append.mpr ⟨List.forall_mem_cons.mpr ⟨?_, ?_⟩, ?_⟩
    · exact renderError?_of_accepts [.literal] (by decide) rfl
    · intro line hline
      obtain ⟨field', -, rfl⟩ := List.mem_map.mp hline
      exact field'.renderError?_statement
    · exact List.forall_mem_singleton.mpr Statement.renderError?_closing_brace

theorem Interface.renderError?_of_mem_members (i : Interface) :
    ∀ line ∈ i.members, line.renderError? = none := by
  refine List.forall_mem_append.mpr ⟨?_, ?_⟩
  · intro line hline
    obtain ⟨t, -, rfl⟩ := List.mem_map.mp hline
    exact renderError?_of_accepts [.type] (by decide) rfl
  · refine List.forall_mem_flatMap.mpr fun m _ => ?_
    have hsignature := m.renderError?_signature
    exact List.forall_mem_append.mpr
      ⟨m.comment.renderError?_of_mem_statements, List.forall_mem_singleton.mpr hsignature⟩

theorem Interface.renderError?_of_mem_statements (i : Interface) :
    ∀ line ∈ i.statements, line.renderError? = none := by
  refine List.forall_mem_append.mpr ⟨i.comment.renderError?_of_mem_statements, ?_⟩
  split
  · exact List.forall_mem_singleton.mpr (renderError?_of_accepts [.literal] (by decide) rfl)
  · refine List.forall_mem_append.mpr
      ⟨List.forall_mem_cons.mpr ⟨?_, i.renderError?_of_mem_members⟩, ?_⟩
    · exact renderError?_of_accepts [.literal] (by decide) rfl
    · exact List.forall_mem_singleton.mpr Statement.renderError?_closing_brace

theorem Definition.renderError?_of_mem_statements (d : Definition) :
    ∀ line ∈ d.statements, line.renderError? = none := by
  refine List.forall_mem_append.mpr ⟨d.comment.renderError?_of_mem_statements, ?_⟩
  exact List.forall_mem_singleton.mpr (renderError?_of_accepts [.literal, .type] (by decide) rfl)

theorem Func.renderError?_firstLine (f : Func) {header : Statement}
    (hheader : header.renderError? = none) :
    (header ++ f.signature ++ Statement.opening " \x7b").renderError? = none :=
  Func.renderError?_blockHeader_eq_none_iff.mpr
    (renderError?_append hheader f.renderError?_signature)

theorem Variable.renderError?_header_equals (v : Variable) :
    (v.header ++ ({ template := " = " } : Statement)).renderError? = none :=
  renderError?_append v.renderError?_header (renderError?_of_accepts [] (by decide) rfl)

/-! ## The lines of each declaration -/

section Lines

open Line (Print)

/-- The lines of a function: its body is the caller's. -/
def Func.lines (f : Func) (header : Statement) (hheader : header.renderError? = none) : List Line :=
  f.comment.statements.pmap .own f.comment.renderError?_of_mem_statements ++
    (.own _ (f.renderError?_firstLine hheader) :: f.body.map .supplied
      ++ [.own _ Statement.renderError?_closing_brace])

theorem Func.print_lines (f : Func) {header : Statement} (hheader : header.renderError? = none) :
    Print (f.lines header hheader) (f.declaration header) f.body := by
  have hcomment := Line.print_own _ f.comment.renderError?_of_mem_statements
  have hbody : Print (f.body.map .supplied) f.body f.body := Line.print_supplied f.body
  rw [Func.declaration, List.append_assoc]
  exact hcomment.append (hbody.enclosed _ _)

/-- The lines of a method: its body is the caller's. -/
def Method.lines (m : Method) : List Line := m.func.lines m.header m.renderError?_header

theorem Method.print_lines (m : Method) : Print m.lines m.statements m.func.body :=
  m.func.print_lines m.renderError?_header

/-- The lines of a struct: its own, and those of its methods. -/
def Struct.lines (s : Struct) : List Line :=
  separate .blank (s.declaration.pmap .own s.renderError?_of_mem_declaration
    :: s.methods.map Method.lines)

theorem Struct.print_lines (s : Struct) :
    Print s.lines s.statements (s.methods.flatMap (·.func.body)) := by
  have hown := Line.print_own _ s.renderError?_of_mem_declaration
  rw [Struct.statements, Statement.attach_eq_separate]
  exact hown.separate_cons (Print.separate_map Method.print_lines s.methods)

/-- The lines of a variable.  The first statement of its value stands behind its name. -/
def Variable.lines (v : Variable) : List Line :=
  v.comment.statements.pmap .own v.comment.renderError?_of_mem_statements ++
    match v.value.statements with
    | [] => [.own v.header v.renderError?_header]
    | first :: rest => .joined _ v.renderError?_header_equals first :: rest.map .supplied

theorem Variable.print_lines (v : Variable) : Print v.lines v.statements v.value.statements := by
  have hcomment := Line.print_own _ v.comment.renderError?_of_mem_statements
  show Print _ _ ([] ++ v.value.statements)
  refine hcomment.append ?_
  cases v.value.statements with
  | nil => exact ⟨rfl, rfl⟩
  | cons first rest =>
    have hrest : Print (rest.map .supplied) rest rest := Line.print_supplied rest
    exact ⟨congrArg (_ :: ·) hrest.statements_eq, congrArg (first :: ·) hrest.supplied_eq⟩

theorem Group.renderError?_firstLine (keyword : String) :
    ({ template := "$L (", args := [.literal keyword], after := 1 } : Statement).renderError? =
      none :=
  renderError?_of_accepts [.literal] (by decide) rfl

theorem Statement.renderError?_closing_paren : (closing ")").renderError? = none :=
  renderError?_of_accepts [] (by decide) rfl

/-- The lines of one section of a group. -/
def Group.sectionLines (keyword : String) : List Variable → List Line
  | [] => []
  | members => .own _ (Group.renderError?_firstLine keyword) :: members.flatMap Variable.lines
      ++ [.own _ Statement.renderError?_closing_paren]

theorem Group.print_sectionLines (keyword : String) (members : List Variable) :
    Print (Group.sectionLines keyword members) (Group.sectionOf keyword members)
      (members.flatMap (·.value.statements)) := by
  cases members with
  | nil => exact ⟨rfl, rfl⟩
  | cons v rest => exact (Print.flatMap Variable.print_lines (v :: rest)).enclosed _ _

/-- The lines of a group: those of its two sections. -/
def Group.lines (g : Group) : List Line :=
  separate .blank
    [Group.sectionLines "const" g.constants, Group.sectionLines "var" g.nonconstants]

theorem Group.print_lines (g : Group) :
    Print g.lines g.statements
      (g.constants.flatMap (·.value.statements) ++ g.nonconstants.flatMap (·.value.statements)) := by
  have hconstants := Group.print_sectionLines "const" g.constants
  have hvariables := Group.print_sectionLines "var" g.nonconstants
  have hnone : Print (separate .blank []) (separate .blank []) [] := ⟨rfl, rfl⟩
  have hattach : g.statements = Statement.attach (Group.sectionOf "const" g.constants)
      [Group.sectionOf "var" g.nonconstants] := rfl
  have hlast := hvariables.separate_cons hnone
  rw [List.append_nil] at hlast
  rw [hattach, Statement.attach_eq_separate]
  exact hconstants.separate_cons hlast

end Lines

namespace Declaration

/-- The lines of a declaration. -/
def lines : Declaration → List Line
  | .fragment f => f.statements.map .supplied
  | .comment c => c.statements.pmap .own c.renderError?_of_mem_statements
  | .func f => f.lines _ Func.renderError?_keyword
  | .method m => m.lines
  | .struct s => s.lines
  | .interface i => i.statements.pmap .own i.renderError?_of_mem_statements
  | .definition d => d.statements.pmap .own d.renderError?_of_mem_statements
  | .binding v => v.lines
  | .group g => g.lines

/-- The statements that the caller supplied and that are printed, in order: the bodies of functions
and methods and the values of variables, those of constants first. -/
def supplied : Declaration → List Statement
  | .fragment f => f.statements
  | .comment _ => []
  | .func f => f.body
  | .method m => m.func.body
  | .struct s => s.methods.flatMap (·.func.body)
  | .interface _ => []
  | .definition _ => []
  | .binding v => v.value.statements
  | .group g =>
    g.constants.flatMap (·.value.statements) ++ g.nonconstants.flatMap (·.value.statements)

theorem print_lines (d : Declaration) : Line.Print d.lines d.statements d.supplied := by
  cases d with
  | fragment f => exact Line.print_supplied f.statements
  | comment c => exact Line.print_own _ c.renderError?_of_mem_statements
  | func f => exact f.print_lines Func.renderError?_keyword
  | method m => exact m.print_lines
  | struct s => exact s.print_lines
  | interface i => exact Line.print_own _ i.renderError?_of_mem_statements
  | definition d => exact Line.print_own _ d.renderError?_of_mem_statements
  | binding v => exact v.print_lines
  | group g => exact g.print_lines

end Declaration

/-! ## Printing -/

namespace Statement

/-- A list in which some statement does not render has a first one. -/
theorem exists_firstFailure {xs : List Statement} (h : ¬ ∀ s ∈ xs, s.renderError? = none) :
    ∃ j e, FirstFailure xs j e := by
  induction xs with
  | nil => exact absurd (fun s hs => absurd hs List.not_mem_nil) h
  | cons s rest ih =>
    cases hs : s.renderError? with
    | some e => exact ⟨0, e, hs, fun t ht => absurd ht List.not_mem_nil⟩
    | none =>
      have hrest : ¬ ∀ t ∈ rest, t.renderError? = none := fun hrest =>
        h (List.forall_mem_cons.mpr ⟨hs, hrest⟩)
      obtain ⟨j, e, he, hbefore⟩ := ih hrest
      refine ⟨j + 1, e, he, ?_⟩
      rw [List.take_succ_cons]
      exact List.forall_mem_cons.mpr ⟨hs, hbefore⟩

end Statement

namespace Line

/-- Lines render when the caller's statements among them do. -/
theorem Print.forall_renderError?_iff {ls : List Line} {xs caller : List Statement}
    (h : Print ls xs caller) :
    (∀ s ∈ xs, s.renderError? = none) ↔ ∀ s ∈ caller, s.renderError? = none := by
  rw [← h.statements_eq, ← h.supplied_eq, List.forall_mem_map]
  constructor
  · intro hlines s hs
    obtain ⟨l, hl, hsupplied⟩ := List.mem_filterMap.mp hs
    exact l.renderError?_statement_eq_none_iff.mp (hlines l hl) s hsupplied
  · intro hcaller l hl
    refine l.renderError?_statement_eq_none_iff.mpr fun s hs => ?_
    exact hcaller s (List.mem_filterMap.mpr ⟨l, hl, hs⟩)

/-- **The first line that does not render** holds the first of the caller's statements that does
not. -/
theorem Print.exists_of_firstFailure {ls : List Line} {xs caller : List Statement}
    (h : Print ls xs caller) {k : Nat} {e : Error} (hfail : Statement.FirstFailure xs k e) :
    ∃ s, ls[k]?.bind supplied? = some s ∧ s.renderError? ≠ none ∧
      ∀ j < k, ∀ s', ls[j]?.bind supplied? = some s' → s'.renderError? = none := by
  obtain ⟨hk, hbefore⟩ := hfail
  rw [← h.statements_eq] at hk hbefore
  obtain ⟨t, ht, he⟩ := Option.bind_eq_some_iff.mp hk
  rw [List.getElem?_map] at ht
  obtain ⟨l, hl, rfl⟩ := Option.map_eq_some_iff.mp ht
  have hl' : ¬ l.statement.renderError? = none := by
    rw [he]
    exact Option.some_ne_none e
  rw [renderError?_statement_eq_none_iff] at hl'
  push Not at hl'
  obtain ⟨s, hs, hsfail⟩ := hl'
  refine ⟨s, ?_, hsfail, ?_⟩
  · rw [hl]
    exact hs
  · intro j hj s' hs'
    obtain ⟨l', hget, hsupplied⟩ := Option.bind_eq_some_iff.mp hs'
    have hmem : l'.statement ∈ (ls.map statement).take k := by
      have hat : ((ls.map statement).take k)[j]? = some l'.statement := by
        rw [List.getElem?_take_of_lt hj, List.getElem?_map, hget]
        rfl
      exact List.mem_of_getElem? hat
    exact l'.renderError?_statement_eq_none_iff.mp (hbefore _ hmem) s' hsupplied

end Line

namespace Writer

theorem exists_renderBlock_iff {xs : List Statement} :
    (∃ text, renderBlock xs = .ok text) ↔ ∃ w, writeBlock xs {} = .ok () w := by
  unfold renderBlock
  cases writeBlock xs {} with
  | error e w => simp
  | ok u w => simp

/-- Statements with a layout are printed exactly when they render. -/
theorem exists_renderBlock_iff_of_leads {xs : List Statement} {reached : Nat}
    (h : Layout.Leads 0 xs reached) :
    (∃ text, renderBlock xs = .ok text) ↔ ∀ s ∈ xs, s.renderError? = none := by
  have hfresh : Layout.Leads ({} : Writer).depth xs reached := h
  rw [exists_renderBlock_iff, ← exists_reaches_iff hfresh]
  exact exists_congr fun w => writeFrom_eq_ok_iff_reaches

/-- The error of statements with a layout is that of the first one that does not render. -/
theorem exists_firstFailure_of_renderBlock {xs : List Statement} {reached : Nat}
    (h : Layout.Leads 0 xs reached) {e : Error} (he : renderBlock xs = .error e) :
    ∃ k cause, e = .statement k cause ∧ Statement.FirstFailure xs k cause := by
  have hrender : ¬ ∀ s ∈ xs, s.renderError? = none := by
    rw [← exists_renderBlock_iff_of_leads h, he]
    rintro ⟨text, htext⟩
    cases htext
  obtain ⟨k, cause, hfail⟩ := Statement.exists_firstFailure hrender
  obtain ⟨ls, hls⟩ := h.exists_levelsFrom 0
  obtain ⟨ls', hls'⟩ := Layout.exists_levelsFrom_take hls (k + 1)
  have hfresh : Layout.levelsFrom ({} : Writer).depth 0 (xs.take (k + 1)) = .ok ls' := hls'
  obtain ⟨w, hw⟩ := writeBlock_of_firstFailure hfail hfresh
  rw [renderBlock, hw] at he
  injection he with he
  exact ⟨k, cause, he.symm, hfail⟩

end Writer

namespace Declaration

/-- **Only supplied statements can make a declaration fail.**  The lines of a declaration are its
statements, and among them are the supplied ones in their order.  If the supplied lists are balanced,
the declaration is printed exactly when every supplied statement renders on its own; and the error is
otherwise that of the line with the first one that does not.  So a struct without methods, an
interface, a definition and a comment are always printed, whatever texts and types they have.  (A
header that the caller opens a block with counts as supplied: the line renders when the header
does.) -/
theorem printed_unless_supplied_fails :
    (∀ d : Declaration, d.lines.map Line.statement = d.statements ∧
      d.lines.filterMap Line.supplied? = d.supplied) ∧
    (∀ d : Declaration, d.hasBalancedParts = true →
      ((∃ text, Writer.renderBlock d.statements = .ok text) ↔
        ∀ s ∈ d.supplied, s.renderError? = none) ∧
      ∀ e, Writer.renderBlock d.statements = .error e →
        ∃ k cause s, e = .statement k cause ∧
          d.statements[k]?.bind Statement.renderError? = some cause ∧
          d.lines[k]?.bind Line.supplied? = some s ∧ s.renderError? ≠ none ∧
          ∀ j < k, ∀ s', d.lines[j]?.bind Line.supplied? = some s' → s'.renderError? = none) ∧
    (∀ s : Struct, s.methods = [] → ∃ text, Writer.renderBlock s.statements = .ok text) ∧
    (∀ i : Interface, ∃ text, Writer.renderBlock i.statements = .ok text) ∧
    (∀ d : Definition, ∃ text, Writer.renderBlock d.statements = .ok text) ∧
    (∀ c : Comment, ∃ text, Writer.renderBlock c.statements = .ok text) ∧
    ∀ header : Statement,
      (Func.blockHeader header).renderError? = none ↔ header.renderError? = none := by
  have hprinted : ∀ d : Declaration, d.hasBalancedParts = true →
      ((∃ text, Writer.renderBlock d.statements = .ok text) ↔
        ∀ s ∈ d.supplied, s.renderError? = none) := by
    intro d hparts
    rw [Writer.exists_renderBlock_iff_of_leads (leads_statements hparts)]
    exact d.print_lines.forall_renderError?_iff
  have halways : ∀ d : Declaration, d.hasBalancedParts = true → d.supplied = [] →
      ∃ text, Writer.renderBlock d.statements = .ok text := by
    intro d hparts hnone
    refine (hprinted d hparts).mpr ?_
    rw [hnone]
    exact fun s hs => absurd hs List.not_mem_nil
  refine ⟨fun d => ⟨d.print_lines.statements_eq, d.print_lines.supplied_eq⟩, ?_, ?_,
    fun i => halways (.interface i) rfl rfl, fun d => halways (.definition d) rfl rfl,
    fun c => halways (.comment c) rfl rfl, fun header => Func.renderError?_blockHeader_eq_none_iff⟩
  · intro d hparts
    refine ⟨hprinted d hparts, fun e he => ?_⟩
    obtain ⟨k, cause, rfl, hfail⟩ :=
      Writer.exists_firstFailure_of_renderBlock (leads_statements hparts) he
    obtain ⟨s, hs, hsfail, hbefore⟩ := d.print_lines.exists_of_firstFailure hfail
    exact ⟨k, cause, s, rfl, hfail.1, hs, hsfail, hbefore⟩
  · intro s hmethods
    refine halways (.struct s) ?_ ?_
    · rw [hasBalancedParts, hmethods]
      rfl
    · rw [supplied, hmethods]
      rfl

/-- A group that is printed as constants first.  The second statement of a value lacks an argument,
and there are dollar signs in a name and in a comment. -/
def misfilledGroup : Declaration :=
  .group { members := [
    { name := "price$T"
      type := .pointer (.declared "Money")
      value := { statements := [
        { template := "lookup($L,", args := [.literal "$"], after := 1 },
        { template := "$L" },
        { template := ")", before := -1 }] } },
    { name := "limit"
      type := .declared "Money"
      comment := ⟨"$L is the limit\nfor a day"⟩
      constant := true
      value := { statements := [{ template := "10" }] } }] }

theorem misfilledGroup_fails :
    Writer.renderBlock misfilledGroup.statements =
        .error (.statement 8 (.template "$L" (.missingArgument 0))) ∧
      ∃ k cause s, Error.statement 8 (.template "$L" (.missingArgument 0)) = .statement k cause ∧
        misfilledGroup.statements[k]?.bind Statement.renderError? = some cause ∧
        misfilledGroup.lines[k]?.bind Line.supplied? = some s ∧ s.renderError? ≠ none ∧
        ∀ j < k, ∀ s', misfilledGroup.lines[j]?.bind Line.supplied? = some s' →
          s'.renderError? = none := by
  have h : Writer.renderBlock misfilledGroup.statements =
      .error (.statement 8 (.template "$L" (.missingArgument 0))) := by decide +kernel
  exact ⟨h, (printed_unless_supplied_fails.2.1 misfilledGroup (by decide +kernel)).2 _ h⟩

end Declaration

end SourcePress
