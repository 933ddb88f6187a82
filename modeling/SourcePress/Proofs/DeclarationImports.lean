import SourcePress.Declaration.Basic
import SourcePress.Proofs.Collection

/-!
# The imports of declarations

A declaration says twice what it refers to.  Its statements have references among their arguments,
and its imports are collected by a separate traversal of its parts: in another order, and for a
method, a value or an attached block through the imports of that part.  This file shows that the two
name the same packages (`imports_match_statements`).

The statements are taken apart first: for each kind of declaration, its references are listed in the
order in which they are printed.  Blank lines, comments and braces have none.  What remains is to
see that the imports are those of the same references, and for this only membership matters, since
the order differs.  A signature is the exception: its imports are collected in the order of its
text, so they are the same set, names included.

Imports that were added to a fragment by hand are the only ones that no reference accounts for.
-/

namespace SourcePress

/-! ## Paths of collected imports -/

namespace ImportSet

/-- The paths collected from references are those that some reference needs. -/
theorem mem_paths_ofRefs {refs : List TypeRef} {path : String} :
    path ∈ (ofRefs refs).paths ↔ ∃ t ∈ refs, path ∈ t.imports.paths := by
  rw [ofRefs_eq_ofList, mem_paths_ofList]
  simp only [List.mem_flatMap, mem_paths_iff]
  constructor
  · rintro ⟨i, ⟨t, ht, hi⟩, hpath⟩
    exact ⟨t, ht, i, hi, hpath⟩
  · rintro ⟨t, ht, i, hi, hpath⟩
    exact ⟨i, ⟨t, ht, hi⟩, hpath⟩

theorem mem_paths_ofRefs_append {xs ys : List TypeRef} {path : String} :
    path ∈ (ofRefs (xs ++ ys)).paths ↔ path ∈ (ofRefs xs).paths ∨ path ∈ (ofRefs ys).paths := by
  rw [mem_paths_ofRefs, mem_paths_ofRefs, mem_paths_ofRefs, ← exists_or]
  simp only [List.mem_append, or_and_right]

theorem mem_paths_ofRefs_singleton {t : TypeRef} {path : String} :
    path ∈ (ofRefs [t]).paths ↔ path ∈ t.imports.paths := by
  rw [mem_paths_ofRefs]
  simp

theorem mem_paths_ofRefs_flatMap {α : Type} {xs : List α} {f : α → List TypeRef} {path : String} :
    path ∈ (ofRefs (xs.flatMap f)).paths ↔ ∃ x ∈ xs, path ∈ (ofRefs (f x)).paths := by
  simp only [mem_paths_ofRefs, List.mem_flatMap]
  constructor
  · rintro ⟨t, ⟨x, hx, ht⟩, hpath⟩
    exact ⟨x, hx, t, ht, hpath⟩
  · rintro ⟨x, hx, t, ht, hpath⟩
    exact ⟨t, ⟨x, hx, ht⟩, hpath⟩

theorem mem_paths_attach_map {α : Type} {parent : ImportSet} {xs : List α} {f : α → ImportSet}
    {path : String} :
    path ∈ (parent.attach (xs.map f)).paths ↔
      path ∈ parent.paths ∨ ∃ x ∈ xs, path ∈ (f x).paths := by
  induction xs generalizing parent with
  | nil => simp [attach]
  | cons x rest ih =>
    show path ∈ ((parent.merge (f x)).attach (rest.map f)).paths ↔ _
    rw [ih, mem_paths_merge, or_assoc]
    simp

end ImportSet

/-! ## References of statements -/

namespace Statement

@[simp] theorem refs_append (s t : Statement) : (s ++ t).refs = s.refs ++ t.refs :=
  List.filterMap_append

theorem flatMap_refs_attachOne (statements block : List Statement) :
    (attachOne statements block).flatMap refs = statements.flatMap refs ++ block.flatMap refs := by
  by_cases hs : statements = []
  · rw [hs, nil_attachOne]
    rfl
  · by_cases hb : block = []
    · rw [hb, attachOne_nil, List.flatMap_nil, List.append_nil]
    · rw [attachOne_of_ne_nil hs hb, List.flatMap_append, List.flatMap_cons]
      rfl

/-- The blank lines between attached blocks refer to nothing. -/
theorem flatMap_refs_attach (parent : List Statement) (blocks : List (List Statement)) :
    (attach parent blocks).flatMap refs =
      parent.flatMap refs ++ blocks.flatMap fun block => block.flatMap refs := by
  induction blocks generalizing parent with
  | nil => simp [attach]
  | cons block rest ih =>
    show (attach (attachOne parent block) rest).flatMap refs = _
    rw [ih, flatMap_refs_attachOne, List.flatMap_cons, List.append_assoc]

end Statement

theorem Comment.flatMap_refs_statements (c : Comment) :
    c.statements.flatMap Statement.refs = [] :=
  List.flatMap_eq_nil_iff.mpr fun _ hs => refs_of_mem_statements hs

namespace Parameter

theorem refs_statement (p : Parameter) : p.statement.refs = [p.type] := by
  unfold statement
  split <;> split <;> rfl

theorem refs_listing : ∀ ps : List Parameter, (listing ps).refs = ps.map Parameter.type
  | [] => rfl
  | [p] => refs_statement p
  | p :: q :: rest => by
    have ih := refs_listing (q :: rest)
    show (p.statement ++ { template := ", " } ++ listing (q :: rest)).refs = _
    rw [Statement.refs_append, Statement.refs_append, refs_statement, ih]
    rfl

end Parameter

namespace Func

theorem refs_resultPart (results : List Parameter) :
    (resultPart results).refs = results.map Parameter.type := by
  match results with
  | [] => rfl
  | [only] =>
    rw [resultPart]
    split
    · rw [Statement.refs_append, Parameter.refs_statement]
      rfl
    · rw [Statement.refs_append, Statement.refs_append, Parameter.refs_statement]
      rfl
  | p :: q :: rest =>
    show ({ template := " (" } ++ Parameter.listing (p :: q :: rest)
      ++ { template := ")" } : Statement).refs = _
    rw [Statement.refs_append, Statement.refs_append, Parameter.refs_listing]
    exact List.append_nil _

/-- The references of a signature are the types of its parameters and results, in order. -/
theorem refs_signature (f : Func) :
    f.signature.refs = (f.params ++ f.results).map Parameter.type := by
  rw [signature, Statement.refs_append, Statement.refs_append, Statement.refs_append,
    Parameter.refs_listing, refs_resultPart, List.map_append]
  show [] ++ f.params.map Parameter.type ++ [] ++ _ = _
  rw [List.nil_append, List.append_nil]

/-- The imports of a signature are collected from its references in their order. -/
theorem signatureImports_eq_ofRefs (f : Func) :
    f.signatureImports = ImportSet.ofRefs f.signature.refs := by
  rw [refs_signature, ImportSet.ofRefs_eq_ofList, List.flatMap_map]
  rfl

theorem flatMap_refs_declaration (f : Func) (header : Statement) :
    (f.declaration header).flatMap Statement.refs =
      header.refs ++ f.signature.refs ++ f.body.flatMap Statement.refs := by
  rw [declaration, List.flatMap_append, List.flatMap_append, List.flatMap_cons,
    Comment.flatMap_refs_statements, Statement.refs_append, Statement.refs_append]
  show [] ++ (header.refs ++ f.signature.refs ++ [] ++ f.body.flatMap Statement.refs) ++ [] = _
  rw [List.nil_append, List.append_nil, List.append_nil]

/-- The declaration of a function needs what its header needs, and the imports of the function. -/
theorem mem_paths_declaration {f : Func} {header : Statement} {path : String} :
    path ∈ (ImportSet.ofStatements (f.declaration header)).paths ↔
      path ∈ (ImportSet.ofRefs header.refs).paths ∨ path ∈ f.imports.paths := by
  rw [ImportSet.ofStatements, flatMap_refs_declaration, ImportSet.mem_paths_ofRefs_append,
    ImportSet.mem_paths_ofRefs_append, imports, ImportSet.mem_paths_merge,
    signatureImports_eq_ofRefs, or_assoc, ImportSet.ofStatements]
  exact or_congr_right or_comm

end Func

theorem Func.mem_paths_imports {f : Func} {path : String} :
    path ∈ f.imports.paths ↔ path ∈ (ImportSet.ofStatements f.statements).paths := by
  have hheader : path ∉ (ImportSet.ofRefs ({ template := "func " } : Statement).refs).paths :=
    List.not_mem_nil
  rw [Func.statements, Func.mem_paths_declaration, or_iff_right hheader]

theorem Method.mem_paths_imports {m : Method} {path : String} :
    path ∈ m.imports.paths ↔ path ∈ (ImportSet.ofStatements m.statements).paths := by
  have hheader : m.header.refs = [m.receiver] := rfl
  rw [Method.statements, Func.mem_paths_declaration, hheader, ImportSet.mem_paths_ofRefs_singleton,
    Method.imports, ImportSet.mem_paths_merge]

/-! ## Types -/

theorem Field.refs_statement (f : Field) : f.statement.refs = [f.type] := by
  unfold Field.statement
  split <;> split <;> rfl

namespace Struct

theorem flatMap_refs_declaration (s : Struct) :
    s.declaration.flatMap Statement.refs = s.fields.map Field.type := by
  rw [declaration, List.flatMap_append, Comment.flatMap_refs_statements, List.nil_append]
  cases s.fields with
  | nil => rfl
  | cons field rest =>
    have hfields (fields : List Field) :
        (fields.map Field.statement).flatMap Statement.refs = fields.map Field.type := by
      simp only [List.flatMap_map, Field.refs_statement]
      exact List.map_eq_flatMap.symm
    show ([] ++ ((field :: rest).map Field.statement
      ++ [Statement.closing "\x7d"]).flatMap Statement.refs) = _
    rw [List.flatMap_append, hfields]
    exact List.append_nil _

/-- The types of the fields come first, then the references of the methods. -/
theorem flatMap_refs_statements (s : Struct) :
    s.statements.flatMap Statement.refs =
      s.fields.map Field.type ++
        s.methods.flatMap fun m => m.statements.flatMap Statement.refs := by
  rw [statements, Statement.flatMap_refs_attach, flatMap_refs_declaration, List.flatMap_map]

theorem mem_paths_imports {s : Struct} {path : String} :
    path ∈ s.imports.paths ↔ path ∈ (ImportSet.ofStatements s.statements).paths := by
  have hfields : ImportSet.ofList (s.fields.flatMap fun f => f.type.imports.toList) =
      ImportSet.ofRefs (s.fields.map Field.type) := by
    rw [ImportSet.ofRefs_eq_ofList, List.flatMap_map]
  rw [imports, ImportSet.mem_paths_attach_map, hfields, ImportSet.ofStatements,
    flatMap_refs_statements, ImportSet.mem_paths_ofRefs_append, ImportSet.mem_paths_ofRefs_flatMap]
  simp only [Method.mem_paths_imports, ImportSet.ofStatements]

end Struct

namespace Interface

/-- The lines of an interface refer to what it embeds and to the types of its signatures. -/
theorem flatMap_refs_members (i : Interface) :
    i.members.flatMap Statement.refs =
      i.embedded ++ i.methods.flatMap fun m => m.signature.refs := by
  have hembedded (ts : List TypeRef) :
      (ts.map fun t => ({ template := "$T", args := [.type t] } : Statement)).flatMap
        Statement.refs = ts := by
    induction ts with
    | nil => rfl
    | cons t rest ih =>
      rw [List.map_cons, List.flatMap_cons, ih]
      rfl
  rw [members, List.flatMap_append, hembedded, List.flatMap_assoc]
  simp [Comment.flatMap_refs_statements]

theorem flatMap_refs_statements (i : Interface) :
    i.statements.flatMap Statement.refs = i.members.flatMap Statement.refs := by
  rw [statements, List.flatMap_append, Comment.flatMap_refs_statements, List.nil_append]
  split
  next hembedded hmethods =>
    -- without members there is one line, and it has no references
    rw [members, hembedded, hmethods]
    rfl
  next =>
    show [] ++ (i.members ++ [Statement.closing "\x7d"]).flatMap Statement.refs = _
    rw [List.flatMap_append]
    exact List.append_nil _

theorem mem_paths_imports {i : Interface} {path : String} :
    path ∈ i.imports.paths ↔ path ∈ (ImportSet.ofStatements i.statements).paths := by
  rw [imports, ImportSet.mem_paths_attach_map, ← ImportSet.ofRefs_eq_ofList, ImportSet.ofStatements,
    flatMap_refs_statements, flatMap_refs_members, ImportSet.mem_paths_ofRefs_append,
    ImportSet.mem_paths_ofRefs_flatMap]
  simp only [Func.signatureImports_eq_ofRefs]

/-- The interface with empty bodies. -/
def withoutBodies (i : Interface) : Interface :=
  { i with methods := i.methods.map fun m => { m with body := [] } }

theorem imports_withoutBodies (i : Interface) : i.withoutBodies.imports = i.imports := by
  rw [imports, imports, withoutBodies, List.map_map]
  rfl

end Interface

theorem Definition.mem_paths_imports {d : Definition} {path : String} :
    path ∈ d.imports.paths ↔ path ∈ (ImportSet.ofStatements d.statements).paths := by
  rw [ImportSet.ofStatements, Definition.statements, List.flatMap_append,
    Comment.flatMap_refs_statements]
  exact ImportSet.mem_paths_ofRefs_singleton.symm

/-! ## Fragments and bindings -/

theorem Fragment.mem_paths_imports {f : Fragment} {path : String} :
    path ∈ f.imports.paths ↔
      path ∈ (ImportSet.ofStatements f.statements).paths ∨ path ∈ f.added.paths :=
  ImportSet.mem_paths_merge

namespace Variable

/-- The type of a variable comes before its value, which may begin on the same line. -/
theorem flatMap_refs_statements (v : Variable) :
    v.statements.flatMap Statement.refs =
      v.type :: v.value.statements.flatMap Statement.refs := by
  rw [statements, List.flatMap_append, Comment.flatMap_refs_statements, List.nil_append]
  cases v.value.statements with
  | nil => rfl
  | cons first rest =>
    show (v.header ++ { template := " = " } ++ first).refs ++ rest.flatMap Statement.refs = _
    rw [Statement.refs_append, Statement.refs_append]
    rfl

theorem mem_paths_imports {v : Variable} {path : String} :
    path ∈ v.imports.paths ↔
      path ∈ (ImportSet.ofStatements v.statements).paths ∨ path ∈ v.value.added.paths := by
  rw [imports, ImportSet.mem_paths_merge, Fragment.mem_paths_imports, ImportSet.ofStatements,
    ImportSet.ofStatements, flatMap_refs_statements, ← List.singleton_append,
    ImportSet.mem_paths_ofRefs_append, ImportSet.mem_paths_ofRefs_singleton, or_assoc]

end Variable

namespace Group

theorem flatMap_refs_sectionOf (keyword : String) (members : List Variable) :
    (sectionOf keyword members).flatMap Statement.refs =
      members.flatMap fun v => v.statements.flatMap Statement.refs := by
  cases members with
  | nil => rfl
  | cons v rest =>
    show [] ++ ((v :: rest).flatMap Variable.statements
      ++ [Statement.closing ")"]).flatMap Statement.refs = _
    rw [List.nil_append, List.flatMap_append, List.flatMap_assoc]
    exact List.append_nil _

/-- The two sections of a group together have the references of all members. -/
theorem mem_paths_ofStatements {g : Group} {path : String} :
    path ∈ (ImportSet.ofStatements g.statements).paths ↔
      ∃ v ∈ g.members, path ∈ (ImportSet.ofStatements v.statements).paths := by
  rw [ImportSet.ofStatements, statements, Statement.flatMap_refs_attachOne,
    flatMap_refs_sectionOf, flatMap_refs_sectionOf, ImportSet.mem_paths_ofRefs_append,
    ImportSet.mem_paths_ofRefs_flatMap, ImportSet.mem_paths_ofRefs_flatMap]
  constructor
  · rintro (⟨v, hv, hpath⟩ | ⟨v, hv, hpath⟩)
    · exact ⟨v, (List.mem_filter.mp hv).1, hpath⟩
    · exact ⟨v, (List.mem_filter.mp hv).1, hpath⟩
  · rintro ⟨v, hv, hpath⟩
    cases hconstant : v.constant with
    | true => exact Or.inl ⟨v, List.mem_filter.mpr ⟨hv, hconstant⟩, hpath⟩
    | false => exact Or.inr ⟨v, List.mem_filter.mpr ⟨hv, by rw [hconstant]; rfl⟩, hpath⟩

theorem mem_paths_imports {g : Group} {path : String} :
    path ∈ g.imports.paths ↔
      path ∈ (ImportSet.ofStatements g.statements).paths ∨
        ∃ v ∈ g.members, path ∈ v.value.added.paths := by
  have hempty : path ∉ ImportSet.empty.paths := List.not_mem_nil
  rw [imports, ImportSet.mem_paths_attach_map, or_iff_right hempty, mem_paths_ofStatements,
    ← exists_or]
  simp only [Variable.mem_paths_imports, and_or_left]

end Group

/-! ## All declarations -/

namespace Declaration

/-- The paths of the imports that were added by hand, in the declaration itself or in the values of
its variables. -/
def addedPaths : Declaration → List String
  | .fragment f => f.added.paths
  | .binding v => v.value.added.paths
  | .group g => g.members.flatMap fun v => v.value.added.paths
  | _ => []

/-- **The imports of a declaration are what its statements need**, and what was added by hand; each
path once.  The imports of a signature are those collected from its one statement, in the same order
and under the same names.  The bodies of the methods of an interface, which are not printed, need
nothing. -/
theorem imports_match_statements :
    (∀ d : Declaration, d.imports.paths.Nodup ∧ ∀ path, path ∈ d.imports.paths ↔
        path ∈ (ImportSet.ofStatements d.statements).paths ∨ path ∈ d.addedPaths) ∧
      (∀ f : Func, f.signatureImports = ImportSet.ofStatements [f.signature]) ∧
      ∀ i : Interface, i.withoutBodies.imports = i.imports := by
  refine ⟨fun d => ⟨d.imports.nodup, fun path => ?_⟩, fun f => ?_, Interface.imports_withoutBodies⟩
  · cases d with
    | fragment f => exact Fragment.mem_paths_imports
    | comment c =>
      show path ∈ [] ↔ path ∈ (ImportSet.ofStatements c.statements).paths ∨ path ∈ []
      rw [ImportSet.ofStatements, Comment.flatMap_refs_statements]
      exact (or_self_iff).symm
    | func f => exact Func.mem_paths_imports.trans (or_iff_left List.not_mem_nil).symm
    | method m => exact Method.mem_paths_imports.trans (or_iff_left List.not_mem_nil).symm
    | struct s => exact Struct.mem_paths_imports.trans (or_iff_left List.not_mem_nil).symm
    | interface i => exact Interface.mem_paths_imports.trans (or_iff_left List.not_mem_nil).symm
    | definition d => exact Definition.mem_paths_imports.trans (or_iff_left List.not_mem_nil).symm
    | binding v => exact Variable.mem_paths_imports
    | group g => exact Group.mem_paths_imports.trans (or_congr_right List.mem_flatMap.symm)
  · rw [Func.signatureImports_eq_ofRefs, ImportSet.ofStatements, List.flatMap_singleton]

end Declaration

end SourcePress
